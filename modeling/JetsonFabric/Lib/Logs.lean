import JetsonFabric.Lib.Stops

/-!
# Computations that log what they are answered

The environment of a computation answers its calls, and the state keeps the answers, the newest at
the end.
-/

namespace Stops

variable {ε ε' σ τ α β A : Type}

/-- The call adds the entry of its answer to the log. -/
def Records (log : σ → List A) (entry : Except ε α → List A) (x : Stops ε σ α) : Prop :=
  ∀ s, log (x s).2 = log s ++ entry (x s).1

/-- A call with a log beside its state. -/
def record (entry : Except ε α → List A) (x : Stops ε σ α) : Stops ε (σ × List A) α := fun s =>
  ((x s.1).1, (x s.1).2, s.2 ++ entry (x s.1).1)

/-- The entry of a call: its answer, or that it stopped. -/
def answered (stopped : A) (answer : α → A) : Except ε α → List A
  | .ok a => [answer a]
  | .error _ => [stopped]

/-- What is left from `s` on, with what is added to the log. -/
def Adds (log : σ → List A) (x : Stops ε σ α) (s : σ) (Q : Except ε α → σ → List A → Prop) : Prop :=
  ∃ new, log (x s).2 = log s ++ new ∧ Q (x s).1 (x s).2 new

variable {log : σ → List A} {x : Stops ε σ α} {s : σ} {Q Q' : Except ε α → σ → List A → Prop}

theorem Adds.imp (h : x.Adds log s Q) (hq : ∀ r t new, Q r t new → Q' r t new) :
    x.Adds log s Q' := by
  obtain ⟨new, hlog, hnew⟩ := h
  exact ⟨new, hlog, hq _ _ _ hnew⟩

theorem Adds.and (h : x.Adds log s Q) (h' : x.Adds log s Q') :
    x.Adds log s fun r t new => Q r t new ∧ Q' r t new := by
  obtain ⟨new, hlog, hnew⟩ := h
  obtain ⟨new', hlog', hnew'⟩ := h'
  cases List.append_cancel_left (hlog.symm.trans hlog')
  exact ⟨new, hlog, hnew, hnew'⟩

/-- What is added is what the log has more. -/
theorem Adds.drop (h : x.Adds log s Q) :
    Q (x s).1 (x s).2 ((log (x s).2).drop (log s).length) := by
  obtain ⟨new, hlog, hnew⟩ := h
  rwa [hlog, List.drop_left]

theorem adds_pure {a : α} (h : Q (.ok a) s []) : (pure a : Stops ε σ α).Adds log s Q :=
  ⟨[], (List.append_nil _).symm, h⟩

theorem adds_stop {e : ε} (h : Q (.error e) s []) : (stop e : Stops ε σ α).Adds log s Q :=
  ⟨[], (List.append_nil _).symm, h⟩

theorem Records.adds {entry : Except ε α → List A} (hx : Records log entry x)
    (h : ∀ r t, Q r t (entry r)) : x.Adds log s Q :=
  ⟨_, hx s, h _ _⟩

section Bind

variable {f : α → Stops ε σ β} {Q : Except ε β → σ → List A → Prop}

/-- The rule of sequences. -/
theorem adds_bind {R : α → σ → List A → Prop} (hx : x.Adds log s fun r t new =>
      match r with
      | .ok a => R a t new
      | .error e => Q (.error e) t new)
    (hf : ∀ a t new, R a t new → (f a).Adds log t fun r u more => Q r u (new ++ more)) :
    (x >>= f).Adds log s Q := by
  obtain ⟨new, hlog, hnew⟩ := hx
  unfold Adds
  rw [bind_apply]
  rcases hxs : x s with ⟨r | a, t⟩ <;> rw [hxs] at hlog hnew
  · exact ⟨new, hlog, hnew⟩
  · obtain ⟨more, hmore, hq⟩ := hf a t new hnew
    refine ⟨new ++ more, ?_, hq⟩
    rw [hmore, hlog, List.append_assoc]

theorem adds_bind_ofExcept {x : Except ε α} (hstop : ∀ e, x = .error e → Q (.error e) s [])
    (hf : ∀ a, x = .ok a → (f a).Adds log s Q) : (ofExcept x >>= f).Adds log s Q := by
  cases x with
  | error e => exact ⟨[], (List.append_nil _).symm, hstop e rfl⟩
  | ok a => exact hf a rfl

theorem adds_bind_stopIf {bad : Prop} [Decidable bad] {e : ε} {g : Unit → Stops ε σ β}
    (hbad : bad → Q (.error e) s []) (hgood : ¬ bad → (g ()).Adds log s Q) :
    (stopIf bad e >>= g).Adds log s Q := by
  unfold stopIf
  split
  · exact ⟨[], (List.append_nil _).symm, hbad ‹_›⟩
  · exact hgood ‹_›

end Bind

theorem adds_mapStop {g : ε → ε'} {Q : Except ε' α → σ → List A → Prop}
    (h : x.Adds log s fun r t new => Q (r.mapError g) t new) : (x.mapStop g).Adds log s Q := h

section Pairs

variable {s : τ × σ}

theorem adds_onSecond {Q : Except ε α → τ × σ → List A → Prop}
    (h : x.Adds log s.2 fun r u new => Q r (s.1, u) new) :
    (onSecond x).Adds (fun s => log s.2) s Q := h

theorem adds_bind_getFirst {f : τ → Stops ε (τ × σ) β} {log : τ × σ → List A}
    {Q : Except ε β → τ × σ → List A → Prop} (h : (f s.1).Adds log s Q) :
    (getFirst >>= f).Adds log s Q := h

theorem adds_bind_setFirst {t : τ} {f : Unit → Stops ε (τ × σ) β}
    {Q : Except ε β → τ × σ → List A → Prop} (h : (f ()).Adds (fun s => log s.2) (t, s.2) Q) :
    (setFirst t >>= f).Adds (fun s => log s.2) s Q := h

end Pairs

end Stops
