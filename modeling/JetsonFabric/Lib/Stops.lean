import JetsonFabric.Lib.Transition

/-!
# Computations that may stop early

A computation on a state that returns a value or stops with an `ε`. What it did to the state before
it stopped stays done, as with exceptions in a language with mutable state.
-/

/-- On a state `σ`: returns an `α` or stops with an `ε`. -/
def Stops (ε σ α : Type) : Type := σ → Except ε α × σ

namespace Stops

variable {ε ε' σ τ α β : Type}

instance : Monad (Stops ε σ) where
  pure a := fun s => (.ok a, s)
  bind x f := fun s =>
    match x s with
    | (.ok a, t) => f a t
    | (.error e, t) => (.error e, t)

theorem bind_apply (x : Stops ε σ α) (f : α → Stops ε σ β) (s : σ) :
    (x >>= f) s =
      match x s with
      | (.ok a, t) => f a t
      | (.error e, t) => (.error e, t) := rfl

theorem pure_apply (a : α) (s : σ) : (pure a : Stops ε σ α) s = (.ok a, s) := rfl

theorem bind_pure' (x : Stops ε σ α) : x >>= pure = x := by
  funext s
  rw [bind_apply]
  rcases x s with ⟨r | a, t⟩ <;> rfl

theorem bind_bind' {γ : Type} (x : Stops ε σ α) (f : α → Stops ε σ β) (g : β → Stops ε σ γ) :
    x >>= f >>= g = x >>= fun a => f a >>= g := by
  funext s
  rw [bind_apply, bind_apply, bind_apply]
  rcases x s with ⟨r | a, t⟩ <;> rfl

instance : LawfulMonad (Stops ε σ) := .mk' _ bind_pure' (fun _ _ => rfl) bind_bind'

theorem map_apply (f : α → β) (x : Stops ε σ α) (s : σ) :
    (f <$> x) s = ((x s).1.map f, (x s).2) := by
  rw [map_eq_pure_bind, bind_apply]
  rcases x s with ⟨r | a, t⟩ <;> rfl

/-- Stop here. -/
def stop (e : ε) : Stops ε σ α := fun s => (.error e, s)

/-- Stop if a condition holds. -/
def stopIf (bad : Prop) [Decidable bad] (e : ε) : Stops ε σ Unit :=
  if bad then stop e else pure ()

/-- The value of a computation without a state. -/
def ofExcept (x : Except ε α) : Stops ε σ α := fun s => (x, s)

/-- A computation whose stops are translated. -/
def mapStop (f : ε → ε') (x : Stops ε σ α) : Stops ε' σ α := fun s => ((x s).1.mapError f, (x s).2)

/-- A computation on the second part of a state. -/
def onSecond (x : Stops ε σ α) : Stops ε (τ × σ) α := fun s =>
  ((x s.2).1, (s.1, (x s.2).2))

/-- The first part of a state. -/
def getFirst : Stops ε (τ × σ) τ := fun s => (.ok s.1, s)

/-- Replace the first part of a state. -/
def setFirst (t : τ) : Stops ε (τ × σ) Unit := fun s => (.ok (), (t, s.2))

/-! ## Specifications -/

variable {x : Stops ε σ α}

/-- What the computation leaves when it starts in `s`. -/
def Spec (x : Stops ε σ α) (s : σ) (Q : Except ε α → σ → Prop) : Prop := Q (x s).1 (x s).2

theorem Spec.imp {s : σ} {Q Q' : Except ε α → σ → Prop} (h : x.Spec s Q)
    (hq : ∀ r t, Q r t → Q' r t) : x.Spec s Q' := hq _ _ h

theorem spec_pure {a : α} {s : σ} {Q : Except ε α → σ → Prop} (h : Q (.ok a) s) :
    (pure a : Stops ε σ α).Spec s Q := h

theorem spec_stop {e : ε} {s : σ} {Q : Except ε α → σ → Prop} (h : Q (.error e) s) :
    (stop e : Stops ε σ α).Spec s Q := h

section Bind

variable {s : σ} {f : α → Stops ε σ β} {Q : Except ε β → σ → Prop}

/-- The rule of sequences. -/
theorem spec_bind {R : α → σ → Prop} (hx : x.Spec s fun r t =>
      match r with
      | .ok a => R a t
      | .error e => Q (.error e) t)
    (hf : ∀ a t, R a t → (f a).Spec t Q) : (x >>= f).Spec s Q := by
  unfold Spec at hx ⊢
  rw [bind_apply]
  rcases hxs : x s with ⟨r | a, t⟩ <;> rw [hxs] at hx
  · exact hx
  · exact hf a t hx

/-- A first part of which nothing is known. -/
theorem spec_bind_any (hstop : ∀ e t, Q (.error e) t)
    (hf : ∀ a t, (f a).Spec t Q) : (x >>= f).Spec s Q := by
  refine spec_bind (R := fun _ _ => True) ?_ fun a t _ => hf a t
  unfold Spec
  rcases x s with ⟨r | a, t⟩
  · exact hstop r t
  · trivial

theorem spec_bind_mapStop {x : Stops ε' σ α} {g : ε' → ε} (hstop : ∀ e t, Q (.error (g e)) t)
    (hf : ∀ a t, (f a).Spec t Q) : (x.mapStop g >>= f).Spec s Q := by
  refine spec_bind (R := fun _ _ => True) ?_ fun a t _ => hf a t
  unfold Spec mapStop
  rcases x s with ⟨e | a, t⟩
  · exact hstop e t
  · trivial

theorem spec_bind_ofExcept {x : Except ε α} (hstop : ∀ e, x = .error e → Q (.error e) s)
    (hf : ∀ a, x = .ok a → (f a).Spec s Q) : (ofExcept x >>= f).Spec s Q := by
  cases x with
  | error e => exact hstop e rfl
  | ok a => exact hf a rfl

theorem spec_bind_stopIf {bad : Prop} [Decidable bad] {e : ε} {g : Unit → Stops ε σ β}
    (hbad : bad → Q (.error e) s) (hgood : ¬ bad → (g ()).Spec s Q) :
    (stopIf bad e >>= g).Spec s Q := by
  unfold stopIf
  split
  · exact hbad ‹_›
  · exact hgood ‹_›

end Bind

section Pairs

variable {s : τ × σ} {Q : Except ε β → τ × σ → Prop}

theorem spec_bind_getFirst {f : τ → Stops ε (τ × σ) β} (h : (f s.1).Spec s Q) :
    (getFirst >>= f).Spec s Q := h

theorem spec_bind_setFirst {t : τ} {f : Unit → Stops ε (τ × σ) β} (h : (f ()).Spec (t, s.2) Q) :
    (setFirst t >>= f).Spec s Q := h

theorem spec_bind_second {f : α → Stops ε (τ × σ) β} {R : α → σ → Prop} (hx : x.Spec s.2 fun r u =>
      match r with
      | .ok a => R a u
      | .error e => Q (.error e) (s.1, u))
    (hf : ∀ a u, R a u → (f a).Spec (s.1, u) Q) : (onSecond x >>= f).Spec s Q := by
  unfold Spec at hx ⊢
  rw [bind_apply]
  unfold onSecond
  rcases hxs : x s.2 with ⟨r | a, u⟩ <;> rw [hxs] at hx
  · exact hx
  · exact hf a u hx

/-- A computation on the second part leaves the first part alone. -/
theorem spec_bind_onSecond {f : α → Stops ε (τ × σ) β} {R : α → Prop}
    (hx : x.Spec s.2 fun r _ => ∀ a, r = .ok a → R a) (hstop : ∀ e u, Q (.error e) (s.1, u))
    (hf : ∀ a u, R a → (f a).Spec (s.1, u) Q) : (onSecond x >>= f).Spec s Q := by
  refine spec_bind_second (R := fun a _ => R a) (hx.imp ?_) hf
  rintro (e | a) u h
  · exact hstop e u
  · exact h a rfl

end Pairs

/-! ## Computations that do not show their state -/

/-- From `P` it ends as `y` does and stays in `P`. -/
def Follows (P : σ → Prop) (x : Stops ε σ α) (y : Stops ε Unit α) : Prop :=
  ∀ s, P s → (x s).1 = (y ()).1 ∧ P (x s).2

section Follows

variable {P : σ → Prop}

theorem follows_pure (a : α) : Follows P (pure a : Stops ε σ α) (pure a) := fun _ h => ⟨rfl, h⟩

theorem follows_stop (e : ε) : Follows P (stop e : Stops ε σ α) (stop e) := fun _ h => ⟨rfl, h⟩

theorem Follows.mapStop {y : Stops ε Unit α} (h : Follows P x y) (f : ε → ε') :
    Follows P (x.mapStop f) (y.mapStop f) := fun s hs =>
  ⟨congrArg (Except.mapError f) (h s hs).1, (h s hs).2⟩

theorem Follows.bind {y : Stops ε Unit α} {f : α → Stops ε σ β}
    {g : α → Stops ε Unit β} (hx : Follows P x y) (hf : ∀ a, Follows P (f a) (g a)) :
    Follows P (x >>= f) (y >>= g) := by
  intro s hs
  obtain ⟨hend, hP⟩ := hx s hs
  rw [bind_apply, bind_apply]
  rcases hxs : x s with ⟨e | a, t⟩ <;> rcases hyu : y () with ⟨e' | a', u⟩ <;>
    rw [hxs, hyu] at hend <;> rw [hxs] at hP <;> cases hend
  · exact ⟨rfl, hP⟩
  · exact hf a t hP

end Follows

/-! ## Runs -/

/-- The effect on the state, seen through `embed`, is that of a run. -/
def RunsIn {ω A : Type} (M : LTS ω A) (embed : σ → ω) (x : Stops ε σ α) : Prop :=
  ∀ s, ∃ as, M.Run (embed s) as (embed (x s).2)

section RunsIn

variable {ω A : Type} {M : LTS ω A} {embed : σ → ω}

theorem runsIn_pure (a : α) : RunsIn M embed (pure a : Stops ε σ α) := fun _ => ⟨[], .nil _⟩

theorem RunsIn.bind {f : α → Stops ε σ β} (hx : RunsIn M embed x)
    (hf : ∀ a, RunsIn M embed (f a)) : RunsIn M embed (x >>= f) := by
  intro s
  obtain ⟨as, hrun⟩ := hx s
  rw [bind_apply]
  rcases hxs : x s with ⟨r | a, t⟩ <;> rw [hxs] at hrun
  · exact ⟨as, hrun⟩
  · obtain ⟨bs, hrest⟩ := hf a t
    exact ⟨as ++ bs, hrun.append hrest⟩

theorem RunsIn.mapM {f : β → Stops ε σ α} (hf : ∀ b, RunsIn M embed (f b)) (items : List β) :
    RunsIn M embed (items.mapM f) := by
  induction items with
  | nil => exact runsIn_pure []
  | cons item items ih =>
    rw [List.mapM_cons]
    exact (hf item).bind fun _ => ih.bind fun _ => runsIn_pure _

end RunsIn

end Stops
