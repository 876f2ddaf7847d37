import JetsonFabric.Adapters.NativeStage
import JetsonFabric.Engines.SessionSpecs

/-!
# The counters of the native executor

The executor counts the decode step that it expects, the engine below it the position in the cache.
Each checks its own counter, and calls of the engine may throw between the two updates.

* `Balanced`, **`native_counters_agree`**: the two counters agree in every state, and the engine
  accepts each rollback that the executor accepts.
-/

namespace JetsonFabric

open Stops

variable {κ : Type} {config : NativeStageConfig} {library : NativeLibrary κ}

/-! ## A decode -/

variable {state : NativeSessionState} {input : StageInput}

variable (config library) in
/-- The pass of the engine moves the session by one, or not at all. -/
theorem nativeDecodePass_spec (input : StageInput) (state : NativeSessionState) (k : κ) :
    (nativeDecodePass config library input).Spec (state, k) fun r s =>
      s.1.expectedDecodeStep = state.expectedDecodeStep ∧
      match r with
      | .ok _ => state.session.position < state.session.capacity ∧
        ∃ kept : Qwen2Session, kept.SamePlace state.session ∧ s.1.session = kept.advanced
      | .error _ => s.1.session.SamePlace state.session := by
  have hsession : ∀ (x : Stops Thrown (Qwen2Session × κ) StageResult) (k : κ),
      (x.Spec (state.session, k) fun r s => Qwen2Session.DecodeEnd state.session r s.1) →
      (onSession x).Spec (state, k) fun r s =>
        s.1.expectedDecodeStep = state.expectedDecodeStep ∧
        match r with
        | .ok _ => state.session.position < state.session.capacity ∧
          ∃ kept : Qwen2Session, kept.SamePlace state.session ∧ s.1.session = kept.advanced
        | .error _ => s.1.session.SamePlace state.session := by
    intro x k hx
    unfold Spec onSession at *
    rcases hrun : x (state.session, k) with ⟨r, session, k'⟩
    rw [hrun] at hx
    cases hx with
    | moved hkept _ hroom => exact ⟨rfl, hroom, _, hkept, rfl⟩
    | failed hkept => exact ⟨rfl, hkept⟩
  have hrefl := Qwen2Session.SamePlace.refl state.session
  unfold nativeDecodePass
  split
  · refine spec_bind_onSecond (R := fun _ => True) (fun _ _ => trivial) (fun _ _ => ⟨rfl, hrefl⟩) ?_
    intro tokens k _
    split
    · exact hsession _ k (Qwen2Session.decodeStageToken_spec _ state.session k)
    · exact ⟨rfl, hrefl⟩
  · refine spec_bind_ofExcept (fun _ _ => ⟨rfl, hrefl⟩) fun activation _ => ?_
    refine spec_bind_stopIf (fun _ => ⟨rfl, hrefl⟩) fun _ => ?_
    exact hsession _ k (Qwen2Session.decodeStageActivation_spec activation state.session k)

theorem nativeDecode_eq (hstep : input.decodeStep = state.expectedDecodeStep) (k : κ) :
    nativeDecode config library input (state, k) =
      match nativeDecodePass config library input (state, k) with
      | (.ok result, t) =>
        ((nativeOutput config library result t.2).1,
          { t.1 with expectedDecodeStep := t.1.expectedDecodeStep + 1 },
          (nativeOutput config library result t.2).2)
      | (.error e, t) => (.error e, t) := by
  have hskip : ¬ input.decodeStep ≠ state.expectedDecodeStep := not_not_intro hstep
  unfold nativeDecode
  simp only [bind_apply, getFirst, stopIf, if_neg hskip, pure_apply]
  rcases nativeDecodePass config library input (state, k) with ⟨e | result, t⟩ <;> rfl

theorem nativeDecode_refused (hstep : input.decodeStep ≠ state.expectedDecodeStep) (k : κ) :
    (nativeDecode config library input (state, k)).2 = (state, k) := by
  unfold nativeDecode
  simp only [bind_apply, getFirst, stopIf, if_pos hstep]
  rfl

/-! ## A prefill -/

variable (config library) in
/-- The rows of the prompt of a prefill. -/
def promptLength (input : StageInput) (k : κ) : Nat :=
  match (nativePrefillInput config library input k).1 with
  | .ok (tokens, activation) =>
    if config.position.isFirst then tokens.length else activation.tokenCount
  | .error _ => 0

theorem promptLength_eq {k : κ} {a : List Int32 × ActivationView}
    (h : (nativePrefillInput config library input k).1 = .ok a) :
    promptLength config library input k =
      if config.position.isFirst then a.1.length else a.2.tokenCount := by
  unfold promptLength
  rw [h]

/-- The prefill that opened a session. -/
structure Opening where
  prompt : Nat
  maxTokens : Int

/-- The counters of a session agree. -/
structure Balanced (state : NativeSessionState) (opening : Opening) : Prop where
  prompt : state.session.prefillPosition = opening.prompt
  decodeStep : state.expectedDecodeStep = state.session.position - opening.prompt + 1
  started : opening.prompt ≤ state.session.position
  room : state.session.position ≤ state.session.capacity
  capacity : (state.session.capacity : Int) = opening.prompt + opening.maxTokens - 1

variable (config library) in
theorem runNativePrefill_spec (tokens : List Int32) (activation : ActivationView)
    (session : Qwen2Session) (k : κ) :
    (runNativePrefill config library tokens activation).Spec ({ session }, k) fun r s =>
      ∀ output, r = .ok output → s.1.expectedDecodeStep = 1 ∧
        session.Prefilled (if config.position.isFirst then tokens.length else activation.tokenCount)
          s.1.session := by
  have hsession : ∀ (n : Nat) (x : Stops Thrown (Qwen2Session × κ) StageResult),
      (x.Spec (session, k) fun r s => ∀ a, r = .ok a → session.Prefilled n s.1) →
      (onSession x).Spec ({ session }, k) fun r s =>
        ∀ a, r = .ok a → s.1.expectedDecodeStep = 1 ∧ session.Prefilled n s.1.session := by
    intro n x hx
    unfold Spec onSession at *
    rcases hrun : x (session, k) with ⟨thrown | a, kept, k'⟩ <;> rw [hrun] at hx
    · exact fun _ h => by cases h
    · exact fun _ _ => ⟨rfl, hx a rfl⟩
  unfold runNativePrefill
  refine spec_bind (R := fun _ s => s.1.expectedDecodeStep = 1 ∧
    session.Prefilled (if config.position.isFirst then tokens.length else activation.tokenCount)
      s.1.session) ?_ ?_
  · split
    · refine (hsession _ _
        (Qwen2Session.prefillStageTokens_prefilled tokens session k)).imp ?_
      rintro (e | a) s h
      · exact fun _ h => by cases h
      · exact h a rfl
    · refine (hsession _ _
        (Qwen2Session.prefillStageActivations_prefilled activation session k)).imp ?_
      rintro (e | a) s h
      · exact fun _ h => by cases h
      · exact h a rfl
  · rintro result ⟨state, k⟩ h
    generalize (if config.position.isFirst then tokens.length else activation.tokenCount) = n at h ⊢
    refine spec_bind_onSecond (R := fun _ => True) (fun _ _ => trivial) (fun _ _ _ h => by cases h) ?_
    intro output k _
    split
    · refine spec_bind_ofExcept (fun _ _ _ h => by cases h) fun ids _ => ?_
      exact fun _ _ => h
    · exact fun _ _ => h

theorem sessionCapacity_eq_ok {promptTokens capacity : Nat} {maxTokens : Int}
    (hpos : 0 < maxTokens) (h : sessionCapacity config promptTokens maxTokens = .ok capacity) :
    (capacity : Int) = promptTokens + maxTokens - 1 := by
  unfold sessionCapacity at h
  dsimp only at h
  split_ifs at h
  cases h
  omega

variable (config library) in
/-- **A prefill that returns opens a session whose counters agree.** -/
theorem nativePrefill_spec (input : StageInput) (hpos : 0 < input.maxTokens) (k : κ) :
    (nativePrefill config library input).Spec k fun r _ =>
      ∀ output state, r = .ok (output, state) →
        Balanced state ⟨promptLength config library input k, input.maxTokens⟩ := by
  unfold nativePrefill
  refine spec_bind (R := fun a _ => promptLength config library input k =
    if config.position.isFirst then a.1.length else a.2.tokenCount) ?_ ?_
  · unfold Spec
    cases hinput : (nativePrefillInput config library input k).1 with
    | error e => exact fun _ _ h => nomatch h
    | ok a => exact promptLength_eq hinput
  rintro ⟨tokens, activation⟩ k₁ hprompt
  rw [hprompt]
  refine spec_bind_ofExcept (fun _ _ _ _ h => by cases h) fun capacity hcapacity => ?_
  have hcapacity := sessionCapacity_eq_ok hpos (Checks.mapError_eq_ok hcapacity)
  refine spec_bind (R := fun session _ => session.capacity = capacity) ?_ ?_
  · unfold engineCall Spec mapStop
    have hspec := Qwen2Session.create_created config.params library capacity k₁
    unfold Spec at hspec
    rcases hcreate : Qwen2Session.create config.params library capacity k₁ with ⟨e | session, _⟩ <;>
      rw [hcreate] at hspec
    · exact fun _ _ h => by cases h
    · exact (hspec session rfl).capacity
  · rintro session k₂ hsession
    have hspec := runNativePrefill_spec config library tokens activation session k₂
    unfold Spec at hspec ⊢
    rcases hrun : runNativePrefill config library tokens activation ({ session }, k₂) with
      ⟨e | output, state, _⟩ <;> rw [hrun] at hspec
    · simp only [hrun]
      exact fun _ _ h => by cases h
    · obtain ⟨hstep, hprefilled⟩ := hspec output rfl
      simp only [hrun]
      rintro _ _ h
      cases h
      refine ⟨hprefilled.prefillPosition, ?_, hprefilled.position.ge, ?_, ?_⟩
      · rw [hstep, hprefilled.position, sub_self, zero_add]
      · rw [hprefilled.position, hprefilled.capacity]
        exact hprefilled.room
      · rw [hprefilled.capacity, hsession]
        exact hcapacity

/-! ## Runs -/

variable {opened : Bytes → Option Opening} {o : Opening} {sessions : NativeSessions}
  {s : NativeSessions × κ}

variable (config library) in
/-- What is known of the sessions after a call. -/
def openedAfter (s : NativeSessions × κ) (opened : Bytes → Option Opening) :
    NativeStep → Bytes → Option Opening
  | .execute input =>
    if input.phase = .prefill ∧ (executeNative config library input s).1.toBool = true then
      Function.update opened input.sessionId
        (some ⟨promptLength config library input s.2, input.maxTokens⟩)
    else opened
  | .close sessionId => Function.update opened sessionId none
  | .rollback _ _ => opened

variable (config library) in
/-- The executor, with the prefill that opened each session. -/
def nativeLedger : LTS ((NativeSessions × κ) × (Bytes → Option Opening)) NativeStep where
  init s := (nativeMachine config library).init s.1 ∧ s.2 = fun _ => none
  step s a t :=
    (nativeMachine config library).step s.1 a t.1 ∧ t.2 = openedAfter config library s.1 s.2 a

/-- The counters of all sessions agree. -/
def AllBalanced (sessions : NativeSessions) (opened : Bytes → Option Opening) : Prop :=
  ∀ id state, sessions.lookup id = some state → ∃ o, opened id = some o ∧ Balanced state o

theorem AllBalanced.insert (h : AllBalanced sessions opened) (id : Bytes)
    (hstate : Balanced state o) :
    AllBalanced (sessions.insert id state) (Function.update opened id (some o)) := by
  intro other found hfound
  by_cases heq : other = id
  · subst heq
    rw [AList.lookup_insert] at hfound
    cases hfound
    exact ⟨o, Function.update_self .., hstate⟩
  · rw [AList.lookup_insert_ne heq] at hfound
    rw [Function.update_of_ne heq]
    exact h other found hfound

theorem AllBalanced.move (h : AllBalanced sessions opened) {id : Bytes} {moved : NativeSessionState}
    (hstate : sessions.lookup id = some state) (hmoved : ∀ o, Balanced state o → Balanced moved o) :
    AllBalanced (sessions.insert id moved) opened := by
  obtain ⟨o, ho, hbalanced⟩ := h id state hstate
  have hinsert := h.insert id (hmoved o hbalanced)
  rwa [← ho, Function.update_eq_self] at hinsert

theorem AllBalanced.erase (h : AllBalanced sessions opened) (id : Bytes) :
    AllBalanced (sessions.erase id) (Function.update opened id none) := by
  intro other found hfound
  by_cases heq : other = id
  · subst heq
    rw [AList.lookup_erase] at hfound
    cases hfound
  · rw [AList.lookup_erase_ne heq] at hfound
    rw [Function.update_of_ne heq]
    exact h other found hfound

theorem Balanced.samePlace (h : Balanced state o)
    {session : Qwen2Session} (hsame : session.SamePlace state.session) :
    Balanced { state with session } o where
  prompt := hsame.prefillPosition.trans h.prompt
  decodeStep := by rw [hsame.position]; exact h.decodeStep
  started := by rw [hsame.position]; exact h.started
  room := by rw [hsame.position, hsame.capacity]; exact h.room
  capacity := by rw [hsame.capacity]; exact h.capacity

theorem Balanced.advanced (h : Balanced state o)
    (hroom : state.session.position < state.session.capacity) :
    Balanced { session := state.session.advanced
               expectedDecodeStep := state.expectedDecodeStep + 1 } o where
  prompt := h.prompt
  decodeStep := by
    have := h.decodeStep
    simp only [Qwen2Session.advanced]
    omega
  started := h.started.trans (Nat.le_succ _)
  room := hroom
  capacity := h.capacity

theorem balanced_nativeDecode (input : StageInput) (h : Balanced state o) (k : κ) :
    Balanced (nativeDecode config library input (state, k)).2.1 o := by
  by_cases hstep : input.decodeStep = state.expectedDecodeStep
  · have hspec := nativeDecodePass_spec config library input state k
    unfold Spec at hspec
    rw [nativeDecode_eq hstep]
    rcases hpass : nativeDecodePass config library input (state, k) with ⟨e | result, ⟨found, step⟩, _⟩ <;>
      rw [hpass] at hspec
    · obtain ⟨rfl, hsame⟩ := hspec
      exact h.samePlace hsame
    · obtain ⟨rfl, hroom, kept, hsame, rfl⟩ := hspec
      refine (h.samePlace hsame).advanced ?_
      rw [hsame.position, hsame.capacity]
      exact hroom
  · rwa [congrArg Prod.fst (nativeDecode_refused hstep k)]

theorem Balanced.rollback_eq (h : Balanced state o)
    {tokenCount : Int} (hpos : 0 < tokenCount) (hcount : tokenCount < state.expectedDecodeStep)
    (k : κ) :
    Qwen2Session.rollback tokenCount.toNat (state.session, k) =
      (.ok (), { state.session with position := state.session.position - tokenCount.toNat }, k) := by
  have hstep := h.decodeStep
  have hprompt := h.prompt
  have hgood : ¬ (tokenCount.toNat = 0 ∨
      tokenCount.toNat > state.session.position - state.session.prefillPosition) := by omega
  unfold Qwen2Session.rollback
  simp only [bind_apply, getFirst, stopIf, if_neg hgood, pure_apply, setFirst]

theorem Balanced.rolledBack (h : Balanced state o)
    {tokenCount : Int} (hpos : 0 < tokenCount) (hcount : tokenCount < state.expectedDecodeStep) :
    Balanced
      { session :=
          { state.session with position := state.session.position - tokenCount.toNat }
        expectedDecodeStep := state.expectedDecodeStep - tokenCount } o where
  prompt := h.prompt
  decodeStep := by
    have := h.decodeStep
    have := h.started
    dsimp only
    omega
  started := by
    have := h.decodeStep
    dsimp only
    omega
  room := (Nat.sub_le _ _).trans h.room
  capacity := h.capacity

theorem allBalanced_rollback (h : AllBalanced s.1 opened) (id : Bytes) (tokenCount : Int) :
    AllBalanced (rollbackNative id tokenCount s).2.1 opened := by
  unfold rollbackNative
  split
  · exact h
  next hpos =>
  rw [not_le] at hpos
  split
  · exact h
  · next state hstate =>
    split
    · exact h
    · next hcount =>
      rw [ge_iff_le, not_le] at hcount
      obtain ⟨o, -, hbalanced⟩ := h id state hstate
      rw [hbalanced.rollback_eq hpos hcount]
      exact h.move hstate fun _ hstate => hstate.rolledBack hpos hcount

theorem allBalanced_prefill (h : AllBalanced s.1 opened) (hpos : 0 < input.maxTokens)
    (hphase : input.phase = .prefill)
    (heq : executeNative config library input s = executeNativePrefill config library input s) :
    AllBalanced (executeNative config library input s).2.1
      (openedAfter config library s opened (.execute input)) := by
  have hspec := nativePrefill_spec config library input hpos s.2
  unfold Spec at hspec
  rw [openedAfter, heq]
  unfold executeNativePrefill
  split
  · rw [if_neg fun hopen => Bool.false_ne_true hopen.2]
    exact h
  · rcases hrun : nativePrefill config library input s.2 with ⟨e | ⟨output, state⟩, k⟩ <;>
      rw [hrun] at hspec <;> dsimp only
    · have hresult : (nativeStopResult (.error e)).toBool = false := by
        rcases e with error | (what | what) <;> rfl
      rw [if_neg fun hopen => Bool.false_ne_true (hresult.symm.trans hopen.2)]
      exact h
    · rw [if_pos ⟨hphase, rfl⟩]
      exact h.insert _ (hspec output state rfl)

theorem allBalanced_execute (h : AllBalanced s.1 opened) (input : StageInput) :
    AllBalanced (executeNative config library input s).2.1
      (openedAfter config library s opened (.execute input)) := by
  -- a refused call changes nothing
  have hrefused : (executeNative config library input s).2 = s →
      (executeNative config library input s).1.toBool = false →
      AllBalanced (executeNative config library input s).2.1
        (openedAfter config library s opened (.execute input)) := by
    intro hsame hresult
    rw [openedAfter, hsame, if_neg fun hopen => Bool.false_ne_true (hresult.symm.trans hopen.2)]
    exact h
  cases hvalid : validateStageInput input with
  | error text =>
    refine hrefused ?_ ?_ <;> rw [executeNative, hvalid]
    rfl
  | ok u =>
    by_cases hassign : config.assignmentMatches input = false
    · refine hrefused ?_ ?_ <;> rw [executeNative, hvalid] <;> dsimp only <;> rw [if_pos hassign]
      rfl
    by_cases hphase : input.phase = .prefill
    · have heq : executeNative config library input s =
          executeNativePrefill config library input s := by
        rw [executeNative, hvalid]
        dsimp only
        rw [if_neg hassign, if_pos hphase]
      exact allBalanced_prefill h (maxTokens_pos_of_validateStageInput hvalid) hphase heq
    · have heq : executeNative config library input s =
          executeNativeDecode config library input s := by
        rw [executeNative, hvalid]
        dsimp only
        rw [if_neg hassign, if_neg hphase]
      rw [openedAfter, if_neg fun hopen => hphase hopen.1, heq, executeNativeDecode]
      split
      · exact h
      · next state hstate =>
        exact h.move hstate fun _ hstate => balanced_nativeDecode input hstate s.2

theorem allBalanced_step {s t : (NativeSessions × κ) × (Bytes → Option Opening)} {a : NativeStep}
    (h : AllBalanced s.1.1 s.2) (hstep : (nativeLedger config library).step s a t) :
    AllBalanced t.1.1 t.2 := by
  obtain ⟨hnext, hopened⟩ := hstep
  have hnext : t.1 = nativeAfter config library s.1 a := hnext
  rw [hnext, hopened]
  cases a with
  | execute input => exact allBalanced_execute h input
  | close id => exact h.erase id
  | rollback id tokenCount => exact allBalanced_rollback h id tokenCount

theorem allBalanced_reachable {s : (NativeSessions × κ) × (Bytes → Option Opening)}
    (hs : (nativeLedger config library).Reachable s) : AllBalanced s.1.1 s.2 := by
  refine LTS.Inductive.reachable (I := fun s => AllBalanced s.1.1 s.2) ⟨?_, ?_⟩ hs
  · rintro s ⟨hempty, -⟩ id state hstate
    rw [show s.1.1 = ∅ from hempty, AList.lookup_empty] at hstate
    cases hstate
  · exact fun s a t h hstep => allBalanced_step h hstep

/-- **The two counters agree**, and the engine takes a rollback that the executor lets pass. -/
theorem native_counters_agree {s : (NativeSessions × κ) × (Bytes → Option Opening)}
    (hs : (nativeLedger config library).Reachable s) {id : Bytes} {state : NativeSessionState}
    (hstate : s.1.1.lookup id = some state) :
    ∃ o, s.2 id = some o ∧
      state.expectedDecodeStep = state.session.position - o.prompt + 1 ∧
      o.prompt ≤ state.session.position ∧ state.session.position ≤ state.session.capacity ∧
      (state.session.capacity : Int) = o.prompt + o.maxTokens - 1 ∧
      ∀ tokenCount, 0 < tokenCount → tokenCount < state.expectedDecodeStep →
        (Qwen2Session.rollback tokenCount.toNat (state.session, s.1.2)).1 = .ok () ∧
        (rollbackNative id tokenCount s.1).1 = .ok () := by
  obtain ⟨o, ho, hbalanced⟩ := allBalanced_reachable hs id state hstate
  refine ⟨o, ho, hbalanced.decodeStep, hbalanced.started, hbalanced.room, hbalanced.capacity, ?_⟩
  intro tokenCount hpos hcount
  have hrollback := hbalanced.rollback_eq hpos hcount s.1.2
  refine ⟨by rw [hrollback], ?_⟩
  rw [rollbackNative, if_neg hpos.not_ge, hstate]
  dsimp only
  rw [if_neg hcount.not_ge, hrollback]

/-- One stage with all of a small model. -/
def smallNative : NativeStageConfig :=
  { params :=
      { contextLength := 512, embeddingLength := 1, layerCount := 1, layerStart := 0, layerEnd := 1
        decodeFlash := false }
    ctxSize := 512
    layers := { start := 0, stop := 1 } }

/-- An input of session `s`, which may decode twice. -/
def sessionInput (phase : Phase) (decodeStep : Int) (payload : Payload) : StageInput :=
  { sessionId := str "s", requestId := str "r", modelId := str "m", phase, decodeStep, maxTokens := 3
    layers := { start := 0, stop := 1 }, payload }

/-- A call, with what is then known of the sessions. -/
def ledgerAfter (s : (NativeSessions × Nat) × (Bytes → Option Opening)) (a : NativeStep) :
    (NativeSessions × Nat) × (Bytes → Option Opening) :=
  let library := smallLibrary fun _ => .ok (str "x")
  (nativeAfter smallNative library s.1 a, openedAfter smallNative library s.1 s.2 a)

theorem ledgerAfter_step (s : (NativeSessions × Nat) × (Bytes → Option Opening)) (a : NativeStep) :
    (nativeLedger smallNative (smallLibrary fun _ => .ok (str "x"))).step s a (ledgerAfter s a) :=
  ⟨rfl, rfl⟩

/-- A session after its prefill and a decode may be rolled back by one. -/
theorem native_counters_agree_decoded :
    let s := ledgerAfter (ledgerAfter ((∅, 0), fun _ => none)
      (.execute (sessionInput .prefill 0 { kind := .text, encoding := str "utf-8", bytes := str "hi" })))
      (.execute (sessionInput .decode 1 (sampledTokenPayload 1)))
    ∃ state, s.1.1.lookup (str "s") = some state ∧ state.expectedDecodeStep = 2 ∧
      (rollbackNative (str "s") 1 s.1).1 = .ok () := by
  intro s
  have hcount : (s.1.1.lookup (str "s")).map NativeSessionState.expectedDecodeStep = some 2 := by
    decide +kernel
  obtain ⟨state, hstate, hstep⟩ := Option.map_eq_some_iff.1 hcount
  have hstart : (nativeLedger smallNative (smallLibrary fun _ => .ok (str "x"))).Reachable
      ((∅, 0), fun _ => none) := .init ⟨rfl, rfl⟩
  have hs : (nativeLedger smallNative (smallLibrary fun _ => .ok (str "x"))).Reachable s :=
    (hstart.step (ledgerAfter_step _ _)).step (ledgerAfter_step _ _)
  obtain ⟨o, -, -, -, -, -, hrollback⟩ := native_counters_agree hs hstate
  exact ⟨state, hstate, hstep, (hrollback 1 one_pos (hstep ▸ by decide)).2⟩

end JetsonFabric
