import JetsonFabric.Engines.Qwen2Session

/-!
# What the calls of a native session do to its place
-/

namespace JetsonFabric

open Stops

namespace Qwen2Session

/-- The cache, the capacities and the positions are the same. -/
structure SamePlace (kept session : Qwen2Session) : Prop where
  cache : kept.cache = session.cache
  capacity : kept.capacity = session.capacity
  cacheCapacity : kept.cacheCapacity = session.cacheCapacity
  position : kept.position = session.position
  prefillPosition : kept.prefillPosition = session.prefillPosition

theorem SamePlace.refl (session : Qwen2Session) : SamePlace session session :=
  ⟨rfl, rfl, rfl, rfl, rfl⟩

variable {κ : Type} {params : Qwen2Params} {library : NativeLibrary κ}

/-- A new session. -/
structure Created (session : Qwen2Session) (params : Qwen2Params) (capacity : Nat) : Prop where
  bounded : capacity ≤ params.contextLength
  cacheCapacity : session.cacheCapacity =
    physicalCacheCapacity capacity params.contextLength params.decodeFlash
  capacity : session.capacity = capacity

variable (params library) in
theorem create_created (capacity : Nat) (k : κ) :
    (create params library capacity).Spec k fun r _ =>
      ∀ session, r = .ok session → session.Created params capacity := by
  unfold create
  refine spec_bind_stopIf (fun _ _ h => by cases h) fun hvalid => ?_
  refine spec_bind_any (fun _ _ _ h => by cases h) fun cache k => ?_
  refine spec_bind_any (fun _ _ _ h => by cases h) fun _ k => ?_
  refine spec_bind_any (fun _ _ _ h => by cases h) fun _ k => ?_
  rintro session h
  cases h
  exact ⟨not_lt.1 fun hlt => hvalid (.inr hlt), rfl, rfl⟩

/-- How a decode leaves a session: one position further, or where it was. -/
inductive DecodeEnd {α : Type} (session : Qwen2Session) : Except Thrown α → Qwen2Session → Prop
  | moved {a : α} {kept : Qwen2Session} (hkept : kept.SamePlace session)
      (hstarted : session.position ≠ 0) (hroom : session.position < session.capacity) :
      DecodeEnd session (.ok a) kept.advanced
  | failed {thrown : Thrown} {kept : Qwen2Session} (hkept : kept.SamePlace session) :
      DecodeEnd session (.error thrown) kept

theorem stageDecodeGraphOf_spec (session : Qwen2Session) (k : κ) :
    (stageDecodeGraphOf params library).Spec (session, k) fun _ s => s.1.SamePlace session := by
  unfold stageDecodeGraphOf
  refine spec_bind_getFirst ?_
  split
  · exact .refl session
  · refine spec_bind_onSecond (R := fun _ => True) (fun _ _ => trivial) (fun _ _ => .refl session) ?_
    exact fun graph k _ => ⟨rfl, rfl, rfl, rfl, rfl⟩

theorem runStageDecode_spec (tokens : List Int32) (activation : ActivationView)
    (session : Qwen2Session) (hstarted : session.position ≠ 0)
    (hroom : session.position < session.capacity) (k : κ) :
    (runStageDecode params library tokens activation).Spec (session, k) fun r s =>
      DecodeEnd session r s.1 := by
  unfold runStageDecode
  refine spec_bind (R := fun _ s => s.1.SamePlace session) ?_ ?_
  · refine (stageDecodeGraphOf_spec session k).imp ?_
    rintro (thrown | graph) s hkept
    · exact .failed hkept
    · exact hkept
  rintro graph ⟨kept, k⟩ hkept
  refine spec_bind_getFirst ?_
  refine spec_bind_onSecond (R := fun _ => True) (fun _ _ => trivial) (fun _ _ => .failed hkept) ?_
  exact fun result k _ => .moved hkept hstarted hroom

theorem validateDecode_spec {α : Type} {f : Unit → Stops Thrown (Qwen2Session × κ) α}
    {session : Qwen2Session} {k : κ}
    (hf : session.position ≠ 0 → session.position < session.capacity →
      (f ()).Spec (session, k) fun r s => DecodeEnd session r s.1) :
    (validateDecode >>= f).Spec (session, k) fun r s => DecodeEnd session r s.1 := by
  unfold validateDecode
  rw [bind_assoc]
  refine spec_bind_getFirst ?_
  refine spec_bind_stopIf (fun _ => .failed (.refl session)) fun hvalid => ?_
  simp only [not_or, not_le] at hvalid
  exact hf hvalid.1 hvalid.2

/-- **A decode of a stage.** -/
theorem decodeStageToken_spec (token : Int32) (session : Qwen2Session) (k : κ) :
    (decodeStageToken params library token).Spec (session, k) fun r s =>
      DecodeEnd session r s.1 := by
  unfold decodeStageToken
  refine spec_bind_stopIf (fun _ => .failed (.refl session)) fun _ => ?_
  exact validateDecode_spec fun hstarted hroom =>
    runStageDecode_spec [token] {} session hstarted hroom k

theorem decodeStageActivation_spec (activation : ActivationView) (session : Qwen2Session) (k : κ) :
    (decodeStageActivation params library activation).Spec (session, k) fun r s =>
      DecodeEnd session r s.1 := by
  unfold decodeStageActivation validateStageActivation
  refine spec_bind_stopIf (fun _ => .failed (.refl session)) fun _ => ?_
  refine spec_bind_stopIf (fun _ => .failed (.refl session)) fun _ => ?_
  refine spec_bind_stopIf (fun _ => .failed (.refl session)) fun _ => ?_
  exact validateDecode_spec fun hstarted hroom =>
    runStageDecode_spec [] activation session hstarted hroom k

/-- A session behind the tokens of its prefill. -/
structure Prefilled (session : Qwen2Session) (tokenCount : Nat) (kept : Qwen2Session) : Prop where
  position : kept.position = tokenCount
  prefillPosition : kept.prefillPosition = tokenCount
  capacity : kept.capacity = session.capacity
  room : tokenCount ≤ session.capacity

theorem runStagePrefill_prefilled (tokens : List Int32) (activation : ActivationView)
    (session : Qwen2Session)
    (hroom : (if tokens.isEmpty then activation.tokenCount else tokens.length) ≤ session.capacity)
    (k : κ) :
    (runStagePrefill params library tokens activation).Spec (session, k) fun r s =>
      ∀ a, r = .ok a →
        session.Prefilled (if tokens.isEmpty then activation.tokenCount else tokens.length) s.1 := by
  unfold runStagePrefill
  refine spec_bind_getFirst ?_
  refine spec_bind_onSecond (R := fun _ => True) (fun _ _ => trivial) (fun _ _ _ h => by cases h) ?_
  intro graph k _
  refine spec_bind_setFirst ?_
  refine spec_bind_onSecond (R := fun _ => True) (fun _ _ => trivial) (fun _ _ _ h => by cases h) ?_
  exact fun result k _ _ _ => ⟨rfl, rfl, rfl, hroom⟩

theorem validatePrefillCount_prefilled {α : Type} {f : Unit → Stops Thrown (Qwen2Session × κ) α}
    {session : Qwen2Session} {tokenCount : Nat} {k : κ}
    (hf : tokenCount ≠ 0 → tokenCount ≤ session.capacity →
      (f ()).Spec (session, k) fun r s => ∀ a, r = .ok a → session.Prefilled tokenCount s.1) :
    (validatePrefillCount tokenCount >>= f).Spec (session, k) fun r s =>
      ∀ a, r = .ok a → session.Prefilled tokenCount s.1 := by
  unfold validatePrefillCount
  rw [bind_assoc]
  refine spec_bind_getFirst ?_
  refine spec_bind_stopIf (fun _ _ h => by cases h) fun hvalid => ?_
  simp only [not_or, not_lt] at hvalid
  exact hf hvalid.2.1 hvalid.2.2

/-- **A prefill of a stage.** -/
theorem prefillStageTokens_prefilled (tokens : List Int32) (session : Qwen2Session) (k : κ) :
    (prefillStageTokens params library tokens).Spec (session, k) fun r s =>
      ∀ a, r = .ok a → session.Prefilled tokens.length s.1 := by
  unfold prefillStageTokens
  refine spec_bind_stopIf (fun _ _ h => by cases h) fun _ => ?_
  refine validatePrefillCount_prefilled fun hne hroom => ?_
  have hcount : (if tokens.isEmpty then ({} : ActivationView).tokenCount else tokens.length) =
      tokens.length := if_neg fun hempty => hne (List.length_eq_zero_iff.2 (List.isEmpty_iff.1 hempty))
  exact hcount ▸ runStagePrefill_prefilled tokens {} session (hcount.symm ▸ hroom) k

theorem prefillStageActivations_prefilled (activation : ActivationView) (session : Qwen2Session)
    (k : κ) :
    (prefillStageActivations params library activation).Spec (session, k) fun r s =>
      ∀ a, r = .ok a → session.Prefilled activation.tokenCount s.1 := by
  unfold prefillStageActivations validateStageActivation
  refine spec_bind_stopIf (fun _ _ h => by cases h) fun _ => ?_
  refine spec_bind_stopIf (fun _ _ h => by cases h) fun _ => ?_
  exact validatePrefillCount_prefilled fun _ hroom =>
    runStagePrefill_prefilled [] activation session hroom k

end Qwen2Session

/-- One token for every text; calls for text are counted. -/
def smallLibrary (piece : Nat → Except Thrown Bytes) : NativeLibrary Nat where
  tokenize _ := pure [1]
  tokenPiece _ := fun k => (piece k, k + 1)
  isEndToken _ := pure false
  createCache _ := pure 0
  createScheduler _ := pure ()
  buildGraph _ _ := pure ()
  allocateGraph _ _ := pure ()
  graphCompute _ _ _ _ _ := pure ()
  readGreedyToken _ _ := pure 1
  readActivations _ _ := pure fun _ => 0

end JetsonFabric
