import JetsonFabric.Adapters.LlamaAnswers
import JetsonFabric.Lib.Slots

/-!
# Sequence slots of the shared mode

A prefill takes a sequence before it runs and gives it back if it returns a failed result. If it ends
by an exception, nobody gives it back.

* `LosesNone`, **`slots_consistent_iff`**: no sequence is lost exactly if no prefill ends by an
  exception;
* **`lost_sequences_stay_lost`**: and a lost sequence stays lost.
-/

namespace JetsonFabric

open Stops

variable {κ φ : Type} {config : LlamaCppStageConfig} {engine : LlamaEngine κ φ}
  {L : LlamaLog engine}

/-- The sequence of a session. -/
def SharedState.sequenceOf (shared : SharedState) (id : Bytes) : Option Nat :=
  (shared.sessions.lookup id).map (·.sequenceId)

/-- A property of the flags and of the sequences of the sessions. -/
def SharedState.Slots (P : List Bool → (Bytes → Option Nat) → Prop) (shared : SharedState) : Prop :=
  P shared.inUse shared.sequenceOf

/-- The flags and the sequences are those of another state. -/
def SharedState.SameSlots (after shared : SharedState) : Prop :=
  after.inUse = shared.inUse ∧ after.sequenceOf = shared.sequenceOf

variable {after shared : SharedState}

theorem SharedState.SameSlots.slots_iff {P : List Bool → (Bytes → Option Nat) → Prop}
    (h : after.SameSlots shared) : after.Slots P ↔ shared.Slots P := by
  rw [SharedState.Slots, SharedState.Slots, h.1, h.2]

theorem SharedState.SameSessions.sameSlots
    (h : after.SameSessions shared) : after.SameSlots shared := by
  refine ⟨h.2, funext fun id => ?_⟩
  rw [SharedState.sequenceOf, SharedState.sequenceOf, h.1]

theorem Moved.sameSlots {now : Int} {ids : List Bytes}
    (h : Moved now ids shared after) : after.SameSlots shared := by
  refine ⟨h.inUse, funext fun id => ?_⟩
  rw [SharedState.sequenceOf, SharedState.sequenceOf]
  by_cases hid : id ∈ ids
  · rcases h.own id hid with hsame | ⟨session, hbefore, hafter⟩
    · rw [hsame]
    · rw [hbefore, hafter]
      rfl
  · rw [h.others id hid]

variable {id : Bytes}

theorem sequenceOf_insert {session : SharedSession}
    (h : after.sessions = shared.sessions.insert id session) :
    after.sequenceOf = Function.update shared.sequenceOf id (some session.sequenceId) := by
  funext other
  rw [SharedState.sequenceOf, h]
  by_cases hid : other = id
  · subst hid
    rw [AList.lookup_insert, Function.update_self]
    rfl
  · rw [AList.lookup_insert_ne hid, Function.update_of_ne hid]
    rfl

theorem sequenceOf_erase (h : after.sessions = shared.sessions.erase id) :
    after.sequenceOf = Function.update shared.sequenceOf id none := by
  funext other
  rw [SharedState.sequenceOf, h]
  by_cases hid : other = id
  · subst hid
    rw [AList.lookup_erase, Function.update_self]
    rfl
  · rw [AList.lookup_erase_ne hid, Function.update_of_ne hid]
    rfl

theorem rollbackShared_sameSlots (now : Int) (sessionId : Bytes) (tokenCount : Int)
    (shared : SharedState) (k : κ) :
    (rollbackShared engine now sessionId tokenCount (shared, k)).2.1.SameSlots shared := by
  unfold rollbackShared
  dsimp only
  split
  · exact ⟨rfl, rfl⟩
  split
  · exact ⟨rfl, rfl⟩
  rename_i session hsome
  split
  · exact ⟨rfl, rfl⟩
  split
  · exact ⟨rfl, rfl⟩
  · exact ⟨rfl, rfl⟩
  · refine ⟨rfl, (sequenceOf_insert rfl).trans ?_⟩
    have hown : shared.sequenceOf sessionId = some session.sequenceId := by
      rw [SharedState.sequenceOf, hsome]
      rfl
    rw [← hown, Function.update_eq_self]

/-! ## Steps -/

variable {P : List Bool → (Bytes → Option Nat) → Prop}

theorem CloseEnd.kept_slots (hP : Slots.Kept P) (h : CloseEnd id shared after)
    (hslots : shared.Slots P) : after.Slots P := by
  cases h with
  | kept hsame => exact hsame.sameSlots.slots_iff.mpr hslots
  | closed hsome hsessions hinUse =>
    rw [SharedState.Slots, hinUse, sequenceOf_erase hsessions]
    exact hP.release (by rw [SharedState.sequenceOf, hsome]; rfl) hslots

theorem CloseEnd.covered (h : CloseEnd id shared after)
    (hcovered : shared.Slots Slots.Covered) : after.Slots Slots.Covered := by
  cases h with
  | kept hsame => exact hsame.sameSlots.slots_iff.mpr hcovered
  | closed hsome hsessions hinUse =>
    rw [SharedState.Slots, hinUse, sequenceOf_erase hsessions]
    exact hcovered.release (by rw [SharedState.sequenceOf, hsome]; rfl)

theorem PrefillEnd.kept_slots (hP : Slots.Kept P) {input : StageInput}
    {r : Except Thrown ExecutionResult} (h : PrefillEnd input shared r after)
    (hslots : shared.Slots P) : after.Slots P := by
  cases h with
  | refused hsame => exact hsame.sameSlots.slots_iff.mpr hslots
  | stored hfree _ hsessions hinUse =>
    rw [SharedState.Slots, hinUse, sequenceOf_insert hsessions]
    exact hP.take hfree hslots
  | thrown hfree hsessions hinUse =>
    have hsame : after.sequenceOf = shared.sequenceOf := by
      funext id
      rw [SharedState.sequenceOf, SharedState.sequenceOf, hsessions]
    rw [SharedState.Slots, hinUse, hsame]
    exact hP.lose hfree hslots

theorem PrefillEnd.covered_iff {input : StageInput}
    {r : Except Thrown ExecutionResult} (h : PrefillEnd input shared r after)
    (hheld : shared.Slots Slots.Held) (hcovered : shared.Slots Slots.Covered) :
    after.Slots Slots.Covered ↔ ¬ ∃ thrown, r = .error thrown := by
  cases h with
  | refused hsame =>
    exact iff_of_true (hsame.sameSlots.slots_iff.mpr hcovered) fun ⟨_, hr⟩ => nomatch hr
  | stored _ hnew hsessions hinUse =>
    refine iff_of_true ?_ fun ⟨_, hr⟩ => nomatch hr
    rw [SharedState.Slots, hinUse, sequenceOf_insert hsessions]
    refine hcovered.take ?_
    rw [SharedState.sequenceOf, AList.lookup_eq_none.mpr hnew]
    rfl
  | thrown hfree hsessions hinUse =>
    refine iff_of_false ?_ (not_not_intro ⟨_, rfl⟩)
    have hsame : after.sequenceOf = shared.sequenceOf := by
      funext id
      rw [SharedState.sequenceOf, SharedState.sequenceOf, hsessions]
    rw [SharedState.Slots, hinUse, hsame]
    exact Slots.not_covered_of_lost hheld hfree

/-- The step is no prefill that ends by an exception. -/
def LosesNone (L : LlamaLog engine) (config : LlamaCppStageConfig) (s : AdapterState κ)
    (a : AdapterStep) : Prop :=
  match a with
  | .sharedPrefill _ input => ¬ PrefillThrows config s.shared input (L.during config s a)
  | _ => True

/-- Steps other than a prefill keep what the closing of a session keeps. -/
theorem slots_other {s t : AdapterState κ} {a : AdapterStep}
    (hclose : ∀ id shared after, CloseEnd id shared after → shared.Slots P → after.Slots P)
    (h : s.shared.Slots P) (hs : (adapterMachine config engine).step s a t)
    (ha : ∀ now input, a ≠ .sharedPrefill now input) : t.shared.Slots P := by
  obtain ⟨-, rfl⟩ := hs
  cases a with
  | prune now =>
    show (AdapterState.prune config engine now s).2.shared.Slots _
    unfold AdapterState.prune
    split
    · exact pruneShared_keeps hclose now s.shared s.llama h
    · exact h
  | serialInput now input => exact h
  | sharedPrefill now input => exact absurd rfl (ha now input)
  | sharedDecode now inputs =>
    have hmoved := executeSharedDecodeLocked_moved config engine now inputs s.shared s.llama
    exact hmoved.sameSlots.slots_iff.mpr h
  | close sessionId =>
    show (AdapterState.closeSession config engine sessionId s).2.shared.Slots _
    unfold AdapterState.closeSession
    split
    · exact hclose _ _ _ (closeShared_spec engine sessionId s.shared s.llama) h
    · exact h
  | rollback now sessionId tokenCount =>
    show (AdapterState.rollbackSession config engine now sessionId tokenCount s).2.shared.Slots _
    unfold AdapterState.rollbackSession
    split
    · exact (rollbackShared_sameSlots now sessionId tokenCount s.shared s.llama).slots_iff.mpr h
    · exact h

theorem slots_step (hP : Slots.Kept P) (s : AdapterState κ) (a : AdapterStep) (t : AdapterState κ)
    (h : s.shared.Slots P) (hs : (adapterMachine config engine).step s a t) : t.shared.Slots P := by
  cases a with
  | sharedPrefill now input =>
    obtain ⟨-, rfl⟩ := hs
    exact PrefillEnd.kept_slots hP
      (executeSharedPrefillLocked_spec config engine now input s.shared s.llama) h
  | _ => exact slots_other (fun _ _ _ hend => hend.kept_slots hP) h hs (by simp)

theorem held_step (s : AdapterState κ) (a : AdapterStep) (t : AdapterState κ)
    (h : s.shared.Slots Slots.Held) (hs : (adapterMachine config engine).step s a t) :
    t.shared.Slots Slots.Held :=
  slots_step Slots.kept_held s a t h hs

variable (L) in
theorem covered_step (s : AdapterState κ) (a : AdapterStep) (t : AdapterState κ)
    (hheld : s.shared.Slots Slots.Held) (h : s.shared.Slots Slots.Covered)
    (hs : (adapterMachine config engine).step s a t) :
    t.shared.Slots Slots.Covered ↔ LosesNone L config s a := by
  cases a with
  | sharedPrefill now input =>
    obtain ⟨hmode, rfl⟩ := hs
    have hrun := (executeSharedPrefillLocked_answers config L hmode.2 now s.shared s.llama).drop
    exact (PrefillEnd.covered_iff (executeSharedPrefillLocked_spec config engine now input s.shared
      s.llama) hheld h).trans (not_congr hrun.throws)
  | _ => exact iff_of_true (slots_other (fun _ _ _ hend => hend.covered) h hs (by simp)) trivial

/-! ## Whole runs -/

variable (config) in
theorem slots_start (llama : κ) :
    (AdapterState.start config llama).shared.Slots Slots.Held ∧
      (AdapterState.start config llama).shared.Slots Slots.Covered := by
  refine ⟨⟨fun id n h => (nomatch h), fun id _ n h => (nomatch h)⟩, fun n h => ?_⟩
  have := List.eq_of_mem_replicate (List.mem_of_getElem? h)
  cases this

theorem held_of_reachable {s : AdapterState κ} (hs : (adapterMachine config engine).Reachable s) :
    s.shared.Slots Slots.Held := by
  refine LTS.Inductive.reachable ⟨?_, held_step⟩ hs
  rintro _ ⟨llama, rfl⟩
  exact (slots_start config llama).1

/-- A sequence is in use exactly if one session has it, and one only. -/
def SlotsConsistent (s : AdapterState κ) : Prop := s.shared.Slots Slots.Consistent

theorem consistent_iff_owned {s : AdapterState κ} (h : s.shared.Slots Slots.Held) :
    SlotsConsistent s ↔ s.shared.Slots Slots.Held ∧ s.shared.Slots Slots.Covered := by
  rw [and_iff_right h]
  exact h.consistent_iff

/-- **No sequence is leaked exactly if no prefill that has taken one ends by an exception.** -/
theorem slots_consistent_iff (config : LlamaCppStageConfig) (engine : LlamaEngine κ φ)
    (L : LlamaLog engine) {s t : AdapterState κ} {h : List (AdapterState κ × AdapterStep)}
    (hinit : (adapterMachine config engine).init s)
    (hrun : (adapterMachine config engine).History s h t) :
    LTS.Throughout SlotsConsistent h t ↔ ∀ x ∈ h, LosesNone L config x.1 x.2 := by
  obtain ⟨llama, rfl⟩ := hinit
  obtain ⟨hheld, hcovered⟩ := slots_start config llama
  have hthroughout := hrun.throughout held_step hheld
  have hcongr : LTS.Throughout SlotsConsistent h t ↔
      LTS.Throughout (fun s : AdapterState κ =>
        s.shared.Slots Slots.Held ∧ s.shared.Slots Slots.Covered) h t := by
    exact LTS.Throughout.congr
      ⟨fun x hx => consistent_iff_owned (hthroughout.1 x hx), consistent_iff_owned hthroughout.2⟩
  rw [hcongr]
  refine hrun.throughout_iff (L := fun _ => True) (fun s a t hs _ hP => ?_) (fun _ _ => trivial)
    ⟨hheld, hcovered⟩
  rw [and_iff_right (held_step s a t hP.1 hs)]
  exact covered_step L s a t hP.1 hP.2 hs

/-- A run with one prefill that returns. -/
theorem slots_consistent_prefill :
    let library := smallEngine (fun _ => false) fun _ => .ok (str "x")
    let engine := library.recorded
    let start := AdapterState.start smallShared (0, [])
    let step := AdapterStep.sharedPrefill 0
      (smallInput (str "s") .prefill 0 (textPayload (str "hello")))
    let after := start.after smallShared engine step
    (adapterMachine smallShared engine).History start [(start, step)] after ∧
    LTS.Throughout SlotsConsistent [(start, step)] after := by
  intro library engine start step after
  have hrun : (adapterMachine smallShared engine).History start [(start, step)] after :=
    .cons ⟨⟨rfl, rfl⟩, rfl⟩ (.nil _)
  refine ⟨hrun, (slots_consistent_iff smallShared engine (recordedLog library) ⟨(0, []), rfl⟩
    hrun).mpr fun x hx => ?_⟩
  cases List.mem_singleton.mp hx
  have hanswers : (recordedLog library).during smallShared start step =
      [.tokens [1], .done, .status 0, .row true, .ends false, .text] := by decide +kernel
  unfold LosesNone
  dsimp only
  rw [hanswers]
  rintro ⟨-, -, -, ⟨a, ha, hthrows⟩ | hbad | ⟨-, ⟨-, hlarge⟩ | ⟨-, ⟨token, htoken, hneg⟩, -⟩⟩⟩
  · revert a
    decide +kernel
  · exact hbad trivial
  · exact absurd hlarge (by unfold ContextTooLarge; decide)
  · cases List.mem_singleton.mp htoken
    exact absurd hneg (by decide)

/-- Activations for the first stage: they pass the checks and cannot be read. -/
def malformedPrefill (session : Bytes) : StageInput :=
  smallInput session .prefill 0 (activationPayload [0, 0, 0, 0] 1 1)

/-- Both sequences taken by malformed prefills. -/
def afterMalformed : AdapterState Nat :=
  let engine := smallEngine (fun _ => false) fun _ => .ok (str "x")
  let once := (AdapterState.executeBatch smallShared engine 0 [malformedPrefill (str "a")]
    (.start smallShared 0)).2
  (AdapterState.executeBatch smallShared engine 0 [malformedPrefill (str "b")] once).2

/-- Malformed prefills leak their sequences, and then none is taken. -/
theorem malformed_prefill_leaks :
    validateStageInput (malformedPrefill (str "a")) = .ok () ∧ ¬ SlotsConsistent afterMalformed ∧
    (AdapterState.execute smallShared (smallEngine (fun _ => false) fun _ => .ok (str "x")) 0
      (smallInput (str "s") .prefill 0 (textPayload (str "hello"))) afterMalformed).1 =
        .failure (str "stage_session_capacity_exceeded")
          (str "all configured llama.cpp parallel session slots are in use") := by
  refine ⟨by decide +kernel, fun h => ?_, by decide +kernel⟩
  have htaken : afterMalformed.shared.inUse = [true, true] := by decide +kernel
  have hempty : afterMalformed.shared.sessions.keys = [] := by decide +kernel
  obtain ⟨id, hid, -⟩ := (h.taken_iff 0 (by rw [htaken]; decide)).mp (by rw [htaken]; rfl)
  obtain ⟨session, hsession, -⟩ := Option.map_eq_some_iff.mp hid
  have hmem : id ∈ afterMalformed.shared.sessions := by
    rw [← AList.lookup_isSome, hsession]
    rfl
  rw [AList.mem_keys, hempty] at hmem
  cases hmem

/-! ## Lost sequences -/

/-- **Lost sequences** stay lost; once all of them are, every prefill is refused. -/
theorem lost_sequences_stay_lost (config : LlamaCppStageConfig) (engine : LlamaEngine κ φ)
    {s t : AdapterState κ} {as : List AdapterStep}
    (hrun : (adapterMachine config engine).Run s as t) :
    (∀ n, s.shared.Slots (Slots.Lost n) → t.shared.Slots (Slots.Lost n)) ∧
    (s.shared.Slots Slots.Exhausted →
      (∀ id, id ∉ t.shared.sessions) ∧
      ∀ now input, config.assignmentMatches input = true →
        executeSharedPrefillLocked config engine now input (t.shared, t.llama) =
          (.ok (.failure (str "stage_session_capacity_exceeded")
            (str "all configured llama.cpp parallel session slots are in use")),
            (t.shared, t.llama))) := by
  refine ⟨fun n => hrun.keeps (slots_step (Slots.kept_lost n)), fun hexhausted => ?_⟩
  obtain ⟨hfull, hnone⟩ := hrun.keeps (slots_step Slots.kept_exhausted) hexhausted
  have hempty : ∀ id, id ∉ t.shared.sessions := fun id =>
    AList.lookup_eq_none.mp (Option.map_eq_none_iff.mp (hnone id))
  have hfind : t.shared.inUse.findIdx? (· == false) = none :=
    List.findIdx?_eq_none_iff.mpr fun taken hmem => beq_false_of_ne fun h => hfull (h ▸ hmem)
  refine ⟨hempty, fun now input hmatches => ?_⟩
  rw [executeSharedPrefillLocked, hmatches, if_neg (by simp), if_neg (hempty _), allocateSequence,
    hfind]

theorem lost_sequences_after_malformed :
    let engine := smallEngine (fun _ => false) fun _ => .ok (str "x")
    let input := smallInput (str "s") .prefill 0 (textPayload (str "hello"))
    ∃ as, (adapterMachine smallShared engine).Run (.start smallShared 0) as afterMalformed ∧
      executeSharedPrefillLocked smallShared engine 0 input
          (afterMalformed.shared, afterMalformed.llama) =
        (.ok (.failure (str "stage_session_capacity_exceeded")
          (str "all configured llama.cpp parallel session slots are in use")),
          (afterMalformed.shared, afterMalformed.llama)) := by
  intro engine input
  obtain ⟨as, hfirst⟩ := run_executeBatch 0 [malformedPrefill (str "a")] (.start smallShared 0)
  obtain ⟨bs, hsecond⟩ := run_executeBatch 0 [malformedPrefill (str "b")] _
  refine ⟨as ++ bs, hfirst.append hsecond, ?_⟩
  have hempty : afterMalformed.shared.sessions.keys = [] := by decide +kernel
  have hexhausted : afterMalformed.shared.Slots Slots.Exhausted := by
    refine ⟨by decide +kernel, fun id => ?_⟩
    rw [SharedState.sequenceOf, AList.lookup_eq_none.mpr (by rw [AList.mem_keys, hempty]; simp)]
    rfl
  exact ((lost_sequences_stay_lost smallShared engine (.nil _)).2 hexhausted).2 0 input
    (by decide +kernel)

end JetsonFabric
