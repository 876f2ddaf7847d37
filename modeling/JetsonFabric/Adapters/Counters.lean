import JetsonFabric.Adapters.LlamaAnswers

/-!
# Session counters of the llama.cpp adapter

A session counts the tokens in its cache (`next_position`) and the decode step it expects. The first
moves with the rows that llama.cpp decoded, the second with the size of the payload.

* **`countersAgree_step`**, **`counters_agree_iff`**: exactly which steps keep them in agreement.
-/

namespace JetsonFabric

open Stops

/-! ## Agreement -/

/-- The counters of every resident session agree. -/
structure CountersAgree {κ : Type} (config : LlamaCppStageConfig) (s : AdapterState κ) : Prop where
  serial : AllSessions (SerialSession.Agrees config) s.serial
  shared : AllSessions (SharedSession.Agrees config) s.shared.sessions

variable {κ φ : Type} {config : LlamaCppStageConfig} {engine : LlamaEngine κ φ}
  {L : LlamaLog engine} {input : StageInput}

/-! ## Prefills -/

/-- The rows of a prefill fit, also where the sum with the tokens to come wraps. -/
def PrefillFits (config : LlamaCppStageConfig) (input : StageInput) (rows : Nat) : Prop :=
  rows + max 0 (input.maxTokens - 1) < (2 ^ 31 : Int) ∨ rows ≤ config.ctxSize

/-- What a prefill must do for the counters of its session. -/
def PrefillCounts (config : LlamaCppStageConfig) (input : StageInput) (answers : List LlamaAnswer) :
    Prop :=
  PrefillStored config input.payload answers →
    PrefillFits config input (givenRows config input.payload answers)

theorem fits_iff {rows : Nat} (hphase : input.phase = .prefill)
    (hroom : config.contextExhausted 0 rows input = false) :
    PrefillFits config input rows ↔ (rows : Int) ≤ config.ctxSize := by
  refine or_iff_right_of_imp fun hsum => ?_
  have hfits := room_of_contextExhausted hroom le_rfl (by rw [if_pos hphase]; omega)
  omega

/-! ## Serial mode -/

/-- A decoded decode has no failed answer, counts its rows, and stays an `int`. -/
def DecodeCounts (sessions : SerialSessions) (input : StageInput) (rows : Nat)
    (answers : List LlamaAnswer) : Prop :=
  .status 0 ∈ answers → Answered answers ∧
    (rows : Int) = (if input.payload.kind = .activation then input.payload.tensor.shape.headD 0
      else (input.payload.bytes.length / 4 : Nat)) ∧
    ∀ session, sessions.lookup input.sessionId = some session → session.nextPosition + rows < 2 ^ 31

/-- What a serial input must do for the counters. -/
def InputCounts (config : LlamaCppStageConfig) (sessions : SerialSessions) (input : StageInput)
    (answers : List LlamaAnswer) : Prop :=
  if input.phase = .prefill then PrefillCounts config input answers
  else DecodeCounts sessions input (givenRows config input.payload answers) answers

theorem agrees_of_books (session : SerialSession) {next step : Int} {prefill : Nat}
    (h : session.books = (next, step, prefill)) :
    session.Agrees config ↔ CountersFit config next step prefill := by
  cases h
  rfl

/-- **A decode keeps the counters in agreement exactly if it counts.** -/
theorem settleSerial_agrees_iff {sessions : SerialSessions} {session after : SerialSession}
    {answers : List LlamaAnswer} {r : Except Stop StageOutput} (hmax : config.ctxSize < 2 ^ 31)
    (h : session.Agrees config) (hsession : sessions.lookup input.sessionId = some session)
    (hphase : input.phase ≠ .prefill) (now : Int)
    (hend : SerialEnd config input false session answers r after) :
    (settleSerial input now after r).Agrees config ↔
      DecodeCounts sessions input (givenRows config input.payload answers) answers := by
  have hok := hend.ok_iff
  obtain ⟨hfit, hone, hroom⟩ := h
  have hnext : ∀ n : Int, (∀ found, sessions.lookup input.sessionId = some found →
      found.nextPosition + n < 2 ^ 31) ↔ session.nextPosition + n < 2 ^ 31 := by
    simp [hsession]
  cases hend with
  | kept hstatus hbooks =>
    refine iff_of_true ((agrees_of_books _ hbooks).mpr ⟨hfit, hone, hroom⟩) fun h => ?_
    exact absurd h hstatus
  | moved hstatus hpos hexhausted hbooks =>
    rw [DecodeCounts, imp_iff_right hstatus, hnext]
    generalize givenRows config input.payload answers = rows at hpos hexhausted hbooks ⊢
    have hpos' : (0 : Int) < rows := by exact_mod_cast hpos
    simp only [hstatus, true_and, Bool.false_eq_true, false_and, not_false_iff, and_true] at hok
    cases r with
    | error e =>
      refine iff_of_false (fun hagrees => ?_) fun hcounts => nomatch hok.mpr hcounts.1
      obtain ⟨hbad, -, -⟩ := (agrees_of_books after hbooks).mp hagrees
      simp only [Bool.false_eq_true, if_false] at hbad
      omega
    | ok output =>
      have hbooks' : (settleSerial input now after (.ok output)).books =
          (session.nextPosition + rows, session.expectedDecodeStep + decodedTokens input,
            session.prefillTokens) := by
        simp only [SerialSession.books, SerialSession.movedBooks, Bool.false_eq_true, if_false,
          Prod.mk.injEq] at hbooks
        simp only [settleSerial, SerialSession.books, hbooks]
      rw [agrees_of_books _ hbooks', and_iff_right (hok.mp rfl), ← decodedTokens]
      constructor
      · rintro ⟨hagree, -, hctx⟩
        exact ⟨by omega, by omega⟩
      · rintro ⟨hcount, hint⟩
        have hctx := room_of_contextExhausted hexhausted (by omega) (by rw [if_neg hphase]; omega)
        exact ⟨by omega, by omega, hctx⟩

theorem executeSerialLocked_agree_iff {sessions : SerialSessions} (hmax : config.ctxSize < 2 ^ 31)
    (h : AllSessions (SerialSession.Agrees config) sessions) (now : Int) (input : StageInput)
    (k : κ) :
    (executeSerialLocked config engine now input).Adds (fun s => L.answers s.2) (sessions, k)
      fun _ s new => AllSessions (SerialSession.Agrees config) s.1 ↔
        InputCounts config sessions input new := by
  have hnil : L.answers k = L.answers k ++ [] := (List.append_nil _).symm
  have hidle : AllSessions (SerialSession.Agrees config) sessions ↔
      InputCounts config sessions input [] := by
    refine iff_of_true h ?_
    unfold InputCounts
    split
    · exact fun hstored => absurd hstored.1 List.not_mem_nil
    · exact fun hstatus => absurd hstatus List.not_mem_nil
  unfold Adds executeSerialLocked
  dsimp only
  split
  · exact ⟨[], hnil, hidle⟩
  split
  · rename_i hphase
    split
    · exact ⟨[], hnil, hidle⟩
    obtain ⟨new, hlog, hend⟩ := runSerial_end config L input true {} k
    have hok := hend.ok_iff
    have hstored : (runSerial config engine input true ({}, k)).1.toBool = true ↔
        PrefillStored config input.payload new := by simpa only [PrefillStored, true_and] using hok
    split <;> rename_i hrun <;> refine ⟨new, hlog, ?_⟩ <;> rw [hrun] at hstored hend <;>
      simp only [InputCounts, if_pos hphase, PrefillCounts]
    · rw [imp_iff_right (hstored.mp rfl), h.insert_iff]
      cases hend with
      | moved _ hpos hexhausted hbooks =>
        rw [fits_iff hphase hexhausted, SerialSession.Agrees]
        simp only [SerialSession.books, SerialSession.movedBooks, Prod.mk.injEq] at hbooks
        simp only [hbooks, CountersFit]
        constructor
        · intro hfit
          have := hfit.2.2
          omega
        · intro hfits
          refine ⟨by simp, le_rfl, by omega⟩
    · exact iff_of_true h fun hbad => absurd (hstored.mpr hbad) Bool.false_ne_true
  · rename_i hphase
    split
    · exact ⟨[], hnil, hidle⟩
    rename_i session hsome
    split
    · exact ⟨[], hnil, hidle⟩
    obtain ⟨new, hlog, hend⟩ := runSerial_end config L input false session k
    refine ⟨new, hlog, ?_⟩
    rw [h.insert_iff, settleSerial_agrees_iff hmax (h _ _ hsome) hsome hphase now hend, InputCounts,
      if_neg hphase]

theorem rollbackSerial_agree {sessions : SerialSessions}
    (h : AllSessions (SerialSession.Agrees config) sessions) (now : Int) (sessionId : Bytes)
    (tokenCount : Int) (k : κ) :
    AllSessions (SerialSession.Agrees config)
      (rollbackSerial engine now sessionId tokenCount (sessions, k)).2.1 := by
  unfold rollbackSerial
  dsimp only
  split
  · exact h
  rename_i hpos
  split
  · exact h
  rename_i session hsome
  split
  · exact h
  rename_i hsuffix
  split
  · exact h
  · exact h
  · obtain ⟨hfit, hone, hroom⟩ := h _ _ hsome
    simp only [not_or, not_lt, not_le] at hsuffix hpos
    refine h.insert sessionId ⟨?_, ?_, ?_⟩ <;> dsimp only <;> omega

/-! ## Shared mode -/

variable {shared : SharedState} {inputs : List StageInput}

theorem executeSharedDecodeLocked_agree (hmax : config.ctxSize < 2 ^ 31 - 1)
    (hphase : ∀ input ∈ inputs, input.phase = .decode)
    (h : AllSessions (SharedSession.Agrees config) shared.sessions) (now : Int) (k : κ) :
    AllSessions (SharedSession.Agrees config)
      (executeSharedDecodeLocked config engine now inputs (shared, k)).2.1.sessions := by
  have hmoved := executeSharedDecodeLocked_moved config engine now inputs
    shared k
  intro id session hsession
  by_cases hid : id ∈ (validRows (sharedChecks config shared.sessions [] inputs)).map (·.1.sessionId)
  · rcases hmoved.own id hid with hsame | ⟨before, hbefore, hafter⟩
    · exact h id session (hsame ▸ hsession)
    · cases hafter.symm.trans hsession
      obtain ⟨row, hrow, rfl⟩ := List.mem_map.mp hid
      obtain ⟨hresident, hroom⟩ := ((validRows_spec config shared.sessions [] inputs).1 row hrow).1
      cases hbefore.symm.trans hresident
      obtain ⟨hfit, hone, hctx⟩ := h _ _ hbefore
      have hroom := room_of_contextExhausted hroom (by omega) (by
        rw [if_neg (by rw [hphase _ (mem_of_validRows hrow)]; exact nofun)]
        omega)
      refine ⟨?_, ?_, hroom⟩ <;> simp only [SharedSession.advance] <;> omega
  · exact h id session ((hmoved.others id hid) ▸ hsession)

theorem executeSharedPrefillLocked_agree_iff (hbatch : 0 < sharedBatchSize config)
    (hphase : input.phase = .prefill)
    (h : AllSessions (SharedSession.Agrees config) shared.sessions) (now : Int) (k : κ) :
    (executeSharedPrefillLocked config engine now input).Adds (fun s => L.answers s.2) (shared, k)
      fun _ s new => AllSessions (SharedSession.Agrees config) s.1.sessions ↔
        PrefillCounts config input new := by
  have hspec := executeSharedPrefillLocked_spec config engine now input shared k
  obtain ⟨new, hlog, hrun⟩ := executeSharedPrefillLocked_answers config L hphase now shared k
  refine ⟨new, hlog, ?_⟩
  unfold Spec at hspec
  generalize executeSharedPrefillLocked config engine now input (shared, k) = run at hspec hrun
  obtain ⟨r, after, k'⟩ := run
  have hsame : after.sessions = shared.sessions →
      (AllSessions (SharedSession.Agrees config) after.sessions ↔
        PrefillCounts config input new) := by
    intro heq
    refine iff_of_true (heq ▸ h) fun hstored => ?_
    obtain ⟨hnew, hmem⟩ := hrun.stored hstored
    exact absurd (heq ▸ hmem) hnew
  cases hspec with
  | refused hkept => exact hsame hkept.1
  | thrown _ hsessions _ => exact hsame hsessions
  | @stored _ _ session _ hnew hsessions _ =>
    dsimp only at hsessions hrun ⊢
    obtain ⟨hstored, hadmitted, hnext, hstep, hprefill⟩ := hrun.session hnew session
      (by rw [hsessions]; exact AList.lookup_insert _)
    rw [hsessions, h.insert_iff, PrefillCounts, imp_iff_right (hstored hbatch), fits_iff hphase
      ((contextExhausted_eq_false hphase).mpr hadmitted.2), SharedSession.Agrees, hnext, hstep,
      hprefill]
    constructor
    · exact fun hfit => hfit.2.2
    · exact fun hfits => ⟨by omega, le_rfl, hfits⟩

theorem rollbackShared_agree
    (h : AllSessions (SharedSession.Agrees config) shared.sessions) (now : Int) (sessionId : Bytes)
    (tokenCount : Int) (k : κ) :
    AllSessions (SharedSession.Agrees config)
      (rollbackShared engine now sessionId tokenCount (shared, k)).2.1.sessions := by
  unfold rollbackShared
  dsimp only
  split
  · exact h
  rename_i hpos
  split
  · exact h
  rename_i session hsome
  split
  · exact h
  rename_i hsuffix
  split
  · exact h
  · exact h
  · obtain ⟨hfit, hone, hroom⟩ := h _ _ hsome
    simp only [not_or, not_lt, not_le] at hsuffix hpos
    refine h.insert sessionId ⟨?_, ?_, ?_⟩ <;> dsimp only <;> omega

/-! ## Whole runs -/

variable {s : AdapterState κ}

/-- What a step must do for the counters. -/
def StepCounts (L : LlamaLog engine) (config : LlamaCppStageConfig) (s : AdapterState κ)
    (a : AdapterStep) : Prop :=
  match a with
  | .serialInput _ input => InputCounts config s.serial input (L.during config s a)
  | .sharedPrefill _ input => PrefillCounts config input (L.during config s a)
  | _ => True

theorem prune_agree (h : CountersAgree config s) (now : Int) :
    CountersAgree config (AdapterState.prune config engine now s).2 := by
  unfold AdapterState.prune
  split
  · refine ⟨h.serial, ?_⟩
    refine pruneShared_keeps (P := fun shared =>
      AllSessions (SharedSession.Agrees config) shared.sessions) ?_ now s.shared s.llama h.shared
    rintro id shared after (hsame | ⟨-, hsessions, -⟩) hall
    · rw [hsame.1]
      exact hall
    · rw [hsessions]
      exact hall.erase id
  · exact ⟨h.serial.erase_all _, h.shared⟩

theorem closeSession_agree (h : CountersAgree config s) (sessionId : Bytes) :
    CountersAgree config (AdapterState.closeSession config engine sessionId s).2 := by
  unfold AdapterState.closeSession
  split
  · refine ⟨h.serial, ?_⟩
    have hend : CloseEnd sessionId s.shared _ :=
      closeShared_spec engine sessionId s.shared s.llama
    show AllSessions _ (closeShared engine sessionId (s.shared, s.llama)).2.1.sessions
    rcases hend with hsame | ⟨-, hsessions, -⟩
    · rw [hsame.1]
      exact h.shared
    · rw [hsessions]
      exact h.shared.erase sessionId
  · exact ⟨h.serial.erase sessionId, h.shared⟩

theorem rollbackSession_agree (h : CountersAgree config s) (now : Int)
    (sessionId : Bytes) (tokenCount : Int) :
    CountersAgree config
      (AdapterState.rollbackSession config engine now sessionId tokenCount s).2 := by
  unfold AdapterState.rollbackSession
  split
  · exact ⟨h.serial, rollbackShared_agree h.shared now sessionId tokenCount s.llama⟩
  · exact ⟨rollbackSerial_agree h.serial now sessionId tokenCount s.llama, h.shared⟩

variable (L) in
/-- **Which steps keep the counters in agreement.** -/
theorem countersAgree_step (hpos : 0 < config.ctxSize) (hmax : config.ctxSize < 2 ^ 31 - 1)
    (s : AdapterState κ) (a : AdapterStep) (t : AdapterState κ)
    (hs : (adapterMachine config engine).step s a t) (h : CountersAgree config s) :
    CountersAgree config t ↔ StepCounts L config s a := by
  obtain ⟨hmode, rfl⟩ := hs
  cases a with
  | prune now => exact iff_of_true (prune_agree h now) trivial
  | serialInput now input =>
    have hiff := (executeSerialLocked_agree_iff (L := L) (by omega) h.serial now input s.llama).drop
    exact Iff.trans ⟨fun hagree => hagree.serial, fun hserial => ⟨hserial, h.shared⟩⟩ hiff
  | sharedPrefill now input =>
    have hbatch : 0 < sharedBatchSize config := by
      have hsize : 1 < config.decodeBatchSize := by
        simpa [LlamaCppStageConfig.batchingEnabled] using hmode.1
      unfold sharedBatchSize
      omega
    have hiff := (executeSharedPrefillLocked_agree_iff (L := L) hbatch hmode.2 h.shared now
      s.llama).drop
    exact Iff.trans ⟨fun hagree => hagree.shared, fun hshared => ⟨h.serial, hshared⟩⟩ hiff
  | sharedDecode now inputs =>
    exact iff_of_true
      ⟨h.serial, executeSharedDecodeLocked_agree hmax hmode.2 h.shared now s.llama⟩ trivial
  | close sessionId => exact iff_of_true (closeSession_agree h sessionId) trivial
  | rollback now sessionId tokenCount =>
    exact iff_of_true (rollbackSession_agree h now sessionId tokenCount) trivial

theorem countersAgree_start (llama : κ) : CountersAgree config (.start config llama) :=
  ⟨fun _ _ h => (nomatch h), fun _ _ h => (nomatch h)⟩

/-- **The counters agree throughout a run exactly if every step counts what it decodes.** -/
theorem counters_agree_iff (config : LlamaCppStageConfig) (engine : LlamaEngine κ φ)
    (L : LlamaLog engine) (hpos : 0 < config.ctxSize) (hmax : config.ctxSize < 2 ^ 31 - 1)
    {s t : AdapterState κ} {h : List (AdapterState κ × AdapterStep)}
    (hinit : (adapterMachine config engine).init s)
    (hrun : (adapterMachine config engine).History s h t) :
    LTS.Throughout (CountersAgree config) h t ↔ ∀ x ∈ h, StepCounts L config x.1 x.2 := by
  obtain ⟨llama, rfl⟩ := hinit
  exact hrun.throughout_iff (L := fun _ => True)
    (fun s a t hs _ hagree => countersAgree_step L hpos hmax s a t hs hagree) (fun _ _ => trivial)
    (countersAgree_start llama)

/-- A run with one prefill. -/
theorem counters_agree_prefill :
    let engine := (smallEngine (fun _ => false) fun _ => .ok (str "x")).recorded
    let start := AdapterState.start smallConfig (0, [])
    let step := AdapterStep.serialInput 0
      (smallInput (str "s") .prefill 0 (textPayload (str "hello")))
    (adapterMachine smallConfig engine).History start [(start, step)]
      (start.after smallConfig engine step) ∧
    LTS.Throughout (CountersAgree smallConfig) [(start, step)]
      (start.after smallConfig engine step) := by
  intro engine start step
  have hrun : (adapterMachine smallConfig engine).History start [(start, step)]
      (start.after smallConfig engine step) := .cons ⟨rfl, rfl⟩ (.nil _)
  refine ⟨hrun, (counters_agree_iff smallConfig engine (recordedLog _) (by decide) (by decide)
    ⟨(0, []), rfl⟩ hrun).mpr fun x hx => ?_⟩
  cases List.mem_singleton.mp hx
  exact fun _ => .inl (by decide +kernel)

/-- The state after a prefill of one token and one decode. -/
def afterOneDecode (missing : Nat → Bool) (payload : Payload) : AdapterState Nat :=
  let engine := smallEngine missing fun _ => .ok (str "x")
  let prefilled := (AdapterState.executeBatch smallConfig engine 0
    [smallInput (str "s") .prefill 0 (textPayload (str "hello"))] (.start smallConfig 0)).2
  (AdapterState.executeBatch smallConfig engine 0
    [smallInput (str "s") .decode 1 payload] prefilled).2

theorem lookup_afterOneDecode_text :
    (afterOneDecode (fun _ => false) (textPayload (str "abcdefgh"))).serial.lookup (str "s") =
      some { context := some 0, nextPosition := 2, expectedDecodeStep := 3, prefillTokens := 1 } := by
  decide +kernel

theorem lookup_afterOneDecode_missing :
    (afterOneDecode (fun calls => calls = 1) (sampledTokenPayload 1)).serial.lookup (str "s") =
      some { context := some 0, nextPosition := 2, expectedDecodeStep := 1, prefillTokens := 1 } := by
  decide +kernel

/-- A decode of text, and a decode without logits, spoil the counters. -/
theorem counters_disagree :
    validateStageInput (smallInput (str "s") .decode 1 (textPayload (str "abcdefgh"))) = .ok () ∧
    ¬ CountersAgree smallConfig
      (afterOneDecode (fun _ => false) (textPayload (str "abcdefgh"))) ∧
    validateStageInput (smallInput (str "s") .decode 1 (sampledTokenPayload 1)) = .ok () ∧
    ¬ CountersAgree smallConfig
      (afterOneDecode (fun calls => calls = 1) (sampledTokenPayload 1)) := by
  refine ⟨by decide +kernel, fun h => ?_, by decide +kernel, fun h => ?_⟩
  · exact absurd (h.serial _ _ lookup_afterOneDecode_text).1 (by decide)
  · exact absurd (h.serial _ _ lookup_afterOneDecode_missing).1 (by decide)

end JetsonFabric
