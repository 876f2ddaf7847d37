import JetsonFabric.Generation.Invariant
import JetsonFabric.Inference.Executor

/-!
# Calls that may throw

A call of a stage may throw. What runs then is only the way out: no stage is called, no token is
handed out, and the exception leaves the run. `Guarded` keeps the exception and the answers of the
stages next to their state.
-/

namespace JetsonFabric

variable {σ : Type}

/-! ## Answers -/

/-- A call to a stage with its answer. -/
structure StageAnswer where
  request : StageRequest
  operation : StageOperation
  answer : Except Thrown StageRunResult

/-- The state of the stages, an exception, and the answers so far. -/
structure Guarded (σ : Type) where
  world : σ
  thrown : Option Thrown := none
  answers : List StageAnswer := []

/-- A call of a stage that may throw. -/
abbrev StageCaller (σ : Type) : Type :=
  GenerationStage → StageRequest → StageOperation → σ → Except Thrown StageRunResult × σ

/-- Calls of stages until one throws; after it nothing is called. -/
def guarded (call : StageCaller σ) : StageInvoker (Guarded σ) :=
  fun state stage request operation =>
    match state.thrown with
    | some _ => ({}, state)
    | none =>
      let (answer, world) := call stage request operation state.world
      let answers := state.answers ++ [⟨request, operation, answer⟩]
      match answer with
      | .ok result => (result, { world, answers })
      | .error thrown => ({}, { world, thrown := some thrown, answers })

namespace StageAnswer

/-- The stage reports an error, or its answer is one to another request. -/
def refused (a : StageAnswer) : Bool :=
  match a.answer with
  | .ok run => !run.ok || validateResponseIdentity a.request run.response != []
  | .error _ => false

/-- The error of an execution, or the payload kind of its answer, is text. -/
def ExecutionWhole (a : StageAnswer) : Prop :=
  ∀ run, a.answer = .ok run →
    (run.ok = false → isValidUtf8 run.errorCode = true ∧ isValidUtf8 run.errorMessage = true) ∧
    (run.ok = true → validateResponseIdentity a.request run.response = [] →
      isValidUtf8 run.response.payloadKind = true)

/-- The error of a session call is text. -/
def SessionWhole (a : StageAnswer) : Prop :=
  ∀ run, a.answer = .ok run → run.ok = false → isValidUtf8 run.errorMessage = true

/-- An answer with which a run goes on. -/
def Taken (a : StageAnswer) : Prop :=
  ∃ run, a.answer = .ok run ∧ run.ok = true ∧ validateResponseIdentity a.request run.response = [] ∧
    (a.operation = .execute → isValidUtf8 run.response.payloadKind = true)

theorem Taken.refused_eq {a : StageAnswer} (h : a.Taken) : a.refused = false := by
  obtain ⟨run, hrun, hok, hidentity, -⟩ := h
  simp [refused, hrun, hok, hidentity]

theorem Taken.executionWhole {a : StageAnswer} (h : a.Taken) (hexecute : a.operation = .execute) :
    a.ExecutionWhole := by
  obtain ⟨run, hrun, hok, -, hkind⟩ := h
  intro other hother
  obtain rfl := Except.ok.inj (hrun.symm.trans hother)
  refine ⟨fun hnot => ?_, fun _ _ => hkind hexecute⟩
  rw [hok] at hnot
  cases hnot

end StageAnswer

/-- The texts that a run reports of its answers are UTF-8. -/
structure TextsWhole (answers : List StageAnswer) : Prop where
  executed : ∀ a ∈ answers, a.operation = .execute → a.ExecutionWhole
  sessions : ∀ operation, operation ≠ StageOperation.execute → ∀ a,
    answers.find? (fun a => a.operation = operation ∧ a.refused) = some a → a.SessionWhole

/-- No call threw, and the texts that a run reports are UTF-8. -/
structure AnswersWhole (answers : List StageAnswer) : Prop extends TextsWhole answers where
  returned : ∀ a ∈ answers, ∃ run, a.answer = .ok run

theorem textsWhole_of_taken {answers : List StageAnswer} (h : ∀ a ∈ answers, a.Taken) :
    TextsWhole answers where
  executed a ha hexecute := (h a ha).executionWhole hexecute
  sessions operation _ a ha := by
    have hrefused := List.find?_some ha
    simp [(h a (List.mem_of_find?_eq_some ha)).refused_eq] at hrefused

/-- Answers of different operations are looked at apart. -/
theorem textsWhole_append {before after : List StageAnswer}
    (h : ∀ a ∈ before, a.refused = true → ∀ b ∈ after, a.operation ≠ b.operation) :
    TextsWhole (before ++ after) ↔ TextsWhole before ∧ TextsWhole after := by
  constructor
  · rintro ⟨hexecuted, hsessions⟩
    refine ⟨⟨fun a ha => hexecuted a (List.mem_append_left _ ha), fun operation hne a ha => ?_⟩,
      ⟨fun a ha => hexecuted a (List.mem_append_right _ ha), fun operation hne a ha => ?_⟩⟩
    · exact hsessions operation hne a (by rw [List.find?_append, ha, Option.some_or])
    · refine hsessions operation hne a ?_
      have hnone : before.find? (fun a => a.operation = operation ∧ a.refused) = none := by
        refine List.find?_eq_none.2 fun b hb hrefused => ?_
        have hoperation := List.find?_some ha
        simp only [decide_eq_true_eq] at hrefused hoperation
        exact h b hb hrefused.2 a (List.mem_of_find?_eq_some ha)
          (hrefused.1.trans hoperation.1.symm)
      rw [List.find?_append, hnone, Option.none_or, ha]
  · rintro ⟨hbefore, hafter⟩
    refine ⟨fun a ha => ?_, fun operation hne a ha => ?_⟩
    · rcases List.mem_append.1 ha with ha | ha
      · exact hbefore.executed a ha
      · exact hafter.executed a ha
    · rw [List.find?_append] at ha
      rcases Option.or_eq_some_iff.1 ha with ha | ⟨-, ha⟩
      · exact hbefore.sessions operation hne a ha
      · exact hafter.sessions operation hne a ha

theorem textsWhole_taken_append {before after : List StageAnswer} (h : ∀ a ∈ before, a.Taken) :
    TextsWhole (before ++ after) ↔ TextsWhole after := by
  rw [textsWhole_append fun a ha hrefused => by simp [(h a ha).refused_eq] at hrefused]
  exact and_iff_right (textsWhole_of_taken h)

/-! ## Texts of errors -/

/-- The code and the message of a result are text. -/
structure WholeError (result : GenerationResult) : Prop where
  errorCode : isValidUtf8 result.errorCode = true
  errorMessage : isValidUtf8 result.errorMessage = true

theorem OwnError.whole {error : GenerationResult} (h : OwnError error) : WholeError error :=
  ⟨h.code.isValidUtf8, h.message.isValidUtf8⟩

theorem wholeError_iff {status code message : Bytes} (hcode : IsAscii code) :
    WholeError (generationError status code message) ↔ isValidUtf8 message = true :=
  ⟨fun h => h.errorMessage, fun h => ⟨hcode.isValidUtf8, h⟩⟩

theorem isAscii_decimal (n : Int) : IsAscii (decimal n) := by
  refine List.all_eq_true.2 fun b hb => decide_eq_true ?_
  rcases mem_decimal hb with rfl | ⟨-, hle⟩
  · decide
  · exact UInt8.le_trans hle (by decide)

theorem isValidUtf8_stageMessage (stage : GenerationStage) (message : Bytes) :
    isValidUtf8 (str "stage " ++ decimal stage.stageIndex ++ str ": " ++ message) = true ↔
      isValidUtf8 message = true :=
  isValidUtf8_ascii_append ((IsAscii.append (by decide) (isAscii_decimal _)).append (by decide))

theorem stageMessage_ne_nil (stage : GenerationStage) (message : Bytes) :
    str "stage " ++ decimal stage.stageIndex ++ str ": " ++ message ≠ [] := by
  rw [List.append_assoc, List.append_assoc]
  exact List.append_ne_nil_of_left_ne_nil (by decide) _

theorem validateResponseIdentity_ascii (request : StageRequest) (response : StageResponse) :
    IsAscii (validateResponseIdentity request response) := by
  unfold validateResponseIdentity
  split <;> decide

theorem validateResponse_whole_iff {request : StageRequest} {response : StageResponse}
    (hphase : IsAscii request.phase)
    (hidentity : validateResponseIdentity request response = []) :
    isValidUtf8 (validateResponse request response) = true ↔
      isValidUtf8 response.payloadKind = true := by
  have hknown : ∀ kind, parsePayloadKind response.payloadKind = .ok kind →
      isValidUtf8 response.payloadKind = true := by
    intro kind h
    unfold parsePayloadKind at h
    split_ifs at h <;> rename_i hkind <;> rw [hkind] <;> decide +kernel
  unfold validateResponse
  simp only [hidentity, ne_eq, not_true_eq_false, if_false]
  split
  · rename_i e he
    unfold parsePayloadKind at he
    split_ifs at he
    cases he
    exact isValidUtf8_ascii_append (by decide)
  · rename_i actual hactual
    refine iff_of_true ?_ (hknown actual hactual)
    split
    · rename_i e he
      unfold parsePhase at he
      split_ifs at he
      cases he
      exact (IsAscii.append (by decide) hphase).isValidUtf8
    · split
      · rename_i e he
        unfold expectedOutput at he
        split_ifs at he
        cases he
        decide +kernel
      · split <;> decide +kernel

/-! ## The loops over the stages -/

/-- A call threw. -/
def Guarded.Threw (g : Guarded σ) : Prop :=
  g.thrown ≠ none ∧ ∃ a ∈ g.answers, ∀ run, a.answer ≠ .ok run

/-- Every call was answered with what a run goes on with. -/
structure Guarded.Clean (g : Guarded σ) : Prop where
  quiet : g.thrown = none
  taken : ∀ a ∈ g.answers, a.Taken

variable {call : StageCaller σ} {g : Guarded σ}

theorem guarded_threw (h : g.Threw) (stage : GenerationStage) (request : StageRequest)
    (operation : StageOperation) : guarded call g stage request operation = ({}, g) := by
  unfold guarded
  cases hthrown : g.thrown with
  | none => exact absurd hthrown h.1
  | some thrown => rfl

variable (call) in
theorem guarded_cases (h : g.thrown = none) (stage : GenerationStage) (request : StageRequest)
    (operation : StageOperation) :
    (guarded call g stage request operation).2.Threw ∧
        (guarded call g stage request operation).1 = {} ∨
      (guarded call g stage request operation).2.thrown = none ∧
        (guarded call g stage request operation).2.answers = g.answers ++
          [⟨request, operation, .ok (guarded call g stage request operation).1⟩] := by
  unfold guarded
  rw [h]
  rcases call stage request operation g.world with ⟨answer, world⟩
  cases answer with
  | ok run => exact .inr ⟨rfl, rfl⟩
  | error thrown =>
    refine .inl ⟨⟨nofun, ⟨request, operation, .error thrown⟩, List.mem_concat_self, ?_⟩, rfl⟩
    intro run h
    cases h

/-- All answers are taken, or one execution is refused. -/
def PassAnswers (outcome : Except GenerationResult (StageResponse × List UInt32)) (g : Guarded σ) :
    Prop :=
  match outcome with
  | .ok _ => g.Clean
  | .error error => g.Threw ∨ g.thrown = none ∧ ∃ before a run, g.answers = before ++ [a] ∧
      (∀ a ∈ before, a.Taken) ∧ a.operation = .execute ∧ a.answer = .ok run ∧
      (WholeError error ↔ a.ExecutionWhole)

theorem executionWhole_iff {request : StageRequest} {run : StageRunResult}
    {operation : StageOperation} :
    (⟨request, operation, .ok run⟩ : StageAnswer).ExecutionWhole ↔
      (run.ok = false → isValidUtf8 run.errorCode = true ∧ isValidUtf8 run.errorMessage = true) ∧
      (run.ok = true → validateResponseIdentity request run.response = [] →
        isValidUtf8 run.response.payloadKind = true) := by
  constructor
  · intro h
    exact h run rfl
  · intro h other hother
    cases hother
    exact h

theorem sessionWhole_iff {request : StageRequest} {run : StageRunResult}
    {operation : StageOperation} :
    (⟨request, operation, .ok run⟩ : StageAnswer).SessionWhole ↔
      (run.ok = false → isValidUtf8 run.errorMessage = true) := by
  constructor
  · intro h
    exact h run rfl
  · intro h other hother
    cases hother
    exact h

theorem wholeError_failed {request : StageRequest} {run : StageRunResult} (stage : GenerationStage)
    (hok : run.ok = false) :
    WholeError (generationError run.status
        (if run.errorCode = [] then str "generation_stage_failed" else run.errorCode)
        (str "stage " ++ decimal stage.stageIndex ++ str ": " ++ run.errorMessage)) ↔
      (⟨request, .execute, .ok run⟩ : StageAnswer).ExecutionWhole := by
  have hcode : isValidUtf8 (if run.errorCode = [] then str "generation_stage_failed"
      else run.errorCode) = true ↔ isValidUtf8 run.errorCode = true := by
    split
    · rename_i hnil
      rw [hnil]
      exact iff_of_true (by decide +kernel) (by decide +kernel)
    · exact Iff.rfl
  rw [executionWhole_iff]
  constructor
  · intro h
    refine ⟨fun _ => ⟨hcode.1 h.errorCode, (isValidUtf8_stageMessage stage _).1 h.errorMessage⟩,
      fun htrue => ?_⟩
    rw [hok] at htrue
    cases htrue
  · intro h
    exact ⟨hcode.2 (h.1 hok).1, (isValidUtf8_stageMessage stage _).2 (h.1 hok).2⟩

theorem wholeError_refused {request : StageRequest} {run : StageRunResult}
    (hphase : IsAscii request.phase) (hok : run.ok = true) :
    WholeError (generationError (str "502 Bad Gateway") (str "invalid_stage_response")
        (validateResponse request run.response)) ↔
      (⟨request, .execute, .ok run⟩ : StageAnswer).ExecutionWhole := by
  rw [wholeError_iff (by decide), executionWhole_iff]
  by_cases hidentity : validateResponseIdentity request run.response = []
  · rw [validateResponse_whole_iff hphase hidentity]
    simp [hok, hidentity]
  · have hown : validateResponse request run.response =
        validateResponseIdentity request run.response := if_pos hidentity
    rw [hown]
    exact iff_of_true (validateResponseIdentity_ascii _ _).isValidUtf8
      ⟨fun hfalse => absurd (hok.symm.trans hfalse) nofun, fun _ hnil => absurd hnil hidentity⟩

theorem taken_of_validateResponse {request : StageRequest} {run : StageRunResult}
    (hphase : IsAscii request.phase) (hok : run.ok = true)
    (h : validateResponse request run.response = []) :
    (⟨request, .execute, .ok run⟩ : StageAnswer).Taken := by
  have hidentity : validateResponseIdentity request run.response = [] := by
    by_contra hne
    have hown : validateResponse request run.response =
      validateResponseIdentity request run.response := if_pos hne
    exact hne (hown.symm.trans h)
  refine ⟨run, rfl, hok, hidentity, fun _ => ?_⟩
  refine (validateResponse_whole_iff hphase hidentity).1 ?_
  rw [h]
  decide +kernel

variable (call) in
theorem runPassFrom_answers (id : Bytes) (stages : List GenerationStage) (r : StageRequest)
    (hphase : IsAscii r.phase) (f : StageResponse) (ids : List UInt32) (result : GenerationResult)
    (h : g.Clean) :
    PassAnswers (runPassFrom (guarded call) id stages r f ids result g).outcome
      (runPassFrom (guarded call) id stages r f ids result g).world := by
  induction stages generalizing r f ids result g with
  | nil => exact h
  | cons stage stages ih =>
    simp only [runPassFrom]
    generalize hrequest : applyStage stage { r with requestId := id } = request
    have hrequestPhase : IsAscii request.phase := hrequest ▸ hphase
    rcases guarded_cases call h.quiet stage request .execute with
      ⟨hthrew, hempty⟩ | ⟨hquiet, hanswers⟩
    · rw [if_pos (by rw [hempty]; decide)]
      exact .inl hthrew
    generalize guarded call g stage request .execute = answered at hquiet hanswers ⊢
    obtain ⟨run, next⟩ := answered
    dsimp only at hquiet hanswers ⊢
    cases hok : run.ok with
    | false =>
      rw [if_pos (by decide)]
      exact .inr ⟨hquiet, g.answers, _, run, hanswers, h.taken, rfl, rfl,
        wholeError_failed stage hok⟩
    | true =>
      rw [if_neg (by decide)]
      by_cases hresponse : validateResponse request run.response = []
      · rw [if_neg (not_not.2 hresponse)]
        have hclean : next.Clean := by
          refine ⟨hquiet, fun a ha => ?_⟩
          rw [hanswers] at ha
          rcases List.mem_append.1 ha with ha | ha
          · exact h.taken a ha
          · rw [List.mem_singleton.1 ha]
            exact taken_of_validateResponse hrequestPhase hok hresponse
        split
        · exact ih request hrequestPhase _ _ _ hclean
        · exact ih (applyResponse request run.response) hrequestPhase _ _ _ hclean
      · rw [if_pos hresponse]
        exact .inr ⟨hquiet, g.answers, _, run, hanswers, h.taken, rfl, rfl,
          wholeError_refused hrequestPhase hok⟩

/-- The error of session calls is that of the first refused answer. -/
def Reports (answers : List StageAnswer) (firstError : Bytes) : Prop :=
  match answers.find? StageAnswer.refused with
  | none => firstError = []
  | some a => firstError ≠ [] ∧ (isValidUtf8 firstError = true ↔ a.SessionWhole)

/-- The session calls of one operation so far, with the first error. -/
def SessionAnswers (operation : StageOperation) (start : List StageAnswer) (firstError : Bytes)
    (g : Guarded σ) : Prop :=
  g.Threw ∧ firstError ≠ [] ∨ g.thrown = none ∧ ∃ answers, g.answers = start ++ answers ∧
    (∀ a ∈ answers, a.operation = operation ∧ ∃ run, a.answer = .ok run) ∧
    Reports answers firstError

/-- What the first answer to a session call reports. -/
theorem reports_firstSessionError (operation : StageOperation) (stage : GenerationStage)
    (request : StageRequest) (run : StageRunResult) :
    Reports [⟨request, operation, .ok run⟩] (firstSessionError [] stage request run) := by
  unfold Reports
  rw [List.find?_singleton]
  cases hok : run.ok with
  | false =>
    have hrefused : (⟨request, operation, .ok run⟩ : StageAnswer).refused = true := by
      simp [StageAnswer.refused, hok]
    have herror : firstSessionError [] stage request run =
        str "stage " ++ decimal stage.stageIndex ++ str ": " ++ run.errorMessage := by
      simp [firstSessionError, hok]
    rw [if_pos hrefused, herror]
    dsimp only
    rw [isValidUtf8_stageMessage, sessionWhole_iff]
    exact ⟨stageMessage_ne_nil _ _, fun hwhole _ => hwhole, fun hwhole => hwhole hok⟩
  | true =>
    by_cases hidentity : validateResponseIdentity request run.response = []
    · have hrefused : (⟨request, operation, .ok run⟩ : StageAnswer).refused = false := by
        simp [StageAnswer.refused, hok, hidentity]
      rw [if_neg (by rw [hrefused]; decide)]
      simp [firstSessionError, hok, hidentity]
    · have hrefused : (⟨request, operation, .ok run⟩ : StageAnswer).refused = true := by
        simp [StageAnswer.refused, hok, hidentity]
      have herror : firstSessionError [] stage request run = str "stage " ++
          decimal stage.stageIndex ++ str ": " ++
            validateResponseIdentity request run.response := by
        simp [firstSessionError, hok, hidentity]
      rw [if_pos hrefused, herror]
      dsimp only
      rw [isValidUtf8_stageMessage, sessionWhole_iff]
      exact ⟨stageMessage_ne_nil _ _, iff_of_true (validateResponseIdentity_ascii _ _).isValidUtf8
        fun hfalse => absurd (hok.symm.trans hfalse) nofun⟩

theorem Reports.concat {answers : List StageAnswer} {firstError : Bytes}
    (h : Reports answers firstError) (operation : StageOperation) (stage : GenerationStage)
    (request : StageRequest) (run : StageRunResult) :
    Reports (answers ++ [⟨request, operation, .ok run⟩])
      (firstSessionError firstError stage request run) := by
  have hone := reports_firstSessionError operation stage request run
  unfold Reports at h hone ⊢
  rw [List.find?_append]
  cases hfound : answers.find? StageAnswer.refused with
  | some a =>
    rw [hfound] at h
    have hsame : firstSessionError firstError stage request run = firstError := by
      simp [firstSessionError, h.1]
    rw [hsame]
    exact h
  | none =>
    rw [hfound] at h
    obtain rfl : firstError = [] := h
    exact hone

/-- A step of a loop of session calls. -/
theorem SessionAnswers.step {operation : StageOperation} {start : List StageAnswer}
    {firstError : Bytes} (h : SessionAnswers operation start firstError g) (stage : GenerationStage)
    (request : StageRequest) :
    SessionAnswers operation start
      (firstSessionError firstError stage request (guarded call g stage request operation).1)
      (guarded call g stage request operation).2 := by
  have hfailed : firstSessionError firstError stage request {} ≠ [] := by
    unfold firstSessionError
    split
    · exact stageMessage_ne_nil _ _
    · rename_i hne
      exact fun hnil => hne ⟨by decide, hnil⟩
  rcases h with ⟨hthrew, -⟩ | ⟨hquiet, answers, hanswers, hall, hreports⟩
  · rw [guarded_threw hthrew]
    exact .inl ⟨hthrew, hfailed⟩
  rcases guarded_cases call hquiet stage request operation with
    ⟨hthrew, hempty⟩ | ⟨hnext, hadded⟩
  · rw [hempty]
    exact .inl ⟨hthrew, hfailed⟩
  refine .inr ⟨hnext, _, by rw [hadded, hanswers, List.append_assoc], ?_, hreports.concat ..⟩
  exact List.forall_mem_append.2 ⟨hall, List.forall_mem_singleton.2 ⟨rfl, _, rfl⟩⟩

variable (call) in
theorem closeSessionsFrom_answers (request : GenerationRequest) (stages : List GenerationStage)
    {start : List StageAnswer} {firstError : Bytes}
    (h : SessionAnswers .closeSession start firstError g) :
    SessionAnswers .closeSession start
      (closeSessionsFrom request (guarded call) stages firstError g).1
      (closeSessionsFrom request (guarded call) stages firstError g).2 := by
  induction stages generalizing firstError g with
  | nil => exact h
  | cons stage stages ih => exact ih (h.step stage (closeRequest request stage))

variable (call) in
theorem rollbackSessionsFrom_answers (request : GenerationRequest) (n : Int)
    (stages : List GenerationStage) (result : GenerationResult) {start : List StageAnswer}
    {firstError : Bytes} (h : SessionAnswers .rollbackSession start firstError g) :
    SessionAnswers .rollbackSession start
      (rollbackSessionsFrom request (guarded call) n stages firstError result g).1
      (rollbackSessionsFrom request (guarded call) n stages firstError result g).2.2 := by
  induction stages generalizing firstError result g with
  | nil => exact h
  | cons stage stages ih => exact ih _ (h.step stage (rollbackRequest request stage n))

theorem sessionAnswers_start (operation : StageOperation) (h : g.thrown = none) :
    SessionAnswers operation g.answers [] g :=
  .inr ⟨h, [], (List.append_nil _).symm, by simp, rfl⟩

theorem Reports.textsWhole_iff {operation : StageOperation} (hne : operation ≠ .execute)
    {answers : List StageAnswer} {firstError : Bytes} (h : Reports answers firstError)
    (hall : ∀ a ∈ answers, a.operation = operation ∧ ∃ run, a.answer = .ok run) :
    TextsWhole answers ↔ isValidUtf8 firstError = true := by
  have hfind : answers.find? (fun a => a.operation = operation ∧ a.refused) =
      answers.find? StageAnswer.refused := by
    refine List.find?_congr fun a ha => ?_
    simp [(hall a ha).1]
  have hexecuted : ∀ a ∈ answers, a.operation = .execute → a.ExecutionWhole :=
    fun a ha hexecute => absurd ((hall a ha).1.symm.trans hexecute) hne
  unfold Reports at h
  constructor
  · intro hwhole
    cases hfound : answers.find? StageAnswer.refused with
    | none =>
      rw [hfound] at h
      rw [show firstError = [] from h]
      decide +kernel
    | some a =>
      rw [hfound] at h
      exact h.2.2 (hwhole.sessions operation hne a (hfind.trans hfound))
  · intro hwhole
    refine ⟨hexecuted, fun other hother a ha => ?_⟩
    have hsame := List.find?_some ha
    simp only [decide_eq_true_eq] at hsame
    obtain rfl := (hall a (List.mem_of_find?_eq_some ha)).1.symm.trans hsame.1
    rw [hfind] at ha
    rw [ha] at h
    exact h.2.1 hwhole

theorem SessionAnswers.clean {operation : StageOperation} {before : Guarded σ}
    (h : SessionAnswers operation before.answers [] g) (hbefore : before.Clean)
    (hne : operation ≠ .execute) : g.Clean := by
  rcases h with ⟨-, hne⟩ | ⟨hquiet, answers, hanswers, hall, hreports⟩
  · exact absurd rfl hne
  refine ⟨hquiet, fun a ha => ?_⟩
  rw [hanswers] at ha
  rcases List.mem_append.1 ha with ha | ha
  · exact hbefore.taken a ha
  · obtain ⟨hoperation, run, hrun⟩ := hall a ha
    have hrefused : a.refused = false := by
      unfold Reports at hreports
      cases hfound : answers.find? StageAnswer.refused with
      | none => simpa using List.find?_eq_none.1 hfound a ha
      | some b =>
        rw [hfound] at hreports
        exact absurd rfl hreports.1
    simp only [StageAnswer.refused, hrun, Bool.or_eq_false_iff, Bool.not_eq_false',
      bne_eq_false_iff_eq] at hrefused
    refine ⟨run, hrun, hrefused.1, hrefused.2, fun hexecute => ?_⟩
    exact absurd (hoperation.symm.trans hexecute) hne

/-! ## The run -/

/-- A call threw, or the result can be written if the texts are whole. -/
def RunAnswers (f : Finished (Guarded σ)) : Prop :=
  f.world.Threw ∨ f.world.thrown = none ∧ (∀ a ∈ f.world.answers, ∃ run, a.answer = .ok run) ∧
    ((f.result.ok = false → WholeError f.result) ↔ TextsWhole f.world.answers)

variable {runner : GenerationRunner (Guarded σ)} {request : GenerationRequest}
  {st : RunState (Guarded σ)}

theorem closeSessionsFrom_threw (h : g.Threw) (stages : List GenerationStage) (firstError : Bytes) :
    (closeSessionsFrom request (guarded call) stages firstError g).2 = g := by
  induction stages generalizing firstError with
  | nil => rfl
  | cons stage stages ih =>
    simp only [closeSessionsFrom, guarded_threw h]
    exact ih _

theorem isValidUtf8_cleanup (message cleanupError : Bytes) :
    isValidUtf8 (message ++ str "; cleanup: " ++ cleanupError) = true ↔
      isValidUtf8 message = true ∧ isValidUtf8 cleanupError = true := by
  have hsplit : str "; cleanup: " = 59 :: str " cleanup: " := by decide
  constructor
  · intro h
    have hmessage : isValidUtf8 message = true := by
      rw [hsplit, List.append_assoc, List.cons_append] at h
      exact isValidUtf8_of_append_ascii (by decide) h
    rw [List.append_assoc, isValidUtf8_append_iff hmessage,
      isValidUtf8_ascii_append (by decide)] at h
    exact ⟨hmessage, h⟩
  · rintro ⟨hmessage, hcleanup⟩
    rw [List.append_assoc]
    exact isValidUtf8_append hmessage ((isValidUtf8_ascii_append (by decide)).2 hcleanup)

theorem isAscii_decodeRequest (st : RunState (Guarded σ)) (tokens : List UInt32) :
    IsAscii (decodeRequest request st tokens).phase :=
  show IsAscii (str "decode") by decide

section Invariant

variable (hcalls : runner.invokeStage = guarded call)
include hcalls

/-- Closing the sessions when only the last answers were refused. -/
theorem closeSessions_answers {before last : List StageAnswer} (hquiet : g.thrown = none)
    (hanswers : g.answers = before ++ last) (htaken : ∀ a ∈ before, a.Taken)
    (hlast : ∀ a ∈ last, a.operation ≠ .closeSession ∧ ∃ run, a.answer = .ok run) :
    (closeSessions request runner.invokeStage g).2.Threw ∨
      (closeSessions request runner.invokeStage g).2.thrown = none ∧
      (∀ a ∈ (closeSessions request runner.invokeStage g).2.answers, ∃ run, a.answer = .ok run) ∧
      (TextsWhole (closeSessions request runner.invokeStage g).2.answers ↔
        TextsWhole last ∧ isValidUtf8 (closeSessions request runner.invokeStage g).1 = true) := by
  rw [hcalls]
  refine (closeSessionsFrom_answers call request request.stages
    (sessionAnswers_start .closeSession hquiet)).imp And.left ?_
  rintro ⟨hnext, closed, hclosed, hall, hreports⟩
  rw [hanswers, List.append_assoc] at hclosed
  rw [closeSessions, hclosed]
  refine ⟨hnext, ?_, ?_⟩
  · refine List.forall_mem_append.2 ⟨fun a ha => ?_, List.forall_mem_append.2
      ⟨fun a ha => (hlast a ha).2, fun a ha => (hall a ha).2⟩⟩
    obtain ⟨run, hrun, -⟩ := htaken a ha
    exact ⟨run, hrun⟩
  · have hdisjoint : ∀ a ∈ last, a.refused = true → ∀ b ∈ closed, a.operation ≠ b.operation := by
      intro a ha _ b hb
      rw [(hall b hb).1]
      exact (hlast a ha).1
    rw [textsWhole_taken_append htaken, textsWhole_append hdisjoint,
      hreports.textsWhole_iff (by decide) hall]

/-- A failed run reports its error and that of the closings. -/
theorem failWith_answers {error : GenerationResult} (hnotOk : error.ok = false)
    (h : st.world.Threw ∨ st.world.thrown = none ∧ ∃ before last,
      st.world.answers = before ++ last ∧ (∀ a ∈ before, a.Taken) ∧
      (∀ a ∈ last, a.operation ≠ .closeSession ∧ ∃ run, a.answer = .ok run) ∧
      (WholeError error ↔ TextsWhole last)) :
    RunAnswers (failWith runner request st error) := by
  rcases h with hthrew | ⟨hquiet, before, last, hanswers, htaken, hlast, hwhole⟩
  · left
    simp only [failWith, closeSessions, hcalls]
    rw [closeSessionsFrom_threw hthrew]
    exact hthrew
  refine (closeSessions_answers hcalls hquiet hanswers htaken hlast).imp_right ?_
  rintro ⟨hnext, hall, htexts⟩
  refine ⟨hnext, hall, ?_⟩
  simp only [failWith]
  rw [htexts, ← hwhole]
  split
  · rw [hnotOk]
    constructor
    · intro h
      obtain ⟨hcode, hmessage⟩ := h rfl
      obtain ⟨hmessage, hcleanup⟩ := (isValidUtf8_cleanup _ _).1 hmessage
      exact ⟨⟨hcode, hmessage⟩, hcleanup⟩
    · rintro ⟨herror, hcleanup⟩ -
      exact ⟨herror.errorCode, (isValidUtf8_cleanup _ _).2 ⟨herror.errorMessage, hcleanup⟩⟩
  · rename_i hnil
    rw [not_not.1 hnil, hnotOk]
    exact ⟨fun h => ⟨h rfl, by decide +kernel⟩, fun h _ => h.1⟩

theorem failWith_own (h : st.world.Clean) {error : GenerationResult} (herror : OwnError error) :
    RunAnswers (failWith runner request st error) :=
  failWith_answers hcalls herror.notOk (.inr ⟨h.quiet, st.world.answers, [],
    (List.append_nil _).symm, h.taken, by simp,
    iff_of_true herror.whole (textsWhole_of_taken (by simp))⟩)

theorem failWith_pass {outcome : Except GenerationResult (StageResponse × List UInt32)}
    {error : GenerationResult} (hpass : PassAnswers outcome st.world)
    (herror : outcome = .error error) (hnotOk : error.ok = false) :
    RunAnswers (failWith runner request st error) := by
  rw [herror] at hpass
  refine failWith_answers hcalls hnotOk (hpass.imp_right ?_)
  rintro ⟨hquiet, before, a, run, hanswers, htaken, hexecute, hrun, hwhole⟩
  refine ⟨hquiet, before, [a], hanswers, htaken, ?_, hwhole.trans ?_⟩
  · rintro other hother
    rw [List.mem_singleton.1 hother, hexecute]
    exact ⟨by decide, run, hrun⟩
  · constructor
    · intro h
      refine ⟨fun other hother _ => (List.mem_singleton.1 hother) ▸ h, fun operation hne b hb => ?_⟩
      have hsame := List.find?_some hb
      rw [List.mem_singleton.1 (List.mem_of_find?_eq_some hb)] at hsame
      simp only [decide_eq_true_eq] at hsame
      exact absurd (hsame.1.symm.trans hexecute) hne
    · intro h
      exact h.executed a (List.mem_singleton_self a) hexecute

theorem finish_answers (h : st.world.Clean) : RunAnswers (finish runner request st) := by
  refine (closeSessions_answers hcalls h.quiet (List.append_nil _).symm h.taken
    (List.forall_mem_nil _)).imp_right ?_
  rintro ⟨hnext, hall, htexts⟩
  refine ⟨hnext, hall, ?_⟩
  simp only [finish]
  rw [htexts, and_iff_right (textsWhole_of_taken (List.forall_mem_nil _))]
  split
  · rw [wholeError_iff (by decide)]
    exact ⟨fun hwhole => hwhole rfl, fun hmessage _ => hmessage⟩
  · rename_i hnil
    rw [not_not.1 hnil]
    exact iff_of_true nofun (by decide +kernel)

variable (request) in
theorem runPass_answers (h : g.Clean) {r : StageRequest} (hphase : IsAscii r.phase)
    (result : GenerationResult) :
    PassAnswers (runPass request runner.invokeStage r result g).outcome
      (runPass request runner.invokeStage r result g).world := by
  rw [hcalls]
  exact runPassFrom_answers call r.requestId request.stages r hphase {} [] result h

variable (request) in
theorem rollbackSessions_answers (h : g.thrown = none) (n : Int) (result : GenerationResult) :
    SessionAnswers .rollbackSession g.answers
      (rollbackSessions request runner.invokeStage n result g).1
      (rollbackSessions request runner.invokeStage n result g).2.2 := by
  rw [hcalls]
  exact rollbackSessionsFrom_answers call request n request.stages result
    (sessionAnswers_start .rollbackSession h)

/-- **Every step keeps the answers taken**, and every end reports the others. -/
theorem answers_invariant :
    RunInvariant runner request (fun st => st.world.Clean) (fun st => st.world.Clean)
      (fun st => st.world.Clean) RunAnswers where
  prefillFailed _ _ h herror := failWith_own hcalls h herror
  prefillStop _ _ h := h
  prefillToken _ _ _ _ _ h _ := h
  failed _ _ h herror := failWith_own hcalls h herror
  passFailed st tokens error h _ herror :=
    failWith_pass hcalls
      (runPass_answers request hcalls h (isAscii_decodeRequest st tokens) st.result) herror
      (runPassFrom_error herror)
  pass st tokens answer h _ hanswer := by
    have hpass := runPass_answers request hcalls h
      (r := decodeRequest request st tokens) (isAscii_decodeRequest st tokens) st.result
    rw [hanswer] at hpass
    exact hpass
  head _ h := h
  rollback st n _ h hdone := by
    have hsessions := rollbackSessions_answers request hcalls h.quiet n st.result
    rw [hdone] at hsessions
    exact hsessions.clean h (by decide)
  rollbackFailed st n h := by
    refine failWith_answers hcalls rfl
      ((rollbackSessions_answers request hcalls h.quiet n st.result).imp And.left ?_)
    rintro ⟨hquiet, answers, hanswers, hall, hreports⟩
    refine ⟨hquiet, st.world.answers, answers, hanswers, h.taken, fun a ha => ?_, ?_⟩
    · rw [(hall a ha).1]
      exact ⟨by decide, (hall a ha).2⟩
    · rw [hreports.textsWhole_iff (by decide) hall]
      exact wholeError_iff (by decide)
  counted _ _ _ h := h
  stepped _ _ h := h
  token _ _ _ _ h _ := h
  stop _ h := h
  finished st h := finish_answers hcalls h

end Invariant

/-- **The result of a run can be written exactly when its answers are whole.** -/
theorem run_whole_iff (hcalls : runner.invokeStage = guarded call) (sink : TokenSink) (world : σ) :
    ((runner.run request (some sink) { world }).world.thrown = none ∧
      ((runner.run request (some sink) { world }).result.ok = false →
        WholeError (runner.run request (some sink) { world }).result)) ↔
      AnswersWhole (runner.run request (some sink) { world }).world.answers := by
  have hstart : (({ world } : Guarded σ)).Clean := ⟨rfl, by simp⟩
  have hphase : IsAscii (initialRequest request (str "prefill") 0 []).phase :=
    show IsAscii (str "prefill") by decide
  have hpass := runPass_answers request hcalls hstart hphase {}
  have hrun : RunAnswers (runner.run request (some sink) { world }) := by
    refine (answers_invariant hcalls).run_leaves sink rfl (fun error herror => ?_)
      (fun answer hanswer => ?_)
    · exact failWith_pass hcalls hpass herror (runPassFrom_error herror)
    · rw [hanswer] at hpass
      exact hpass
  rcases hrun with ⟨hthrown, a, ha, hnot⟩ | ⟨hquiet, hall, hwhole⟩
  · refine iff_of_false (fun h => hthrown h.1) fun h => ?_
    obtain ⟨run, hok⟩ := h.returned a ha
    exact hnot run hok
  · rw [hwhole]
    exact ⟨fun h => ⟨h.2, hall⟩, fun h => ⟨hquiet, h.toTextsWhole⟩⟩

end JetsonFabric
