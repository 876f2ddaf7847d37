import JetsonFabric.Adapters.SessionSpecs
import JetsonFabric.Lib.Logs

/-!
# What llama.cpp answers

The answers of llama.cpp and of the tokenizer during a call, with the payload of its input, decide
how the call ends.

* `SerialEnd`, **`runSerial_end`**: how a serial call ends;
* `PrefillTold`, **`runSharedPrefill_told`**: how a prefill of the shared mode ends.
-/

namespace JetsonFabric

open Stops

/-! ## Answers -/

/-- What one call was answered. -/
inductive LlamaAnswer
  | tokens (tokens : List Int32)
  | status (status : Int)
  | row (exposed : Bool)
  | ends (flag : Bool)
  | text
  | done
  | exception
  deriving DecidableEq

namespace LlamaAnswer

/-- An answer that a call cannot be completed with. -/
def failed : LlamaAnswer → Bool
  | .status code => code ≠ 0
  | .row exposed => !exposed
  | .exception => true
  | _ => false

/-- An answer that ends a part by an exception; `rows`: also a missing row. -/
def throws (rows : Bool) : LlamaAnswer → Bool
  | .row exposed => rows && !exposed
  | .exception => true
  | _ => false

theorem failed_of_throws {rows : Bool} {a : LlamaAnswer} (h : a.throws rows = true) :
    a.failed = true := by
  cases a <;> simp_all [throws, failed]

end LlamaAnswer

section Logs

variable {κ φ : Type}

/-- A library whose state keeps its answers. -/
structure LlamaLog (engine : LlamaEngine κ φ) where
  answers : κ → List LlamaAnswer
  tokenize : ∀ text, Records answers (answered .exception .tokens) (engine.tokenize text)
  tokenPiece : ∀ token,
    Records answers (answered .exception fun _ => .text) (engine.tokenPiece token)
  isEndToken : ∀ token, Records answers (answered .exception .ends) (engine.isEndToken token)
  createContext : ∀ params,
    Records answers (answered .exception fun _ => .done) (engine.createContext params)
  decode : ∀ context rows,
    Records answers (answered .exception .status) (engine.decode context rows)
  getEmbeddings : ∀ context,
    Records answers (answered .exception fun row => .row row.isSome) (engine.getEmbeddings context)
  getEmbeddingsIth : ∀ context i,
    Records answers (answered .exception fun row => .row row.isSome)
      (engine.getEmbeddingsIth context i)
  getLogitsIth : ∀ context i,
    Records answers (answered .exception fun row => .row row.isSome) (engine.getLogitsIth context i)
  memorySeqRm : ∀ context sequence start stop,
    Records answers (answered .exception fun _ => .done)
      (engine.memorySeqRm context sequence start stop)

/-- The library with its answers beside its state. -/
def LlamaEngine.recorded (engine : LlamaEngine κ φ) : LlamaEngine (κ × List LlamaAnswer) φ where
  less := engine.less
  tokenize text := record (answered .exception .tokens) (engine.tokenize text)
  tokenPiece token := record (answered .exception fun _ => .text) (engine.tokenPiece token)
  isEndToken token := record (answered .exception .ends) (engine.isEndToken token)
  createContext params := record (answered .exception fun _ => .done) (engine.createContext params)
  decode context rows := record (answered .exception .status) (engine.decode context rows)
  getEmbeddings context :=
    record (answered .exception fun row => .row row.isSome) (engine.getEmbeddings context)
  getEmbeddingsIth context i :=
    record (answered .exception fun row => .row row.isSome) (engine.getEmbeddingsIth context i)
  getLogitsIth context i :=
    record (answered .exception fun row => .row row.isSome) (engine.getLogitsIth context i)
  memorySeqRm context sequence start stop :=
    record (answered .exception fun _ => .done) (engine.memorySeqRm context sequence start stop)

/-- The answers of a recorded library. -/
def recordedLog (engine : LlamaEngine κ φ) : LlamaLog engine.recorded where
  answers := Prod.snd
  tokenize _ _ := rfl
  tokenPiece _ _ := rfl
  isEndToken _ _ := rfl
  createContext _ _ := rfl
  decode _ _ _ := rfl
  getEmbeddings _ _ := rfl
  getEmbeddingsIth _ _ _ := rfl
  getLogitsIth _ _ _ := rfl
  memorySeqRm _ _ _ _ _ := rfl

variable {engine : LlamaEngine κ φ}

/-- The answers during a step of the adapter. -/
def LlamaLog.during (L : LlamaLog engine) (config : LlamaCppStageConfig)
    (s : AdapterState κ) (a : AdapterStep) : List LlamaAnswer :=
  (L.answers (s.after config engine a).llama).drop (L.answers s.llama).length

end Logs

/-! ## Rows of an input -/

/-- A little-endian vector of tokens. -/
def TokenVector (payload : Payload) : Prop :=
  ∃ count : Int, payload.tensor.shape = [count] ∧ 0 < count ∧
    (payload.tensor.dtype = str "i32" ∨ payload.tensor.dtype = str "u32") ∧
    payload.tensor.byteOrder = str "little" ∧ payload.tensor.layout = str "row_major" ∧
    (payload.bytes.length : Int) = 4 * count

/-- Rows of floats; their bytes are counted as a `std::size_t`. -/
def ActivationRows (payload : Payload) (nEmbd : Nat) : Prop :=
  ∃ rows : Int, payload.tensor.shape = [rows, (nEmbd : Int)] ∧ 0 < rows ∧
    payload.tensor.dtype = str "f32" ∧ payload.bytes.length = rows.toNat * nEmbd * 4 % 2 ^ 64

/-- Text or tokens for the first stage, activations after it. -/
def WellFormed (config : LlamaCppStageConfig) (payload : Payload) : Prop :=
  if config.position.isFirst then
    match payload.kind with
    | .text => True
    | .tokens => TokenVector payload
    | .sampledToken => TokenVector payload ∧ payload.bytes.length = 4
    | _ => False
  else ActivationRows payload config.nEmbd

/-- The tokens of an input of the first stage. -/
def givenTokens (payload : Payload) (answers : List LlamaAnswer) : List Int32 :=
  if payload.kind = .text then
    (answers.findSome? fun | .tokens tokens => some tokens | _ => none).getD []
  else readI32s payload.bytes

/-- The number of rows of an input. -/
def givenRows (config : LlamaCppStageConfig) (payload : Payload) (answers : List LlamaAnswer) :
    Nat :=
  if config.position.isFirst then (givenTokens payload answers).length
  else (payload.tensor.shape.headD 0).toNat

theorem decodeTokenIds_cases (payload : Payload) :
    TokenVector payload ∧ decodeTokenIds payload = .ok (readI32s payload.bytes) ∨
      ¬ TokenVector payload ∧ ∃ thrown, decodeTokenIds payload = .error thrown := by
  unfold decodeTokenIds TokenVector
  split
  · rename_i count hshape
    split
    · rename_i hbad
      refine .inr ⟨?_, _, rfl⟩
      rintro ⟨other, hother, hpos, hdtype, horder, hlayout, hlength⟩
      cases hother.symm.trans hshape
      rcases hbad with ⟨hi, hu⟩ | hbad | hbad | hbad | hbad | hbad
      · exact hdtype.elim hi hu
      all_goals first | exact hbad horder | exact hbad hlayout | omega
    · rename_i hgood
      simp only [not_or, not_and, not_not, not_le] at hgood
      obtain ⟨hdtype, hpos, horder, hlayout, hmod, hcount⟩ := hgood
      refine .inl ⟨⟨count, hshape, hpos, ?_, horder, hlayout, by omega⟩, rfl⟩
      exact (em _).imp_right hdtype
  · rename_i hshape
    refine .inr ⟨?_, _, rfl⟩
    rintro ⟨count, hcount, -⟩
    exact hshape count hcount

theorem length_readI32s (bytes : Bytes) : (readI32s bytes).length = bytes.length / 4 := by
  fun_induction readI32s bytes with
  | case1 b0 b1 b2 b3 rest ih => simp only [List.length_cons, ih]; omega
  | case2 bytes h =>
    rcases bytes with _ | ⟨a, _ | ⟨b, _ | ⟨c, _ | ⟨d, rest⟩⟩⟩⟩
    · rfl
    · simp
    · simp
    · simp
    · exact absurd rfl (h a b c d rest)

theorem decodeSingleToken_cases (payload : Payload) :
    (TokenVector payload ∧ payload.bytes.length = 4) ∧
        (decodeSingleToken payload).map ([·]) = .ok (readI32s payload.bytes) ∨
      ¬ (TokenVector payload ∧ payload.bytes.length = 4) ∧
        ∃ thrown, decodeSingleToken payload = .error thrown := by
  unfold decodeSingleToken
  rcases decodeTokenIds_cases payload with ⟨hvector, heq⟩ | ⟨hvector, thrown, heq⟩ <;> rw [heq]
  · have hlength := length_readI32s payload.bytes
    have hmod : payload.bytes.length % 4 = 0 := by
      obtain ⟨count, -, -, -, -, -, hcount⟩ := hvector
      omega
    split
    · rename_i herror
      cases herror
    · rename_i token hone
      have hone : readI32s payload.bytes = [token] := Except.ok.inj hone
      rw [hone] at hlength ⊢
      simp only [List.length_cons, List.length_nil] at hlength
      exact .inl ⟨⟨hvector, by omega⟩, rfl⟩
    · rename_i tokens hmany hok
      refine .inr ⟨fun h => ?_, _, rfl⟩
      rw [h.2] at hlength
      obtain ⟨token, hone⟩ := List.length_eq_one_iff.mp hlength
      exact hmany token ((Except.ok.inj hok).symm.trans hone)
  · exact .inr ⟨fun h => hvector h.1, thrown, rfl⟩

theorem activationTokenCount_cases (payload : Payload) (nEmbd : Nat) :
    ActivationRows payload nEmbd ∧
        activationTokenCount payload nEmbd = .ok (payload.tensor.shape.headD 0).toNat ∨
      ¬ ActivationRows payload nEmbd ∧
        ∃ thrown, activationTokenCount payload nEmbd = .error thrown := by
  unfold activationTokenCount ActivationRows
  split
  · rename_i rows hidden hshape
    split
    · rename_i hbad
      refine .inr ⟨?_, _, rfl⟩
      rintro ⟨other, hother, hpos, hdtype, -⟩
      cases hshape.symm.trans hother
      rcases hbad with hbad | hbad | hbad
      · exact hbad hdtype
      · exact hbad rfl
      · omega
    rename_i hgood
    simp only [not_or, not_not, not_le] at hgood
    obtain ⟨hdtype, rfl, hpos⟩ := hgood
    split
    · rename_i hlength
      refine .inr ⟨?_, _, rfl⟩
      rintro ⟨other, hother, -, -, hother'⟩
      cases hshape.symm.trans hother
      exact hlength hother'
    · rename_i hlength
      rw [hshape]
      exact .inl ⟨⟨rows, rfl, hpos, hdtype, not_not.mp hlength⟩, rfl⟩
  · rename_i hshape
    refine .inr ⟨?_, _, rfl⟩
    rintro ⟨rows, hrows, -⟩
    exact hshape _ _ hrows

/-! ## Parts that the answers decide -/

/-- Whether a part ends by an exception. -/
def Stop.isThrown : Stop → Bool
  | .thrown _ => true
  | .result _ => false

section Told

variable {κ φ α β : Type} {engine : LlamaEngine κ φ} {L : LlamaLog engine} {rows : Bool}
  {unreported : Prop} {R : α → Prop} {R' : β → Prop}

/-- No answer failed. -/
def Answered (answers : List LlamaAnswer) : Prop := ∀ a ∈ answers, a.failed = false

/-- How the answers decide an end; an `unreported` token throws by itself. -/
def EndTold (rows : Bool) (unreported : Prop) (R : α → Prop) :
    Except Stop α → List LlamaAnswer → Prop
  | .ok a, answers => R a ∧ ¬ unreported ∧ Answered answers
  | .error (.result _), answers => (∀ a ∈ answers, a.throws rows = false) ∧ ¬ Answered answers
  | .error (.thrown _), answers =>
    (∃ a ∈ answers, a.throws rows = true) ∨ unreported ∧ Answered answers

/-- A part whose end the answers decide. -/
def Told (L : LlamaLog engine) (rows : Bool) (unreported : Prop) (R : α → Prop)
    (x : Stops Stop κ α) : Prop :=
  ∀ k, x.Adds L.answers k fun r _ new => EndTold rows unreported R r new

theorem answered_append {a b : List LlamaAnswer} : Answered (a ++ b) ↔ Answered a ∧ Answered b :=
  List.forall_mem_append

theorem not_answered_of_mem {a : LlamaAnswer} {answers : List LlamaAnswer} (hmem : a ∈ answers)
    (h : a.failed = true) : ¬ Answered answers := fun hall => by
  rw [hall a hmem] at h
  cases h

theorem EndTold.append {a b : List LlamaAnswer} {r : Except Stop β} (ha : Answered a)
    (hb : EndTold rows unreported R' r b) : EndTold rows unreported R' r (a ++ b) := by
  have hquiet : ∀ x ∈ a, x.throws rows = false := fun x hx =>
    Bool.eq_false_iff.mpr fun h => not_answered_of_mem hx (LlamaAnswer.failed_of_throws h) ha
  rcases r with (e | thrown) | value
  · exact ⟨List.forall_mem_append.mpr ⟨hquiet, hb.1⟩, fun h => hb.2 (answered_append.mp h).2⟩
  · refine hb.imp ?_ fun h => ⟨h.1, answered_append.mpr ⟨ha, h.2⟩⟩
    rintro ⟨x, hx, hthrows⟩
    exact ⟨x, List.mem_append_right _ hx, hthrows⟩
  · exact ⟨hb.1, hb.2.1, answered_append.mpr ⟨ha, hb.2.2⟩⟩

theorem told_pure {a : α} (hR : R a) (hreported : ¬ unreported) :
    Told L rows unreported R (pure a) := fun _ =>
  adds_pure ⟨hR, hreported, List.forall_mem_nil _⟩

theorem Told.bind {x : Stops Stop κ α} {f : α → Stops Stop κ β} (hx : Told L rows False R x)
    (hf : ∀ a, R a → Told L rows unreported R' (f a)) : Told L rows unreported R' (x >>= f) := by
  intro k
  refine adds_bind (R := fun a _ new => R a ∧ Answered new) ((hx k).imp ?_) ?_
  · rintro ((e | thrown) | a) t new h
    · exact h
    · exact .inl (h.resolve_right fun h => h.1)
    · exact ⟨h.1, h.2.2⟩
  · intro a t new h
    exact (hf a h.1 t).imp fun r u more hmore => hmore.append h.2

theorem told_call {x : Stops Thrown κ α} {answer : α → LlamaAnswer}
    (hx : Records L.answers (answered .exception answer) x)
    (hgood : ∀ a, (answer a).failed = false) :
    Told L rows False (fun _ => True) (engineCall x) := fun k =>
  adds_mapStop <| hx.adds fun r t => by
    cases r with
    | error thrown => exact .inl ⟨.exception, List.mem_cons_self, rfl⟩
    | ok a => exact ⟨trivial, not_false, List.forall_mem_singleton.mpr (hgood a)⟩

theorem told_row {x : Stops Thrown κ (Option α)} {f : Option α → Stops Stop κ β} {e : Stop}
    (hx : Records L.answers (answered .exception fun row => .row row.isSome) x)
    (hnone : f none = stop e) (he : e.isThrown = rows)
    (hsome : ∀ a, Told L rows unreported R' (f (some a))) :
    Told L rows unreported R' (engineCall x >>= f) := by
  intro k
  refine adds_bind (R := fun row _ new => new = [.row row.isSome]) ?_ ?_
  · refine adds_mapStop (hx.adds fun r t => ?_)
    cases r with
    | error thrown => exact .inl ⟨.exception, List.mem_cons_self, rfl⟩
    | ok row => rfl
  · rintro (- | a) t new rfl
    · rw [hnone]
      refine adds_stop ?_
      have hfailed : ¬ Answered ([.row false] ++ []) := fun h => nomatch h (.row false) (by simp)
      subst he
      cases e with
      | result error => exact ⟨by simp [LlamaAnswer.throws, Stop.isThrown], hfailed⟩
      | thrown thrown => exact .inl ⟨.row false, by simp, rfl⟩
    · refine (hsome a t).imp fun r u more hmore => hmore.append ?_
      exact List.forall_mem_singleton.mpr rfl

theorem told_status {x : Stops Thrown κ Int} {f : Unit → Stops Stop κ β}
    (hx : Records L.answers (answered .exception .status) x)
    (hf : Told L rows unreported R' (f ())) :
    Told L rows unreported R' (engineCall x >>= fun status =>
      stopIf (status ≠ 0) (.result (decodeFailure status)) >>= f) := by
  intro k
  refine adds_bind (R := fun status _ new => new = [.status status]) ?_ ?_
  · refine adds_mapStop (hx.adds fun r t => ?_)
    cases r with
    | error thrown => exact .inl ⟨.exception, List.mem_cons_self, rfl⟩
    | ok status => rfl
  · rintro status t new rfl
    refine adds_bind_stopIf (fun hbad => ?_) fun hgood => ?_
    · refine ⟨by simp [LlamaAnswer.throws], fun h => ?_⟩
      have hzero := h (.status status) (by simp)
      exact hbad (by simpa [LlamaAnswer.failed] using hzero)
    · refine (hf t).imp fun r u more hmore => hmore.append ?_
      exact List.forall_mem_singleton.mpr (by simpa [LlamaAnswer.failed] using hgood)

end Told

/-! ## Outputs -/

variable {κ φ : Type} {config : LlamaCppStageConfig} {engine : LlamaEngine κ φ}
  {L : LlamaLog engine} {input : StageInput}

/-- A token that cannot be reported as part of the prompt. -/
def Negative (tokens : List Int32) : Prop := ∃ token ∈ tokens, token < 0

variable (config L) in
theorem outputForRow_told (context : Nat) (row size : Int) :
    Told L false False (fun _ => True) (outputForRow config engine context row size) := by
  unfold outputForRow
  split
  · exact told_row (L.getEmbeddingsIth context row) rfl rfl fun _ => told_pure trivial not_false
  · refine told_row (L.getLogitsIth context row) rfl rfl fun logits => ?_
    refine (told_call (L.isEndToken _) fun _ => rfl).bind fun flag _ => ?_
    split
    · exact told_pure trivial not_false
    · refine (told_call (L.tokenPiece _) fun _ => rfl).bind fun text _ => ?_
      exact told_pure trivial not_false

theorem addRow_told (context row : Nat) (tokens : List Int32) (output : StageOutput) :
    Told L false False (fun x => x.1.length = tokens.length + 1)
      (addRow config engine context row tokens output) := by
  unfold addRow
  refine told_row (L.getLogitsIth context row) rfl rfl fun logits => ?_
  refine (told_call (L.isEndToken _) fun _ => rfl).bind fun flag _ => ?_
  split
  · exact told_pure List.length_append not_false
  · refine (told_call (L.tokenPiece _) fun _ => rfl).bind fun piece _ => ?_
    exact told_pure List.length_append not_false

theorem addRows_told (context rest row : Nat) (tokens : List Int32) (output : StageOutput) :
    Told L false False (fun x => x.1.length = tokens.length + rest)
      (addRows config engine context rest row tokens output) := by
  induction rest generalizing row tokens output with
  | zero => exact told_pure rfl not_false
  | succ rest ih =>
    refine (addRow_told context row tokens output).bind ?_
    rintro ⟨tokens', output'⟩ hlength
    have hrest := ih (row + 1) tokens' output'
    dsimp only at hlength
    rwa [hlength, Nat.add_right_comm, Nat.add_assoc] at hrest

theorem outputForRows_told {rowCount : Nat} (h : 1 < rowCount) (context : Nat) :
    Told L false False (fun _ => True) (outputForRows config engine context rowCount) := by
  refine (addRows_told context rowCount 0 [] _).bind ?_
  rintro ⟨tokens, output⟩ hlength
  dsimp only [List.length_nil] at hlength
  rw [Nat.zero_add] at hlength
  dsimp only [sampledTokensPayload]
  rw [if_neg (by omega)]
  exact told_pure trivial not_false

variable (config L) in
theorem addPrompt_told (rows prefill : Bool) (advanced : Advanced) (output : StageOutput) :
    Told L rows (prefill = true ∧ config.position.isFirst = true ∧ Negative advanced.tokens)
      (fun _ => True) (addPrompt config prefill advanced output) := by
  unfold addPrompt
  split
  · rename_i hprompt
    unfold promptTokenIds
    split
    · rename_i hany
      refine fun k => adds_stop (.inr ⟨⟨hprompt.1, hprompt.2, ?_⟩, List.forall_mem_nil _⟩)
      simpa [Negative] using hany
    · rename_i hany
      refine told_pure trivial fun h => hany ?_
      simpa [Negative] using h.2.2
  · rename_i hprompt
    exact told_pure trivial fun h => hprompt ⟨h.1, h.2.1⟩

theorem serialOutput_told (prefill : Bool) (advanced : Advanced) :
    Told L false (prefill = true ∧ config.position.isFirst = true ∧ Negative advanced.tokens)
      (fun _ => True) (serialOutput config engine prefill advanced) := by
  unfold serialOutput
  split
  · exact told_row (L.getEmbeddings advanced.context) rfl rfl fun _ =>
      addPrompt_told config L false prefill advanced _
  · dsimp only
    split
    · rename_i hrows
      exact (outputForRows_told hrows.2 advanced.context).bind fun output _ =>
        addPrompt_told config L false prefill advanced output
    · exact (outputForRow_told config L advanced.context (-1) 1).bind fun output _ =>
        addPrompt_told config L false prefill advanced output

theorem chunkActivations_told (context rest row : Nat) (bytes : Bytes) :
    Told L true False (fun _ => True) (chunkActivations config engine context rest row bytes) := by
  induction rest generalizing row bytes with
  | zero => exact told_pure trivial not_false
  | succ rest ih => exact told_row (L.getEmbeddingsIth context row) rfl rfl fun _ => ih _ _

theorem decodeSharedPrefillChunk_told (context sequenceId : Nat) (position : Int)
    (chunk : List LlamaCell) (finalChunk : Bool) (bytes : Bytes) :
    Told L (!config.position.isLast) False (fun _ => True)
      (decodeSharedPrefillChunk config engine context sequenceId position chunk finalChunk
        bytes) := by
  refine told_status (L.decode context _) ?_
  split
  · exact told_pure trivial not_false
  · rename_i hlast
    rw [Bool.eq_false_iff.mpr hlast]
    exact chunkActivations_told context chunk.length 0 bytes

variable (config L) in
theorem decodeChunks_told (context sequenceId limit : Nat) (position : Int) (cells : List LlamaCell)
    (bytes : Bytes) :
    Told L (!config.position.isLast) False (fun _ => True)
      (decodeChunks config engine context sequenceId limit position cells bytes) := by
  fun_induction decodeChunks config engine context sequenceId limit position cells bytes with
  | case1 => exact told_pure trivial not_false
  | case2 position cells bytes h chunk ih =>
    exact (decodeSharedPrefillChunk_told context sequenceId position _ _ bytes).bind fun _ _ => ih _

theorem sharedPrefillOutput_told (context : Nat) (advanced : Advanced) (bytes : Bytes) :
    Told L (!config.position.isLast) (config.position.isFirst = true ∧ Negative advanced.tokens)
      (fun _ => True) (sharedPrefillOutput config engine context advanced bytes) := by
  have hprompt := addPrompt_told config L (!config.position.isLast) true advanced
  simp only [true_and] at hprompt
  unfold sharedPrefillOutput
  split
  · exact hprompt _
  · rename_i hlast
    rw [Bool.eq_true_of_not_eq_false hlast] at hprompt ⊢
    exact (outputForRow_told config L context (-1) 1).bind fun output _ => hprompt output

/-! ## Rows -/

/-- The rows of an input were read, whatever is answered after that. -/
structure RowsRead (config : LlamaCppStageConfig) (payload : Payload) (cells : List LlamaCell)
    (tokens : List Int32) (answers : List LlamaAnswer) : Prop where
  wellFormed : WellFormed config payload
  answered : Answered answers
  rows : ∀ more, givenRows config payload (answers ++ more) = cells.length
  tokens : config.position.isFirst = true → ∀ more, givenTokens payload (answers ++ more) = tokens

/-- How the reading of rows ends. A number of rows may be refused. -/
def ReadEnd (config : LlamaCppStageConfig) (payload : Payload) (accepted refused : Nat → Prop) :
    Except Stop (List LlamaCell × List Int32) → List LlamaAnswer → Prop
  | .ok x, answers => RowsRead config payload x.1 x.2 answers ∧ accepted x.1.length
  | .error (.result _), answers =>
    ∃ cells tokens, RowsRead config payload cells tokens answers ∧ refused cells.length
  | .error (.thrown _), answers => .exception ∈ answers ∨ ¬ WellFormed config payload

/-- Nothing was decoded. -/
def Undecoded (answers : List LlamaAnswer) : Prop := ∀ status, .status status ∉ answers

theorem undecoded_nil : Undecoded [] := fun _ => List.not_mem_nil

/-- The tokens of an input of the first stage. -/
theorem inputTokens_read (hfirst : config.position.isFirst = true) (k : κ) :
    (inputTokens engine input).Adds L.answers k fun r _ new => Undecoded new ∧
      match r with
      | .ok tokens => RowsRead config input.payload (tokens.map .token) tokens new
      | .error (.result _) => False
      | .error (.thrown _) => .exception ∈ new ∨ ¬ WellFormed config input.payload := by
  have hread : ∀ tokens new, WellFormed config input.payload → Answered new →
      (∀ more, givenTokens input.payload (new ++ more) = tokens) →
      RowsRead config input.payload (tokens.map .token) tokens new := by
    intro tokens new hwell hanswered htokens
    refine ⟨hwell, hanswered, fun more => ?_, fun _ => htokens⟩
    rw [givenRows, if_pos hfirst, htokens, List.length_map]
  have hgiven : input.payload.kind ≠ .text → ∀ new,
      givenTokens input.payload new = readI32s input.payload.bytes := fun hkind new => if_neg hkind
  unfold inputTokens
  cases hkind : input.payload.kind with
  | text =>
    refine adds_mapStop ((L.tokenize input.payload.bytes).adds fun r t => ?_)
    cases r with
    | error thrown => exact ⟨by simp [Undecoded, answered], .inl List.mem_cons_self⟩
    | ok tokens =>
      refine ⟨by simp [Undecoded, answered], hread tokens _ ?_ ?_ fun more => ?_⟩
      · simp only [WellFormed, hfirst, if_true, hkind]
      · exact List.forall_mem_singleton.mpr rfl
      · simp [givenTokens, hkind, answered]
  | tokens =>
    rcases decodeTokenIds_cases input.payload with ⟨hvector, heq⟩ | ⟨hvector, thrown, heq⟩ <;>
      rw [heq]
    · refine adds_pure ⟨undecoded_nil, hread _ _ ?_ (List.forall_mem_nil _) fun more => ?_⟩
      · simpa only [WellFormed, hfirst, if_true, hkind] using hvector
      · exact hgiven (by rw [hkind]; exact nofun) _
    · refine adds_stop ⟨undecoded_nil, .inr ?_⟩
      simpa only [WellFormed, hfirst, if_true, hkind] using hvector
  | sampledToken =>
    rcases decodeSingleToken_cases input.payload with ⟨hone, heq⟩ | ⟨hone, thrown, heq⟩ <;> rw [heq]
    · refine adds_pure ⟨undecoded_nil, hread _ _ ?_ (List.forall_mem_nil _) fun more => ?_⟩
      · simpa only [WellFormed, hfirst, if_true, hkind] using hone
      · exact hgiven (by rw [hkind]; exact nofun) _
    · refine adds_stop ⟨undecoded_nil, .inr ?_⟩
      simpa only [WellFormed, hfirst, if_true, hkind] using hone
  | activation =>
    refine adds_stop ⟨undecoded_nil, .inr ?_⟩
    simp only [WellFormed, hfirst, if_true, hkind, not_false_iff]
  | sampledTokens =>
    refine adds_stop ⟨undecoded_nil, .inr ?_⟩
    simp only [WellFormed, hfirst, if_true, hkind, not_false_iff]

theorem activationRows_read {accepted refused : Nat → Prop}
    (hfirst : ¬ config.position.isFirst = true)
    {f : Nat → Stops Stop κ (List LlamaCell × List Int32)} (k : κ)
    (hf : ∀ count, RowsRead config input.payload
      (embeddingCells input.payload.bytes (config.nEmbd * 4) count) [] [] → 0 < count →
      (f count).Adds L.answers k fun r _ new => Undecoded new ∧
        ReadEnd config input.payload accepted refused r new) :
    (throwing (activationTokenCount input.payload config.nEmbd) >>= f).Adds L.answers k
      fun r _ new => Undecoded new ∧ ReadEnd config input.payload accepted refused r new := by
  rcases activationTokenCount_cases input.payload config.nEmbd with
    ⟨hrows, heq⟩ | ⟨hrows, thrown, heq⟩ <;> rw [heq]
  · refine adds_bind_ofExcept (fun e he => nomatch he) fun count hcount => ?_
    cases hcount
    refine hf _ ⟨?_, List.forall_mem_nil _, fun more => ?_, fun h => absurd h hfirst⟩ ?_
    · rwa [WellFormed, if_neg hfirst]
    · rw [givenRows, if_neg hfirst, length_embeddingCells]
    · exact pos_of_activationTokenCount heq
  · refine adds_bind_ofExcept (fun e he => ⟨undecoded_nil, ?_⟩) fun count hcount => nomatch hcount
    cases he
    exact .inr (by rwa [WellFormed, if_neg hfirst])

theorem serialCells_read (prefill : Bool) (k : κ) :
    (serialCells config engine input prefill).Adds L.answers k fun r _ new => Undecoded new ∧
      ReadEnd config input.payload (0 < ·) (fun _ => True) r new := by
  unfold serialCells
  split
  · rename_i hfirst
    refine adds_bind (R := fun tokens _ new => Undecoded new ∧
      RowsRead config input.payload (tokens.map .token) tokens new) ?_ ?_
    · refine (inputTokens_read hfirst k).imp ?_
      rintro ((e | thrown) | tokens) t new ⟨hundecoded, hend⟩
      · exact hend.elim
      · exact ⟨hundecoded, hend⟩
      · exact ⟨hundecoded, hend⟩
    · rintro tokens t new ⟨hundecoded, hread⟩
      have hnew : new ++ [] = new := List.append_nil new
      refine adds_bind_stopIf (fun _ => ?_) fun hne => adds_pure ?_ <;> rw [hnew]
      · exact ⟨hundecoded, _, _, hread, trivial⟩
      · exact ⟨hundecoded, hread, by simpa [List.length_pos_iff] using hne⟩
  · rename_i hfirst
    refine activationRows_read hfirst k fun count hread hpos => ?_
    refine adds_bind_stopIf (fun _ => ⟨undecoded_nil, _, _, hread, trivial⟩) fun _ => adds_pure ?_
    exact ⟨undecoded_nil, hread, by simpa only [length_embeddingCells] using hpos⟩

/-! ## Serial calls -/

/-- The counters of a session, with the tokens of its prefill. -/
def SerialSession.books (session : SerialSession) : Int × Int × Nat :=
  (session.nextPosition, session.expectedDecodeStep, session.prefillTokens)

/-- The counters after so many rows. -/
def SerialSession.movedBooks (session : SerialSession) (prefill : Bool) (rows : Nat) :
    Int × Int × Nat :=
  (session.nextPosition + rows, session.expectedDecodeStep,
    if prefill then rows else session.prefillTokens)

/-- A call up to the advance of the position. -/
def AdvanceEnd (config : LlamaCppStageConfig) (input : StageInput) (prefill : Bool)
    (session : SerialSession) :
    Except Stop Advanced → SerialSession → List LlamaAnswer → Prop
  | .ok advanced, after, answers =>
    .status 0 ∈ answers ∧ 0 < advanced.count ∧
    config.contextExhausted session.nextPosition advanced.count input = false ∧
    after.books = session.movedBooks prefill advanced.count ∧
    ∃ cells, RowsRead config input.payload cells advanced.tokens answers ∧
      cells.length = advanced.count
  | .error _, after, answers => .status 0 ∉ answers ∧ after.books = session.books

theorem RowsRead.append {payload : Payload} {cells : List LlamaCell} {tokens : List Int32}
    {a b : List LlamaAnswer} (h : RowsRead config payload cells tokens a) (hb : Answered b) :
    RowsRead config payload cells tokens (a ++ b) where
  wellFormed := h.wellFormed
  answered := answered_append.mpr ⟨h.answered, hb⟩
  rows more := by rw [List.append_assoc]; exact h.rows _
  tokens hfirst more := by rw [List.append_assoc]; exact h.tokens hfirst _

theorem ensureContext_answers (count : Nat) (session : SerialSession) (k : κ) :
    (ensureContext config engine count).Adds (fun s => L.answers s.2) (session, k) fun r s new =>
      Undecoded new ∧ s.1.books = session.books ∧ EndTold false False (fun _ => True) r new := by
  unfold ensureContext
  refine adds_bind_getFirst ?_
  split
  · exact adds_pure ⟨undecoded_nil, rfl, trivial, not_false, List.forall_mem_nil _⟩
  · refine adds_bind (R := fun _ s new => new = [.done] ∧ s.1 = session) ?_ ?_
    · refine adds_onSecond (adds_mapStop ((L.createContext _).adds fun r t => ?_))
      cases r with
      | error thrown =>
        exact ⟨by simp [Undecoded, answered], rfl, .inl ⟨.exception, List.mem_cons_self, rfl⟩⟩
      | ok context => exact ⟨rfl, rfl⟩
    · rintro context ⟨kept, t⟩ new ⟨rfl, rfl⟩
      refine adds_bind_setFirst (adds_pure ⟨by simp [Undecoded], rfl, trivial, not_false, ?_⟩)
      exact List.forall_mem_singleton.mpr rfl

theorem advanceSerial_end (prefill : Bool) (session : SerialSession) (k : κ) :
    (advanceSerial config engine input prefill).Adds (fun s => L.answers s.2) (session, k)
      fun r s new => AdvanceEnd config input prefill session r s.1 new := by
  unfold advanceSerial
  refine adds_bind (R := fun x s new => s.1 = session ∧ Undecoded new ∧
    RowsRead config input.payload x.1 x.2 new ∧ 0 < x.1.length) ?_ ?_
  · refine adds_onSecond ((serialCells_read prefill k).imp ?_)
    rintro (e | x) t new ⟨hundecoded, hend⟩
    · exact ⟨hundecoded 0, rfl⟩
    · exact ⟨rfl, hundecoded, hend⟩
  rintro ⟨cells, tokens⟩ ⟨kept, k⟩ new ⟨rfl, hundecoded, hread, hpos⟩
  refine adds_bind_getFirst ?_
  refine adds_bind_stopIf (fun _ => ⟨by simpa using hundecoded 0, rfl⟩) fun hroom => ?_
  refine adds_bind (R := fun _ s more => s.1.books = kept.books ∧ Undecoded more ∧
    Answered more) ?_ ?_
  · refine (ensureContext_answers cells.length kept k).imp ?_
    rintro (e | context) s more ⟨hmore, hbooks, htold⟩
    · exact ⟨by simpa using ⟨hundecoded 0, hmore 0⟩, hbooks⟩
    · exact ⟨hbooks, hmore, htold.2.2⟩
  rintro context ⟨session, k⟩ more ⟨hbooks, hmore, hanswered⟩
  have hread := hread.append hanswered
  have hundecoded : Undecoded (new ++ more) := by
    simpa [Undecoded] using fun status => ⟨hundecoded status, hmore status⟩
  simp only [← List.append_assoc]
  refine adds_bind (R := fun status s last => s.1 = session ∧ last = [.status status]) ?_ ?_
  · refine adds_onSecond (adds_mapStop ((L.decode context _).adds fun r t => ?_))
    cases r with
    | error thrown => exact ⟨by simpa [answered] using hundecoded 0, hbooks⟩
    | ok status => exact ⟨rfl, rfl⟩
  rintro status ⟨session', k⟩ last ⟨rfl, rfl⟩
  refine adds_bind_stopIf (fun hbad => ?_) fun hgood => ?_
  · exact ⟨by simpa [Ne.symm hbad] using hundecoded 0, hbooks⟩
  cases not_not.mp hgood
  refine adds_bind_getFirst (adds_bind_setFirst (adds_pure ?_))
  rw [List.append_nil]
  simp only [SerialSession.books, Prod.mk.injEq] at hbooks
  refine ⟨by simp, hpos, by simpa using hroom, ?_, cells, hread.append ?_, rfl⟩
  · simp only [SerialSession.books, SerialSession.movedBooks, hbooks]
  · exact List.forall_mem_singleton.mpr rfl

/-- Before its rows are decoded, or after the position has moved by them. -/
inductive SerialEnd (config : LlamaCppStageConfig) (input : StageInput) (prefill : Bool)
    (session : SerialSession) (answers : List LlamaAnswer) :
    Except Stop StageOutput → SerialSession → Prop
  | kept {e : Stop} {after : SerialSession} (hstatus : .status 0 ∉ answers)
      (hbooks : after.books = session.books) :
      SerialEnd config input prefill session answers (.error e) after
  | moved {r : Except Stop StageOutput} {after : SerialSession} (hstatus : .status 0 ∈ answers)
      (hpos : 0 < givenRows config input.payload answers)
      (hroom : config.contextExhausted session.nextPosition (givenRows config input.payload answers)
        input = false)
      (hbooks : after.books = session.movedBooks prefill (givenRows config input.payload answers))
      (htold : EndTold false (prefill = true ∧ config.position.isFirst = true ∧
        Negative (givenTokens input.payload answers)) (fun _ => True) r answers) :
      SerialEnd config input prefill session answers r after

variable (config L) in
/-- **How a serial call ends.** -/
theorem runSerial_end (input : StageInput) (prefill : Bool) (session : SerialSession) (k : κ) :
    (runSerial config engine input prefill).Adds (fun s => L.answers s.2) (session, k)
      fun r s new => SerialEnd config input prefill session new r s.1 := by
  refine adds_bind (R := fun advanced s new =>
    AdvanceEnd config input prefill session (.ok advanced) s.1 new) ?_ ?_
  · refine (advanceSerial_end prefill session k).imp ?_
    rintro (e | advanced) s new hend
    · exact .kept hend.1 hend.2
    · exact hend
  rintro advanced ⟨after, k⟩ new ⟨hstatus, hpos, hroom, hbooks, cells, hread, hcells⟩
  refine adds_onSecond ((serialOutput_told prefill advanced k).imp fun r t more htold => ?_)
  have hrows : givenRows config input.payload (new ++ more) = advanced.count :=
    (hread.rows more).trans hcells
  refine .moved (List.mem_append_left _ hstatus) (hrows ▸ hpos) (hrows ▸ hroom) (hrows ▸ hbooks)
    (EndTold.append hread.answered ?_)
  have htokens : (prefill = true ∧ config.position.isFirst = true ∧
      Negative (givenTokens input.payload (new ++ more))) ↔
      (prefill = true ∧ config.position.isFirst = true ∧ Negative advanced.tokens) :=
    and_congr_right fun _ => and_congr_right fun hfirst => by rw [hread.tokens hfirst more]
  rwa [propext htokens]

section SerialEnd

variable {prefill : Bool} {session after : SerialSession} {answers : List LlamaAnswer}
  {r : Except Stop StageOutput}

theorem SerialEnd.ok_iff (h : SerialEnd config input prefill session answers r after) :
    r.toBool = true ↔ .status 0 ∈ answers ∧ Answered answers ∧
      ¬ (prefill = true ∧ config.position.isFirst = true ∧
        Negative (givenTokens input.payload answers)) := by
  cases h with
  | kept hstatus => exact iff_of_false Bool.false_ne_true fun h => hstatus h.1
  | moved hstatus _ _ _ htold =>
    rcases r with (e | thrown) | output
    · exact iff_of_false Bool.false_ne_true fun h => htold.2 h.2.1
    · refine iff_of_false Bool.false_ne_true fun h => htold.elim ?_ fun hnot => h.2.2 hnot.1
      rintro ⟨a, ha, hthrows⟩
      exact not_answered_of_mem ha (LlamaAnswer.failed_of_throws hthrows) h.2.1
    · exact iff_of_true rfl ⟨hstatus, htold.2.2, htold.2.1⟩

end SerialEnd

/-! ## Prefills of the shared mode -/

/-- There are rows, and room for them and the tokens to come. -/
def Admitted (config : LlamaCppStageConfig) (input : StageInput) (rows : Nat) : Prop :=
  rows ≠ 0 ∧ (rows + max 0 (input.maxTokens - 1) : Int).bmod (2 ^ 32) ≤ config.ctxSize

/-- The positions of all sessions do not fit 32 bits. -/
def ContextTooLarge (config : LlamaCppStageConfig) : Prop :=
  2 ^ 32 - 1 < (max 32 config.ctxSize).toNat * config.maxParallelSessions.toNat

/-- A prefill that has its sequence ends by an exception. -/
def PrefillThrown (config : LlamaCppStageConfig) (context : Option Nat) (input : StageInput)
    (answers : List LlamaAnswer) : Prop :=
  (∃ a ∈ answers, a.throws (!config.position.isLast) = true) ∨
  ¬ WellFormed config input.payload ∨
  Admitted config input (givenRows config input.payload answers) ∧
    (context = none ∧ ContextTooLarge config ∨
      config.position.isFirst = true ∧ Negative (givenTokens input.payload answers) ∧
        Answered answers)

/-- The rows of a prefill are decoded, and all of its output is there. -/
def PrefillStored (config : LlamaCppStageConfig) (payload : Payload)
    (answers : List LlamaAnswer) : Prop :=
  .status 0 ∈ answers ∧ Answered answers ∧
    ¬ (config.position.isFirst = true ∧ Negative (givenTokens payload answers))

theorem contextExhausted_eq_false {rows : Nat} (hphase : input.phase = .prefill) :
    config.contextExhausted 0 rows input = false ↔
      (rows + max 0 (input.maxTokens - 1) : Int).bmod (2 ^ 32) ≤ config.ctxSize := by
  simp [LlamaCppStageConfig.contextExhausted, hphase]

theorem admittedCells_read (hphase : input.phase = .prefill) (k : κ) :
    (admittedCells config engine 0 input).Adds L.answers k fun r _ new => Undecoded new ∧
      ReadEnd config input.payload (Admitted config input) (¬ Admitted config input ·) r new := by
  have hcells : (prefillCells config engine input).Adds L.answers k fun r _ new =>
      Undecoded new ∧ ReadEnd config input.payload (fun _ => True) (fun _ => False) r new := by
    unfold prefillCells
    split
    · rename_i hfirst
      refine adds_bind (R := fun tokens _ new => Undecoded new ∧
        RowsRead config input.payload (tokens.map .token) tokens new) ?_ ?_
      · refine (inputTokens_read hfirst k).imp ?_
        rintro ((e | thrown) | tokens) t new ⟨hundecoded, hend⟩
        · exact hend.elim
        · exact ⟨hundecoded, hend⟩
        · exact ⟨hundecoded, hend⟩
      · rintro tokens t new h
        refine adds_pure ?_
        rw [List.append_nil]
        exact ⟨h.1, h.2, trivial⟩
    · rename_i hfirst
      exact activationRows_read hfirst k fun count hread _ =>
        adds_pure ⟨undecoded_nil, hread, trivial⟩
  refine adds_bind (R := fun x _ new => Undecoded new ∧
    RowsRead config input.payload x.1 x.2 new) ?_ ?_
  · refine hcells.imp ?_
    rintro ((e | thrown) | x) t new ⟨hundecoded, hend⟩
    · obtain ⟨_, _, -, hfalse⟩ := hend
      exact hfalse.elim
    · exact ⟨hundecoded, hend⟩
    · exact ⟨hundecoded, hend.1⟩
  rintro ⟨cells, tokens⟩ t new ⟨hundecoded, hread⟩
  have hnew : new ++ [] = new := List.append_nil new
  refine adds_bind_stopIf (fun hempty => ?_) fun hne => ?_
  · rw [hnew]
    refine ⟨hundecoded, cells, tokens, hread, fun hadmitted => hadmitted.1 ?_⟩
    rw [hempty, List.length_nil]
  refine adds_bind_stopIf (fun hfull => ?_) fun hroom => adds_pure ?_ <;> rw [hnew]
  · refine ⟨hundecoded, cells, tokens, hread, fun hadmitted => ?_⟩
    rw [(contextExhausted_eq_false hphase).mpr hadmitted.2] at hfull
    cases hfull
  · refine ⟨hundecoded, hread, fun hlength => hne (List.length_eq_zero_iff.mp hlength), ?_⟩
    exact (contextExhausted_eq_false hphase).mp (by simpa using hroom)

theorem decodeChunks_decoded {context sequenceId limit : Nat} {position : Int}
    {cells : List LlamaCell} {bytes : Bytes} (hcells : cells.length ≠ 0) (k : κ) :
    (decodeChunks config engine context sequenceId limit position cells bytes).Adds L.answers k
      fun r _ new => r.toBool = true → 0 < limit → .status 0 ∈ new := by
  rw [decodeChunks]
  split
  · rename_i hnone
    refine adds_pure fun _ hlimit => ?_
    rcases hnone with rfl | rfl
    · exact absurd rfl hcells
    · cases hlimit
  refine adds_bind (R := fun _ _ new => .status 0 ∈ new) ?_ ?_
  · refine adds_bind (R := fun status _ new => new = [.status status]) ?_ ?_
    · refine adds_mapStop ((L.decode context _).adds fun r t => ?_)
      cases r with
      | error thrown => exact fun h => nomatch h
      | ok status => rfl
    · rintro status t new rfl
      refine adds_bind_stopIf (fun _ h => nomatch h) fun hgood => ?_
      cases not_not.mp hgood
      have hmem : ∀ more, LlamaAnswer.status 0 ∈ [.status 0] ++ more := fun more =>
        List.mem_append_left _ List.mem_cons_self
      split
      · exact adds_pure (hmem _)
      · refine (chunkActivations_told context _ 0 bytes t).imp fun r u more _ => ?_
        cases r with
        | error e => exact fun _ _ => hmem more
        | ok bytes => exact hmem more
  · intro bytes' t new hmem
    exact (decodeChunks_told config L context sequenceId limit _ _ bytes' t).imp
      fun _ _ more _ _ _ => List.mem_append_left _ hmem

/-- The shared context is there, or is made. -/
theorem ensureSharedContext_answers (shared : SharedState) (k : κ) :
    (ensureSharedContext config engine).Adds (fun s => L.answers s.2) (shared, k) fun r _ new =>
      Undecoded new ∧
      match r with
      | .ok _ => Answered new ∧ ¬ (shared.context = none ∧ ContextTooLarge config)
      | .error (.result _) => False
      | .error (.thrown _) =>
        .exception ∈ new ∨ shared.context = none ∧ ContextTooLarge config := by
  unfold ensureSharedContext
  refine adds_bind_getFirst ?_
  split
  · rename_i context hsome
    refine adds_pure ⟨undecoded_nil, List.forall_mem_nil _, fun h => ?_⟩
    cases hsome.symm.trans h.1
  rename_i hnone
  unfold sharedParams
  dsimp only
  split
  · rename_i hlarge
    exact adds_stop ⟨undecoded_nil, .inr ⟨hnone, hlarge⟩⟩
  rename_i hsmall
  refine adds_bind_ofExcept (fun e he => nomatch he) fun params _ => ?_
  refine adds_bind (R := fun _ _ new => new = [.done]) ?_ ?_
  · refine adds_onSecond (adds_mapStop ((L.createContext params).adds fun r t => ?_))
    cases r with
    | error thrown => exact ⟨by simp [Undecoded, answered], .inl List.mem_cons_self⟩
    | ok context => rfl
  · rintro context s new rfl
    refine adds_bind_setFirst (adds_pure ⟨by simp [Undecoded], ?_, fun h => hsmall h.2⟩)
    exact List.forall_mem_singleton.mpr rfl

/-- A prefill is refused: it throws only if giving its sequence back does. -/
def PrefillRefused (config : LlamaCppStageConfig) (context : Option Nat) (input : StageInput)
    (answers : List LlamaAnswer) : Prop :=
  ∀ last ∈ [[], [.done], [.exception]],
    (PrefillThrown config context input (answers ++ last) ↔ .exception ∈ last) ∧
      ¬ PrefillStored config input.payload (answers ++ last)

theorem RowsRead.refused {context : Option Nat} {cells : List LlamaCell} {tokens : List Int32}
    {a b : List LlamaAnswer} (h : RowsRead config input.payload cells tokens a)
    (hquiet : ∀ x ∈ b, x.throws (!config.position.isLast) = false)
    (hcause : ¬ Admitted config input cells.length ∧ Undecoded (a ++ b) ∨
      ¬ (context = none ∧ ContextTooLarge config) ∧ ¬ Answered b) :
    PrefillRefused config context input (a ++ b) := by
  intro last hlast
  have hrows : givenRows config input.payload (a ++ b ++ last) = cells.length := by
    rw [List.append_assoc]
    exact h.rows _
  have hother : ∀ x ∈ last, x = .done ∨ x = .exception := by
    simp only [List.mem_cons, List.not_mem_nil, or_false] at hlast
    rcases hlast with rfl | rfl | rfl <;> simp
  refine ⟨⟨?_, fun hmem => .inl ⟨.exception, List.mem_append_right _ hmem, rfl⟩⟩, ?_⟩
  · rintro (⟨x, hx, hthrows⟩ | hbad | ⟨hadmitted, hbad⟩)
    · rcases List.mem_append.mp hx with hx | hx
      · rcases List.mem_append.mp hx with hx | hx
        · exact absurd h.answered (not_answered_of_mem hx (LlamaAnswer.failed_of_throws hthrows))
        · rw [hquiet x hx] at hthrows
          cases hthrows
      · rcases hother x hx with rfl | rfl
        · cases hthrows
        · exact hx
    · exact absurd h.wellFormed hbad
    · rw [hrows] at hadmitted
      rcases hcause with hcause | ⟨hsmall, hfailed⟩
      · exact absurd hadmitted hcause.1
      · refine absurd (hbad.resolve_left hsmall).2.2 fun hanswered => hfailed ?_
        exact (answered_append.mp (answered_append.mp hanswered).1).2
  · rintro ⟨hstatus, hanswered, -⟩
    rcases hcause with ⟨-, hundecoded⟩ | ⟨-, hfailed⟩
    · rcases List.mem_append.mp hstatus with hmem | hmem
      · exact hundecoded 0 hmem
      · rcases hother _ hmem with heq | heq <;> cases heq
    · exact hfailed (answered_append.mp (answered_append.mp hanswered).1).2

/-- How a prefill of the shared mode that has its sequence ends. -/
def PrefillTold (config : LlamaCppStageConfig) (context : Option Nat) (input : StageInput)
    (sequenceId : Nat) : Except Stop (StageOutput × SharedSession) → List LlamaAnswer → Prop
  | .ok x, answers =>
    ¬ PrefillThrown config context input answers ∧
    (0 < sharedBatchSize config → PrefillStored config input.payload answers) ∧
    Admitted config input (givenRows config input.payload answers) ∧
    x.2 = { sequenceId
            nextPosition := givenRows config input.payload answers
            prefillTokens := givenRows config input.payload answers }
  | .error (.result _), answers => PrefillRefused config context input answers
  | .error (.thrown _), answers =>
    PrefillThrown config context input answers ∧ ¬ PrefillStored config input.payload answers

theorem not_stored_of_throws {rows : Bool} {payload : Payload} {a : LlamaAnswer}
    {answers : List LlamaAnswer} (hmem : a ∈ answers) (h : a.throws rows = true) :
    ¬ PrefillStored config payload answers := fun hstored =>
  not_answered_of_mem hmem (LlamaAnswer.failed_of_throws h) hstored.2.1

theorem prefillThrown_of_throws {context : Option Nat} {answers : List LlamaAnswer}
    (h : ∃ a ∈ answers, a.throws (!config.position.isLast) = true) :
    PrefillThrown config context input answers ∧ ¬ PrefillStored config input.payload answers := by
  obtain ⟨a, ha, hthrows⟩ := h
  exact ⟨.inl ⟨a, ha, hthrows⟩, not_stored_of_throws ha hthrows⟩

variable (config L) in
/-- **How a prefill of the shared mode ends.** -/
theorem runSharedPrefill_told (hphase : input.phase = .prefill) (sequenceId : Nat)
    (shared : SharedState) (k : κ) :
    (runSharedPrefill config engine { sequenceId } input).Adds (fun s => L.answers s.2) (shared, k)
      fun r _ new => PrefillTold config shared.context input sequenceId r new := by
  unfold runSharedPrefill
  refine adds_bind (R := fun x s new => s.1 = shared ∧ Undecoded new ∧
    RowsRead config input.payload x.1 x.2 new ∧ Admitted config input x.1.length) ?_ ?_
  · refine adds_onSecond ((admittedCells_read hphase k).imp ?_)
    rintro ((e | thrown) | x) t new ⟨hundecoded, hend⟩
    · obtain ⟨cells, tokens, hread, hnot⟩ := hend
      have hrefused : PrefillRefused config shared.context input (new ++ []) :=
        hread.refused (List.forall_mem_nil _) (.inl ⟨hnot, by rwa [List.append_nil]⟩)
      rwa [List.append_nil] at hrefused
    · refine ⟨?_, fun hstored => hundecoded 0 hstored.1⟩
      exact hend.elim (fun hmem => .inl ⟨.exception, hmem, rfl⟩) fun hbad => .inr (.inl hbad)
    · exact ⟨rfl, hundecoded, hend⟩
  rintro ⟨cells, tokens⟩ ⟨kept, k⟩ new ⟨rfl, hundecoded, hread, hadmitted⟩
  dsimp only at hadmitted hread ⊢
  refine adds_bind (R := fun _ s more => Undecoded more ∧ Answered more ∧
    ¬ (kept.context = none ∧ ContextTooLarge config)) ?_ ?_
  · refine (ensureSharedContext_answers kept k).imp ?_
    rintro ((e | thrown) | context) s more ⟨hmore, hend⟩
    · exact hend.elim
    · have hrows : Admitted config input (givenRows config input.payload (new ++ more)) := by
        rwa [hread.rows]
      refine ⟨?_, fun hstored => ?_⟩
      · refine hend.elim (fun hmem => .inl ⟨.exception, List.mem_append_right _ hmem, rfl⟩) ?_
        exact fun hlarge => .inr (.inr ⟨hrows, .inl hlarge⟩)
      · exact (List.mem_append.mp hstored.1).elim (hundecoded 0) (hmore 0)
    · exact ⟨hmore, hend⟩
  rintro context ⟨shared, k⟩ more ⟨hmore, hanswered, hsmall⟩
  have hread := hread.append hanswered
  simp only [← List.append_assoc]
  refine adds_bind (R := fun _ _ chunk => Answered chunk ∧
    (0 < sharedBatchSize config → .status 0 ∈ chunk)) ?_ ?_
  · refine adds_onSecond (((decodeChunks_told config L context sequenceId (sharedBatchSize config) 0
      cells [] k).and (decodeChunks_decoded hadmitted.1 k)).imp ?_)
    rintro ((e | thrown) | bytes) t chunk ⟨htold, hstatus⟩
    · exact hread.refused htold.1 (.inr ⟨hsmall, htold.2⟩)
    · obtain ⟨a, ha, hthrows⟩ := htold.resolve_right fun h => h.1
      exact prefillThrown_of_throws ⟨a, List.mem_append_right _ ha, hthrows⟩
    · exact ⟨htold.2.2, hstatus rfl⟩
  rintro bytes ⟨shared, k⟩ chunk ⟨hchunk, hstatus⟩
  have hread := hread.append hchunk
  simp only [← List.append_assoc]
  refine adds_bind (R := fun _ _ last => Answered last ∧
    ¬ (config.position.isFirst = true ∧ Negative tokens)) ?_ ?_
  · refine adds_onSecond ((sharedPrefillOutput_told context _ bytes k).imp ?_)
    rintro ((e | thrown) | output) t last htold
    · exact hread.refused htold.1 (.inr ⟨hsmall, htold.2⟩)
    · rcases htold with ⟨a, ha, hthrows⟩ | ⟨⟨hfirst, hnegative⟩, hlast⟩
      · exact prefillThrown_of_throws ⟨a, List.mem_append_right _ ha, hthrows⟩
      · have htokens := hread.tokens hfirst last
        refine ⟨.inr (.inr ⟨?_, .inr ⟨hfirst, ?_, ?_⟩⟩), fun hstored => hstored.2.2 ⟨hfirst, ?_⟩⟩
        · rwa [hread.rows]
        · rwa [htokens]
        · exact answered_append.mpr ⟨hread.answered, hlast⟩
        · rwa [htokens]
    · exact ⟨htold.2.2, htold.2.1⟩
  rintro output ⟨shared, k⟩ last ⟨hlast, hreported⟩
  have hread := hread.append hlast
  refine adds_pure ?_
  have hrows := hread.rows []
  have hunreported : ¬ (config.position.isFirst = true ∧
      Negative (givenTokens input.payload (new ++ more ++ chunk ++ last ++ []))) := by
    rintro ⟨hfirst, hnegative⟩
    rw [hread.tokens hfirst []] at hnegative
    exact hreported ⟨hfirst, hnegative⟩
  rw [List.append_nil] at hrows hunreported ⊢
  refine ⟨?_, fun hlimit => ⟨?_, hread.answered, hunreported⟩, ?_, ?_⟩
  · rintro (⟨a, ha, hthrows⟩ | hbad | ⟨-, hlarge | ⟨hfirst, hnegative, -⟩⟩)
    · exact not_answered_of_mem ha (LlamaAnswer.failed_of_throws hthrows) hread.answered
    · exact hbad hread.wellFormed
    · exact hsmall hlarge
    · exact hunreported ⟨hfirst, hnegative⟩
  · exact List.mem_append_left _ (List.mem_append_right _ (hstatus hlimit))
  · rwa [hrows]
  · rw [hrows]
    simp

/-- A prefill ends by an exception after it has taken a sequence. -/
def PrefillThrows (config : LlamaCppStageConfig) (shared : SharedState) (input : StageInput)
    (answers : List LlamaAnswer) : Prop :=
  config.assignmentMatches input = true ∧ input.sessionId ∉ shared.sessions ∧
    false ∈ shared.inUse ∧ PrefillThrown config shared.context input answers

/-- What a prefill of the shared mode does, from the answers. -/
structure PrefillRun (config : LlamaCppStageConfig) (input : StageInput) (shared : SharedState)
    (r : Except Thrown ExecutionResult) (after : SharedState) (answers : List LlamaAnswer) :
    Prop where
  throws : (∃ thrown, r = .error thrown) ↔ PrefillThrows config shared input answers
  stored : PrefillStored config input.payload answers →
    input.sessionId ∉ shared.sessions ∧ input.sessionId ∈ after.sessions
  session : input.sessionId ∉ shared.sessions → ∀ session,
    after.sessions.lookup input.sessionId = some session →
      (0 < sharedBatchSize config → PrefillStored config input.payload answers) ∧
      Admitted config input (givenRows config input.payload answers) ∧
      session.nextPosition = givenRows config input.payload answers ∧
      session.expectedDecodeStep = 1 ∧
      session.prefillTokens = givenRows config input.payload answers

theorem PrefillRun.of_same {shared after : SharedState} {r : Except Thrown ExecutionResult}
    {answers : List LlamaAnswer}
    (hthrows : (∃ thrown, r = .error thrown) ↔ PrefillThrows config shared input answers)
    (hstored : ¬ PrefillStored config input.payload answers)
    (hsame : after.sessions = shared.sessions) :
    PrefillRun config input shared r after answers where
  throws := hthrows
  stored h := absurd h hstored
  session hnew session hsession := by
    rw [hsame, AList.lookup_eq_none.mpr hnew] at hsession
    cases hsession

theorem releaseSequence_answers (sequenceId : Nat) (shared : SharedState) (k : κ) :
    (releaseSequence engine sequenceId).Adds (fun s => L.answers s.2) (shared, k) fun r s new =>
      new ∈ [[], [.done], [.exception]] ∧ s.1.sessions = shared.sessions ∧
        ((∃ thrown, r = .error thrown) ↔ .exception ∈ new) := by
  unfold releaseSequence
  refine adds_bind_getFirst ?_
  split
  · refine adds_bind (R := fun _ _ new => new = [.done]) ?_ ?_
    · refine adds_onSecond ((L.memorySeqRm _ _ _ _).adds fun r t => ?_)
      cases r with
      | error thrown => exact ⟨by simp [answered], rfl, by simp [answered]⟩
      | ok flag => rfl
    · rintro flag s new rfl
      exact ⟨[], (List.append_nil _).symm, by simp, rfl, by simp [setFirst]⟩
  · exact ⟨[], (List.append_nil _).symm, by simp, rfl, by simp [setFirst]⟩

theorem false_mem_of_allocateSequence {shared : SharedState} :
    false ∈ shared.inUse ↔ allocateSequence shared ≠ none := by
  unfold allocateSequence
  cases hfind : shared.inUse.findIdx? (· == false) with
  | none =>
    refine iff_of_false (fun hmem => ?_) (fun h => h rfl)
    simpa using List.findIdx?_eq_none_iff.mp hfind false hmem
  | some i =>
    obtain ⟨hlt, hfree, -⟩ := List.findIdx?_eq_some_iff_getElem.mp hfind
    refine iff_of_true ?_ nofun
    rw [beq_iff_eq] at hfree
    exact hfree ▸ List.getElem_mem hlt

variable (config L) in
theorem executeSharedPrefillLocked_answers (hphase : input.phase = .prefill) (now : Int)
    (shared : SharedState) (k : κ) :
    (executeSharedPrefillLocked config engine now input).Adds (fun s => L.answers s.2) (shared, k)
      fun r s new => PrefillRun config input shared r s.1 new := by
  have hidle : ∀ result : ExecutionResult, ¬ (config.assignmentMatches input = true ∧
      input.sessionId ∉ shared.sessions ∧ false ∈ shared.inUse) →
      PrefillRun config input shared (.ok result) shared [] := by
    intro result hnot
    refine .of_same (iff_of_false (fun ⟨_, h⟩ => nomatch h) fun h => ?_) (fun h => nomatch h.1) rfl
    exact hnot ⟨h.1, h.2.1, h.2.2.1⟩
  have hnil : L.answers k = L.answers k ++ [] := (List.append_nil _).symm
  unfold Adds executeSharedPrefillLocked
  dsimp only
  split
  · rename_i hassign
    exact ⟨[], hnil, hidle _ fun h => by simp [hassign] at h⟩
  rename_i hassign
  split
  · rename_i hmem
    exact ⟨[], hnil, hidle _ fun h => h.2.1 hmem⟩
  rename_i hnew
  split
  · rename_i hfull
    exact ⟨[], hnil, hidle _ fun h => false_mem_of_allocateSequence.mp h.2.2 hfull⟩
  rename_i i taken halloc
  have hreach : ∀ answers, PrefillThrows config shared input answers ↔
      PrefillThrown config taken.context input answers := by
    intro answers
    have hcontext : taken.context = shared.context := by
      rw [(allocateSequence_eq_some halloc).2]
    rw [PrefillThrows, hcontext, and_iff_right (by simpa using hassign), and_iff_right hnew,
      and_iff_right (false_mem_of_allocateSequence.mpr (by simp [halloc]))]
  have htaken : taken.sessions = shared.sessions := by rw [(allocateSequence_eq_some halloc).2]
  have hspec := runSharedPrefill_spec config engine { sequenceId := i } input taken k
  obtain ⟨new, hlog, htold⟩ := runSharedPrefill_told config L hphase i taken k
  unfold Spec at hspec
  split
  · rename_i output session kept k' hrun
    rw [hrun] at hspec hlog htold
    obtain ⟨hthrown, hstored, hadmitted, hsession⟩ := htold
    refine ⟨new, hlog, iff_of_false (fun ⟨_, h⟩ => nomatch h) (mt (hreach new).mp hthrown),
      fun _ => ⟨hnew, (AList.mem_insert _).mpr (.inl rfl)⟩, fun _ found hfound => ?_⟩
    rw [AList.lookup_insert] at hfound
    cases hfound
    dsimp only at hsession
    subst hsession
    exact ⟨hstored, hadmitted, rfl, rfl, rfl⟩
  · rename_i error kept k' hrun
    rw [hrun] at hspec hlog htold
    obtain ⟨last, hmore, hlast, hsame, hends⟩ := releaseSequence_answers (L := L) i kept k'
    obtain ⟨hthrown, hstored⟩ := htold last hlast
    have hall := (hreach (new ++ last)).trans hthrown
    have hsessions := hsame.trans (hspec.1.1.trans htaken)
    have hlog : L.answers (releaseSequence engine i (kept, k')).2.2 =
        L.answers k ++ (new ++ last) :=
      hmore.trans ((congrArg (· ++ last) hlog).trans (List.append_assoc ..))
    split <;> rename_i hr <;> rw [hr] at hlog hsessions hends
    · exact ⟨_, hlog, .of_same (iff_of_false (fun ⟨_, h⟩ => nomatch h)
        (mt hall.mp (mt hends.mpr fun ⟨_, h⟩ => nomatch h))) hstored hsessions⟩
    · exact ⟨_, hlog, .of_same (iff_of_true ⟨_, rfl⟩ (hall.mpr (hends.mp ⟨_, rfl⟩))) hstored
        hsessions⟩
  · rename_i thrown kept k' hrun
    rw [hrun] at hspec hlog htold
    exact ⟨new, hlog, .of_same (iff_of_true ⟨_, rfl⟩ ((hreach new).mpr htold.1)) htold.2
      (hspec.1.1.trans htaken)⟩

end JetsonFabric
