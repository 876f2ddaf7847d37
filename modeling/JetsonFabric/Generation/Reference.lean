import JetsonFabric.Generation.Speculative

/-!
# Reference stages

Stages that behave as a given greedy generator on any route: inner stages hand their payload on as
an activation, the last one keeps the token history and samples. They satisfy the contract of
`Speculative` (`referenceTarget`), on every route and for every generator whose texts fit the
32-bit offsets of a response.
-/

namespace JetsonFabric

open Greedy

/-! ## Payloads read back -/

variable {n : Nat} {outputs : List Sampled}

/-- The tokens of a payload. -/
def readTokens : Bytes → List UInt32
  | b0 :: b1 :: b2 :: b3 :: payload => readU32LE b0 b1 b2 b3 :: readTokens payload
  | _ => []

theorem readTokens_writeU32LE (tokens : List UInt32) :
    readTokens (tokens.flatMap writeU32LE) = tokens := by
  induction tokens with
  | nil => rfl
  | cons token tokens ih =>
    simp only [List.flatMap_cons, writeU32LE, List.cons_append, List.nil_append, readTokens,
      readU32LE_writeU32LE]
    exact congrArg (token :: ·) ih

/-- Where the text of each output ends in the message. -/
def textOffsets : Nat → List Sampled → List UInt32
  | _, [] => []
  | start, o :: os => (start + o.text.length).toUInt32 :: textOffsets (start + o.text.length) os

/-- The flag of each output. -/
def eogFlags (outputs : List Sampled) : List UInt8 :=
  outputs.map fun o => if o.endOfGeneration then 1 else 0

theorem readSampledRows_outputs (outputs : List Sampled) (before : Bytes)
    (hsize : (before ++ outputs.flatMap Sampled.text).length < 2 ^ 32) :
    readSampledRows (before ++ outputs.flatMap Sampled.text) before.length
      (outputs.flatMap fun o => writeU32LE o.token) (textOffsets before.length outputs)
      (eogFlags outputs) = .ok outputs := by
  induction outputs generalizing before with
  | nil => simp [readSampledRows, textOffsets, eogFlags]
  | cons o outputs ih =>
    have hend : (before.length + o.text.length).toUInt32.toNat =
        (before ++ o.text).length := by
      simp only [List.flatMap_cons, List.length_append] at hsize
      simp [Nat.toUInt32]
      omega
    have hmessage : before ++ (o :: outputs).flatMap Sampled.text =
        (before ++ o.text) ++ outputs.flatMap Sampled.text := by simp
    have hrest := ih (before ++ o.text) (by rwa [hmessage] at hsize)
    have htext : (((before ++ o.text) ++ outputs.flatMap Sampled.text).drop before.length).take
        ((before ++ o.text).length - before.length) = o.text := by
      simp [List.append_assoc]
    rw [hmessage]
    simp only [List.flatMap_cons, writeU32LE, List.cons_append, List.nil_append, textOffsets,
      eogFlags, List.map_cons, readSampledRows, hend, readU32LE_writeU32LE, htext]
    rw [if_neg (by simp only [List.length_append]; omega)]
    simp only [List.length_append, eogFlags, writeU32LE] at hrest ⊢
    rw [hrest]
    rcases o with ⟨token, text, eog⟩
    cases eog <;> rfl

/-- The answer to a request, with no payload yet. -/
def echo (r : StageRequest) : StageResponse :=
  { sessionId := r.sessionId
    requestId := r.requestId
    modelId := r.modelId
    deploymentId := r.deploymentId
    deploymentEpoch := r.deploymentEpoch
    modelSha256 := r.modelSha256
    phase := r.phase
    decodeStep := r.decodeStep
    stageIndex := r.stageIndex
    stageCount := r.stageCount
    nodeName := r.nodeName
    layerStart := r.layerStart
    layerEnd := r.layerEnd }

/-- One sampled token, or several with their offsets and flags. -/
def sampledResponse (r : StageRequest) (outputs : List Sampled) : StageResponse :=
  match outputs with
  | [o] =>
    { echo r with
      payloadKind := str "sampled_token"
      payload := writeU32LE o.token
      message := o.text
      completionTokens := if o.endOfGeneration then 0 else 1 }
  | _ =>
    { echo r with
      payloadKind := str "sampled_tokens"
      payload := outputs.flatMap fun o => writeU32LE o.token
      message := outputs.flatMap Sampled.text
      tokenTextOffsets := textOffsets 0 outputs
      tokenEog := eogFlags outputs }

@[simp] theorem length_textOffsets (start : Nat) (outputs : List Sampled) :
    (textOffsets start outputs).length = outputs.length := by
  induction outputs generalizing start with
  | nil => rfl
  | cons o outputs ih => simp [textOffsets, ih]

theorem length_flatMap_writeU32LE (outputs : List Sampled) :
    (outputs.flatMap fun o => writeU32LE o.token).length = 4 * outputs.length := by
  induction outputs with
  | nil => rfl
  | cons o outputs ih =>
    rw [List.flatMap_cons, List.length_append, ih, List.length_cons]
    simp only [writeU32LE, List.length_cons, List.length_nil]
    omega

/-- A well-formed payload of several tokens is read row by row. -/
theorem readSampledBatch_rows {response : StageResponse}
    (hkind : response.payloadKind = str "sampled_tokens") (hn : 2 ≤ n)
    (hpayload : response.payload.length = 4 * n) (hoffsets : response.tokenTextOffsets.length = n)
    (heog : response.tokenEog.length = n) :
    readSampledBatch response = readSampledRows response.message 0 response.payload
      response.tokenTextOffsets response.tokenEog := by
  have hne : response.payloadKind ≠ str "sampled_token" := by
    rw [hkind]
    decide
  unfold readSampledBatch
  rw [if_neg hne, if_neg, if_neg]
  · omega
  · rintro (h | h | h)
    · exact h hkind
    · omega
    · omega

theorem readSampledBatch_sampledResponse (r : StageRequest)
    (hne : outputs ≠ []) (hsize : (outputs.flatMap Sampled.text).length < 2 ^ 32) :
    readSampledBatch (sampledResponse r outputs) = .ok outputs := by
  match outputs, hne with
  | [o], _ =>
    rcases o with ⟨token, text, eog⟩
    cases eog <;>
      simp [sampledResponse, readSampledBatch, writeU32LE, readU32LE_writeU32LE]
  | o :: o' :: outputs, _ =>
    rw [readSampledBatch_rows (n := outputs.length + 2) rfl (by omega)
      (length_flatMap_writeU32LE (o :: o' :: outputs)) (by simp [sampledResponse])
      (by simp [sampledResponse, eogFlags])]
    exact readSampledRows_outputs (o :: o' :: outputs) [] hsize

/-! ## The stages -/

variable {r : StageRequest}

/-- The stages `i`, `i + 1`, ..., `n - 1` of a pipeline of `n`. -/
def IsRoute (n : Nat) : Nat → List GenerationStage → Prop
  | i, [] => i = n
  | i, stage :: stages =>
    stage.stageIndex = i ∧ stage.stageCount = n ∧ IsRoute n (i + 1) stages

theorem IsRoute.length {i : Nat} {stages : List GenerationStage} (h : IsRoute n i stages) :
    i + stages.length = n := by
  induction stages generalizing i with
  | nil => exact h
  | cons stage stages ih =>
    have hrest := ih h.2.2
    rw [List.length_cons]
    omega

/-- The tokens a pass adds to the history. -/
def passTokens (prompt : List UInt32) (r : StageRequest) : List UInt32 :=
  if r.phase = str "prefill" then prompt else readTokens r.payload

/-- What the last stage samples in a pass. -/
def passOutputs (next : List UInt32 → Sampled) (prompt world : List UInt32) (r : StageRequest) :
    List Sampled :=
  if r.phase = str "prefill" then [next (world ++ prompt)]
  else verify next world (readTokens r.payload)

/-- Stages that act as the generator `next`. -/
def referenceInvoke (next : List UInt32 → Sampled) (prompt : List UInt32) :
    StageInvoker (List UInt32) :=
  fun world stage r operation =>
    match operation with
    | .closeSession => ({ ok := true, response := echo r }, world)
    | .rollbackSession =>
      ({ ok := true, response := echo r },
        if stage.stageIndex = stage.stageCount - 1 then
          world.take (world.length - r.rollbackTokens.toNat)
        else world)
    | .execute =>
      if stage.stageIndex = stage.stageCount - 1 then
        ({ ok := true, response := sampledResponse r (passOutputs next prompt world r) },
          world ++ passTokens prompt r)
      else
        ({ ok := true
           response :=
            { echo r with
              payloadKind := str "activation"
              shape := r.shape
              payload := r.payload } }, world)

theorem validateResponseIdentity_echo {response : StageResponse}
    (h : response.sessionId = r.sessionId ∧ response.requestId = r.requestId ∧
      response.modelId = r.modelId ∧ response.deploymentId = r.deploymentId ∧
      response.deploymentEpoch = r.deploymentEpoch ∧ response.modelSha256 = r.modelSha256 ∧
      response.phase = r.phase ∧ response.decodeStep = r.decodeStep ∧
      response.stageIndex = r.stageIndex ∧ response.stageCount = r.stageCount ∧
      response.nodeName = r.nodeName ∧ response.layerStart = r.layerStart ∧
      response.layerEnd = r.layerEnd) : validateResponseIdentity r response = [] := by
  simp [validateResponseIdentity, h]

theorem exists_parsePhase {value : Bytes} (h : value = str "prefill" ∨ value = str "decode") :
    ∃ phase, parsePhase value = .ok phase := by
  rcases h with rfl | rfl
  · exact ⟨.prefill, by decide⟩
  · exact ⟨.decode, by decide⟩

theorem validateResponse_activation {i : Nat}
    (hphase : r.phase = str "prefill" ∨ r.phase = str "decode") (hindex : r.stageIndex = i)
    (hcount : r.stageCount = n) (hi : i + 1 < n) (shape : List Int) (payload : Bytes) :
    validateResponse r { echo r with payloadKind := str "activation", shape, payload } = [] := by
  have hid : validateResponseIdentity r { echo r with
      payloadKind := str "activation", shape, payload } = [] :=
    validateResponseIdentity_echo (by simp [echo])
  have hkind : parsePayloadKind (str "activation") = .ok .activation := by decide
  obtain ⟨phase, hp⟩ := exists_parsePhase hphase
  have hout : expectedOutput phase { index := r.stageIndex, count := r.stageCount } =
      .ok .activation := by
    simp only [expectedOutput, StagePosition.isLast, hindex, hcount]
    rw [if_neg (by omega)]
    simp
    omega
  simp only [validateResponse, hid, ne_eq, not_true, if_false, hkind, hp, hout, false_and]

theorem sampledResponse_payloadKind (r : StageRequest) (outputs : List Sampled) :
    (sampledResponse r outputs).payloadKind =
      if outputs.length = 1 then str "sampled_token" else str "sampled_tokens" := by
  match outputs with
  | [] => rfl
  | [_] => rfl
  | _ :: _ :: _ => simp [sampledResponse]

/-- One sample is accepted, or several in a verification pass. -/
theorem validateResponse_sampled
    (hphase : r.phase = str "prefill" ∨ r.phase = str "decode") (hindex : r.stageIndex = n - 1)
    (hcount : r.stageCount = n) (hn : 0 < n)
    (hwidth : outputs.length = 1 ∨
      r.phase = str "decode" ∧ r.shape.head?.any (fun width => decide (width > 1)) = true) :
    validateResponse r (sampledResponse r outputs) = [] := by
  have hid : validateResponseIdentity r (sampledResponse r outputs) = [] := by
    refine validateResponseIdentity_echo ?_
    unfold sampledResponse
    split <;> simp [echo]
  obtain ⟨phase, hp⟩ := exists_parsePhase hphase
  have hout : expectedOutput phase { index := r.stageIndex, count := r.stageCount } =
      .ok .sampledToken := by
    simp only [expectedOutput, StagePosition.isLast, hindex, hcount]
    rw [if_neg (by omega)]
    simp
    omega
  simp only [validateResponse, hid, ne_eq, not_true, if_false, hp, hout]
  have hone : parsePayloadKind (str "sampled_token") = .ok .sampledToken := by decide
  have hmany : parsePayloadKind (str "sampled_tokens") = .ok .sampledTokens := by decide
  rw [sampledResponse_payloadKind]
  by_cases hlen : outputs.length = 1
  · rw [if_pos hlen]
    simp only [hone, not_true, false_and, if_false]
  · rw [if_neg hlen]
    have hwide := hwidth.resolve_left hlen
    have hfinal : speculativeFinalOutput r .sampledTokens = true := by
      simp only [speculativeFinalOutput, hwide.1, hwide.2, hindex, hcount]
      simp
      omega
    simp only [hmany, hfinal, not_true, and_false, if_false]

variable (next : List UInt32 → Sampled) (prompt : List UInt32)

/-- **A pass of the reference stages**: the last one samples. -/
theorem runPassFrom_reference (id : Bytes) :
    ∀ (stages : List GenerationStage) (i : Nat) (r : StageRequest) (f : StageResponse)
      (ids : List UInt32) (result : GenerationResult) (world : List UInt32),
      IsRoute n i stages → i < n → (r.phase = str "prefill" ∨ r.phase = str "decode") →
      (passOutputs next prompt world r ≠ []) →
      ((passOutputs next prompt world r).flatMap Sampled.text).length < 2 ^ 32 →
      ((passOutputs next prompt world r).length = 1 ∨
        r.phase = str "decode" ∧ r.shape.head?.any (fun width => decide (width > 1)) = true) →
      ∃ response ids', (runPassFrom (referenceInvoke next prompt) id stages r f ids result
          world).outcome = .ok (response, ids') ∧
        readSampledBatch response = .ok (passOutputs next prompt world r) ∧
        (runPassFrom (referenceInvoke next prompt) id stages r f ids result world).world =
          world ++ passTokens prompt r
  | [], i, r, f, ids, result, world, hroute, hi, _, _, _, _ => absurd hroute (by
      simp only [IsRoute]
      omega)
  | stage :: stages, i, r, f, ids, result, world, hroute, hi, hphase, hne, hsize, hwidth => by
    obtain ⟨hindex, hcount, hroute⟩ := hroute
    simp only [runPassFrom, referenceInvoke]
    by_cases hlast : i + 1 = n
    · have hfinal : stage.stageIndex = stage.stageCount - 1 := by omega
      have hvalid : validateResponse (applyStage stage { r with requestId := id })
          (sampledResponse (applyStage stage { r with requestId := id })
            (passOutputs next prompt world (applyStage stage { r with requestId := id }))) = [] :=
        validateResponse_sampled hphase (by simp only [applyStage]; omega) hcount (by omega) hwidth
      obtain rfl : stages = [] := by
        have hlen := hroute.length
        exact List.length_eq_zero_iff.mp (by omega)
      simp only [hfinal, if_true, not_true, if_false, hvalid, ne_eq, runPassFrom]
      exact ⟨_, _, rfl, readSampledBatch_sampledResponse _ hne hsize, rfl⟩
    · have hinner : ¬ stage.stageIndex = stage.stageCount - 1 := by omega
      have hvalid := validateResponse_activation
        (r := applyStage stage { r with requestId := id }) hphase hindex hcount (by omega)
        (applyStage stage { r with requestId := id }).shape
        (applyStage stage { r with requestId := id }).payload
      simp only [hinner, if_true, not_true, if_false, hvalid, ne_eq]
      exact runPassFrom_reference id stages (i + 1) _ _ _ _ _ hroute (by omega) hphase hne hsize
        hwidth

theorem closeSessionsFrom_reference (request : GenerationRequest) :
    ∀ (stages : List GenerationStage) (world : List UInt32),
      closeSessionsFrom request (referenceInvoke next prompt) stages [] world = ([], world)
  | [], _ => rfl
  | stage :: stages, world => by
    have hid : validateResponseIdentity (closeRequest request stage)
        (echo (closeRequest request stage)) = [] := validateResponseIdentity_echo (by simp [echo])
    simp only [closeSessionsFrom, referenceInvoke, firstSessionError, hid]
    simpa using closeSessionsFrom_reference request stages world

theorem rollbackSessionsFrom_reference (request : GenerationRequest) (count : Nat) :
    ∀ (stages : List GenerationStage) (i : Nat) (result : GenerationResult) (world : List UInt32),
      IsRoute n i stages → i < n →
      (rollbackSessionsFrom request (referenceInvoke next prompt) count stages [] result world).1 =
          [] ∧
        (rollbackSessionsFrom request (referenceInvoke next prompt) count stages [] result
          world).2.2 = world.take (world.length - count)
  | [], i, result, world, hroute, hi => absurd hroute (by
      simp only [IsRoute]
      omega)
  | stage :: stages, i, result, world, hroute, hi => by
    have hid : validateResponseIdentity (rollbackRequest request stage count)
        (echo (rollbackRequest request stage count)) = [] :=
      validateResponseIdentity_echo (by simp [echo])
    obtain ⟨hindex, hcount, hroute⟩ := hroute
    simp only [rollbackSessionsFrom, referenceInvoke, firstSessionError, hid]
    by_cases hlast : i + 1 = n
    · have hfinal : stage.stageIndex = stage.stageCount - 1 := by omega
      obtain rfl : stages = [] := by
        have hlen := hroute.length
        exact List.length_eq_zero_iff.mp (by omega)
      simp [hfinal, rollbackSessionsFrom, rollbackRequest]
    · have hinner : ¬ stage.stageIndex = stage.stageCount - 1 := by omega
      simp only [hinner, if_false]
      simpa using rollbackSessionsFrom_reference request count stages (i + 1) _ world hroute
        (by omega)

variable {next} in
theorem mem_verify {h tokens : List UInt32} {o : Sampled} (ho : o ∈ verify next h tokens) :
    ∃ h', o = next h' := by
  induction tokens generalizing h with
  | nil => simp [verify] at ho
  | cons token tokens ih =>
    rcases List.mem_cons.mp ho with rfl | ho
    · exact ⟨_, rfl⟩
    · exact ih ho

theorem length_texts_lt {m : Nat} (hm : 0 < m)
    (hlen : outputs.length ≤ m) (htext : ∀ o ∈ outputs, o.text.length * m < 2 ^ 32) :
    (outputs.flatMap Sampled.text).length < 2 ^ 32 := by
  have hshare : ∀ n ∈ outputs.map (fun o => o.text.length), n ≤ (2 ^ 32 - 1) / m := by
    intro n hn
    obtain ⟨o, ho, rfl⟩ := List.mem_map.mp hn
    rw [Nat.le_div_iff_mul_le hm]
    have := htext o ho
    omega
  have hsum := List.sum_le_card_nsmul _ _ hshare
  rw [List.length_map, smul_eq_mul] at hsum
  rw [List.length_flatMap]
  calc (outputs.map fun o => o.text.length).sum
      ≤ outputs.length * ((2 ^ 32 - 1) / m) := hsum
    _ ≤ m * ((2 ^ 32 - 1) / m) := Nat.mul_le_mul_right _ hlen
    _ ≤ 2 ^ 32 - 1 := Nat.mul_div_le _ _
    _ < 2 ^ 32 := by norm_num

/-- **The reference stages satisfy the contract**, on every route. -/
def referenceTarget (next : List UInt32 → Sampled) (prompt : List UInt32)
    (request : GenerationRequest) (hstages : request.stages ≠ [])
    (hroute : IsRoute request.stages.length 0 request.stages)
    (htext : ∀ h, (next h).text.length * max 1 request.maxTokens.toNat < 2 ^ 32) :
    GreedyTarget (referenceInvoke next prompt) request where
  next := next
  prompt := prompt
  fresh world := world = []
  holds world h := world = h
  closeError := []
  prefill world result hfresh := by
    subst hfresh
    have hout : passOutputs next prompt [] (initialRequest request (str "prefill") 0 []) =
        [next prompt] := by simp [passOutputs, initialRequest]
    obtain ⟨response, ids, hpass, hread, hworld⟩ := runPassFrom_reference next prompt
      (initialRequest request (str "prefill") 0 []).requestId request.stages 0
      (initialRequest request (str "prefill") 0 []) {} [] result [] hroute
      (List.length_pos_iff.mpr hstages) (.inl (by simp [initialRequest])) (by simp [hout])
      (length_texts_lt (m := max 1 request.maxTokens.toNat) (by omega) (by simp [hout])
        (by simpa [hout] using htext prompt))
      (.inl (by simp [hout]))
    refine ⟨response, ids, hpass, hread.trans (by rw [hout]), hworld.trans ?_⟩
    simp [passTokens, initialRequest]
  decode world result h tokens hholds hne hlen := by
    subst hholds
    have hphase : str "decode" ≠ str "prefill" := by decide
    have htokens : readTokens (initialRequest request (str "decode")
        (1 + world.length - prompt.length) tokens).payload = tokens := by
      simp only [initialRequest, hphase, if_false, readTokens_writeU32LE]
    have hout : passOutputs next prompt world (initialRequest request (str "decode")
        (1 + world.length - prompt.length) tokens) = verify next world tokens := by
      simp only [passOutputs, htokens]
      rw [if_neg (by simp [initialRequest, hphase])]
    have hwidth : tokens.length = 1 ∨ (tokens.length : Int) > 1 := by
      have := List.length_pos_iff.mpr hne
      omega
    obtain ⟨response, ids, hpass, hread, hworld⟩ := runPassFrom_reference next prompt
      (initialRequest request (str "decode") (1 + world.length - prompt.length) tokens).requestId
      request.stages 0
      (initialRequest request (str "decode") (1 + world.length - prompt.length) tokens) {} []
      result world hroute (List.length_pos_iff.mpr hstages)
      (.inr (by simp [initialRequest, hphase]))
      (by rw [hout, ← List.length_pos_iff, length_verify]; exact List.length_pos_iff.mpr hne)
      (length_texts_lt (m := max 1 request.maxTokens.toNat) (by omega)
        (by rw [hout, length_verify]; omega)
        (fun o ho => by
          obtain ⟨h', rfl⟩ := mem_verify (hout ▸ ho)
          exact htext h'))
      (hwidth.imp (fun h => by rw [hout, length_verify, h])
        (fun h => by simpa [initialRequest, hphase] using h))
    refine ⟨response, ids, hpass, hread.trans (by rw [hout]), hworld.trans ?_⟩
    simp only [passTokens, htokens]
    rw [if_neg (by simp [initialRequest, hphase])]
  rollback world result h tokens hholds hne hlong := by
    subst hholds
    obtain ⟨herror, hworld⟩ := rollbackSessionsFrom_reference next prompt
      request tokens.length request.stages 0 result (h ++ tokens) hroute
      (List.length_pos_iff.mpr hstages)
    refine ⟨herror, hworld.trans ?_⟩
    simp
  close world h _ := by
    rw [closeSessions, closeSessionsFrom_reference]

/-! ## Speculative runs -/

/-- **Speculative decoding is greedy decoding**, with any draft strategy over one greedy target. -/
theorem speculative_eq_greedy {σ : Type} {request : GenerationRequest} {invoke : StageInvoker σ}
    (target : GreedyTarget invoke request) (hmax : 1 ≤ request.maxTokens) (draft : DraftStrategy)
    (hdraft : ∀ history n, (draft history n).length ≤ n) (speculativeMaxTokens : Int)
    (hpos : 0 < speculativeMaxTokens) (sink : TokenSink)
    (hsink : ∀ before token, sink before token = true) (world : σ) (hfresh : target.fresh world) :
    ((⟨invoke, some draft, speculativeMaxTokens, hpos⟩ : GenerationRunner σ).run request
        (some sink) world).emitted =
      ((⟨invoke, none, speculativeMaxTokens, hpos⟩ : GenerationRunner σ).run request
        (some sink) world).emitted ∧
    ((⟨invoke, some draft, speculativeMaxTokens, hpos⟩ : GenerationRunner σ).run request
        (some sink) world).outcome =
      ((⟨invoke, none, speculativeMaxTokens, hpos⟩ : GenerationRunner σ).run request
        (some sink) world).outcome := by
  have hbounded : Bounded (some draft) := by
    rintro d hd history n
    obtain rfl : draft = d := by simpa using hd
    exact hdraft history n
  have hplain : Bounded none := by simp [Bounded]
  obtain ⟨htokens, houtcome⟩ := run_eq_stream
    ⟨invoke, some draft, speculativeMaxTokens, hpos⟩ target hsink hbounded hmax hfresh
  obtain ⟨htokens', houtcome'⟩ := run_eq_stream
    ⟨invoke, none, speculativeMaxTokens, hpos⟩ target hsink hplain hmax hfresh
  exact ⟨htokens.trans htokens'.symm, houtcome.trans houtcome'.symm⟩

/-- A generator that counts up from the prompt and stops at ten. -/
def sampleNext (h : List UInt32) : Sampled :=
  { token := h.length.toUInt32, text := [97], endOfGeneration := h.length ≥ 10 }

/-- A request over two stages. -/
def sampleGeneration : GenerationRequest :=
  { maxTokens := 6
    stages := [{ stageIndex := 0, stageCount := 2 }, { stageIndex := 1, stageCount := 2 }] }

/-- A draft whose second token is wrong. -/
def sampleDraft : DraftStrategy :=
  fun history n => [history.length.toUInt32 + 3, 0].take n

/-- The sample stages as a target. -/
def sampleTarget : GreedyTarget (referenceInvoke sampleNext [7, 7, 7]) sampleGeneration :=
  referenceTarget sampleNext [7, 7, 7] sampleGeneration (by simp [sampleGeneration])
    (by simp [sampleGeneration, IsRoute]) (fun h => by simp [sampleNext, sampleGeneration])

theorem speculative_eq_greedy_sample :
    ((⟨referenceInvoke sampleNext [7, 7, 7], some sampleDraft, 4, by decide⟩ :
      GenerationRunner (List UInt32)).run sampleGeneration (some fun _ _ => true) []).outcome =
      ((⟨referenceInvoke sampleNext [7, 7, 7], none, 4, by decide⟩ :
        GenerationRunner (List UInt32)).run sampleGeneration (some fun _ _ => true) []).outcome ∧
    ((⟨referenceInvoke sampleNext [7, 7, 7], none, 4, by decide⟩ :
      GenerationRunner (List UInt32)).run sampleGeneration (some fun _ _ => true) []).outcome =
      .success (str "length") [3, 4, 5, 6, 7, 8] 6 :=
  ⟨(speculative_eq_greedy sampleTarget (by decide) sampleDraft (by simp [sampleDraft]) 4
    (by decide) (fun _ _ => true) (fun _ _ => rfl) [] rfl).2, by decide +kernel⟩

end JetsonFabric
