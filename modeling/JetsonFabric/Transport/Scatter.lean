import JetsonFabric.Bytes

/-!
# Scatter sends

An HTTP response (`send_segments` in `api/http_server.cpp`) and a stage request (`send_stage_frame`
in `transport/http_stage_transport.cpp`) go out in three segments with `sendmsg`, which may take any
part of what it is offered. Both functions run one loop over the segments: `first` is the segment
that comes next, and the part of it that was taken is cut off in place.

* **`scatter_sends_exact`**: what the socket gets of the three segments.
-/

namespace JetsonFabric

/-! ## The code -/

/-- What a call of `sendmsg` returns. -/
inductive SendResult where
  | sent (count : Nat)
  | failed (errno : Int)
  deriving DecidableEq

/-- `EINTR`. -/
def interruptedErrno : Int := 4

/-- The bytes that the socket got, and the end of the function. -/
structure Sending (ρ : Type) where
  handed : Bytes
  result : Option ρ
  deriving DecidableEq

/-- The first segment with bytes, from the one at `first` on. -/
def skipEmpty : List Bytes → Nat → Nat
  | [], first => first
  | segment :: segments, first =>
    if segment.length = 0 then skipEmpty segments (first + 1) else first

/-- Pass the segments that were taken in full, from the one at `first` on. -/
def passTaken : List Bytes → Nat → Nat → Nat × Nat
  | [], first, consumed => (first, consumed)
  | segment :: segments, first, consumed =>
    if segment.length ≤ consumed then passTaken segments (first + 1) (consumed - segment.length)
    else (first, consumed)

/-- The segments and the next one of them after a call took `count` bytes. -/
def advance (segments : List Bytes) (first count : Nat) : List Bytes × Nat :=
  let (first, consumed) := passTaken (segments.drop first) first count
  if first < segments.length ∧ consumed ≠ 0 then
    (segments.modify first fun segment => segment.drop consumed, first)
  else (segments, first)

section Loop

variable {ρ : Type} (done : ρ) (failure : Int → ρ) (closed : ρ)

/-- The loop over the segments; `results` are those of the calls to come. -/
def sendLoop (results : List SendResult) (segments : List Bytes) (first : Nat) (handed : Bytes) :
    Sending ρ :=
  let next := skipEmpty (segments.drop first) first
  if segments.length ≤ next then { handed, result := some done }
  else match results with
    | [] => { handed, result := none }
    | .failed errno :: results =>
      if errno = interruptedErrno then sendLoop results segments next handed
      else { handed, result := some (failure errno) }
    | .sent 0 :: _ => { handed, result := some closed }
    | .sent (count + 1) :: results =>
      let rest := advance segments next (count + 1)
      -- the socket takes the bytes from the front of what `msg_iov` offers
      sendLoop results rest.1 rest.2 (handed ++ (segments.drop next).flatten.take (count + 1))

end Loop

def sendSegments (results : List SendResult) (a b c : Bytes) : Sending Bool :=
  sendLoop true (fun _ => false) false results [a, b, c] 0 []

def sendStageFrame (strerror : Int → Bytes) (results : List SendResult)
    (headers framePrefix payload : Bytes) : Sending (Except Bytes Unit) :=
  sendLoop (.ok ()) (fun errno => .error (str "send stage request: " ++ strerror errno))
    (.error (str "stage request connection closed while sending")) results
    [headers, framePrefix, payload] 0 []

/-! ## What is unsent -/

/-- The bytes of the segments from the one at `first` on. -/
def unsent (segments : List Bytes) (first : Nat) : Bytes := (segments.drop first).flatten

theorem skipEmpty_eq (segments : List Bytes) (first : Nat) :
    ∃ passed, skipEmpty segments first = first + passed ∧
      (segments.drop passed).flatten = segments.flatten ∧
      (segments.length ≤ passed ↔ segments.flatten = []) := by
  induction segments generalizing first with
  | nil => exact ⟨0, rfl, rfl, by simp⟩
  | cons segment segments ih =>
    by_cases hempty : segment.length = 0
    · obtain ⟨passed, hskip, hflatten, hall⟩ := ih (first + 1)
      rw [List.length_eq_zero_iff] at hempty
      refine ⟨passed + 1, ?_, ?_, ?_⟩
      · rw [skipEmpty, if_pos (by rw [hempty, List.length_nil]), hskip]
        omega
      · rw [List.drop_succ_cons, hflatten, hempty, List.flatten_cons, List.nil_append]
      · rw [List.length_cons, List.flatten_cons, hempty, List.nil_append, ← hall]
        omega
    · refine ⟨0, by rw [skipEmpty, if_neg hempty, add_zero], rfl, ?_⟩
      refine iff_of_false (by simp) fun hnil => hempty ?_
      rw [List.flatten_cons, List.append_eq_nil_iff] at hnil
      rw [hnil.1, List.length_nil]

theorem passTaken_eq (segments : List Bytes) (first count : Nat) :
    ∃ passed rest, passTaken segments first count = (first + passed, rest) ∧
      (segments.drop passed).flatten.drop rest = segments.flatten.drop count ∧
      (∀ segment ∈ (segments.drop passed).head?, rest < segment.length) := by
  induction segments generalizing first count with
  | nil => exact ⟨0, count, rfl, rfl, by simp⟩
  | cons segment segments ih =>
    by_cases htaken : segment.length ≤ count
    · obtain ⟨passed, rest, hpass, hdrop, hrest⟩ := ih (first + 1) (count - segment.length)
      refine ⟨passed + 1, rest, ?_, ?_, ?_⟩
      · rw [passTaken, if_pos htaken, hpass, add_assoc, add_comm 1]
      · rw [List.drop_succ_cons, hdrop, List.flatten_cons, List.drop_append,
          List.drop_eq_nil_of_le htaken, List.nil_append]
      · simpa using hrest
    · refine ⟨0, count, by rw [passTaken, if_neg htaken, add_zero], rfl, ?_⟩
      simpa using htaken

theorem unsent_skipEmpty (segments : List Bytes) (first : Nat) :
    unsent segments (skipEmpty (segments.drop first) first) = unsent segments first ∧
      (segments.length ≤ skipEmpty (segments.drop first) first ↔ unsent segments first = []) := by
  obtain ⟨passed, hskip, hflatten, hall⟩ := skipEmpty_eq (segments.drop first) first
  rw [List.drop_drop] at hflatten
  rw [hskip]
  refine ⟨hflatten, ?_⟩
  rw [unsent, ← hall, List.length_drop]
  omega

theorem drop_modify_of_drop_eq {segments rest : List Bytes} {segment : Bytes} {k : Nat}
    (f : Bytes → Bytes) (hk : k < segments.length) (h : segments.drop k = segment :: rest) :
    (segments.modify k f).drop k = f segment :: rest := by
  rw [List.modify_eq_take_drop, List.drop_left' (List.length_take_of_le hk.le), h,
    List.modifyHead_cons]

theorem unsent_advance (segments : List Bytes) (first count : Nat) :
    unsent (advance segments first count).1 (advance segments first count).2 =
      (unsent segments first).drop count := by
  obtain ⟨passed, rest, hpass, hdrop, hrest⟩ := passTaken_eq (segments.drop first) first count
  rw [List.drop_drop] at hdrop hrest
  simp only [advance, hpass, unsent]
  rw [← hdrop]
  cases hnext : segments.drop (first + passed) with
  | nil =>
    rw [if_neg (by rw [List.drop_eq_nil_iff] at hnext; omega), hnext, List.flatten_nil,
      List.drop_nil]
  | cons segment later =>
    have hlt : rest < segment.length := hrest segment (by rw [hnext]; rfl)
    have hfits : first + passed < segments.length := by
      by_contra hle
      rw [List.drop_eq_nil_of_le (by omega)] at hnext
      cases hnext
    by_cases hzero : rest = 0
    · rw [if_neg (by omega), hnext, hzero, List.drop_zero]
    · rw [if_pos ⟨hfits, hzero⟩, drop_modify_of_drop_eq _ hfits hnext, List.flatten_cons,
        List.flatten_cons, List.drop_append_of_le_length hlt.le]

/-! ## The loop -/

/-- The bytes that the calls take together. -/
def takenBytes (results : List SendResult) : Nat :=
  (results.map fun
    | .sent count => count
    | .failed _ => 0).sum

/-- The call was interrupted, or took something. -/
def SendResult.Proceeds : SendResult → Prop
  | .sent count => 0 < count
  | .failed errno => errno = interruptedErrno

section Loop

variable {ρ : Type} {done closed : ρ} {failure : Int → ρ}

/-- One turn of the loop, in terms of the bytes that are unsent. -/
theorem sendLoop_cons {segments : List Bytes} {first : Nat} (hunsent : unsent segments first ≠ [])
    (result : SendResult) (results : List SendResult) (handed : Bytes) :
    (¬ result.Proceeds ∧ ∃ error, (error = closed ∨ ∃ errno, error = failure errno) ∧
      sendLoop done failure closed (result :: results) segments first handed =
        { handed, result := some error }) ∨
    (result.Proceeds ∧ ∃ segments' first',
      unsent segments' first' = (unsent segments first).drop (takenBytes [result]) ∧
      sendLoop done failure closed (result :: results) segments first handed =
        sendLoop done failure closed results segments' first'
          (handed ++ (unsent segments first).take (takenBytes [result]))) := by
  obtain ⟨hskip, hend⟩ := unsent_skipEmpty segments first
  have hopen := mt hend.1 hunsent
  rw [← hskip]
  generalize hnext : skipEmpty (segments.drop first) first = next at hskip hopen
  cases result with
  | failed errno =>
    by_cases herrno : errno = interruptedErrno
    · refine .inr ⟨herrno, segments, next, ?_, ?_⟩
      · rfl
      · rw [sendLoop, hnext, if_neg hopen]
        simp [herrno, takenBytes]
    · refine .inl ⟨herrno, failure errno, .inr ⟨errno, rfl⟩, ?_⟩
      rw [sendLoop, hnext, if_neg hopen]
      simp [herrno]
  | sent count =>
    cases count with
    | zero =>
      refine .inl ⟨lt_irrefl 0, closed, .inl rfl, ?_⟩
      rw [sendLoop, hnext, if_neg hopen]
    | succ count =>
      refine .inr ⟨Nat.succ_pos count, _, _, unsent_advance segments next (count + 1), ?_⟩
      rw [sendLoop, hnext, if_neg hopen]
      rfl

theorem sendLoop_of_unsent_nil {segments : List Bytes} {first : Nat}
    (hunsent : unsent segments first = []) (results : List SendResult) (handed : Bytes) :
    sendLoop done failure closed results segments first handed =
      { handed, result := some done } := by
  rw [sendLoop.eq_def]
  exact if_pos ((unsent_skipEmpty segments first).2.2 hunsent)

theorem sendLoop_nil {segments : List Bytes} {first : Nat} (hunsent : unsent segments first ≠ [])
    (handed : Bytes) :
    sendLoop done failure closed [] segments first handed = { handed, result := none } := by
  rw [sendLoop.eq_def]
  exact if_neg (mt (unsent_skipEmpty segments first).2.1 hunsent)

/-- A prefix of `whole` is sent, and all of it at a good end. -/
structure SendsExactly (done : ρ) (whole : Bytes) (results : List SendResult) (sending : Sending ρ) :
    Prop where
  handed_isPrefix : sending.handed <+: whole
  done_iff : sending.result = some done ↔ sending.handed = whole
  proceeds : (∀ result ∈ results, result.Proceeds) →
    sending.handed = whole.take (takenBytes results) ∧
      (sending.result = none ∨ sending.result = some done)

theorem sendLoop_exact_of_unsent_nil {segments : List Bytes} {first : Nat}
    (hunsent : unsent segments first = []) (results : List SendResult) (handed : Bytes) :
    (sendLoop done failure closed results segments first handed).handed = handed ++ [] ∧
      SendsExactly done (unsent segments first) results
        { handed := []
          result := (sendLoop done failure closed results segments first handed).result } := by
  rw [sendLoop_of_unsent_nil hunsent, hunsent]
  exact ⟨(List.append_nil _).symm, List.prefix_rfl, by simp, by simp⟩

/-- A call that proceeds takes its bytes first. -/
theorem SendsExactly.cons {whole sent : Bytes} {result : SendResult} {results : List SendResult}
    {ended : Option ρ}
    (h : SendsExactly done (whole.drop (takenBytes [result])) results
      { handed := sent, result := ended }) :
    SendsExactly done whole (result :: results)
      { handed := whole.take (takenBytes [result]) ++ sent, result := ended } := by
  have htotal : takenBytes (result :: results) = takenBytes [result] + takenBytes results := by
    simp [takenBytes]
  have hcut := List.take_append_drop (takenBytes [result]) whole
  constructor
  · calc whole.take (takenBytes [result]) ++ sent
      _ <+: whole.take (takenBytes [result]) ++ whole.drop (takenBytes [result]) :=
        (List.prefix_append_right_inj _).2 h.handed_isPrefix
      _ = whole := hcut
  · calc ended = some done
      _ ↔ sent = whole.drop (takenBytes [result]) := h.done_iff
      _ ↔ whole.take (takenBytes [result]) ++ sent =
          whole.take (takenBytes [result]) ++ whole.drop (takenBytes [result]) :=
        (List.append_right_inj _).symm
      _ ↔ whole.take (takenBytes [result]) ++ sent = whole := by rw [hcut]
  · intro hall
    obtain ⟨htaken, hended⟩ := h.proceeds fun r hr => hall r (List.mem_cons_of_mem _ hr)
    refine ⟨?_, hended⟩
    rw [htotal, List.take_add]
    exact congrArg _ htaken

/-- **The loop**: what was handed and what is unsent make up the whole. -/
theorem sendLoop_exact (hclosed : closed ≠ done) (hfailure : ∀ errno, failure errno ≠ done)
    (results : List SendResult) (segments : List Bytes) (first : Nat) (handed : Bytes) :
    ∃ sent, (sendLoop done failure closed results segments first handed).handed = handed ++ sent ∧
      SendsExactly done (unsent segments first) results
        { handed := sent
          result := (sendLoop done failure closed results segments first handed).result } := by
  induction results generalizing segments first handed with
  | nil =>
    by_cases hunsent : unsent segments first = []
    · exact ⟨[], sendLoop_exact_of_unsent_nil hunsent [] handed⟩
    · rw [sendLoop_nil hunsent]
      refine ⟨[], (List.append_nil _).symm, List.nil_prefix, ?_, by simp [takenBytes]⟩
      simpa using Ne.symm hunsent
  | cons result results ih =>
    by_cases hunsent : unsent segments first = []
    · exact ⟨[], sendLoop_exact_of_unsent_nil hunsent (result :: results) handed⟩
    rcases @sendLoop_cons _ done closed failure _ _ hunsent result results handed with
      ⟨hstops, error, herror, hloop⟩ | ⟨-, segments', first', hrest, hloop⟩
    · have hne : error ≠ done := by
        rcases herror with rfl | ⟨errno, rfl⟩
        · exact hclosed
        · exact hfailure errno
      rw [hloop]
      refine ⟨[], (List.append_nil _).symm, List.nil_prefix, ?_,
        fun hall => absurd (hall _ List.mem_cons_self) hstops⟩
      simpa [hne] using Ne.symm hunsent
    · obtain ⟨sent, hhanded, hsends⟩ := ih segments' first'
        (handed ++ (unsent segments first).take (takenBytes [result]))
      rw [hrest] at hsends
      rw [hloop]
      exact ⟨_, by rw [hhanded, List.append_assoc], hsends.cons⟩

theorem sendLoop_sendsExactly (hclosed : closed ≠ done) (hfailure : ∀ errno, failure errno ≠ done)
    (results : List SendResult) (segments : List Bytes) :
    SendsExactly done segments.flatten results
      (sendLoop done failure closed results segments 0 []) := by
  obtain ⟨sent, hhanded, hsends⟩ := sendLoop_exact hclosed hfailure results segments 0 []
  rwa [← List.nil_append sent, ← hhanded] at hsends

theorem SendsExactly.eq_of_le {whole : Bytes} {results : List SendResult} {sending : Sending ρ}
    (h : SendsExactly done whole results sending) (hall : ∀ result ∈ results, result.Proceeds)
    (hlength : whole.length ≤ takenBytes results) :
    sending = { handed := whole, result := some done } := by
  have hhanded := (h.proceeds hall).1
  rw [List.take_of_length_le hlength] at hhanded
  have hresult := h.done_iff.2 hhanded
  cases sending
  rw [Sending.mk.injEq]
  exact ⟨hhanded, hresult⟩

end Loop

/-- **Scatter sends** hand over everything exactly when they end well. -/
theorem scatter_sends_exact (strerror : Int → Bytes) (a b c : Bytes) (results : List SendResult) :
    SendsExactly true (a ++ b ++ c) results (sendSegments results a b c) ∧
    SendsExactly (.ok ()) (a ++ b ++ c) results (sendStageFrame strerror results a b c) ∧
    ((∀ result ∈ results, result.Proceeds) → (a ++ b ++ c).length ≤ takenBytes results →
      sendSegments results a b c = { handed := a ++ b ++ c, result := some true } ∧
      sendStageFrame strerror results a b c =
        { handed := a ++ b ++ c, result := some (.ok ()) }) := by
  have hwhole : [a, b, c].flatten = a ++ b ++ c := by simp
  have hsegments : SendsExactly true (a ++ b ++ c) results (sendSegments results a b c) :=
    hwhole ▸ sendLoop_sendsExactly (by decide) (fun _ => by decide) results [a, b, c]
  have hframe : SendsExactly (.ok ()) (a ++ b ++ c) results
      (sendStageFrame strerror results a b c) :=
    hwhole ▸ sendLoop_sendsExactly (by simp) (by simp) results [a, b, c]
  exact ⟨hsegments, hframe, fun hall hlength =>
    ⟨hsegments.eq_of_le hall hlength, hframe.eq_of_le hall hlength⟩⟩

/-- An interruption, a call up to a border, and one for the rest. -/
theorem scatter_sends_exact_sample :
    sendSegments [.failed 4, .sent 2, .sent 3] (str "ab") [] (str "cde") =
      { handed := str "abcde", result := some true } :=
  ((scatter_sends_exact (fun _ => []) (str "ab") [] (str "cde")
    [.failed 4, .sent 2, .sent 3]).2.2
      (by simp [SendResult.Proceeds, interruptedErrno]) (by decide)).1

end JetsonFabric
