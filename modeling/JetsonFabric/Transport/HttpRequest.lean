import JetsonFabric.Transport.HttpText
import JetsonFabric.Transport.Scatter

/-!
# Reading requests

`read_http_request` of `api/http_server.cpp`: it takes one request from the front of a buffer that the
calls on a connection share, and reads more of the connection while the request is not complete.

* **`requests_independent_of_pieces`**: the requests of a stream, however `recv` cuts it.
-/

namespace JetsonFabric

open Incremental

/-! ## The code -/

def kMaxHeaderBytes : Nat := 64 <<< 10

def kMaxBodyBytes : Nat := (512 <<< 20) + (1 <<< 20) + 20

/-- The size of the buffer for `recv`. -/
def requestBufferSize : Nat := 8192

def contentLengthOf : List Bytes → Except HttpError (Option Nat)
  | [] => .ok none
  | line :: lines =>
    match headerField line with
    | none => contentLengthOf lines
    | some (name, value) =>
      if name ≠ str "content-length" then contentLengthOf lines
      else
        match stoull .ten value with
        | .error e => .error e
        | .ok (parsed, consumed) =>
          if consumed ≠ value.length ∨ kMaxBodyBytes < parsed then
            .error (.invalidArgument (str "invalid or oversized Content-Length"))
          else .ok (some parsed)

def contentLength (headers : Bytes) : Except HttpError (Option Nat) :=
  contentLengthOf (headerLines headers)

/-- The check before `recv`. -/
def waitForMore (buffered : Bytes) : Decision HttpError :=
  if kMaxHeaderBytes + kMaxBodyBytes < buffered.length then
    .fail (.invalidArgument (str "HTTP request body is too large"))
  else .more

/-- The size of the request in front of the buffer. -/
def frameRequest (buffered : Bytes) : Decision HttpError :=
  match findAt headMarker buffered with
  | some marker =>
    if kMaxHeaderBytes < marker + 4 then
      .fail (.invalidArgument (str "HTTP headers are too large"))
    else
      match contentLength (buffered.take marker) with
      | .error e => .fail e
      | .ok expectedBody =>
        if marker + 4 + expectedBody.getD 0 ≤ buffered.length then
          .done (marker + 4 + expectedBody.getD 0)
        else waitForMore buffered
  | none =>
    if kMaxHeaderBytes < buffered.length then
      .fail (.invalidArgument (str "HTTP headers are too large"))
    else waitForMore buffered

/-- The end of the function, after the peer has closed the connection. -/
def finishRequest (buffered : Bytes) : Except HttpError (Option Bytes × Bytes) :=
  if buffered = [] then .ok (none, [])
  else
    match findAt headMarker buffered with
    | none => .error (.invalidArgument (str "incomplete HTTP request headers"))
    | some marker =>
      match contentLength (buffered.take marker) with
      | .error e => .error e
      | .ok expectedBody =>
        let requestSize := marker + 4 + expectedBody.getD 0
        if buffered.length < requestSize then
          .error (.invalidArgument (str "truncated HTTP request body"))
        else .ok (some (buffered.take requestSize), buffered.drop requestSize)

/-- `EAGAIN`, which is also `EWOULDBLOCK`. -/
def againErrno : Int := 11

variable (strerror : Int → Bytes)

/-- `read_http_request`, over what `recv` returns. -/
def readHttpRequest : List RecvResult → Bytes →
    Except HttpError (Option Bytes × Bytes × List RecvResult)
  | answers, buffered =>
    match frameRequest buffered with
    | .done requestSize =>
      .ok (some (buffered.take requestSize), buffered.drop requestSize, answers)
    | .fail e => .error e
    | .more =>
      match answers with
      | [] => (finishRequest buffered).map fun (request, buffered) => (request, buffered, [])
      | .received [] :: answers =>
        (finishRequest buffered).map fun (request, buffered) => (request, buffered, answers)
      | .received (b :: bytes) :: answers => readHttpRequest answers (buffered ++ b :: bytes)
      | .failed errno :: answers =>
        if errno = interruptedErrno then readHttpRequest answers buffered
        else if errno = againErrno ∧ buffered = [] then .ok (none, [], answers)
        else .error (.runtimeError (str "recv failed: " ++ strerror errno))

/-- Repeated calls on one connection, until no request comes or one fails. -/
def readRequests : Nat → List RecvResult → Bytes → Option (List Bytes × Option HttpError)
  | 0, _, _ => none
  | fuel + 1, answers, buffered =>
    match readHttpRequest strerror answers buffered with
    | .error e => some ([], some e)
    | .ok (none, _, _) => some ([], none)
    | .ok (some request, buffered, answers) =>
      (readRequests fuel answers buffered).map fun (requests, ending) => (request :: requests, ending)

/-! ## One call -/

/-- The first request of a closed stream, and the rest. -/
def nextRequest (stream : Bytes) : Except HttpError (Option Bytes × Bytes) :=
  match frameRequest stream with
  | .done requestSize => .ok (some (stream.take requestSize), stream.drop requestSize)
  | .fail e => .error e
  | .more => finishRequest stream

theorem contentLengthOf_le {lines : List Bytes} {length : Nat}
    (h : contentLengthOf lines = .ok (some length)) : length ≤ kMaxBodyBytes := by
  fun_induction contentLengthOf lines with
  | case1 => cases h
  | case2 line lines hfield ih => exact ih h
  | case3 line lines name value hfield hname ih => exact ih h
  | case4 => cases h
  | case5 => cases h
  | case6 line lines name value hfield hname parsed consumed hparsed hok =>
    obtain rfl : parsed = length := by simpa using h
    exact not_lt.1 fun hlarge => hok (Or.inr hlarge)

theorem getD_contentLength_le {headers : Bytes} {length : Option Nat}
    (h : contentLength headers = .ok length) : length.getD 0 ≤ kMaxBodyBytes := by
  cases length with
  | none => exact Nat.zero_le _
  | some length => exact contentLengthOf_le h

theorem frameRequest_of_findAt {buffered : Bytes} {marker : Nat}
    (h : findAt headMarker buffered = some marker) :
    frameRequest buffered =
      if kMaxHeaderBytes < marker + 4 then
        .fail (.invalidArgument (str "HTTP headers are too large"))
      else
        match contentLength (buffered.take marker) with
        | .error e => .fail e
        | .ok expectedBody =>
          if marker + 4 + expectedBody.getD 0 ≤ buffered.length then
            .done (marker + 4 + expectedBody.getD 0)
          else .more := by
  rw [frameRequest, h]
  by_cases hhead : kMaxHeaderBytes < marker + 4
  · simp only [if_pos hhead]
  · simp only [if_neg hhead]
    cases hlength : contentLength (buffered.take marker) with
    | error e => rfl
    | ok expectedBody =>
      have hbody := getD_contentLength_le hlength
      by_cases hsize : marker + 4 + expectedBody.getD 0 ≤ buffered.length
      · simp only [if_pos hsize]
      · simp only [if_neg hsize]
        exact if_neg (by omega)

/-- **The decision is final**: more of the stream does not change it. -/
theorem frameRequest_settles (stream : Bytes) : Settles frameRequest stream := by
  rintro front ⟨rest, rfl⟩
  cases hfind : findAt headMarker front with
  | some marker =>
    have hend : marker + 4 ≤ front.length := findAt_end hfind
    have htake : (front ++ rest).take marker = front.take marker :=
      List.take_append_of_le_length (by omega)
    rw [frameRequest_of_findAt (findAt_append hfind rest), htake, frameRequest_of_findAt hfind]
    by_cases hhead : kMaxHeaderBytes < marker + 4
    · simp only [if_pos hhead]
      exact Decision.final_fail _
    simp only [if_neg hhead]
    cases contentLength (front.take marker) with
    | error e => exact Decision.final_fail e
    | ok expectedBody =>
      by_cases hsize : marker + 4 + expectedBody.getD 0 ≤ front.length
      · have hlonger : marker + 4 + expectedBody.getD 0 ≤ (front ++ rest).length := by
          rw [List.length_append]
          omega
        simp only [if_pos hsize, if_pos hlonger]
        exact Decision.final_done hsize
      · simp only [if_neg hsize]
        exact Decision.final_more
  | none =>
    rw [frameRequest, hfind]
    by_cases hlarge : kMaxHeaderBytes < front.length
    · simp only [if_pos hlarge]
      cases hlater : findAt headMarker (front ++ rest) with
      | none =>
        have hlarger : kMaxHeaderBytes < (front ++ rest).length := by
          rw [List.length_append]
          omega
        simp only [frameRequest, hlater, if_pos hlarger]
        exact Decision.final_fail _
      | some marker =>
        -- The marker is not in the front, so it ends behind it.
        have hbehind : front.length < marker + 4 := by
          by_contra hwithin
          rw [findAt_of_append hlater (not_lt.1 hwithin)] at hfind
          cases hfind
        rw [frameRequest_of_findAt hlater, if_pos (by omega)]
        exact Decision.final_fail _
    · simp only [if_neg hlarge, waitForMore]
      rw [if_neg (by omega)]
      exact Decision.final_more

theorem readHttpRequest_eq_readPieces {pieces : List Bytes} (hpieces : ∀ piece ∈ pieces, piece ≠ [])
    (buffered : Bytes) :
    readHttpRequest strerror (pieces.map .received) buffered =
      match readPieces frameRequest pieces buffered with
      | .frame request rest later => .ok (some request, rest, later.map .received)
      | .failed e => .error e
      | .ended buffered =>
        (finishRequest buffered).map fun (request, buffered) => (request, buffered, []) := by
  induction pieces generalizing buffered with
  | nil =>
    rw [readHttpRequest.eq_def, readPieces]
    dsimp only
    cases frameRequest buffered <;> rfl
  | cons piece pieces ih =>
    obtain ⟨hpiece, hlater⟩ := List.forall_mem_cons.1 hpieces
    obtain ⟨b, bytes, rfl⟩ := List.exists_cons_of_ne_nil hpiece
    rw [readHttpRequest.eq_def, readPieces]
    dsimp only
    cases frameRequest buffered with
    | done size => rfl
    | fail e => rfl
    | more => exact ih hlater _

/-- **One call** takes what the stream has in front. -/
theorem readHttpRequest_pieces {pieces : List Bytes} (hpieces : ∀ piece ∈ pieces, piece ≠ [])
    (buffered : Bytes) :
    match nextRequest (buffered ++ pieces.flatten) with
    | .error e => readHttpRequest strerror (pieces.map .received) buffered = .error e
    | .ok (request, rest) => ∃ (buffered' : Bytes) (later : List Bytes),
        readHttpRequest strerror (pieces.map .received) buffered =
          .ok (request, buffered', later.map .received) ∧
        buffered' ++ later.flatten = rest ∧ ∀ piece ∈ later, piece ≠ [] := by
  have hread := readPieces_spec (frameRequest_settles (buffered ++ pieces.flatten))
  rw [readHttpRequest_eq_readPieces strerror hpieces, nextRequest]
  generalize buffered ++ pieces.flatten = stream at hread ⊢
  cases hdecision : frameRequest stream with
  | done size =>
    rw [hdecision] at hread
    obtain ⟨rest, later, houtcome, hrest, hlater⟩ := hread
    rw [houtcome]
    exact ⟨rest, later, rfl, hrest, fun piece hpiece => hpieces piece (hlater.subset hpiece)⟩
  | fail e =>
    rw [hdecision] at hread
    have houtcome : readPieces frameRequest pieces buffered = .failed e := hread
    rw [houtcome]
  | more =>
    rw [hdecision] at hread
    have houtcome : readPieces frameRequest pieces buffered = .ended stream := hread
    cases hfinish : finishRequest stream with
    | error e =>
      simp only [houtcome, hfinish]
      rfl
    | ok result =>
      simp only [houtcome, hfinish]
      exact ⟨result.2, [], rfl, List.append_nil _, by simp⟩

theorem finishRequest_shorter {stream request rest : Bytes}
    (h : finishRequest stream = .ok (some request, rest)) : rest.length < stream.length := by
  unfold finishRequest at h
  split at h
  · cases h
  · split at h
    · cases h
    · split at h
      · cases h
      · dsimp only at h
        split at h
        · cases h
        · next hsize =>
          obtain ⟨-, rfl⟩ : _ ∧ _ = rest := by simpa using h
          rw [List.length_drop]
          omega

theorem nextRequest_shorter {stream request rest : Bytes}
    (h : nextRequest stream = .ok (some request, rest)) : rest.length < stream.length := by
  unfold nextRequest at h
  cases hdecision : frameRequest stream with
  | done size =>
    rw [hdecision] at h
    obtain ⟨-, rfl⟩ : _ ∧ _ = rest := by simpa using h
    obtain ⟨hpos, hsize⟩ : 0 < size ∧ size ≤ stream.length := by
      cases hfind : findAt headMarker stream with
      | none =>
        rw [frameRequest, hfind] at hdecision
        unfold waitForMore at hdecision
        split_ifs at hdecision
      | some marker =>
        rw [frameRequest_of_findAt hfind] at hdecision
        split at hdecision
        · cases hdecision
        · split at hdecision
          · cases hdecision
          · split at hdecision
            · next hsize =>
              obtain rfl : _ = size := Decision.done.inj hdecision
              exact ⟨by omega, hsize⟩
            · cases hdecision
    rw [List.length_drop]
    omega
  | fail e =>
    rw [hdecision] at h
    cases h
  | more =>
    rw [hdecision] at h
    exact finishRequest_shorter h

/-! ## All calls -/

/-- The requests of a closed stream, and the error behind them. -/
def requestsOf : Nat → Bytes → Option (List Bytes × Option HttpError)
  | 0, _ => none
  | fuel + 1, stream =>
    match nextRequest stream with
    | .error e => some ([], some e)
    | .ok (none, _) => some ([], none)
    | .ok (some request, rest) =>
      (requestsOf fuel rest).map fun (requests, ending) => (request :: requests, ending)

theorem readRequests_pieces (fuel : Nat) {pieces : List Bytes}
    (hpieces : ∀ piece ∈ pieces, piece ≠ []) (buffered : Bytes) :
    readRequests strerror fuel (pieces.map .received) buffered =
      requestsOf fuel (buffered ++ pieces.flatten) := by
  induction fuel generalizing pieces buffered with
  | zero => rfl
  | succ fuel ih =>
    have hcall := readHttpRequest_pieces strerror hpieces buffered
    rw [readRequests, requestsOf]
    generalize buffered ++ pieces.flatten = stream at hcall ⊢
    rcases hnext : nextRequest stream with e | ⟨_ | request, rest⟩
    · rw [hnext] at hcall
      rw [hcall]
    · rw [hnext] at hcall
      obtain ⟨buffered', later, hcall, -⟩ := hcall
      rw [hcall]
    · rw [hnext] at hcall
      obtain ⟨buffered', later, hcall, hrest, hlater⟩ := hcall
      rw [hcall]
      simp only [ih hlater, hrest]

theorem requestsOf_enough (stream : Bytes) :
    ∃ result, ∀ fuel, stream.length < fuel → requestsOf fuel stream = some result := by
  induction hlength : stream.length using Nat.strong_induction_on generalizing stream with
  | _ length ih =>
    rcases hnext : nextRequest stream with e | ⟨_ | request, rest⟩
    · refine ⟨([], some e), fun fuel hfuel => ?_⟩
      obtain ⟨fuel, rfl⟩ := Nat.exists_eq_succ_of_ne_zero (Nat.ne_of_gt (Nat.zero_lt_of_lt hfuel))
      rw [requestsOf, hnext]
    · refine ⟨([], none), fun fuel hfuel => ?_⟩
      obtain ⟨fuel, rfl⟩ := Nat.exists_eq_succ_of_ne_zero (Nat.ne_of_gt (Nat.zero_lt_of_lt hfuel))
      rw [requestsOf, hnext]
    · have hshorter := nextRequest_shorter hnext
      obtain ⟨⟨requests, ending⟩, hrest⟩ := ih rest.length (hlength ▸ hshorter) rest rfl
      refine ⟨(request :: requests, ending), fun fuel hfuel => ?_⟩
      obtain ⟨fuel, rfl⟩ := Nat.exists_eq_succ_of_ne_zero (Nat.ne_of_gt (Nat.zero_lt_of_lt hfuel))
      rw [requestsOf, hnext]
      simp only [hrest fuel (by omega), Option.map_some]

/-! ## Requests as they are sent -/

/-- A line that declares the length of the body. -/
def IsLengthLine (line : Bytes) : Prop :=
  ∃ name value, line = name ++ 58 :: value ∧ 58 ∉ name ∧ lower name = str "content-length"

/-- The length that a head declares on its first line for it. -/
inductive Declares : List Bytes → Nat → Prop
  | nothing {lines : List Bytes} (hlines : ∀ line ∈ lines, ¬ IsLengthLine line) : Declares lines 0
  | digits {earlier later : List Bytes} {name blanks digits : Bytes}
      (hearlier : ∀ line ∈ earlier, ¬ IsLengthLine line)
      (hname : lower name = str "content-length") (hblanks : ∀ b ∈ blanks, b = 32 ∨ b = 9)
      (hne : digits ≠ []) (hdigits : ∀ b ∈ digits, Radix.ten.isDigit b = true) :
      Declares (earlier ++ (name ++ 58 :: (blanks ++ digits)) :: later) (Radix.ten.valueOf digits)

/-- A request as a client sends it. -/
structure HttpRequest where
  lines : List Bytes
  body : Bytes
  lines_ne : lines ≠ []
  head_lines : ∀ line ∈ lines, IsHeadLine line
  head_size : (headText lines).length + 4 ≤ kMaxHeaderBytes
  body_size : body.length ≤ kMaxBodyBytes
  declares : Declares lines body.length

def HttpRequest.text (r : HttpRequest) : Bytes := headText r.lines ++ headMarker ++ r.body

theorem not_mem_of_lower {name : Bytes} (h : lower name = str "content-length") : 58 ∉ name := by
  intro hmem
  have hlower : (58 : UInt8) ∈ lower name :=
    List.mem_map.2 ⟨58, hmem, by decide⟩
  rw [h] at hlower
  exact absurd hlower (by decide)

theorem isLengthLine_iff (line : Bytes) :
    IsLengthLine line ↔ (headerField line).map Prod.fst = some (str "content-length") := by
  constructor
  · rintro ⟨name, value, rfl, hcolon, hname⟩
    have hname' : ∀ b ∈ name, (decide (b ≠ 58)) = true := fun b hb =>
      decide_eq_true fun h => hcolon (h ▸ hb)
    rw [headerField, if_pos (by simp), Option.map_some, List.takeWhile_append_of_pos hname',
      List.takeWhile_cons_of_neg (by simp), List.append_nil, hname]
  · intro hfield
    rw [headerField] at hfield
    split at hfield
    · next hcolon =>
      have hname := Option.some.inj hfield
      refine ⟨line.takeWhile (· ≠ 58), (line.dropWhile (· ≠ 58)).drop 1, ?_,
        fun hmem => by simpa using List.mem_takeWhile_imp hmem, hname⟩
      have hdrop : line.dropWhile (· ≠ 58) ≠ [] := by
        intro hnil
        have := List.dropWhile_eq_nil_iff.1 hnil 58 hcolon
        simp at this
      have hhead : (line.dropWhile (· ≠ 58)).head hdrop = 58 := by
        simpa using List.head_dropWhile_not (fun b : UInt8 => decide (b ≠ 58)) hdrop
      have hcons : line.dropWhile (· ≠ 58) = 58 :: (line.dropWhile (· ≠ 58)).drop 1 := by
        conv_lhs => rw [← List.cons_head_tail hdrop, hhead]
        rw [List.drop_one]
      rw [← hcons, List.takeWhile_append_dropWhile]
    · cases hfield

instance (line : Bytes) : Decidable (IsLengthLine line) :=
  decidable_of_iff _ (isLengthLine_iff line).symm

theorem contentLengthOf_append {earlier : List Bytes}
    (h : ∀ line ∈ earlier, ¬ IsLengthLine line) (lines : List Bytes) :
    contentLengthOf (earlier ++ lines) = contentLengthOf lines := by
  induction earlier with
  | nil => rfl
  | cons line earlier ih =>
    obtain ⟨hline, hearlier⟩ := List.forall_mem_cons.1 h
    rw [List.cons_append, contentLengthOf]
    rcases hfield : headerField line with _ | ⟨name, value⟩
    · exact ih hearlier
    · have hname : name ≠ str "content-length" := by
        rintro rfl
        exact hline ((isLengthLine_iff line).2 (by rw [hfield]; rfl))
      simp only [if_pos hname]
      exact ih hearlier

theorem contentLengthOf_declares {lines : List Bytes} {length : Nat} (h : Declares lines length)
    (hlength : length ≤ kMaxBodyBytes) :
    ∃ declared, contentLengthOf lines = .ok declared ∧ declared.getD 0 = length := by
  cases h with
  | nothing hlines =>
    refine ⟨none, ?_, rfl⟩
    rw [← List.append_nil lines, contentLengthOf_append hlines, contentLengthOf]
  | @digits earlier later name blanks digits hearlier hname hblanks hne hdigits =>
    refine ⟨some (Radix.ten.valueOf digits), ?_, rfl⟩
    have hstart : ∀ b ∈ digits.head?, b ≠ 32 ∧ b ≠ 9 := by
      intro b hb
      have hspace := (plain_of_isXDigit (Radix.isXDigit_of_isDigit
        (hdigits b (List.mem_of_mem_head? hb)))).1
      constructor <;> rintro rfl <;> exact absurd hspace (by decide)
    have hsmall : Radix.ten.valueOf digits < 2 ^ 64 :=
      lt_of_le_of_lt hlength (by decide)
    rw [contentLengthOf_append hearlier, contentLengthOf,
      headerField_written (not_mem_of_lower hname) hblanks hstart]
    simp only [hname, stoull_digits hne hdigits hsmall, ne_eq, not_true_eq_false, if_false, false_or]
    rw [if_neg (not_lt.2 hlength)]

/-- A request is complete where it ends. -/
theorem frameRequest_text (r : HttpRequest) (more : Bytes) :
    frameRequest (r.text ++ more) = .done r.text.length := by
  have hmarker : findAt headMarker (r.text ++ more) = some (headText r.lines).length := by
    rw [HttpRequest.text, List.append_assoc]
    exact findAt_headText r.lines_ne r.head_lines _
  have hhead : (r.text ++ more).take (headText r.lines).length = headText r.lines := by
    rw [HttpRequest.text, List.append_assoc, List.append_assoc, List.take_left]
  obtain ⟨declared, hdeclared, hlength⟩ := contentLengthOf_declares r.declares r.body_size
  have hsize : (headText r.lines).length + 4 + r.body.length = r.text.length := by
    simp only [HttpRequest.text, headMarker, List.length_append, List.length_cons, List.length_nil]
  rw [frameRequest_of_findAt hmarker, if_neg (not_lt.2 r.head_size), hhead, contentLength,
    headerLines_headText r.head_lines, hdeclared]
  simp only [hlength, hsize]
  exact if_pos (by simp)

theorem requestsOf_texts (sent : List HttpRequest) {fuel : Nat} (hfuel : sent.length < fuel) :
    requestsOf fuel (sent.map HttpRequest.text).flatten = some (sent.map HttpRequest.text, none) := by
  induction sent generalizing fuel with
  | nil =>
    obtain ⟨fuel, rfl⟩ := Nat.exists_eq_succ_of_ne_zero (Nat.ne_of_gt hfuel)
    rfl
  | cons r sent ih =>
    obtain ⟨fuel, rfl⟩ := Nat.exists_eq_succ_of_ne_zero (Nat.ne_of_gt (Nat.zero_lt_of_lt hfuel))
    rw [List.map_cons, List.flatten_cons, requestsOf, nextRequest, frameRequest_text]
    simp only [List.take_left, List.drop_left, ih (Nat.lt_of_succ_lt_succ hfuel), Option.map_some]

/-- **Requests are the same however `recv` cuts the stream.** -/
theorem requests_independent_of_pieces (stream : Bytes) :
    ∃ requests ending,
      (∀ pieces, Cuts requestBufferSize stream pieces → ∀ fuel, stream.length < fuel →
        readRequests strerror fuel (pieces.map .received) [] = some (requests, ending)) ∧
      ∀ sent : List HttpRequest, stream = (sent.map HttpRequest.text).flatten →
        requests = sent.map HttpRequest.text ∧ ending = none := by
  obtain ⟨⟨requests, ending⟩, henough⟩ := requestsOf_enough stream
  refine ⟨requests, ending, fun pieces hcuts fuel hfuel => ?_, fun sent hsent => ?_⟩
  · rw [readRequests_pieces strerror fuel fun piece hpiece => (hcuts.2 piece hpiece).1,
      List.nil_append, hcuts.1]
    exact henough fuel hfuel
  · have hfuel := henough (max stream.length sent.length + 1) (by omega)
    rw [hsent, requestsOf_texts sent (by omega)] at hfuel
    obtain ⟨hrequests, hending⟩ := Prod.mk.inj (Option.some.inj hfuel)
    exact ⟨hrequests.symm, hending.symm⟩

/-- A request without a body. -/
def sampleGet : HttpRequest where
  lines := [str "GET /health HTTP/1.1", str "Host: jetson"]
  body := []
  lines_ne := by decide
  head_lines := by decide
  head_size := by decide
  body_size := by decide
  declares := .nothing (by decide)

/-- A request with a body of two bytes. -/
def samplePost : HttpRequest where
  lines := [str "POST /v1/generate HTTP/1.1"] ++
    [str "content-Length" ++ 58 :: ([32] ++ [48, 50])]
  body := str "hi"
  lines_ne := by decide
  head_lines := by decide
  head_size := by decide
  body_size := by decide
  declares := .digits (by decide) (by decide) (by simp) (by decide) (List.all_eq_true.1 (by decide))

/-- Two requests in pieces that end inside a head and inside a body. -/
theorem requests_independent_of_pieces_two :
    let stream := sampleGet.text ++ samplePost.text
    readRequests (fun _ => []) 200
        ([stream.take 39, (stream.drop 39).take 50, stream.drop 89].map .received) [] =
      some ([sampleGet.text, samplePost.text], none) := by
  intro stream
  obtain ⟨requests, ending, hread, hsent⟩ := requests_independent_of_pieces (fun _ => []) stream
  obtain ⟨rfl, rfl⟩ := hsent [sampleGet, samplePost] (by decide)
  exact hread _ (by decide) 200 (by decide)

end JetsonFabric
