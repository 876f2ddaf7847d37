import JetsonFabric.Transport.HttpServer
import JetsonFabric.Protocol.RoundTrip

/-!
# Stage calls over a connection

A coordinator calls the stages of a peer over a connection that it keeps (`HTTPStageTransport::invoke`
in `transport/http_stage_transport.cpp`), and the server of the peer reads the calls from it.

* **`stage_calls_served`**: the calls of the coordinator are the calls of the peer's runtime.
-/

namespace JetsonFabric

open Incremental Checks

/-! ## Stage calls as they are sent -/

section Stage

variable {τ : Type} (json : Json.Codec isValidUtf8) (transport : HttpStageTransport τ)

/-- A field on a line of its own. -/
def fieldLine (name value : Bytes) : Bytes := name ++ 58 :: ([32] ++ value)

/-- The lines of the head that `invoke` sends. -/
def stageHeadLines (token : Bytes) (target : HttpUrl) (size : Nat) : List Bytes :=
  [str "POST " ++ stagePath target.path ++ str " HTTP/1.1",
    fieldLine (str "Host") (target.host ++ 58 :: target.port),
    fieldLine (str "Content-Type") stageWireContentType,
    fieldLine (str "Accept") stageWireContentType,
    fieldLine (str "X-JetsonFabric-Cluster-Token") token,
    fieldLine (str "Content-Length") (decimal size),
    str "Connection: keep-alive"]

/-- A call to a runtime at the root of its address. -/
structure PeerCall where
  stage : GenerationStage
  request : StageRequest
  operation : StageOperation
  target : HttpUrl
  frame : Bytes
  prepared : transport.prepareCall json stage request operation = .ok (target, frame)
  root : ∀ b ∈ target.path, b = 47
  hostLine : ∀ b ∈ target.host ++ 58 :: target.port, b ≠ 13 ∧ b ≠ 10
  tokenLine : ∀ b ∈ transport.clusterToken, b ≠ 13 ∧ b ≠ 10
  fits : (headText (stageHeadLines transport.clusterToken target frame.length)).length + 4 ≤
    kMaxHeaderBytes

namespace PeerCall

variable {json transport} (call : PeerCall json transport)

def lines : List Bytes := stageHeadLines transport.clusterToken call.target call.frame.length

/-- What is sent: the head and the frame. -/
def text : Bytes := headText call.lines ++ headMarker ++ call.frame

end PeerCall

theorem length_of_encodeFramePrefix {order : List MetadataField} {metadata : MetadataValues}
    {payload front : Bytes} {checksum : UInt32}
    (h : encodeFramePrefix json order metadata payload checksum = .ok front) :
    (front ++ payload).length ≤ kMaxBodyBytes := by
  obtain ⟨text, -, h⟩ := bind_eq_ok.1 h
  obtain ⟨_, hsize, h⟩ := bind_eq_ok.1 h
  cases h
  have hfits := refuse_eq_ok.1 hsize
  simp only [maxMetadataBytes, maxPayloadBytes, not_or, gt_iff_lt, not_lt] at hfits
  simp only [List.length_append, length_frameHeader, headerSize, kMaxBodyBytes]
  omega

/-- A text without the blanks at its ends. -/
def trimBlanks (text : Bytes) : Bytes :=
  (text.dropWhile fun b => b == 32 || b == 9).rdropWhile fun b => b == 32 || b == 9

theorem headerField_fieldLine {name : Bytes} (hname : 58 ∉ name) (value : Bytes) :
    headerField (fieldLine name value) =
      some (lower name, value.dropWhile fun b => b == 32 || b == 9) := by
  have hname' : ∀ b ∈ name, (decide (b ≠ 58)) = true := fun b hb =>
    decide_eq_true fun h => hname (h ▸ hb)
  rw [headerField, fieldLine, if_pos (by simp), List.takeWhile_append_of_pos hname',
    List.dropWhile_append_of_pos hname', List.takeWhile_cons_of_neg (by simp),
    List.dropWhile_cons_of_neg (by simp), List.append_nil]
  rfl

theorem headerValueOf_fieldLine {name field : Bytes} (hfield : 58 ∉ field) (value : Bytes)
    (lines : List Bytes) :
    headerValueOf name (fieldLine field value :: lines) =
      if lower field ≠ lower name then headerValueOf name lines else some (trimBlanks value) := by
  rw [headerValueOf, headerField_fieldLine hfield]
  rfl

theorem not_isLengthLine {name : Bytes} (hname : 58 ∉ name) (hne : lower name ≠ str "content-length")
    (value : Bytes) : ¬ IsLengthLine (fieldLine name value) := by
  rw [isLengthLine_iff, headerField_fieldLine hname]
  exact fun h => hne (Option.some.inj h)

theorem headText_concat {lines : List Bytes} (hne : lines ≠ []) (last : Bytes) :
    headText (lines ++ [last]) = headText lines ++ 13 :: 10 :: last := by
  fun_induction headText lines with
  | case1 => exact absurd rfl hne
  | case2 line => rfl
  | case3 line lines hlines ih =>
    obtain ⟨next, others, rfl⟩ := List.exists_cons_of_ne_nil hlines
    rw [List.cons_append, List.cons_append, headText, ← List.cons_append, ih hlines]
    · simp
    · simp

theorem valueOf_decimal (n : Nat) : Radix.ten.valueOf (decimal n) = n := by
  refine Eq.trans (List.foldl_ext _ _ _ fun m b hb => ?_) (foldl_str_repr n)
  rw [Radix.digitValue, if_pos (mem_str_repr hb).2]
  rfl

theorem isHeadLine_fieldLine {name value : Bytes} (hname : IsHeadLine name)
    (hvalue : ∀ b ∈ value, b ≠ 13 ∧ b ≠ 10) : IsHeadLine (fieldLine name value) := by
  obtain ⟨hne, hreturn, hnewline⟩ := hname
  refine ⟨List.append_ne_nil_of_left_ne_nil hne _, fun h => ?_, fun h => ?_⟩
  · exact (List.mem_append.1 h).elim hreturn fun h => (hvalue _ (by simpa using h)).1 rfl
  · exact (List.mem_append.1 h).elim hnewline fun h => (hvalue _ (by simpa using h)).2 rfl

theorem startsWith_append {front pre : Bytes} (h : pre.length ≤ front.length) (rest : Bytes) :
    startsWith (front ++ rest) pre = startsWith front pre := by
  rw [Bool.eq_iff_iff, startsWith, startsWith, List.isPrefixOf_iff_prefix, List.isPrefixOf_iff_prefix]
  exact ⟨fun hpre => List.prefix_of_prefix_length_le hpre (List.prefix_append _ _) h,
    fun hpre => hpre.trans (List.prefix_append _ _)⟩

/-- The response to a stage call, and whether the connection stays. -/
def stageReply : Except Bytes ServerResponse → ServerResponse × Bool
  | .error what => (invalidRequestResponse what, false)
  | .ok response => ({ response with closeConnection := false }, true)

namespace PeerCall

variable {json transport} (call : PeerCall json transport)

theorem encoded :
    encodeStageRequest json call.request (operationName call.operation) = .ok call.frame := by
  obtain ⟨_, -, h⟩ := bind_eq_ok.1 call.prepared
  obtain ⟨_, -, h⟩ := bind_eq_ok.1 h
  obtain ⟨_, -, h⟩ := bind_eq_ok.1 h
  obtain ⟨frame, hframe, h⟩ := bind_eq_ok.1 h
  obtain ⟨-, rfl⟩ : _ ∧ frame = call.frame := by simpa using h
  exact mapError_eq_ok hframe

theorem frame_size : call.frame.length ≤ kMaxBodyBytes := by
  obtain ⟨_, -, h⟩ := bind_eq_ok.1 call.encoded
  obtain ⟨_, -, h⟩ := bind_eq_ok.1 h
  obtain ⟨_, -, h⟩ := bind_eq_ok.1 h
  obtain ⟨_, -, h⟩ := bind_eq_ok.1 h
  obtain ⟨front, hfront, h⟩ := bind_eq_ok.1 h
  rw [← Except.ok.inj h]
  exact length_of_encodeFramePrefix json hfront

theorem stagePath_root : stagePath call.target.path = str "/v1/layer-split/stage" := by
  rw [stagePath, List.rdropWhile_eq_nil_iff.2 (by simpa using call.root), List.nil_append]

theorem declares : Declares call.lines call.frame.length := by
  have h : Declares call.lines (Radix.ten.valueOf (decimal call.frame.length)) := by
    refine @Declares.digits (call.lines.take 5) _ (str "Content-Length") [32] _ ?_ (by decide)
      (by simp) (str_repr_ne_nil _) fun b hb => ?_
    · have hpost : ¬ IsLengthLine (str "POST /v1/layer-split/stage HTTP/1.1") := by decide
      simp only [lines, stageHeadLines, call.stagePath_root, List.take_succ_cons, List.take_zero,
        List.forall_mem_cons]
      refine ⟨hpost, ?_, ?_, ?_, ?_, by simp⟩
      all_goals exact not_isLengthLine (by decide) (by decide) _
    · obtain ⟨hlow, hhigh⟩ := mem_str_repr hb
      simp [Radix.isDigit, hlow, hhigh]
  rwa [valueOf_decimal] at h

theorem isHeadLine_of_mem : ∀ line ∈ call.lines, IsHeadLine line := by
  have hpost : IsHeadLine (str "POST /v1/layer-split/stage HTTP/1.1") := by decide
  have hsize : ∀ b ∈ decimal call.frame.length, b ≠ 13 ∧ b ≠ 10 := by
    intro b hb
    have hdigit := (mem_str_repr hb).1
    constructor <;> rintro rfl <;> exact absurd hdigit (by decide)
  simp only [lines, stageHeadLines, call.stagePath_root, List.forall_mem_cons]
  exact ⟨hpost, isHeadLine_fieldLine (by decide) call.hostLine, by decide, by decide,
    isHeadLine_fieldLine (by decide) call.tokenLine, isHeadLine_fieldLine (by decide) hsize,
    by decide, by simp⟩

/-- The call as a request. -/
def httpRequest : HttpRequest where
  lines := call.lines
  body := call.frame
  lines_ne := List.cons_ne_nil _ _
  head_lines := call.isHeadLine_of_mem
  head_size := call.fits
  body_size := call.frame_size
  declares := call.declares

theorem findAt_text : findAt headMarker call.text = some (headText call.lines).length :=
  findAt_headText (List.cons_ne_nil _ _) call.isHeadLine_of_mem _

theorem take_text : call.text.take (headText call.lines).length = headText call.lines := by
  rw [text, List.append_assoc, List.take_left]

theorem requestBody_text : requestBody call.text = call.frame := by
  have hlength : (headText call.lines).length + 4 = (headText call.lines ++ headMarker).length := by
    rw [List.length_append]
    rfl
  rw [requestBody, call.findAt_text]
  dsimp only
  rw [hlength, text, List.drop_left]

theorem headerValue_text :
    headerValue call.text tokenField = some (trimBlanks transport.clusterToken) := by
  have hpost : headerField (str "POST " ++ str "/v1/layer-split/stage" ++ str " HTTP/1.1") = none := by
    decide
  rw [headerValue, call.findAt_text]
  dsimp only
  rw [call.take_text, headerLines_headText call.isHeadLine_of_mem, lines, stageHeadLines,
    call.stagePath_root, headerValueOf, hpost]
  dsimp only
  rw [headerValueOf_fieldLine (by decide), if_pos (by decide), headerValueOf_fieldLine (by decide),
    if_pos (by decide), headerValueOf_fieldLine (by decide), if_pos (by decide),
    headerValueOf_fieldLine (by decide), if_neg (by decide)]

theorem readHttpRequest_text (strerror : Int → Bytes) {pieces : List Bytes}
    (hpieces : ∀ piece ∈ pieces, piece ≠ []) {buffered more : Bytes}
    (hstream : buffered ++ pieces.flatten = call.text ++ more) :
    ∃ (buffered' : Bytes) (later : List Bytes),
      readHttpRequest strerror (pieces.map .received) buffered =
          .ok (some call.text, buffered', later.map .received) ∧
        buffered' ++ later.flatten = more ∧ ∀ piece ∈ later, piece ≠ [] := by
  have hframe : frameRequest (call.text ++ more) = .done call.text.length :=
    frameRequest_text call.httpRequest more
  have hread := readHttpRequest_pieces strerror hpieces buffered
  rw [hstream, nextRequest, hframe] at hread
  simpa only [List.take_left, List.drop_left] using hread

theorem startsWith_text {front : Bytes} (hfront : front.length ≤ 35) :
    startsWith call.text front = startsWith (str "POST /v1/layer-split/stage HTTP/1.1") front := by
  have hsplit : ∃ rest, call.text = str "POST /v1/layer-split/stage HTTP/1.1" ++ rest := by
    rw [text, lines, stageHeadLines, call.stagePath_root, headText]
    · exact ⟨_, by rw [List.append_assoc, List.append_assoc]; rfl⟩
    · simp
  obtain ⟨rest, hrest⟩ := hsplit
  rw [hrest]
  exact startsWith_append (hfront.trans (by decide)) rest

theorem requestsStageKeepAlive_text : requestsStageKeepAlive call.text = true := by
  have hhead : headText call.lines =
      headText (call.lines.take 6) ++ 13 :: 10 :: str "Connection: keep-alive" := by
    have hinit : call.lines.take 6 ≠ [] := List.cons_ne_nil _ _
    exact headText_concat hinit (str "Connection: keep-alive")
  rw [requestsStageKeepAlive, call.startsWith_text (by decide), call.findAt_text]
  dsimp only
  rw [call.take_text, hhead, Bool.and_eq_true]
  refine ⟨by decide, isSome_findAt.2 ⟨lower (headText (call.lines.take 6)), [], ?_⟩⟩
  rw [List.append_nil, List.append_assoc, lower, lower, List.map_append]
  rfl

theorem runtimeCall_text : runtimeCall call.text = some (.runStage call.frame) := by
  rw [runtimeCall, call.requestBody_text]
  simp (disch := decide) only [call.startsWith_text]
  rfl

theorem decodeStageCall_frame (htyped : call.request.Typed) (hutf8 : call.request.Utf8) :
    decodeStageCall json call.frame = .ok (operationName call.operation, call.request) := by
  obtain ⟨hoperation, hrequest, -⟩ := encodeStageRequest_roundTrip htyped hutf8 call.encoded
  obtain ⟨_, hvalid, -⟩ := bind_eq_ok.1 call.encoded
  rw [decodeStageCall, hoperation, ok_bind, hrequest, ok_bind, hvalid]
  rfl

variable {σ : Type} {server : HttpServer σ} (hsame : server.clusterToken = transport.clusterToken)

include hsame in
theorem handleRequest_refused
    (hblank : trimBlanks transport.clusterToken ≠ transport.clusterToken) (world : σ) :
    server.handleRequest call.text world = ([], some (unauthorizedResponse, false), world) := by
  refine if_pos ⟨by rw [call.startsWith_text (by decide)]; decide, fun h => ?_⟩
  have htoken : transport.clusterToken ≠ [] := fun hnil => hblank (by rw [hnil]; rfl)
  have hvalue := headerValue_of_authorized (hsame ▸ htoken) h
  rw [call.headerValue_text, hsame] at hvalue
  exact hblank (Option.some.inj hvalue)

include hsame in
theorem handleRequest_text (htrim : trimBlanks transport.clusterToken = transport.clusterToken)
    {world after : σ} {result : Except Bytes ServerResponse}
    (hresult : server.call (.runStage call.frame) world = (result, after)) :
    server.handleRequest call.text world =
      ([.runStage call.frame], some (stageReply result), after) := by
  have hauthorized : runtimeWriteAuthorized call.text server.clusterToken = true := by
    rw [runtimeWriteAuthorized, call.headerValue_text, htrim, hsame, Option.any_some,
      (constantTimeEqual_iff _ _).2 rfl, Bool.or_true]
  rw [HttpServer.handleRequest, if_neg fun h => h.2 hauthorized,
    call.startsWith_text (by decide), if_neg (by decide), call.runtimeCall_text]
  simp only [hresult, call.requestsStageKeepAlive_text, Bool.not_true]
  cases result <;> rfl

end PeerCall

/-- Run frames as long as nothing throws. -/
def HttpServer.serveFrames {σ : Type} (server : HttpServer σ) : List Bytes → σ → List Bytes × σ
  | [], world => ([], world)
  | frame :: frames, world =>
    let ran := server.call (.runStage frame) world
    let sent := server.sendResponse (stageReply ran.1).1 ran.2
    if sent.1 ∧ (stageReply ran.1).2 then (serveFrames server frames sent.2).map (frame :: ·) id
    else ([frame], sent.2)

variable {json transport}

theorem handleClient_serves {σ : Type} {server : HttpServer σ} (strerror : Int → Bytes)
    (hsame : server.clusterToken = transport.clusterToken)
    (htrim : trimBlanks transport.clusterToken = transport.clusterToken)
    (calls : List (PeerCall json transport)) {pieces : List Bytes}
    (hpieces : ∀ piece ∈ pieces, piece ≠ []) {buffered : Bytes}
    (hstream : buffered ++ pieces.flatten = (calls.map PeerCall.text).flatten) {fuel : Nat}
    (hfuel : calls.length < fuel) (world : σ) :
    ∃ made, server.handleClient strerror fuel (pieces.map .received) buffered world =
        some (made, (server.serveFrames (calls.map PeerCall.frame) world).2) ∧
      made.map Prod.snd =
        (server.serveFrames (calls.map PeerCall.frame) world).1.map RuntimeCall.runStage := by
  induction calls generalizing pieces buffered fuel world with
  | nil =>
    obtain ⟨fuel, rfl⟩ := Nat.exists_eq_succ_of_ne_zero (Nat.ne_zero_of_lt hfuel)
    have hread := readHttpRequest_pieces strerror hpieces buffered
    have hnext : nextRequest [] = .ok (none, []) := by decide
    rw [hstream, List.map_nil, List.flatten_nil, hnext] at hread
    obtain ⟨_, _, hread, -⟩ := hread
    exact ⟨[], by rw [HttpServer.handleClient, hread]; rfl, rfl⟩
  | cons call calls ih =>
    obtain ⟨fuel, rfl⟩ := Nat.exists_eq_succ_of_ne_zero (Nat.ne_zero_of_lt hfuel)
    obtain ⟨buffered', later, hread, hrest, hlater⟩ := call.readHttpRequest_text strerror hpieces
      (hstream.trans List.flatten_cons)
    rcases hran : server.call (.runStage call.frame) world with ⟨result, after⟩
    have hhandle := call.handleRequest_text hsame htrim hran
    rcases hreply : stageReply result with ⟨response, keepAlive⟩
    rw [hreply] at hhandle
    rcases hsend : server.sendResponse response after with ⟨sent, sent'⟩
    rw [List.map_cons, HttpServer.serveFrames, server.handleClient_reply hread hhandle hsend]
    simp only [hran, hreply, hsend]
    by_cases hkeep : sent = true ∧ keepAlive = true
    · obtain ⟨made, hmade, hcalls⟩ := ih hlater hrest (Nat.lt_of_succ_lt_succ hfuel) sent'
      rw [if_pos hkeep, if_pos hkeep, hmade]
      exact ⟨_, rfl, congrArg (RuntimeCall.runStage call.frame :: ·) hcalls⟩
    · rw [if_neg hkeep, if_neg hkeep]
      exact ⟨_, rfl, rfl⟩

/-- **Stage calls** are run in order by a server with the token, each as it was made. -/
theorem stage_calls_served {σ : Type} {server : HttpServer σ} (strerror : Int → Bytes)
    (hsame : server.clusterToken = transport.clusterToken)
    (calls : List (PeerCall json transport)) {pieces : List Bytes}
    (hcuts : Cuts requestBufferSize (calls.map PeerCall.text).flatten pieces) {fuel : Nat}
    (hfuel : calls.length < fuel) (world : σ) :
    (trimBlanks transport.clusterToken = transport.clusterToken →
      ∃ made, server.handleClient strerror fuel (pieces.map .received) [] world =
          some (made, (server.serveFrames (calls.map PeerCall.frame) world).2) ∧
        made.map Prod.snd =
          (server.serveFrames (calls.map PeerCall.frame) world).1.map RuntimeCall.runStage) ∧
    (trimBlanks transport.clusterToken ≠ transport.clusterToken → calls ≠ [] →
      server.handleClient strerror fuel (pieces.map .received) [] world =
        some ([], (server.sendResponse unauthorizedResponse world).2)) ∧
    ∀ call ∈ calls, call.request.Typed → call.request.Utf8 →
      decodeStageCall json call.frame = .ok (operationName call.operation, call.request) := by
  have hpieces : ∀ piece ∈ pieces, piece ≠ [] := fun piece hpiece => (hcuts.2 piece hpiece).1
  refine ⟨fun htrim => ?_, fun hblank hne => ?_, fun call _ => call.decodeStageCall_frame⟩
  · exact handleClient_serves strerror hsame htrim calls hpieces hcuts.1 hfuel world
  · obtain ⟨call, calls, rfl⟩ := List.exists_cons_of_ne_nil hne
    obtain ⟨fuel, rfl⟩ := Nat.exists_eq_succ_of_ne_zero (Nat.ne_zero_of_lt hfuel)
    obtain ⟨_, _, hread, -⟩ := call.readHttpRequest_text strerror hpieces
      ((List.nil_append _).trans (hcuts.1.trans List.flatten_cons))
    rw [server.handleClient_reply hread (call.handleRequest_refused hsame hblank world) rfl,
      if_neg (by simp)]
    rfl

def sampleTransport : HttpStageTransport Unit where
  clusterToken := str "token"
  target := .runtime
  exchange _ _ _ _ := (.error [], ())
  elapsedUs _ := 0

def sampleStage : GenerationStage :=
  { apiUrl := str "http://jetson:8080", runtimeUrl := str "http://jetson:9090/" }

def samplePeerCall : PeerCall (Json.compact isValidUtf8) sampleTransport where
  stage := sampleStage
  request := sampleStageRequest
  operation := .execute
  target := { host := str "jetson", port := str "9090" }
  frame := ((sampleTransport.prepareCall (Json.compact isValidUtf8) sampleStage sampleStageRequest
    .execute).toOption.map Prod.snd).getD []
  prepared := toOption_eq_some.1 (by decide +kernel)
  root := by decide +kernel
  hostLine := by decide +kernel
  tokenLine := by decide +kernel
  fits := by decide +kernel

theorem stage_calls_served_pair :
    ∃ made, sampleServer.handleClient (fun _ => []) 3
        ([(samplePeerCall.text ++ samplePeerCall.text).take 100,
          (samplePeerCall.text ++ samplePeerCall.text).drop 100].map .received) [] () =
        some (made, ()) ∧
      made.map Prod.snd = [.runStage samplePeerCall.frame, .runStage samplePeerCall.frame] :=
  (stage_calls_served (fun _ => []) rfl [samplePeerCall, samplePeerCall] (by decide +kernel)
    (by decide) ()).1 (by decide)

end Stage

end JetsonFabric
