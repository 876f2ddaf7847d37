import JetsonFabric.Transport.HttpRequest

/-!
# Connections of the HTTP server

`handle_client` of `api/http_server.cpp`: the requests of one connection, one after the other, until one
of them is not to be followed by another. The runtime behind it, with `/healthz`, and the socket are
parameters.

* **`writes_carry_token`**: no write without the token of the cluster.
-/

namespace JetsonFabric

open Incremental Checks

/-! ## The code -/

def startsWith (value front : Bytes) : Bool := front.isPrefixOf value

/-- The value on the first line for a field, without the blanks around it. -/
def headerValueOf (name : Bytes) : List Bytes → Option Bytes
  | [] => none
  | line :: lines =>
    match headerField line with
    | none => headerValueOf name lines
    | some (field, value) =>
      if field ≠ lower name then headerValueOf name lines
      else some (value.rdropWhile fun b => b == 32 || b == 9)

def headerValue (request name : Bytes) : Option Bytes :=
  match findAt headMarker request with
  | none => none
  | some marker => headerValueOf name (headerLines (request.take marker))

def constantTimeEqual (left right : Bytes) : Bool :=
  (List.range (max left.length right.length)).foldl
    (fun difference i => difference ||| ((left.getD i 0).toNat ^^^ (right.getD i 0).toNat))
    (left.length ^^^ right.length) == 0

def tokenField : Bytes := str "x-jetsonfabric-cluster-token"

def runtimeWriteAuthorized (request token : Bytes) : Bool :=
  token.isEmpty || (headerValue request tokenField).any (constantTimeEqual · token)

def requestBody (request : Bytes) : Bytes :=
  match findAt headMarker request with
  | none => []
  | some marker => request.drop (marker + 4)

def requestsStageKeepAlive (request : Bytes) : Bool :=
  startsWith request (str "POST /v1/layer-split/stage ") &&
    match findAt headMarker request with
    | none => false
    | some marker =>
      (findAt (str "\r\nconnection: keep-alive\r\n")
        (lower (request.take marker ++ str "\r\n"))).isSome

/-- What the server asks of the runtime. -/
inductive RuntimeCall
  | healthz
  | deploymentStatus
  | generate (body : Bytes)
  | loadDeployment (body : Bytes)
  | activateDeployment (body : Bytes)
  | drainDeployment (body : Bytes)
  | unloadDeployment (body : Bytes)
  | chatCompletion (body : Bytes)
  | runStage (body : Bytes)
  deriving DecidableEq

def RuntimeCall.isWrite : RuntimeCall → Bool
  | .healthz | .deploymentStatus => false
  | _ => true

/-- The call for a request; a generation is looked for before. -/
def runtimeCall (request : Bytes) : Option RuntimeCall :=
  let body := requestBody request
  if startsWith request (str "GET /healthz ") then some .healthz
  else if startsWith request (str "GET /v1/deployment ") then some .deploymentStatus
  else if startsWith request (str "POST /v1/deployment/load ") then some (.loadDeployment body)
  else if startsWith request (str "POST /v1/deployment/activate ") then
    some (.activateDeployment body)
  else if startsWith request (str "POST /v1/deployment/drain ") then some (.drainDeployment body)
  else if startsWith request (str "POST /v1/deployment/unload ") then some (.unloadDeployment body)
  else if startsWith request (str "POST /v1/chat/completions ") then some (.chatCompletion body)
  else if startsWith request (str "POST /v1/layer-split/stage ") then some (.runStage body)
  else none

/-- A response; the connection is closed unless it says otherwise. -/
structure ServerResponse where
  status : Bytes
  contentType : Bytes
  body : Bytes
  closeConnection : Bool := true
  deriving DecidableEq

def jsonResponse (status body : Bytes) : ServerResponse :=
  { status, contentType := str "application/json", body }

def notFoundResponse : ServerResponse :=
  jsonResponse (str "404 Not Found") (str "\x7b\"error\":\"not found\"\x7d")

def unauthorizedResponse : ServerResponse :=
  jsonResponse (str "401 Unauthorized") (str "\x7b\"error\":\"runtime_auth_failed\",\"message\":" ++
    str "\"runtime writes require the configured cluster token\"\x7d")

/-- The answer to an exception. -/
def invalidRequestResponse (what : Bytes) : ServerResponse :=
  jsonResponse (str "400 Bad Request")
    (str "\x7b\"error\":\"invalid_http_request\",\"message\":\"" ++ what ++ str "\"\x7d")

def HttpError.what : HttpError → Bytes
  | .invalidArgument what | .outOfRange what | .runtimeError what => what

/-- A server with its runtime and the sending side. -/
structure HttpServer (σ : Type) where
  clusterToken : Bytes
  call : RuntimeCall → σ → Except Bytes ServerResponse × σ
  sendGenerationHeaders : σ → Bool × σ
  generate : Bytes → σ → Except Bytes Unit × σ
  sendResponse : ServerResponse → σ → Bool × σ

namespace HttpServer

variable {σ : Type} (server : HttpServer σ) (strerror : Int → Bytes)

/-- The calls of one request, and its response. -/
def handleRequest (request : Bytes) (world : σ) :
    List RuntimeCall × Option (ServerResponse × Bool) × σ :=
  if startsWith request (str "POST ") ∧ ¬ runtimeWriteAuthorized request server.clusterToken then
    ([], some (unauthorizedResponse, false), world)
  else if startsWith request (str "POST /v1/generate ") then
    match server.sendGenerationHeaders world with
    | (false, world) => ([], none, world)
    | (true, world) =>
      match server.generate (requestBody request) world with
      | (.ok (), world) => ([.generate (requestBody request)], none, world)
      | (.error what, world) =>
        ([.generate (requestBody request)], some (invalidRequestResponse what, false), world)
  else
    match runtimeCall request with
    | none => ([], some (notFoundResponse, false), world)
    | some call =>
      match server.call call world with
      | (.error what, world) => ([call], some (invalidRequestResponse what, false), world)
      | (.ok response, world) =>
        -- only a stage call asks for the connection to stay
        let keepAlive := requestsStageKeepAlive request
        ([call], some ({ response with closeConnection := !keepAlive }, keepAlive), world)

/-- `handle_client`, over what `recv` returns. -/
def handleClient : Nat → List RecvResult → Bytes → σ → Option (List (Bytes × RuntimeCall) × σ)
  | 0, _, _, _ => none
  | fuel + 1, answers, buffered, world =>
    match readHttpRequest strerror answers buffered with
    | .error e => some ([], (server.sendResponse (invalidRequestResponse e.what) world).2)
    | .ok (none, _, _) => some ([], world)
    | .ok (some request, buffered, answers) =>
      let (calls, reply, world) := server.handleRequest request world
      let made := calls.map fun call => (request, call)
      match reply with
      | none => some (made, world)
      | some (response, keepAlive) =>
        let (sent, world) := server.sendResponse response world
        if sent ∧ keepAlive then
          (handleClient fuel answers buffered world).map fun (later, world) => (made ++ later, world)
        else some (made, world)

end HttpServer

/-! ## Writes -/

theorem foldl_or_eq_zero (f : Nat → Nat) (is : List Nat) (d : Nat) :
    is.foldl (fun d i => d ||| f i) d = 0 ↔ d = 0 ∧ ∀ i ∈ is, f i = 0 := by
  induction is generalizing d with
  | nil => simp
  | cons i is ih => rw [List.foldl_cons, ih, Nat.or_eq_zero_iff, List.forall_mem_cons, and_assoc]

/-- The comparison that looks at every byte is equality. -/
theorem constantTimeEqual_iff (left right : Bytes) :
    constantTimeEqual left right = true ↔ left = right := by
  rw [constantTimeEqual, beq_iff_eq, foldl_or_eq_zero, Nat.xor_eq_zero_iff]
  constructor
  · rintro ⟨hlength, hbytes⟩
    refine List.ext_getElem hlength fun i hleft hright => ?_
    have hbyte := hbytes i (List.mem_range.2 (lt_max_of_lt_left hleft))
    rw [Nat.xor_eq_zero_iff, UInt8.toNat_inj, List.getD_eq_getElem _ _ hleft,
      List.getD_eq_getElem _ _ hright] at hbyte
    exact hbyte
  · rintro rfl
    exact ⟨rfl, fun i _ => Nat.xor_self _⟩

theorem startsWith_mono {request longer front : Bytes} (h : startsWith request longer = true)
    (hfront : front <+: longer) : startsWith request front = true :=
  List.isPrefixOf_iff_prefix.2 (hfront.trans (List.isPrefixOf_iff_prefix.1 h))

theorem headerValue_of_authorized {request token : Bytes} (htoken : token ≠ [])
    (h : runtimeWriteAuthorized request token = true) :
    headerValue request tokenField = some token := by
  rw [runtimeWriteAuthorized, List.isEmpty_eq_false_iff.2 htoken, Bool.false_or,
    Option.any_eq_true_iff_get] at h
  obtain ⟨hsome, heq⟩ := h
  rw [← (constantTimeEqual_iff _ _).1 heq, Option.some_get]

theorem startsWith_of_isWrite {request : Bytes} {call : RuntimeCall}
    (hcall : runtimeCall request = some call) (hwrite : call.isWrite = true) :
    startsWith request (str "POST ") = true := by
  unfold runtimeCall at hcall
  dsimp only at hcall
  split_ifs at hcall <;> cases hcall
  · exact absurd hwrite Bool.false_ne_true
  · exact absurd hwrite Bool.false_ne_true
  all_goals
    rename_i hroute
    exact startsWith_mono hroute (by decide)

namespace HttpServer

variable {σ : Type} (server : HttpServer σ) (strerror : Int → Bytes)

/-- **One request.** A write is made for a request that carries the token. -/
theorem handleRequest_calls (htoken : server.clusterToken ≠ []) (request : Bytes) (world : σ) :
    ∀ call ∈ (server.handleRequest request world).1, call.isWrite = true →
      headerValue request tokenField = some server.clusterToken := by
  intro call hmem hwrite
  unfold handleRequest at hmem
  split at hmem
  · cases hmem
  · next hrefused =>
    suffices hpost : startsWith request (str "POST ") = true by
      refine headerValue_of_authorized htoken (not_not.1 fun h => hrefused ⟨hpost, h⟩)
    split at hmem
    · next hgenerate => exact startsWith_mono hgenerate (by decide)
    · split at hmem
      · cases hmem
      · next found hfound =>
        have hcall : call = found := by
          split at hmem <;> exact List.mem_singleton.1 hmem
        exact startsWith_of_isWrite hfound (hcall ▸ hwrite)

end HttpServer

/-- The bytes that a call of `recv` brings. -/
def RecvResult.size : RecvResult → Nat
  | .received bytes => bytes.length
  | .failed _ => 0

/-- The bytes that are still to be read on a connection. -/
def available (answers : List RecvResult) (buffered : Bytes) : Nat :=
  buffered.length + (answers.map RecvResult.size).sum

theorem available_of_finishRequest {answers later : List RecvResult}
    {buffered buffered' request : Bytes}
    (h : (finishRequest buffered).map (fun (request, rest) => (request, rest, later)) =
      .ok (some request, buffered', answers)) : available answers buffered' < available later buffered := by
  rcases hfinish : finishRequest buffered with e | ⟨found, rest⟩
  · rw [hfinish] at h
    cases h
  · rw [hfinish] at h
    cases h
    exact Nat.add_lt_add_right (finishRequest_shorter hfinish) _

theorem readHttpRequest_shorter (strerror : Int → Bytes) {answers answers' : List RecvResult}
    {buffered buffered' request : Bytes}
    (h : readHttpRequest strerror answers buffered = .ok (some request, buffered', answers')) :
    available answers' buffered' < available answers buffered := by
  fun_induction readHttpRequest strerror answers buffered with
  | case1 answers buffered size hframe =>
    cases h
    have hnext : nextRequest buffered = .ok (some (buffered.take size), buffered.drop size) := by
      rw [nextRequest, hframe]
    exact Nat.add_lt_add_right (nextRequest_shorter hnext) _
  | case2 => cases h
  | case3 => exact available_of_finishRequest h
  | case4 =>
    refine (available_of_finishRequest h).trans_le ?_
    simp [available, RecvResult.size]
  | case5 _ _ _ _ _ ih =>
    refine (ih h).trans_le ?_
    simp [available, RecvResult.size]
    omega
  | case6 _ _ _ ih => exact (ih h).trans_le (by simp [available, RecvResult.size])
  | case7 => cases h
  | case8 => cases h

namespace HttpServer

variable {σ : Type} (server : HttpServer σ) (strerror : Int → Bytes)

variable {strerror} in
/-- A connection after a request with a response. -/
theorem handleClient_reply {answers answers' : List RecvResult} {buffered buffered' request : Bytes}
    {world after sent' : σ} {calls : List RuntimeCall} {response : ServerResponse}
    {keepAlive sent : Bool}
    (hread : readHttpRequest strerror answers buffered = .ok (some request, buffered', answers'))
    (hhandle : server.handleRequest request world = (calls, some (response, keepAlive), after))
    (hsend : server.sendResponse response after = (sent, sent')) (fuel : Nat) :
    server.handleClient strerror (fuel + 1) answers buffered world =
      if sent ∧ keepAlive then
        (server.handleClient strerror fuel answers' buffered' sent').map fun (later, world) =>
          (calls.map (fun call => (request, call)) ++ later, world)
      else some (calls.map fun call => (request, call), sent') := by
  rw [handleClient, hread]
  simp only [hhandle, hsend]

/-- **Every write is for a request with the token of the cluster.** -/
theorem writes_carry_token (htoken : server.clusterToken ≠ []) (answers : List RecvResult)
    (buffered : Bytes) (world : σ) {fuel : Nat} (hfuel : available answers buffered < fuel) :
    ∃ made after, server.handleClient strerror fuel answers buffered world = some (made, after) ∧
      ∀ entry ∈ made, entry.2.isWrite = true →
        headerValue entry.1 tokenField = some server.clusterToken := by
  induction fuel generalizing answers buffered world with
  | zero => exact absurd hfuel (Nat.not_lt_zero _)
  | succ fuel ih =>
  rcases hread : readHttpRequest strerror answers buffered with e | ⟨_ | request, buffered', answers'⟩
  · exact ⟨[], _, by rw [handleClient, hread], by simp⟩
  · exact ⟨[], world, by rw [handleClient, hread], by simp⟩
  have hshorter := readHttpRequest_shorter strerror hread
  have hcalls := server.handleRequest_calls htoken request world
  rcases hhandle : server.handleRequest request world with ⟨calls, _ | ⟨response, keepAlive⟩, after⟩
  all_goals
    have hmade : ∀ entry ∈ calls.map fun call => (request, call), entry.2.isWrite = true →
        headerValue entry.1 tokenField = some server.clusterToken := by
      rw [hhandle] at hcalls
      rintro _ hentry hwrite
      obtain ⟨call, hcall, rfl⟩ := List.mem_map.1 hentry
      exact hcalls call hcall hwrite
  · exact ⟨_, after, by rw [handleClient, hread]; simp only [hhandle], hmade⟩
  rcases hsend : server.sendResponse response after with ⟨sent, sent'⟩
  rw [server.handleClient_reply hread hhandle hsend]
  by_cases hkeep : sent = true ∧ keepAlive = true
  · obtain ⟨later, final, hlater, hwrites⟩ := ih answers' buffered' sent' (by omega)
    rw [if_pos hkeep, hlater]
    exact ⟨_, final, rfl, List.forall_mem_append.2 ⟨hmade, hwrites⟩⟩
  · exact ⟨_, sent', if_neg hkeep, hmade⟩

end HttpServer

/-- A server whose runtime answers every call. -/
def sampleServer : HttpServer Unit where
  clusterToken := str "token"
  call _ _ := (.ok (jsonResponse (str "200 OK") []), ())
  sendGenerationHeaders _ := (true, ())
  generate _ _ := (.ok (), ())
  sendResponse _ _ := (true, ())

theorem writes_carry_token_unload :
    ∃ made after, sampleServer.handleClient (fun _ => []) 199
        [.received (str "POST /v1/deployment/unload HTTP/1.1\r\n" ++
          str "X-JetsonFabric-Cluster-Token: token\r\n\r\n")] [] () = some (made, after) ∧
      ∀ entry ∈ made, entry.2.isWrite = true →
        headerValue entry.1 tokenField = some (str "token") :=
  sampleServer.writes_carry_token (fun _ => []) (by decide) _ _ () (by decide)

end JetsonFabric
