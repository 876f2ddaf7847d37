import JetsonFabric.Protocol.Generation
import JetsonFabric.Runtime.RunStage

/-!
# Stage calls over HTTP

`transport/http_stage_transport.cpp` and `transport/media_type.cpp`: the call of a stage on another
runtime. Sending the request and receiving the response, with the connections behind it, is a
parameter; what the transport makes of the request before and of the response after is here.
-/

namespace JetsonFabric

open Checks

/-! ## Media types -/

def isAlnum (b : UInt8) : Bool :=
  (48 ≤ b && b ≤ 57) || (65 ≤ b && b ≤ 90) || (97 ≤ b && b ≤ 122)

/-- `std::tolower`. -/
def lower (s : Bytes) : Bytes := s.map fun b => if 65 ≤ b ∧ b ≤ 90 then b + 32 else b

def isTokenCharacter (b : UInt8) : Bool := isAlnum b || (str "!#$%&'*+-.^_`|~").contains b

namespace MediaTypeParser

def skipWhitespace (s : Bytes) : Bytes := s.dropWhile fun b => b == 32 || b == 9

/-- A token in lower case, and what follows it. -/
def readToken (s : Bytes) : Bytes × Bytes :=
  (lower (s.takeWhile isTokenCharacter), s.dropWhile isTokenCharacter)

/-- What follows a quoted string. -/
def readQuoted : Bytes → Option Bytes
  | [] => none
  | b :: rest =>
    if b = 34 then some rest
    else if b = 92 then
      match rest with
      | [] => none
      | escaped :: rest =>
        if escaped = 13 ∨ escaped = 10 ∨ escaped = 0x7f then none else readQuoted rest
    else if (b < 0x20 ∧ b ≠ 9) ∨ b = 0x7f then none
    else readQuoted rest

def readParameterValue : Bytes → Option Bytes
  | [] => none
  | b :: rest =>
    if b = 34 then readQuoted rest
    else
      let (token, rest) := readToken (b :: rest)
      if token = [] then none else some rest

/-- What follows the separator. -/
def consume (expected : UInt8) : Bytes → Option Bytes
  | [] => none
  | b :: rest => if b = expected then some rest else none

def readParameter (s : Bytes) : Option Bytes := do
  let s ← consume 59 s
  let (name, s) := readToken (skipWhitespace s)
  if name = [] then none
  else do
    let s ← consume 61 (skipWhitespace s)
    readParameterValue (skipWhitespace s)

/-- Whether the rest is a list of parameters. -/
def readParameters : Nat → Bytes → Bool
  | 0, s => skipWhitespace s = []
  | fuel + 1, s =>
    if skipWhitespace s = [] then true
    else
      match readParameter (skipWhitespace s) with
      | none => false
      | some rest => readParameters fuel rest

def parse (value : Bytes) : Option Bytes :=
  let (type, s) := readToken (skipWhitespace value)
  match consume 47 s with
  | none => none
  | some s =>
    let (subtype, s) := readToken s
    if type = [] ∨ subtype = [] ∨ ¬ readParameters s.length s then none
    else some (type ++ str "/" ++ subtype)

end MediaTypeParser

def matchesMediaType (value expected : Bytes) : Bool :=
  (MediaTypeParser.parse value).isSome &&
    MediaTypeParser.parse value == MediaTypeParser.parse expected

/-! ## Addresses -/

structure HttpUrl where
  host : Bytes
  port : Bytes := str "80"
  path : Bytes := str "/"
  deriving DecidableEq

/-- The host and the port of an address. -/
def splitAuthority (authority : Bytes) : Except Bytes (Bytes × Bytes) :=
  match authority with
  | 91 :: inner =>
    if ¬ inner.contains 93 then .error (str "invalid bracketed IPv6 stage api_url")
    else
      let host := inner.takeWhile (· ≠ 93)
      match inner.drop (host.length + 1) with
      | [] => .ok (host, str "80")
      | 58 :: port => .ok (host, port)
      | _ => .error (str "invalid bracketed IPv6 stage api_url port")
  | authority =>
    if authority.count 58 = 1 then
      let host := authority.takeWhile (· ≠ 58)
      .ok (host, authority.drop (host.length + 1))
    else .ok (authority, str "80")

def parseHttpUrl (value : Bytes) : Except Bytes HttpUrl := do
  refuse (¬ usesHttp value) (str "stage api_url must use http://")
  let authority := (value.drop 7).takeWhile (· ≠ 47)
  let path := (value.drop 7).drop authority.length
  refuse (authority = []) (str "stage api_url host is required")
  let (host, port) ← splitAuthority authority
  refuse (host = [] ∨ port = []) (str "stage api_url host and port must be non-empty")
  .ok { host, port, path := if path = [] then str "/" else path }

def stagePath (base : Bytes) : Bytes := base.rdropWhile (· = 47) ++ str "/v1/layer-split/stage"

/-! ## Calls -/

inductive HttpStageTarget
  | nodeApi
  | runtime
  deriving DecidableEq

/-- A response as the transport looks at it. -/
structure HttpResponse where
  statusCode : Int
  status : Bytes
  contentType : Option Bytes
  body : Bytes

/-- A transport with its exchange of frames. -/
structure HttpStageTransport (σ : Type) where
  clusterToken : Bytes
  target : HttpStageTarget
  exchange : HttpUrl → Bytes → Bytes → σ → Except Bytes HttpResponse × σ
  elapsedUs : σ → Int

def stageError (status code message : Bytes) : StageRunResult :=
  { status, errorCode := code, errorMessage := message }

/-- The answer to an exception. -/
def transportFailed (what : Bytes) : StageRunResult :=
  stageError (str "502 Bad Gateway") (str "runtime_stage_transport_failed") what

def operationName : StageOperation → Bytes
  | .closeSession => stageOperationCloseSession
  | .rollbackSession => stageOperationRollbackSession
  | .execute => stageOperationExecute

variable {σ : Type} (json : Json.Codec isValidUtf8)

/-- The code and the message of a response that is no frame. -/
def errorOfBody (body : Bytes) : Bytes × Bytes :=
  match json.parse body with
  | .ok (.object entries) =>
    match Json.find? (str "error") entries with
    | some (.string code) => (code, messageOf entries)
    | none => (str "runtime_stage_failed", messageOf entries)
    -- a value of another type is an exception, before the message was read
    | some _ => (str "runtime_stage_failed", body)
  | _ => (str "runtime_stage_failed", body)
where
  messageOf (entries : List (Bytes × Json)) : Bytes :=
    match Json.find? (str "message") entries with
    | some (.string message) => message
    | _ => body

/-- What the transport makes of a response. -/
def receiveStageResponse (operation : StageOperation) (elapsedUs : Int) (response : HttpResponse) :
    StageRunResult :=
  if ¬ response.contentType.any (matchesMediaType · stageWireContentType) then
    stageError response.status (errorOfBody json response.body).1 (errorOfBody json response.body).2
  else
    match decodeStageResponse json response.body with
    | .error what => transportFailed what
    | .ok decoded =>
      if decoded.operation ≠ operationName operation then
        stageError (str "502 Bad Gateway") (str "runtime_stage_operation_mismatch")
          (str "peer runtime acknowledged a different stage operation")
      else if response.statusCode < 200 ∨ response.statusCode ≥ 300 ∨ decoded.error ≠ [] then
        stageError response.status
          (if decoded.error = [] then str "runtime_stage_failed" else decoded.error) decoded.message
      else
        { ok := true, status := response.status, response := decoded, remoteCallUs := elapsedUs }

namespace HttpStageTransport

variable (transport : HttpStageTransport σ)

def targetUrl (stage : GenerationStage) : Except Bytes Bytes :=
  match transport.target with
  | .runtime =>
    if stage.runtimeUrl = [] then .error (str "direct stage transport requires runtime_url")
    else .ok stage.runtimeUrl
  | .nodeApi => .ok stage.apiUrl

/-- A runtime that is called directly is on the host of its node. -/
def checkRuntimeHost (stage : GenerationStage) (target : HttpUrl) : Except StageRunResult Unit :=
  match transport.target with
  | .nodeApi => .ok ()
  | .runtime =>
    match parseHttpUrl stage.apiUrl with
    | .error what => .error (transportFailed what)
    | .ok nodeApi =>
      refuse (lower target.host ≠ lower nodeApi.host)
        (stageError (str "400 Bad Request") (str "runtime_endpoint_mismatch")
          (str "direct runtime host must match the stage node API host"))

/-- Where a request goes and its frame, or an error. -/
def prepareCall (stage : GenerationStage) (request : StageRequest) (operation : StageOperation) :
    Except StageRunResult (HttpUrl × Bytes) := do
  refuse (transport.clusterToken = [])
    (stageError (str "503 Service Unavailable") (str "cluster_auth_unconfigured")
      (str "runtime peer transport requires JETSONFABRIC_CLUSTER_TOKEN"))
  let target ← (transport.targetUrl stage >>= parseHttpUrl).mapError transportFailed
  transport.checkRuntimeHost stage target
  let frame ← (encodeStageRequest json request (operationName operation)).mapError transportFailed
  .ok (target, frame)

/-- `HTTPStageTransport::invoke`. -/
def invoke (stage : GenerationStage) (request : StageRequest) (operation : StageOperation)
    (world : σ) : StageRunResult × σ :=
  match transport.prepareCall json stage request operation with
  | .error result => (result, world)
  | .ok (target, frame) =>
    match transport.exchange target (stagePath target.path) frame world with
    | (.error what, world) => (transportFailed what, world)
    | (.ok response, world) =>
      (receiveStageResponse json operation (transport.elapsedUs world) response, world)

end HttpStageTransport

end JetsonFabric
