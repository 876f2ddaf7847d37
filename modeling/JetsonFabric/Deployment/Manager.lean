import JetsonFabric.Deployment.Types

/-!
# The model manager

`ModelManager` of `deployment/model_manager.cpp`. A resident deployment is an object that the map
`deployments` and a load in progress share: the map stores its place in `heap`, so that a late
completion can tell its own object from a newer one under the same key.

`loadResidentDeployment` takes the lock twice, with the engine build between: `registerLoad` is
its first critical section and `completeLoad` the second, after the build ended in some
`BuildOutcome`. Every other call is one critical section.
-/

namespace JetsonFabric

open Std

/-- The key of a deployment. -/
abbrev DeploymentKey : Type := Bytes × UInt64

/-- The order of `std::pair`: by deployment id, then by epoch. -/
def keyCmp : DeploymentKey → DeploymentKey → Ordering :=
  compareLex (compareOn Prod.fst) (compareOn Prod.snd)

instance : TransCmp keyCmp :=
  inferInstanceAs (TransCmp (compareLex (compareOn Prod.fst) (compareOn Prod.snd)))

instance : LawfulEqCmp keyCmp where
  eq_of_compare {a b} h := by
    simp only [keyCmp, compareLex_eq_eq] at h
    exact Prod.ext (LawfulEqCmp.eq_of_compare h.1) (LawfulEqCmp.eq_of_compare h.2)

/-- What an engine builder returns; the executor may be missing. -/
structure InferenceEngineParts (ε : Type) where
  executor : Option ε
  modelResidency : Option ModelResidency
  executionAssignment : Option StageAssignment := none

/-- The parts of a deployment that execute stages. -/
structure ResidentExecution (ε : Type) where
  nodeName : Bytes
  modelId : Bytes
  assignment : StageAssignment
  executor : ε

/-- A resident deployment. -/
structure ResidentDeployment (ε : Type) where
  identity : DeploymentIdentity
  state : ResidentDeploymentState
  cancelRequested : Bool := false
  modelResidency : Option ModelResidency := none
  execution : Option (ResidentExecution ε) := none

/-- The state of a model manager. -/
structure ModelManager (ε : Type) where
  heap : List (ResidentDeployment ε) := []
  deployments : ExtTreeMap DeploymentKey Nat keyCmp := ∅
  preferred : Option DeploymentKey := none

/-- A load between its two critical sections. -/
structure PendingLoad where
  nodeName : Bytes
  key : DeploymentKey
  resident : Nat
  assignment : StageAssignment
  deriving DecidableEq

/-- How the engine build of a load ends. -/
inductive BuildOutcome (ε : Type)
  | parts (p : InferenceEngineParts ε)
  | invalidArgument (what : Bytes)
  | exception (what : Bytes)

/-- The new state, the state changes, and the answer or exception. -/
structure Outcome (ε : Type) where
  manager : ModelManager ε
  requested : List (ResidentDeploymentState × ResidentDeploymentState) := []
  result : Except Bytes DeploymentOperationResult

variable {ε : Type}

/-! ## Answers -/

/-- An operation that succeeded. -/
def operationSuccess (status : Bytes) (identity : DeploymentIdentity)
    (state : Option ResidentDeploymentState) : DeploymentOperationResult :=
  { ok := true, status, identity := some identity, state }

/-- An operation that failed. -/
def operationError (status code message : Bytes) (identity : Option DeploymentIdentity := none)
    (state : Option ResidentDeploymentState := none) : DeploymentOperationResult :=
  { status, errorCode := code, errorMessage := message, identity, state }

/-- The error of a canceled load. -/
def canceledLoad (identity : DeploymentIdentity) : DeploymentOperationResult :=
  operationError (str "409 Conflict") (str "deployment_load_canceled")
    (str "deployment load was canceled before it became resident") (some identity) (some .loading)

/-- The error of an unknown deployment. -/
def deploymentNotFound (identity : DeploymentIdentity) : DeploymentOperationResult :=
  operationError (str "409 Conflict") (str "deployment_not_found")
    (str "runtime has no resident deployment matching the expected identity") (some identity)

/-- The error of a deployment in transition. -/
def transitioningError (r : ResidentDeployment ε) : DeploymentOperationResult :=
  operationError (str "503 Service Unavailable") (str "deployment_transitioning")
    (str "resident deployment is transitioning") (some r.identity) (some r.state)

/-- The error of a wrong state. -/
def invalidStateError (r : ResidentDeployment ε) : DeploymentOperationResult :=
  operationError (str "500 Internal Server Error") (str "invalid_deployment_state")
    (str "ready deployment is missing execution components") (some r.identity) (some r.state)

/-! ## Identities -/

/-- The error of an incomplete identity. -/
def requireIdentity (i : DeploymentIdentity) : Option Bytes :=
  if i.deploymentId = [] then some (str "deployment_id is required")
  else if i.modelId = [] then some (str "model_id is required")
  else none

/-- The error of an identity that no managed deployment can have. -/
def requireManagedIdentity (i : DeploymentIdentity) : Option Bytes :=
  match requireIdentity i with
  | some e => some e
  | none =>
    if i.epoch = 0 then some (str "deployment epoch must be positive")
    else if i.modelSha256.length ≠ 64 ∨ ¬ i.modelSha256.all isXDigit then
      some (str "model_sha256 must be a 64-character hexadecimal digest")
    else none

/-- The answer to a call with a malformed identity. -/
def validateOperationIdentity (i : DeploymentIdentity) : Option DeploymentOperationResult :=
  (requireManagedIdentity i).map
    (operationError (str "400 Bad Request") (str "invalid_deployment_identity"))

/-- The key of a deployment. -/
def keyFor (i : DeploymentIdentity) : DeploymentKey := (i.deploymentId, i.epoch)

/-! ## Lookup -/

namespace ModelManager

/-- The object under a key, with its place. -/
def findKey (m : ModelManager ε) (key : DeploymentKey) : Option (Nat × ResidentDeployment ε) :=
  (m.deployments[key]?).bind fun p => (m.heap[p]?).map fun r => (p, r)

/-- The object with exactly this identity, with its place. -/
def findExact (m : ModelManager ε) (i : DeploymentIdentity) :
    Option (Nat × ResidentDeployment ε) :=
  (m.findKey (keyFor i)).filter fun q => q.2.identity = i

/-- The deployment under the preferred key. -/
def preferredDeployment (m : ModelManager ε) : Option (Nat × ResidentDeployment ε) :=
  m.preferred.bind m.findKey

/-- Write back an object. -/
def store (m : ModelManager ε) (p : Nat) (r : ResidentDeployment ε) : ModelManager ε :=
  { m with heap := m.heap.set p r }

end ModelManager

/-- The deployment has its execution and accepts stage work. -/
def isExecutable (r : ResidentDeployment ε) : Bool :=
  r.execution.isSome && (r.state == .active || r.state == .draining)

/-- Change the state, or `std::logic_error`. -/
def transition (r : ResidentDeployment ε) (next : ResidentDeploymentState) :
    Except Bytes (ResidentDeployment ε) :=
  if isValidResidentDeploymentTransition (some r.state) (some next) then
    .ok { r with state := next }
  else .error (str "invalid resident deployment transition")

namespace ModelManager

/-- The keys from the last to the first. -/
def keysReversed (m : ModelManager ε) : List DeploymentKey := m.deployments.keys.reverse

/-- The object under the key is executable. -/
def executableKey (m : ModelManager ε) (key : DeploymentKey) : Bool :=
  (m.findKey key).any fun q => isExecutable q.2

/-- Prefer the last executable key; without one, the last key. -/
def selectPreferredAfterErase (m : ModelManager ε) : ModelManager ε :=
  { m with preferred := (m.keysReversed.find? m.executableKey).or m.keysReversed.head? }

/-- Forget a deployment. -/
def erase (m : ModelManager ε) (key : DeploymentKey) : ModelManager ε :=
  { m with deployments := m.deployments.erase key }

/-! ## Lifecycle calls -/

/-- The first critical section of `load_resident_deployment`. -/
def registerLoad (m : ModelManager ε) (nodeName : Bytes) (identity : DeploymentIdentity)
    (assignment : StageAssignment) (hasBuilder : Bool) :
    Except DeploymentOperationResult (ModelManager ε × PendingLoad) :=
  if ¬ hasBuilder then
    .error (operationError (str "400 Bad Request") (str "invalid_engine_builder")
      (str "deployment load requires an engine builder"))
  else if validateStageAssignment assignment ≠ [] then
    .error (operationError (str "400 Bad Request") (str "invalid_stage_assignment")
      (validateStageAssignment assignment))
  else match requireManagedIdentity identity with
    | some e =>
      .error (operationError (str "400 Bad Request") (str "invalid_deployment_identity") e)
    | none =>
      match m.findKey (keyFor identity) with
      | some (_, existing) =>
        .error (operationError (str "409 Conflict") (str "resident_deployment_exists")
          (str "runtime already has this resident deployment identity")
          (some existing.identity) (some existing.state))
      | none =>
        .ok ({ m with
            heap := m.heap ++ [{ identity, state := .loading }]
            deployments := m.deployments.insert (keyFor identity) m.heap.length
            preferred := m.preferred.or (some (keyFor identity)) },
          { nodeName, key := keyFor identity, resident := m.heap.length, assignment })

/-- The load was canceled, or its key names another object. -/
def loadCanceled (m : ModelManager ε) (load : PendingLoad) (r : ResidentDeployment ε) : Bool :=
  r.cancelRequested || (m.findKey load.key).map Prod.fst != some load.resident

/-- The `catch` blocks of a load: the deployment has failed. -/
def failLoad (m : ModelManager ε) (load : PendingLoad) (r : ResidentDeployment ε)
    (requested : List (ResidentDeploymentState × ResidentDeploymentState))
    (status code what : Bytes) : Outcome ε :=
  if m.loadCanceled load r then
    { manager := m, requested, result := .ok (canceledLoad r.identity) }
  else match transition r .failed with
    | .error e => { manager := m, requested := requested ++ [(r.state, .failed)], result := .error e }
    | .ok r' =>
      { manager := m.store load.resident r'
        requested := requested ++ [(r.state, .failed)]
        result := .ok (operationError status code what (some r.identity) (some .failed)) }

/-- A load that was refused. -/
def failInvalidArgument (m : ModelManager ε) (load : PendingLoad) (r : ResidentDeployment ε)
    (what : Bytes) : Outcome ε :=
  m.failLoad load r [] (str "400 Bad Request") (str "invalid_engine_config") what

/-- A load that threw. -/
def failException (m : ModelManager ε) (load : PendingLoad) (r : ResidentDeployment ε)
    (requested : List (ResidentDeploymentState × ResidentDeploymentState)) (what : Bytes) :
    Outcome ε :=
  m.failLoad load r requested (str "500 Internal Server Error") (str "deployment_load_failed") what

/-- The second critical section of `load_resident_deployment`. -/
def completeLoad (m : ModelManager ε) (load : PendingLoad) (outcome : BuildOutcome ε) :
    Outcome ε :=
  match m.heap[load.resident]? with
  | none => { manager := m, result := .error (str "dangling deployment") }
  | some r =>
    match outcome with
    | .invalidArgument what => m.failInvalidArgument load r what
    | .exception what => m.failException load r [] what
    | .parts parts =>
      match parts.executor with
      | none => m.failInvalidArgument load r (str "model manager requires an inference executor")
      | some executor =>
        if m.loadCanceled load r then
          { manager := m, result := .ok (canceledLoad r.identity) }
        else
          let filled : ResidentDeployment ε :=
            { r with
              modelResidency := parts.modelResidency
              execution := some
                { nodeName := load.nodeName
                  modelId := r.identity.modelId
                  assignment := parts.executionAssignment.getD load.assignment
                  executor } }
          match transition filled .ready with
          -- `std::logic_error` is caught by the handler of `std::exception`
          | .error e =>
            (m.store load.resident filled).failException load filled [(filled.state, .ready)] e
          | .ok r' =>
            { manager := m.store load.resident r'
              requested := [(filled.state, .ready)]
              result := .ok (operationSuccess (str "200 OK") r.identity (some .ready)) }

/-- `activate_resident_deployment`. -/
def activateResidentDeployment (m : ModelManager ε) (expected : DeploymentIdentity) :
    Outcome ε :=
  match validateOperationIdentity expected with
  | some invalid => { manager := m, result := .ok invalid }
  | none =>
    match m.findExact expected with
    | none => { manager := m, result := .ok (deploymentNotFound expected) }
    | some (p, r) =>
      if r.state = .active then
        { manager := { m with preferred := some (keyFor r.identity) }
          result := .ok (operationSuccess (str "200 OK") r.identity (some r.state)) }
      else if r.state = .loading ∨ r.state = .draining ∨ r.state = .unloading then
        { manager := m, result := .ok (transitioningError r) }
      else if r.state = .failed then
        { manager := m
          result := .ok (operationError (str "409 Conflict") (str "deployment_failed")
            (str "failed deployment must be unloaded before activation")
            (some r.identity) (some r.state)) }
      else if r.state ≠ .ready ∨ r.execution.isNone then
        { manager := m, result := .ok (invalidStateError r) }
      else match transition r .active with
        | .error e => { manager := m, requested := [(r.state, .active)], result := .error e }
        | .ok r' =>
          { manager := { m.store p r' with preferred := some (keyFor r.identity) }
            requested := [(r.state, .active)]
            result := .ok (operationSuccess (str "200 OK") r.identity (some r'.state)) }

/-- `drain_resident_deployment`. -/
def drainResidentDeployment (m : ModelManager ε) (expected : DeploymentIdentity) : Outcome ε :=
  match validateOperationIdentity expected with
  | some invalid => { manager := m, result := .ok invalid }
  | none =>
    match m.findExact expected with
    | none => { manager := m, result := .ok (operationSuccess (str "200 OK") expected none) }
    | some (p, r) =>
      match r.state with
      | .unloading => { manager := m, result := .ok (transitioningError r) }
      | .active =>
        match transition r .draining with
        | .error e => { manager := m, requested := [(r.state, .draining)], result := .error e }
        | .ok r' =>
          { manager := m.store p r'
            requested := [(r.state, .draining)]
            result := .ok (operationSuccess (str "200 OK") r.identity (some r'.state)) }
      | _ =>
        { manager := m
          result := .ok (operationSuccess (str "200 OK") r.identity (some r.state)) }

/-- `unload_resident_deployment`. -/
def unloadResidentDeployment (m : ModelManager ε) (expected : DeploymentIdentity) : Outcome ε :=
  match validateOperationIdentity expected with
  | some invalid => { manager := m, result := .ok invalid }
  | none =>
    match m.findExact expected with
    | none => { manager := m, result := .ok (operationSuccess (str "200 OK") expected none) }
    | some (p, r) =>
      match r.state with
      | .loading =>
        { manager := ((m.store p { r with cancelRequested := true }).erase
            (keyFor r.identity)).selectPreferredAfterErase
          result := .ok (operationSuccess (str "200 OK") r.identity none) }
      | .unloading => { manager := m, result := .ok (transitioningError r) }
      | .active =>
        { manager := m
          result := .ok (operationError (str "409 Conflict") (str "deployment_not_draining")
            (str "active deployment must enter draining state before unload")
            (some r.identity) (some r.state)) }
      | _ =>
        match transition r .unloading with
        | .error e => { manager := m, requested := [(r.state, .unloading)], result := .error e }
        | .ok r' =>
          { manager := ((m.store p r').erase (keyFor r.identity)).selectPreferredAfterErase
            requested := [(r.state, .unloading)]
            result := .ok (operationSuccess (str "200 OK") r.identity none) }

/-- A manager that starts with an active deployment. -/
def insertActive (nodeName : Bytes) (identity : DeploymentIdentity) (assignment : StageAssignment)
    (parts : InferenceEngineParts ε) : Except Bytes (ModelManager ε) :=
  match requireIdentity identity, parts.executor with
  | some e, _ => .error e
  | none, none => .error (str "model manager requires an inference executor")
  | none, some executor =>
    .ok
      { heap :=
          [{ identity
             state := .active
             modelResidency := parts.modelResidency
             execution := some
               { nodeName, modelId := identity.modelId
                 assignment := parts.executionAssignment.getD assignment
                 executor } }]
        deployments := (∅ : ExtTreeMap DeploymentKey Nat keyCmp).insert (keyFor identity) 0
        preferred := some (keyFor identity) }

/-! ## Status and stage calls -/

/-- The status of a deployment, or of none. -/
def statusFor (r : Option (ResidentDeployment ε)) : DeploymentStatus :=
  match r with
  | none => {}
  | some r =>
    { resident := true
      active := isExecutable r
      state := some r.state
      identity := some r.identity
      modelResidency := r.modelResidency }

/-- The status with no identity: that of the preferred deployment. -/
def deploymentStatus (m : ModelManager ε) : DeploymentStatus :=
  statusFor (m.preferredDeployment.map Prod.snd)

/-- The request carries a deployment identity. -/
def managedRequest (request : StageRequest) : Bool :=
  request.deploymentId != [] || request.deploymentEpoch != 0 || request.modelSha256 != []

/-- The identity a stage request asks for. -/
def requestIdentity (request : StageRequest) : DeploymentIdentity :=
  { deploymentId := request.deploymentId
    epoch := request.deploymentEpoch
    modelId := request.modelId
    modelSha256 := request.modelSha256 }

/-- The deployment that serves a stage request. -/
def deploymentFor (m : ModelManager ε) (request : StageRequest) : Option (ResidentDeployment ε) :=
  let found :=
    if managedRequest request then m.findExact (requestIdentity request)
    else m.preferredDeployment
  (found.map Prod.snd).filter isExecutable

end ModelManager

end JetsonFabric
