import JetsonFabric.Go

/-!
# Members and models

The members of a cluster as they advertise themselves (`membership/member.go`), the models of the
registry (`modelregistry/registry.go`, `cluster/types.go`) and the readers of capabilities that
the planner uses.
-/

namespace JetsonFabric

open Std

/-! ## Names of the cluster -/

def engineLlamaCpp : Bytes := str "llama.cpp"

def executionModeDataParallel : Bytes := str "data_parallel"

def executionModePipelineParallel : Bytes := str "pipeline_parallel"

def computeBackendCpu : Bytes := str "cpu"

def computeBackendCuda : Bytes := str "cuda"

def stageTransportHttpDirectV1 : Bytes := str "http_direct_v1"

def capabilityMemoryGb : Bytes := str "memory_gb"

def deviceClassUnknown : Bytes := str "unknown"

def deviceClassJetson : Bytes := str "jetson"

def capabilityDeviceClass : Bytes := str "device_class"

def capabilityComputeBackends : Bytes := str "compute_backends"

def capabilityRuntimeStageIndex : Bytes := str "runtime_stage_index"

def capabilityRuntimeStageCount : Bytes := str "runtime_stage_count"

def capabilityRuntimeLayerStart : Bytes := str "runtime_layer_start"

def capabilityRuntimeLayerEnd : Bytes := str "runtime_layer_end"

def capabilityRuntimeEngine : Bytes := str "runtime_engine"

def capabilityRuntimeModelId : Bytes := str "runtime_model_id"

def capabilityRuntimeModelSha256 : Bytes := str "runtime_model_sha256"

def capabilityRuntimeComputeBackend : Bytes := str "runtime_compute_backend"

def capabilityRuntimeExecutionMode : Bytes := str "runtime_execution_mode"

def capabilityRuntimeStageTransport : Bytes := str "runtime_stage_transport"

def capabilityRuntimeActivationEncoding : Bytes := str "runtime_activation_encoding"

def capabilityRuntimeKvCacheType : Bytes := str "runtime_kv_cache_type"

def capabilityRuntimeUBatchSize : Bytes := str "runtime_ubatch_size"

def capabilityRuntimeParallelSessions : Bytes := str "runtime_parallel_sessions"

def capabilityRuntimeDecodeBatchSize : Bytes := str "runtime_decode_batch_size"

def capabilityRuntimeSpeculativeDraft : Bytes := str "runtime_speculative_draft"

def capabilityRuntimeSpeculativeMax : Bytes := str "runtime_speculative_max_tokens"

def capabilityRuntimeRevision : Bytes := str "runtime_revision"

def capabilityRuntimeLlamaCppRevision : Bytes := str "runtime_llama_cpp_revision"

def capabilityRuntimeCudaActive : Bytes := str "runtime_cuda_active"

def capabilityRuntimeStartsIdle : Bytes := str "runtime_starts_idle"

/-! ## Capabilities -/

/-- A value of type `any`, with the types some reader looks for. -/
inductive Capability
  | text (value : Bytes)
  | bool (value : Bool)
  | float64 (value : Float64)
  | float32 (value : Float64)
  | int (value : Int)
  | int64 (value : Int)
  | int32 (value : Int)
  | uint64 (value : UInt64)
  | strings (values : List Bytes)
  | computeBackends (values : List Bytes)
  | deviceClass (value : Bytes)
  /-- A `[]any`; `none` stands for an element that is no string. -/
  | anys (values : List (Option Bytes))
  | other

abbrev Capabilities : Type := ExtTreeMap Bytes Capability

def floatCapability (caps : Capabilities) (key : Bytes) : Float64 :=
  match caps[key]? with
  | some (.float64 x) => x
  | some (.float32 x) => x
  | some (.int n) => .ofInt n
  | some (.int64 n) => .ofInt n
  | some (.uint64 n) => .ofInt n.toNat
  | _ => .finite 0

/-- The conversion `int(x)`. -/
def Platform.toInt (P : Platform) (x : Float64) : Int := x.truncate?.getD (P.convert x)

def Platform.intCapability (P : Platform) (caps : Capabilities) (key : Bytes) : Option Int :=
  match caps[key]? with
  | some (.int n) => some n
  | some (.int64 n) => some n
  | some (.int32 n) => some n
  | some (.float64 x) => some (P.toInt x)
  | some (.float32 x) => some (P.toInt x)
  | some (.uint64 n) => some (wrap64 n.toNat)
  | _ => none

def containsStringCapability (caps : Capabilities) (key expected : Bytes) : Bool :=
  match caps[key]? with
  | some (.strings values) => values.contains expected
  | some (.anys values) => values.contains (some expected)
  | some (.computeBackends values) => values.contains expected
  | _ => false

def capabilityText (caps : Capabilities) (key : Bytes) : Bytes :=
  match caps[key]? with
  | some (.text value) => trimSpace value
  | _ => []

def capabilityBool (caps : Capabilities) (key : Bytes) : Bool :=
  match caps[key]? with
  | some (.bool value) => value
  | _ => false

/-! ## Roles -/

def nodeRoleAuto : Bytes := str "auto"

def nodeRoleJetson : Bytes := str "jetson"

def nodeRoleCoordinator : Bytes := str "coordinator"

def nodeRoleWorker : Bytes := str "worker"

def nodeRoleTest : Bytes := str "test"

/-- `strings.ToLower`, as far as the result can be the name of a role. -/
def lowerRole : Bytes → Bytes
  | 0xE2 :: 0x84 :: 0xAA :: s => 107 :: lowerRole s
  | 0xC4 :: 0xB0 :: s => 105 :: lowerRole s
  | b :: s => (if 65 ≤ b ∧ b ≤ 90 then b + 32 else b) :: lowerRole s
  | [] => []

def normalizeRole (role : Bytes) : Bytes :=
  let value := lowerRole (trimSpace role)
  if value ∈ [nodeRoleJetson, nodeRoleCoordinator, nodeRoleWorker, nodeRoleTest] then value
  else nodeRoleAuto

theorem normalizeRole_idem (role : Bytes) :
    normalizeRole (normalizeRole role) = normalizeRole role := by
  have hfixed : ∀ value ∈ [nodeRoleJetson, nodeRoleCoordinator, nodeRoleWorker, nodeRoleTest,
      nodeRoleAuto], normalizeRole value = value := by decide +kernel
  refine hfixed _ ?_
  dsimp only [normalizeRole]
  split
  · next h => exact List.mem_append_left [nodeRoleAuto] h
  · decide +kernel

def roleRank (role : Bytes) : Int :=
  if normalizeRole role = nodeRoleCoordinator then 100
  else if normalizeRole role = nodeRoleJetson then 80
  else 0

/-! ## Members -/

/-- An engine that a node runs. -/
structure EngineEndpoint where
  instanceId : Bytes := []
  engine : Bytes
  baseUrl : Bytes
  models : List Bytes := []
  modelSha256 : Bytes := []
  computeBackend : Bytes := []
  executionMode : Bytes := []
  openAiCompatible : Bool

/-- A node's advertised view of itself. -/
structure Member where
  clusterId : Bytes
  nodeId : Bytes
  nodeName : Bytes := []
  hostname : Bytes := []
  role : Bytes := []
  apiUrl : Bytes
  runtimeUrl : Bytes := []
  leaderPreference : Int := 0
  arch : Bytes := []
  os : Bytes := []
  capabilities : Capabilities := ∅
  metrics : Capabilities := ∅
  engines : List EngineEndpoint := []
  startedAt : Time := 0
  lastSeen : Time := 0

namespace Member

def valid (m : Member) : Bool :=
  trimSpace m.clusterId ≠ [] && trimSpace m.nodeId ≠ [] && trimSpace m.apiUrl ≠ []

def isStale (m : Member) (now : Time) (staleAfter : Int) : Bool :=
  if staleAfter ≤ 0 then false
  else if m.lastSeen = 0 then true
  else staleAfter < now.sub m.lastSeen

theorem isStale_of_lt {m : Member} {now : Time} {staleAfter : Int} (hpos : 0 < staleAfter)
    (hmax : staleAfter < 2 ^ 63 - 1) (h : m.lastSeen + staleAfter < now) :
    m.isStale now staleAfter = true := by
  unfold isStale
  rw [if_neg hpos.not_ge]
  split
  · rfl
  · rw [decide_eq_true_iff, Time.sub, lt_max_iff, lt_min_iff]
    exact .inr ⟨by linarith, hmax⟩

def normalize (m : Member) : Member :=
  { m with
    clusterId := trimSpace m.clusterId
    nodeId := trimSpace m.nodeId
    nodeName := trimSpace m.nodeName
    hostname := trimSpace m.hostname
    role := normalizeRole m.role
    apiUrl := trimSpace m.apiUrl
    runtimeUrl := trimSpace m.runtimeUrl
    arch := trimSpace m.arch }

theorem normalize_idem (m : Member) : m.normalize.normalize = m.normalize := by
  simp only [normalize, trimSpace_idem, normalizeRole_idem]

theorem valid_normalize (m : Member) : m.normalize.valid = m.valid := by
  simp only [valid, normalize, trimSpace_idem]

def deviceClass (m : Member) : Bytes :=
  match m.capabilities[capabilityDeviceClass]? with
  | some (.deviceClass value) => value
  | some (.text value) => trimSpace value
  | _ => deviceClassUnknown

def effectiveRole (m : Member) : Bytes :=
  if normalizeRole m.role ≠ nodeRoleAuto then normalizeRole m.role
  else if m.deviceClass = deviceClassJetson then nodeRoleJetson
  else nodeRoleWorker

def effectiveLeaderPreference (m : Member) : Int := m.leaderPreference

end Member

/-- The members a planner considers: normalized, valid and not stale. -/
def freshMembers (members : List Member) (now : Time) (staleAfter : Int) : List Member :=
  (members.map Member.normalize).filter fun m => m.valid && !m.isStale now staleAfter

theorem mem_freshMembers {members : List Member} {now : Time} {staleAfter : Int} {m : Member} :
    m ∈ freshMembers members now staleAfter ↔
      ∃ member ∈ members, member.valid = true ∧ member.isStale now staleAfter = false ∧
        m = member.normalize := by
  unfold freshMembers
  rw [List.mem_filter, List.mem_map]
  constructor
  · rintro ⟨⟨member, hmem, rfl⟩, hfresh⟩
    rw [Bool.and_eq_true, Member.valid_normalize, Bool.not_eq_true'] at hfresh
    exact ⟨member, hmem, hfresh.1, hfresh.2, rfl⟩
  · rintro ⟨member, hmem, hvalid, hstale, rfl⟩
    rw [Bool.and_eq_true, Member.valid_normalize, Bool.not_eq_true']
    exact ⟨⟨member, hmem, rfl⟩, hvalid, hstale⟩

/-- Fresh members are taken as they are. -/
theorem freshMembers_of_fresh {members fresh : List Member} {now : Time} {staleAfter : Int}
    (h : ∀ m ∈ fresh, m ∈ freshMembers members now staleAfter) :
    freshMembers fresh now staleAfter = fresh := by
  have hnormal : fresh.map Member.normalize = fresh := by
    refine List.map_congr_left (fun m hm => ?_) |>.trans (List.map_id _)
    obtain ⟨member, -, -, -, rfl⟩ := mem_freshMembers.1 (h m hm)
    exact member.normalize_idem
  unfold freshMembers
  rw [hnormal, List.filter_eq_self]
  intro m hm
  exact (List.mem_filter.1 (h m hm)).2

/-! ## Models -/

/-- A model of the registry. -/
structure ModelProfile where
  id : Bytes
  supportedEngines : List Bytes := []
  layerCount : Int := 0
  minMemoryGb : Float64 := .finite 0
  preferredCompute : Option Bytes := none
  placementModes : List Bytes := []
  artifactPath : Bytes := []
  artifactSha256 : Bytes := []
  deriving DecidableEq

/-- The models of a cluster. -/
structure Registry where
  models : List ModelProfile

def Registry.find (r : Registry) (id : Bytes) : Option ModelProfile :=
  r.models.find? fun model => model.id = id

def supportsMode (model : ModelProfile) (mode : Bytes) : Bool := model.placementModes.contains mode

end JetsonFabric
