import JetsonFabric.Discovery.Gossip

/-!
# The record that a node keeps of itself

A node stores its own record again and again (`refreshMembership` of `node/app.go`), while records of
other origin come into the same store: announcements (`facade/handlers_cluster.go`) and what
discovery finds. Only the second way looks at the node id.

* **`ownRecord_kept_iff`**: it is overwritten exactly by the announcements under the own id that say
  something else.
-/

namespace JetsonFabric

open Std

/-! ## The own record -/

/-- The settings of the runtime that a node advertises. -/
structure RuntimeSettings where
  startIdle : Bool
  stageIndex : Int := 0
  stageCount : Int := 0
  layerStart : Int := 0
  layerEnd : Int := 0
  model : Bytes := []
  modelArtifactSha256 : Bytes := []
  engine : Bytes
  computeBackend : Bytes
  mode : Bytes
  stageTransport : Bytes
  activationEncoding : Bytes
  kvCacheType : Bytes
  uBatchSize : Int
  parallelSessions : Int
  decodeBatchSize : Int
  speculativeDraft : Bytes
  speculativeMax : Int
  revision : Bytes
  llamaCppRevision : Bytes
  cudaActive : Bool

/-- What a node that is not idle says about its stage. -/
def RuntimeSettings.stageCapabilities (cfg : RuntimeSettings) : List (Bytes × Capability) :=
  [(capabilityRuntimeStageIndex, .int cfg.stageIndex),
    (capabilityRuntimeStageCount, .int cfg.stageCount),
    (capabilityRuntimeLayerStart, .int cfg.layerStart),
    (capabilityRuntimeLayerEnd, .int cfg.layerEnd),
    (capabilityRuntimeModelId, .text cfg.model),
    (capabilityRuntimeModelSha256, .text cfg.modelArtifactSha256)]

/-- The capabilities of the runtime. -/
def RuntimeSettings.runtimeCapabilities (cfg : RuntimeSettings) : List (Bytes × Capability) :=
  [(capabilityRuntimeEngine, .text cfg.engine),
    (capabilityRuntimeComputeBackend, .text cfg.computeBackend),
    (capabilityRuntimeExecutionMode, .text cfg.mode),
    (capabilityRuntimeStageTransport, .text cfg.stageTransport),
    (capabilityRuntimeActivationEncoding, .text cfg.activationEncoding),
    (capabilityRuntimeKvCacheType, .text cfg.kvCacheType),
    (capabilityRuntimeUBatchSize, .int cfg.uBatchSize),
    (capabilityRuntimeParallelSessions, .int cfg.parallelSessions),
    (capabilityRuntimeDecodeBatchSize, .int cfg.decodeBatchSize),
    (capabilityRuntimeSpeculativeDraft, .text cfg.speculativeDraft),
    (capabilityRuntimeSpeculativeMax, .int cfg.speculativeMax),
    (capabilityRuntimeRevision, .text cfg.revision),
    (capabilityRuntimeLlamaCppRevision, .text cfg.llamaCppRevision),
    (capabilityRuntimeCudaActive, .bool cfg.cudaActive),
    (capabilityRuntimeStartsIdle, .bool cfg.startIdle)]

/-- The capabilities of the own record. -/
def memberCapabilities (cfg : RuntimeSettings) (base : Capabilities) : Capabilities :=
  (base.insertMany (if cfg.startIdle then [] else cfg.stageCapabilities)).insertMany
    cfg.runtimeCapabilities

theorem isEmpty_memberCapabilities (cfg : RuntimeSettings) (base : Capabilities) :
    (memberCapabilities cfg base).isEmpty = false := by
  rw [memberCapabilities, ExtTreeMap.isEmpty_insertMany_list]
  exact Bool.and_false _

def defaultEngineInstanceId : Bytes := str "default"

/-- The endpoints of the engine. -/
def engineEndpoints (cfg : RuntimeSettings) (apiUrl : Bytes) : List EngineEndpoint :=
  [{ instanceId := defaultEngineInstanceId
     engine := cfg.engine
     baseUrl := apiUrl
     models := if cfg.startIdle then [] else [cfg.model]
     modelSha256 := if cfg.startIdle then [] else cfg.modelArtifactSha256
     computeBackend := cfg.computeBackend
     executionMode := cfg.mode
     openAiCompatible := true }]

/-- What `system.Detect` finds, and the host name. -/
structure Snapshot where
  hostname : Bytes := []
  osHostname : Bytes := []
  arch : Bytes := []
  os : Bytes := []
  capabilities : Capabilities := ∅
  metrics : Capabilities := ∅

/-- A node that listens, with its address, a cluster id and a node id. -/
structure App (node : Node) where
  settings : RuntimeSettings
  apiUrl : Bytes
  runtimePeerUrl : Bytes
  startedAt : Time
  clustered : trimSpace node.clusterId ≠ []
  named : node.nodeId ≠ []
  addressed : trimSpace apiUrl ≠ []
  started : startedAt ≠ 0

variable {node : Node}

/-- What the node reads of itself. -/
def App.reading (app : App node) (snapshot : Snapshot) : Reading where
  apiUrl := app.apiUrl
  runtimeUrl := app.runtimePeerUrl
  hostname := snapshot.hostname
  osHostname := snapshot.osHostname
  arch := snapshot.arch
  os := snapshot.os
  capabilities := memberCapabilities app.settings snapshot.capabilities
  metrics := snapshot.metrics
  engines := engineEndpoints app.settings app.apiUrl
  startedAt := app.startedAt

/-- The own record at a time. -/
def App.selfMember (app : App node) (snapshot : Snapshot) (now : Time) : Member :=
  node.selfMember (app.reading snapshot) now

/-! ## The store of one node -/

/-- A call of `selfMember`. -/
structure SelfCall (node : Node) where
  app : App node
  snapshot : Snapshot := {}
  now : Time

/-- The record of a call. -/
def SelfCall.member (call : SelfCall node) : Member := call.app.selfMember call.snapshot call.now

/-- A node: its store, and its latest call of `selfMember`. -/
structure OwnState (node : Node) where
  store : Store
  latest : SelfCall node

/-- What happens to the store. -/
inductive OwnStep (node : Node)
  /-- The `Upsert` of `refreshMembership`. -/
  | refresh (call : SelfCall node)
  | prune (now : Time)
  | announce (authorized : Bool) (decoded : Member) (now : Time)
  /-- The loop body of `mergeDiscoveredMembers`. -/
  | merge (member : Member) (now : Time)

/-- A step of the own record. -/
def OwnState.next (s : OwnState node) : OwnStep node → OwnState node
  | .refresh call => ⟨s.store.upsert call.member, call⟩
  | .prune now => { s with store := s.store.prune now node.staleAfter node.nodeId }
  | .announce authorized decoded now =>
    match acceptAnnouncement authorized decoded s.store node.nodeId now with
    | .ok member => { s with store := s.store.upsert member }
    | .error _ => s
  | .merge member now =>
    { s with store := mergeDiscoveredMember s.store node.nodeId node.clusterId now member }

variable (node) in
/-- The records that `newApp` and `New` store, before the node listens. -/
def published (readings : List (Reading × Time)) : Store :=
  readings.foldl (fun store r => store.upsert (node.selfMember r.1 r.2)) .new

variable (node) in
/-- One node from `Run` on. -/
def ownMachine : LTS (OwnState node) (OwnStep node) where
  init s := ∃ readings, s.store = (published node readings).upsert s.latest.member
  step s a t := s.next a = t

/-! ## Merging into the own record -/

/-- A stored record is, as far as it describes the node, the given one. -/
structure Member.Describes (own m : Member) : Prop where
  apiUrl : m.apiUrl = own.apiUrl
  runtimeUrl : m.runtimeUrl = own.runtimeUrl
  role : m.role = own.role
  capabilities : m.capabilities = own.capabilities
  startedAt : m.startedAt = own.startedAt

/-- A record that comes in says nothing else than the given one. -/
structure Member.Concurs (own m : Member) : Prop where
  apiUrl : m.apiUrl = own.apiUrl
  runtimeUrl : m.runtimeUrl = own.runtimeUrl
  role : m.role = nodeRoleAuto ∨ m.role = own.role
  capabilities : m.capabilities.isEmpty = true ∨ m.capabilities = own.capabilities
  startedAt : m.startedAt = 0 ∨ m.startedAt = own.startedAt

theorem ite_eq_iff_or {α : Type} {p : Prop} [Decidable p] {x y : α} :
    (if p then x else y) = x ↔ p ∨ y = x := by
  split
  · next h => simp only [h, true_or]
  · next h => simp only [h, false_or]

theorem role_mergeMember {existing incoming : Member} (hexisting : existing.normalize = existing)
    (hincoming : incoming.normalize = incoming) :
    (mergeMember existing incoming).role =
      if incoming.role = nodeRoleAuto ∧ existing.role ≠ nodeRoleAuto then existing.role
      else incoming.role := by
  have h1 : normalizeRole existing.role = existing.role := congrArg Member.role hexisting
  have h2 : normalizeRole incoming.role = incoming.role := congrArg Member.role hincoming
  show normalizeRole (if _ then existing.role else incoming.role) = _
  rw [apply_ite normalizeRole, h1, h2]

theorem apiUrl_mergeMember (existing : Member) {incoming : Member}
    (hincoming : incoming.normalize = incoming) :
    (mergeMember existing incoming).apiUrl = incoming.apiUrl :=
  show incoming.normalize.apiUrl = incoming.apiUrl by rw [hincoming]

theorem runtimeUrl_mergeMember (existing : Member) {incoming : Member}
    (hincoming : incoming.normalize = incoming) :
    (mergeMember existing incoming).runtimeUrl = incoming.runtimeUrl :=
  show incoming.normalize.runtimeUrl = incoming.runtimeUrl by rw [hincoming]

/-- A record leaves the description exactly when it concurs. -/
theorem describes_mergeMember_iff {self existing incoming : Member}
    (hexisting : existing.normalize = existing) (hincoming : incoming.normalize = incoming)
    (h : self.Describes existing) :
    self.Describes (mergeMember existing incoming) ↔ self.Concurs incoming := by
  have hcaps : (mergeMember existing incoming).capabilities = self.capabilities ↔
      incoming.capabilities.isEmpty = true ∨ incoming.capabilities = self.capabilities := by
    rw [← h.capabilities]
    exact ite_eq_iff_or
  have hstart : (mergeMember existing incoming).startedAt = self.startedAt ↔
      incoming.startedAt = 0 ∨ incoming.startedAt = self.startedAt := by
    rw [← h.startedAt]
    exact ite_eq_iff_or
  have hrole : (mergeMember existing incoming).role = self.role ↔
      incoming.role = nodeRoleAuto ∨ incoming.role = self.role := by
    rw [role_mergeMember hexisting hincoming, ← h.role, ite_eq_iff_or]
    grind
  constructor
  · intro hd
    exact ⟨(apiUrl_mergeMember existing hincoming).symm.trans hd.apiUrl,
      (runtimeUrl_mergeMember existing hincoming).symm.trans hd.runtimeUrl, hrole.1 hd.role,
      hcaps.1 hd.capabilities, hstart.1 hd.startedAt⟩
  · intro hc
    exact ⟨(apiUrl_mergeMember existing hincoming).trans hc.apiUrl,
      (runtimeUrl_mergeMember existing hincoming).trans hc.runtimeUrl, hrole.2 hc.role,
      hcaps.2 hc.capabilities, hstart.2 hc.startedAt⟩

theorem describes_mergeExisting {existing : Option Member}
    {self : Member} (hself : self.normalize = self)
    (hexisting : ∀ m, existing = some m → m.normalize = m ∧ m.role = self.role)
    (hcaps : self.capabilities.isEmpty = false) (hstarted : self.startedAt ≠ 0) :
    self.Describes (mergeExisting existing self) := by
  cases existing with
  | none => exact ⟨rfl, rfl, rfl, rfl, rfl⟩
  | some m =>
    obtain ⟨hm, hrole⟩ := hexisting m rfl
    refine ⟨apiUrl_mergeMember m hself, runtimeUrl_mergeMember m hself, ?_, ?_, ?_⟩
    · rw [mergeExisting, role_mergeMember hm hself, hrole, ite_self]
    · exact if_neg fun hempty => Bool.false_ne_true (hcaps.symm.trans hempty)
    · exact if_neg hstarted

/-! ## Runs -/

/-- The own record is stored, and it is the one that was made last. -/
def OwnRecord (s : OwnState node) : Prop :=
  ∃ m, s.store.get node.nodeId = some m ∧ s.latest.member.normalize.Describes m

/-- An accepted announcement under the own id says nothing else. -/
def Unopposed (s : OwnState node) : OwnStep node → Prop
  | .announce authorized decoded now => ∀ member,
    acceptAnnouncement authorized decoded s.store node.nodeId now = .ok member →
      member.nodeId = node.nodeId → s.latest.member.normalize.Concurs member
  | _ => True

theorem SelfCall.valid (call : SelfCall node) : call.member.valid = true := by
  have hnamed : trimSpace node.nodeId ≠ [] := node.trimmed.symm ▸ call.app.named
  simp only [Member.valid, Bool.and_eq_true, decide_eq_true_eq]
  exact ⟨⟨call.app.clustered, hnamed⟩, call.app.addressed⟩

theorem SelfCall.nodeId (call : SelfCall node) : call.member.normalize.nodeId = node.nodeId :=
  node.trimmed

theorem ownRecord_refresh {store : Store} (call : SelfCall node)
    (hrole : ∀ m, store.get node.nodeId = some m → m.role = normalizeRole node.role) :
    OwnRecord ⟨store.upsert call.member, call⟩ := by
  refine ⟨_, by rw [Store.get_upsert, if_pos ⟨call.valid, call.nodeId⟩], ?_⟩
  exact describes_mergeExisting (Member.normalize_idem _)
    (fun m hm => ⟨(Store.get_stored hm).normal, hrole m hm⟩)
    (isEmpty_memberCapabilities _ _) call.app.started

theorem role_published (readings : List (Reading × Time)) {m : Member}
    (h : (published node readings).get node.nodeId = some m) : m.role = normalizeRole node.role := by
  induction readings using List.reverseRecOn generalizing m with
  | nil => rw [published, List.foldl_nil, Store.get_new] at h; cases h
  | append_singleton readings r ih =>
    rw [published, List.foldl_append, List.foldl_cons, List.foldl_nil, Store.get_upsert] at h
    split at h
    · obtain rfl := Option.some.inj h
      cases hbefore : (published node readings).get node.nodeId with
      | none => 
        rw [published] at hbefore
        rw [hbefore]
        rfl
      | some before =>
        have hrole := ih hbefore
        rw [published] at hbefore
        rw [hbefore, mergeExisting, role_mergeMember (Store.get_stored hbefore).normal
          (Member.normalize_idem _), hrole]
        exact ite_self _
    · exact ih h

theorem ownRecord_upsert {s : OwnState node} {m member : Member}
    (hm : s.store.get node.nodeId = some m) (hdescribes : s.latest.member.normalize.Describes m)
    (hstored : member.Stored member.nodeId) :
    OwnRecord { s with store := s.store.upsert member } ↔
      (member.nodeId = node.nodeId → s.latest.member.normalize.Concurs member) := by
  have hget := Store.get_upsert s.store member node.nodeId
  rw [hstored.normal, hm] at hget
  by_cases hid : member.nodeId = node.nodeId
  · rw [if_pos ⟨hstored.valid, hid⟩] at hget
    have hiff := describes_mergeMember_iff (Store.get_stored hm).normal hstored.normal hdescribes
    constructor
    · rintro ⟨found, hfound, h⟩ -
      obtain rfl := Option.some.inj (hget.symm.trans hfound)
      exact hiff.1 h
    · intro h
      exact ⟨_, hget, hiff.2 (h hid)⟩
  · rw [if_neg fun h => hid h.2] at hget
    exact iff_of_true ⟨m, hget, hdescribes⟩ fun h => absurd h hid

theorem ownRecord_step {s t : OwnState node} {a : OwnStep node} (hstep : (ownMachine node).step s a t)
    (h : OwnRecord s) : OwnRecord t ↔ Unopposed s a := by
  obtain rfl : s.next a = t := hstep
  obtain ⟨m, hm, hdescribes⟩ := h
  cases a with
  | refresh call =>
    refine iff_of_true (ownRecord_refresh call fun m' hm' => ?_) trivial
    obtain rfl := Option.some.inj (hm.symm.trans hm')
    exact hdescribes.role
  | prune now =>
    refine iff_of_true ⟨m, ?_, hdescribes⟩ trivial
    rw [OwnState.next, Store.get_prune, hm]
    exact Option.filter_eq_some_iff.2 ⟨rfl, by simp⟩
  | merge member now =>
    refine iff_of_true ⟨m, ?_, hdescribes⟩ trivial
    rw [OwnState.next, mergeDiscoveredMember]
    split
    · exact hm
    · next hother =>
      rw [Store.get_upsert, if_neg]
      · exact hm
      · rintro ⟨-, hid⟩
        refine hother (.inl ?_)
        exact (trimSpace_idem _).symm.trans hid
  | announce authorized decoded now =>
    cases haccept : acceptAnnouncement authorized decoded s.store node.nodeId now with
    | error e =>
      refine iff_of_true ⟨m, ?_, ?_⟩ fun member hok => ?_
      · rw [OwnState.next, haccept]
        exact hm
      · rw [OwnState.next, haccept]
        exact hdescribes
      · rw [haccept] at hok
        cases hok
    | ok member =>
      have hstored := stored_of_acceptAnnouncement haccept
      have hnext : s.next (.announce authorized decoded now) =
          { s with store := s.store.upsert member } := by rw [OwnState.next, haccept]
      have hunopposed : Unopposed s (.announce authorized decoded now) ↔
          (member.nodeId = node.nodeId → s.latest.member.normalize.Concurs member) := by
        simp only [Unopposed, haccept, Except.ok.injEq, forall_eq']
      rw [hnext, hunopposed, ownRecord_upsert hm hdescribes hstored]

theorem ownRecord_init {s : OwnState node} (h : (ownMachine node).init s) : OwnRecord s := by
  obtain ⟨readings, hstore⟩ := h
  have hown := ownRecord_refresh s.latest fun _ => role_published readings
  rwa [← hstore] at hown

/-- **The own record** is kept exactly when every accepted announcement concurs. -/
theorem ownRecord_kept_iff {s t : OwnState node} {h : List (OwnState node × OwnStep node)}
    (hinit : (ownMachine node).init s) (hrun : (ownMachine node).History s h t) :
    LTS.Throughout OwnRecord h t ↔ ∀ x ∈ h, Unopposed x.1 x.2 :=
  hrun.throughout_iff (L := fun _ => True) (fun _ _ _ hstep _ hown => ownRecord_step hstep hown)
    (fun _ _ => trivial) (ownRecord_init hinit)

/-- A node for the example below. -/
def ownNode : Node where
  clusterId := str "c"
  nodeId := str "x"
  staleAfter := 30
  trimmed := by decide
  short := by decide

def ownSettings : RuntimeSettings where
  startIdle := true
  engine := engineLlamaCpp
  computeBackend := computeBackendCpu
  mode := executionModePipelineParallel
  stageTransport := stageTransportHttpDirectV1
  activationEncoding := str "f32"
  kvCacheType := str "f16"
  uBatchSize := 512
  parallelSessions := 2
  decodeBatchSize := 1
  speculativeDraft := str "none"
  speculativeMax := 4
  revision := str "unknown"
  llamaCppRevision := str "unknown"
  cudaActive := false

def ownApp : App ownNode where
  settings := ownSettings
  apiUrl := str "http://x"
  runtimePeerUrl := str "http://x:1"
  startedAt := 90
  clustered := by decide
  named := by decide
  addressed := by decide
  started := by decide

/-- A node that just stored its record. -/
def ownState (now : Time) : OwnState ownNode :=
  ⟨Store.new.upsert (ownApp.selfMember {} now), ownApp, {}, now⟩

theorem init_ownState (now : Time) : (ownMachine ownNode).init (ownState now) := ⟨[], rfl⟩

/-- The announcement of another node, and a refresh. -/
theorem ownRecord_kept_neighbour :
    let neighbour : OwnStep ownNode :=
      .announce true { clusterId := str "c", nodeId := str "y", apiUrl := str "http://y" } 101
    (((ownState 100).next neighbour).store.get (str "y")).isSome = true ∧
      OwnRecord (((ownState 100).next neighbour).next (.refresh ⟨ownApp, {}, 110⟩)) := by
  refine ⟨by decide, ?_⟩
  refine ((ownRecord_kept_iff (init_ownState 100) (.cons rfl (.cons rfl (.nil _)))).2 ?_).2
  rw [List.forall_mem_cons, List.forall_mem_singleton]
  refine ⟨fun member hok hid => ?_, trivial⟩
  obtain rfl := acceptAnnouncement_eq_ok hok
  exact absurd hid (by decide)

/-- An announcement under the id of the node, with another address. -/
def impostor : OwnStep ownNode :=
  .announce true { clusterId := str "c", nodeId := str "x", apiUrl := str "http://y" } 101

/-- **An announcement under the own id** takes the node's address. -/
theorem ownRecord_overwritten :
    (ownMachine ownNode).init (ownState 100) ∧
      (((ownState 100).next impostor).store.get ownNode.nodeId).map Member.apiUrl =
        some (str "http://y") ∧
      ((ownState 100).next impostor).latest.member.apiUrl = str "http://x" ∧
      ¬ OwnRecord ((ownState 100).next impostor) := by
  have hget : (((ownState 100).next impostor).store.get ownNode.nodeId).map Member.apiUrl =
      some (str "http://y") := by decide
  refine ⟨init_ownState 100, hget, by decide, ?_⟩
  rintro ⟨m, hm, h⟩
  rw [hm, Option.map_some, Option.some.injEq, h.apiUrl] at hget
  exact absurd hget (by decide)

end JetsonFabric
