import JetsonFabric.Lib.Transition
import JetsonFabric.Discovery.Rounds

/-!
# Gossip between nodes

The nodes of a cluster on one clock. A node refreshes its own record, announces it to others, answers
announcements with what it sees, advertises itself over mDNS, and merges what it is told
(`node/app.go`, `facade/handlers_cluster.go`). Each node runs any number of tasks at once; a task
takes one lock of the store at a time, and the tasks of all nodes interleave.

Announcements may be refused, and any message may be lost, delayed or repeated. A request reaches any
node, and an answer is taken by any round of discovery of its receiver.
-/

namespace JetsonFabric

/-! ## Nodes -/

/-- A node; an advertisement has room for 247 bytes of its id. -/
structure Node where
  clusterId : Bytes
  nodeId : Bytes
  nodeName : Bytes := []
  role : Bytes := []
  leaderPreference : Int := 0
  staleAfter : Int
  trimmed : trimSpace nodeId = nodeId
  short : nodeId.length ≤ 247

/-- What `selfMember` reads of the machine and of the running process. -/
structure Reading where
  apiUrl : Bytes
  runtimeUrl : Bytes := []
  hostname : Bytes := []
  osHostname : Bytes := []
  arch : Bytes := []
  os : Bytes := []
  capabilities : Capabilities := ∅
  metrics : Capabilities := ∅
  engines : List EngineEndpoint := []
  startedAt : Time := 0

/-- The record of the node itself. -/
def Node.selfMember (node : Node) (r : Reading) (now : Time) : Member where
  clusterId := node.clusterId
  nodeId := node.nodeId
  nodeName := if node.nodeName ≠ [] then node.nodeName
    else if r.hostname ≠ [] then r.hostname else r.osHostname
  hostname := r.hostname
  role := node.role
  apiUrl := r.apiUrl
  runtimeUrl := r.runtimeUrl
  leaderPreference := node.leaderPreference
  arch := r.arch
  os := r.os
  capabilities := r.capabilities
  metrics := r.metrics
  engines := r.engines
  startedAt := r.startedAt
  lastSeen := now

/-- The nodes of a cluster and what lies between them. -/
structure Fabric (ι : Type) where
  node : ι → Node
  distinct : Function.Injective fun i => (node i).nodeId
  staleAfter_pos : ∀ i, 0 < (node i).staleAfter
  sort : StableSort
  times : TimeText
  /-- Whether the receiver finds the announcement of the sender authorized. -/
  authorized : (receiver sender : ι) → Member → Time → Bool
  /-- What the JSON of a record decodes to. The node ids are texts that JSON keeps. -/
  wire : Member → Member
  wire_nodeId : ∀ i m, m.nodeId = (node i).nodeId → (wire m).nodeId = m.nodeId
  wire_lastSeen : ∀ m, (wire m).lastSeen = m.lastSeen

/-! ## Tasks -/

/-- A task of a node, by what it does next. -/
inductive Task (ι : Type)
  /-- Store the own record. -/
  | publish (self : Member)
  /-- `refreshMembership` before its `Upsert`, with the time it read. -/
  | refresh (self : Member) (now : Time)
  | prune (now : Time)
  | discover (round : Round)
  /-- The loop of `mergeDiscoveredMembers`. -/
  | merge (members : List Member) (now : Time)
  /-- `handleAnnounce` before its `Upsert`. -/
  | announced (sender : ι) (member : Member)
  /-- `clusterView` before and after `leader`. -/
  | elect (sender : ι)
  | view (sender : ι) (leader : Option Member)

/-- A message between two nodes. -/
inductive Message (ι : Type)
  | announcement (sender receiver : ι) (payload : Member)
  | answer (receiver : ι) (view : ClusterView)
  /-- The TXT data of an mDNS answer. -/
  | advertisement (sender receiver : ι) (data : Bytes)

/-- The state of a node. -/
structure Process (ι : Type) where
  store : Store := .new
  tracker : Tracker
  tasks : List (Task ι) := []

/-- What a task leaves behind. -/
structure Ran (ι : Type) where
  store : Store
  tracker : Tracker
  next : List (Task ι) := []
  sent : List (Message ι) := []

variable {ι : Type} [DecidableEq ι] (F : Fabric ι)

/-- The next action of a task; a round of discovery waits for messages. -/
def Fabric.runTask (i : ι) (now : Time) (p : Process ι) : Task ι → Ran ι
  | .publish self => { store := p.store.upsert self, tracker := p.tracker }
  | .refresh self started =>
    { store := p.store.upsert self, tracker := p.tracker, next := [.prune started] }
  | .prune started =>
    { store := p.store.prune started (F.node i).staleAfter (F.node i).nodeId, tracker := p.tracker
      next := [.discover { now := started }] }
  | .discover round => { store := p.store, tracker := p.tracker, next := [.discover round] }
  | .merge [] _ => { store := p.store, tracker := p.tracker }
  | .merge (member :: members) started =>
    { store := mergeDiscoveredMember p.store (F.node i).nodeId (F.node i).clusterId started member
      tracker := p.tracker, next := [.merge members started] }
  | .announced sender member =>
    { store := p.store.upsert member, tracker := p.tracker, next := [.elect sender] }
  | .elect sender =>
    let (result, tracker) := p.tracker.explain F.sort now p.store.list (F.node i).staleAfter
    { store := p.store, tracker := tracker, next := [.view sender result.leader] }
  | .view sender leader =>
    { store := p.store, tracker := p.tracker
      sent := [.answer sender ⟨leader, visibleMembers p.store now (F.node i).staleAfter⟩] }

/-- What a waiting round does next with the answer. -/
inductive Round.Extends (answer : List Member) : Round → Round → Prop
  | seed (round : Round) (seed : Bytes) :
      Extends answer round { round with seeds := round.seeds ++ [(seed, .ok answer)] }
  | seedFailed (round : Round) (seed e : Bytes) :
      Extends answer round { round with seeds := round.seeds ++ [(seed, .error e)] }
  | hydrate {round : Round} {peer : Member} (h : peer ∈ membersFromMap round.browsed) :
      Extends answer round
        { round with hydrated := hydratePeer round.hydrated peer (some answer) }
  | hydrateFailed {round : Round} {peer : Member} (h : peer ∈ membersFromMap round.browsed) :
      Extends answer round { round with hydrated := hydratePeer round.hydrated peer none }
  | browseFailed (round : Round) (e : Bytes) :
      Extends answer round { round with browseError := some e }

/-! ## The cluster -/

structure Cluster (ι : Type) where
  clock : Time
  process : ι → Process ι
  messages : List (Message ι) := []
  /-- When a message with the own record of a node was last processed. -/
  heard : ι → Time

namespace Cluster

/-- Set the process of a node. -/
def setProcess (s : Cluster ι) (i : ι) (p : Process ι) : Cluster ι :=
  { s with process := Function.update s.process i p }

/-- Set the tasks of a node. -/
def setTasks (s : Cluster ι) (i : ι) (tasks : List (Task ι)) : Cluster ι :=
  s.setProcess i { s.process i with tasks := tasks }

/-- Set the messages on their way. -/
def setMessages (s : Cluster ι) (messages : List (Message ι)) : Cluster ι :=
  { s with messages := messages }

/-- Node `i` is heard of now. -/
def hear (s : Cluster ι) (i : ι) : Cluster ι :=
  { s with heard := Function.update s.heard i s.clock }

/-- Start a task of a node. -/
def spawn (s : Cluster ι) (i : ι) (task : Task ι) : Cluster ι :=
  s.setTasks i (task :: (s.process i).tasks)

/-- Send a message. -/
def send (s : Cluster ι) (message : Message ι) : Cluster ι :=
  s.setMessages (message :: s.messages)

/-- The task of node `i` between the others has run. -/
def ran (s : Cluster ι) (i : ι) (before after : List (Task ι)) (r : Ran ι) : Cluster ι :=
  (s.setProcess i ⟨r.store, r.tracker, before ++ r.next ++ after⟩).setMessages
    (r.sent ++ s.messages)

end Cluster

/-- One step, labelled with the node that sends its own record. -/
inductive Fabric.Step : Cluster ι → Option ι → Cluster ι → Prop
  | tick {s : Cluster ι} {now : Time} (h : s.clock ≤ now) : Step s none { s with clock := now }
  | start (s : Cluster ι) (i : ι) (r : Reading) :
      Step s (some i) ((s.hear i).setProcess i
        { tracker := .new (defaultLease (F.node i).staleAfter)
          tasks := [.publish ((F.node i).selfMember r s.clock)] })
  | publish (s : Cluster ι) (i : ι) (r : Reading) :
      Step s (some i) ((s.hear i).spawn i (.publish ((F.node i).selfMember r s.clock)))
  | refresh (s : Cluster ι) (i : ι) (r : Reading) :
      Step s (some i) ((s.hear i).spawn i (.refresh ((F.node i).selfMember r s.clock) s.clock))
  | announce (s : Cluster ι) (i receiver : ι) (r : Reading)
      (h : ((F.node i).selfMember r s.clock).normalize.valid = true) :
      Step s (some i) (s.send
        (.announcement i receiver ((F.node i).selfMember r s.clock).normalize))
  | advertise (s : Cluster ι) (i receiver : ι) (r : Reading) (port : Int) :
      Step s (some i) (s.send (.advertisement i receiver
        (encodeTxt (memberTxt F.times ((F.node i).selfMember r s.clock) port))))
  | run {s : Cluster ι} {i : ι} {before after : List (Task ι)} {task : Task ι}
      (h : (s.process i).tasks = before ++ task :: after) :
      Step s none (s.ran i before after (F.runTask i s.clock (s.process i) task))
  | receive {s : Cluster ι} {before after : List (Message ι)} {sender receiver : ι}
      {payload member : Member}
      (h : s.messages = before ++ .announcement sender receiver payload :: after)
      (hok : acceptAnnouncement (F.authorized receiver sender payload s.clock) (F.wire payload)
        (s.process receiver).store (F.node receiver).nodeId s.clock = .ok member) :
      Step s none (((s.setMessages (before ++ after)).hear sender).spawn receiver
        (.announced sender member))
  | browse {s : Cluster ι} {before after : List (Message ι)} {sender receiver : ι} {data : Bytes}
      {others rest : List (Task ι)} {round : Round} (sourceIp : Bytes)
      (h : s.messages = before ++ .advertisement sender receiver data :: after)
      (htasks : (s.process receiver).tasks = others ++ .discover round :: rest) :
      Step s none (((s.setMessages (before ++ after)).hear sender).setTasks receiver
        (others ++ .discover (Round.browse F.times s.clock (F.node receiver).clusterId round data sourceIp)
          :: rest))
  | answered {s : Cluster ι} {before after : List (Message ι)} {receiver : ι} {view : ClusterView}
      {others rest : List (Task ι)} {round round' : Round}
      (h : s.messages = before ++ .answer receiver view :: after)
      (htasks : (s.process receiver).tasks = others ++ .discover round :: rest)
      (hextends : Round.Extends ((announceMembers view).map F.wire) round round') :
      Step s none ((s.setMessages (before ++ after)).setTasks receiver
        (others ++ .discover round' :: rest))
  | advance {s : Cluster ι} {i : ι} {others rest : List (Task ι)} {round round' : Round}
      (htasks : (s.process i).tasks = others ++ .discover round :: rest)
      (hextends : Round.Extends [] round round') :
      Step s none (s.setTasks i (others ++ .discover round' :: rest))
  /-- The order of a map is not fixed. -/
  | finish {s : Cluster ι} {i : ι} {others rest : List (Task ι)} {round : Round}
      {found members : List Member}
      (htasks : (s.process i).tasks = others ++ .discover round :: rest)
      (hfound : round.discover = .ok found) (hmembers : members.Perm found) :
      Step s none (s.setTasks i (others ++ .merge members round.now :: rest))
  | abandon {s : Cluster ι} {i : ι} {before after : List (Task ι)} {task : Task ι}
      (h : (s.process i).tasks = before ++ task :: after) :
      Step s none (s.setTasks i (before ++ after))
  | lose {s : Cluster ι} {before after : List (Message ι)} {message : Message ι}
      (h : s.messages = before ++ message :: after) :
      Step s none (s.setMessages (before ++ after))
  | duplicate {s : Cluster ι} {message : Message ι} (h : message ∈ s.messages) :
      Step s none (s.send message)

/-- The runs of a cluster in which no node has started. -/
def Fabric.gossip : LTS (Cluster ι) (Option ι) where
  init s := 0 < s.clock ∧ (∀ i, (s.process i).store = .new ∧ (s.process i).tasks = []) ∧
    s.messages = [] ∧ ∀ i, s.heard i = 0
  step := F.Step

/-! ## Records that are vouched for -/

variable {store : Store}

section Vouched

variable {F}

/-- A record of a node that is not later than the node was heard of. -/
def Fabric.Vouched (F : Fabric ι) (heard : ι → Time) (m : Member) : Prop :=
  ∃ c, m.nodeId = (F.node c).nodeId ∧ 0 < m.lastSeen ∧ m.lastSeen ≤ heard c

variable {heard : ι → Time} {m m' : Member}

omit [DecidableEq ι]

theorem Fabric.Vouched.congr (h : F.Vouched heard m) (hid : m'.nodeId = m.nodeId)
    (hseen : m'.lastSeen = m.lastSeen) : F.Vouched heard m' := by
  obtain ⟨c, hc, hpos, hle⟩ := h
  exact ⟨c, hid.trans hc, by rwa [hseen], by rwa [hseen]⟩

theorem Fabric.Vouched.normalize (h : F.Vouched heard m) : F.Vouched heard m.normalize := by
  obtain ⟨c, hc, -⟩ := id h
  refine h.congr ?_ rfl
  change trimSpace m.nodeId = m.nodeId
  rw [hc, (F.node c).trimmed]

theorem Fabric.Vouched.wire (h : F.Vouched heard m) : F.Vouched heard (F.wire m) := by
  obtain ⟨c, hc, -⟩ := id h
  exact h.congr (F.wire_nodeId c m hc) (F.wire_lastSeen m)

theorem Fabric.Vouched.mono {later : ι → Time} (h : F.Vouched heard m) (hle : heard ≤ later) :
    F.Vouched later m := by
  obtain ⟨c, hc, hpos, hseen⟩ := h
  exact ⟨c, hc, hpos, hseen.trans (hle c)⟩

theorem vouched_upsert (h : ∀ found ∈ store.list, F.Vouched heard found)
    (hm : F.Vouched heard m) : ∀ found ∈ (store.upsert m).list, F.Vouched heard found := by
  intro found hfound
  rw [Store.mem_list, Store.get_upsert] at hfound
  split at hfound
  · next hvalid =>
    obtain ⟨c, -, hpos, -⟩ := id hm
    have hstored : (mergeExisting (store.get found.nodeId) m.normalize).Stored m.normalize.nodeId :=
      (Member.Stored.mk rfl (Member.normalize_idem m)
        ((Member.valid_normalize m).trans hvalid.1)).mergeExisting
    rw [← Option.some.inj hfound]
    exact hm.normalize.congr hstored.nodeId (lastSeen_mergeExisting _ hpos.ne')
  · exact h found (Store.mem_list.2 hfound)

theorem vouched_prune (h : ∀ found ∈ store.list, F.Vouched heard found)
    (now : Time) (staleAfter : Int) (keep : Bytes) :
    ∀ found ∈ (store.prune now staleAfter keep).list, F.Vouched heard found := by
  intro found hfound
  rw [Store.mem_list, Store.get_prune, Option.filter_eq_some_iff] at hfound
  exact h found (Store.mem_list.2 hfound.1)

theorem vouched_mergeDiscoveredMember
    (h : ∀ found ∈ store.list, F.Vouched heard found) (hm : F.Vouched heard m)
    (nodeId clusterId : Bytes) (now : Time) :
    ∀ found ∈ (mergeDiscoveredMember store nodeId clusterId now m).list,
      F.Vouched heard found := by
  simp only [mergeDiscoveredMember]
  split
  · exact h
  · obtain ⟨c, -, hpos, -⟩ := id hm
    refine vouched_upsert h (hm.normalize.congr rfl ?_)
    exact if_neg hpos.ne'

end Vouched

/-! ## The invariant -/

/-- The records that a task holds. -/
def Task.records : Task ι → List Member
  | .publish self => [self]
  | .refresh self _ => [self]
  | .prune _ => []
  | .discover round => round.records
  | .merge members _ => members
  | .announced _ member => [member]
  | .elect _ => []
  | .view _ leader => leader.toList

/-- What the nodes send: their own record, or records that are vouched for. -/
def Fabric.Honest (heard : ι → Time) : Message ι → Prop
  | .announcement sender _ payload => payload.nodeId = (F.node sender).nodeId
  | .answer _ view => ∀ m ∈ announceMembers view, F.Vouched heard m
  | .advertisement sender _ data =>
    ∃ m port, m.nodeId = (F.node sender).nodeId ∧ data = encodeTxt (memberTxt F.times m port)

/-- The records of a node are vouched for, those of its tasks too. -/
structure Fabric.Sound (heard : ι → Time) (p : Process ι) : Prop where
  store : ∀ m ∈ p.store.list, F.Vouched heard m
  tasks : ∀ task ∈ p.tasks, ∀ m ∈ task.records, F.Vouched heard m

structure Fabric.Good (s : Cluster ι) : Prop where
  clock : 0 < s.clock
  heard : ∀ c, s.heard c ≤ s.clock
  process : ∀ i, F.Sound s.heard (s.process i)
  messages : ∀ message ∈ s.messages, F.Honest s.heard message

variable {task : Task ι} {now : Time} {p : Process ι} {message : Message ι}

section Steps

variable {F} {heard : ι → Time}

omit [DecidableEq ι] in
theorem vouched_leader (h : ∀ m ∈ store.list, F.Vouched heard m) {tracker : Tracker}
    {staleAfter : Int} :
    ∀ m ∈ (tracker.explain F.sort now store.list staleAfter).1.leader.toList,
      F.Vouched heard m := by
  intro m hm
  rw [Option.mem_toList, Tracker.explain_leader] at hm
  obtain ⟨member, hmember, rfl, -⟩ := eligible_of_leader hm
  exact (h member hmember).normalize

omit [DecidableEq ι] in
theorem sound_runTask (i : ι) (now : Time) (hp : F.Sound heard p)
    (htask : ∀ m ∈ task.records, F.Vouched heard m) :
    (∀ m ∈ (F.runTask i now p task).store.list, F.Vouched heard m) ∧
      (∀ next ∈ (F.runTask i now p task).next, ∀ m ∈ next.records, F.Vouched heard m) ∧
      ∀ message ∈ (F.runTask i now p task).sent, F.Honest heard message := by
  have hnone : ∀ next ∈ ([] : List (Task ι)), ∀ m ∈ next.records, F.Vouched heard m :=
    fun next hnext => (List.not_mem_nil hnext).elim
  have hsilent : ∀ message ∈ ([] : List (Message ι)), F.Honest heard message :=
    fun message hmessage => (List.not_mem_nil hmessage).elim
  cases task with
  | publish self => exact ⟨vouched_upsert hp.store (htask self List.mem_cons_self), hnone, hsilent⟩
  | refresh self started =>
    refine ⟨vouched_upsert hp.store (htask self List.mem_cons_self), ?_, hsilent⟩
    exact List.forall_mem_singleton.2 fun m hm => (List.not_mem_nil hm).elim
  | prune started =>
    refine ⟨vouched_prune hp.store _ _ _, List.forall_mem_singleton.2 ?_, hsilent⟩
    simp [Task.records, Round.records, membersFromMap]
  | discover round => exact ⟨hp.store, List.forall_mem_singleton.2 htask, hsilent⟩
  | merge members started =>
    cases members with
    | nil => exact ⟨hp.store, hnone, hsilent⟩
    | cons member members =>
      obtain ⟨hmember, hmembers⟩ := List.forall_mem_cons.1 htask
      exact ⟨vouched_mergeDiscoveredMember hp.store hmember _ _ _,
        List.forall_mem_singleton.2 hmembers, hsilent⟩
  | announced sender member =>
    refine ⟨vouched_upsert hp.store (htask member List.mem_cons_self), ?_, hsilent⟩
    exact List.forall_mem_singleton.2 fun m hm => (List.not_mem_nil hm).elim
  | elect sender =>
    exact ⟨hp.store, List.forall_mem_singleton.2 (vouched_leader hp.store), hsilent⟩
  | view sender leader =>
    refine ⟨hp.store, hnone, List.forall_mem_singleton.2 ?_⟩
    -- the answer holds members of the store and the leader of the step before
    exact List.forall_mem_append.2 ⟨fun m hm => hp.store m (List.mem_filter.1 hm).1, htask⟩

omit [DecidableEq ι] in
theorem Round.Extends.vouched {answer : List Member} {round round' : Round}
    (h : Round.Extends answer round round') (hround : ∀ m ∈ round.records, F.Vouched heard m)
    (hanswer : ∀ m ∈ answer, F.Vouched heard m) : ∀ m ∈ round'.records, F.Vouched heard m := by
  unfold Round.records at hround ⊢
  rw [List.forall_mem_append, List.forall_mem_append] at hround ⊢
  obtain ⟨⟨hseeds, hbrowsed⟩, hhydrated⟩ := hround
  have hnormal : ∀ m, F.Vouched heard m → F.Vouched heard m.normalize := fun m hm => hm.normalize
  cases h with
  | seed seed =>
    refine ⟨⟨?_, hbrowsed⟩, hhydrated⟩
    rw [List.flatMap_append, List.forall_mem_append, List.flatMap_singleton]
    exact ⟨hseeds, hanswer⟩
  | seedFailed seed e =>
    refine ⟨⟨?_, hbrowsed⟩, hhydrated⟩
    rw [List.flatMap_append, List.forall_mem_append, List.flatMap_singleton]
    exact ⟨hseeds, fun m hm => (List.not_mem_nil hm).elim⟩
  | hydrate hpeer =>
    exact ⟨⟨hseeds, hbrowsed⟩,
      forall_hydratePeer hnormal hhydrated (hbrowsed _ hpeer) hanswer⟩
  | hydrateFailed hpeer =>
    exact ⟨⟨hseeds, hbrowsed⟩, forall_hydratePeer hnormal hhydrated (hbrowsed _ hpeer)
      fun m hm => (List.not_mem_nil hm).elim⟩
  | browseFailed e => exact ⟨⟨hseeds, hbrowsed⟩, hhydrated⟩

variable {s t : Cluster ι}

theorem Fabric.Good.setProcess (h : F.Good s) {i : ι} (hp : F.Sound s.heard p) :
    F.Good (s.setProcess i p) := by
  refine ⟨h.clock, h.heard, fun j => ?_, h.messages⟩
  by_cases hj : j = i
  · subst hj
    simpa [Cluster.setProcess] using hp
  · simpa [Cluster.setProcess, hj] using h.process j

theorem Fabric.Good.setTasks (h : F.Good s) {i : ι} {tasks : List (Task ι)}
    (htasks : ∀ task ∈ tasks, ∀ m ∈ task.records, F.Vouched s.heard m) :
    F.Good (s.setTasks i tasks) :=
  h.setProcess ⟨(h.process i).store, htasks⟩

theorem Fabric.Good.spawn (h : F.Good s) {i : ι}
    (htask : ∀ m ∈ task.records, F.Vouched s.heard m) : F.Good (s.spawn i task) :=
  h.setTasks (List.forall_mem_cons.2 ⟨htask, (h.process i).tasks⟩)

theorem Fabric.Good.replace (h : F.Good s) {i : ι} {before after : List (Task ι)}
    {next : Task ι} (htasks : (s.process i).tasks = before ++ task :: after)
    (hnext : (∀ m ∈ task.records, F.Vouched s.heard m) →
      ∀ m ∈ next.records, F.Vouched s.heard m) :
    F.Good (s.setTasks i (before ++ next :: after)) := by
  have hold := (h.process i).tasks
  rw [htasks, List.forall_mem_append, List.forall_mem_cons] at hold
  obtain ⟨hbefore, htask, hafter⟩ := hold
  refine h.setTasks ?_
  rw [List.forall_mem_append, List.forall_mem_cons]
  exact ⟨hbefore, hnext htask, hafter⟩

omit [DecidableEq ι] in
theorem Fabric.Good.setMessages (h : F.Good s) {messages : List (Message ι)}
    (hmessages : ∀ message ∈ messages, F.Honest s.heard message) : F.Good (s.setMessages messages) :=
  ⟨h.clock, h.heard, h.process, hmessages⟩

omit [DecidableEq ι] in
theorem Fabric.Good.take (h : F.Good s) {before after : List (Message ι)}
    (hmessages : s.messages = before ++ message :: after) :
    F.Honest s.heard message ∧ F.Good (s.setMessages (before ++ after)) := by
  have hold := h.messages
  rw [hmessages, List.forall_mem_append, List.forall_mem_cons] at hold
  exact ⟨hold.2.1, h.setMessages (List.forall_mem_append.2 ⟨hold.1, hold.2.2⟩)⟩

omit [DecidableEq ι] in
theorem Fabric.Honest.mono {later : ι → Time} (hle : heard ≤ later)
    (h : F.Honest heard message) : F.Honest later message := by
  cases message with
  | announcement sender receiver payload => exact h
  | answer receiver view => exact fun m hm => (h m hm).mono hle
  | advertisement sender receiver data => exact h

theorem Fabric.Good.hear (h : F.Good s) (c : ι) : F.Good (s.hear c) := by
  have hle : s.heard ≤ (s.hear c).heard := by
    intro i
    by_cases hi : i = c
    · subst hi
      simpa [Cluster.hear] using h.heard i
    · simp [Cluster.hear, hi]
  refine ⟨h.clock, fun i => ?_, fun i => ⟨?_, ?_⟩, fun message hmessage => ?_⟩
  · by_cases hi : i = c
    · subst hi
      simp [Cluster.hear]
    · simpa [Cluster.hear, hi] using h.heard i
  · exact fun m hm => ((h.process i).store m hm).mono hle
  · exact fun task htask m hm => ((h.process i).tasks task htask m hm).mono hle
  · exact (h.messages message hmessage).mono hle

theorem vouched_now (hclock : 0 < s.clock) {c : ι} {m : Member}
    (hid : m.nodeId = (F.node c).nodeId) (hseen : m.lastSeen = s.clock) :
    F.Vouched (s.hear c).heard m :=
  ⟨c, hid, by rwa [hseen], by simp [Cluster.hear, hseen]⟩

theorem good_step {label : Option ι} (h : F.Good s) (hstep : F.Step s label t) : F.Good t := by
  have hnormal : ∀ m, F.Vouched s.heard m → F.Vouched s.heard m.normalize :=
    fun m hm => hm.normalize
  cases hstep with
  | tick hle => exact ⟨h.clock.trans_le hle, fun c => (h.heard c).trans hle, h.process, h.messages⟩
  | start i r =>
    refine (h.hear i).setProcess ⟨?_, ?_⟩
    · intro m hm
      rw [Store.mem_list, Store.get_new] at hm
      cases hm
    · exact List.forall_mem_singleton.2 (List.forall_mem_singleton.2 (vouched_now h.clock rfl rfl))
  | publish i r =>
    exact (h.hear i).spawn (List.forall_mem_singleton.2 (vouched_now h.clock rfl rfl))
  | refresh i r =>
    exact (h.hear i).spawn (List.forall_mem_singleton.2 (vouched_now h.clock rfl rfl))
  | announce i receiver r _ =>
    exact h.setMessages (List.forall_mem_cons.2 ⟨(F.node i).trimmed, h.messages⟩)
  | advertise i receiver r port =>
    exact h.setMessages (List.forall_mem_cons.2 ⟨⟨_, port, rfl, rfl⟩, h.messages⟩)
  | @run i before after task htasks =>
    have hold := (h.process i).tasks
    rw [htasks, List.forall_mem_append, List.forall_mem_cons] at hold
    obtain ⟨hstore, hnext, hsent⟩ := sound_runTask i s.clock (h.process i) hold.2.1
    refine (h.setProcess ⟨hstore, ?_⟩).setMessages (List.forall_mem_append.2 ⟨hsent, h.messages⟩)
    rw [List.forall_mem_append, List.forall_mem_append]
    exact ⟨⟨hold.1, hnext⟩, hold.2.2⟩
  | @receive _ _ sender receiver payload member hmessages hok =>
    obtain ⟨hpayload, hgood⟩ := h.take hmessages
    refine (hgood.hear sender).spawn (List.forall_mem_singleton.2 ?_)
    rw [acceptAnnouncement_eq_ok hok]
    refine vouched_now hgood.clock ?_ rfl
    change trimSpace (F.wire payload).nodeId = _
    rw [F.wire_nodeId sender payload hpayload, hpayload, (F.node sender).trimmed]
  | @browse _ _ sender receiver data others rest round sourceIp hmessages htasks =>
    obtain ⟨⟨m, port, hid, rfl⟩, hgood⟩ := h.take hmessages
    refine (hgood.hear sender).replace htasks fun hround => ?_
    simp only [Task.records, Round.records, List.forall_mem_append] at hround ⊢
    obtain ⟨⟨hseeds, hbrowsed⟩, hhydrated⟩ := hround
    refine ⟨⟨hseeds, forall_mergeMdnsResponse hbrowsed fun member hmember => ?_⟩, hhydrated⟩
    have hshort : m.nodeId.length ≤ 247 := hid ▸ (F.node sender).short
    obtain ⟨hmid, hseen⟩ := memberFromMdnsTxt_memberTxt hshort hmember
    exact vouched_now hgood.clock (by rw [hmid, hid, (F.node sender).trimmed]) hseen
  | answered hmessages htasks hextends =>
    obtain ⟨hview, hgood⟩ := h.take hmessages
    refine hgood.replace htasks fun hround => hextends.vouched hround fun m hm => ?_
    obtain ⟨sent, hsent, rfl⟩ := List.mem_map.1 hm
    exact (hview sent hsent).wire
  | advance htasks hextends =>
    exact h.replace htasks fun hround => hextends.vouched hround
      fun m hm => (List.not_mem_nil hm).elim
  | finish htasks hfound hmembers =>
    refine h.replace htasks fun hround m hm => ?_
    exact Round.discover_records hnormal hfound hround m (hmembers.mem_iff.1 hm)
  | @abandon i before after task htasks =>
    have hold := (h.process i).tasks
    rw [htasks, List.forall_mem_append, List.forall_mem_cons] at hold
    exact h.setTasks (List.forall_mem_append.2 ⟨hold.1, hold.2.2⟩)
  | lose hmessages => exact (h.take hmessages).2
  | duplicate hmem => exact h.setMessages (List.forall_mem_cons.2 ⟨h.messages _ hmem, h.messages⟩)

/-- **No record is later than its node was heard of.** -/
theorem good_reachable (h : F.gossip.Reachable s) : F.Good s := by
  refine LTS.Inductive.reachable ⟨?_, fun _ _ _ => good_step⟩ h
  rintro s ⟨hclock, hprocess, hmessages, hheard⟩
  refine ⟨hclock, fun c => (hheard c).trans_le hclock.le, fun i => ⟨?_, ?_⟩, ?_⟩
  · intro m hm
    rw [(hprocess i).1, Store.mem_list, Store.get_new] at hm
    cases hm
  · rw [(hprocess i).2]
    exact fun task htask => (List.not_mem_nil htask).elim
  · rw [hmessages]
    exact fun message hmessage => (List.not_mem_nil hmessage).elim

/-! ## A node that has stopped -/

/-- The node whose own record a message brings. -/
def Message.origin : Message ι → Option ι
  | .announcement sender _ _ => some sender
  | .answer _ _ => none
  | .advertisement sender _ _ => some sender

/-- The messages of `c` with its own record are all processed. -/
def Cluster.Silent (c : ι) (s : Cluster ι) : Prop := ∀ message ∈ s.messages, message.origin ≠ some c

omit [DecidableEq ι] in
theorem origin_of_sent {i : ι} :
    ∀ message ∈ (F.runTask i now p task).sent, message.origin = none := by
  cases task with
  | merge members started => cases members <;> simp [Fabric.runTask]
  | view sender leader => simp [Fabric.runTask, Message.origin]
  | _ => simp [Fabric.runTask]

omit [DecidableEq ι] in
theorem Cluster.Silent.take {c : ι} (h : s.Silent c) {before after : List (Message ι)}
    (hmessages : s.messages = before ++ message :: after) :
    message.origin ≠ some c ∧ ∀ other ∈ before ++ after, other.origin ≠ some c := by
  unfold Cluster.Silent at h
  rw [hmessages, List.forall_mem_append, List.forall_mem_cons] at h
  exact ⟨h.2.1, List.forall_mem_append.2 ⟨h.1, h.2.2⟩⟩

theorem silent_step {c : ι} {label : Option ι} (hstep : F.Step s label t) (hlabel : label ≠ some c)
    (h : s.Silent c) : t.Silent c ∧ t.heard c = s.heard c := by
  have hother : ∀ {i : ι} {u : Cluster ι}, some i ≠ some c → (u.hear i).heard c = u.heard c :=
    fun hi => Function.update_of_ne (fun heq => hi (congrArg some heq.symm)) _ _
  cases hstep with
  | tick | advance | finish | abandon => exact ⟨h, rfl⟩
  | start i r | publish i r | refresh i r => exact ⟨h, hother hlabel⟩
  | announce i receiver r _ | advertise i receiver r port =>
    exact ⟨List.forall_mem_cons.2 ⟨hlabel, h⟩, rfl⟩
  | run htasks =>
    refine ⟨List.forall_mem_append.2 ⟨fun message hmessage => ?_, h⟩, rfl⟩
    rw [origin_of_sent message hmessage]
    exact Option.some_ne_none c |>.symm
  | receive hmessages _ | browse _ hmessages _ =>
    obtain ⟨hsender, hrest⟩ := h.take hmessages
    exact ⟨hrest, hother hsender⟩
  | answered hmessages _ _ | lose hmessages => exact ⟨(h.take hmessages).2, rfl⟩
  | duplicate hmem => exact ⟨List.forall_mem_cons.2 ⟨h _ hmem, h⟩, rfl⟩

theorem silent_run {c : ι} {labels : List (Option ι)} (hrun : F.gossip.Run s labels t)
    (hlabels : some c ∉ labels) (h : s.Silent c) : t.heard c = s.heard c := by
  induction hrun with
  | nil => rfl
  | cons hstep _ ih =>
    obtain ⟨hlabel, hlabels⟩ := not_or.1 (mt List.mem_cons.2 hlabels)
    obtain ⟨hsilent, hheard⟩ := silent_step hstep (Ne.symm hlabel) h
    exact (ih hlabels hsilent).trans hheard

theorem lastSeen_le_heard (h : F.gossip.Reachable s) {i c : ι} {m : Member}
    (hm : (s.process i).store.get (F.node c).nodeId = some m) : m.lastSeen ≤ s.heard c := by
  have hid : m.nodeId = (F.node c).nodeId := (Store.get_stored hm).nodeId
  have hmem : m ∈ (s.process i).store.list := Store.mem_list.2 (by rwa [hid])
  obtain ⟨c', hc', -, hle⟩ := ((good_reachable h).process i).store m hmem
  obtain rfl : c' = c := F.distinct (hc'.symm.trans hid)
  exact hle

/-- **Gossip does not keep a node alive**: the record of a stopped node becomes stale. -/
theorem gossip_forgets (h : F.gossip.Reachable s) :
    (∀ i c m, (s.process i).store.get (F.node c).nodeId = some m → m.lastSeen ≤ s.heard c) ∧
    ∀ c, s.Silent c → ∀ labels t, F.gossip.Run s labels t → some c ∉ labels →
      ∀ i now, (F.node i).staleAfter < 2 ^ 63 - 1 → s.heard c + (F.node i).staleAfter < now →
        (∀ m, (t.process i).store.get (F.node c).nodeId = some m →
          m.isStale now (F.node i).staleAfter = true) ∧
        (∀ m ∈ visibleMembers (t.process i).store now (F.node i).staleAfter,
          m.nodeId ≠ (F.node c).nodeId) ∧
        ∀ leader, electLeader F.sort now (t.process i).store.list (F.node i).staleAfter =
          some leader → leader.nodeId ≠ (F.node c).nodeId := by
  refine ⟨fun i c m hm => lastSeen_le_heard h hm, ?_⟩
  intro c hsilent labels t hrun hlabels i now hmax hnow
  have hstale : ∀ m, (t.process i).store.get (F.node c).nodeId = some m →
      m.isStale now (F.node i).staleAfter = true := by
    intro m hm
    have hseen := lastSeen_le_heard (h.run hrun) hm
    rw [silent_run hrun hlabels hsilent] at hseen
    exact Member.isStale_of_lt (F.staleAfter_pos i) hmax (by linarith)
  refine ⟨hstale, fun m hm hid => ?_, fun leader hleader hid => ?_⟩
  · obtain ⟨hm, hfresh⟩ := List.mem_filter.1 hm
    rw [hstale m (hid ▸ Store.mem_list.1 hm)] at hfresh
    cases hfresh
  · obtain ⟨m, hm, rfl, heligible⟩ := eligible_of_leader hleader
    have hstored := Store.mem_list.1 hm
    rw [(Store.get_stored hstored).normal] at hid heligible
    rw [hid] at hstored
    exact Bool.false_ne_true
      ((eligibility_eq_eligible.1 heligible).2.1.symm.trans (hstale m hstored))

end Steps

/-! ## Two nodes -/

/-- A coordinator `a` and a node `b`. -/
def pairNode (staleAfter : Int) : Bool → Node
  | false =>
    { clusterId := str "c", nodeId := str "a", role := nodeRoleCoordinator, staleAfter := staleAfter
      trimmed := by decide, short := by decide }
  | true =>
    { clusterId := str "c", nodeId := str "b", staleAfter := staleAfter
      trimmed := by decide, short := by decide }

/-- Two nodes that know each other. -/
def pairFabric (staleAfter : Int) (h : 0 < staleAfter) : Fabric Bool where
  node := pairNode staleAfter
  distinct i j hij := by
    have hne : str "a" ≠ str "b" := by decide
    match i, j with
    | false, false | true, true => rfl
    | false, true => exact absurd hij hne
    | true, false => exact absurd hij hne.symm
  staleAfter_pos i := by cases i <;> exact h
  sort := insertionStable
  times := ⟨fun _ => [], fun _ => none⟩
  authorized _ _ _ _ := true
  wire := id
  wire_nodeId _ _ _ := rfl
  wire_lastSeen _ := rfl

/-- The record that `a` announces. -/
def pairRecord : Member :=
  { clusterId := str "c", nodeId := str "a", role := nodeRoleCoordinator, apiUrl := str "http://a"
    lastSeen := 1 }

/-- Node `b` has stored the announcement of `a`, and the clock is at `now`. -/
def pairHeard (now : Time) : Cluster Bool where
  clock := now
  process i := if i then ⟨Store.new.upsert pairRecord.normalize, .new 0, [.elect false]⟩
    else { tracker := .new 0 }
  heard i := if i then 0 else 1

theorem pairHeard_reachable {staleAfter : Int} (h : 0 < staleAfter) (hnow : 1 ≤ now) :
    (pairFabric staleAfter h).gossip.Reachable (pairHeard now) := by
  have hinit : (pairFabric staleAfter h).gossip.Reachable
      ⟨1, fun _ => { tracker := .new 0 }, [], fun _ => 0⟩ :=
    .init ⟨by decide, fun _ => ⟨rfl, rfl⟩, rfl, fun _ => rfl⟩
  have hvalid : pairRecord.normalize.valid = true := by decide
  have hok : acceptAnnouncement true pairRecord.normalize .new (str "b") 1 =
      .ok pairRecord.normalize := by
    rw [acceptAnnouncement, if_neg (by decide), Member.normalize_idem, if_neg (by decide),
      if_neg (by decide)]
    rfl
  have hannounce := hinit.step (.announce _ false true { apiUrl := str "http://a" } hvalid)
  have hreceive := hannounce.step (.receive (show _ = [] ++ _ :: _ from rfl) hok)
  have hrun := hreceive.step (.run (i := true) (show _ = [] ++ _ :: _ from rfl))
  have htick := hrun.step (.tick hnow)
  convert htick using 1
  unfold pairHeard
  congr 1
  · funext i
    cases i <;> rfl
  · funext i
    cases i <;> rfl

theorem pairHeard_silent (now : Time) : (pairHeard now).Silent false :=
  fun _ hmessage => (List.not_mem_nil hmessage).elim

/-- Node `b` forgets `a` after a time of five. -/
theorem gossip_forgets_pair :
    (pairFabric 5 (by decide)).gossip.Reachable (pairHeard 1) ∧ (pairHeard 1).Silent false ∧
      ∃ m, ((pairHeard 1).process true).store.get (str "a") = some m ∧
        m.lastSeen ≤ (pairHeard 1).heard false ∧ m.isStale 7 5 = true := by
  have h := pairHeard_reachable (show (0 : Int) < 5 by decide) le_rfl
  obtain ⟨m, hm⟩ := Option.isSome_iff_exists.1
    (show (((pairHeard 1).process true).store.get (str "a")).isSome = true by decide)
  obtain ⟨hseen, hstale⟩ := gossip_forgets h
  have hlater := hstale false (pairHeard_silent 1) [] _ (.nil _) List.not_mem_nil true 7
    (by decide) (by decide)
  exact ⟨h, pairHeard_silent 1, m, hm, hseen true false m hm, hlater.1 m hm⟩

/-- **The largest duration never passes.** -/
theorem gossip_keeps_largest :
    (pairFabric (2 ^ 63 - 1) (by decide)).gossip.Reachable (pairHeard (2 ^ 63 + 1)) ∧
      (pairHeard (2 ^ 63 + 1)).Silent false ∧
      (pairHeard (2 ^ 63 + 1)).heard false + (2 ^ 63 - 1) < (pairHeard (2 ^ 63 + 1)).clock ∧
      (electLeader insertionStable (pairHeard (2 ^ 63 + 1)).clock
        ((pairHeard (2 ^ 63 + 1)).process true).store.list (2 ^ 63 - 1)).map (·.nodeId) =
          some (str "a") :=
  ⟨pairHeard_reachable _ (by decide), pairHeard_silent _, by decide, by decide⟩

end JetsonFabric
