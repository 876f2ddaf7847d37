import JetsonFabric.Membership.Store
import JetsonFabric.Membership.Election
import JetsonFabric.Discovery.Mdns

/-!
# Announcements and rounds of discovery

What one node does with the records of others: the answer to an announcement
(`facade/handlers_cluster.go`), the sources of a round of discovery (`discovery/static.go`,
`hydrating.go`, `multi.go`) and the merge of what a round found (`node/app.go`).
-/

namespace JetsonFabric

open Std

/-! ## Announcements -/

variable {member : Member} {now : Time}

/-- The answer to an announcement. -/
structure ClusterView where
  leader : Option Member
  members : List Member

/-- Why an announcement is refused. -/
inductive AnnounceRefusal
  | authenticationRequired
  | invalidMember
  | clusterMismatch
  deriving DecidableEq

/-- The HTTP status of a refusal. -/
def AnnounceRefusal.status : AnnounceRefusal → Nat
  | .authenticationRequired => 403
  | .invalidMember => 400
  | .clusterMismatch => 403

/-- The code of a refusal. -/
def AnnounceRefusal.error : AnnounceRefusal → Bytes
  | .authenticationRequired => str "cluster_authentication_required"
  | .invalidMember => str "invalid_member"
  | .clusterMismatch => str "cluster_mismatch"

/-- The message of a refusal. -/
def AnnounceRefusal.message : AnnounceRefusal → Bytes
  | .authenticationRequired => str "cluster announcements require a valid cluster signature"
  | .invalidMember => str "cluster_id, node_id, and api_url are required"
  | .clusterMismatch => str "announced member belongs to a different cluster"

/-- The member is of the own cluster. -/
def sameCluster (store : Store) (selfId : Bytes) (member : Member) : Bool :=
  match store.get selfId with
  | none => true
  | some self => self.clusterId = [] || member.clusterId = self.clusterId

/-- `handleAnnounce` up to the record that is stored. -/
def acceptAnnouncement (authorized : Bool) (decoded : Member) (store : Store) (selfId : Bytes)
    (now : Time) : Except AnnounceRefusal Member :=
  if !authorized then .error .authenticationRequired
  else if !decoded.normalize.valid then .error .invalidMember
  else if !sameCluster store selfId decoded.normalize then .error .clusterMismatch
  else .ok { decoded.normalize with lastSeen := now }

/-- The members that are not stale. -/
def visibleMembers (store : Store) (now : Time) (staleAfter : Int) : List Member :=
  store.list.filter fun member => !member.isStale now staleAfter

/-- The members of an answer. -/
def announceMembers (decoded : ClusterView) : List Member :=
  decoded.members ++ decoded.leader.toList

theorem acceptAnnouncement_eq_ok {authorized : Bool} {decoded : Member} {store : Store}
    {selfId : Bytes}
    (h : acceptAnnouncement authorized decoded store selfId now = .ok member) :
    member = { decoded.normalize with lastSeen := now } := by
  unfold acceptAnnouncement at h
  split_ifs at h
  exact (Except.ok.inj h).symm

theorem stored_of_acceptAnnouncement {authorized : Bool} {decoded : Member} {store : Store}
    {selfId : Bytes}
    (h : acceptAnnouncement authorized decoded store selfId now = .ok member) :
    member.Stored member.nodeId := by
  obtain rfl := acceptAnnouncement_eq_ok h
  unfold acceptAnnouncement at h
  split_ifs at h with _ hvalid
  have hvalid : decoded.normalize.valid = true := by
    simpa only [Bool.not_eq_true, Bool.not_eq_false'] using hvalid
  refine ⟨rfl, ?_, hvalid⟩
  exact congrArg (fun m : Member => { m with lastSeen := now }) decoded.normalize_idem

/-! ## Sources -/

/-- Members by node id, as the sources collect them. -/
abbrev MembersById : Type := ExtTreeMap Bytes Member

/-- The members in the order of their ids. -/
def membersFromMap (membersById : MembersById) : List Member := membersById.toList.map Prod.snd

/-- The members of one mDNS answer that was read at `now`. -/
def mergeMdnsResponse (T : TimeText) (now : Time) (clusterId : Bytes) (membersById : MembersById)
    (records : List Bytes) (sourceIp : Bytes) : MembersById :=
  match memberFromMdnsTxt T now records sourceIp with
  | none => membersById
  | some member =>
    if member.nodeId = [] then membersById
    else if trimSpace clusterId ≠ [] ∧ member.clusterId ≠ trimSpace clusterId then membersById
    else membersById.insert member.nodeId member

/-- The loop body of `mergeHydratedPeer` over the answer of a peer. -/
def mergeHydratedMember (membersById : MembersById) (member : Member) : MembersById :=
  if member.normalize.valid then membersById.insert member.normalize.nodeId member.normalize
  else membersById

/-- The answer of a peer, or its own record. -/
def mergeHydratedPeer (membersById : MembersById) (peer : Member)
    (hydrated : Option (List Member)) : MembersById :=
  match hydrated with
  | none | some [] => membersById.insert peer.nodeId peer
  | some members => members.foldl mergeHydratedMember membersById

/-- The loop body of `hydratePeers`. -/
def hydratePeer (membersById : MembersById) (peer : Member) (hydrated : Option (List Member)) :
    MembersById :=
  if peer.normalize.valid then mergeHydratedPeer membersById peer.normalize hydrated
  else membersById

/-- `StaticSource.Discover` with the outcome for each seed. -/
def staticDiscover (outcomes : List (Bytes × Except Bytes (List Member))) :
    Except Bytes (List Member) :=
  let members := outcomes.flatMap fun outcome => outcome.2.toOption.getD []
  let errors := outcomes.filterMap fun outcome =>
    match outcome.2 with
    | .error e => some (outcome.1 ++ str ": " ++ e)
    | .ok _ => none
  if members = [] ∧ errors ≠ [] then
    .error (str "static discovery failed: " ++ join (str "; ") errors)
  else .ok members

/-- The members of a `MultiSource`, by node id and without one. -/
structure MultiMembers where
  byId : MembersById := ∅
  withoutId : List Member := []

/-- The loop body of `MultiSource.Discover`. -/
def MultiMembers.add (found : MultiMembers) (member : Member) : MultiMembers :=
  if member.normalize.nodeId = [] then
    { found with withoutId := found.withoutId ++ [member.normalize] }
  else { found with byId := found.byId.insert member.normalize.nodeId member.normalize }

/-- `MultiSource.Discover` with the outcome of each source. -/
def multiDiscover (outcomes : List (Except Bytes (List Member))) : Except Bytes (List Member) :=
  let found := (outcomes.flatMap fun outcome => outcome.toOption.getD []).foldl MultiMembers.add {}
  let members := membersFromMap found.byId ++ found.withoutId
  let errors := outcomes.filterMap fun outcome =>
    match outcome with
    | .error e => some e
    | .ok _ => none
  if members = [] ∧ errors ≠ [] then .error (str "discovery failed: " ++ join (str "; ") errors)
  else .ok members

/-! ## Rounds -/

/-- What the sources of a round have collected so far. -/
structure Round where
  /-- The time at which the round began. -/
  now : Time
  seeds : List (Bytes × Except Bytes (List Member)) := []
  browsed : MembersById := ∅
  browseError : Option Bytes := none
  hydrated : MembersById := ∅

namespace Round

/-- A round reads the TXT data of an mDNS answer. -/
def browse (T : TimeText) (now : Time) (clusterId : Bytes) (round : Round) (data : Bytes)
    (sourceIp : Bytes) : Round :=
  { round with
    browsed := mergeMdnsResponse T now clusterId round.browsed (decodeTxt data) sourceIp }

/-- The two sources of a node, the static one first. -/
def discover (round : Round) : Except Bytes (List Member) :=
  multiDiscover [staticDiscover round.seeds,
    match round.browseError with
    | some e => .error e
    | none => .ok (membersFromMap round.hydrated)]

/-- The records that a round holds. -/
def records (round : Round) : List Member :=
  (round.seeds.flatMap fun outcome => outcome.2.toOption.getD []) ++
    membersFromMap round.browsed ++ membersFromMap round.hydrated

end Round

/-- The loop body of `mergeDiscoveredMembers`. -/
def mergeDiscoveredMember (store : Store) (nodeId clusterId : Bytes) (now : Time)
    (member : Member) : Store :=
  let member := member.normalize
  if member.nodeId = nodeId ∨ member.clusterId ≠ clusterId then store
  else store.upsert { member with lastSeen := if member.lastSeen = 0 then now else member.lastSeen }

/-! ## Where the records come from -/

variable {membersById : MembersById}

theorem mem_membersFromMap {m : Member} :
    m ∈ membersFromMap membersById ↔ ∃ id : Bytes, membersById[id]? = some m := by
  simp only [membersFromMap, List.mem_map, Prod.exists, exists_eq_right,
    ExtTreeMap.mem_toList_iff_getElem?_eq_some]

section Records

variable {P : Member → Prop}

theorem forall_membersFromMap_insert {id : Bytes}
    (h : ∀ m ∈ membersFromMap membersById, P m) (hmember : P member) :
    ∀ m ∈ membersFromMap (membersById.insert id member), P m := by
  intro m hm
  obtain ⟨other, hother⟩ := mem_membersFromMap.1 hm
  rw [ExtTreeMap.getElem?_insert] at hother
  split at hother
  · cases hother
    exact hmember
  · exact h m (mem_membersFromMap.2 ⟨other, hother⟩)

theorem forall_mergeMdnsResponse {T : TimeText} {clusterId sourceIp : Bytes} {records : List Bytes}
    (h : ∀ m ∈ membersFromMap membersById, P m)
    (hfound : ∀ member, memberFromMdnsTxt T now records sourceIp = some member → P member) :
    ∀ m ∈ membersFromMap (mergeMdnsResponse T now clusterId membersById records sourceIp),
      P m := by
  unfold mergeMdnsResponse
  split
  · exact h
  · next member hmember =>
    split_ifs
    · exact h
    · exact h
    · exact forall_membersFromMap_insert h (hfound member hmember)

variable (hnormal : ∀ m, P m → P m.normalize)

include hnormal

theorem forall_mergeHydratedMember
    (h : ∀ m ∈ membersFromMap membersById, P m) (hmember : P member) :
    ∀ m ∈ membersFromMap (mergeHydratedMember membersById member), P m := by
  unfold mergeHydratedMember
  split
  · exact forall_membersFromMap_insert h (hnormal _ hmember)
  · exact h

theorem forall_hydratePeer {peer : Member}
    {hydrated : Option (List Member)} (h : ∀ m ∈ membersFromMap membersById, P m)
    (hpeer : P peer) (hhydrated : ∀ m ∈ hydrated.getD [], P m) :
    ∀ m ∈ membersFromMap (hydratePeer membersById peer hydrated), P m := by
  unfold hydratePeer mergeHydratedPeer
  split
  · split
    · exact forall_membersFromMap_insert h (hnormal _ hpeer)
    · exact forall_membersFromMap_insert h (hnormal _ hpeer)
    · next members _ =>
      -- the loop over the answer
      refine List.foldlRecOn (motive := fun found : MembersById => ∀ m ∈ membersFromMap found, P m)
        members mergeHydratedMember h fun found hfound m hm => ?_
      exact forall_mergeHydratedMember hnormal hfound (hhydrated m hm)
  · exact h

theorem forall_add {found : MultiMembers}
    (h : ∀ m ∈ membersFromMap found.byId ++ found.withoutId, P m) (hmember : P member) :
    ∀ m ∈ membersFromMap (found.add member).byId ++ (found.add member).withoutId, P m := by
  rw [List.forall_mem_append] at h
  unfold MultiMembers.add
  split
  · rw [List.forall_mem_append, List.forall_mem_append, List.forall_mem_singleton]
    exact ⟨h.1, h.2, hnormal _ hmember⟩
  · rw [List.forall_mem_append]
    exact ⟨forall_membersFromMap_insert h.1 (hnormal _ hmember), h.2⟩

theorem forall_multiDiscover {outcomes : List (Except Bytes (List Member))} {members : List Member}
    (h : multiDiscover outcomes = .ok members)
    (houtcomes : ∀ outcome ∈ outcomes, ∀ m ∈ outcome.toOption.getD [], P m) :
    ∀ m ∈ members, P m := by
  simp only [multiDiscover] at h
  split at h
  · cases h
  · cases h
    refine List.foldlRecOn (motive := fun found : MultiMembers =>
      ∀ m ∈ membersFromMap found.byId ++ found.withoutId, P m) _ _ ?_ fun found hfound m hm => ?_
    · simp [membersFromMap]
    · obtain ⟨outcome, houtcome, hm⟩ := List.mem_flatMap.1 hm
      exact forall_add hnormal hfound (houtcomes outcome houtcome m hm)

/-- A round finds only records that it was given, normalized. -/
theorem Round.discover_records {round : Round} {members : List Member}
    (h : round.discover = .ok members) (hrecords : ∀ m ∈ round.records, P m) :
    ∀ m ∈ members, P m := by
  unfold Round.records at hrecords
  rw [List.forall_mem_append, List.forall_mem_append] at hrecords
  obtain ⟨⟨hseeds, -⟩, hhydrated⟩ := hrecords
  refine forall_multiDiscover hnormal h ?_
  rw [List.forall_mem_cons, List.forall_mem_singleton]
  constructor
  · unfold staticDiscover
    dsimp only
    split
    · exact fun m hm => (List.not_mem_nil hm).elim
    · exact hseeds
  · split
    · exact fun m hm => (List.not_mem_nil hm).elim
    · exact hhydrated

end Records

end JetsonFabric
