import JetsonFabric.Plan.Member

/-!
# The membership table of a node

The store of `membership/store.go`. A record that comes in replaces the one under its node id and
takes over from it what it does not say itself.
-/

namespace JetsonFabric

open Std

/-! ## Merging two records of a node -/

def mergeIdentityFields (existing incoming : Member) : Member :=
  { incoming with
    role := if incoming.role = nodeRoleAuto ∧ existing.role ≠ nodeRoleAuto then existing.role
      else incoming.role
    leaderPreference := if incoming.leaderPreference = 0 ∧ existing.leaderPreference ≠ 0 then
      existing.leaderPreference else incoming.leaderPreference }

def mergeTimeFields (existing incoming : Member) : Member :=
  { incoming with
    startedAt := if incoming.startedAt = 0 then existing.startedAt else incoming.startedAt
    lastSeen := if incoming.lastSeen = 0 then existing.lastSeen else incoming.lastSeen }

def mergeRichFields (incoming existing : Member) : Member :=
  { incoming with
    capabilities := if incoming.capabilities.isEmpty then existing.capabilities
      else incoming.capabilities
    metrics := if incoming.metrics.isEmpty then existing.metrics else incoming.metrics
    engines := if incoming.engines.isEmpty then existing.engines else incoming.engines }

def mergeMember (existing incoming : Member) : Member :=
  (mergeRichFields (mergeTimeFields existing (mergeIdentityFields existing incoming))
    existing).normalize

/-- The record that is stored for `incoming` when `existing` is there. -/
def mergeExisting (existing : Option Member) (incoming : Member) : Member :=
  match existing with
  | some existing => mergeMember existing incoming
  | none => incoming

/-- A record as a store keeps it under `id`. -/
structure Member.Stored (id : Bytes) (m : Member) : Prop where
  nodeId : m.nodeId = id
  normal : m.normalize = m
  valid : m.valid = true

theorem Member.Stored.mergeExisting {id : Bytes} {existing : Option Member} {incoming : Member}
    (h : incoming.Stored id) : (mergeExisting existing incoming).Stored id := by
  cases existing with
  | none => exact h
  | some existing =>
    refine ⟨?_, Member.normalize_idem _, ?_⟩
    · exact (congrArg Member.nodeId h.normal).trans h.nodeId
    · exact (Member.valid_normalize _).trans h.valid

theorem lastSeen_mergeExisting (existing : Option Member) {incoming : Member}
    (h : incoming.lastSeen ≠ 0) : (mergeExisting existing incoming).lastSeen = incoming.lastSeen := by
  cases existing with
  | none => rfl
  | some existing => exact if_neg h

/-! ## The store -/

/-- The records of a node, by node id. -/
structure Store where
  members : ExtTreeMap Bytes Member
  stored : ∀ {id : Bytes} {m : Member}, members[id]? = some m → m.Stored id

namespace Store

/-- `NewStore`. -/
def new : Store := ⟨∅, fun h => by simp at h⟩

def get (s : Store) (nodeId : Bytes) : Option Member := s.members[nodeId]?

theorem stored_insert (s : Store) {id : Bytes} {m : Member} (h : m.Stored id) {other : Bytes}
    {found : Member} (hfound : (s.members.insert id m)[other]? = some found) :
    found.Stored other := by
  rw [ExtTreeMap.getElem?_insert] at hfound
  split at hfound
  · next heq =>
    obtain rfl : id = other := LawfulEqCmp.eq_of_compare heq
    cases hfound
    exact h
  · exact s.stored hfound

def upsert (s : Store) (member : Member) : Store :=
  let member := member.normalize
  if h : member.valid = true then
    ⟨s.members.insert member.nodeId (mergeExisting s.members[member.nodeId]? member),
      s.stored_insert ((Member.Stored.mk rfl (Member.normalize_idem _) h).mergeExisting)⟩
  else s

/-- The records in the order of their ids. -/
def list (s : Store) : List Member := s.members.toList.map Prod.snd

theorem stored_filter (s : Store) (keep : Bytes → Member → Bool) {id : Bytes} {m : Member}
    (h : (s.members.filter keep)[id]? = some m) : m.Stored id := by
  rw [ExtTreeMap.getElem?_filter', Option.filter_eq_some_iff] at h
  exact s.stored h.1

/-- `Prune`; nothing reads the list of removed members. -/
def prune (s : Store) (now : Time) (staleAfter : Int) (keepNodeId : Bytes) : Store :=
  ⟨s.members.filter fun nodeId m => nodeId = keepNodeId || !m.isStale now staleAfter,
    s.stored_filter _⟩

theorem get_new (id : Bytes) : new.get id = none := ExtTreeMap.getElem?_empty

theorem get_stored {s : Store} {id : Bytes} {m : Member} (h : s.get id = some m) : m.Stored id :=
  s.stored h

theorem get_upsert (s : Store) (m : Member) (id : Bytes) :
    (s.upsert m).get id =
      if m.valid = true ∧ m.normalize.nodeId = id then some (mergeExisting (s.get id) m.normalize)
      else s.get id := by
  rw [← m.valid_normalize]
  by_cases hvalid : m.normalize.valid = true
  · have hmembers : (s.upsert m).members = s.members.insert m.normalize.nodeId
        (mergeExisting s.members[m.normalize.nodeId]? m.normalize) := by
      rw [upsert, dif_pos hvalid]
    rw [get, hmembers, ExtTreeMap.getElem?_insert]
    simp only [hvalid, true_and, Std.compare_eq_iff_eq]
    split
    · next heq => rw [heq, get]
    · rfl
  · rw [upsert, dif_neg hvalid, if_neg fun h => hvalid h.1]

theorem get_prune (s : Store) (now : Time) (staleAfter : Int) (keepNodeId id : Bytes) :
    (s.prune now staleAfter keepNodeId).get id =
      (s.get id).filter fun m => id = keepNodeId || !m.isStale now staleAfter :=
  ExtTreeMap.getElem?_filter'

theorem mem_list {s : Store} {m : Member} : m ∈ s.list ↔ s.get m.nodeId = some m := by
  unfold list get
  rw [List.mem_map]
  constructor
  · rintro ⟨⟨id, found⟩, hmem, rfl⟩
    have hfound := ExtTreeMap.mem_toList_iff_getElem?_eq_some.1 hmem
    rwa [(s.stored hfound).nodeId]
  · intro h
    exact ⟨(m.nodeId, m), ExtTreeMap.mem_toList_iff_getElem?_eq_some.2 h, rfl⟩

end Store

end JetsonFabric
