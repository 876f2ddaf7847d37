import JetsonFabric.Plan.Member

/-!
# Leader election

`election/election.go`: each node elects a leader from its own table. The candidates are ranked by a
stable sort, the leader is the first that is eligible, and a tracker counts the changes of leader.
-/

namespace JetsonFabric

/-! ## Candidates -/

/-- Why a member is a candidate or not. -/
inductive EligibilityReason
  | eligible
  | invalidMember
  | staleMember
  | roleNotEligible
  deriving DecidableEq

def EligibilityReason.text : EligibilityReason → Bytes
  | .eligible => str "eligible"
  | .invalidMember => str "invalid_member"
  | .staleMember => str "stale_member"
  | .roleNotEligible => str "role_not_leader_eligible"

structure Candidate where
  member : Member
  eligible : Bool
  reason : EligibilityReason
  effectiveRole : Bytes
  roleRank : Int
  leaderPreference : Int

/-- The candidate that a normalized member makes. -/
def newCandidate (member : Member) (reason : EligibilityReason) : Candidate where
  member := member
  eligible := reason = .eligible
  reason := reason
  effectiveRole := member.effectiveRole
  roleRank := roleRank member.effectiveRole
  leaderPreference := member.effectiveLeaderPreference

def eligibility (now : Time) (staleAfter : Int) (member : Member) : EligibilityReason :=
  if !member.valid then .invalidMember
  else if member.isStale now staleAfter then .staleMember
  else if roleRank member.effectiveRole ≤ 0 then .roleNotEligible
  else .eligible

def explainMember (now : Time) (staleAfter : Int) (member : Member) : Candidate :=
  newCandidate member.normalize (eligibility now staleAfter member.normalize)

def startedEarlier (left right : Time) : Bool :=
  if left = 0 then false
  else if right = 0 then true
  else left < right

def olderOrStable (left right : Member) : Bool :=
  if left.startedAt ≠ right.startedAt then startedEarlier left.startedAt right.startedAt
  else left.nodeId < right.nodeId

def betterPeer (left right : Member) : Bool :=
  let leftRank := roleRank left.effectiveRole
  let rightRank := roleRank right.effectiveRole
  if leftRank ≠ rightRank then rightRank < leftRank
  else if left.effectiveLeaderPreference ≠ right.effectiveLeaderPreference then
    right.effectiveLeaderPreference < left.effectiveLeaderPreference
  else olderOrStable left right

def betterCandidate (left right : Candidate) : Bool :=
  if left.eligible ≠ right.eligible then left.eligible
  else if left.eligible && right.eligible then betterPeer left.member right.member
  else left.member.nodeId < right.member.nodeId

/-! ## The election -/

structure ElectionResult where
  leader : Option Member
  candidates : List Candidate
  epoch : UInt64 := 0
  leaseExpiresAt : Option Time := none

def firstEligible (candidates : List Candidate) : Option Member :=
  (candidates.find? (·.eligible)).map (·.member)

section Elections

variable (S : StableSort)

def rankedCandidates (candidates : List Candidate) : List Candidate :=
  S.run betterCandidate candidates

def explain (now : Time) (members : List Member) (staleAfter : Int) : ElectionResult :=
  let candidates := rankedCandidates S (members.map (explainMember now staleAfter))
  { leader := firstEligible candidates, candidates := candidates }

def electLeader (now : Time) (members : List Member) (staleAfter : Int) : Option Member :=
  (explain S now members staleAfter).leader

variable {S} {now : Time} {members : List Member} {staleAfter : Int} {leader : Member}

/-- A leader is a valid member that is not stale and whose role may lead. -/
theorem eligible_of_leader (h : electLeader S now members staleAfter = some leader) :
    ∃ member ∈ members, leader = member.normalize ∧
      eligibility now staleAfter member.normalize = .eligible := by
  obtain ⟨candidate, hfind, rfl⟩ := Option.map_eq_some_iff.1 h
  have hmem := (S.perm _ _).mem_iff.1 (List.mem_of_find?_eq_some hfind)
  obtain ⟨member, hmember, rfl⟩ := List.mem_map.1 hmem
  have heligible : (explainMember now staleAfter member).eligible = true :=
    List.find?_some (p := fun candidate : Candidate => candidate.eligible) hfind
  exact ⟨member, hmember, rfl, of_decide_eq_true heligible⟩

theorem eligibility_eq_eligible {member : Member} :
    eligibility now staleAfter member = .eligible ↔
      member.valid = true ∧ member.isStale now staleAfter = false ∧
        0 < roleRank member.effectiveRole := by
  unfold eligibility
  split_ifs with hvalid hstale hrank <;> simp_all

end Elections

/-! ## Epochs -/

/-- Ten seconds. -/
def defaultLeaseDuration : Int := 10 * 10 ^ 9

/-- Fifteen seconds. -/
def maxLeaseDuration : Int := 15 * 10 ^ 9

def defaultLease (staleAfter : Int) : Int :=
  if staleAfter ≤ 0 then defaultLeaseDuration
  else if staleAfter / 2 ≤ 0 then defaultLeaseDuration
  else if maxLeaseDuration < staleAfter / 2 then maxLeaseDuration
  else staleAfter / 2

/-- The last election of a node. -/
structure Tracker where
  leaderId : Bytes := []
  epoch : UInt64 := 0
  leaseExpiresAt : Time := 0
  leaseDuration : Int

/-- `NewTracker`. -/
def Tracker.new (leaseDuration : Int) : Tracker where
  leaseDuration := if leaseDuration ≤ 0 then defaultLeaseDuration else leaseDuration

/-- `Tracker.Explain`: the result and the new state of the tracker. -/
def Tracker.explain (S : StableSort) (t : Tracker) (now : Time) (members : List Member)
    (staleAfter : Int) : ElectionResult × Tracker :=
  let result := JetsonFabric.explain S now members staleAfter
  match result.leader with
  | none => ({ result with epoch := t.epoch }, { t with leaderId := [], leaseExpiresAt := 0 })
  | some leader =>
    let epoch := if t.leaderId ≠ leader.nodeId then t.epoch + 1 else t.epoch
    let expiresAt := now + t.leaseDuration
    ({ result with epoch := epoch, leaseExpiresAt := some expiresAt },
      { t with leaderId := leader.nodeId, epoch := epoch, leaseExpiresAt := expiresAt })

theorem Tracker.explain_leader (S : StableSort) (t : Tracker) (now : Time) (members : List Member)
    (staleAfter : Int) :
    (t.explain S now members staleAfter).1.leader = electLeader S now members staleAfter := by
  simp only [Tracker.explain]
  split <;> rfl

end JetsonFabric
