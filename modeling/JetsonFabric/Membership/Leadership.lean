import JetsonFabric.Lib.Ranking
import JetsonFabric.Membership.Election

/-!
# Who leads, and since when

The election of a node finds the best of the eligible members, whatever the order of its table; the
epochs of its tracker tell the tenures of leaders apart.

* `IsLeader`, **`electLeader_best`**: the leader is the best eligible member;
* `Tracker.result`, **`epochs_fence_leaders`**: two calls share an epoch exactly when the leader did not
  change between them.
-/

namespace JetsonFabric

open Ranking

/-! ## The order of the candidates -/

/-- `s` is the earlier start; a node without a start time comes last. -/
def StartedBefore (s t : Time) : Prop := s ≠ 0 ∧ (t = 0 ∨ s < t)

instance : IsStrictTotalOrder Time StartedBefore where
  trichotomous s t hst hts := by
    simp only [StartedBefore, not_and, not_or, not_lt] at hst hts
    by_cases hs : s = 0
    · by_cases ht : t = 0
      · rw [hs, ht]
      · exact absurd hs (hts ht).1
    · obtain ⟨ht, hle⟩ := hst hs
      exact le_antisymm (hts ht).2 hle
  irrefl s h := by
    rcases h with ⟨hs, hs' | hlt⟩
    · exact hs hs'
    · exact lt_irrefl s hlt
  trans s t u hst htu := by
    rcases hst with ⟨hs, ht | hst⟩
    · exact absurd ht htu.1
    · refine ⟨hs, htu.2.imp_right fun htu => hst.trans htu⟩

/-- By start, then by id. -/
def Older : Member → Member → Prop :=
  ByKey StartedBefore Member.startedAt fun a b => a.nodeId < b.nodeId

/-- By preference, then by start and id. -/
def Preferred : Member → Member → Prop := ByKey (· > ·) Member.leaderPreference Older

/-- By role, then preference, then start, then id. -/
def Ahead : Member → Member → Prop :=
  ByKey (· > ·) (fun m => roleRank m.effectiveRole) Preferred

theorem isStrictWeakOrder_ahead : IsStrictWeakOrder Member Ahead := by
  have hid : IsStrictWeakOrder Member fun a b => a.nodeId < b.nodeId :=
    isStrictWeakOrder_key isStrictWeakOrder_of_total Member.nodeId
  have holder : IsStrictWeakOrder Member Older :=
    ByKey.isStrictWeakOrder fun _ => isStrictWeakOrder_key hid Subtype.val
  have hpreferred : IsStrictWeakOrder Member Preferred :=
    ByKey.isStrictWeakOrder fun _ => isStrictWeakOrder_key holder Subtype.val
  exact ByKey.isStrictWeakOrder fun _ => isStrictWeakOrder_key hpreferred Subtype.val

theorem Ahead.nodeId_of_incomp {a b : Member} (hab : ¬Ahead a b) (hba : ¬Ahead b a) :
    a.nodeId = b.nodeId := by
  obtain ⟨-, hab, hba⟩ := ByKey.eq_of_incomp hab hba
  obtain ⟨-, hab, hba⟩ := ByKey.eq_of_incomp hab hba
  obtain ⟨-, hab, hba⟩ := ByKey.eq_of_incomp hab hba
  exact Std.Trichotomous.trichotomous a.nodeId b.nodeId hab hba

theorem startedEarlier_iff {s t : Time} : startedEarlier s t = true ↔ StartedBefore s t := by
  unfold startedEarlier StartedBefore
  split_ifs with hs ht <;> simp_all

theorem olderOrStable_iff {a b : Member} : olderOrStable a b = true ↔ Older a b := by
  rw [Older, byKey_iff_ite, olderOrStable]
  split_ifs
  · exact startedEarlier_iff
  · exact decide_eq_true_iff

theorem betterPeer_iff {a b : Member} : betterPeer a b = true ↔ Ahead a b := by
  have hpreferred : (if a.leaderPreference ≠ b.leaderPreference then
      decide (b.leaderPreference < a.leaderPreference) else olderOrStable a b) = true ↔
        Preferred a b := by
    rw [Preferred, byKey_iff_ite]
    split
    · exact decide_eq_true_iff
    · exact olderOrStable_iff
  rw [Ahead, byKey_iff_ite]
  simp only [betterPeer, Member.effectiveLeaderPreference]
  split
  · exact decide_eq_true_iff
  · exact hpreferred

/-- The order among candidates that are both eligible or both not. -/
def Candidate.Before (a b : Candidate) : Prop :=
  if a.eligible && b.eligible then Ahead a.member b.member else a.member.nodeId < b.member.nodeId

theorem betterCandidate_iff {a b : Candidate} :
    betterCandidate a b = true ↔ ByKey (· > ·) Candidate.eligible Candidate.Before a b := by
  rw [byKey_iff_ite, betterCandidate, Candidate.Before]
  split_ifs with heligible hboth
  · cases ha : a.eligible <;> cases hb : b.eligible <;> simp_all
  · exact betterPeer_iff
  · exact decide_eq_true_iff

theorem isStrictWeakOrder_betterCandidate :
    IsStrictWeakOrder Candidate fun a b => betterCandidate a b = true := by
  simp only [betterCandidate_iff]
  refine ByKey.isStrictWeakOrder fun eligible => ?_
  cases eligible with
  | false =>
    have hid : IsStrictWeakOrder {c : Candidate // c.eligible = false}
        fun x y => x.1.member.nodeId < y.1.member.nodeId :=
      isStrictWeakOrder_key (isStrictWeakOrder_of_total (r := (· < ·)))
        fun x : {c : Candidate // c.eligible = false} => x.1.member.nodeId
    convert hid using 3 with x y
    simp [Candidate.Before, x.2]
  | true =>
    have hahead : IsStrictWeakOrder {c : Candidate // c.eligible = true}
        fun x y => Ahead x.1.member y.1.member :=
      isStrictWeakOrder_key isStrictWeakOrder_ahead
        fun x : {c : Candidate // c.eligible = true} => x.1.member
    convert hahead using 3 with x y
    simp [Candidate.Before, x.2, y.2]

/-! ## The leader -/

section Leader

variable {S : StableSort} {now : Time} {staleAfter : Int} {members : List Member} {leader : Member}

/-- A member that may lead: valid, fresh and of a role that leads. -/
def Eligible (now : Time) (staleAfter : Int) (m : Member) : Prop :=
  m.valid = true ∧ m.isStale now staleAfter = false ∧ 0 < roleRank m.effectiveRole

/-- The best of the members that may lead. -/
structure IsLeader (now : Time) (staleAfter : Int) (members : List Member) (leader : Member) :
    Prop where
  member : leader ∈ members.map Member.normalize
  eligible : Eligible now staleAfter leader
  best : ∀ m ∈ members.map Member.normalize, Eligible now staleAfter m → m ≠ leader →
    Ahead leader m

theorem eligible_normalize {m : Member} :
    Eligible now staleAfter m.normalize ↔ Eligible now staleAfter m := by
  have hrole : m.normalize.effectiveRole = m.effectiveRole := by
    have hsame : normalizeRole m.normalize.role = normalizeRole m.role := normalizeRole_idem m.role
    rw [Member.effectiveRole, hsame]
    rfl
  unfold Eligible
  rw [Member.valid_normalize, hrole]
  rfl

theorem eligible_explainMember {m : Member} :
    (explainMember now staleAfter m).eligible = true ↔ Eligible now staleAfter m.normalize := by
  simp only [explainMember, newCandidate, decide_eq_true_iff, eligibility_eq_eligible, Eligible]

theorem mem_rankedCandidates {c : Candidate} :
    c ∈ rankedCandidates S (members.map (explainMember now staleAfter)) ↔
      ∃ m ∈ members, explainMember now staleAfter m = c := by
  rw [rankedCandidates, (S.perm _ _).mem_iff, List.mem_map]

theorem electLeader_eq_none :
    electLeader S now members staleAfter = none ↔ ∀ m ∈ members, ¬Eligible now staleAfter m := by
  simp only [electLeader, explain, firstEligible, Option.map_eq_none_iff, List.find?_eq_none,
    mem_rankedCandidates, forall_exists_index, and_imp, forall_apply_eq_imp_iff₂,
    eligible_explainMember, eligible_normalize]

/-- What the scan of the ranked candidates finds. -/
theorem electLeader_eq_some (h : electLeader S now members staleAfter = some leader) :
    leader ∈ members.map Member.normalize ∧ Eligible now staleAfter leader ∧
      ∀ m ∈ members.map Member.normalize, Eligible now staleAfter m → m ≠ leader →
        ¬Ahead m leader := by
  obtain ⟨candidate, hfind, rfl⟩ := Option.map_eq_some_iff.1 h
  obtain ⟨member, hmember, rfl⟩ := mem_rankedCandidates.1 (List.mem_of_find?_eq_some hfind)
  have heligible : (explainMember now staleAfter member).eligible = true :=
    List.find?_some (p := fun c : Candidate => c.eligible) hfind
  refine ⟨List.mem_map_of_mem hmember, eligible_explainMember.1 heligible, fun m hm hmel hne => ?_⟩
  obtain ⟨other, hother, rfl⟩ := List.mem_map.1 hm
  have hmel' := eligible_explainMember.2 hmel
  have hsorted := S.sorted betterCandidate (members.map (explainMember now staleAfter))
    (isStrictWeakOrder_key isStrictWeakOrder_betterCandidate Subtype.val)
  rcases find?_of_pairwise hsorted hfind (mem_rankedCandidates.2 ⟨other, hother, rfl⟩) hmel' with
    heq | hbetter
  · exact absurd (congrArg Candidate.member heq) hne
  · rw [betterCandidate, if_neg (by rw [hmel', heligible]; exact not_not.2 rfl),
      if_pos (by rw [hmel', heligible]; rfl)] at hbetter
    exact fun hahead => Bool.false_ne_true (hbetter.symm.trans (betterPeer_iff.2 hahead))

theorem isLeader_of_electLeader (hdistinct : (members.map fun m => m.normalize.nodeId).Nodup)
    (h : electLeader S now members staleAfter = some leader) :
    IsLeader now staleAfter members leader := by
  obtain ⟨hmember, heligible, hbest⟩ := electLeader_eq_some h
  refine ⟨hmember, heligible, fun m hm hmel hne => ?_⟩
  by_contra hahead
  -- neither is ahead of the other, so they have one id
  have hid := Ahead.nodeId_of_incomp (hbest m hm hmel hne) hahead
  have hnodup : ((members.map Member.normalize).map Member.nodeId).Nodup := by
    rwa [List.map_map]
  exact hne (List.inj_on_of_nodup_map hnodup hm hmember hid)

theorem electLeader_of_isLeader (h : IsLeader now staleAfter members leader) :
    electLeader S now members staleAfter = some leader := by
  obtain ⟨member, hmember, rfl⟩ := List.mem_map.1 h.member
  cases helected : electLeader S now members staleAfter with
  | none => exact absurd (eligible_normalize.1 h.eligible) (electLeader_eq_none.1 helected _ hmember)
  | some elected =>
    obtain ⟨helmem, heligible, hbest⟩ := electLeader_eq_some helected
    by_contra hne
    have hne : elected ≠ member.normalize := fun heq => hne (congrArg some heq)
    exact hbest _ h.member h.eligible hne.symm (h.best elected helmem heligible hne)

theorem electLeader_congr {others : List Member}
    (hdistinct : (members.map fun m => m.normalize.nodeId).Nodup)
    (hnone : (∀ m ∈ members, ¬Eligible now staleAfter m) → ∀ m ∈ others, ¬Eligible now staleAfter m)
    (hsome : ∀ leader, electLeader S now members staleAfter = some leader →
      IsLeader now staleAfter members leader → IsLeader now staleAfter others leader) :
    electLeader S now others staleAfter = electLeader S now members staleAfter := by
  cases helected : electLeader S now members staleAfter with
  | none => exact electLeader_eq_none.2 (hnone (electLeader_eq_none.1 helected))
  | some leader =>
    exact electLeader_of_isLeader (hsome leader helected (isLeader_of_electLeader hdistinct helected))

/-- **The leader is the best eligible member**, in whatever order they come. -/
theorem electLeader_best (S : StableSort) (now : Time) (staleAfter : Int) (members : List Member)
    (hdistinct : (members.map fun m => m.normalize.nodeId).Nodup) :
    ((electLeader S now members staleAfter).isSome = true ↔
      ∃ m ∈ members, Eligible now staleAfter m) ∧
    (∀ leader, electLeader S now members staleAfter = some leader ↔
      IsLeader now staleAfter members leader) ∧
    (∀ others, members.Perm others →
      electLeader S now others staleAfter = electLeader S now members staleAfter) ∧
    ∀ new others, others.Perm (new :: members) →
      (¬Eligible now staleAfter new ∨ ∃ leader,
        electLeader S now members staleAfter = some leader ∧ Ahead leader new.normalize) →
      electLeader S now others staleAfter = electLeader S now members staleAfter := by
  refine ⟨?_, fun leader => ⟨isLeader_of_electLeader hdistinct, electLeader_of_isLeader⟩, ?_, ?_⟩
  · rw [Option.isSome_iff_ne_none, Ne, electLeader_eq_none]
    push Not
    rfl
  · intro others hperm
    refine electLeader_congr hdistinct (fun h m hm => h m (hperm.mem_iff.2 hm)) fun leader _ h => ?_
    have hmem : ∀ m, m ∈ others.map Member.normalize ↔ m ∈ members.map Member.normalize :=
      fun m => (hperm.map Member.normalize).mem_iff.symm
    exact ⟨(hmem _).2 h.member, h.eligible, fun m hm => h.best m ((hmem m).1 hm)⟩
  · intro new others hperm hnew
    have hmem : ∀ m, m ∈ others.map Member.normalize ↔
        m = new.normalize ∨ m ∈ members.map Member.normalize := fun m => by
      rw [(hperm.map Member.normalize).mem_iff, List.map_cons, List.mem_cons]
    refine electLeader_congr hdistinct (fun h m hm => ?_) fun leader helected h => ?_
    · rcases List.mem_cons.1 (hperm.mem_iff.1 hm) with rfl | hm
      · rcases hnew with hnew | ⟨leader, hleader, -⟩
        · exact hnew
        · rw [electLeader_eq_none.2 h] at hleader
          cases hleader
      · exact h m hm
    · refine ⟨(hmem _).2 (.inr h.member), h.eligible, fun m hm hmel hne => ?_⟩
      rcases (hmem m).1 hm with rfl | hm
      · rcases hnew with hnew | ⟨leader', hleader, hahead⟩
        · exact absurd (eligible_normalize.1 hmel) hnew
        · rw [helected] at hleader
          cases hleader
          exact hahead
      · exact h.best m hm hmel hne

end Leader

/-- A worker and two that may lead. -/
def sampleRivals : List Member :=
  [{ clusterId := str "c", nodeId := str "a", role := nodeRoleWorker, apiUrl := str "http://a" },
    { clusterId := str "c", nodeId := str "b", role := nodeRoleJetson, apiUrl := str "http://b" },
    { clusterId := str "c", nodeId := str "d", role := nodeRoleCoordinator
      apiUrl := str "http://d" }]

/-- One of them is elected. -/
theorem electLeader_best_rivals :
    ∃ leader, electLeader insertionStable 1 sampleRivals 0 = some leader ∧
      IsLeader 1 0 sampleRivals leader := by
  obtain ⟨leader, hleader⟩ := Option.isSome_iff_exists.1
    (show (electLeader insertionStable 1 sampleRivals 0).isSome = true by decide +kernel)
  have hbest := electLeader_best insertionStable 1 0 sampleRivals (by decide +kernel)
  exact ⟨leader, hleader, (hbest.2.1 leader).1 hleader⟩

/-! ## Tenures -/

section Tenures

variable {α : Type} {ids : ℕ → Option α} {epoch : ℕ → ℕ} {i j n : ℕ}

/-- One more for each holder that was not there before. -/
def CountsTenures [DecidableEq α] (ids : ℕ → Option α) (epoch : ℕ → ℕ) (n : ℕ) : Prop :=
  ∀ k, k + 1 < n →
    epoch (k + 1) = epoch k + if ids (k + 1) ≠ none ∧ ids (k + 1) ≠ ids k then 1 else 0

variable [DecidableEq α]

theorem CountsTenures.mono (h : CountsTenures ids epoch n) (hij : i ≤ j) (hj : j < n) :
    epoch i ≤ epoch j := by
  induction j, hij using Nat.le_induction with
  | base => exact le_rfl
  | succ j hij ih =>
    rw [h j hj]
    exact (ih (Nat.lt_of_succ_lt hj)).trans (Nat.le_add_right _ _)

/-- **Two holders have one number exactly when they are one tenure.** -/
theorem CountsTenures.eq_iff (h : CountsTenures ids epoch n) (hij : i ≤ j) (hj : j < n)
    (hi' : ids i ≠ none) (hj' : ids j ≠ none) :
    epoch i = epoch j ↔ ∀ k, i ≤ k → k ≤ j → ids k = ids i := by
  induction j, hij using Nat.le_induction with
  | base =>
    refine iff_of_true rfl fun k hik hki => ?_
    rw [le_antisymm hki hik]
  | succ j hij ih =>
    have hlt := Nat.lt_of_succ_lt hj
    have hle := h.mono hij hlt
    have hstep := h j hj
    constructor
    · intro heq k hik hkj
      -- no tenure began at the last call, so the one before it has the same holder
      have hsame : ids (j + 1) = ids j := by
        by_contra hne
        rw [if_pos ⟨hj', hne⟩] at hstep
        omega
      rw [if_neg fun hne => hne.2 hsame] at hstep
      have hall := (ih hlt (hsame ▸ hj')).1 (heq.trans hstep)
      rcases Nat.le_succ_iff.1 hkj with hkj | rfl
      · exact hall k hik hkj
      · exact hsame.trans (hall j hij le_rfl)
    · intro hall
      have hprev := hall j hij (Nat.le_succ j)
      have hlast := hall (j + 1) (hij.trans (Nat.le_succ j)) le_rfl
      rw [if_neg fun hne => hne.2 (hlast.trans hprev.symm)] at hstep
      rw [hstep]
      exact (ih hlt (hprev ▸ hi')).2 fun k hik hkj => hall k hik (hkj.trans (Nat.le_succ j))

end Tenures

/-! ## Epochs of a tracker -/

/-- The arguments of one call of `Tracker.Explain`. -/
structure ElectionCall where
  now : Time
  members : List Member
  staleAfter : Int

section Epochs

variable (S : StableSort)

def ElectionCall.run (call : ElectionCall) (t : Tracker) : ElectionResult × Tracker :=
  t.explain S call.now call.members call.staleAfter

/-- The tracker before call `k`. -/
def Tracker.before (t : Tracker) (calls : ℕ → ElectionCall) : ℕ → Tracker
  | 0 => t
  | k + 1 => ((calls k).run S (t.before calls k)).2

/-- The result of call `k`. -/
def Tracker.result (t : Tracker) (calls : ℕ → ElectionCall) (k : ℕ) : ElectionResult :=
  ((calls k).run S (t.before S calls k)).1

/-- The node id of the leader of a result. -/
def ElectionResult.leaderId (result : ElectionResult) : Option Bytes :=
  result.leader.map Member.nodeId

variable {S} {t : Tracker} {call : ElectionCall} {calls : ℕ → ElectionCall}

theorem leaderId_ne_nil {id : Bytes} (h : (call.run S t).1.leaderId = some id) : id ≠ [] := by
  obtain ⟨leader, hleader, rfl⟩ := Option.map_eq_some_iff.1 h
  rw [ElectionCall.run, Tracker.explain_leader] at hleader
  obtain ⟨hmember, heligible, -⟩ := electLeader_eq_some hleader
  obtain ⟨member, -, rfl⟩ := List.mem_map.1 hmember
  have hvalid := heligible.1
  simp only [Member.valid, Bool.and_eq_true, decide_eq_true_iff] at hvalid
  intro hnil
  rw [hnil] at hvalid
  exact hvalid.1.2 rfl

variable (S call t) in
theorem run_tracker :
    (call.run S t).2.epoch = (call.run S t).1.epoch ∧
      (call.run S t).2.leaderId = (call.run S t).1.leaderId.getD [] ∧
      (call.run S t).1.epoch = match (call.run S t).1.leaderId with
        | none => t.epoch
        | some id => if t.leaderId ≠ id then t.epoch + 1 else t.epoch := by
  unfold ElectionCall.run ElectionResult.leaderId
  simp only [Tracker.explain]
  split
  · next hnone => simp [hnone]
  · next leader hsome => simp [hsome]

variable (S t calls) in
theorem before_succ (k : ℕ) :
    (t.before S calls (k + 1)).epoch = (t.result S calls k).epoch ∧
      (t.before S calls (k + 1)).leaderId = (t.result S calls k).leaderId.getD [] ∧
      (t.result S calls k).epoch = match (t.result S calls k).leaderId with
        | none => (t.before S calls k).epoch
        | some id => if (t.before S calls k).leaderId ≠ id then (t.before S calls k).epoch + 1
          else (t.before S calls k).epoch :=
  run_tracker S (t.before S calls k) (calls k)

theorem run_epoch_le : (call.run S t).2.epoch.toNat ≤ t.epoch.toNat + 1 := by
  obtain ⟨hstate, -, hepoch⟩ := run_tracker S t call
  rw [hstate, hepoch]
  split
  · exact Nat.le_succ _
  · split
    · rw [UInt64.toNat_add]
      exact Nat.mod_le _ _
    · exact Nat.le_succ _

variable (S calls) in
theorem before_epoch_le (h : t.epoch = 0) (k : ℕ) : (t.before S calls k).epoch.toNat ≤ k := by
  induction k with
  | zero => simp [Tracker.before, h]
  | succ k ih => exact run_epoch_le.trans (Nat.succ_le_succ ih)

theorem toNat_epoch {prev next : Option Bytes} {epoch : UInt64} (hepoch : epoch.toNat + 1 < 2 ^ 64)
    (hne : ∀ id, next = some id → id ≠ []) :
    (match next with
      | none => epoch
      | some id => if prev.getD [] ≠ id then epoch + 1 else epoch).toNat =
      epoch.toNat + if next ≠ none ∧ next ≠ prev then 1 else 0 := by
  have hadd : (epoch + 1).toNat = epoch.toNat + 1 := by
    rw [UInt64.toNat_add]
    exact Nat.mod_eq_of_lt hepoch
  cases next with
  | none => simp
  | some id =>
    have hid := hne id rfl
    cases prev with
    | none => simp [hid.symm, hadd]
    | some other =>
      by_cases hsame : other = id
      · simp [hsame]
      · simp [hsame, hadd, Ne.symm hsame]

variable (S calls) in
theorem countsTenures_tracker (h : t.epoch = 0) :
    CountsTenures (fun k => (t.result S calls k).leaderId)
      (fun k => (t.result S calls k).epoch.toNat) (2 ^ 64 - 1) := by
  intro k hk
  obtain ⟨hstate, hid, -⟩ := before_succ S t calls k
  obtain ⟨-, -, hepoch⟩ := before_succ S t calls (k + 1)
  have hle := before_epoch_le S calls h (k + 1)
  have hvalid : ∀ id, (t.result S calls (k + 1)).leaderId = some id → id ≠ [] :=
    fun id => leaderId_ne_nil
  rw [hid, hstate] at hepoch
  rw [hstate] at hle
  dsimp only
  rw [hepoch]
  exact toNat_epoch (by omega) hvalid

/-- **Epochs fence leaders**: two calls share one exactly when the same node leads all along. -/
theorem epochs_fence_leaders (S : StableSort) (leaseDuration : Int) (calls : ℕ → ElectionCall)
    {i j : ℕ} (hij : i ≤ j) (hj : j < 2 ^ 64 - 1) :
    ((Tracker.new leaseDuration).result S calls i).epoch ≤
        ((Tracker.new leaseDuration).result S calls j).epoch ∧
      (((Tracker.new leaseDuration).result S calls i).leader ≠ none →
        ((Tracker.new leaseDuration).result S calls j).leader ≠ none →
        (((Tracker.new leaseDuration).result S calls i).epoch =
            ((Tracker.new leaseDuration).result S calls j).epoch ↔
          ∀ k, i ≤ k → k ≤ j → ((Tracker.new leaseDuration).result S calls k).leaderId =
            ((Tracker.new leaseDuration).result S calls i).leaderId)) := by
  have hcounts := countsTenures_tracker S calls
    (show (Tracker.new leaseDuration).epoch = 0 from rfl)
  refine ⟨hcounts.mono hij hj, fun hi' hj' => ?_⟩
  rw [← UInt64.toNat_inj]
  exact hcounts.eq_iff hij hj (fun h => hi' (Option.map_eq_none_iff.1 h))
    (fun h => hj' (Option.map_eq_none_iff.1 h))

theorem epoch_of_changes (ht : t.epoch = 0 ∧ t.leaderId = [])
    (h : ∀ k, ∃ id, (t.result S calls k).leaderId = some id ∧
      (t.result S calls (k + 1)).leaderId ≠ some id) (k : ℕ) :
    (t.result S calls k).epoch = UInt64.ofNat (k + 1) := by
  have hbefore : ∀ k, (t.before S calls k).epoch = UInt64.ofNat k ∧
      (t.result S calls k).leaderId ≠ some (t.before S calls k).leaderId := by
    intro k
    induction k with
    | zero => exact ⟨ht.1, fun hnil => leaderId_ne_nil hnil ht.2⟩
    | succ k ih =>
      obtain ⟨hstate, hid, hepoch⟩ := before_succ S t calls k
      obtain ⟨id, hleader, hnext⟩ := h k
      have hne : (t.before S calls k).leaderId ≠ id := fun heq => ih.2 (heq ▸ hleader)
      rw [hleader] at hid hepoch
      constructor
      · simp only [hstate, hepoch, if_pos hne, ih.1]
        exact (UInt64.ofNat_add k 1).symm
      · rw [hid]
        exact hnext
  rw [← (before_succ S t calls k).1]
  exact (hbefore (k + 1)).1

end Epochs

/-- Two leaders that take turns. -/
def alternatingCall (k : ℕ) : ElectionCall where
  now := 1
  members :=
    [{ clusterId := str "c", nodeId := if k % 2 = 0 then str "a" else str "b"
       role := nodeRoleCoordinator, apiUrl := str "http://a" }]
  staleAfter := 0

theorem leaderId_alternating (t : Tracker) (k : ℕ) :
    (t.result insertionStable alternatingCall k).leaderId =
      some (if k % 2 = 0 then str "a" else str "b") := by
  have helect : ∀ id ∈ [str "a", str "b"], (electLeader insertionStable 1
      [{ clusterId := str "c", nodeId := id, role := nodeRoleCoordinator
         apiUrl := str "http://a" }] 0).map Member.nodeId = some id := by
    decide +kernel
  rw [Tracker.result, ElectionResult.leaderId, ElectionCall.run, Tracker.explain_leader]
  refine helect _ ?_
  split <;> simp

theorem leader_alternating (t : Tracker) (k : ℕ) :
    (t.result insertionStable alternatingCall k).leader ≠ none := by
  intro hnone
  have hid := leaderId_alternating t k
  rw [ElectionResult.leaderId, hnone] at hid
  cases hid

/-- The first and the third call. -/
theorem epochs_fence_leaders_alternating :
    ((Tracker.new 0).result insertionStable alternatingCall 0).epoch ≤
        ((Tracker.new 0).result insertionStable alternatingCall 2).epoch ∧
      (((Tracker.new 0).result insertionStable alternatingCall 0).epoch =
          ((Tracker.new 0).result insertionStable alternatingCall 2).epoch ↔
        ∀ k, 0 ≤ k → k ≤ 2 → ((Tracker.new 0).result insertionStable alternatingCall k).leaderId =
          ((Tracker.new 0).result insertionStable alternatingCall 0).leaderId) := by
  obtain ⟨hle, hiff⟩ :=
    epochs_fence_leaders insertionStable 0 alternatingCall (Nat.zero_le 2) (by decide)
  exact ⟨hle, hiff (leader_alternating _ 0) (leader_alternating _ 2)⟩

/-- **An epoch comes again** after `2 ^ 64` changes of the leader. -/
theorem epochs_wrap :
    ∃ k, ((Tracker.new 0).result insertionStable alternatingCall (k + 1)).epoch <
      ((Tracker.new 0).result insertionStable alternatingCall k).epoch := by
  have hchanges := epoch_of_changes (S := insertionStable) (t := Tracker.new 0) ⟨rfl, rfl⟩
    fun k => ⟨_, leaderId_alternating (Tracker.new 0) k, ?_⟩
  · refine ⟨2 ^ 64 - 2, ?_⟩
    rw [hchanges, hchanges]
    decide
  · rw [leaderId_alternating]
    have hne : str "a" ≠ str "b" := by decide +kernel
    split_ifs with h1 h2
    · omega
    · simpa using hne
    · simpa using hne.symm
    · omega

end JetsonFabric
