import JetsonFabric.Plan.Routes
import JetsonFabric.Protocol.Frame

/-!
# Routes over members without assignments

Members that hold no stage yet are spread over the physical hosts, and the layers over the members.

* **`preview_valid_of_unassigned`**: when such a route is valid.
-/

namespace JetsonFabric

/-! ## Hosts -/

variable {placements : List Placement} {count : Int}

/-- The physical hosts of placements. -/
def hosts (placements : List Placement) : Finset Bytes :=
  (placements.map (·.physicalHostId)).toFinset

theorem mem_hosts {host : Bytes} :
    host ∈ hosts placements ↔ ∃ p ∈ placements, p.physicalHostId = host := by
  simp [hosts]

theorem card_hosts_of_nodup (h : (placements.map (·.physicalHostId)).Nodup) :
    (hosts placements).card = placements.length := by
  rw [hosts, List.toFinset_card_of_nodup h, List.length_map]

theorem card_hosts_le (placements : List Placement) :
    (hosts placements).card ≤ placements.length :=
  (List.toFinset_card_le _).trans_eq (List.length_map _)

theorem hosts_mono {others : List Placement} (h : ∀ p ∈ placements, p ∈ others) :
    hosts placements ⊆ hosts others := by
  intro host hhost
  obtain ⟨p, hp, rfl⟩ := mem_hosts.1 hhost
  exact mem_hosts.2 ⟨p, h p hp, rfl⟩

/-- The selected placements are on distinct hosts. -/
theorem selectHostsFrom_spec {selected candidates : List Placement}
    (hnodup : (selected.map (·.physicalHostId)).Nodup) (hroom : (selected.length : Int) < count) :
    ((selectHostsFrom count selected candidates).map (·.physicalHostId)).Nodup ∧
      ((selectHostsFrom count selected candidates).length : Int) =
        min count (hosts (selected ++ candidates)).card := by
  induction candidates generalizing selected with
  | nil =>
    refine ⟨hnodup, ?_⟩
    rw [List.append_nil, card_hosts_of_nodup hnodup, min_eq_right hroom.le]
    rfl
  | cons candidate candidates ih =>
    have happend : selected ++ candidate :: candidates =
        (selected ++ [candidate]) ++ candidates := by simp
    simp only [selectHostsFrom]
    split_ifs with hseen hfull
    · have hsame : hosts (selected ++ candidate :: candidates) =
          hosts (selected ++ candidates) := by
        obtain ⟨p, hp, hhost⟩ := List.any_eq_true.1 hseen
        have hhost : p.physicalHostId = candidate.physicalHostId := by simpa using hhost
        refine (Finset.Subset.antisymm (fun host h => ?_) (hosts_mono ?_))
        · obtain ⟨q, hq, rfl⟩ := mem_hosts.1 h
          rw [List.mem_append, List.mem_cons] at hq
          rcases hq with hq | rfl | hq
          · exact mem_hosts.2 ⟨q, List.mem_append_left _ hq, rfl⟩
          · exact mem_hosts.2 ⟨p, List.mem_append_left _ hp, hhost⟩
          · exact mem_hosts.2 ⟨q, List.mem_append_right _ hq, rfl⟩
        · intro q hq
          rw [List.mem_append] at hq ⊢
          exact hq.imp_right (List.mem_cons_of_mem _)
      rw [hsame]
      exact ih hnodup hroom
    all_goals
      have hnew : ((selected ++ [candidate]).map (·.physicalHostId)).Nodup := by
        rw [List.map_append, List.map_singleton, List.nodup_append]
        refine ⟨hnodup, List.nodup_singleton _, ?_⟩
        rintro host hhost _ hlast rfl
        obtain ⟨p, hp, hpeq⟩ := List.mem_map.1 hhost
        rw [List.mem_singleton] at hlast
        exact hseen (List.any_eq_true.2 ⟨p, hp, by simpa using hpeq.trans hlast⟩)
    · refine ⟨hnew, ?_⟩
      have hle : (selected ++ [candidate]).length ≤
          (hosts (selected ++ candidate :: candidates)).card := by
        rw [← card_hosts_of_nodup hnew, happend]
        exact Finset.card_le_card (hosts_mono fun p hp => List.mem_append_left _ hp)
      omega
    · rw [happend]
      refine ih hnew ?_
      rw [List.length_append, List.length_singleton] at hfull ⊢
      omega

/-- **The greedy choice.** -/
theorem selectDistinctPhysicalHosts_spec (candidates : List Placement) (hcount : 0 < count) :
    ((selectDistinctPhysicalHosts candidates count).map (·.physicalHostId)).Nodup ∧
      ((selectDistinctPhysicalHosts candidates count).length : Int) =
        min count (hosts candidates).card :=
  selectHostsFrom_spec List.nodup_nil hcount

theorem topologyFrom_cons (seen : List Bytes) (host : Bytes) (hosts : List Bytes) :
    topologyFrom seen (host :: hosts) =
      if host ∈ seen then .colocated else topologyFrom (host :: seen) hosts := rfl

theorem topologyFrom_eq_colocated {seen names : List Bytes} (hseen : seen.Nodup) :
    topologyFrom seen names = .colocated ↔
      ¬ (names.Nodup ∧ ∀ name ∈ names, name ∉ seen) ∨ seen.length + names.length ≤ 1 := by
  induction names generalizing seen with
  | nil =>
    show (if seen.length ≤ 1 then Topology.colocated else .distributed) = .colocated ↔ _
    simp
  | cons name names ih =>
    rw [topologyFrom_cons]
    split_ifs with hmem
    · simp [hmem]
    · rw [ih (List.nodup_cons.2 ⟨hmem, hseen⟩), List.nodup_cons]
      simp only [List.mem_cons, List.length_cons, forall_eq_or_imp, not_or]
      refine or_congr (not_congr ⟨?_, ?_⟩) (by omega)
      · rintro ⟨hnodup, hnot⟩
        exact ⟨⟨fun h => (hnot name h).1 rfl, hnodup⟩, hmem, fun n hn => (hnot n hn).2⟩
      · rintro ⟨⟨hname, hnodup⟩, -, hnot⟩
        exact ⟨hnodup, fun n hn => ⟨fun h => hname (h ▸ hn), hnot n hn⟩⟩

theorem topologyForPlacements_eq_colocated (h : 1 < placements.length) :
    topologyForPlacements placements = .colocated ↔
      ¬ (placements.map (·.physicalHostId)).Nodup := by
  unfold topologyForPlacements
  rw [topologyFrom_eq_colocated List.nodup_nil]
  simp only [List.length_nil, List.length_map, List.not_mem_nil, not_false_eq_true, implies_true,
    and_true]
  exact or_iff_left (by omega)

theorem spreadPlacements_nodup {candidates : List Placement} (hcount : 0 < count)
    (hle : count ≤ candidates.length) :
    ((spreadPlacements candidates count).map (·.physicalHostId)).Nodup ↔
      count ≤ (hosts candidates).card := by
  obtain ⟨hnodup, hlength⟩ := selectDistinctPhysicalHosts_spec candidates hcount
  unfold spreadPlacements
  split_ifs with henough
  · simp only [hnodup, true_iff]
    omega
  · refine ⟨fun htake => ?_, fun h => absurd (by omega) henough⟩
    have hcard := card_hosts_of_nodup htake
    have hsub := Finset.card_le_card (hosts_mono fun p (hp : p ∈ candidates.take count.toNat) =>
      List.mem_of_mem_take hp)
    rw [hcard, List.length_take] at hsub
    omega

/-! ## Layers -/

variable {stop : Int}

/-- The ranges follow each other up to `stop`, and none is empty. -/
def RangesPartition (stop : Int) : Int → List LayerRange → Prop
  | start, [] => start = stop
  | start, range :: ranges =>
    range.start = start ∧ start < range.stop ∧ RangesPartition stop range.stop ranges

theorem layerRangesFrom_length (base remainder : Int) (n : Nat) (index start : Int) :
    (layerRangesFrom base remainder n index start).length = n := by
  induction n generalizing index start with
  | zero => rfl
  | succ n ih => rw [layerRangesFrom, List.length_cons, ih]

theorem layerRangesFrom_partition {base : Int} (hbase : 0 < base) (remainder : Int) (n : Nat)
    (index start : Int) :
    RangesPartition (start + n * base + max 0 (min (remainder - index) n)) start
      (layerRangesFrom base remainder n index start) := by
  induction n generalizing index start with
  | zero =>
    simp only [layerRangesFrom, RangesPartition, Nat.cast_zero, zero_mul]
    omega
  | succ n ih =>
    simp only [layerRangesFrom, RangesPartition, true_and]
    split_ifs with hextra
    · refine ⟨by omega, ?_⟩
      convert ih (index + 1) (start + (base + 1)) using 1
      push_cast
      rw [add_mul, one_mul]
      omega
    · refine ⟨by omega, ?_⟩
      convert ih (index + 1) (start + base) using 1
      push_cast
      rw [add_mul, one_mul]
      omega

theorem assignLayerRanges_partition {layerCount : Int} {n : Nat} (hn : 0 < n)
    (hle : (n : Int) ≤ layerCount) :
    (assignLayerRanges layerCount n).length = n ∧
      RangesPartition layerCount 0 (assignLayerRanges layerCount n) := by
  have hpos : (0 : Int) < n := by exact_mod_cast hn
  unfold assignLayerRanges
  rw [if_neg (by omega), Int.toNat_natCast]
  refine ⟨layerRangesFrom_length _ _ _ _ _, ?_⟩
  have hbase : 0 < layerCount / n := Int.le_ediv_of_mul_le hpos (by omega)
  have hmod := Int.emod_nonneg layerCount hpos.ne'
  have hlt := Int.emod_lt_of_pos layerCount hpos
  have hdiv := Int.mul_ediv_add_emod layerCount n
  convert layerRangesFrom_partition hbase (layerCount % n) n 0 0 using 1
  rw [zero_add, sub_zero]
  omega

/-- Counts whose true total is `stop - start`. -/
theorem configuredRangesFrom_partition {counts : List Int} {start : Int} (hstart : 0 ≤ start)
    (hstop : stop < 2 ^ 63) (hpos : ∀ count ∈ counts, 0 < count)
    (hsum : start + counts.sum = stop) :
    RangesPartition stop start (configuredRangesFrom start counts) := by
  induction counts generalizing start with
  | nil => simpa [configuredRangesFrom, RangesPartition] using hsum
  | cons count counts ih =>
    obtain ⟨hcount, hrest⟩ := List.forall_mem_cons.1 hpos
    rw [List.sum_cons] at hsum
    have hsumpos : 0 ≤ counts.sum := List.sum_nonneg fun c hc => (hrest c hc).le
    have hwrap : wrap64 (start + count) = start + count :=
      Int.bmod_eq_of_le (by omega) (by omega)
    simp only [configuredRangesFrom, RangesPartition, hwrap, true_and]
    exact ⟨by omega, ih (by omega) hrest (by omega)⟩

theorem totalLayers_of_sum {counts : List Int} {total : Int} (htotal : 0 ≤ total)
    (hstop : stop < 2 ^ 63) (hpos : ∀ count ∈ counts, 0 < count)
    (hsum : total + counts.sum = stop) : totalLayers total counts = some stop := by
  induction counts generalizing total with
  | nil => simpa [totalLayers] using hsum
  | cons count counts ih =>
    obtain ⟨hcount, hrest⟩ := List.forall_mem_cons.1 hpos
    rw [List.sum_cons] at hsum
    have hsumpos : 0 ≤ counts.sum := List.sum_nonneg fun c hc => (hrest c hc).le
    have hwrap : wrap64 (total + count) = total + count :=
      Int.bmod_eq_of_le (by omega) (by omega)
    simp only [totalLayers, if_neg (not_le.2 hcount), hwrap]
    exact ih (by omega) hrest (by omega)

/-! ## Stages -/

/-- No placement advertises an assignment. -/
def Unassigned (placements : List Placement) : Prop :=
  ∀ p ∈ placements, p.runtimeStageAssigned = false

theorem unassigned_iff :
    Unassigned placements ↔ hasRuntimeAssignments placements = false := by
  simp [Unassigned, hasRuntimeAssignments]

theorem numbered_unassigned {count : Nat} (h : Unassigned placements)
    (ranges : List LayerRange) (k : Nat) :
    NumberedStages count k
      (((placements.zip ranges).zipIdx k).map fun q => stageAt count q.2 q.1.1 q.1.2) := by
  induction placements generalizing ranges k with
  | nil => trivial
  | cons placement placements ih =>
    cases ranges with
    | nil => trivial
    | cons range ranges =>
      obtain ⟨hfirst, hrest⟩ := List.forall_mem_cons.1 h
      refine ⟨by simp [stageAt, hfirst], by simp [stageAt, hfirst], ?_⟩
      exact_mod_cast ih hrest ranges (k + 1)

theorem partitions_unassigned {count : Nat} (h : Unassigned placements) {ranges : List LayerRange}
    (hlength : ranges.length = placements.length) {start : Int} (k : Nat) :
    Partitions stop start
        (((placements.zip ranges).zipIdx k).map fun q => stageAt count q.2 q.1.1 q.1.2) ↔
      RangesPartition stop start ranges := by
  induction placements generalizing ranges start k with
  | nil =>
    obtain rfl := List.eq_nil_of_length_eq_zero hlength
    exact Iff.rfl
  | cons placement placements ih =>
    cases ranges with
    | nil => cases hlength
    | cons range ranges =>
      obtain ⟨hfirst, hrest⟩ := List.forall_mem_cons.1 h
      simp only [List.zip_cons_cons, List.zipIdx_cons, List.map_cons, Partitions, RangesPartition,
        ih hrest (Nat.succ.inj hlength)]
      simp [stageAt, hfirst]

variable {chosen : List Placement × List Int} {layerCount : Int}

theorem validateStagePlan_unassigned (h : Unassigned chosen.1)
    (hlength : (rangesFor chosen layerCount).length = chosen.1.length) (hne : chosen.1 ≠ [])
    (hle : (chosen.1.length : Int) ≤ layerCount) :
    validateStagePlan (routeStages layerCount chosen) layerCount = none ↔
      RangesPartition layerCount 0 (rangesFor chosen layerCount) := by
  have hcount : (routeStages layerCount chosen).length = chosen.1.length := by
    rw [routeStages_eq hlength]
    simp [hlength]
  have hpos := List.length_pos_of_ne_nil hne
  have hsome : routeStages layerCount chosen ≠ [] := List.ne_nil_of_length_pos (hcount ▸ hpos)
  have hnumbered : NumberedStages (routeStages layerCount chosen).length 0
      (routeStages layerCount chosen) := by
    rw [hcount, routeStages_eq hlength]
    exact_mod_cast numbered_unassigned h _ 0
  have hparts : Partitions layerCount 0 (routeStages layerCount chosen) ↔
      RangesPartition layerCount 0 (rangesFor chosen layerCount) := by
    rw [routeStages_eq hlength]
    exact partitions_unassigned h hlength 0
  rw [validateStagePlan_eq_none, hcount, ← hcount, ← hparts]
  exact ⟨fun h => h.2.2.2.2, fun h => ⟨by omega, hsome, by omega, hnumbered, h⟩⟩

/-! ## Routes -/

/-- The counts of a policy fit the layers. -/
structure Policy.Fits (policy : Policy) (layerCount : Int) : Prop where
  stageCount : 0 ≤ policy.stageCount
  stages : policyStageCount policy ≤ layerCount
  length : policy.stageLayerCounts ≠ [] →
    policyStageCount policy = policy.stageLayerCounts.length
  positive : ∀ count ∈ policy.stageLayerCounts, 0 < count
  total : policy.stageLayerCounts ≠ [] → policy.stageLayerCounts.sum = layerCount

variable {policy : Policy}

theorem Policy.Fits.validateStageLayerCounts (h : policy.Fits layerCount)
    (hbound : layerCount < 2 ^ 63) :
    validateStageLayerCounts layerCount (policyStageCount policy) policy.stageLayerCounts =
      none := by
  unfold JetsonFabric.validateStageLayerCounts
  split_ifs with hnil hlength htotal
  · rfl
  · exact absurd (h.length hnil) hlength
  · rfl
  · refine absurd (totalLayers_of_sum le_rfl hbound h.positive ?_) htotal
    rw [zero_add, h.total hnil]

theorem Policy.Fits.planError {model : ModelProfile} (h : policy.Fits model.layerCount)
    (hpos : 0 < model.layerCount) (hbound : model.layerCount < 2 ^ 63) :
    planError model policy = none := by
  have hstages := h.stages
  have hcount : 0 ≤ policyStageCount policy := by
    have := h.stageCount
    unfold policyStageCount
    split_ifs <;> omega
  have hplan : validatePlanningRequest model.layerCount (policyStageCount policy) = none := by
    unfold validatePlanningRequest
    rw [if_neg (by omega), if_neg (by omega), if_neg (by omega)]
  simp only [JetsonFabric.planError, hplan]
  exact h.validateStageLayerCounts hbound

theorem Policy.Fits.ranges (h : policy.Fits layerCount)
    (hbound : layerCount < 2 ^ 63) (hpos : 0 < placements.length)
    (hle : (placements.length : Int) ≤ layerCount)
    (hcount : policyStageCount policy = 0 ∨ policyStageCount policy = placements.length) :
    (rangesFor (placements, policy.stageLayerCounts) layerCount).length = placements.length ∧
      RangesPartition layerCount 0
        (rangesFor (placements, policy.stageLayerCounts) layerCount) := by
  unfold rangesFor
  by_cases hnil : policy.stageLayerCounts = []
  · rw [if_neg (not_not.2 hnil)]
    exact assignLayerRanges_partition hpos hle
  · have hlength := h.length hnil
    have hcounts := List.length_pos_of_ne_nil hnil
    have hvalid := h.validateStageLayerCounts hbound
    rw [hlength] at hvalid
    rw [if_pos hnil]
    simp only [assignConfiguredLayerRanges, hvalid, ne_eq, not_true_eq_false, if_false]
    refine ⟨?_, configuredRangesFrom_partition le_rfl hbound h.positive ?_⟩
    · rw [configuredRangesFrom_length]
      omega
    · rw [zero_add, h.total hnil]

theorem chosenPlacements_unassigned {candidates : List Placement} {model : ModelProfile}
    (hmode : supportsMode model executionModePipelineParallel = true)
    (hunassigned : Unassigned candidates) (hmany : 2 ≤ candidates.length)
    (htwo : 2 ≤ requestedStages policy candidates model.layerCount) :
    chosenPlacements candidates model policy =
      if (candidates.length : Int) < requestedStages policy candidates model.layerCount then
        .error .insufficientStages
      else .ok (spreadPlacements candidates (requestedStages policy candidates model.layerCount),
        policy.stageLayerCounts) := by
  have hassigned := unassigned_iff.1 hunassigned
  have hnone : advertisedPipeline candidates model policy = none :=
    advertisedPipeline_of_unassigned hassigned
  obtain ⟨first, others, rfl⟩ := List.exists_cons_of_length_pos (show 0 < candidates.length by omega)
  simp only [chosenPlacements, hnone, hassigned, Bool.false_eq_true, if_false, assignedPlacements]
  exact if_neg (by simp only [hmode, not_true_eq_false, false_or]; omega)

theorem routeStages_hosts (h : routeStages layerCount chosen ≠ []) :
    (routeStages layerCount chosen).map (·.physicalHostId) =
      chosen.1.map (·.physicalHostId) :=
  routeStages_map_placements h fun _ _ _ _ => rfl

section Spread

variable {candidates : List Placement} {n : Int}

theorem validateStagePlan_spread (hfits : policy.Fits layerCount) (hbound : layerCount < 2 ^ 63)
    (hunassigned : Unassigned candidates) (hpos : 0 < n) (hle : n ≤ candidates.length)
    (hlayers : n ≤ layerCount)
    (hcount : policyStageCount policy = 0 ∨ policyStageCount policy = n) :
    validateStagePlan
      (routeStages layerCount (spreadPlacements candidates n, policy.stageLayerCounts)) layerCount =
        none := by
  have hlength := spreadPlacements_length hle hpos.le
  have hlong : 0 < (spreadPlacements candidates n).length := by omega
  have hfew : ((spreadPlacements candidates n).length : Int) ≤ layerCount := hlength.le.trans hlayers
  obtain ⟨hranges, hparts⟩ := hfits.ranges hbound hlong hfew (hlength.symm ▸ hcount)
  exact (validateStagePlan_unassigned (fun p hp => hunassigned p (spreadPlacements_subset hp))
    hranges (List.ne_nil_of_length_pos hlong) hfew).2 hparts

theorem routeError_spread (hpos : 1 < n) (hle : n ≤ candidates.length)
    (hstages : validateStagePlan (routeStages layerCount
      (spreadPlacements candidates n, policy.stageLayerCounts)) layerCount = none) :
    routeError policy layerCount (spreadPlacements candidates n, policy.stageLayerCounts) = none ↔
      n ≤ (hosts candidates).card ∨ policy.allowColocatedStages = true := by
  have hlength := spreadPlacements_length hle (by omega)
  have hlong : 1 < (spreadPlacements candidates n).length := by omega
  rw [routeError_eq_none, topologyForPlacements_eq_colocated hlong,
    spreadPlacements_nodup (by omega) hle]
  constructor
  · rintro ⟨-, h⟩
    by_cases henough : n ≤ ((hosts candidates).card : Int)
    · exact .inl henough
    · exact .inr (h henough hlong)
  · rintro (henough | hallow)
    · exact ⟨hstages, fun hnot => absurd henough hnot⟩
    · exact ⟨hstages, fun _ _ => hallow⟩

end Spread

/-- **Without assignments** `n` stages need `n` candidates, on `n` hosts or with a host shared. -/
theorem preview_valid_of_unassigned {P : Platform} {wallClock : Time} {req : PlanRequest} {n : Int}
    (hmode : supportsMode req.model executionModePipelineParallel = true)
    (hbound : req.model.layerCount < 2 ^ 63) (hfits : req.policy.Fits req.model.layerCount)
    (hunassigned : Unassigned (P.eligible wallClock req))
    (hmany : 2 ≤ (P.eligible wallClock req).length)
    (hn : n = requestedStages req.policy (P.eligible wallClock req) req.model.layerCount)
    (htwo : 2 ≤ n) :
    ((P.preview wallClock req).valid = true ↔
      n ≤ (P.eligible wallClock req).length ∧
        (n ≤ (hosts (P.eligible wallClock req)).card ∨ req.policy.allowColocatedStages = true)) ∧
    (n ≤ (hosts (P.eligible wallClock req)).card →
      ((P.preview wallClock req).stages.length : Int) = n ∧
        ((P.preview wallClock req).stages.map (·.physicalHostId)).Nodup) := by
  have hlayers : n ≤ req.model.layerCount := by
    rw [hn, requestedStages]
    split_ifs
    · exact min_le_right _ _
    · exact hfits.stages
  have hcount : policyStageCount req.policy = 0 ∨ policyStageCount req.policy = n := by
    rw [hn, requestedStages]
    split_ifs with hzero
    · exact .inl hzero
    · exact .inr rfl
  have hplan := hfits.planError (by omega) hbound
  have hchosen := chosenPlacements_unassigned hmode hunassigned hmany (hn ▸ htwo)
  rw [← hn] at hchosen
  have hcard := card_hosts_le (P.eligible wallClock req)
  by_cases hfew : ((P.eligible wallClock req).length : Int) < n
  · rw [if_pos hfew] at hchosen
    have hplanned : P.planned wallClock req = .error .insufficientStages := by
      simp only [Platform.planned, hplan, hchosen]
    have hends := preview_ends P wallClock req
    rw [hplanned] at hends
    rw [hends.1]
    exact ⟨⟨fun h => absurd h (by decide), fun h => by omega⟩, fun h => by omega⟩
  · have hle := not_lt.1 hfew
    rw [if_neg hfew] at hchosen
    have hplanned := planned_eq_ok.2 ⟨hplan, hchosen⟩
    have hstages := validateStagePlan_spread hfits hbound hunassigned (by omega) hle hlayers hcount
    have hsome := (validateStagePlan_eq_none.1 hstages).2.1
    refine ⟨?_, fun henough => ?_⟩
    · simp only [preview_valid_iff, hplanned, Except.ok.injEq, exists_eq_left',
        routeError_spread (show 1 < n by omega) hle hstages, hle, true_and]
    · rw [preview_stages hplanned, routeStages_length hsome, routeStages_hosts hsome]
      exact ⟨spreadPlacements_length hle (by omega),
        (spreadPlacements_nodup (by omega) hle).2 henough⟩

/-- Two nodes for two stages. -/
theorem preview_valid_of_unassigned_pair :
    (samplePlatform.preview 0
      { model := sampleModel, members := samplePair, now := 0, staleAfter := 0
        policy := { stageCount := 2 } }).valid = true :=
  (preview_valid_of_unassigned (by decide +kernel) (by decide)
    ⟨by decide, by decide, by decide, by decide, by decide⟩ (by unfold Unassigned; decide +kernel)
    (by decide +kernel) rfl (by decide +kernel)).1.2 ⟨by decide +kernel, .inl (by decide +kernel)⟩

end JetsonFabric
