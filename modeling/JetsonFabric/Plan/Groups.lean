import JetsonFabric.Lib.Checks
import JetsonFabric.Plan.Rebuild

/-!
# Compatible members

The builder groups the members by a key, the runtime facts of a member joined with bars, and plans on
the largest group.

* **`compatibleDeploymentMembers_agree`**: the facts of two members of a group agree exactly when
  their texts hold as many bars.
-/

namespace JetsonFabric

variable {P : Platform} {wallClock : Time} {model : ModelProfile} {engine : Bytes}
  {members : List Member} {now : Time} {staleAfter : Int} {includeBackend : Bool}

/-! ## Groups -/

variable {group : CompatibilityGroup} {requiredStages : Int}
  {found : List (Member × DeploymentCompatibility)}

/-- The members under one key, with the facts of the first of them. -/
structure IsGroup (found : List (Member × DeploymentCompatibility)) (includeBackend : Bool)
    (key : Bytes) (group : CompatibilityGroup) : Prop where
  members : group.members =
    (found.filter fun q => compatibilityKey q.2 includeBackend = key).map Prod.fst
  facts : (found.filter fun q => compatibilityKey q.2 includeBackend = key).head?.map Prod.snd =
    some group.compatibility

theorem mem_compatibilityGroups (h : group ∈ Platform.compatibilityGroups found includeBackend) :
    ∃ key, IsGroup found includeBackend key group := by
  obtain ⟨key, -, hgroup⟩ := List.mem_filterMap.mp h
  refine ⟨key, ?_⟩
  cases hfilter : found.filter fun q => compatibilityKey q.2 includeBackend = key with
  | nil =>
    rw [hfilter] at hgroup
    cases hgroup
  | cons first others =>
    rw [hfilter] at hgroup
    cases hgroup
    exact ⟨by rw [hfilter], by rw [hfilter]; rfl⟩

theorem compatibilityGroups_of_key {key : Bytes} (h : IsGroup found includeBackend key group)
    (hall : ∀ q ∈ found, compatibilityKey q.2 includeBackend = key) :
    Platform.compatibilityGroups found includeBackend = [group] := by
  have hself : found.filter (fun q => compatibilityKey q.2 includeBackend = key) = found :=
    List.filter_eq_self.2 fun q hq => by simpa using hall q hq
  obtain ⟨hmembers, hfacts⟩ := h
  rw [hself] at hmembers hfacts
  obtain ⟨first, hfirst, hcompat⟩ := Option.map_eq_some_iff.1 hfacts
  obtain ⟨others, rfl⟩ := List.head?_eq_some_iff.1 hfirst
  have hkeys : ((first :: others).map fun q => compatibilityKey q.2 includeBackend).dedup =
      [key] := by
    rw [List.map_eq_replicate_iff.2 hall, List.length_cons,
      List.replicate_dedup (Nat.succ_ne_zero _)]
  obtain ⟨groupMembers, compatibility⟩ := group
  simp only at hmembers hcompat
  simp only [Platform.compatibilityGroups, hkeys, sortStrings, List.insertionSort_cons,
    List.insertionSort_nil, List.orderedInsert_nil, List.filterMap_cons, List.filterMap_nil, hself,
    hmembers, hcompat]

/-- One step of the selection. -/
def betterGroup (requiredStages : Int) (selected : Option CompatibilityGroup)
    (group : CompatibilityGroup) : Option CompatibilityGroup :=
  if (group.members.length : Int) < requiredStages then selected
  else match selected with
    | none => some group
    | some best => if best.members.length < group.members.length then some group else some best

theorem selectGroup_eq_foldl (requiredStages : Int) (groups : List CompatibilityGroup) :
    selectGroup requiredStages groups = groups.foldl (betterGroup requiredStages) none := rfl

/-- The first of the largest groups, if it is large enough. -/
def IsLargest (requiredStages : Int) (groups : List CompatibilityGroup)
    (selected : Option CompatibilityGroup) : Prop :=
  match selected with
  | none => ∀ group ∈ groups, (group.members.length : Int) < requiredStages
  | some best => requiredStages ≤ best.members.length ∧
    ∃ before after, groups = before ++ best :: after ∧
      (∀ group ∈ before, group.members.length < best.members.length) ∧
      ∀ group ∈ after, group.members.length ≤ best.members.length

theorem isLargest_betterGroup {groups : List CompatibilityGroup}
    {selected : Option CompatibilityGroup} (h : IsLargest requiredStages groups selected)
    (group : CompatibilityGroup) :
    IsLargest requiredStages (groups ++ [group]) (betterGroup requiredStages selected group) := by
  unfold betterGroup
  cases selected with
  | none =>
    split_ifs with hsmall
    · exact List.forall_mem_append.2 ⟨h, List.forall_mem_singleton.2 hsmall⟩
    · refine ⟨not_lt.1 hsmall, groups, [], rfl, fun other hother => ?_, List.forall_mem_nil _⟩
      have := h other hother
      omega
  | some best =>
    obtain ⟨hlarge, before, after, rfl, hbefore, hafter⟩ := h
    have hkept (hle : group.members.length ≤ best.members.length) :
        IsLargest requiredStages ((before ++ best :: after) ++ [group]) (some best) :=
      ⟨hlarge, before, after ++ [group], by simp, hbefore,
        List.forall_mem_append.2 ⟨hafter, List.forall_mem_singleton.2 hle⟩⟩
    simp only
    split_ifs with hsmall hbetter
    · exact hkept (by omega)
    · refine ⟨not_lt.1 hsmall, _, [], rfl, ?_, List.forall_mem_nil _⟩
      refine List.forall_mem_append.2 ⟨fun other hother => (hbefore other hother).trans hbetter, ?_⟩
      exact List.forall_mem_cons.2 ⟨hbetter, fun other hother =>
        (hafter other hother).trans_lt hbetter⟩
    · exact hkept (not_lt.1 hbetter)

/-- **The selection.** -/
theorem selectGroup_spec (requiredStages : Int) (groups : List CompatibilityGroup) :
    IsLargest requiredStages groups (selectGroup requiredStages groups) := by
  rw [selectGroup_eq_foldl]
  induction groups using List.reverseRecOn with
  | nil => exact fun group hgroup => absurd hgroup List.not_mem_nil
  | append_singleton groups group ih =>
    rw [List.foldl_append]
    exact isLargest_betterGroup ih group

/-! ## Keys -/

variable {member : Member} {facts : DeploymentCompatibility}

/-- The separator of a key. -/
def bar : UInt8 := 124

/-- The texts that a member advertises, as they stand in the key. -/
def DeploymentCompatibility.texts (facts : DeploymentCompatibility) : List Bytes :=
  [facts.architecture, facts.runtimeRevision, facts.llamaCppRevision, facts.stageTransport,
    facts.activationEncoding, facts.kvCacheType, facts.speculativeDraft]

/-- What stands in the key after the texts. -/
def DeploymentCompatibility.numbers (facts : DeploymentCompatibility) (includeBackend : Bool) :
    List Bytes :=
  [decimal facts.speculativeMax, decimal facts.parallelSessions, decimal facts.decodeBatchSize,
    if includeBackend then facts.computeBackend else str "mixed",
    if includeBackend then boolText facts.cudaActive else str "mixed"]

/-- The runtime facts that the members of a deployment have to agree on. -/
structure Agree (includeBackend : Bool) (a b : DeploymentCompatibility) : Prop where
  architecture : a.architecture = b.architecture
  runtimeRevision : a.runtimeRevision = b.runtimeRevision
  llamaCppRevision : a.llamaCppRevision = b.llamaCppRevision
  stageTransport : a.stageTransport = b.stageTransport
  activationEncoding : a.activationEncoding = b.activationEncoding
  kvCacheType : a.kvCacheType = b.kvCacheType
  speculativeDraft : a.speculativeDraft = b.speculativeDraft
  speculativeMax : a.speculativeMax = b.speculativeMax
  parallelSessions : a.parallelSessions = b.parallelSessions
  decodeBatchSize : a.decodeBatchSize = b.decodeBatchSize
  backend : includeBackend = true →
    a.computeBackend = b.computeBackend ∧ a.cudaActive = b.cudaActive

theorem boolText_injective : Function.Injective boolText := by
  decide

/-- Members agree exactly when the parts of their keys are the same. -/
theorem agree_iff {a b : DeploymentCompatibility} :
    Agree includeBackend a b ↔
      a.texts = b.texts ∧ a.numbers includeBackend = b.numbers includeBackend := by
  simp only [DeploymentCompatibility.texts, DeploymentCompatibility.numbers, List.cons.injEq,
    and_true, decimal_injective.eq_iff]
  constructor
  · intro h
    refine ⟨⟨h.architecture, h.runtimeRevision, h.llamaCppRevision, h.stageTransport,
      h.activationEncoding, h.kvCacheType, h.speculativeDraft⟩, h.speculativeMax,
      h.parallelSessions, h.decodeBatchSize, ?_⟩
    cases includeBackend with
    | false => exact ⟨rfl, rfl⟩
    | true => exact ⟨(h.backend rfl).1, congrArg boolText (h.backend rfl).2⟩
  · rintro ⟨⟨h1, h2, h3, h4, h5, h6, h7⟩, h8, h9, h10, h11, h12⟩
    refine ⟨h1, h2, h3, h4, h5, h6, h7, h8, h9, h10, ?_⟩
    rintro rfl
    exact ⟨h11, boolText_injective h12⟩

theorem append_bar_inj {a b r s : Bytes} (hcount : a.count bar = b.count bar)
    (h : a ++ bar :: r = b ++ bar :: s) : a = b ∧ r = s := by
  rcases List.append_eq_append_iff.1 h with ⟨t, hb, ht⟩ | ⟨t, ha, ht⟩
  · cases t with
    | nil => exact ⟨by simpa using hb.symm, (List.cons.inj ht).2⟩
    | cons x t =>
      obtain ⟨rfl, -⟩ := List.cons.inj ht
      rw [hb, List.count_append, List.count_cons_self] at hcount
      omega
  · cases t with
    | nil => exact ⟨by simpa using ha, (List.cons.inj ht).2.symm⟩
    | cons x t =>
      obtain ⟨rfl, -⟩ := List.cons.inj ht
      rw [ha, List.count_append, List.count_cons_self] at hcount
      omega

theorem join_bar_inj {parts others : List Bytes}
    (hcount : parts.map (List.count bar) = others.map (List.count bar))
    (h : join [bar] parts = join [bar] others) : parts = others := by
  induction parts generalizing others with
  | nil =>
    cases others with
    | nil => rfl
    | cons b others => cases hcount
  | cons a parts ih =>
    cases others with
    | nil => cases hcount
    | cons b others =>
      obtain ⟨hfirst, hrest⟩ := List.cons.inj hcount
      cases parts with
      | nil =>
        cases others with
        | nil => simpa [join] using h
        | cons c others => cases hrest
      | cons a' parts =>
        cases others with
        | nil => cases hrest
        | cons b' others =>
          have hsplit : a ++ bar :: join [bar] (a' :: parts) =
              b ++ bar :: join [bar] (b' :: others) := by
            simpa [join, List.intercalate_cons_cons] using h
          obtain ⟨rfl, hjoined⟩ := append_bar_inj hfirst hsplit
          rw [ih hrest hjoined]

theorem compatibilityKey_eq (facts : DeploymentCompatibility) (includeBackend : Bool) :
    compatibilityKey facts includeBackend =
      join [bar] (facts.texts ++ facts.numbers includeBackend) := by
  have hbar : str "|" = [bar] := by decide
  unfold compatibilityKey
  rw [hbar]
  rfl

theorem count_bar_decimal (n : Int) : (decimal n).count bar = 0 := by
  rw [List.count_eq_zero]
  intro h
  rcases mem_decimal h with h | ⟨-, h⟩
  · exact absurd h (by decide)
  · exact absurd h (by decide)

theorem backend_of_memberDeploymentCompatibility
    (h : P.memberDeploymentCompatibility model engine member = some facts) :
    facts.computeBackend = computeBackendCpu ∨ facts.computeBackend = computeBackendCuda := by
  unfold Platform.memberDeploymentCompatibility at h
  simp only [Option.bind_eq_bind, Option.ite_none_left_eq_some, Option.bind_eq_some_iff] at h
  obtain ⟨-, speculativeMax, -, parallelSessions, -, decodeBatchSize, -, -, -, -, -, -, -, hbackend,
    -, hfacts⟩ := h
  cases hfacts
  by_contra hother
  rw [not_or] at hother
  exact hbackend hother

theorem count_bar_numbers
    (h : facts.computeBackend = computeBackendCpu ∨ facts.computeBackend = computeBackendCuda) :
    (facts.numbers includeBackend).map (List.count bar) = [0, 0, 0, 0, 0] := by
  have hbackend : facts.computeBackend.count bar = 0 := by
    rcases h with h | h <;> rw [h] <;> decide
  have hcuda : (boolText facts.cudaActive).count bar = 0 := by
    cases facts.cudaActive <;> decide
  have hmixed : (str "mixed").count bar = 0 := by decide
  simp only [DeploymentCompatibility.numbers, List.map_cons, List.map_nil, count_bar_decimal]
  cases includeBackend with
  | false => simp only [Bool.false_eq_true, if_false, hmixed]
  | true => simp only [if_true, hbackend, hcuda]

theorem agree_iff_of_key {a b : DeploymentCompatibility}
    (ha : a.computeBackend = computeBackendCpu ∨ a.computeBackend = computeBackendCuda)
    (hb : b.computeBackend = computeBackendCpu ∨ b.computeBackend = computeBackendCuda)
    (hkey : compatibilityKey a includeBackend = compatibilityKey b includeBackend) :
    Agree includeBackend a b ↔ a.texts.map (List.count bar) = b.texts.map (List.count bar) := by
  rw [agree_iff]
  constructor
  · rintro ⟨htexts, -⟩
    rw [htexts]
  · intro hcount
    rw [compatibilityKey_eq, compatibilityKey_eq] at hkey
    have hparts := join_bar_inj (by
      rw [List.map_append, List.map_append, hcount, count_bar_numbers ha, count_bar_numbers hb])
      hkey
    exact List.append_inj hparts rfl

/-! ## Compatible members -/

theorem mem_deploymentMembers :
    (member, facts) ∈ P.deploymentMembers model engine members now staleAfter ↔
      member ∈ freshMembers members now staleAfter ∧
        P.memberDeploymentCompatibility model engine member = some facts := by
  unfold Platform.deploymentMembers
  rw [List.mem_filterMap]
  constructor
  · rintro ⟨fresh, hfresh, hfacts⟩
    obtain ⟨found, hfound, heq⟩ := Option.map_eq_some_iff.1 hfacts
    cases heq
    exact ⟨hfresh, hfound⟩
  · rintro ⟨hfresh, hfacts⟩
    exact ⟨member, hfresh, by rw [hfacts]; rfl⟩

/-- The groups of the fresh members of a list. -/
def Platform.groups (P : Platform) (model : ModelProfile) (engine : Bytes) (members : List Member)
    (now : Time) (staleAfter : Int) : List CompatibilityGroup :=
  Platform.compatibilityGroups (P.deploymentMembers model engine members now staleAfter)
    model.preferredCompute.isSome

theorem compatibleDeploymentMembers_eq_ok :
    P.compatibleDeploymentMembers model engine members now staleAfter requiredStages = .ok group ↔
      selectGroup requiredStages (P.groups model engine members now staleAfter) = some group := by
  unfold Platform.compatibleDeploymentMembers Platform.groups
  simp only
  cases selectGroup requiredStages _ with
  | none => simp
  | some selected => simp

theorem isGroup_of_compatibleDeploymentMembers
    (h : P.compatibleDeploymentMembers model engine members now staleAfter requiredStages =
      .ok group) :
    ∃ key, IsGroup (P.deploymentMembers model engine members now staleAfter)
      model.preferredCompute.isSome key group := by
  have hspec := selectGroup_spec requiredStages (P.groups model engine members now staleAfter)
  rw [compatibleDeploymentMembers_eq_ok.1 h] at hspec
  obtain ⟨-, before, after, hsplit, -⟩ := hspec
  have hmem : group ∈ P.groups model engine members now staleAfter := by
    rw [hsplit]
    exact List.mem_append_right _ List.mem_cons_self
  exact mem_compatibilityGroups hmem

/-- A member of a group is fresh and has facts under the key of the group. -/
theorem IsGroup.facts_of_mem {key : Bytes}
    (h : IsGroup (P.deploymentMembers model engine members now staleAfter) includeBackend key group)
    (hmem : member ∈ group.members) :
    member ∈ freshMembers members now staleAfter ∧ ∃ facts,
      P.memberDeploymentCompatibility model engine member = some facts ∧
        compatibilityKey facts includeBackend = key := by
  rw [h.members, List.mem_map] at hmem
  obtain ⟨⟨_, facts⟩, hfound, rfl⟩ := hmem
  obtain ⟨hfound, hkey⟩ := List.mem_filter.1 hfound
  obtain ⟨hfresh, hfacts⟩ := mem_deploymentMembers.1 hfound
  exact ⟨hfresh, facts, hfacts, by simpa using hkey⟩

/-! ## The selection -/

/-- The engine that a model is deployed with. -/
def Platform.deploymentEngine (P : Platform) (model : ModelProfile) : Except Bytes Bytes := do
  if let some e := Platform.validateDeployedModel model then throw e
  let engine ← P.selectDeploymentEngine model
  if engine = engineLlamaCpp ∧ model.artifactPath = [] then
    throw (str "model " ++ quote model.id ++
      str " requires artifact_path for llama.cpp deployment")
  return engine

theorem selectMembers_eq_ok {req : DeploymentBuildRequest} :
    P.selectMembers wallClock req = .ok (engine, now, group) ↔
      P.deploymentEngine (Platform.deployedModel req.model) = .ok engine ∧
        now = planningTime wallClock req.now ∧
        P.compatibleDeploymentMembers (Platform.deployedModel req.model) engine req.members now
          req.staleAfter (requiredDeploymentStages req.policy) = .ok group := by
  have hsplit : P.selectMembers wallClock req =
      (P.deploymentEngine (Platform.deployedModel req.model) >>= fun engine =>
        P.compatibleDeploymentMembers (Platform.deployedModel req.model) engine req.members
          (planningTime wallClock req.now) req.staleAfter (requiredDeploymentStages req.policy) >>=
        fun group => .ok (engine, planningTime wallClock req.now, group)) := by
    simp only [Platform.selectMembers, Platform.deploymentEngine]
    cases Platform.validateDeployedModel (Platform.deployedModel req.model) with
    | some e => rfl
    | none =>
      simp only
      cases P.selectDeploymentEngine (Platform.deployedModel req.model) with
      | error e => rfl
      | ok engine =>
        simp only [Checks.ok_bind]
        by_cases hpath : engine = engineLlamaCpp ∧
            (Platform.deployedModel req.model).artifactPath = []
        · simp only [if_pos hpath]
          rfl
        · simp only [if_neg hpath]
          rfl
  rw [hsplit, Checks.bind_eq_ok]
  constructor
  · rintro ⟨_, hengine, h⟩
    obtain ⟨_, hgroup, h⟩ := Checks.bind_eq_ok.1 h
    cases h
    exact ⟨hengine, rfl, hgroup⟩
  · rintro ⟨hengine, rfl, hgroup⟩
    exact ⟨engine, hengine, Checks.bind_eq_ok.2 ⟨group, hgroup, rfl⟩⟩

/-- **Members that are returned together** agree exactly when they hold as many bars. -/
theorem compatibleDeploymentMembers_agree {requiredStages : Int} {group : CompatibilityGroup}
    (h : P.compatibleDeploymentMembers model engine members now staleAfter requiredStages =
      .ok group) {a b : Member} (ha : a ∈ group.members) (hb : b ∈ group.members) :
    ∃ factsA factsB, P.memberDeploymentCompatibility model engine a = some factsA ∧
      P.memberDeploymentCompatibility model engine b = some factsB ∧
      (Agree model.preferredCompute.isSome factsA factsB ↔
        factsA.texts.map (List.count bar) = factsB.texts.map (List.count bar)) := by
  obtain ⟨key, hgroup⟩ := isGroup_of_compatibleDeploymentMembers h
  obtain ⟨-, factsA, hfactsA, hkeyA⟩ := hgroup.facts_of_mem ha
  obtain ⟨-, factsB, hfactsB, hkeyB⟩ := hgroup.facts_of_mem hb
  exact ⟨factsA, factsB, hfactsA, hfactsB,
    agree_iff_of_key (backend_of_memberDeploymentCompatibility hfactsA)
      (backend_of_memberDeploymentCompatibility hfactsB) (hkeyA.trans hkeyB.symm)⟩

/-- Two nodes of the same build. -/
theorem compatibleDeploymentMembers_agree_pair :
    ∃ group a b, samplePlatform.compatibleDeploymentMembers sampleModel (str "synthetic")
        samplePair 0 0 2 =
          .ok group ∧
      (a ∈ group.members ∧ a.nodeId = str "a") ∧ (b ∈ group.members ∧ b.nodeId = str "b") ∧
      ∃ factsA factsB,
        samplePlatform.memberDeploymentCompatibility sampleModel (str "synthetic") a =
          some factsA ∧
        samplePlatform.memberDeploymentCompatibility sampleModel (str "synthetic") b =
          some factsB ∧
        (Agree false factsA factsB ↔
          factsA.texts.map (List.count bar) = factsB.texts.map (List.count bar)) := by
  have hids : ((samplePlatform.compatibleDeploymentMembers sampleModel (str "synthetic")
      samplePair 0 0 2).toOption.map
        fun group => group.members.map (·.nodeId)) = some [str "a", str "b"] := by
    decide
  obtain ⟨group, hgroup, hids⟩ := Option.map_eq_some_iff.1 hids
  have hgroup := Checks.toOption_eq_some.1 hgroup
  obtain ⟨a, ha, hida⟩ : ∃ a ∈ group.members, a.nodeId = str "a" :=
    List.mem_map.1 (hids ▸ List.mem_cons_self)
  obtain ⟨b, hb, hidb⟩ : ∃ b ∈ group.members, b.nodeId = str "b" :=
    List.mem_map.1 (hids ▸ List.mem_cons_of_mem _ List.mem_cons_self)
  exact ⟨group, a, b, hgroup, ⟨ha, hida⟩, ⟨hb, hidb⟩,
    compatibleDeploymentMembers_agree hgroup ha hb⟩

/-- **Members that disagree under one key**: a bar moves. -/
theorem compatibleDeploymentMembers_collide :
    ((samplePlatform.compatibleDeploymentMembers sampleModel (str "synthetic")
        [sampleNode (str "a") (str "x|y") [(capabilityRuntimeRevision, .text (str "z"))],
          sampleNode (str "b") (str "x") [(capabilityRuntimeRevision, .text (str "y|z"))]]
        0 0 2).toOption.map fun group => group.members.map fun member =>
          (samplePlatform.memberDeploymentCompatibility sampleModel (str "synthetic") member).map
            fun facts => (facts.architecture, facts.runtimeRevision)) =
      some [some (str "x|y", str "z"), some (str "x", str "y|z")] := by
  decide

/-! ## A group on its own -/

theorem filterMap_of_facts
    (h : ∀ q ∈ found, P.memberDeploymentCompatibility model engine q.1 = some q.2) :
    (found.map Prod.fst).filterMap (fun member =>
      (P.memberDeploymentCompatibility model engine member).map fun facts => (member, facts)) =
      found := by
  induction found with
  | nil => rfl
  | cons q found ih =>
    obtain ⟨hq, hrest⟩ := List.forall_mem_cons.1 h
    rw [List.map_cons, List.filterMap_cons, hq, Option.map_some, ih hrest]

theorem groups_of_group (h : group ∈ P.groups model engine members now staleAfter) :
    P.groups model engine group.members now staleAfter = [group] := by
  obtain ⟨key, hgroup⟩ := mem_compatibilityGroups h
  have hfresh : freshMembers group.members now staleAfter = group.members :=
    freshMembers_of_fresh fun member hmem => (hgroup.facts_of_mem hmem).1
  have hfound : P.deploymentMembers model engine group.members now staleAfter =
      (P.deploymentMembers model engine members now staleAfter).filter
        fun q => compatibilityKey q.2 model.preferredCompute.isSome = key := by
    unfold Platform.deploymentMembers
    rw [hfresh, hgroup.members]
    refine filterMap_of_facts fun q hq => ?_
    exact (mem_deploymentMembers.1 (List.mem_filter.1 hq).1).2
  have hall : ∀ q ∈ P.deploymentMembers model engine group.members now staleAfter,
      compatibilityKey q.2 model.preferredCompute.isSome = key := by
    intro q hq
    rw [hfound] at hq
    simpa using (List.mem_filter.1 hq).2
  have hself := List.filter_eq_self.2 fun q hq => decide_eq_true (hall q hq)
  refine compatibilityGroups_of_key ⟨?_, ?_⟩ hall
  · rw [hself, hfound]
    exact hgroup.members
  · rw [hself, hfound]
    exact hgroup.facts

theorem compatibleDeploymentMembers_of_group {selected : CompatibilityGroup}
    (h : group ∈ P.groups model engine members now staleAfter) :
    P.compatibleDeploymentMembers model engine group.members now staleAfter requiredStages =
      .ok selected ↔ selected = group ∧ requiredStages ≤ group.members.length := by
  rw [compatibleDeploymentMembers_eq_ok, groups_of_group h, selectGroup_eq_foldl, List.foldl_cons,
    List.foldl_nil, betterGroup]
  split_ifs with hsmall
  · simp only [false_iff, not_and]
    omega
  · simp only [Option.some.injEq, eq_comm, and_iff_left (not_lt.1 hsmall)]

/-- A build succeeds. -/
def Platform.Builds (P : Platform) (wallClock : Time) (req : DeploymentBuildRequest) : Prop :=
  ∃ result, P.buildDeploymentPlan wallClock req = .ok result

end JetsonFabric
