import JetsonFabric.Discovery.Gossip

/-!
# The last sighting of a node

What becomes of the time at which a node was last seen, while announcements, answers of peers and mDNS
records of it are stored.

* **`neverDecreases_iff`**: it goes back exactly when an older sighting comes later.
-/

namespace JetsonFabric

section Sightings

variable {id : Bytes} {s : Store} {a b r : Member}

/-- The stored sighting of `id` does not go back while the records come in. -/
def NeverDecreases (id : Bytes) : Store → List Member → Prop
  | _, [] => True
  | s, r :: records =>
    (∀ a b, s.get id = some a → (s.upsert r).get id = some b → a.lastSeen ≤ b.lastSeen) ∧
      NeverDecreases id (s.upsert r) records

/-- The sighting that is stored for a record. -/
def nextSeen (seen : Option Time) (incoming : Time) : Time :=
  if incoming = 0 then seen.getD 0 else incoming

theorem lastSeen_upsert (hvalid : r.valid = true) (hid : r.normalize.nodeId = id) :
    ∃ b, (s.upsert r).get id = some b ∧
      b.lastSeen = nextSeen ((s.get id).map Member.lastSeen) r.lastSeen := by
  refine ⟨_, by rw [Store.get_upsert, if_pos ⟨hvalid, hid⟩], ?_⟩
  unfold nextSeen
  cases s.get id with
  | none =>
    split
    · next hzero => exact hzero
    · rfl
  | some a => rfl

/-- The sightings that count: those that are not zero. -/
def seenTimes (seen : Option Time) (incoming : List Time) : List Time :=
  (seen.toList ++ incoming).filter (· ≠ 0)

theorem seenTimes_cons_zero (seen : Option Time) (incoming : List Time) :
    seenTimes seen (0 :: incoming) = seenTimes (some (nextSeen seen 0)) incoming := by
  cases seen with
  | none => simp [seenTimes, nextSeen]
  | some u => by_cases hu : u = 0 <;> simp [seenTimes, nextSeen, hu]

theorem pairwise_seenTimes_cons {seen : Option Time} {t : Time} {incoming : List Time} (ht : 0 < t)
    (hseen : ∀ u ∈ seen, 0 ≤ u) :
    (seenTimes seen (t :: incoming)).Pairwise (· ≤ ·) ↔
      (∀ u ∈ seen, u ≤ t) ∧ (seenTimes (some (nextSeen seen t)) incoming).Pairwise (· ≤ ·) := by
  have hnext : nextSeen seen t = t := if_neg ht.ne'
  have htail : seenTimes (some t) incoming = t :: incoming.filter (· ≠ 0) := by
    simp [seenTimes, ht.ne']
  rw [hnext, htail]
  cases seen with
  | none => simp [seenTimes, ht.ne']
  | some u =>
    by_cases hu : u = 0
    · simp [seenTimes, hu, ht.ne', ht.le]
    · have hall : seenTimes (some u) (t :: incoming) = u :: t :: incoming.filter (· ≠ 0) := by
        simp [seenTimes, hu, ht.ne']
      rw [hall, List.pairwise_cons]
      simp only [Option.mem_def, Option.some.injEq, forall_eq']
      constructor
      · rintro ⟨hle, hrest⟩
        exact ⟨hle t List.mem_cons_self, hrest⟩
      · rintro ⟨hut, hrest⟩
        refine ⟨List.forall_mem_cons.2 ⟨hut, fun v hv => ?_⟩, hrest⟩
        exact hut.trans ((List.pairwise_cons.1 hrest).1 v hv)

theorem isStale_mono {now : Time} {staleAfter : Int} (hle : a.lastSeen ≤ b.lastSeen)
    (hzero : b.lastSeen = 0 → a.lastSeen = 0) (h : a.isStale now staleAfter = false) :
    b.isStale now staleAfter = false := by
  unfold Member.isStale at h ⊢
  by_cases hafter : staleAfter ≤ 0
  · rw [if_pos hafter]
  · rw [if_neg hafter] at h ⊢
    by_cases ha : a.lastSeen = 0
    · rw [if_pos ha] at h
      cases h
    · rw [if_neg ha, decide_eq_false_iff_not, not_lt] at h
      rw [if_neg fun hb => ha (hzero hb), decide_eq_false_iff_not, not_lt]
      refine le_trans ?_ h
      unfold Time.sub
      gcongr

theorem neverDecreases_times {records : List Member}
    (hrecords : ∀ r ∈ records, r.valid = true ∧ r.normalize.nodeId = id ∧ 0 ≤ r.lastSeen)
    (hstored : ∀ a, s.get id = some a → 0 ≤ a.lastSeen) :
    NeverDecreases id s records ↔
      (seenTimes ((s.get id).map Member.lastSeen) (records.map Member.lastSeen)).Pairwise
        (· ≤ ·) := by
  induction records generalizing s with
  | nil =>
    refine iff_of_true trivial ?_
    cases s.get id with
    | none => exact List.Pairwise.nil
    | some a => by_cases ha : a.lastSeen = 0 <;> simp [seenTimes, ha]
  | cons r records ih =>
    obtain ⟨⟨hvalid, hid, htime⟩, hrecords⟩ := List.forall_mem_cons.1 hrecords
    obtain ⟨b, hb, hseen⟩ := lastSeen_upsert (s := s) hvalid hid
    have hmap : ((s.upsert r).get id).map Member.lastSeen =
        some (nextSeen ((s.get id).map Member.lastSeen) r.lastSeen) := by
      rw [hb, Option.map_some, hseen]
    have hseen' : ∀ u ∈ (s.get id).map Member.lastSeen, 0 ≤ u := by
      intro u hu
      obtain ⟨a, ha, rfl⟩ := Option.map_eq_some_iff.1 hu
      exact hstored a ha
    have hnext : ∀ c, (s.upsert r).get id = some c → 0 ≤ c.lastSeen := by
      intro c hc
      obtain rfl : b = c := Option.some.inj (hb.symm.trans hc)
      rw [hseen, nextSeen]
      split
      · cases hget : (s.get id).map Member.lastSeen with
        | none => exact le_rfl
        | some u => exact hseen' u hget
      · exact htime
    have hstep : (∀ a c, s.get id = some a → (s.upsert r).get id = some c →
        a.lastSeen ≤ c.lastSeen) ↔ ∀ u ∈ (s.get id).map Member.lastSeen,
          u ≤ nextSeen ((s.get id).map Member.lastSeen) r.lastSeen := by
      rw [hb, ← hseen]
      cases s.get id with
      | none => simp
      | some a => simp
    rw [NeverDecreases, ih hrecords hnext, hmap, List.map_cons, hstep]
    rcases htime.eq_or_lt with hzero | hpos
    · rw [← hzero, seenTimes_cons_zero]
      refine and_iff_right fun u hu => ?_
      rw [Option.mem_def.1 hu]
      exact le_rfl
    · rw [pairwise_seenTimes_cons hpos hseen', nextSeen, if_neg hpos.ne']

theorem NeverDecreases.fresh {records : List Member}
    (hrecords : ∀ r ∈ records, r.valid = true ∧ r.normalize.nodeId = id ∧ 0 ≤ r.lastSeen)
    (h : NeverDecreases id s records) {now : Time} {staleAfter : Int} (ha : s.get id = some a)
    (hfresh : a.isStale now staleAfter = false) {b : Member}
    (hb : (records.foldl Store.upsert s).get id = some b) : b.isStale now staleAfter = false := by
  induction records generalizing s a with
  | nil =>
    obtain rfl : a = b := Option.some.inj (ha.symm.trans hb)
    exact hfresh
  | cons r records ih =>
    obtain ⟨⟨hvalid, hid, -⟩, hrecords⟩ := List.forall_mem_cons.1 hrecords
    obtain ⟨c, hc, hseen⟩ := lastSeen_upsert (s := s) hvalid hid
    refine ih hrecords h.2 hc (isStale_mono (h.1 a c ha hc) (fun hzero => ?_) hfresh) hb
    rw [hseen, ha, nextSeen] at hzero
    split at hzero
    · exact hzero
    · next hne => exact absurd hzero hne

/-- **The last sighting** does not go back exactly when the times come in order. -/
theorem neverDecreases_iff {records : List Member}
    (hrecords : ∀ r ∈ records, r.valid = true ∧ r.normalize.nodeId = id ∧ 0 ≤ r.lastSeen)
    (hstored : ∀ a, s.get id = some a → 0 ≤ a.lastSeen) :
    (NeverDecreases id s records ↔
      (seenTimes ((s.get id).map Member.lastSeen) (records.map Member.lastSeen)).Pairwise
        (· ≤ ·)) ∧
    (NeverDecreases id s records → ∀ a now staleAfter, s.get id = some a →
      a.isStale now staleAfter = false → ∀ b, (records.foldl Store.upsert s).get id = some b →
        b.isStale now staleAfter = false) :=
  ⟨neverDecreases_times hrecords hstored,
    fun h _ _ _ ha hfresh _ hb => h.fresh hrecords ha hfresh hb⟩

end Sightings

/-- A record of node `x` that was seen at a time. -/
def seenRecord (t : Time) : Member :=
  { clusterId := str "c", nodeId := str "x", apiUrl := str "http://x", lastSeen := t }

/-- Two sightings in order. -/
theorem neverDecreases_iff_ordered :
    NeverDecreases (str "x") (Store.new.upsert (seenRecord 75)) [seenRecord 80, seenRecord 100] := by
  refine (neverDecreases_iff ?_ ?_).1.2 (by decide +kernel)
  · decide +kernel
  · have hseen : ((Store.new.upsert (seenRecord 75)).get (str "x")).map Member.lastSeen = some 75 := by
      decide +kernel
    intro a ha
    rw [ha, Option.map_some, Option.some.injEq] at hseen
    exact hseen.symm ▸ by decide

/-- **A sighting that goes back**, by the answer of another node. -/
theorem relayed_sighting_goes_back :
    let other := Store.new.upsert (seenRecord 75)
    let own := Store.new.upsert (seenRecord 100)
    let answer := announceMembers ⟨none, visibleMembers other 104 30⟩
    let merged := answer.foldl (fun store m => mergeDiscoveredMember store (str "b") (str "c") 104 m) own
    (own.get (str "x")).map (fun m => (m.lastSeen, m.isStale 106 30)) = some (100, false) ∧
      (merged.get (str "x")).map (fun m => (m.lastSeen, m.isStale 106 30)) = some (75, true) := by
  decide +kernel

end JetsonFabric
