import JetsonFabric.Plan.Member

/-!
# Members as mDNS text records

The TXT record of an mDNS answer (`discovery/mdns.go`): how a node writes its member record and how
a browsing node reads it. The record of the last sighting is not on the wire; the reader takes the
time at which it reads.

* **`memberFromMdnsTxt_memberTxt`**: a node id that is not cut is read as it was written.
-/

namespace JetsonFabric

open Std

/-! ## Texts of the standard library -/

/-- `strings.Cut(s, "=")`. -/
def cutEquals (s : Bytes) : Option (Bytes × Bytes) :=
  if 61 ∈ s then some (s.takeWhile (· ≠ 61), (s.dropWhile (· ≠ 61)).tail) else none

/-- `strconv.Atoi`: zero for no number, the nearest `int` for a large one. -/
def atoi (s : Bytes) : Int :=
  let digits := if s.head? = some 43 ∨ s.head? = some 45 then s.tail else s
  let magnitude : Nat := digits.foldl (fun n b => 10 * n + (b.toNat - 48)) 0
  let value : Int := if s.head? = some 45 then -magnitude else magnitude
  if digits = [] ∨ ∃ b ∈ digits, b < 48 ∨ 57 < b then 0
  else max (-2 ^ 63) (min value (2 ^ 63 - 1))

/-- `Time.Format` and `time.Parse` with the layout `RFC3339Nano`. -/
structure TimeText where
  format : Time → Bytes
  parse : Bytes → Option Time

/-! ## Writing -/

/-- The fields of `memberTXT`, before they are joined. -/
def txtFields (T : TimeText) (member : Member) (port : Int) : List (Bytes × Bytes) :=
  [(str "cluster_id", member.clusterId),
    (str "node_id", member.nodeId),
    (str "node_name", member.nodeName),
    (str "hostname", member.hostname),
    (str "role", member.effectiveRole),
    (str "api_url", member.apiUrl),
    (str "runtime_url", member.runtimeUrl),
    (str "leader_preference", decimal member.effectiveLeaderPreference),
    (str "arch", member.arch),
    (str "os", member.os),
    (str "started_at", T.format member.startedAt)] ++
  if 0 < port then [(str "api_port", decimal port)] else []

/-- The texts of an advertisement. -/
def memberTxt (T : TimeText) (member : Member) (port : Int) : List Bytes :=
  (txtFields T member port).map fun field => field.1 ++ 61 :: field.2

/-- Texts with their lengths in front. -/
def encodeTxt (records : List Bytes) : Bytes :=
  records.flatMap fun record =>
    if record = [] then [] else (record.take 255).length.toUInt8 :: record.take 255

/-! ## Reading -/

/-- The texts that lengths stand in front of. -/
def decodeTxt : Bytes → List Bytes
  | [] => []
  | length :: data =>
    if data.length < length.toNat then []
    else data.take length.toNat :: decodeTxt (data.drop length.toNat)
termination_by data => data.length
decreasing_by simp

/-- A record with its key and value, if it has a key. -/
def txtEntry (record : Bytes) : Option (Bytes × Bytes) :=
  (cutEquals record).map fun entry => (trimSpace entry.1, trimSpace entry.2)

/-- The values by their names. -/
def txtValues (records : List Bytes) : ExtTreeMap Bytes Bytes :=
  .ofList (records.filterMap txtEntry)

/-- `memberFromMDNSTXT` at time `now`. -/
def memberFromMdnsTxt (T : TimeText) (now : Time) (records : List Bytes) (sourceIp : Bytes) :
    Option Member :=
  let value key := ((txtValues records)[str key]?).getD []
  let port := atoi (value "api_port")
  let member := Member.normalize
    { clusterId := value "cluster_id"
      nodeId := value "node_id"
      nodeName := value "node_name"
      hostname := value "hostname"
      role := value "role"
      apiUrl := if sourceIp ≠ [] ∧ 0 < port then str "http://" ++ sourceIp ++ str ":" ++ decimal port
        else trimSpace (value "api_url")
      runtimeUrl := value "runtime_url"
      leaderPreference := atoi (value "leader_preference")
      arch := value "arch"
      os := value "os"
      startedAt := (T.parse (value "started_at")).getD 0
      lastSeen := now }
  if member.valid then some member else none

/-! ## Round trip -/

theorem cutEquals_append {key : Bytes} (h : 61 ∉ key) (value : Bytes) :
    cutEquals (key ++ 61 :: value) = some (key, value) := by
  have hkey : ∀ b ∈ key, decide (b ≠ 61) = true := fun b hb => by
    simpa using fun heq : b = 61 => h (heq ▸ hb)
  rw [cutEquals, if_pos (by simp), List.takeWhile_append_of_pos hkey,
    List.dropWhile_append_of_pos hkey]
  simp

theorem txtEntry_take {key : Bytes} (h : 61 ∉ key) (htrim : trimSpace key = key)
    (hlength : key.length < 255) (value : Bytes) :
    txtEntry ((key ++ 61 :: value).take 255) =
      some (key, trimSpace (value.take (254 - key.length))) := by
  obtain ⟨n, hn⟩ : ∃ n, 255 - key.length = n + 1 := ⟨254 - key.length, by omega⟩
  have hn' : 254 - key.length = n := by omega
  rw [List.take_append, List.take_of_length_le hlength.le, hn, List.take_succ_cons, txtEntry,
    cutEquals_append h, hn', Option.map_some, htrim]

theorem decodeTxt_cons {record data : Bytes} (h : record.length ≤ 255) :
    decodeTxt (record.length.toUInt8 :: (record ++ data)) = record :: decodeTxt data := by
  have hlength : record.length.toUInt8.toNat = record.length := by
    simpa using Nat.mod_eq_of_lt (show record.length < 256 by omega)
  rw [decodeTxt, hlength, if_neg (by simp), List.take_left, List.drop_left]

theorem decodeTxt_encodeTxt {records : List Bytes} (h : ∀ record ∈ records, record ≠ []) :
    decodeTxt (encodeTxt records) = records.map (List.take 255) := by
  induction records with
  | nil => rw [encodeTxt, List.flatMap_nil, decodeTxt, List.map_nil]
  | cons record records ih =>
    obtain ⟨hrecord, hrecords⟩ := List.forall_mem_cons.1 h
    have htake : (record.take 255).length ≤ 255 := by simp
    rw [encodeTxt, List.flatMap_cons, if_neg hrecord, List.cons_append, decodeTxt_cons htake]
    exact congrArg _ (ih hrecords)

/-- The keys of the fields. -/
def txtKeys : List Bytes :=
  [str "cluster_id", str "node_id", str "node_name", str "hostname", str "role", str "api_url",
    str "runtime_url", str "leader_preference", str "arch", str "os", str "started_at",
    str "api_port"]

section RoundTrip

variable (T : TimeText) (member : Member) (port : Int)

theorem keys_txtFields : (txtFields T member port).map Prod.fst <+: txtKeys := by
  unfold txtFields
  split
  · exact ⟨[], rfl⟩
  · exact ⟨[str "api_port"], rfl⟩

theorem txtFields_keys {field : Bytes × Bytes} (h : field ∈ txtFields T member port) :
    61 ∉ field.1 ∧ trimSpace field.1 = field.1 ∧ field.1.length < 255 := by
  have hkeys : ∀ key ∈ txtKeys, 61 ∉ key ∧ trimSpace key = key ∧ key.length < 255 := by
    decide +kernel
  exact hkeys _ ((keys_txtFields T member port).subset (List.mem_map_of_mem h))

theorem txtFields_distinct :
    (txtFields T member port).Pairwise fun a b => ¬compare a.1 b.1 = .eq := by
  have hdistinct : txtKeys.Pairwise fun a b => ¬compare a b = .eq := by decide +kernel
  exact List.pairwise_map.1 (hdistinct.sublist (keys_txtFields T member port).sublist)

theorem memberTxt_ne_nil : ∀ record ∈ memberTxt T member port, record ≠ [] := by
  intro record hrecord
  obtain ⟨field, -, rfl⟩ := List.mem_map.1 hrecord
  exact List.append_ne_nil_of_right_ne_nil _ (List.cons_ne_nil _ _)

theorem txtEntries_memberTxt :
    (decodeTxt (encodeTxt (memberTxt T member port))).filterMap txtEntry =
      (txtFields T member port).map fun field =>
        (field.1, trimSpace (field.2.take (254 - field.1.length))) := by
  rw [decodeTxt_encodeTxt (memberTxt_ne_nil T member port), memberTxt, List.map_map,
    List.filterMap_map]
  refine (List.filterMap_congr fun field hfield => ?_).trans (congrFun List.filterMap_eq_map _)
  obtain ⟨hequals, htrim, hlength⟩ := txtFields_keys T member port hfield
  exact txtEntry_take hequals htrim hlength field.2

theorem txtValues_nodeId :
    (txtValues (decodeTxt (encodeTxt (memberTxt T member port))))[str "node_id"]? =
      some (trimSpace (member.nodeId.take 247)) := by
  rw [txtValues, txtEntries_memberTxt]
  refine ExtTreeMap.getElem?_ofList_of_mem Std.ReflCmp.compare_self ?_ ?_
  · rw [List.pairwise_map]
    exact txtFields_distinct T member port
  · exact List.mem_map.2 ⟨(str "node_id", member.nodeId), by simp [txtFields], rfl⟩

end RoundTrip

/-- **The node id of an advertisement** is read as it was written. -/
theorem memberFromMdnsTxt_memberTxt {T : TimeText} {member found : Member} {port : Int} {now : Time}
    {sourceIp : Bytes} (hlength : member.nodeId.length ≤ 247)
    (h : memberFromMdnsTxt T now (decodeTxt (encodeTxt (memberTxt T member port))) sourceIp =
      some found) :
    found.nodeId = trimSpace member.nodeId ∧ found.lastSeen = now := by
  simp only [memberFromMdnsTxt, Option.ite_none_right_eq_some, Option.some.injEq] at h
  obtain ⟨-, rfl⟩ := h
  refine ⟨?_, rfl⟩
  rw [Member.normalize]
  dsimp only
  rw [txtValues_nodeId, List.take_of_length_le hlength, Option.getD_some, trimSpace_idem]

end JetsonFabric
