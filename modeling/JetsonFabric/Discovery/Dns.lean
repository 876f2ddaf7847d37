import JetsonFabric.Discovery.Mdns
import JetsonFabric.Lib.Framing

/-!
# DNS packets

The reader of mDNS packets (`discovery/mdns.go`): names with compression pointers, questions, records
and the texts of the TXT records. Indexing and slicing a packet give `none` outside of it, where the
source would panic.

* **`packets_survive`**: no packet leads outside of itself or into a loop.
-/

namespace JetsonFabric

open Framing

/-! ## Access -/

def dnsTypePtr : Nat := 12

def dnsTypeTxt : Nat := 16

/-- `data[start:stop]`. -/
def byteSlice (data : Bytes) (start stop : Nat) : Option Bytes :=
  if start ≤ stop ∧ stop ≤ data.length then some ((data.drop start).take (stop - start)) else none

/-- `binary.BigEndian.Uint16(data[start : start+2])`. -/
def uint16At (data : Bytes) (start : Nat) : Option Nat :=
  (byteSlice data start (start + 2)).map ofBigEndian

/-- `strings.TrimSuffix(s, ".")`. -/
def trimDot (s : Bytes) : Bytes := if s.getLast? = some 46 then s.dropLast else s

/-- A name with its last dot. -/
def ensureTrailingDot (value : Bytes) : Bytes :=
  let value := trimSpace value
  if value = [] then [46] else if value.getLast? = some 46 then value else value ++ [46]

/-! ## Names -/

/-- The variables of the loop of `readName`. -/
structure NameState where
  labels : List Bytes := []
  seen : Nat := 0
  next : Nat
  jumped : Bool := false
  offset : Nat
  deriving DecidableEq

inductive NameStep
  | again (state : NameState)
  | stop (result : Option (Bytes × Nat))
  deriving DecidableEq

/-- One round of the loop. -/
def readNameStep (packet : Bytes) (s : NameState) : Option NameStep :=
  if s.offset ≥ packet.length ∨ s.seen > packet.length then some (.stop none)
  else do
    let seen := s.seen + 1
    let length := (← packet[s.offset]?).toNat
    if length &&& 0xC0 = 0xC0 then
      if s.offset + 1 ≥ packet.length then some (.stop none)
      else do
        let pointer := (← uint16At packet s.offset) &&& 0x3FFF
        let next := if s.jumped then s.next else s.offset + 2
        some (.again { s with seen, next, offset := pointer, jumped := true })
    else if length &&& 0xC0 ≠ 0 then some (.stop none)
    else if length = 0 then
      let next := if s.jumped then s.next else s.offset + 1
      some (.stop (some (ensureTrailingDot (join [46] s.labels), next)))
    else
      let offset := s.offset + 1
      if offset + length > packet.length then some (.stop none)
      else do
        let label ← byteSlice packet offset (offset + length)
        some (.again { s with seen, labels := s.labels ++ [label], offset := offset + length })

/-- So many rounds at most: the last state and the result. -/
def readNameLoop (packet : Bytes) : Nat → NameState → Option (NameState × Option (Bytes × Nat))
  | 0, _ => none
  | rounds + 1, s =>
    match readNameStep packet s with
    | none => none
    | some (.stop result) => some (s, result)
    | some (.again s) => readNameLoop packet rounds s

/-- The name at an offset, with the offset after it. -/
def readName (packet : Bytes) (offset : Nat) : Option (Option (Bytes × Nat)) :=
  (readNameLoop packet (packet.length + 2) { next := offset, offset }).map Prod.snd

/-! ## Questions and records -/

/-- Equal up to case and the last dot. -/
def namesEqual (P : Platform) (left right : Bytes) : Bool := P.equalFold (trimDot left) (trimDot right)

/-- The questions from an offset on. -/
def asksForService (P : Platform) (packet serviceName : Bytes) : Nat → Nat → Option Bool
  | 0, _ => some false
  | questionCount + 1, offset => do
    match ← readName packet offset with
    | none => some false
    | some (name, next) =>
      if next + 4 > packet.length then some false
      else do
        let recordType ← uint16At packet next
        if recordType = dnsTypePtr ∧ namesEqual P name serviceName then some true
        else asksForService P packet serviceName questionCount (next + 4)

/-- Whether a question is for the service. -/
def packetAsksForService (P : Platform) (packet serviceName : Bytes) : Option Bool :=
  if packet.length < 12 then some false
  else do
    let flags ← uint16At packet 2
    if flags &&& 0x8000 ≠ 0 then some false
    else do
      let questionCount ← uint16At packet 4
      asksForService P packet serviceName questionCount 12

/-- The offset after the questions, zero if they do not end in the packet. -/
def skipDnsQuestions (packet : Bytes) : Nat → Nat → Option Nat
  | 0, offset => some offset
  | questionCount + 1, offset => do
    match ← readName packet offset with
    | none => some 0
    | some (_, next) =>
      if next + 4 > packet.length then some 0
      else skipDnsQuestions packet questionCount (next + 4)

structure DnsRecord where
  recordType : Nat
  data : Bytes
  next : Nat
  deriving DecidableEq

/-- The record at an offset. -/
def readDnsRecord (packet : Bytes) (offset : Nat) : Option (Option DnsRecord) := do
  match ← readName packet offset with
  | none => some none
  | some (_, next) =>
    if next + 10 > packet.length then some none
    else do
      let recordType ← uint16At packet next
      let dataLength ← uint16At packet (next + 8)
      let dataStart := next + 10
      let dataEnd := dataStart + dataLength
      if dataEnd > packet.length then some none
      else do
        let data ← byteSlice packet dataStart dataEnd
        some (some { recordType, data, next := dataEnd })

/-- `decodeTXT` with its accesses. -/
def decodeTxtAt (data : Bytes) (offset : Nat) : Option (List Bytes) :=
  if offset < data.length then do
    let length := (← data[offset]?).toNat
    if offset + 1 + length > data.length then some []
    else do
      let record ← byteSlice data (offset + 1) (offset + 1 + length)
      let records ← decodeTxtAt data (offset + 1 + length)
      some (record :: records)
  else some []
termination_by data.length - offset

/-- The texts of so many records. -/
def collectTxtRecords (packet : Bytes) : Nat → Nat → Option (List (List Bytes))
  | 0, _ => some []
  | answerCount + 1, offset => do
    match ← readDnsRecord packet offset with
    | none => some []
    | some parsed =>
      let records ← collectTxtRecords packet answerCount parsed.next
      if parsed.recordType = dnsTypeTxt then do
        let texts ← decodeTxtAt parsed.data 0
        some (texts :: records)
      else some records

/-- The texts of the answers. -/
def parseTxtAnswers (packet : Bytes) : Option (List (List Bytes)) :=
  if packet.length < 12 then some []
  else do
    let questionCount ← uint16At packet 4
    let answerCount := (← uint16At packet 6) + (← uint16At packet 8) + (← uint16At packet 10)
    let offset ← skipDnsQuestions packet questionCount 12
    if offset = 0 then some [] else collectTxtRecords packet answerCount offset

/-! ## The loop over a name -/

theorem byteSlice_eq {data : Bytes} {start stop : Nat} (hle : start ≤ stop) (hstop : stop ≤ data.length) :
    byteSlice data start stop = some ((data.drop start).take (stop - start)) :=
  if_pos ⟨hle, hstop⟩

theorem exists_uint16At {data : Bytes} {start : Nat} (h : start + 2 ≤ data.length) :
    ∃ n, uint16At data start = some n := by
  rw [uint16At, byteSlice_eq (Nat.le_add_right _ _) h]
  exact ⟨_, rfl⟩

/-- The name from `start` on is read inside of the packet. -/
structure NameState.Inside (packet : Bytes) (start : Nat) (s : NameState) : Prop where
  seen : s.seen ≤ packet.length + 1
  offset : s.jumped = false → start ≤ s.offset
  next : s.jumped = true → start < s.next ∧ s.next ≤ packet.length

/-- The next offset is behind the start and inside of the packet. -/
def NextInside (packet : Bytes) (start : Nat) (result : Option (Bytes × Nat)) : Prop :=
  ∀ name next, result = some (name, next) → start < next ∧ next ≤ packet.length

theorem nextInside_none (packet : Bytes) (start : Nat) : NextInside packet start none :=
  fun _ _ h => by cases h

/-- **A round of the loop** accesses the packet only. -/
theorem readNameStep_spec {packet : Bytes} {start : Nat} {s : NameState}
    (h : s.Inside packet start) :
    (∃ t, readNameStep packet s = some (.again t) ∧ t.seen = s.seen + 1 ∧
      t.Inside packet start) ∨
    ∃ result, readNameStep packet s = some (.stop result) ∧ NextInside packet start result := by
  unfold readNameStep
  split
  · exact .inr ⟨none, rfl, nextInside_none packet start⟩
  · next hhead =>
    obtain ⟨hoffset, hseen⟩ := not_or.1 hhead
    rw [not_le] at hoffset
    rw [List.getElem?_eq_getElem hoffset]
    simp only [Option.bind_eq_bind, Option.bind_some]
    split
    · split
      · exact .inr ⟨none, rfl, nextInside_none packet start⟩
      · -- A pointer: only the first one fixes the next offset.
        obtain ⟨pointer, hpointer⟩ := @exists_uint16At packet s.offset (by omega)
        rw [hpointer]
        refine .inl ⟨_, rfl, rfl, by show s.seen + 1 ≤ _; omega, (fun hjumped => by cases hjumped),
          fun _ => ?_⟩
        show start < (if s.jumped then s.next else s.offset + 2) ∧
          (if s.jumped then s.next else s.offset + 2) ≤ packet.length
        cases hjumped : s.jumped with
        | true => exact h.next hjumped
        | false =>
          have := h.offset hjumped
          constructor <;> simp <;> omega
    · split
      · exact .inr ⟨none, rfl, nextInside_none packet start⟩
      · split
        · -- The end of the name.
          refine .inr ⟨_, rfl, fun name next heq => ?_⟩
          cases heq
          cases hjumped : s.jumped with
          | true => exact h.next hjumped
          | false =>
            have := h.offset hjumped
            constructor <;> simp <;> omega
        · split
          · exact .inr ⟨none, rfl, nextInside_none packet start⟩
          · next hlabel =>
            rw [byteSlice_eq (Nat.le_add_right _ _) (by omega)]
            refine .inl ⟨_, rfl, rfl, by show s.seen + 1 ≤ _; omega, fun hjumped => ?_, h.next⟩
            have := h.offset hjumped
            show start ≤ s.offset + 1 + _
            omega

/-- **The loop ends** in one round more than the packet has bytes. -/
theorem readNameLoop_spec {packet : Bytes} {start rounds : Nat} {s : NameState}
    (h : s.Inside packet start) (hrounds : packet.length + 2 ≤ rounds + s.seen) :
    ∃ last result, readNameLoop packet rounds s = some (last, result) ∧
      last.seen ≤ packet.length + 1 ∧ NextInside packet start result := by
  induction rounds generalizing s with
  | zero =>
    have := h.seen
    omega
  | succ rounds ih =>
    rw [readNameLoop]
    rcases readNameStep_spec h with ⟨t, ht, hseen, hinside⟩ | ⟨result, hresult, hnext⟩
    · rw [ht]
      exact ih hinside (by omega)
    · rw [hresult]
      exact ⟨s, result, rfl, h.seen, hnext⟩

theorem inside_start (packet : Bytes) (offset : Nat) :
    NameState.Inside packet offset { next := offset, offset } :=
  ⟨Nat.zero_le _, fun _ => le_refl _, fun h => by cases h⟩

theorem readName_spec (packet : Bytes) (offset : Nat) :
    ∃ result, readName packet offset = some result ∧ NextInside packet offset result := by
  obtain ⟨last, result, hloop, -, hnext⟩ :=
    @readNameLoop_spec packet offset (packet.length + 2) _ (inside_start packet offset) (by simp)
  exact ⟨result, by rw [readName, hloop]; rfl, hnext⟩

/-! ## Whole packets -/

theorem exists_asksForService (P : Platform) (packet serviceName : Bytes) (count offset : Nat) :
    ∃ asks, asksForService P packet serviceName count offset = some asks := by
  induction count generalizing offset with
  | zero => exact ⟨false, rfl⟩
  | succ count ih =>
    obtain ⟨result, hname, -⟩ := readName_spec packet offset
    rw [asksForService, hname, Option.bind_eq_bind, Option.bind_some]
    match result with
    | none => exact ⟨false, rfl⟩
    | some (name, next) =>
      dsimp only
      split
      · exact ⟨false, rfl⟩
      · obtain ⟨recordType, htype⟩ := @exists_uint16At packet next (by omega)
        rw [htype, Option.bind_eq_bind, Option.bind_some]
        split
        · exact ⟨true, rfl⟩
        · exact ih (next + 4)

theorem exists_packetAsksForService (P : Platform) (packet serviceName : Bytes) :
    ∃ asks, packetAsksForService P packet serviceName = some asks := by
  unfold packetAsksForService
  split
  · exact ⟨false, rfl⟩
  · obtain ⟨flags, hflags⟩ := @exists_uint16At packet 2 (by omega)
    obtain ⟨count, hcount⟩ := @exists_uint16At packet 4 (by omega)
    rw [hflags, Option.bind_eq_bind, Option.bind_some]
    split
    · exact ⟨false, rfl⟩
    · rw [hcount, Option.bind_some]
      exact exists_asksForService P packet serviceName count 12

theorem exists_skipDnsQuestions (packet : Bytes) (count offset : Nat) :
    ∃ after, skipDnsQuestions packet count offset = some after := by
  induction count generalizing offset with
  | zero => exact ⟨offset, rfl⟩
  | succ count ih =>
    obtain ⟨result, hname, -⟩ := readName_spec packet offset
    rw [skipDnsQuestions, hname, Option.bind_eq_bind, Option.bind_some]
    match result with
    | none => exact ⟨0, rfl⟩
    | some (_, next) =>
      dsimp only
      split
      · exact ⟨0, rfl⟩
      · exact ih (next + 4)

/-- A text that stands in the packet. -/
def IsSlice (packet text : Bytes) : Prop :=
  ∃ start, start + text.length ≤ packet.length ∧ text = (packet.drop start).take text.length

theorem take_drop_infix (data : Bytes) (start length : Nat) :
    (data.drop start).take length <:+: data :=
  (List.take_prefix length _).isInfix.trans (List.drop_suffix start data).isInfix

theorem isSlice_iff_infix {packet text : Bytes} : IsSlice packet text ↔ text <:+: packet := by
  constructor
  · rintro ⟨start, -, htext⟩
    rw [htext]
    exact take_drop_infix packet start _
  · rintro ⟨front, back, rfl⟩
    refine ⟨front.length, by simp only [List.length_append]; omega, ?_⟩
    rw [List.append_assoc, List.drop_left, List.take_left]

theorem readDnsRecord_spec (packet : Bytes) (offset : Nat) :
    ∃ result, readDnsRecord packet offset = some result ∧
      ∀ record, result = some record → record.data <:+: packet := by
  obtain ⟨result, hname, -⟩ := readName_spec packet offset
  rw [readDnsRecord, hname, Option.bind_eq_bind, Option.bind_some]
  match result with
  | none => exact ⟨none, rfl, fun _ h => by cases h⟩
  | some (_, next) =>
    dsimp only
    split
    · exact ⟨none, rfl, fun _ h => by cases h⟩
    · obtain ⟨recordType, htype⟩ := @exists_uint16At packet next (by omega)
      obtain ⟨dataLength, hlength⟩ := @exists_uint16At packet (next + 8) (by omega)
      rw [htype, Option.bind_eq_bind, Option.bind_some, hlength, Option.bind_eq_bind,
        Option.bind_some]
      split
      · exact ⟨none, rfl, fun _ h => by cases h⟩
      · rw [byteSlice_eq (Nat.le_add_right _ _) (by omega)]
        refine ⟨_, rfl, fun record h => ?_⟩
        cases h
        exact take_drop_infix packet _ _

theorem decodeTxtAt_eq (data : Bytes) (offset : Nat) :
    decodeTxtAt data offset = some (decodeTxt (data.drop offset)) := by
  fun_induction decodeTxtAt data offset with
  | case1 offset hoffset ih =>
    rw [List.getElem?_eq_getElem hoffset, List.drop_eq_getElem_cons hoffset, decodeTxt,
      Option.bind_eq_bind, Option.bind_some, List.length_drop]
    by_cases hlength : offset + 1 + data[offset].toNat > data.length
    · rw [if_pos hlength, if_pos (by omega)]
    · rw [if_neg hlength, if_neg (by omega), byteSlice_eq (Nat.le_add_right _ _) (by omega), ih _ hlength,
        List.drop_drop]
      simp
  | case2 offset hoffset =>
    rw [List.drop_eq_nil_of_le (by omega), decodeTxt]

theorem infix_of_decodeTxt {data record : Bytes} (h : record ∈ decodeTxt data) : record <:+: data := by
  fun_induction decodeTxt data with
  | case1 => cases h
  | case2 length data hshort => cases h
  | case3 length data hlong ih =>
    have hsuffix : data <:+ length :: data := List.suffix_cons _ _
    rcases List.mem_cons.1 h with rfl | hrest
    · exact (List.take_prefix _ _).isInfix.trans hsuffix.isInfix
    · exact (ih hrest).trans ((List.drop_suffix _ _).isInfix.trans hsuffix.isInfix)

theorem collectTxtRecords_spec (packet : Bytes) (count offset : Nat) :
    ∃ lists, collectTxtRecords packet count offset = some lists ∧
      ∀ texts ∈ lists, ∀ text ∈ texts, text <:+: packet := by
  induction count generalizing offset with
  | zero => exact ⟨[], rfl, fun _ h => by cases h⟩
  | succ count ih =>
    obtain ⟨result, hrecord, hdata⟩ := readDnsRecord_spec packet offset
    rw [collectTxtRecords, hrecord, Option.bind_eq_bind, Option.bind_some]
    match result, hdata with
    | none, _ => exact ⟨[], rfl, fun _ h => by cases h⟩
    | some record, hdata =>
      obtain ⟨lists, hlists, htexts⟩ := ih record.next
      dsimp only
      rw [hlists, Option.bind_eq_bind, Option.bind_some]
      split
      · rw [decodeTxtAt_eq, Option.bind_eq_bind, Option.bind_some]
        refine ⟨_, rfl, List.forall_mem_cons.2 ⟨fun text htext => ?_, htexts⟩⟩
        exact (infix_of_decodeTxt htext).trans (hdata record rfl)
      · exact ⟨lists, rfl, htexts⟩

theorem parseTxtAnswers_spec (packet : Bytes) :
    ∃ lists, parseTxtAnswers packet = some lists ∧
      ∀ texts ∈ lists, ∀ text ∈ texts, text <:+: packet := by
  unfold parseTxtAnswers
  split
  · exact ⟨[], rfl, fun _ h => by cases h⟩
  · obtain ⟨questions, hquestions⟩ := @exists_uint16At packet 4 (by omega)
    obtain ⟨answers, hanswers⟩ := @exists_uint16At packet 6 (by omega)
    obtain ⟨authorities, hauthorities⟩ := @exists_uint16At packet 8 (by omega)
    obtain ⟨extra, hextra⟩ := @exists_uint16At packet 10 (by omega)
    obtain ⟨offset, hoffset⟩ := exists_skipDnsQuestions packet questions 12
    rw [hquestions, hanswers, hauthorities, hextra]
    simp only [Option.bind_eq_bind, Option.bind_some, hoffset]
    split
    · exact ⟨[], rfl, fun _ h => by cases h⟩
    · exact collectTxtRecords_spec packet _ offset

/-- **Any packet is survived**: a name ends, and no access lies outside. -/
theorem packets_survive (P : Platform) (packet : Bytes) :
    (∀ offset, ∃ last result,
      readNameLoop packet (packet.length + 2) { next := offset, offset } = some (last, result) ∧
        last.seen ≤ packet.length + 1 ∧ readName packet offset = some result ∧
        ∀ name next, result = some (name, next) → offset < next ∧ next ≤ packet.length) ∧
    (∀ serviceName, ∃ asks, packetAsksForService P packet serviceName = some asks) ∧
    ∃ lists, parseTxtAnswers packet = some lists ∧
      ∀ texts ∈ lists, ∀ text ∈ texts, IsSlice packet text := by
  refine ⟨fun offset => ?_, exists_packetAsksForService P packet, ?_⟩
  · obtain ⟨last, result, hloop, hseen, hnext⟩ := @readNameLoop_spec packet offset
      (packet.length + 2) _ (inside_start packet offset) (by simp)
    exact ⟨last, result, hloop, hseen, by rw [readName, hloop]; rfl, hnext⟩
  · obtain ⟨lists, hlists, htexts⟩ := parseTxtAnswers_spec packet
    exact ⟨lists, hlists, fun texts h text ht => isSlice_iff_infix.2 (htexts texts h text ht)⟩

/-- A name that points to itself is given up. -/
example : readName [0xC0, 0] 0 = some none := by decide

end JetsonFabric
