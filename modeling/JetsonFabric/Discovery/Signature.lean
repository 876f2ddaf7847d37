import JetsonFabric.Go
import JetsonFabric.Lib.Fips180

/-!
# Signed announcements

Members with a cluster token sign what they announce and what they answer
(`internal/clusterauth/announcement.go`). The signature is an HMAC of a message that joins the kind,
the time, the nonce and the digest of the payload by newlines; the nonce and the digest may hold
newlines themselves.

* **`announcements_unambiguous`**: a signature is accepted only for what it was made for.
-/

namespace JetsonFabric

/-! ## Numbers and bytes as texts -/

def isDecimalDigit (b : UInt8) : Bool := 48 ≤ b && b ≤ 57

/-- The sign of a number and its digits. -/
def splitSign : Bytes → Bool × Bytes
  | 43 :: digits => (false, digits)
  | 45 :: digits => (true, digits)
  | digits => (false, digits)

/-- `strconv.ParseInt` in base 10 for 64 bits. -/
def parseInt64 (s : Bytes) : Option Int :=
  let (negative, digits) := splitSign s
  if digits = [] ∨ digits.all isDecimalDigit = false then none
  else
    let n : Int := (digits.foldl (fun m b => 10 * m + (b.toNat - 48)) 0 : Nat)
    let value := if negative then -n else n
    if -2 ^ 63 ≤ value ∧ value < 2 ^ 63 then some value else none

/-- The value of a hexadecimal digit. -/
def fromHexChar (b : UInt8) : Option Nat :=
  if 48 ≤ b ∧ b ≤ 57 then some (b.toNat - 48)
  else if 97 ≤ b ∧ b ≤ 102 then some (b.toNat - 87)
  else if 65 ≤ b ∧ b ≤ 70 then some (b.toNat - 55)
  else none

/-- `hex.DecodeString`; none where it returns an error. -/
def decodeString : Bytes → Option Bytes
  | [] => some []
  | [_] => none
  | a :: b :: rest => do
    let high ← fromHexChar a
    let low ← fromHexChar b
    let bytes ← decodeString rest
    some ((16 * high + low).toUInt8 :: bytes)

/-- `hex.EncodeToString`. -/
def encodeToString (bytes : Bytes) : Bytes :=
  bytes.flatMap fun b => [hexDigit (b.toNat / 16), hexDigit (b.toNat % 16)]

theorem fromHexChar_hexDigit {n : Nat} (h : n < 16) : fromHexChar (hexDigit n) = some n := by
  interval_cases n <;> rfl

theorem decodeString_encodeToString (bytes : Bytes) :
    decodeString (encodeToString bytes) = some bytes := by
  induction bytes with
  | nil => rfl
  | cons b bytes ih =>
    have hb := b.toNat_lt
    have hbyte : (16 * (b.toNat / 16) + b.toNat % 16).toUInt8 = b := by
      rw [Nat.div_add_mod]
      exact UInt8.ofNat_toNat
    change decodeString (hexDigit _ :: hexDigit _ :: encodeToString bytes) = _
    rw [decodeString, fromHexChar_hexDigit (by omega), fromHexChar_hexDigit (by omega), ih]
    exact congrArg (fun a => some (a :: bytes)) hbyte

theorem newline_notMem_of_parseInt64 {s : Bytes} (h : (parseInt64 s).isSome = true) : 10 ∉ s := by
  have hdigits : (splitSign s).2.all isDecimalDigit = true := by
    by_contra hbad
    dsimp only [parseInt64] at h
    rw [if_pos (.inr (Bool.eq_false_of_not_eq_true hbad))] at h
    exact absurd h (by decide)
  intro hmem
  have hnewline : 10 ∈ (splitSign s).2 := by
    unfold splitSign
    split
    · simpa using hmem
    · simpa using hmem
    · exact hmem
  exact absurd (List.all_eq_true.1 hdigits 10 hnewline) (by decide)

theorem newline_notMem_decimal (n : Int) : 10 ∉ decimal n := by
  intro hmem
  rcases mem_decimal hmem with h | ⟨h, -⟩
  · exact absurd h (by decide)
  · exact absurd h (by decide)

theorem splitSign_repr (n : Nat) : splitSign (str (Nat.repr n)) = (false, str (Nat.repr n)) := by
  obtain ⟨b, digits, hs⟩ := List.exists_cons_of_ne_nil (str_repr_ne_nil n)
  have hb := mem_str_repr (hs ▸ List.mem_cons_self : b ∈ str (Nat.repr n))
  rw [hs]
  unfold splitSign
  split
  · next h => simp_all
  · next h => simp_all
  · rfl

theorem all_isDecimalDigit_repr (n : Nat) : (str (Nat.repr n)).all isDecimalDigit = true := by
  rw [List.all_eq_true]
  intro b hb
  simpa [isDecimalDigit] using mem_str_repr hb

theorem parseInt64_of_splitSign {s : Bytes} {negative : Bool} {m : Nat}
    (hsplit : splitSign s = (negative, str (Nat.repr m)))
    (hlow : -2 ^ 63 ≤ if negative then -(m : Int) else m)
    (hhigh : (if negative then -(m : Int) else m) < 2 ^ 63) :
    parseInt64 s = some (if negative then -(m : Int) else m) := by
  have hguard : ¬(str (Nat.repr m) = [] ∨ (str (Nat.repr m)).all isDecimalDigit = false) := by
    simp [str_repr_ne_nil, all_isDecimalDigit_repr]
  dsimp only [parseInt64]
  rw [hsplit, if_neg hguard, foldl_str_repr]
  exact if_pos ⟨hlow, hhigh⟩

theorem parseInt64_decimal {n : Int} (hlow : -2 ^ 63 ≤ n) (hhigh : n < 2 ^ 63) :
    parseInt64 (decimal n) = some n := by
  cases n with
  | ofNat m => exact parseInt64_of_splitSign (splitSign_repr m) hlow hhigh
  | negSucc m =>
    have hsplit : splitSign (decimal (.negSucc m)) = (true, str (Nat.repr (m + 1))) := by
      rw [decimal_negSucc]
      rfl
    exact parseInt64_of_splitSign hsplit hlow hhigh

/-! ## The code -/

/-- `Time.Unix`: the whole seconds since 1970. -/
def Time.unix (t : Time) : Int := wrap64 (t / 10 ^ 9 - 62135596800)

/-- `time.Unix` at a whole second. -/
def timeUnix (seconds : Int) : Time := wrap64 (seconds + 62135596800) * 10 ^ 9

def announcementMaxClockSkew : Int := 30 * 10 ^ 9

/-- The two kinds that are signed. -/
inductive AnnouncementKind where
  | request
  | response
  deriving DecidableEq

/-- The kind as it stands in a message. -/
def AnnouncementKind.text : AnnouncementKind → Bytes
  | .request => str "request"
  | .response => str "response"

/-- The text that is signed. -/
def announcementMessage (kind : AnnouncementKind) (timestamp nonce payload : Bytes) : Bytes :=
  str "jetsonfabric-announce-v1\n" ++ kind.text ++ [10] ++ timestamp ++ [10] ++ nonce ++ [10] ++
    Fips180.sha256 payload

section Mac

-- HMAC-SHA256, of a token and a message
variable (hmac : Bytes → Bytes → Bytes)

/-- The timestamp and the signature of an announcement. -/
def signAnnouncement (kind : AnnouncementKind) (token : Bytes) (now : Time) (nonce payload : Bytes) :
    Bytes × Bytes :=
  let timestamp := decimal now.unix
  (timestamp, encodeToString (hmac token (announcementMessage kind timestamp nonce payload)))

/-- The check of a signature. -/
def verifyAnnouncement (kind : AnnouncementKind) (token timestamp nonce signature payload : Bytes)
    (now : Time) : Bool :=
  if nonce = [] then false
  else match parseInt64 timestamp with
    | none => false
    | some seconds =>
      let skew := now.sub (timeUnix seconds)
      if skew < -announcementMaxClockSkew ∨ announcementMaxClockSkew < skew then false
      else match decodeString signature with
        | none => false
        | some provided => provided = hmac token (announcementMessage kind timestamp nonce payload)

def signAnnouncementRequest := signAnnouncement hmac .request

def verifyAnnouncementRequest := verifyAnnouncement hmac .request

def signAnnouncementResponse := signAnnouncement hmac .response

def verifyAnnouncementResponse := verifyAnnouncement hmac .response

end Mac

/-! ## The message -/

/-- What a signature covers: of the payload, the digest. -/
def covered (kind : AnnouncementKind) (timestamp nonce payload : Bytes) :
    AnnouncementKind × Bytes × Bytes × Bytes :=
  (kind, timestamp, nonce, Fips180.sha256 payload)

theorem length_sha256 (message : Bytes) : (Fips180.sha256 message).length = 32 := by
  simp [Fips180.sha256, Fips180.digest, Fips180.Registers.words]

theorem newline_notMem_text (kind : AnnouncementKind) : 10 ∉ kind.text := by
  cases kind <;> decide

theorem AnnouncementKind.text_injective : Function.Injective AnnouncementKind.text := by
  intro kind kind' h
  cases kind <;> cases kind' <;> first | rfl | exact absurd h (by decide)

theorem separated_inj {separator : UInt8} {a b rest rest' : Bytes} (ha : separator ∉ a)
    (hb : separator ∉ b) (h : a ++ separator :: rest = b ++ separator :: rest') :
    a = b ∧ rest = rest' := by
  have hlength : a.length = b.length := by
    simpa [List.idxOf_append_of_notMem, ha, hb] using congrArg (List.idxOf separator) h
  obtain ⟨hfront, hback⟩ := List.append_inj h hlength
  exact ⟨hfront, (List.cons.inj hback).2⟩

/-- **The message** determines the kind, the time and the nonce. -/
theorem announcementMessage_inj {kind kind' : AnnouncementKind}
    {timestamp timestamp' nonce nonce' payload payload' : Bytes} (h : 10 ∉ timestamp)
    (h' : 10 ∉ timestamp')
    (heq : announcementMessage kind timestamp nonce payload =
      announcementMessage kind' timestamp' nonce' payload') :
    covered kind timestamp nonce payload = covered kind' timestamp' nonce' payload' := by
  simp only [announcementMessage, List.append_assoc, List.append_cancel_left_eq,
    List.cons_append, List.nil_append] at heq
  obtain ⟨hkind, hafterKind⟩ :=
    separated_inj (newline_notMem_text kind) (newline_notMem_text kind') heq
  obtain ⟨htime, hafterTime⟩ := separated_inj h h' hafterKind
  obtain ⟨hnonce, hdigest⟩ := List.append_inj' hafterTime (by simp [length_sha256])
  obtain ⟨-, hdigest⟩ := List.cons.inj hdigest
  rw [covered, covered, AnnouncementKind.text_injective hkind, htime, hnonce, hdigest]

/-! ## Signatures -/

section Signatures

variable {hmac : Bytes → Bytes → Bytes} {kind : AnnouncementKind}
variable {token timestamp nonce signature payload : Bytes} {now : Time}

theorem verifyAnnouncement_eq_true :
    verifyAnnouncement hmac kind token timestamp nonce signature payload now = true ↔
      nonce ≠ [] ∧
      (∃ seconds, parseInt64 timestamp = some seconds ∧
        |now.sub (timeUnix seconds)| ≤ announcementMaxClockSkew) ∧
      decodeString signature =
        some (hmac token (announcementMessage kind timestamp nonce payload)) := by
  unfold verifyAnnouncement
  by_cases hnonce : nonce = []
  · simp [hnonce]
  cases htime : parseInt64 timestamp with
  | none => simp [hnonce]
  | some seconds =>
    cases hsignature : decodeString signature with
    | none => simp [hnonce]
    | some provided =>
      by_cases hskew : |now.sub (timeUnix seconds)| ≤ announcementMaxClockSkew
      · have hguard := hskew
        rw [abs_le] at hguard
        simp [hnonce, hskew, hguard.1, hguard.2]
      · have hguard := hskew
        rw [abs_le, not_and_or, not_le, not_le] at hguard
        simp [hnonce, hskew, hguard]

theorem timeUnix_unix {t : Int} (hlow : -2 ^ 63 ≤ t / 10 ^ 9) (hhigh : t / 10 ^ 9 < 2 ^ 63) :
    timeUnix (Time.unix t) = t / 10 ^ 9 * 10 ^ 9 := by
  rw [timeUnix, Time.unix, wrap64, wrap64, Int.bmod_add_bmod, sub_add_cancel,
    Int.bmod_eq_of_le (by omega) (by omega)]

theorem verifyAnnouncement_sign {signed : Time} (hlow : -2 ^ 63 ≤ signed / 10 ^ 9)
    (hhigh : signed / 10 ^ 9 < 2 ^ 63) (hnonce : nonce ≠ [])
    (hskew : |now.sub (signed / 10 ^ 9 * 10 ^ 9)| ≤ announcementMaxClockSkew) :
    verifyAnnouncement hmac kind token (signAnnouncement hmac kind token signed nonce payload).1
      nonce (signAnnouncement hmac kind token signed nonce payload).2 payload now = true := by
  have hlower : -2 ^ 63 ≤ signed.unix := Int.le_bmod (by decide)
  have hupper : signed.unix < 2 ^ 63 := Int.bmod_lt (by decide)
  rw [verifyAnnouncement_eq_true]
  refine ⟨hnonce, ⟨signed.unix, parseInt64_decimal hlower hupper, ?_⟩,
    decodeString_encodeToString _⟩
  rwa [timeUnix_unix hlow hhigh]

/-- **Signatures** are accepted only for what they were made for. -/
theorem covered_of_verifyAnnouncement (hinj : Function.Injective (hmac token))
    {kind' : AnnouncementKind} {signed : Time} {nonce' payload' : Bytes}
    (hsame : decodeString signature =
      decodeString (signAnnouncement hmac kind' token signed nonce' payload').2)
    (h : verifyAnnouncement hmac kind token timestamp nonce signature payload now = true) :
    covered kind timestamp nonce payload =
      covered kind' (signAnnouncement hmac kind' token signed nonce' payload').1 nonce'
        payload' := by
  obtain ⟨-, ⟨seconds, htime, -⟩, hmac⟩ := verifyAnnouncement_eq_true.1 h
  rw [hsame, signAnnouncement, decodeString_encodeToString] at hmac
  refine announcementMessage_inj ?_ (newline_notMem_decimal _) (hinj (Option.some.inj hmac).symm)
  exact newline_notMem_of_parseInt64 (by rw [htime, Option.isSome_some])

end Signatures

/-- **Announcements** that are equal cover the same, and their signatures fit nothing else. -/
theorem announcements_unambiguous (hmac : Bytes → Bytes → Bytes) (token : Bytes)
    (hinj : Function.Injective (hmac token)) :
    (∀ kind kind' timestamp timestamp' nonce nonce' payload payload',
      (parseInt64 timestamp).isSome = true → (parseInt64 timestamp').isSome = true →
      announcementMessage kind timestamp nonce payload =
        announcementMessage kind' timestamp' nonce' payload' →
      covered kind timestamp nonce payload = covered kind' timestamp' nonce' payload') ∧
    (∀ kind kind' signed timestamp nonce nonce' payload payload' now signature,
      decodeString signature =
        decodeString (signAnnouncement hmac kind token signed nonce payload).2 →
      verifyAnnouncement hmac kind' token timestamp nonce' signature payload' now = true →
      covered kind' timestamp nonce' payload' =
        covered kind (signAnnouncement hmac kind token signed nonce payload).1 nonce payload) ∧
    (∀ signed timestamp nonce nonce' payload payload' now signature,
      decodeString signature =
        decodeString (signAnnouncementRequest hmac token signed nonce payload).2 →
      verifyAnnouncementResponse hmac token timestamp nonce' signature payload' now = false) ∧
    ∀ signed timestamp nonce nonce' payload payload' now signature,
      decodeString signature =
        decodeString (signAnnouncementResponse hmac token signed nonce payload).2 →
      verifyAnnouncementRequest hmac token timestamp nonce' signature payload' now = false := by
  refine ⟨?_, ?_, ?_, ?_⟩
  · intro kind kind' timestamp timestamp' nonce nonce' payload payload' h h' heq
    exact announcementMessage_inj (newline_notMem_of_parseInt64 h)
      (newline_notMem_of_parseInt64 h') heq
  · intro kind kind' signed timestamp nonce nonce' payload payload' now signature hsame h
    exact covered_of_verifyAnnouncement hinj hsame h
  · intro signed timestamp nonce nonce' payload payload' now signature hsame
    refine Bool.eq_false_of_not_eq_true fun h => ?_
    cases congrArg Prod.fst (covered_of_verifyAnnouncement hinj hsame h)
  · intro signed timestamp nonce nonce' payload payload' now signature hsame
    refine Bool.eq_false_of_not_eq_true fun h => ?_
    cases congrArg Prod.fst (covered_of_verifyAnnouncement hinj hsame h)

/-- A MAC that is the message itself. -/
def plainMac (_token message : Bytes) : Bytes := message

/-- A signature of a request with newlines in its nonce. -/
theorem announcements_unambiguous_sample :
    verifyAnnouncementRequest plainMac (str "secret")
      (signAnnouncementRequest plainMac (str "secret") 0 (str "a\nb\n") (str "{}")).1 (str "a\nb\n")
      (signAnnouncementRequest plainMac (str "secret") 0 (str "a\nb\n") (str "{}")).2 (str "{}") 0 =
        true ∧
    verifyAnnouncementResponse plainMac (str "secret")
      (signAnnouncementRequest plainMac (str "secret") 0 (str "a\nb\n") (str "{}")).1 (str "a\nb\n")
      (signAnnouncementRequest plainMac (str "secret") 0 (str "a\nb\n") (str "{}")).2 (str "{}") 0 =
        false :=
  ⟨verifyAnnouncement_sign (by decide) (by decide) (by decide) (by decide),
    (announcements_unambiguous plainMac (str "secret") fun _ _ h => h).2.2.1 _ _ _ _ _ _ _ _ rfl⟩

end JetsonFabric
