import JetsonFabric.Generation.Invariant

/-!
# Texts that are cut anywhere

The texts of tokens need not end with a character. The runner keeps back what is left of one, and
whatever the cuts are, the receiver has the whole characters of what came so far.

* **`feed_split_independent`**: the fragments and the error depend on the bytes so far, not on the cuts.
-/

namespace JetsonFabric

variable {σ : Type} (runner : GenerationRunner σ) (request : GenerationRequest)

/-- Tokens with their texts, for a sink that takes them all. -/
def feed (pieces : List (UInt32 × Bytes)) (st : RunState σ) : Except (Finished σ) (RunState σ) :=
  pieces.foldlM (fun st piece => emit runner request (fun _ _ => true) st piece.1 piece.2) st

/-- The bytes of tokens. -/
def textOf (pieces : List (UInt32 × Bytes)) : Bytes := pieces.flatMap Prod.snd

/-- What the sink has received, in one text. -/
def RunState.fragments (st : RunState σ) : Bytes := st.emitted.flatMap GenerationToken.text

/-- The longest front of whole characters. -/
structure WholePrefix (bytes whole : Bytes) : Prop where
  valid : isValidUtf8 whole = true
  isPrefix : whole <+: bytes
  longest : ∀ other, other <+: bytes → isValidUtf8 other = true → other.length ≤ whole.length

variable {bytes : Bytes}

theorem wholePrefix_of_scan {n : Nat} (h : completeUtf8Prefix bytes = .ok n) :
    WholePrefix bytes (bytes.take n) where
  valid := isValidUtf8_take h
  isPrefix := List.take_prefix n bytes
  longest := by
    rintro other ⟨rest, rfl⟩ hvalid
    have hlength := (completeUtf8Prefix_bounds h).1
    rw [completeUtf8Prefix_append hvalid] at h
    rw [List.length_take, Nat.min_eq_left hlength]
    cases hrest : completeUtf8Prefix rest with
    | error e =>
      rw [hrest] at h
      cases h
    | ok m =>
      rw [hrest] at h
      cases h
      exact Nat.le_add_right ..

/-! ## One token -/

variable {st : RunState σ}

/-- The fragments and what is kept back of a character. -/
structure Fed (bytes : Bytes) (st : RunState σ) : Prop where
  whole : ∀ token ∈ st.emitted, isValidUtf8 token.text = true
  valid : isValidUtf8 st.fragments = true
  split : st.fragments ++ st.pendingText = bytes
  scanned : completeUtf8Prefix bytes = .ok st.fragments.length

theorem Fed.scan_append (h : Fed bytes st) (text : Bytes) :
    completeUtf8Prefix (bytes ++ text) =
      (completeUtf8Prefix (st.pendingText ++ text)).map (st.fragments.length + ·) := by
  rw [← h.split, List.append_assoc, completeUtf8Prefix_append h.valid]

theorem Fed.emit_ok {text : Bytes} (h : Fed bytes st)
    (token : UInt32) {n : Nat} (hn : completeUtf8Prefix (st.pendingText ++ text) = .ok n) :
    Fed (bytes ++ text) (st.sampled token text n) := by
  have hwhole := isValidUtf8_take hn
  have hfragments : (st.sampled token text n).fragments =
      st.fragments ++ (st.pendingText ++ text).take n := by
    simp [RunState.fragments, RunState.sampled]
  refine ⟨?_, ?_, ?_, ?_⟩
  · intro other hother
    rcases List.mem_append.1 hother with hold | hnew
    · exact h.whole other hold
    · rw [List.mem_singleton.1 hnew]
      exact hwhole
  · rw [hfragments]
    exact isValidUtf8_append h.valid hwhole
  · rw [hfragments, List.append_assoc, RunState.sampled, List.take_append_drop, ← List.append_assoc,
      h.split]
  · rw [h.scan_append, hn, hfragments, List.length_append, List.length_take,
      Nat.min_eq_left (completeUtf8Prefix_bounds hn).1]
    rfl

theorem errorCode_fail (st : RunState σ) (status code message : Bytes) :
    (fail runner request st status code message).result.errorCode = code := by
  unfold fail failWith
  dsimp only
  split <;> rfl

/-- **One token** goes on, or its text is malformed. -/
theorem fed_emit (h : Fed bytes st) (token : UInt32) (text : Bytes) :
    match completeUtf8Prefix (bytes ++ text) with
    | .ok _ => ∃ next, emit runner request (fun _ _ => true) st token text = .ok next ∧
      Fed (bytes ++ text) next
    | .error _ => ∃ f, emit runner request (fun _ _ => true) st token text = .error f ∧
      f.result.errorCode = str "invalid_token_text" := by
  rw [h.scan_append, emit_eq]
  cases hn : completeUtf8Prefix (st.pendingText ++ text) with
  | ok n => exact ⟨_, if_pos rfl, h.emit_ok token hn⟩
  | error e =>
    exact ⟨_, rfl, errorCode_fail ..⟩

/-! ## All tokens -/

/-- The bytes up to a cut are not malformed. -/
def Sound (pieces : List (UInt32 × Bytes)) : Prop :=
  (completeUtf8Prefix (textOf pieces)).toBool = true

theorem textOf_concat (pieces : List (UInt32 × Bytes)) (piece : UInt32 × Bytes) :
    textOf (pieces ++ [piece]) = textOf pieces ++ piece.2 := by
  simp [textOf]

theorem feed_concat (pieces : List (UInt32 × Bytes)) (piece : UInt32 × Bytes) (st : RunState σ) :
    feed runner request (pieces ++ [piece]) st =
      feed runner request pieces st >>= fun st =>
        emit runner request (fun _ _ => true) st piece.1 piece.2 := by
  rw [feed, List.foldlM_append]
  refine congrArg _ (funext fun st => ?_)
  exact bind_pure _

theorem fed_start (st : RunState σ) :
    Fed [] { st with pendingText := [], emitted := [] } where
  whole := by simp
  valid := by simp [RunState.fragments, isValidUtf8_eq, completeUtf8Prefix]
  split := rfl
  scanned := by simp [RunState.fragments, completeUtf8Prefix]

theorem feed_fed {start : RunState σ} (hstart : Fed [] start)
    {pieces : List (UInt32 × Bytes)} (hsound : ∀ cut, cut <+: pieces → Sound cut) :
    ∃ st, feed runner request pieces start = .ok st ∧ Fed (textOf pieces) st := by
  induction pieces using List.reverseRecOn with
  | nil => exact ⟨start, rfl, hstart⟩
  | append_singleton pieces piece ih =>
    obtain ⟨st, hfeed, hst⟩ := ih fun cut hcut => hsound cut (hcut.trans (List.prefix_append ..))
    have hlast := hsound _ List.prefix_rfl
    have hemit := fed_emit runner request hst piece.1 piece.2
    rw [Sound, textOf_concat] at hlast
    obtain ⟨n, hn⟩ := Checks.exists_of_toBool hlast
    rw [hn] at hemit
    obtain ⟨next, hnext, hfed⟩ := hemit
    refine ⟨next, ?_, textOf_concat .. ▸ hfed⟩
    rw [feed_concat, hfeed]
    exact hnext

theorem sound_of_feed {start : RunState σ} (hstart : Fed [] start) {pieces : List (UInt32 × Bytes)}
    (hfeed : feed runner request pieces start = .ok st) :
    (∀ cut, cut <+: pieces → Sound cut) ∧ Fed (textOf pieces) st := by
  induction pieces using List.reverseRecOn generalizing st with
  | nil =>
    cases hfeed
    refine ⟨fun cut hcut => ?_, hstart⟩
    rw [List.prefix_nil.1 hcut, Sound, textOf, List.flatMap_nil, completeUtf8Prefix]
    rfl
  | append_singleton pieces piece ih =>
    rw [feed_concat, Checks.bind_eq_ok] at hfeed
    obtain ⟨before, hbefore, hemit⟩ := hfeed
    obtain ⟨hsound, hfed⟩ := ih hbefore
    have hspec := fed_emit runner request hfed piece.1 piece.2
    rw [← textOf_concat] at hspec
    cases hscan : completeUtf8Prefix (textOf (pieces ++ [piece])) with
    | error e =>
      rw [hscan] at hspec
      obtain ⟨f, hf, -⟩ := hspec
      cases hf.symm.trans hemit
    | ok n =>
      rw [hscan] at hspec
      obtain ⟨next, hnext, hfed⟩ := hspec
      cases hnext.symm.trans hemit
      refine ⟨fun cut hcut => ?_, hfed⟩
      rcases List.prefix_concat_iff.1 hcut with rfl | hcut
      · rw [Sound, hscan]
        rfl
      · exact hsound cut hcut

theorem Fed.wholePrefix (h : Fed bytes st) :
    WholePrefix bytes st.fragments := by
  have htake : bytes.take st.fragments.length = st.fragments := by rw [← h.split, List.take_left]
  exact htake ▸ wholePrefix_of_scan h.scanned

theorem Fed.length_pendingText (h : Fed bytes st) :
    st.pendingText.length ≤ 3 := by
  have hbounds := (completeUtf8Prefix_bounds h.scanned).2
  rw [← h.split, List.length_append] at hbounds
  omega

/-- **The cuts do not matter**: a token is refused where the bytes first are malformed. -/
theorem feed_split_independent (st : RunState σ) (pieces : List (UInt32 × Bytes)) :
    let start : RunState σ := { st with pendingText := [], emitted := [] }
    ((∀ cut, cut <+: pieces → Sound cut) →
      ∃ next, feed runner request pieces start = .ok next ∧
        (∀ token ∈ next.emitted, isValidUtf8 token.text = true) ∧
        WholePrefix (textOf pieces) next.fragments ∧
        next.fragments ++ next.pendingText = textOf pieces ∧ next.pendingText.length ≤ 3) ∧
    ∀ piece : UInt32 × Bytes,
      (∃ next f, feed runner request pieces start = .ok next ∧
        emit runner request (fun _ _ => true) next piece.1 piece.2 = .error f ∧
        f.result.errorCode = str "invalid_token_text") ↔
      ¬ Sound (pieces ++ [piece]) ∧ ∀ cut, cut <+: pieces → Sound cut := by
  intro start
  have hstart := fed_start st
  refine ⟨fun hsound => ?_, fun piece => ⟨?_, ?_⟩⟩
  · obtain ⟨next, hfeed, h⟩ := feed_fed runner request hstart hsound
    exact ⟨next, hfeed, h.whole, h.wholePrefix, h.split, h.length_pendingText⟩
  · rintro ⟨next, f, hfeed, hemit, -⟩
    obtain ⟨hsound, h⟩ := sound_of_feed runner request hstart hfeed
    refine ⟨fun hlast => ?_, hsound⟩
    have hspec := fed_emit runner request h piece.1 piece.2
    rw [Sound, textOf_concat] at hlast
    obtain ⟨n, hn⟩ := Checks.exists_of_toBool hlast
    rw [hn] at hspec
    obtain ⟨other, hother, -⟩ := hspec
    cases hother.symm.trans hemit
  · rintro ⟨hlast, hsound⟩
    obtain ⟨next, hfeed, h⟩ := feed_fed runner request hstart hsound
    have hspec := fed_emit runner request h piece.1 piece.2
    rw [Sound, textOf_concat] at hlast
    cases hscan : completeUtf8Prefix (textOf pieces ++ piece.2) with
    | ok n => exact absurd (by rw [hscan]; rfl) hlast
    | error e =>
      rw [hscan] at hspec
      obtain ⟨f, hf, hcode⟩ := hspec
      exact ⟨next, f, hfeed, hf, hcode⟩

end JetsonFabric
