import PackageCatalog.Proofs.Query.Substring
import PackageCatalog.Proofs.Text.Normal

/-!
# The weight of a text

The weight of a text is the number of characters of its full decomposition.  Decomposition and
ordering keep it, and a composite weighs as much as the two characters it is made of, so that a text
and its normal form have the same weight.  It follows that a text cannot occur in its normal form
without being all of it.

The tables are long, so what has to be known of every entry is checked with masks: natural numbers
with a bit for each character of some kind.

## Main definitions

* `Text.weight` — the number of characters of the full decomposition.
* `Text.maskOf`, `Text.unitsOf` — a set of code points as a mask, and the weight of a character that
  is read from masks.

## Main results

* `Text.length_decomposeChar_of_composePair` — a composite weighs as much as its parts.
* `Text.weight_normalForm` — **a text and its normal form have the same weight.**
* `Text.Occurs.eq_of_normalForm` — **a text that occurs in its normal form is it, up to case.**
-/

namespace PackageCatalog.Text

/-! ### Masks -/

/-- The natural number with a bit for each member of a list. -/
def maskOf : List Nat → Nat
  | [] => 0
  | n :: ns => maskOf ns ||| 1 <<< n

theorem testBit_maskOf (ns : List Nat) (n : Nat) : (maskOf ns).testBit n = decide (n ∈ ns) := by
  induction ns with
  | nil => simp [maskOf]
  | cons m ns ih =>
    rw [maskOf, Nat.testBit_or, ih, Nat.one_shiftLeft, Nat.testBit_two_pow]
    simp [Bool.or_comm, eq_comm]

/-- The code points in the table with a decomposition of that length. -/
def keysOfLength (l : Nat) : List Nat :=
  (decompositions.toList.filter (fun entry => entry.2.length == l)).map Prod.fst

/-- The length of the decomposition of a character, read from masks. -/
def unitsOf (n : Nat) : Nat :=
  if (maskOf (keysOfLength 4)).testBit n then 4
  else if (maskOf (keysOfLength 3)).testBit n then 3
  else if (maskOf (keysOfLength 2)).testBit n then 2
  else 1

/-! ### The tables -/

/-- The code points of the Hangul syllables, which no table lists. -/
def IsSyllable (n : Nat) : Prop := 0xAC00 ≤ n ∧ n < 0xAC00 + 11172

instance (n : Nat) : Decidable (IsSyllable n) :=
  inferInstanceAs (Decidable (0xAC00 ≤ n ∧ n < 0xAC00 + 11172))

-- the check goes down the table entry by entry
set_option maxRecDepth 20000 in
theorem decompositions_sorted : (decompositions.toList.map Prod.fst).Pairwise (· < ·) := by
  refine List.isChain_iff_pairwise.mp ?_
  decide +kernel

/-- No character that the table lists is ASCII, a letter of the Hangul alphabet or a syllable. -/
theorem keys_decompositions : ∀ entry ∈ decompositions.toList, 0xC0 ≤ entry.1 ∧
    ¬(0x1100 ≤ entry.1 ∧ entry.1 < 0x1200) ∧ ¬IsSyllable entry.1 ∧ 1 ≤ entry.2.length := by
  decide +kernel

/-- What a character decomposes to does not decompose. -/
theorem values_decompositions : ∀ entry ∈ decompositions.toList, ∀ n ∈ entry.2,
    ¬IsSyllable n ∧ unitsOf n = 1 := by
  decide +kernel

/-- A composite in the table decomposes to what its parts decompose to. -/
theorem units_composites : ∀ entry ∈ composites.toList,
    (¬IsSyllable entry.1.1 ∧ ¬IsSyllable entry.1.2 ∧ ¬IsSyllable entry.2) ∧
      unitsOf entry.2 = unitsOf entry.1.1 + unitsOf entry.1.2 := by
  decide +kernel

/-! ### Characters -/

variable {a b c d : Char} {s t : Text}

/-- Every entry of the table is found by its character. -/
theorem find_decompositions {entry : Nat × List Nat} (h : entry ∈ decompositions.toList) :
    find (fun e => compare entry.1 e.1) decompositions = some entry :=
  find_of_mem decompositions_sorted ⟨h⟩

/-- A character that is no syllable decomposes as the table says, or is left as it is. -/
theorem decomposeChar_cases (h : ¬IsSyllable c.toNat) :
    (∃ entry ∈ decompositions.toList, entry.1 = c.toNat ∧
      decomposeChar c = entry.2.map Char.ofNat) ∨
    (∀ entry ∈ decompositions.toList, entry.1 ≠ c.toNat) ∧ decomposeChar c = [c] := by
  unfold decomposeChar
  dsimp only
  split
  · next hsmall =>
    refine Or.inr ⟨fun entry hentry hkey => ?_, rfl⟩
    have hlarge := (keys_decompositions entry hentry).1
    omega
  · rw [if_neg (show ¬(0xAC00 ≤ c.toNat ∧ c.toNat < 0xAC00 + 11172) from h)]
    split
    · next entry hfound =>
      obtain ⟨hmem, hside⟩ := mem_of_find hfound
      exact Or.inl ⟨entry, hmem.val, (Nat.compare_eq_eq.mp hside).symm, rfl⟩
    · next hnone =>
      refine Or.inr ⟨fun entry hentry hkey => ?_, rfl⟩
      have hfound := find_decompositions hentry
      rw [hkey, hnone] at hfound
      cases hfound

theorem mem_keysOfLength_iff {l n : Nat} :
    n ∈ keysOfLength l ↔ ∃ entry ∈ decompositions.toList, entry.1 = n ∧ entry.2.length = l := by
  simp only [keysOfLength, List.mem_map, List.mem_filter, beq_iff_eq]
  constructor
  · rintro ⟨entry, ⟨hmem, hlength⟩, hkey⟩
    exact ⟨entry, hmem, hkey, hlength⟩
  · rintro ⟨entry, hmem, hkey, hlength⟩
    exact ⟨entry, ⟨hmem, hlength⟩, hkey⟩

/-- The masks tell how long a decomposition is. -/
theorem length_decomposeChar (h : ¬IsSyllable c.toNat) :
    (decomposeChar c).length = unitsOf c.toNat := by
  rw [unitsOf, testBit_maskOf, testBit_maskOf, testBit_maskOf]
  simp only [decide_eq_true_iff, mem_keysOfLength_iff]
  rcases decomposeChar_cases h with ⟨entry, hentry, hkey, hdecompose⟩ | ⟨hnone, hdecompose⟩
  · -- the key of the entry is that of no other
    have hiff : ∀ l, (∃ e ∈ decompositions.toList, e.1 = c.toNat ∧ e.2.length = l) ↔
        entry.2.length = l := by
      intro l
      constructor
      · rintro ⟨e, he, hekey, hlength⟩
        have h₁ := find_decompositions he
        have h₂ := find_decompositions hentry
        rw [hekey] at h₁
        rw [hkey] at h₂
        cases h₁.symm.trans h₂
        exact hlength
      · exact fun hlength => ⟨entry, hentry, hkey, hlength⟩
    have hpos := (keys_decompositions entry hentry).2.2.2
    have hle := (decompositions_short entry hentry).1
    rw [hdecompose, List.length_map]
    simp only [hiff]
    split
    · assumption
    · split
      · assumption
      · split
        · assumption
        · omega
  · have hno : ∀ l, ¬∃ e ∈ decompositions.toList, e.1 = c.toNat ∧ e.2.length = l := by
      rintro l ⟨e, he, hkey, -⟩
      exact hnone e he hkey
    rw [hdecompose, if_neg (hno 4), if_neg (hno 3), if_neg (hno 2)]
    rfl

/-- A syllable decomposes to two letters of the Hangul alphabet, or to three. -/
theorem decomposeChar_of_isSyllable (h : IsSyllable c.toNat) :
    (decomposeChar c).length = (if (c.toNat - 0xAC00) % 28 = 0 then 2 else 3) ∧
      ∀ d ∈ decomposeChar c, 0x1100 ≤ d.toNat ∧ d.toNat < 0x1200 := by
  obtain ⟨hlow, hhigh⟩ := h
  have hletter : ∀ n, 0x1100 ≤ n → n < 0x1200 →
      0x1100 ≤ (Char.ofNat n).toNat ∧ (Char.ofNat n).toNat < 0x1200 := by
    intro n hn hn'
    rw [code_ofNat (Or.inl (by omega))]
    exact ⟨hn, hn'⟩
  have hlead := hletter (0x1100 + (c.toNat - 0xAC00) / 588) (by omega) (by omega)
  have hvowel := hletter (0x1161 + (c.toNat - 0xAC00) % 588 / 28) (by omega) (by omega)
  have htrail := hletter (0x11A7 + (c.toNat - 0xAC00) % 28) (by omega) (by omega)
  unfold decomposeChar
  dsimp only
  rw [if_neg (show ¬c.toNat < 0xC0 by omega), if_pos ⟨hlow, hhigh⟩]
  split
  · exact ⟨rfl, by simp only [List.forall_mem_cons]; exact ⟨hlead, hvowel, by simp⟩⟩
  · exact ⟨rfl, by simp only [List.forall_mem_cons]; exact ⟨hlead, hvowel, htrail, by simp⟩⟩

/-- A letter of the Hangul alphabet does not decompose. -/
theorem length_decomposeChar_of_letter (h : 0x1100 ≤ c.toNat) (h' : c.toNat < 0x1200) :
    (decomposeChar c).length = 1 := by
  have hno : ¬IsSyllable c.toNat := fun hsyllable => by
    have := hsyllable.1
    omega
  rcases decomposeChar_cases hno with ⟨entry, hentry, hkey, -⟩ | ⟨-, hdecompose⟩
  · refine absurd ?_ (keys_decompositions entry hentry).2.1
    rw [hkey]
    exact ⟨h, h'⟩
  · rw [hdecompose]
    rfl

theorem length_decomposeChar_pos (c : Char) : 1 ≤ (decomposeChar c).length := by
  by_cases h : IsSyllable c.toNat
  · rw [(decomposeChar_of_isSyllable h).1]
    split <;> decide
  · rcases decomposeChar_cases h with ⟨entry, hentry, -, hdecompose⟩ | ⟨-, hdecompose⟩
    · rw [hdecompose, List.length_map]
      exact (keys_decompositions entry hentry).2.2.2
    · rw [hdecompose]
      exact Nat.le_refl 1

/-- What a character decomposes to does not decompose any more. -/
theorem length_decomposeChar_of_mem (h : d ∈ decomposeChar c) : (decomposeChar d).length = 1 := by
  -- syllables decompose by arithmetic, all else by the table
  by_cases hsyllable : IsSyllable c.toNat
  · obtain ⟨hlow, hhigh⟩ := (decomposeChar_of_isSyllable hsyllable).2 d h
    exact length_decomposeChar_of_letter hlow hhigh
  · rcases decomposeChar_cases hsyllable with ⟨entry, hentry, -, hdecompose⟩ | ⟨-, hdecompose⟩
    · rw [hdecompose] at h
      obtain ⟨n, hn, rfl⟩ := List.mem_map.mp h
      obtain ⟨hno, hunits⟩ := values_decompositions entry hentry n hn
      have hcode := code_ofNat ((decompositions_short entry hentry).2 n hn).1
      rw [length_decomposeChar (hcode.symm ▸ hno), hcode, hunits]
    · rw [hdecompose] at h
      rw [List.mem_singleton.mp h, hdecompose]
      rfl

/-- **A composite weighs as much as its parts.** -/
theorem length_decomposeChar_of_composePair (h : composePair a b = some c) :
    (decomposeChar c).length = (decomposeChar a).length + (decomposeChar b).length := by
  unfold composePair at h
  dsimp only at h
  split at h
  · -- a leading consonant and a vowel
    next hletters =>
    obtain ⟨ha, ha', hb, hb'⟩ := hletters
    have hcode : c.toNat = 0xAC00 + ((a.toNat - 0x1100) * 21 + (b.toNat - 0x1161)) * 28 := by
      rw [← Option.some.inj h]
      exact code_ofNat (Or.inl (by omega))
    rw [(decomposeChar_of_isSyllable (by rw [hcode, IsSyllable]; omega)).1, if_pos (by omega),
      length_decomposeChar_of_letter ha (by omega), length_decomposeChar_of_letter (by omega)
        (by omega)]
  · split at h
    · -- a syllable without a trailing consonant, and one
      next hsyllable =>
      obtain ⟨ha, ha', hopen, hb, hb'⟩ := hsyllable
      have hcode : c.toNat = a.toNat + (b.toNat - 0x11A7) := by
        rw [← Option.some.inj h]
        exact code_ofNat (Or.inl (by omega))
      rw [(decomposeChar_of_isSyllable (by rw [hcode, IsSyllable]; omega)).1, if_neg (by omega),
        (decomposeChar_of_isSyllable ⟨ha, ha'⟩).1, if_pos hopen,
        length_decomposeChar_of_letter (by omega) (by omega)]
    · -- a pair of the table
      obtain ⟨entry, hfound, hc⟩ := Option.map_eq_some_iff.mp h
      obtain ⟨hmem, hside⟩ := mem_of_find hfound
      obtain ⟨⟨hno, hno', hno''⟩, hunits⟩ := units_composites entry hmem.val
      obtain ⟨ha, hb⟩ := Ordering.then_eq_eq.mp hside
      have hcode : c.toNat = entry.2 := by
        rw [← hc]
        exact code_ofNat (composites_ne_nul entry hmem.val).1
      rw [← Nat.compare_eq_eq.mp ha] at hno hunits
      rw [← Nat.compare_eq_eq.mp hb] at hno' hunits
      rw [← hcode] at hno'' hunits
      rw [length_decomposeChar hno, length_decomposeChar hno', length_decomposeChar hno'', hunits]

/-! ### Texts -/

/-- The number of characters of the full decomposition. -/
def weight (t : Text) : Nat := (decompose t).length

@[simp] theorem weight_nil : weight [] = 0 := rfl

@[simp] theorem weight_cons (c : Char) (t : Text) :
    weight (c :: t) = (decomposeChar c).length + weight t := by
  rw [weight, decompose, List.flatMap_cons, List.length_append]
  rfl

@[simp] theorem weight_append (s t : Text) : weight (s ++ t) = weight s + weight t := by
  rw [weight, decompose, List.flatMap_append, List.length_append]
  rfl

theorem weight_perm (h : s.Perm t) : weight s = weight t := (h.flatMap_right _).length_eq

theorem weight_eq_zero_iff : weight t = 0 ↔ t = [] := by
  cases t with
  | nil => simp
  | cons c t =>
    have hpos := length_decomposeChar_pos c
    rw [weight_cons]
    constructor
    · intro h
      omega
    · rintro ⟨⟩

/-- Decomposition keeps the weight. -/
theorem weight_decompose (t : Text) : weight (decompose t) = weight t := by
  -- every character of a decomposition weighs one, so that the weight is the length
  have hone : ∀ s : Text, (∀ d ∈ s, (decomposeChar d).length = 1) → weight s = s.length := by
    intro s
    induction s with
    | nil => exact fun _ => rfl
    | cons d s ih =>
      intro h
      obtain ⟨hd, hs⟩ := List.forall_mem_cons.mp h
      rw [weight_cons, hd, ih hs, List.length_cons, Nat.add_comm]
  refine hone _ (fun d hd => ?_)
  obtain ⟨c, -, hc⟩ := List.mem_flatMap.mp hd
  exact length_decomposeChar_of_mem hc

/-- A step of a composition takes the weight of the character in hand. -/
theorem weight_held_step (x : Composing) (c : Char) :
    weight (x.step c).held = (decomposeChar c).length + weight x.held := by
  rcases Composing.held_step x c with h | ⟨a, b, ha, hb, h⟩
  · rw [weight_perm h, weight_cons]
  · -- the composite in the place of the starter weighs as much as the starter and `c`
    rw [h, Composing.held, ha]
    simp only [Option.toList_some, List.singleton_append, weight_append, weight_cons,
      length_decomposeChar_of_composePair hb]
    omega

/-- Composition keeps the weight. -/
theorem weight_compose (t : Text) : weight (compose t) = weight t := by
  have hfold : ∀ (t : Text) (x : Composing),
      weight (t.foldl Composing.step x).held = weight t + weight x.held := by
    intro t
    induction t with
    | nil => exact fun x => (Nat.zero_add _).symm
    | cons c t ih =>
      intro x
      rw [List.foldl_cons, ih, weight_held_step, weight_cons]
      omega
  rw [compose, Composing.finish_eq, weight_perm (List.reverse_perm _), hfold]
  rfl

/-- **A text and its normal form have the same weight.** -/
theorem weight_normalForm (t : Text) : weight (normalForm t) = weight t := by
  rw [normalForm]
  split
  · rfl
  · rw [weight_compose, weight_perm (orderMarks_perm _), weight_decompose]

/-- The case of ASCII letters has no weight. -/
theorem weight_map_asciiLower (t : Text) : weight (t.map asciiLower) = weight t := by
  induction t with
  | nil => rfl
  | cons c t ih =>
    have hc : (decomposeChar (asciiLower c)).length = (decomposeChar c).length := by
      rw [asciiLower]
      split
      · next hcapital =>
        obtain ⟨hlow, hhigh⟩ := hcapital
        have hlow' : 65 ≤ c.toNat := hlow
        have hhigh' : c.toNat ≤ 90 := hhigh
        have hcode := code_ofNat (n := c.toNat + 32) (Or.inl (by omega))
        rw [decomposeChar, decomposeChar, if_pos (by omega), if_pos (by omega)]
        rfl
      · rfl
    rw [List.map_cons, weight_cons, weight_cons, hc, ih]

/-- **A text that occurs in its normal form is its normal form**, up to the case of ASCII
letters. -/
theorem Occurs.eq_of_normalForm (h : Occurs t (normalForm t)) :
    t.map asciiLower = (normalForm t).map asciiLower := by
  obtain ⟨front, back, heq⟩ := h
  have hweight := congrArg weight heq
  rw [weight_append, weight_append, weight_map_asciiLower, weight_map_asciiLower,
    weight_normalForm] at hweight
  -- what stands around the text has no weight
  have hfront : front = [] := weight_eq_zero_iff.mp (by omega)
  have hback : back = [] := weight_eq_zero_iff.mp (by omega)
  rw [← heq, hfront, hback, List.nil_append, List.append_nil]

end PackageCatalog.Text
