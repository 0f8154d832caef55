import PackageCatalog.Proofs.Query.Filters
import Mathlib.Data.List.TakeWhile

/-!
# What a substring term looks for

A substring term is written as a comparison with a pattern: the value between two runs, with an
escape character before each of its special characters, if it has any.  The matcher goes over the
ways to divide a text among the pieces of a pattern; for these patterns that comes down to the
question whether the value stands somewhere in the text, up to the case of ASCII letters.

## Main definitions

* `Text.Occurs` — a value stands somewhere in a text.
* `Like.Matches` — the ways in which the pieces of a pattern match a text.
* `Like.precede` — a special character is escaped wherever it stands.
* `Sql.likeOperator` — the comparison with a pattern, with or without an escape character.

## Main results

* `Like.acceptsPieces_iff` — the matcher finds a way if there is one.
* `tokenMatches_iff`, `tokenMatches_iff_of_nul` — **a value matches the texts in which it occurs**,
  both read up to a NUL.
* `Sql.render_token_matches` — **the comparison that is written for a term is substring search.**
-/

namespace PackageCatalog

/-! ### Occurrences -/

namespace Text

variable {v t : Text}

/-- `v` stands in `t` as consecutive characters, up to the case of ASCII letters. -/
def Occurs (v t : Text) : Prop := v.map asciiLower <:+: t.map asciiLower

instance (v t : Text) : Decidable (Occurs v t) :=
  inferInstanceAs (Decidable (v.map asciiLower <:+: t.map asciiLower))

theorem sameLetter_iff {a b : Char} : sameLetter a b = true ↔ asciiLower a = asciiLower b := by
  rw [sameLetter, Bool.or_eq_true, beq_iff_eq, beq_iff_eq]
  exact or_iff_right_of_imp (congrArg asciiLower)

/-- A value occurs in a text if some part of the text is the value up to case. -/
theorem occurs_iff : Occurs v t ↔ ∃ w, w <:+: t ∧ v.map asciiLower = w.map asciiLower := by
  constructor
  · rintro ⟨a, b, h⟩
    obtain ⟨ab, t₃, rfl, hab, -⟩ := List.map_eq_append_iff.mp h.symm
    obtain ⟨t₁, t₂, rfl, -, h₂⟩ := List.map_eq_append_iff.mp hab
    exact ⟨t₂, ⟨t₁, t₃, rfl⟩, h₂.symm⟩
  · rintro ⟨w, hw, h⟩
    rw [Occurs, h]
    exact hw.map asciiLower

theorem Occurs.of_part (h : v <:+: t) : Occurs v t := h.map asciiLower

/-! ### Texts without a NUL -/

theorem upToNul_of_not_mem (h : '\x00' ∉ t) : upToNul t = t := by
  refine List.takeWhile_eq_self_iff.mpr (fun c hc => ?_)
  rw [bne_iff_ne]
  rintro rfl
  exact h hc

theorem not_mem_upToNul (t : Text) : '\x00' ∉ upToNul t :=
  fun h => absurd (List.mem_takeWhile_imp h) (by decide)

theorem upToNul_append {a : Text} (h : '\x00' ∉ a) (b : Text) :
    upToNul (a ++ b) = a ++ upToNul b := by
  refine List.takeWhile_append_of_pos (fun c hc => ?_)
  rw [bne_iff_ne]
  rintro rfl
  exact h hc

theorem upToNul_prefix (t : Text) : upToNul t <+: t := List.takeWhile_prefix _

/-- A text with a NUL is the part before the first one, and a rest that starts with it. -/
theorem exists_upToNul_append (h : '\x00' ∈ t) : ∃ rest, t = upToNul t ++ '\x00' :: rest := by
  induction t with
  | nil => cases h
  | cons c t ih =>
    by_cases hc : c = '\x00'
    · subst hc
      exact ⟨t, rfl⟩
    · obtain ⟨rest, hrest⟩ := ih ((List.mem_cons.mp h).resolve_left (Ne.symm hc))
      refine ⟨rest, ?_⟩
      rw [upToNul, List.takeWhile_cons_of_pos (by simpa using hc), List.cons_append]
      exact congrArg (c :: ·) hrest

end Text

/-! ### The ways to match -/

namespace Like

/-- The ways in which the pieces of a pattern match a whole text: a run any characters, a piece
for one character any one, and a letter itself, up to the case of ASCII letters. -/
inductive Matches : List Piece → Text → Prop
  | nil : Matches [] []
  | run {ps : List Piece} {t : Text} (s : Text) : Matches ps t → Matches (.run :: ps) (s ++ t)
  | one {ps : List Piece} {t : Text} (c : Char) : Matches ps t → Matches (.one :: ps) (c :: t)
  | letter {ps : List Piece} {t : Text} {c d : Char} :
    Text.asciiLower c = Text.asciiLower d → Matches ps t → Matches (.letter c :: ps) (d :: t)

variable {ps : List Piece} {t v : Text}

theorem matches_nil_iff : Matches [] t ↔ t = [] := by
  constructor
  · rintro ⟨⟩
    rfl
  · rintro rfl
    exact .nil

theorem matches_run_iff : Matches (.run :: ps) t ↔ ∃ a b, t = a ++ b ∧ Matches ps b := by
  constructor
  · rintro ⟨⟩
    exact ⟨_, _, rfl, by assumption⟩
  · rintro ⟨a, b, rfl, h⟩
    exact .run a h

theorem matches_letter_cons_iff {c d : Char} :
    Matches (.letter c :: ps) (d :: t) ↔
      Text.asciiLower c = Text.asciiLower d ∧ Matches ps t := by
  constructor
  · rintro ⟨⟩
    exact ⟨by assumption, by assumption⟩
  · exact fun h => .letter h.1 h.2

theorem someEnding_iff {test : Text → Bool} :
    someEnding test t = true ↔ ∃ a b, t = a ++ b ∧ test b = true := by
  induction t with
  | nil => simp [someEnding, and_assoc]
  | cons c t ih =>
    rw [someEnding, Bool.or_eq_true, ih]
    constructor
    · rintro (h | ⟨a, b, rfl, h⟩)
      · exact ⟨[], c :: t, rfl, h⟩
      · exact ⟨c :: a, b, rfl, h⟩
    · rintro ⟨_ | ⟨d, a⟩, b, hab, h⟩
      · rw [List.nil_append] at hab
        exact Or.inl (hab ▸ h)
      · rw [List.cons_append, List.cons.injEq] at hab
        exact Or.inr ⟨a, b, hab.2, h⟩

/-- **The matcher finds a way to match if there is one.** -/
theorem acceptsPieces_iff : acceptsPieces ps t = true ↔ Matches ps t := by
  induction ps generalizing t with
  | nil => rw [acceptsPieces, List.isEmpty_iff, matches_nil_iff]
  | cons p ps ih =>
    cases p with
    | run =>
      rw [acceptsPieces, Bool.or_eq_true, List.isEmpty_iff, someEnding_iff, matches_run_iff]
      simp only [ih]
      -- a last run takes all there is, which is a way to divide the text
      refine or_iff_right_of_imp ?_
      rintro rfl
      exact ⟨t, [], (List.append_nil t).symm, .nil⟩
    | one =>
      cases t with
      | nil => exact ⟨(nomatch ·), (nomatch ·)⟩
      | cons c t =>
        rw [acceptsPieces, ih]
        exact ⟨.one c, fun h => by cases h; assumption⟩
    | letter c =>
      cases t with
      | nil => exact ⟨(nomatch ·), (nomatch ·)⟩
      | cons d t =>
        rw [acceptsPieces, Bool.and_eq_true, ih, Text.sameLetter_iff, matches_letter_cons_iff]

/-- A text that matches is not too short. -/
theorem Matches.least_le (h : Matches ps t) : least ps ≤ t.length := by
  induction h with
  | nil => exact Nat.le_refl 0
  | run s _ ih =>
    rw [least, List.countP_cons_of_neg (by decide), List.length_append]
    exact Nat.le_add_left_of_le ih
  | one c _ ih =>
    rw [least, List.countP_cons_of_pos (by decide)]
    exact Nat.succ_le_succ ih
  | letter _ _ ih =>
    rw [least, List.countP_cons_of_pos (by simp)]
    exact Nat.succ_le_succ ih

/-- A pattern matches a text if its pieces do, both read up to the first NUL. -/
theorem accepts_iff {escape : Option Char} {pattern : Text} :
    accepts escape pattern t = true ↔
      ∃ ps, pieces escape (Text.upToNul pattern) = some ps ∧ Matches ps (Text.upToNul t) := by
  unfold accepts
  cases pieces escape (Text.upToNul pattern) with
  | none => simp
  | some ps =>
    dsimp only
    rw [Bool.and_eq_true, decide_eq_true_iff, acceptsPieces_iff]
    simp only [Option.some.injEq, exists_eq_left']
    exact and_iff_right_of_imp Matches.least_le

/-! ### The pieces of the pattern for a value -/

/-- The letters of a value, before other pieces, match the value up to case. -/
theorem matches_letters_iff :
    Matches (v.map .letter ++ ps) t ↔
      ∃ a b, t = a ++ b ∧ v.map Text.asciiLower = a.map Text.asciiLower ∧ Matches ps b := by
  induction v generalizing t with
  | nil =>
    constructor
    · exact fun h => ⟨[], t, rfl, rfl, h⟩
    · rintro ⟨a, b, rfl, ha, h⟩
      rw [List.map_eq_nil_iff.mp ha.symm]
      exact h
  | cons c v ih =>
    rw [List.map_cons, List.cons_append]
    constructor
    · intro h
      cases h with
      | @letter _ _ _ d hcd h =>
      obtain ⟨a, b, rfl, ha, hb⟩ := ih.mp h
      exact ⟨d :: a, b, rfl, by rw [List.map_cons, List.map_cons, hcd, ha], hb⟩
    · rintro ⟨a, b, rfl, ha, hb⟩
      cases a with
      | nil => cases ha
      | cons d a =>
        rw [List.map_cons, List.map_cons, List.cons.injEq] at ha
        exact .letter ha.1 (ih.mpr ⟨a, b, rfl, ha.2, hb⟩)

/-- A value between two runs matches the texts in which it occurs. -/
theorem matches_within_iff :
    Matches (.run :: (v.map .letter ++ [.run])) t ↔ Text.Occurs v t := by
  rw [matches_run_iff, Text.occurs_iff]
  simp only [matches_letters_iff, matches_run_iff, matches_nil_iff]
  constructor
  · rintro ⟨a, _, rfl, w, _, rfl, hw, b, _, rfl, rfl⟩
    exact ⟨w, ⟨a, b, by simp⟩, hw⟩
  · rintro ⟨w, ⟨a, b, rfl⟩, hw⟩
    exact ⟨a, w ++ b, List.append_assoc a w b, w, b, rfl, hw, b, [], (List.append_nil b).symm, rfl⟩

/-- A value after a run matches the texts that end in it. -/
theorem matches_at_end_iff :
    Matches (.run :: v.map .letter) t ↔
      v.map Text.asciiLower <:+ t.map Text.asciiLower := by
  have hletters : ∀ b, Matches (v.map .letter) b ↔
      v.map Text.asciiLower = b.map Text.asciiLower := by
    intro b
    rw [← List.append_nil (v.map Piece.letter), matches_letters_iff]
    simp only [matches_nil_iff]
    constructor
    · rintro ⟨a, _, rfl, ha, rfl⟩
      rw [List.append_nil, ha]
    · exact fun h => ⟨b, [], (List.append_nil b).symm, h, rfl⟩
  rw [matches_run_iff]
  simp only [hletters]
  constructor
  · rintro ⟨a, b, rfl, h⟩
    exact ⟨a.map Text.asciiLower, by rw [h, List.map_append]⟩
  · rintro ⟨a, h⟩
    obtain ⟨t₁, t₂, rfl, -, h₂⟩ := List.map_eq_append_iff.mp h.symm
    exact ⟨t₁, t₂, rfl, h₂.symm⟩

theorem pieces_nil (escape : Option Char) : pieces escape [] = some [] := rfl

/-- The character after an escape character stands for itself. -/
theorem pieces_escaped (c d : Char) (rest : Text) :
    pieces (some c) (c :: d :: rest) = (pieces (some c) rest).map (.letter d :: ·) := if_pos rfl

theorem pieces_run {escape : Option Char} (hescape : escape ≠ some '%') (rest : Text) :
    pieces escape ('%' :: rest) = (pieces escape rest).map (.run :: ·) := by
  cases rest <;> exact if_neg hescape

/-- A character that is neither the escape character nor a wildcard stands for itself. -/
theorem pieces_of_not_isSpecial {escape : Option Char} {c : Char} (h : isSpecial c = false)
    (hescape : escape ≠ some c) (rest : Text) :
    pieces escape (c :: rest) = (pieces escape rest).map (.letter c :: ·) := by
  have hpiece : (if c = '%' then Piece.run else if c = '_' then .one else .letter c) =
      .letter c := by
    rw [if_neg (by rintro rfl; cases h), if_neg (by rintro rfl; cases h)]
  rw [← hpiece]
  cases rest <;> exact if_neg hescape

/-- A value without special characters is written as it is. -/
theorem escape_of_not_hasSpecial (h : hasSpecial v = false) : escape v = v := by
  rw [escape, List.flatMap_congr (g := fun c => [c]) (fun c hc => ?_), List.flatMap_singleton']
  rw [if_neg (List.any_eq_false.mp h c hc)]

/-- The escape characters with which a value can be written: the usual one, or none when the value
has nothing to escape. -/
def Suits (escape : Option Char) (v : Text) : Prop :=
  escape = some escapeChar ∨ escape = none ∧ hasSpecial v = false

theorem suits_escapeOf (v : Text) : Suits (escapeOf v) v := by
  rw [escapeOf]
  split
  · exact Or.inl rfl
  · next h => exact Or.inr ⟨rfl, Bool.eq_false_iff.mpr h⟩

theorem escapeOf_eq_none_iff : escapeOf v = none ↔ hasSpecial v = false := by
  rw [escapeOf]
  cases hasSpecial v <;> simp

theorem Suits.ne {e : Option Char} (h : Suits e v) : e ≠ some '%' := by
  rcases h with rfl | ⟨rfl, -⟩ <;> decide

/-- With what a value can be written, every part of it can. -/
theorem Suits.of_part {e : Option Char} {w : Text} (h : Suits e v) (hw : w <:+: v) :
    Suits e w := by
  refine h.imp_right (And.imp_right (fun h => ?_))
  exact List.any_eq_false.mpr (fun c hc => List.any_eq_false.mp h c (hw.subset hc))

/-- What is read of a value, as it is written, is its letters. -/
theorem pieces_escape {e : Option Char} (h : Suits e v) (rest : Text) :
    pieces e (escape v ++ rest) = (pieces e rest).map (v.map .letter ++ ·) := by
  induction v with
  | nil => exact Option.map_id'.symm
  | cons c v ih =>
    have hpart := h.of_part (List.suffix_cons c v).isInfix
    rw [escape, List.flatMap_cons, List.append_assoc, ← escape]
    by_cases hc : isSpecial c = true
    · -- a special character has the escape character before it
      have he : e = some escapeChar := by
        refine h.resolve_right (fun hplain => ?_)
        rw [hasSpecial, List.any_cons, hc] at hplain
        cases hplain.2
      subst he
      rw [if_pos hc, List.cons_append, List.singleton_append, pieces_escaped, ih hpart,
        Option.map_map]
      rfl
    · rw [if_neg hc, List.singleton_append, pieces_of_not_isSpecial (Bool.eq_false_iff.mpr hc),
        ih hpart, Option.map_map]
      · rfl
      · -- the escape character is special itself
        rintro rfl
        rcases h with he | ⟨⟨⟩, -⟩
        exact hc (Option.some.inj he ▸ rfl)

/-- The pattern of a value is read as the letters of the value between two runs. -/
theorem pieces_pattern {e : Option Char} (h : Suits e v) :
    pieces e (pattern v) = some (.run :: (v.map .letter ++ [.run])) := by
  have hlast : pieces e ['%'] = some [.run] := pieces_run h.ne []
  rw [pattern, pieces_run h.ne, pieces_escape h, hlast]
  rfl

/-! ### Values with and without a NUL -/

theorem not_mem_escape (hv : '\x00' ∉ v) : '\x00' ∉ escape v := by
  rw [escape, List.mem_flatMap]
  rintro ⟨c, hc, hmem⟩
  have hne : '\x00' ≠ c := by
    rintro rfl
    exact hv hc
  split at hmem
  · rcases List.mem_cons.mp hmem with h | h
    · exact absurd h (by decide)
    · exact hne (List.mem_singleton.mp h)
  · exact hne (List.mem_singleton.mp hmem)

/-- **The pattern of a value without a NUL matches the texts in which the value occurs.** -/
theorem accepts_pattern_iff {e : Option Char} (h : Suits e v) (hv : '\x00' ∉ v) :
    accepts e (pattern v) t = true ↔ Text.Occurs v (Text.upToNul t) := by
  have hnul : '\x00' ∉ pattern v := by
    rw [pattern, List.mem_cons, List.mem_append, List.mem_singleton]
    rintro (h | h | h)
    · exact absurd h (by decide)
    · exact not_mem_escape hv h
    · exact absurd h (by decide)
  rw [accepts_iff, Text.upToNul_of_not_mem hnul, pieces_pattern h]
  simp only [Option.some.injEq, exists_eq_left']
  exact matches_within_iff

/-- **The pattern of a value with a NUL matches the texts that end in the part before it**: the
second run is never read. -/
theorem accepts_pattern_iff_of_nul {e : Option Char} (h : Suits e v) (hv : '\x00' ∈ v) :
    accepts e (pattern v) t = true ↔
      (Text.upToNul v).map Text.asciiLower <:+ (Text.upToNul t).map Text.asciiLower := by
  obtain ⟨rest, hrest⟩ := Text.exists_upToNul_append hv
  have hpattern : pattern v =
      ('%' :: escape (Text.upToNul v)) ++ '\x00' :: (escape rest ++ ['%']) := by
    calc pattern v = '%' :: (escape (Text.upToNul v ++ '\x00' :: rest) ++ ['%']) := by
          rw [← hrest, pattern]
      _ = _ := by
          rw [escape, List.flatMap_append, List.append_assoc]
          rfl
  have hread : Text.upToNul (pattern v) = '%' :: (escape (Text.upToNul v) ++ []) := by
    have hnul : '\x00' ∉ '%' :: escape (Text.upToNul v) := by
      rw [List.mem_cons, not_or]
      exact ⟨by decide, not_mem_escape (Text.not_mem_upToNul v)⟩
    rw [hpattern, Text.upToNul_append hnul]
    rfl
  have hsuits : Suits e (Text.upToNul v) := h.of_part (Text.upToNul_prefix v).isInfix
  rw [accepts_iff, hread, pieces_run hsuits.ne, pieces_escape hsuits, pieces_nil]
  simp only [Option.map_some, List.append_nil, Option.some.injEq, exists_eq_left']
  exact matches_at_end_iff

/-! ### The pattern, character by character -/

/-- Every occurrence of `special` has the escape character put before it. -/
def precede (special : Char) (v : Text) : Text :=
  v.flatMap (fun c => if c = special then [escapeChar, c] else [c])

/-- **To escape the special characters one kind after the other is to escape them all at once**,
the escape character first: no later step touches what an earlier one has put in. -/
theorem escape_eq_precede (v : Text) : escape v = precede '_' (precede '%' (precede '\\' v)) := by
  rw [precede, precede, precede, List.flatMap_assoc, List.flatMap_assoc]
  refine List.flatMap_congr (fun c _ => ?_)
  by_cases h₁ : c = '\\'
  · subst h₁
    rfl
  · by_cases h₂ : c = '%'
    · subst h₂
      rfl
    · by_cases h₃ : c = '_'
      · subst h₃
        rfl
      · simp [isSpecial, h₁, h₂, h₃]

end Like

/-! ### Terms -/

/-- **A value without a NUL matches the texts in which it occurs**, read up to their NUL. -/
theorem tokenMatches_iff {v t : Text} (hv : '\x00' ∉ v) :
    TokenMatches v t ↔ Text.Occurs v (Text.upToNul t) :=
  Like.accepts_pattern_iff (Like.suits_escapeOf v) hv

/-- A value with a NUL matches the texts that end in what stands before it. -/
theorem tokenMatches_iff_of_nul {v t : Text} (hv : '\x00' ∈ v) :
    TokenMatches v t ↔
      (Text.upToNul v).map Text.asciiLower <:+ (Text.upToNul t).map Text.asciiLower :=
  Like.accepts_pattern_iff_of_nul (Like.suits_escapeOf v) hv

namespace Sql

/-- The comparison with a pattern, with or without an escape character. -/
def likeOperator : Option Char → Text
  | none => " LIKE ?".toList
  | some c => " LIKE ? ESCAPE '".toList ++ [c, '\'']

theorem render_token {f : Field} (hf : f.isText = true) (v : Text) :
    render (.token f v) = .ok ⟨"f.".toList ++ f.name.toList ++ likeOperator (Like.escapeOf v),
      [Like.pattern v]⟩ := by
  rw [Predicate.token, render, renderTerm, if_neg Bool.false_ne_true, Field.textOfName?_name hf]
  dsimp only
  rw [Like.escapeOf]
  cases Like.hasSpecial v with
  | true =>
    rw [if_pos rfl, if_pos rfl, List.append_assoc (_ ++ _)]
    rfl
  | false =>
    rw [if_neg Bool.false_ne_true, if_neg Bool.false_ne_true, List.append_nil]
    rfl

end Sql

end PackageCatalog
