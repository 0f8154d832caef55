import PackageCatalog.Proofs.Query.Substring
import PackageCatalog.Proofs.Search
import PackageCatalog.Proofs.Text.Normal

/-!
# Searching for a part of a content

A search with one word as its pattern asks of every document the same question, whether the word
is found in its content.  A word that is not very long is always tried, so the search returns, and
what it returns is told by the contents alone.

## Main definitions

* `Text.FoundIn` — what a word looks for in a text.
* `SearchOptions.forContent` — the filters that ask for a word in the content.

## Main results

* `tooLong_eq_false` — a word of at most 12499 characters is not too long.
* `Table.exists_search_forContent` — **the search returns exactly the documents in whose content the
  word is found.**
* `Table.perm_search_forContent_iff` — two words find the same documents if no stored content tells
  them apart.
-/

namespace PackageCatalog

/-! ### Short words -/

namespace Utf8

theorem length_encodeChar_le (c : Char) : (encodeChar c).length ≤ 4 := by
  unfold encodeChar
  dsimp only
  split
  · simp
  · split
    · simp
    · split <;> simp

/-- Each character of a value takes at most four octets, the escape character before it
included. -/
theorem length_encode_escape_le (v : Text) : (encode (Like.escape v)).length ≤ 4 * v.length := by
  induction v with
  | nil => exact Nat.le_refl 0
  | cons c v ih =>
    have hc : (encode (if Like.isSpecial c then [Like.escapeChar, c] else [c])).length ≤ 4 := by
      split
      · next hspecial =>
        rw [Like.isSpecial, Bool.or_eq_true, Bool.or_eq_true, beq_iff_eq, beq_iff_eq,
          beq_iff_eq] at hspecial
        rcases hspecial with (rfl | rfl) | rfl <;> decide
      · rw [encode_cons, encode_nil, List.append_nil]
        exact length_encodeChar_le c
    rw [Like.escape, List.flatMap_cons, ← Like.escape, encode, List.flatMap_append, ← encode,
      ← encode, List.length_append, List.length_cons]
    omega

end Utf8

/-- A word of at most 12499 characters has a pattern that is tried. -/
theorem tooLong_eq_false {v : Text} (h : v.length ≤ 12499) : tooLong v = false := by
  have hescape := Utf8.length_encode_escape_le v
  have hpattern : (Utf8.encode (Like.pattern v)).length =
      1 + ((Utf8.encode (Like.escape v)).length + 1) := by
    rw [Like.pattern, Utf8.encode_cons, List.length_append, Utf8.encode, List.flatMap_append,
      List.length_append]
    rfl
  rw [tooLong, decide_eq_false_iff_not, hpattern, Like.patternLimit]
  omega

/-! ### What a word looks for -/

namespace Text

variable {w w' t : Text}

/-- What a word looks for in a text that is read up to its NUL: the word, up to the case of ASCII
letters; or, if there is a NUL in the word, an end of the text that is the part before it. -/
def FoundIn (w t : Text) : Prop :=
  if '\x00' ∈ w then (upToNul w).map asciiLower <:+ (upToNul t).map asciiLower
  else Occurs w (upToNul t)

theorem foundIn_iff (hw : '\x00' ∉ w) : FoundIn w t ↔ Occurs w (upToNul t) := by
  rw [FoundIn, if_neg hw]

theorem tokenMatches_iff_foundIn : TokenMatches w t ↔ FoundIn w t := by
  rw [FoundIn]
  split
  · next hw => exact tokenMatches_iff_of_nul hw
  · next hw => exact tokenMatches_iff hw

theorem asciiLower_eq_nul_iff {c : Char} : asciiLower c = '\x00' ↔ c = '\x00' := by
  constructor
  · intro h
    rw [asciiLower] at h
    split at h
    · next hcapital =>
      have hlow : 65 ≤ c.toNat := hcapital.1
      have hhigh : c.toNat ≤ 90 := hcapital.2
      exact absurd h (ofNat_ne_nul (Or.inl (by omega)) (by omega))
    · exact h
  · rintro rfl
    decide

theorem upToNul_map_asciiLower (t : Text) :
    (upToNul t).map asciiLower = upToNul (t.map asciiLower) := by
  rw [upToNul, upToNul, List.takeWhile_map]
  refine congrArg _ (congrArg (List.takeWhile · t) (funext fun c => ?_))
  rw [Function.comp_apply, Bool.eq_iff_iff, bne_iff_ne, bne_iff_ne, Ne, Ne, asciiLower_eq_nul_iff]

/-- The case of ASCII letters does not matter. -/
theorem foundIn_congr (h : w.map asciiLower = w'.map asciiLower) : FoundIn w t ↔ FoundIn w' t := by
  have hmem : ∀ v : Text, '\x00' ∈ v ↔ '\x00' ∈ v.map asciiLower := by
    intro v
    simp only [List.mem_map, asciiLower_eq_nul_iff, exists_eq_right]
  have hnul : '\x00' ∈ w ↔ '\x00' ∈ w' := by rw [hmem w, hmem w', h]
  by_cases hw : '\x00' ∈ w
  · rw [FoundIn, FoundIn, if_pos hw, if_pos (hnul.mp hw), upToNul_map_asciiLower,
      upToNul_map_asciiLower w', h]
  · rw [foundIn_iff hw, foundIn_iff (fun hw' => hw (hnul.mpr hw')), Occurs, Occurs, h]

end Text

/-! ### One word -/

namespace SearchOptions

/-- The filters that ask for a word in the content. -/
def forContent (w : Text) : SearchOptions := { patterns := [w] }

variable {w : Text} {d : Document}

theorem unwindowed_forContent (w : Text) : (forContent w).Unwindowed := ⟨rfl, rfl⟩

theorem accepts_forContent_iff : (forContent w).Accepts d ↔ Text.FoundIn w d.content := by
  rw [← Text.tokenMatches_iff_foundIn]
  constructor
  · exact fun h => h.patterns w (List.mem_singleton_self w)
  · intro h
    have hnone : ∀ {P : Text → Prop}, ∀ v ∈ ([] : List Text), P v :=
      fun _ hv => absurd hv List.not_mem_nil
    exact ⟨List.forall_mem_singleton.mpr h, hnone, Or.inl rfl, hnone, hnone, Or.inl rfl⟩

theorem withinLimits_forContent (h : tooLong w = false) : (forContent w).WithinLimits where
  fits := rfl
  short := by
    rw [terms, forContent]
    simpa using h

end SearchOptions

namespace Table

variable {t : Table} {w w' : Text} {ds ds' : List Document}

/-- **A search for a short word returns exactly the documents in whose content it is found.** -/
theorem exists_search_forContent (hs : t.store.Sound) (hopen : t.access ≠ .closed)
    (hw : w.length ≤ 12499) :
    ∃ ds, t.search (.forContent w) = .ok ds ∧ ds.Nodup ∧
      ∀ d, d ∈ ds ↔ d ∈ t.store.documents ∧ Text.FoundIn w d.content := by
  have hlimits := SearchOptions.withinLimits_forContent (tooLong_eq_false hw)
  obtain ⟨ds, hds⟩ := exists_search hopen (SearchOptions.unwindowed_forContent w) hlimits
  obtain ⟨hnodup, hmem⟩ := mem_search_iff hs (SearchOptions.unwindowed_forContent w) hds
  refine ⟨ds, hds, hnodup, fun d => ?_⟩
  rw [hmem, SearchOptions.accepts_forContent_iff]

/-- Two words find the same documents exactly when no stored content tells them apart. -/
theorem perm_search_forContent_iff (hs : t.store.Sound) (h : t.search (.forContent w) = .ok ds)
    (h' : t.search (.forContent w') = .ok ds') :
    ds.Perm ds' ↔
      ∀ d ∈ t.store.documents, Text.FoundIn w d.content ↔ Text.FoundIn w' d.content := by
  obtain ⟨hnodup, hmem⟩ := mem_search_iff hs (SearchOptions.unwindowed_forContent w) h
  obtain ⟨hnodup', hmem'⟩ := mem_search_iff hs (SearchOptions.unwindowed_forContent w') h'
  rw [List.perm_ext_iff_of_nodup hnodup hnodup']
  simp only [hmem, hmem', SearchOptions.accepts_forContent_iff, and_congr_right_iff]

end Table

end PackageCatalog
