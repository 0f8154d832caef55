import PackageCatalog.Proofs.Text.Encoding

/-!
# The text of octets

Octets that are UTF-8 have the text that they encode, and no detector is asked.  Of all others the
text is what they write in the guessed encoding; where there is no guess, where the guess names no
encoding, and where the octets write nothing in it, they have none.

## Main definitions

* `Detector.Says`, `Detector.Decodes` — a guess, and the text of octets by it.

## Main results

* `canonical_eq_ok_iff`, `canonical_eq_error_iff` — when octets have a text, and when they have
  none.
* `law_of_canonical` — **the text of octets is what they write, in UTF-8 or else in the guessed
  encoding.**
-/

namespace PackageCatalog

/-- A detector says something about octets. -/
def Detector.Says (detect : Detector) (raw : Bytes) (guess : Text) : Prop :=
  detect raw = some guess ∧ guess ≠ []

/-- Octets write a text in the encoding that a detector says. -/
def Detector.Decodes (detect : Detector) (raw : Bytes) (t : Text) : Prop :=
  ∃ guess charset, detect.Says raw guess ∧ Charset.ofName? guess = some charset ∧
    charset.Writes raw t

variable {detect : Detector} {raw : Bytes} {label : NativeName} {t : Text} {e : Undecodable}

theorem Detector.decodes_iff {guess : Text} (h : detect.Says raw guess) :
    detect.Decodes raw t ↔ (Charset.ofName? guess).bind (·.decode raw) = some t := by
  simp only [Option.bind_eq_some_iff, Charset.decode_eq_some_iff]
  constructor
  · rintro ⟨guess', charset, hguess', hname, hwrites⟩
    cases Option.some.inj (h.1.symm.trans hguess'.1)
    exact ⟨charset, hname, hwrites⟩
  · rintro ⟨charset, hname, hwrites⟩
    exact ⟨guess, charset, h, hname, hwrites⟩

/-- Octets that are UTF-8 have the text that they encode. -/
theorem canonical_encode (detect : Detector) (t : Text) (label : NativeName) :
    canonical detect (Utf8.encode t) label = .ok t := by
  rw [canonical, Utf8.decode_encode]

/-- Octets that are not UTF-8, about which nothing is said. -/
theorem canonical_of_silent (hraw : Utf8.decode raw = none) (h : ∀ guess, ¬detect.Says raw guess)
    (label : NativeName) : canonical detect raw label = .error ⟨label, none⟩ := by
  unfold canonical
  rw [hraw]
  dsimp only
  split
  · rfl
  · rfl
  · next guess hne hguess => exact absurd ⟨hguess, fun hnil => hne (hnil ▸ rfl)⟩ (h guess)

/-- Octets that are not UTF-8, about which something is said. -/
theorem canonical_of_said {guess : Text} (hraw : Utf8.decode raw = none)
    (h : detect.Says raw guess) (label : NativeName) :
    canonical detect raw label =
      match (Charset.ofName? guess).bind (·.decode raw) with
      | some t => .ok t
      | none => .error ⟨label, some guess⟩ := by
  obtain ⟨hguess, hne⟩ := h
  obtain ⟨c, guess', rfl⟩ := List.exists_cons_of_ne_nil hne
  rewrite [canonical, hraw, hguess]
  rfl

/-- When octets have a text. -/
theorem canonical_eq_ok_iff : canonical detect raw label = .ok t ↔
    raw = Utf8.encode t ∨ Utf8.decode raw = none ∧ detect.Decodes raw t := by
  cases hraw : Utf8.decode raw with
  | some s =>
    have hs := Utf8.decode_eq_some_iff.mp hraw
    rw [hs, canonical_encode, Except.ok.injEq]
    constructor
    · rintro rfl
      exact Or.inl rfl
    · rintro (h | ⟨h, -⟩)
      · exact Utf8.encode_injective h
      · cases h
  | none =>
    have hother := Utf8.decode_eq_none_iff.mp hraw t
    simp only [hother, false_or, true_and]
    by_cases hsaid : ∃ guess, detect.Says raw guess
    · obtain ⟨guess, hguess⟩ := hsaid
      rw [canonical_of_said hraw hguess, Detector.decodes_iff hguess]
      split
      · next s hs => rw [hs, Except.ok.injEq, Option.some.injEq]
      · next hs => simp [hs]
    · rw [canonical_of_silent hraw (fun guess h => hsaid ⟨guess, h⟩)]
      constructor
      · exact fun h => by cases h
      · rintro ⟨guess, -, hguess, -⟩
        exact absurd ⟨guess, hguess⟩ hsaid

/-- A text that is answered is written by the octets, in UTF-8 or in the encoding that was guessed.
-/
theorem exists_writes_of_canonical (h : canonical detect raw label = .ok t) :
    ∃ charset, charset.Writes raw t ∧ (charset = .utf8 false ∨
      ∃ guess, detect.Says raw guess ∧ Charset.ofName? guess = some charset) := by
  rcases canonical_eq_ok_iff.mp h with hutf8 | ⟨-, guess, charset, hsaid, hname, hwrites⟩
  · exact ⟨.utf8 false, (Charset.writes_iff_of_unmarked rfl).mpr
      (Text.spells_iff_flatMap.mpr hutf8),
      Or.inl rfl⟩
  · exact ⟨charset, hwrites, Or.inr ⟨guess, hsaid, hname⟩⟩

/-- When octets have no text, and what is told of them: their label, and the guess if there was
one. -/
theorem canonical_eq_error_iff : canonical detect raw label = .error e ↔
    Utf8.decode raw = none ∧ (∀ t, ¬detect.Decodes raw t) ∧ e.label = label ∧
      ∀ guess, e.encoding = some guess ↔ detect.Says raw guess := by
  obtain ⟨label', encoding⟩ := e
  cases hraw : Utf8.decode raw with
  | some s =>
    rw [Utf8.decode_eq_some_iff.mp hraw, canonical_encode]
    simp
  | none =>
    simp only [true_and]
    by_cases hsaid : ∃ guess, detect.Says raw guess
    · -- the detector says one encoding
      obtain ⟨guess, hguess⟩ := hsaid
      have hall : ∀ encoding : Option Text,
          (∀ g, encoding = some g ↔ detect.Says raw g) ↔ some guess = encoding := by
        intro encoding
        constructor
        · exact fun h => ((h guess).mpr hguess).symm
        · rintro rfl g
          rw [Option.some.injEq]
          constructor
          · rintro rfl
            exact hguess
          · exact fun hg => Option.some.inj (hguess.1.symm.trans hg.1)
      have hnone : (∀ t, ¬detect.Decodes raw t) ↔
          (Charset.ofName? guess).bind (·.decode raw) = none := by
        simp only [Detector.decodes_iff hguess, Option.eq_none_iff_forall_ne_some, ne_eq]
      rw [canonical_of_said hraw hguess, hall, hnone, eq_comm (a := label')]
      split
      · next s hs => simp [hs]
      · next hs => simp [hs]
    · -- the detector says none
      have hquiet : ∀ guess, ¬detect.Says raw guess := fun guess h => hsaid ⟨guess, h⟩
      have hnone : ∀ t, ¬detect.Decodes raw t := by
        rintro t ⟨guess, -, hguess, -⟩
        exact hquiet guess hguess
      have hall : (∀ g, encoding = some g ↔ detect.Says raw g) ↔ none = encoding := by
        rw [eq_comm, Option.eq_none_iff_forall_ne_some]
        simp [hquiet]
      rw [canonical_of_silent hraw hquiet, hall, eq_comm (a := label')]
      simp [hnone]

end PackageCatalog
