import PackageCatalog.Proofs.Yaml.Plain
import PackageCatalog.Proofs.Yaml.Source

/-!
# The characters of written scalars

Whatever a text holds, it is written in characters that may stand in a document, and without a
carriage return.

## Main results

* `Yaml.all_writePlain`, `Yaml.all_writeSingle`, `Yaml.all_writeDouble` — each spelling.
* `Yaml.all_writeScalar` — **what is written is read as it stands.**
-/

namespace PackageCatalog.Yaml

variable {c : Char} {t : Text} {indent column : Nat}

/-! ### Outside of double quotes -/

theorem isClean_of_isPlainChar (h : isPlainChar c = true) : isClean c = true := by
  have hcarriage : c ≠ '\r' := by
    rintro rfl
    exact absurd h (by decide)
  by_cases hfeed : c = '\n'
  · subst hfeed
    rfl
  · rw [isClean, Bool.and_eq_true, bne_iff_ne]
    refine ⟨?_, hcarriage⟩
    simp only [isPlainChar, isAllowed, Bool.or_eq_true, Bool.and_eq_true, decide_eq_true_eq,
      beq_iff_eq, bne_iff_ne, hfeed, false_or] at h ⊢
    omega

theorem all_replicate_space (n : Nat) : (List.replicate n ' ').all isClean = true :=
  List.all_eq_true.mpr (fun c hc => by
    rw [List.eq_of_mem_replicate hc]
    rfl)

theorem all_newLine (indent : Nat) : (newLine indent).all isClean = true := by
  rw [newLine, List.all_cons, all_replicate_space]
  rfl

/-- A text that is written plain. -/
theorem all_writePlain {before : Option Char} (h : t.all isPlainChar = true) :
    (writePlain indent column before t).all isClean = true := by
  induction t generalizing column before with
  | nil => rfl
  | cons c t ih =>
    rw [List.all_cons, Bool.and_eq_true] at h
    rw [writePlain]
    split
    · rw [List.all_append, all_newLine, ih h.2]
      rfl
    · rw [List.all_cons, isClean_of_isPlainChar h.1, ih h.2]
      rfl

/-- A text between single quotes. -/
theorem all_writeSingle {before : Option Char} (h : t.all isPlainChar = true) :
    (writeSingle indent column before t).all isClean = true := by
  induction t generalizing column before with
  | nil => rfl
  | cons c t ih =>
    rw [List.all_cons, Bool.and_eq_true] at h
    have hc := isClean_of_isPlainChar h.1
    rw [writeSingle]
    dsimp only
    split
    · split
      · rw [List.all_append, all_newLine, ih h.2]
        rfl
      · rw [List.all_cons, hc, ih h.2]
        rfl
    split
    · have hrest := @ih indent (some c) h.2
      have hextra : (if c == '\n' && !before.any isBreak then ['\n'] else []).all isClean =
          true := by
        split <;> rfl
      rw [List.all_append, hextra, List.all_cons, hc]
      split
      · rw [hrest]
        rfl
      · rw [List.all_append, all_replicate_space, hrest]
        rfl
    split
    · rw [List.all_cons, List.all_cons, ih h.2]
      rfl
    · rw [List.all_cons, hc, ih h.2]
      rfl

/-! ### Between double quotes -/

theorem isClean_of_isPrinted (h : isPrinted c = true) : isClean c = true := by
  have hcarriage : c ≠ '\r' := by
    rintro rfl
    exact absurd h (by decide)
  rw [isClean, Bool.and_eq_true, bne_iff_ne]
  refine ⟨?_, hcarriage⟩
  rw [isPrinted, Bool.and_eq_true] at h
  have hrange := h.1
  simp only [isAllowed, Bool.or_eq_true, Bool.and_eq_true, decide_eq_true_eq, beq_iff_eq]
    at hrange ⊢
  omega

theorem isClean_of_hexDigit? {d : Nat} (h : Text.hexDigit? c = some d) : isClean c = true := by
  have hrange : ∀ {a b : Char}, a ≤ c ∧ c ≤ b → a.toNat ≤ c.toNat ∧ c.toNat ≤ b.toNat :=
    fun h => h
  have hbounds : 0x30 ≤ c.toNat ∧ c.toNat ≤ 0x66 := by
    unfold Text.hexDigit? at h
    split at h
    · next hc => exact ⟨(hrange hc).1, Nat.le_trans (hrange hc).2 (by decide)⟩
    split at h
    · next hc => exact ⟨Nat.le_trans (by decide) (hrange hc).1, (hrange hc).2⟩
    split at h
    · next hc =>
      exact ⟨Nat.le_trans (by decide) (hrange hc).1, Nat.le_trans (hrange hc).2 (by decide)⟩
    · cases h
  refine isClean_of_isPlainChar ?_
  simp only [isPlainChar, Bool.or_eq_true, Bool.and_eq_true, decide_eq_true_eq, beq_iff_eq]
  omega

theorem all_of_hexOnto {n m : Nat} (h : hexOnto n t = some m) : t.all isClean = true := by
  induction t generalizing n with
  | nil => rfl
  | cons c t ih =>
    rw [hexOnto] at h
    cases hdigit : Text.hexDigit? c with
    | none =>
      rw [hdigit] at h
      cases h
    | some d =>
      rw [hdigit] at h
      rw [List.all_cons, isClean_of_hexDigit? hdigit, ih h]
      rfl

theorem all_escapeOf (c : Char) : (escapeOf c).all isClean = true := by
  have hdigits : ∀ width, ((Text.hex width c.toNat).map Text.asciiUpper).all isClean = true :=
    fun width => all_of_hexOnto (hexOnto_hex width c.toNat)
  rw [escapeOf]
  split
  · next letter hletter =>
    unfold escapeLetter? at hletter
    split at hletter <;> cases hletter <;> rfl
  · split
    · rw [List.all_cons, List.all_cons, hdigits]
      rfl
    split
    · rw [List.all_cons, List.all_cons, hdigits]
      rfl
    · rw [List.all_cons, List.all_cons, hdigits]
      rfl

theorem all_foldDouble (next : Option Char) : (foldDouble indent next).1.all isClean = true := by
  rw [foldDouble]
  split
  · rw [List.all_cons, List.all_append, all_newLine]
    rfl
  · rw [List.all_cons, all_newLine]
    rfl

/-- A text between double quotes. -/
theorem all_writeDouble {first fresh : Bool} :
    (writeDouble indent column first fresh t).all isClean = true := by
  induction t generalizing column first fresh with
  | nil => rfl
  | cons c t ih =>
    cases hc : isPrinted c with
    | true =>
      have hclean := isClean_of_isPrinted hc
      rcases writeDouble_printed _ _ _ _ _ hc with h | h
      · rw [h, List.all_cons, hclean, ih]
        rfl
      · rw [h, List.all_append, all_foldDouble, List.all_cons, hclean, ih]
        rfl
    | false =>
      rcases writeDouble_escaped _ _ _ _ _ hc with ⟨column', h⟩ | ⟨-, h⟩
      · rw [h, List.all_append, all_escapeOf, ih]
        rfl
      · rw [h, List.all_append, List.all_append, all_escapeOf, all_foldDouble, ih]
        rfl

/-- **What is written is read as it stands.** -/
theorem all_writeScalar (indent column : Nat) (t : Text) :
    (writeScalar indent column t).all isClean = true := by
  have hplain : Style.ofText t ≠ .double → t.all isPlainChar = true :=
    fun h => List.all_eq_true.mpr (quotable_of_style h).plain
  rw [writeScalar]
  cases hstyle : Style.ofText t with
  | plain =>
    dsimp only
    rw [List.all_cons, all_writePlain (hplain (by rw [hstyle]; nofun))]
    rfl
  | single =>
    dsimp only
    rw [List.all_cons, List.all_cons, List.all_append,
      all_writeSingle (hplain (by rw [hstyle]; nofun))]
    rfl
  | double =>
    dsimp only
    rw [List.all_cons, List.all_cons, List.all_append, all_writeDouble]
    rfl

end PackageCatalog.Yaml
