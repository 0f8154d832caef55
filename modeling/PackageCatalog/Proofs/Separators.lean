import PackageCatalog.Proofs.Resolution
import PackageCatalog.Proofs.Text.Charset

/-!
# Separators in what is written

Names are resolved before their octets are decoded.  So the text of a resolved name is resolved only
if decoding neither makes a slash or a dot out of other octets nor swallows one.  This is so in
UTF-8, and in every encoding that extends ASCII: the second octet of a pair may be one of ASCII, but
none as low as a slash or a dot.

## Main definitions

* `Charset.ExtendsAscii` — the encodings in which ASCII is written as it is.

## Main results

* `Path.IsResolved.of_segments` — what is written of a resolved path is resolved.
* `Charset.keepsMarks_code` — **an encoding that extends ASCII keeps slashes and dots.**
* `law_of_keys` — **a key is a resolved path, and is its own key.**
-/

namespace PackageCatalog

/-! ### Resolved paths -/

namespace Path

open PathAlphabet

/-- What stands over against empty segments at the start. -/
theorem exists_of_forall₂_replicate {α β : Type} [PathAlphabet α] [PathAlphabet β]
    {ss : List (List α)} : ∀ {k : Nat} {qs : List (List β)},
      List.Forall₂ SameKind (List.replicate k [] ++ ss) qs →
        ∃ tt, qs = List.replicate k [] ++ tt ∧ List.Forall₂ SameKind ss tt := by
  intro k
  induction k with
  | zero => exact fun {qs} h => ⟨qs, rfl, h⟩
  | succ k ih =>
    intro qs h
    rw [List.replicate_succ, List.cons_append] at h
    obtain ⟨q, qs, hq, hqs, rfl⟩ := List.forall₂_cons_left_iff.mp h
    obtain ⟨tt, rfl, htt⟩ := ih hqs
    exact ⟨tt, by rw [hq.nil.mp rfl]; rfl, htt⟩

/-- What is treated as plain segments are, and has no slash, is plain. -/
theorem plain_of_sameKind {α β : Type} [PathAlphabet α] [PathAlphabet β] {ss : List (List α)}
    {tt : List (List β)} (hsame : List.Forall₂ SameKind ss tt) (hss : ∀ s ∈ ss, Plain s)
    (hfree : ∀ s ∈ tt, Text.Free slash s) : ∀ s ∈ tt, Plain s := by
  induction hsame with
  | nil => exact fun _ h => absurd h List.not_mem_nil
  | cons head _ ih =>
    rw [List.forall_mem_cons] at hss hfree ⊢
    exact ⟨⟨head.idle.symm.trans hss.1.idle, head.parent.symm.trans hss.1.parent, hfree.1⟩,
      ih hss.2 hfree.2⟩

/-- A path is written from its segments, behind the slashes of the empty ones at the start. -/
theorem eq_written_of_segments {β : Type} [PathAlphabet β] [LawfulBEq β] {q : List β} {root : Nat}
    {tt : List (List β)} (hne : tt ≠ []) (hfree : ∀ s ∈ tt, Text.Free slash s)
    (hq : segments q = List.replicate root [] ++ tt) : q = written root tt := by
  have hwritten : segments (written root tt) = List.replicate root [] ++ tt := by
    rw [written, segments_replicate_append]
    exact congrArg (_ ++ ·) (Text.pieces_joined hne hfree)
  rw [← ofSegments_segments q, hq, ← hwritten, ofSegments_segments]

/-- **What has segments like those of a resolved path is resolved.** -/
theorem IsResolved.of_segments {α β : Type} [PathAlphabet α] [ReflBEq α] [PathAlphabet β]
    [LawfulBEq β] {p : List α} {q : List β} (h : IsResolved p)
    (hsame : List.Forall₂ SameKind (segments p) (segments q)) : IsResolved q := by
  obtain ⟨root, ss, hroot, hss, rfl⟩ := h
  -- the slashes at the root are empty segments, and so are those that stand over against them
  rw [written, segments_replicate_append] at hsame
  obtain ⟨tt, hq, htt⟩ := exists_of_forall₂_replicate hsame
  have hfree : ∀ s ∈ tt, Text.Free slash s := fun s hs =>
    Text.free_of_mem_pieces (hq ▸ List.mem_append_right _ hs)
  by_cases hnil : ss = []
  · -- nothing stands below the root but one empty segment
    subst hnil
    obtain ⟨t, rest, ht, hrest, rfl⟩ := List.forall₂_cons_left_iff.mp htt
    obtain rfl := ht.nil.mp rfl
    obtain rfl := List.forall₂_nil_left_iff.mp hrest
    have hwritten : q = written root [[]] :=
      eq_written_of_segments (List.cons_ne_nil _ _) hfree hq
    exact ⟨root, [], hroot, fun _ h => absurd h List.not_mem_nil, hwritten⟩
  · rw [segments_ofSegments hnil hss] at htt
    have hne : tt ≠ [] := by
      rintro rfl
      exact hnil (List.forall₂_nil_right_iff.mp htt)
    exact ⟨root, tt, hroot, plain_of_sameKind htt hss hfree, eq_written_of_segments hne hfree hq⟩

/-- What is written of a path is resolved when the path is, and the other way round. -/
theorem isResolved_iff_of_spells {β : Type} [PathAlphabet β] [LawfulBEq β]
    {code : Bytes → β → Prop} {b : Bytes} {t : List β} (hcode : KeepsMarks code)
    (h : Text.Spells code b t) : IsResolved b ↔ IsResolved t := by
  have hsame : List.Forall₂ SameKind (segments b) (segments t) :=
    (spells_segments hcode h).imp (fun _ _ => sameKind_of_spells hcode)
  exact ⟨fun hb => hb.of_segments hsame,
    fun ht => ht.of_segments (hsame.flip.imp (fun _ _ h => h.symm))⟩

end Path

/-! ### Encodings -/

namespace Charset

open PackageCatalog.Path PathAlphabet

/-- The encodings in which ASCII is written as it is: all but those of wide units. -/
def ExtendsAscii : Charset → Prop
  | .utf16 _ => False
  | .utf32 _ => False
  | _ => True

variable {charset : Charset} {os : Bytes} {c : Char}

/-- A character of UTF-8 is one octet with its number, or several beyond ASCII. -/
theorem code_utf8_cases (c : Char) : IsOctet (Utf8.encodeChar c) c ∨
    (∀ b ∈ Utf8.encodeChar c, 0x80 ≤ b.toNat) ∧ 0x80 ≤ c.toNat := by
  by_cases hc : c.toNat < 0x80
  · refine Or.inl ⟨UInt8.ofNat c.toNat, ?_, (Utf8.toNat_octet (by omega)).symm⟩
    rw [Utf8.encodeChar]
    exact if_pos hc
  · refine Or.inr ⟨fun b hb => ?_, by omega⟩
    -- an octet of ASCII would be the character
    by_contra hlt
    have hchar := Utf8.toNat_of_mem_encodeChar (by omega) hb
    omega

/-- The lead octets of Shift_JIS are beyond ASCII, and the trail octet of the first cell is `@`. -/
theorem le_of_mem_shiftJisOctets {row cell : Nat} (h : InGrid row cell c) :
    ∀ b ∈ shiftJisOctets row cell, 0x40 ≤ b.toNat := by
  obtain ⟨hrow, hrow', hcell, hcell', -⟩ := h
  rw [shiftJisOctets, List.forall_mem_cons, List.forall_mem_singleton,
    Utf8.toNat_octet (by split <;> omega),
    Utf8.toNat_octet (by split <;> [omega; (split <;> omega)])]
  constructor
  · split <;> omega
  · split <;> [omega; (split <;> omega)]

theorem le_of_mem_eucOctets {row cell : Nat} (h : InGrid row cell c) :
    ∀ b ∈ eucOctets row cell, 0x40 ≤ b.toNat := by
  obtain ⟨hrow, hrow', hcell, hcell', -⟩ := h
  rw [eucOctets, List.forall_mem_cons, List.forall_mem_singleton,
    Utf8.toNat_octet (by omega), Utf8.toNat_octet (by omega)]
  omega

/-- The octets of a character are its number, or none of them is below `@`.  The second octets of
Shift_JIS are where this bound is reached. -/
theorem code_cases (h : charset.ExtendsAscii) (hcode : charset.Code os c) :
    IsOctet os c ∨ os ≠ [] ∧ (∀ b ∈ os, 0x40 ≤ b.toNat) ∧ 0x40 ≤ c.toNat := by
  cases charset with
  | ascii => exact Or.inl hcode.2
  | latin1 => exact Or.inl hcode
  | windows1252 =>
    rcases hcode with ⟨-, hoctet⟩ | ⟨n, rfl, hn, hc⟩
    · exact Or.inl hoctet
    · have hlength := (List.getElem?_eq_some_iff.mp hn).1
      rw [show windows1252High.length = 32 from rfl] at hlength
      refine Or.inr ⟨List.cons_ne_nil _ _, List.forall_mem_singleton.mpr ?_,
        le_windows1252High _ (List.mem_of_getElem? hn) hc⟩
      rw [Utf8.toNat_octet (by omega)]
      omega
  | utf8 mark =>
    rw [show os = Utf8.encodeChar c from hcode]
    refine (code_utf8_cases c).imp_right (fun ⟨hall, hc⟩ => ?_)
    exact ⟨Utf8.encodeChar_ne_nil c, fun b hb => Nat.le_trans (by decide) (hall b hb), by omega⟩
  | utf16 _ => exact absurd h id
  | utf32 _ => exact absurd h id
  | shiftJis =>
    rcases hcode with ⟨-, hoctet⟩ | ⟨b, rfl, hkana⟩ | ⟨row, cell, hgrid, rfl⟩
    · exact Or.inl hoctet
    · obtain ⟨hfirst, -, hb⟩ := hkana
      -- one octet, of which the character is not the number
      refine Or.inr ⟨List.cons_ne_nil _ _, List.forall_mem_singleton.mpr ?_, ?_⟩ <;> omega
    · have hc := le_of_gridChar hgrid.there
      exact Or.inr ⟨List.cons_ne_nil _ _, le_of_mem_shiftJisOctets hgrid, by omega⟩
  | eucJp =>
    rcases hcode with ⟨-, hoctet⟩ | ⟨b, rfl, hkana⟩ | ⟨row, cell, hgrid, rfl⟩
    · exact Or.inl hoctet
    · obtain ⟨hfirst, -, hb⟩ := hkana
      refine Or.inr ⟨List.cons_ne_nil _ _, ?_, by omega⟩
      rw [List.forall_mem_cons, List.forall_mem_singleton]
      exact ⟨by decide, by omega⟩
    · have hc := le_of_gridChar hgrid.there
      exact Or.inr ⟨List.cons_ne_nil _ _, le_of_mem_eucOctets hgrid, by omega⟩

/-- **An encoding that extends ASCII keeps slashes and dots.** -/
theorem keepsMarks_code (h : charset.ExtendsAscii) : KeepsMarks charset.Code := by
  have hmark : ∀ (m : Char) (b : UInt8), m.toNat = b.toNat → m.toNat < 0x40 →
      StandsAlone charset.Code b m := by
    intro m b hb hm os c hcode
    rcases code_cases h hcode with ⟨x, rfl, hx⟩ | ⟨-, hos, hc⟩
    · by_cases hcm : c = m
      · exact Or.inl ⟨by rw [UInt8.toNat_inj.mp (hx.symm.trans ((congrArg _ hcm).trans hb))], hcm⟩
      · refine Or.inr ⟨fun y hy => ?_, beq_eq_false_iff_ne.mpr hcm⟩
        rw [List.mem_singleton.mp hy, beq_eq_false_iff_ne]
        rintro rfl
        exact hcm (Char.toNat_inj.mp (hx.trans hb.symm))
    · refine Or.inr ⟨fun y hy => ?_, ?_⟩
      · have hy := hos y hy
        rw [beq_eq_false_iff_ne]
        rintro rfl
        omega
      · rw [beq_eq_false_iff_ne]
        rintro rfl
        omega
  refine ⟨fun hcode => ?_, hmark '/' 0x2F rfl (by decide), hmark '.' 0x2E rfl (by decide)⟩
  rcases code_cases h hcode with ⟨x, rfl, -⟩ | ⟨hne, -⟩
  · exact List.cons_ne_nil _ _
  · exact hne

/-- No mark starts with a slash. -/
theorem isAbsolute_mark {mark : Bytes × Charset} (h : mark ∈ charset.marks) (rest : Bytes) :
    isAbsolute (mark.1 ++ rest) = false := by
  cases charset with
  | utf8 mark =>
    cases mark with
    | false => cases h
    | true =>
      rw [List.mem_singleton.mp h]
      rfl
  | utf16 order =>
    cases order with
    | some order => cases h
    | none => rcases List.mem_cons.mp h with rfl | h <;> [rfl; (rw [List.mem_singleton.mp h]; rfl)]
  | utf32 order =>
    cases order with
    | some order => cases h
    | none => rcases List.mem_cons.mp h with rfl | h <;> [rfl; (rw [List.mem_singleton.mp h]; rfl)]
  | _ => cases h

/-- What starts with a slash is written by codes alone. -/
theorem Writes.spells_of_isAbsolute {bs : Bytes} {t : Text} (h : charset.Writes bs t)
    (hbs : isAbsolute bs = true) : Text.Spells charset.Code bs t := by
  rcases h with ⟨mark, hmem, rest, rfl, -⟩ | ⟨-, h⟩
  · rw [isAbsolute_mark hmem] at hbs
    cases hbs
  · exact h

end Charset

/-! ### Keys -/

open NativeName PackageCatalog.Path

variable {detect : Detector} {n : NativeName} {k : Text}

/-- **The text of a resolved path is resolved**, where the guess keeps ASCII. -/
theorem isResolved_of_nameText (hn : IsResolved n)
    (hguess : ∀ raw guess charset, NativeName.toBytes? n = some raw → detect.Says raw guess →
      Charset.ofName? guess = some charset → charset.ExtendsAscii)
    (hk : nameText detect n = .ok k) : IsResolved k := by
  obtain ⟨raw, hraw, hcanonical⟩ := exists_canonical_of_nameText hk
  have hoctets : IsResolved raw :=
    (isResolved_iff_of_spells keepsMarks_toBytes? (spells_iff.mpr hraw)).mpr hn
  obtain ⟨charset, hwrites, hcharset⟩ := exists_writes_of_canonical hcanonical
  have hascii : charset.ExtendsAscii := by
    rcases hcharset with rfl | ⟨guess, hsaid, hname⟩
    · trivial
    · exact hguess raw guess charset hraw hsaid hname
  exact (isResolved_iff_of_spells (Charset.keepsMarks_code hascii)
    (hwrites.spells_of_isAbsolute hoctets.isAbsolute)).mp hoctets

/-- A text that is resolved is its own key, from every directory and whatever is guessed. -/
theorem nameText_of_isResolved (detect : Detector) (base : NativeName) (hk : IsResolved k) :
    nameText detect (absolute base (ofText k)) = .ok k := by
  rw [hk.ofText.absolute_eq]
  exact nameText_of_toBytes? (toBytes?_ofText k)

end PackageCatalog
