import PackageCatalog.Canonical
import PackageCatalog.Proofs.Segments
import PackageCatalog.Proofs.Text.Normal
import PackageCatalog.Proofs.Text.Utf8

/-!
# Encodings, character by character

An encoding is told by the octets that write each of its characters, and, where a mark at the start
says more, by its marks.  A decoder reads the first character off the front and goes on behind it.
If it takes off what is a code of the encoding, and every code is taken off, then it reads exactly
the texts that are written in the encoding: nothing truncated, no lone half of a pair, no octet
without a character.

## Main definitions

* `Charset.Code` — the octets of one character.
* `Charset.Writes` — the octets of a text, with a mark or without.
* `Charset.Reads` — a decoder that takes one code after the other off the front.

## Main results

* `Utf8.decode_eq_some_iff` — UTF-8 reads what is written in it.
* `Charset.Reads.eq_some_iff` — so does every decoder that goes code by code.
* `Charset.decode_eq_some_iff` — **a decoder answers a text exactly for octets that write it.**
-/

namespace PackageCatalog

/-! ### UTF-8 -/

namespace Utf8

/-- The octets of a character, as the standard has them. -/
theorem encodeChar_eq (c : Char) : encodeChar c = String.utf8EncodeChar c := by
  have hlt : c.toNat < 0x110000 := toNat_lt c
  have hoctet : ∀ {m n : Nat} {os os' : Bytes}, m = n → os = os' →
      UInt8.ofNat m :: os = UInt8.ofNat n :: os' := by
    rintro m _ os _ rfl rfl
    rfl
  unfold encodeChar String.utf8EncodeChar
  rw [show c.val.toNat = c.toNat from rfl]
  dsimp only
  -- the standard writes the lead octet by its low bits
  by_cases h1 : c.toNat < 0x80
  · rw [if_pos h1, if_pos (by omega)]
  by_cases h2 : c.toNat < 0x800
  · rw [if_neg h1, if_pos h2, if_neg (by omega), if_pos (by omega)]
    exact hoctet (by omega) (hoctet (by omega) rfl)
  by_cases h3 : c.toNat < 0x10000
  · rw [if_neg h1, if_neg h2, if_pos h3, if_neg (by omega), if_neg (by omega), if_pos (by omega)]
    exact hoctet (by omega) (hoctet (by omega) (hoctet (by omega) rfl))
  · rw [if_neg h1, if_neg h2, if_neg h3, if_neg (by omega), if_neg (by omega), if_neg (by omega)]
    exact hoctet (by omega) (hoctet (by omega) (hoctet (by omega) (hoctet (by omega) rfl)))

/-- The octets of a text, as the standard has them. -/
theorem encode_eq (t : Text) : encode t = t.flatMap String.utf8EncodeChar :=
  congrArg (t.flatMap ·) (funext encodeChar_eq)

/-- **UTF-8 reads exactly what is written in it.** -/
theorem decode_eq_some_iff {bs : Bytes} {t : Text} : decode bs = some t ↔ bs = encode t := by
  refine ⟨fun h => (encode_of_decode h).symm, ?_⟩
  rintro rfl
  exact decode_encode t

theorem decode_eq_none_iff {bs : Bytes} : decode bs = none ↔ ∀ t, bs ≠ encode t := by
  simp only [Option.eq_none_iff_forall_ne_some, ne_eq, decode_eq_some_iff]

end Utf8

namespace Charset

/-! ### Codes -/

/-- The two octets of a unit of sixteen bits. -/
def octets16 : ByteOrder → Nat → Bytes
  | .little, n => [UInt8.ofNat (n % 256), UInt8.ofNat (n / 256)]
  | .big, n => [UInt8.ofNat (n / 256), UInt8.ofNat (n % 256)]

/-- The four octets of a unit of thirty-two bits. -/
def octets32 : ByteOrder → Nat → Bytes
  | .little, n => octets16 .little (n % 65536) ++ octets16 .little (n / 65536)
  | .big, n => octets16 .big (n / 65536) ++ octets16 .big (n % 65536)

/-- The octets of a character in UTF-16: one unit, or a pair of surrogates beyond U+FFFF. -/
def write16 (order : ByteOrder) (c : Char) : Bytes :=
  if c.toNat < 0x10000 then octets16 order c.toNat
  else octets16 order (0xD800 + (c.toNat - 0x10000) / 0x400) ++
    octets16 order (0xDC00 + (c.toNat - 0x10000) % 0x400)

/-- One octet, which writes the character of its number. -/
def IsOctet (os : Bytes) (c : Char) : Prop := ∃ b : UInt8, os = [b] ∧ c.toNat = b.toNat

/-- A half-width katakana, which one octet from A1 to DF writes. -/
def IsHalfKana (b : UInt8) (c : Char) : Prop :=
  0xFF61 ≤ c.toNat ∧ c.toNat ≤ 0xFF9F ∧ b.toNat = c.toNat - 0xFF61 + 0xA1

/-- A character in the Japanese grid. -/
structure InGrid (row cell : Nat) (c : Char) : Prop where
  row_pos : 1 ≤ row
  row_le : row ≤ 94
  cell_pos : 1 ≤ cell
  cell_le : cell ≤ 94
  there : gridChar row cell = some c

/-- The two octets of a cell in Shift_JIS: two rows share a lead octet, the odd ones with the lower
trail octets, which pass over 7F. -/
def shiftJisOctets (row cell : Nat) : Bytes :=
  [UInt8.ofNat ((row - 1) / 2 + if row ≤ 62 then 0x81 else 0xC1),
    UInt8.ofNat (if row % 2 = 0 then cell + 0x9E else cell + if cell ≤ 63 then 0x3F else 0x40)]

/-- The two octets of a cell in EUC-JP. -/
def eucOctets (row cell : Nat) : Bytes := [UInt8.ofNat (0xA0 + row), UInt8.ofNat (0xA0 + cell)]

/-- The octets that write a character in an encoding, marks aside. -/
def Code : Charset → Bytes → Char → Prop
  | .ascii, os, c => c.toNat < 0x80 ∧ IsOctet os c
  | .latin1, os, c => IsOctet os c
  | .windows1252, os, c =>
    ((c.toNat < 0x80 ∨ 0xA0 ≤ c.toNat) ∧ IsOctet os c) ∨
      ∃ n, os = [UInt8.ofNat (0x80 + n)] ∧ windows1252High[n]? = some c.toNat ∧ c.toNat ≠ 0
  | .utf8 _, os, c => os = Utf8.encodeChar c
  | .utf16 order, os, c => os = write16 (order.getD .little) c
  | .utf32 order, os, c => os = octets32 (order.getD .little) c.toNat
  | .shiftJis, os, c => (c.toNat < 0x80 ∧ IsOctet os c) ∨ (∃ b, os = [b] ∧ IsHalfKana b c) ∨
      ∃ row cell, InGrid row cell c ∧ os = shiftJisOctets row cell
  | .eucJp, os, c => (c.toNat < 0x80 ∧ IsOctet os c) ∨ (∃ b, os = [0x8E, b] ∧ IsHalfKana b c) ∨
      ∃ row cell, InGrid row cell c ∧ os = eucOctets row cell

/-- The marks that may stand at the start, and the encoding of what follows each. -/
def marks : Charset → List (Bytes × Charset)
  | .utf8 true => [([0xEF, 0xBB, 0xBF], .utf8 false)]
  | .utf16 none => [([0xFF, 0xFE], .utf16 (some .little)), ([0xFE, 0xFF], .utf16 (some .big))]
  | .utf32 none => [([0xFF, 0xFE, 0x00, 0x00], .utf32 (some .little)),
      ([0x00, 0x00, 0xFE, 0xFF], .utf32 (some .big))]
  | _ => []

/-- The octets that write a text in an encoding: a mark and what follows it, or, where no mark
stands at the start, codes alone. -/
def Writes (charset : Charset) (bs : Bytes) (t : Text) : Prop :=
  (∃ mark ∈ charset.marks, ∃ rest, bs = mark.1 ++ rest ∧ Text.Spells mark.2.Code rest t) ∨
    ((∀ mark ∈ charset.marks, ¬mark.1 <+: bs) ∧ Text.Spells charset.Code bs t)

/-! ### Decoders -/

/-- A decoder that takes one code after the other off the front: every code, and nothing else. -/
structure Reads (read : Bytes → Text → Option Text) (code : Bytes → Char → Prop) : Prop where
  nil : ∀ done, read [] done = some done.reverse
  push : ∀ {os c} bs done, code os c → read (os ++ bs) done = read bs (c :: done)
  pull : ∀ {b bs done t}, read (b :: bs) done = some t →
    ∃ os c rest, os ≠ [] ∧ b :: bs = os ++ rest ∧ code os c ∧ read rest (c :: done) = some t

/-- **A decoder that goes code by code reads what is spelled by codes.** -/
theorem Reads.eq_some_iff {read : Bytes → Text → Option Text} {code : Bytes → Char → Prop}
    (h : Reads read code) {bs : Bytes} {done t : Text} :
    read bs done = some t ↔ ∃ u, t = done.reverse ++ u ∧ Text.Spells code bs u := by
  constructor
  · -- a code is not empty, so that what is left gets shorter
    generalize hn : bs.length = n
    induction n using Nat.strongRecOn generalizing bs done with
    | ind n ih =>
      intro hread
      cases bs with
      | nil =>
        rw [h.nil] at hread
        exact ⟨[], by rw [List.append_nil]; exact (Option.some.inj hread).symm, .nil⟩
      | cons b bs =>
        obtain ⟨os, c, rest, hne, hbs, hcode, hrest⟩ := h.pull hread
        have hpos := List.length_pos_iff.mpr hne
        rw [hbs, List.length_append] at hn
        obtain ⟨u, rfl, hu⟩ := ih rest.length (by omega) rfl hrest
        refine ⟨c :: u, ?_, hbs ▸ .cons hcode hu⟩
        rw [List.reverse_cons, List.append_assoc]
        rfl
  · rintro ⟨u, rfl, hu⟩
    induction hu generalizing done with
    | nil => rw [h.nil, List.append_nil]
    | cons head _ ih =>
      rw [h.push _ _ head, ih, List.reverse_cons, List.append_assoc]
      rfl

/-- What is read from the start. -/
theorem Reads.eq_some_iff_spells {read : Bytes → Text → Option Text} {code : Bytes → Char → Prop}
    (h : Reads read code) {bs : Bytes} {t : Text} :
    read bs [] = some t ↔ Text.Spells code bs t := by
  rw [h.eq_some_iff]
  constructor
  · rintro ⟨u, rfl, hu⟩
    exact hu
  · exact fun ht => ⟨t, rfl, ht⟩

/-! ### Single octets -/

theorem reads_decodeEach {char? : UInt8 → Option Char} {code : Bytes → Char → Prop}
    (hcode : ∀ os c, code os c ↔ ∃ b, os = [b] ∧ char? b = some c) :
    Reads (decodeEach char?) code where
  nil _ := rfl
  push {os c} bs done h := by
    obtain ⟨b, rfl, hb⟩ := (hcode os c).mp h
    rw [List.singleton_append, decodeEach, hb]
  pull {b bs done t} h := by
    rw [decodeEach] at h
    split at h
    · next c hc => exact ⟨[b], c, bs, List.cons_ne_nil _ _, rfl, (hcode _ _).mpr ⟨b, rfl, hc⟩, h⟩
    · cases h

/-- The character of an octet is the one with its number. -/
theorem ofNat_toNat_eq_iff {b : UInt8} {c : Char} : Char.ofNat b.toNat = c ↔ c.toNat = b.toNat := by
  have hlt := b.toNat_lt
  constructor
  · rintro rfl
    exact Text.code_ofNat (Or.inl (by omega))
  · intro h
    rw [← h, Char.ofNat_toNat]

/-- An octet of ASCII writes its character. -/
theorem isOctet_of_ascii {b : UInt8} (hb : b.toNat < 0x80) :
    (Char.ofNat b.toNat).toNat < 0x80 ∧ IsOctet [b] (Char.ofNat b.toNat) := by
  have hcode : (Char.ofNat b.toNat).toNat = b.toNat := ofNat_toNat_eq_iff.mp rfl
  exact ⟨by omega, b, rfl, hcode⟩

theorem valid_windows1252High : ∀ code ∈ windows1252High, code.isValidChar := by decide

theorem windows1252Char_eq_some_iff {b : UInt8} {c : Char} :
    windows1252Char b = some c ↔
      ((b.toNat < 0x80 ∨ 0xA0 ≤ b.toNat) ∧ c.toNat = b.toNat) ∨
        (0x80 ≤ b.toNat ∧ windows1252High[b.toNat - 0x80]? = some c.toNat ∧ c.toNat ≠ 0) := by
  unfold windows1252Char
  dsimp only
  by_cases hb : b.toNat < 0x80 ∨ 0xA0 ≤ b.toNat
  · -- the octet stands for its own number, and is in no row of the table
    have hhigh : ¬(0x80 ≤ b.toNat ∧ windows1252High[b.toNat - 0x80]? = some c.toNat ∧
        c.toNat ≠ 0) := by
      rintro ⟨hle, hget, -⟩
      have hlength := (List.getElem?_eq_some_iff.mp hget).1
      rw [show windows1252High.length = 32 from rfl] at hlength
      omega
    rw [if_pos hb, Option.some.injEq, ofNat_toNat_eq_iff]
    simp [hb, hhigh]
  · rw [if_neg hb]
    cases hget : windows1252High[b.toNat - 0x80]? with
    | none => simp [hb]
    | some code =>
      cases code with
      -- a zero of the table is a place without a character
      | zero => simp [hb, eq_comm]
      | succ n =>
        have hcode := Text.code_ofNat (valid_windows1252High _ (List.mem_of_getElem? hget))
        have heq : Char.ofNat (n + 1) = c ↔ n + 1 = c.toNat := by
          constructor
          · rintro rfl
            exact hcode.symm
          · intro h
            rw [h, Char.ofNat_toNat]
        simp only [Option.some.injEq, heq, hb, false_and, false_or]
        constructor
        · exact fun h => ⟨by omega, h, by omega⟩
        · exact fun h => h.2.1

theorem reads_ascii :
    Reads (decodeEach (fun b => if b.toNat < 0x80 then some (Char.ofNat b.toNat) else none))
      (Code .ascii) := by
  refine reads_decodeEach (fun os c => ?_)
  constructor
  · rintro ⟨hc, b, rfl, hb⟩
    exact ⟨b, rfl, by rw [if_pos (by omega), ofNat_toNat_eq_iff.mpr hb]⟩
  · rintro ⟨b, rfl, hb⟩
    split at hb
    · next hlt =>
      cases hb
      exact isOctet_of_ascii hlt
    · cases hb

theorem reads_latin1 : Reads (decodeEach (fun b => some (Char.ofNat b.toNat))) (Code .latin1) := by
  refine reads_decodeEach (fun os c => ?_)
  simp only [Code, IsOctet, Option.some.injEq, ofNat_toNat_eq_iff]

theorem reads_windows1252 : Reads (decodeEach windows1252Char) (Code .windows1252) := by
  refine reads_decodeEach (fun os c => ?_)
  constructor
  · rintro (⟨hc, b, rfl, hb⟩ | ⟨n, rfl, hn, hc⟩)
    · exact ⟨b, rfl, windows1252Char_eq_some_iff.mpr (Or.inl ⟨hb ▸ hc, hb⟩)⟩
    · have hlength := (List.getElem?_eq_some_iff.mp hn).1
      rw [show windows1252High.length = 32 from rfl] at hlength
      refine ⟨_, rfl, windows1252Char_eq_some_iff.mpr (Or.inr ?_)⟩
      rw [Utf8.toNat_octet (by omega), Nat.add_sub_cancel_left]
      exact ⟨by omega, hn, hc⟩
  · rintro ⟨b, rfl, hb⟩
    rcases windows1252Char_eq_some_iff.mp hb with ⟨hrange, hc⟩ | ⟨hle, hn, hc⟩
    · exact Or.inl ⟨hc ▸ hrange, b, rfl, hc⟩
    · refine Or.inr ⟨b.toNat - 0x80, ?_, hn, hc⟩
      rw [Utf8.octet_eq (a := b) (by omega)]

/-! ### Wide units -/

theorem unit16_lt (order : ByteOrder) (a b : UInt8) : unit16 order a b < 0x10000 := by
  have ha := a.toNat_lt
  have hb := b.toNat_lt
  cases order <;> (simp only [unit16]; omega)

theorem unit16_octets16 (order : ByteOrder) {n : Nat} (h : n < 0x10000) :
    ∃ a b, octets16 order n = [a, b] ∧ unit16 order a b = n := by
  have hlow : (UInt8.ofNat (n % 256)).toNat = n % 256 := Utf8.toNat_octet (by omega)
  have hhigh : (UInt8.ofNat (n / 256)).toNat = n / 256 := Utf8.toNat_octet (by omega)
  cases order with
  | little => exact ⟨_, _, rfl, by rw [unit16, hlow, hhigh]; omega⟩
  | big => exact ⟨_, _, rfl, by rw [unit16, hlow, hhigh]; omega⟩

theorem octets16_unit16 (order : ByteOrder) (a b : UInt8) :
    octets16 order (unit16 order a b) = [a, b] := by
  have ha := a.toNat_lt
  have hb := b.toNat_lt
  cases order with
  | little =>
    rw [unit16, octets16, Utf8.octet_eq (a := a) (by omega), Utf8.octet_eq (a := b) (by omega)]
  | big =>
    rw [unit16, octets16, Utf8.octet_eq (a := a) (by omega), Utf8.octet_eq (a := b) (by omega)]

/-- A character is a code point outside the surrogates. -/
theorem toNat_lt_or (c : Char) : c.toNat < 0xD800 ∨ 0xE000 ≤ c.toNat ∧ c.toNat < 0x110000 := by
  have hvalid : c.toNat.isValidChar := c.valid
  exact hvalid.imp_right (fun h => ⟨by omega, h.2⟩)

theorem reads_decode16 (order : ByteOrder) :
    Reads (decode16 order) (fun os c => os = write16 order c) where
  nil _ := rfl
  push {os c} bs done h := by
    subst h
    have hc := toNat_lt_or c
    unfold write16
    split
    · next hshort =>
      obtain ⟨a, b, hab, hunit⟩ := unit16_octets16 order hshort
      rw [hab, List.cons_append, List.singleton_append, decode16.eq_def]
      dsimp only
      rw [hunit, if_pos (by omega), Char.ofNat_toNat]
    · next hlong =>
      obtain ⟨a, b, hab, hhigh⟩ := unit16_octets16 order
        (n := 0xD800 + (c.toNat - 0x10000) / 0x400) (by omega)
      obtain ⟨a', b', hab', hlow⟩ := unit16_octets16 order
        (n := 0xDC00 + (c.toNat - 0x10000) % 0x400) (by omega)
      rw [hab, hab', decode16.eq_def]
      simp only [List.cons_append, List.nil_append]
      rw [hhigh, hlow, if_neg (by omega), if_pos (by omega), if_pos (by omega)]
      -- the two halves make the code point again
      have hcode : 0x10000 + (0xD800 + (c.toNat - 0x10000) / 0x400 - 0xD800) * 0x400 +
          (0xDC00 + (c.toNat - 0x10000) % 0x400 - 0xDC00) = c.toNat := by omega
      rw [hcode, Char.ofNat_toNat]
  pull {b bs done t} h := by
    rw [decode16.eq_def] at h
    cases bs with
    | nil => cases h
    | cons b' bs =>
      dsimp only at h
      have hlt := unit16_lt order b b'
      split at h
      · next hunit =>
        have hcode := Text.code_ofNat (n := unit16 order b b')
          (hunit.imp_right (fun hhigh => ⟨by omega, by omega⟩))
        refine ⟨[b, b'], _, bs, List.cons_ne_nil _ _, rfl, ?_, h⟩
        rw [write16, hcode, if_pos hlt, octets16_unit16]
      split at h
      · split at h
        · next hhigh _ c c' rest =>
          split at h
          · next hlow =>
            have hcode := Text.code_ofNat (n := 0x10000 + (unit16 order b b' - 0xD800) * 0x400 +
              (unit16 order c c' - 0xDC00)) (Or.inr ⟨by omega, by omega⟩)
            refine ⟨[b, b', c, c'], _, rest, List.cons_ne_nil _ _, rfl, ?_, h⟩
            have hfirst : 0xD800 + (0x10000 + (unit16 order b b' - 0xD800) * 0x400 +
                (unit16 order c c' - 0xDC00) - 0x10000) / 0x400 = unit16 order b b' := by omega
            have hsecond : 0xDC00 + (0x10000 + (unit16 order b b' - 0xD800) * 0x400 +
                (unit16 order c c' - 0xDC00) - 0x10000) % 0x400 = unit16 order c c' := by omega
            rw [write16, hcode, if_neg (by omega), hfirst, hsecond, octets16_unit16,
              octets16_unit16]
            rfl
          · cases h
        · cases h
      · cases h

/-- The number that four octets write. -/
def unit32 : ByteOrder → UInt8 → UInt8 → UInt8 → UInt8 → Nat
  | .little, a, b, c, d => unit16 .little a b + 65536 * unit16 .little c d
  | .big, a, b, c, d => 65536 * unit16 .big a b + unit16 .big c d

theorem decode32_cons (order : ByteOrder) (a b c d : UInt8) (rest : Bytes) (done : Text) :
    decode32 order (a :: b :: c :: d :: rest) done =
      if (unit32 order a b c d).isValidChar then
        decode32 order rest (Char.ofNat (unit32 order a b c d) :: done)
      else none := by
  cases order <;> rfl

theorem unit32_octets32 (order : ByteOrder) {n : Nat} (h : n < 0x110000) :
    ∃ a b c d, octets32 order n = [a, b, c, d] ∧ unit32 order a b c d = n := by
  cases order with
  | little =>
    obtain ⟨a, b, hab, hlow⟩ := unit16_octets16 .little (n := n % 65536) (by omega)
    obtain ⟨c, d, hcd, hhigh⟩ := unit16_octets16 .little (n := n / 65536) (by omega)
    refine ⟨a, b, c, d, by rw [octets32, hab, hcd]; rfl, ?_⟩
    rw [unit32, hlow, hhigh, Nat.mod_add_div]
  | big =>
    obtain ⟨a, b, hab, hhigh⟩ := unit16_octets16 .big (n := n / 65536) (by omega)
    obtain ⟨c, d, hcd, hlow⟩ := unit16_octets16 .big (n := n % 65536) (by omega)
    refine ⟨a, b, c, d, by rw [octets32, hab, hcd]; rfl, ?_⟩
    rw [unit32, hlow, hhigh, Nat.div_add_mod]

theorem octets32_unit32 (order : ByteOrder) (a b c d : UInt8) :
    octets32 order (unit32 order a b c d) = [a, b, c, d] := by
  cases order with
  | little =>
    have hlt := unit16_lt .little a b
    have hlow : unit32 .little a b c d % 65536 = unit16 .little a b := by rw [unit32]; omega
    have hhigh : unit32 .little a b c d / 65536 = unit16 .little c d := by rw [unit32]; omega
    rw [octets32, hlow, hhigh, octets16_unit16, octets16_unit16]
    rfl
  | big =>
    have hlt := unit16_lt .big c d
    have hlow : unit32 .big a b c d % 65536 = unit16 .big c d := by rw [unit32]; omega
    have hhigh : unit32 .big a b c d / 65536 = unit16 .big a b := by rw [unit32]; omega
    rw [octets32, hlow, hhigh, octets16_unit16, octets16_unit16]
    rfl

theorem reads_decode32 (order : ByteOrder) :
    Reads (decode32 order) (fun os c => os = octets32 order c.toNat) where
  nil _ := rfl
  push {os c} bs done h := by
    have hvalid : c.toNat.isValidChar := c.valid
    obtain ⟨a, b, a', b', hoctets, hunit⟩ := unit32_octets32 order (Utf8.toNat_lt c)
    rw [h, hoctets]
    simp only [List.cons_append, List.nil_append]
    rw [decode32_cons, hunit, if_pos hvalid, Char.ofNat_toNat]
  pull {b bs done t} h := by
    match bs, h with
    | [], h => simp [decode32] at h
    | [_], h => simp [decode32] at h
    | [_, _], h => simp [decode32] at h
    | b' :: c :: d :: rest, h =>
      rw [decode32_cons] at h
      split at h
      · next hvalid =>
        refine ⟨[b, b', c, d], _, rest, List.cons_ne_nil _ _, rfl, ?_, h⟩
        rw [Text.code_ofNat hvalid, octets32_unit32]
      · cases h

/-! ### The Japanese grid -/

/-- What marks an empty cell, or a character beyond ASCII. -/
def isGridMark (c : Char) : Bool := c == ' ' || decide (0x80 ≤ c.toNat)

theorem all_toList_ofList {f : Char → Bool} (h : t.all f = true) :
    (String.ofList t).toList.all f = true := by
  rwa [String.toList_ofList]

-- the rows are literals of up to 94 characters, which are compared with lists one by one
set_option maxRecDepth 2000 in
theorem all_gridRows : ∀ row ∈ gridRows, row.toList.all isGridMark = true := by
  unfold gridRows
  simp only [List.forall_mem_cons]
  refine ⟨?_, ?_, ?_, ?_, ?_, ?_, ?_, ?_, fun _ h => absurd h List.not_mem_nil⟩ <;>
    (refine all_toList_ofList ?_; decide +kernel)

/-- No character of the grid is one of ASCII. -/
theorem le_of_gridChar {row cell : Nat} {c : Char} (h : gridChar row cell = some c) :
    0x80 ≤ c.toNat := by
  unfold gridChar at h
  split at h
  · next text htext =>
    split at h
    · next d hd =>
      split at h
      · cases h
      · next hspace =>
        have hmark := List.all_eq_true.mp (all_gridRows text (List.mem_of_getElem? htext)) d
          (List.mem_of_getElem? hd)
        rw [isGridMark, Bool.or_eq_true, beq_iff_eq, decide_eq_true_eq] at hmark
        rw [← Option.some.inj h]
        exact hmark.resolve_left hspace
    · cases h
  · cases h

theorem halfKana_eq_some_iff {b : UInt8} {c : Char} : halfKana b = some c ↔ IsHalfKana b c := by
  unfold halfKana IsHalfKana
  split
  · next hb =>
    have hcode := Text.code_ofNat (n := 0xFF61 + (b.toNat - 0xA1)) (Or.inr ⟨by omega, by omega⟩)
    rw [Option.some.injEq]
    constructor
    · rintro rfl
      rw [hcode]
      omega
    · rintro ⟨hfirst, hlast, h⟩
      rw [h, show 0xFF61 + (c.toNat - 0xFF61 + 0xA1 - 0xA1) = c.toNat by omega, Char.ofNat_toNat]
  · next hb =>
    constructor
    · exact fun h => by cases h
    · rintro ⟨hfirst, hlast, h⟩
      omega

/-- There are no rows beyond the grid. -/
theorem row_le_of_gridChar {row cell : Nat} {c : Char} (h : gridChar row cell = some c) :
    row ≤ 94 := by
  unfold gridChar at h
  split at h
  · next hrow =>
    have hlt := (List.getElem?_eq_some_iff.mp hrow).1
    rw [show gridRows.length = 8 from rfl] at hlt
    omega
  · cases h

/-- A character that stands in its row. -/
theorem gridChar_of_row {row cell : Nat} {text : String} {c : Char}
    (hrow : gridRows[row - 1]? = some text) (hcell : text.toList[cell - 1]? = some c)
    (hc : c ≠ ' ') : gridChar row cell = some c := by
  rw [gridChar, hrow]
  dsimp only
  rw [hcell]
  exact if_neg hc

theorem getElem?_ofList {t : Text} {i : Nat} {c : Char} (h : t[i]? = some c) :
    (String.ofList t).toList[i]? = some c := by
  rwa [String.toList_ofList]

-- the row is a literal, which is compared with a list
set_option maxRecDepth 2000 in
theorem inGrid_katakana : InGrid 5 29 'ソ' :=
  ⟨by decide, by decide, by decide, by decide,
    gridChar_of_row rfl (getElem?_ofList rfl) (by decide)⟩

/-- A katakana, whose second octet in Shift_JIS is that of the backslash. -/
theorem code_katakana : Code .shiftJis [0x83, 0x5C] 'ソ' :=
  Or.inr (Or.inr ⟨5, 29, inGrid_katakana, rfl⟩)

/-- The lead octets lie in two ranges, and number the pairs of rows through both. -/
theorem lead_eq_iff {lead row : Nat} (hrow : 1 ≤ row) (hrow' : row ≤ 94) :
    lead = (row - 1) / 2 + (if row ≤ 62 then 0x81 else 0xC1) ↔
      (0x81 ≤ lead ∧ lead < 0xA0 ∨ 0xE0 ≤ lead ∧ lead < 0xF0) ∧
        (if lead < 0xA0 then lead - 0x81 else lead - 0xC1) = (row - 1) / 2 := by
  constructor
  · intro h
    split at h
    · exact ⟨by omega, by rw [if_pos (by omega)]; omega⟩
    · exact ⟨by omega, by rw [if_neg (by omega)]; omega⟩
  · rintro ⟨hrange, hpair⟩
    split at hpair
    · rw [if_pos (by omega)]
      omega
    · rw [if_neg (by omega)]
      omega

/-- The trail octets of a first row number its cells, with a gap at the octet of a deletion. -/
theorem trail_eq_iff {trail cell : Nat} (hcell : 1 ≤ cell) (hcell' : cell ≤ 94) :
    trail = cell + (if cell ≤ 63 then 0x3F else 0x40) ↔
      (0x40 ≤ trail ∧ trail ≠ 0x7F ∧ trail < 0x9F) ∧
        trail - 0x3F - (if 0x80 ≤ trail then 1 else 0) = cell := by
  constructor
  · intro h
    split at h
    · exact ⟨by omega, by rw [if_neg (by omega)]; omega⟩
    · exact ⟨by omega, by rw [if_pos (by omega)]; omega⟩
  · rintro ⟨hrange, hback⟩
    split at hback
    · rw [if_neg (by omega)]
      omega
    · rw [if_pos (by omega)]
      omega

/-- What two octets are read as stands in the cell whose octets they are. -/
theorem inGrid_of_shiftJisPair {a b : UInt8} {c : Char} (h : shiftJisPair a b = some c) :
    ∃ row cell, InGrid row cell c ∧ [a, b] = shiftJisOctets row cell := by
  unfold shiftJisPair at h
  dsimp only at h
  split at h
  · next hrange =>
    -- the lead octet tells the two rows, and the trail octet which of them it is
    generalize hpair : (if a.toNat < 0xA0 then a.toNat - 0x81 else a.toNat - 0xC1) = pair at h
    split at h
    · next htrail =>
      have hle := row_le_of_gridChar h
      have hlead := (lead_eq_iff (by omega) hle).mpr ⟨hrange.1, hpair.trans (by omega)⟩
      refine ⟨_, _, ⟨by omega, hle, by omega, by omega, h⟩, ?_⟩
      rw [shiftJisOctets, if_pos (by omega : (2 * pair + 2) % 2 = 0), Utf8.octet_eq hlead.symm,
        Utf8.octet_eq (a := b) (by omega)]
    · next htrail =>
      have hle := row_le_of_gridChar h
      have hlead := (lead_eq_iff (by omega) hle).mpr ⟨hrange.1, hpair.trans (by omega)⟩
      generalize hcell : b.toNat - 0x3F - (if 0x80 ≤ b.toNat then 1 else 0) = cell at h
      have hbound : 1 ≤ cell ∧ cell ≤ 94 := by split at hcell <;> omega
      have hback := (trail_eq_iff hbound.1 hbound.2).mpr ⟨by omega, hcell⟩
      refine ⟨_, _, ⟨by omega, hle, hbound.1, hbound.2, h⟩, ?_⟩
      rw [shiftJisOctets, if_neg (by omega : ¬(2 * pair + 1) % 2 = 0), Utf8.octet_eq hlead.symm,
        Utf8.octet_eq hback.symm]
  · cases h

/-- The octets of a cell are read as the character that stands there. -/
theorem shiftJisPair_of_inGrid {a b : UInt8} {c : Char} {row cell : Nat} (h : InGrid row cell c)
    (hoctets : [a, b] = shiftJisOctets row cell) : shiftJisPair a b = some c := by
  obtain ⟨hrow, hrow', hcell, hcell', hthere⟩ := h
  obtain ⟨ha, hb⟩ := List.cons_eq_cons.mp hoctets
  have hlead : a.toNat = (row - 1) / 2 + if row ≤ 62 then 0x81 else 0xC1 := by
    rw [ha]
    exact Utf8.toNat_octet (by split <;> omega)
  have htrail : b.toNat = if row % 2 = 0 then cell + 0x9E
      else cell + if cell ≤ 63 then 0x3F else 0x40 := by
    rw [List.singleton_inj.mp hb]
    exact Utf8.toNat_octet (by split <;> [omega; (split <;> omega)])
  obtain ⟨hrange, hpair⟩ := (lead_eq_iff hrow hrow').mp hlead
  have hback : ∀ {r k}, r = row → k = cell → gridChar r k = some c := by
    rintro r k rfl rfl
    exact hthere
  unfold shiftJisPair
  dsimp only
  rw [hpair]
  by_cases hodd : row % 2 = 0
  · rw [if_pos hodd] at htrail
    rw [if_pos ⟨hrange, by omega⟩, if_pos (by omega)]
    exact hback (by omega) (by omega)
  · rw [if_neg hodd] at htrail
    obtain ⟨htrailRange, hcellBack⟩ := (trail_eq_iff hcell hcell').mp htrail
    rw [if_pos ⟨hrange, by omega⟩, if_neg (by omega)]
    exact hback (by omega) hcellBack

/-- The two octets of a cell in Shift_JIS are read as the character there. -/
theorem shiftJisPair_eq_some_iff {a b : UInt8} {c : Char} :
    shiftJisPair a b = some c ↔ ∃ row cell, InGrid row cell c ∧ [a, b] = shiftJisOctets row cell :=
  ⟨inGrid_of_shiftJisPair, fun ⟨_, _, hgrid, hoctets⟩ => shiftJisPair_of_inGrid hgrid hoctets⟩

/-- A lead octet of Shift_JIS stands for no character by itself. -/
theorem lead_of_shiftJisPair {a b : UInt8} {c : Char} (h : shiftJisPair a b = some c) :
    0x80 ≤ a.toNat ∧ halfKana a = none := by
  unfold shiftJisPair at h
  dsimp only at h
  split at h
  · next hrange =>
    refine ⟨by omega, ?_⟩
    rw [halfKana, if_neg (by omega)]
  · cases h

theorem reads_decodeShiftJis : Reads decodeShiftJis (Code .shiftJis) where
  nil _ := rfl
  push {os c} bs done h := by
    rcases h with ⟨hc, b, rfl, hb⟩ | ⟨b, rfl, hkana⟩ | ⟨row, cell, hgrid, rfl⟩
    · -- one octet of ASCII
      have hchar : Char.ofNat b.toNat = c := ofNat_toNat_eq_iff.mpr hb
      rw [List.singleton_append]
      cases bs with
      | nil => simp [decodeShiftJis, ← hb, hc]
      | cons b' bs => rw [decodeShiftJis, if_pos (by omega), hchar]
    · -- one octet of a half-width katakana
      have hle : ¬b.toNat < 0x80 := by
        have hb := hkana.2.2
        omega
      rw [← halfKana_eq_some_iff] at hkana
      rw [List.singleton_append]
      cases bs with
      | nil => simp [decodeShiftJis, hle, hkana]
      | cons b' bs => rw [decodeShiftJis, if_neg hle, hkana]
    · -- the two octets of a cell: the first of them stands for no character by itself
      have hpair := shiftJisPair_eq_some_iff.mpr ⟨row, cell, hgrid, rfl⟩
      obtain ⟨hle, hkana⟩ := lead_of_shiftJisPair hpair
      rw [shiftJisOctets, List.cons_append, List.singleton_append, decodeShiftJis,
        if_neg (by omega), hkana, hpair]
  pull {b bs done t} h := by
    cases bs with
    | nil =>
      rw [decodeShiftJis] at h
      split at h
      · next hb => exact ⟨[b], _, [], List.cons_ne_nil _ _, rfl, Or.inl (isOctet_of_ascii hb), h⟩
      · obtain ⟨c, hkana, hc⟩ := Option.map_eq_some_iff.mp h
        exact ⟨[b], c, [], List.cons_ne_nil _ _, rfl,
          Or.inr (Or.inl ⟨b, rfl, halfKana_eq_some_iff.mp hkana⟩), congrArg some hc⟩
    | cons b' bs =>
      rw [decodeShiftJis] at h
      split at h
      · next hb =>
        exact ⟨[b], _, b' :: bs, List.cons_ne_nil _ _, rfl, Or.inl (isOctet_of_ascii hb), h⟩
      · split at h
        · next c hkana =>
          exact ⟨[b], c, b' :: bs, List.cons_ne_nil _ _, rfl,
            Or.inr (Or.inl ⟨b, rfl, halfKana_eq_some_iff.mp hkana⟩), h⟩
        · split at h
          · next c hpair =>
            exact ⟨[b, b'], c, bs, List.cons_ne_nil _ _, rfl,
              Or.inr (Or.inr (shiftJisPair_eq_some_iff.mp hpair)), h⟩
          · cases h

/-- The two octets of a half-width katakana or of a cell in EUC-JP are read as the character. -/
theorem eucPair_eq_some_iff {a b : UInt8} {c : Char} :
    eucPair a b = some c ↔ (a = 0x8E ∧ IsHalfKana b c) ∨
      ∃ row cell, InGrid row cell c ∧ [a, b] = eucOctets row cell := by
  have hlta := a.toNat_lt
  have hltb := b.toNat_lt
  constructor
  · intro h
    unfold eucPair at h
    split at h
    · next ha => exact Or.inl ⟨ha, halfKana_eq_some_iff.mp h⟩
    · split at h
      · next hrange =>
        refine Or.inr ⟨_, _, ⟨by omega, row_le_of_gridChar h, by omega, by omega, h⟩, ?_⟩
        rw [eucOctets, Utf8.octet_eq (a := a) (by omega), Utf8.octet_eq (a := b) (by omega)]
      · cases h
  · rintro (⟨rfl, hkana⟩ | ⟨row, cell, ⟨hrow, hrow', hcell, hcell', hthere⟩, hoctets⟩)
    · rw [eucPair, if_pos rfl, halfKana_eq_some_iff]
      exact hkana
    · -- the octets of a cell are above `0xA0`, so that the first is no shift to katakana
      obtain ⟨ha, hb⟩ := List.cons_eq_cons.mp hoctets
      have hlead : a.toNat = 0xA0 + row := by
        rw [ha]
        exact Utf8.toNat_octet (by omega)
      have htrail : b.toNat = 0xA0 + cell := by
        rw [List.singleton_inj.mp hb]
        exact Utf8.toNat_octet (by omega)
      have hne : a ≠ 0x8E := by
        rintro rfl
        rw [show (0x8E : UInt8).toNat = 0x8E from rfl] at hlead
        omega
      rw [eucPair, if_neg hne, if_pos (by omega), hlead, htrail, Nat.add_sub_cancel_left,
        Nat.add_sub_cancel_left]
      exact hthere

theorem lead_of_eucPair {a b : UInt8} {c : Char} (h : eucPair a b = some c) : 0x80 ≤ a.toNat := by
  unfold eucPair at h
  split at h
  · next ha =>
    rw [ha]
    decide
  · split at h
    · omega
    · cases h

theorem reads_decodeEuc : Reads decodeEuc (Code .eucJp) where
  nil _ := rfl
  push {os c} bs done h := by
    -- katakana and cells are pairs here, and both are pushed alike
    have hpush : ∀ {a b}, eucPair a b = some c →
        decodeEuc (a :: b :: bs) done = decodeEuc bs (c :: done) := by
      intro a b hpair
      have hle := lead_of_eucPair hpair
      rw [decodeEuc, if_neg (by omega), hpair]
    rcases h with ⟨hc, b, rfl, hb⟩ | ⟨b, rfl, hkana⟩ | ⟨row, cell, hgrid, rfl⟩
    · -- one octet of ASCII
      have hchar : Char.ofNat b.toNat = c := ofNat_toNat_eq_iff.mpr hb
      rw [List.singleton_append]
      cases bs with
      | nil => simp [decodeEuc, ← hb, hc]
      | cons b' bs => rw [decodeEuc, if_pos (by omega), hchar]
    · exact hpush (eucPair_eq_some_iff.mpr (Or.inl ⟨rfl, hkana⟩))
    · exact hpush (eucPair_eq_some_iff.mpr (Or.inr ⟨row, cell, hgrid, rfl⟩))
  pull {b bs done t} h := by
    cases bs with
    | nil =>
      rw [decodeEuc] at h
      split at h
      · next hb => exact ⟨[b], _, [], List.cons_ne_nil _ _, rfl, Or.inl (isOctet_of_ascii hb), h⟩
      · cases h
    | cons b' bs =>
      rw [decodeEuc] at h
      split at h
      · next hb =>
        exact ⟨[b], _, b' :: bs, List.cons_ne_nil _ _, rfl, Or.inl (isOctet_of_ascii hb), h⟩
      · split at h
        · next c hpair =>
          refine ⟨[b, b'], c, bs, List.cons_ne_nil _ _, rfl, Or.inr ?_, h⟩
          rcases eucPair_eq_some_iff.mp hpair with ⟨rfl, hkana⟩ | hgrid
          · exact Or.inl ⟨b', rfl, hkana⟩
          · exact Or.inr hgrid
        · cases h

/-! ### Every encoding -/

variable {charset : Charset} {bs : Bytes} {t : Text}

theorem spells_utf8_iff {mark : Bool} :
    Text.Spells (Code (.utf8 mark)) bs t ↔ Utf8.decode bs = some t :=
  Text.spells_iff_flatMap.trans Utf8.decode_eq_some_iff.symm

/-- A decoder that minds its marks, and goes code by code behind them. -/
theorem decode_eq_some_iff_of_marks
    (hmark : ∀ mark ∈ charset.marks, ∀ rest,
      charset.decode (mark.1 ++ rest) = some t ↔ Text.Spells mark.2.Code rest t)
    (hplain : (∀ mark ∈ charset.marks, ¬mark.1 <+: bs) →
      (charset.decode bs = some t ↔ Text.Spells charset.Code bs t)) :
    charset.decode bs = some t ↔ charset.Writes bs t := by
  by_cases h : ∃ mark ∈ charset.marks, mark.1 <+: bs
  · obtain ⟨mark, hmem, rest, rfl⟩ := h
    rw [hmark mark hmem]
    constructor
    · exact fun h => Or.inl ⟨mark, hmem, rest, rfl, h⟩
    · rintro (⟨mark', hmem', rest', heq, h⟩ | ⟨hnone, -⟩)
      · rwa [← hmark mark hmem, heq, hmark mark' hmem']
      · exact absurd ⟨rest, rfl⟩ (hnone mark hmem)
  · have hnone : ∀ mark ∈ charset.marks, ¬mark.1 <+: bs := fun mark hmem hb => h ⟨mark, hmem, hb⟩
    rw [hplain hnone]
    constructor
    · exact fun h => Or.inr ⟨hnone, h⟩
    · rintro (⟨mark, hmem, rest, rfl, -⟩ | ⟨-, h⟩)
      · exact absurd ⟨rest, rfl⟩ (hnone mark hmem)
      · exact h

/-- Where there are no marks, a text is written by codes alone. -/
theorem writes_iff_of_unmarked (hnone : charset.marks = []) :
    charset.Writes bs t ↔ Text.Spells charset.Code bs t := by
  rw [Writes, hnone]
  simp

theorem decode_eq_some_iff_of_unmarked (hnone : charset.marks = [])
    (h : charset.decode bs = some t ↔ Text.Spells charset.Code bs t) :
    charset.decode bs = some t ↔ charset.Writes bs t :=
  h.trans (writes_iff_of_unmarked hnone).symm

/-- Behind no mark, the units of UTF-16 are taken with their low octet first. -/
theorem mark16_of_not_prefix (h : ∀ mark ∈ (utf16 none).marks, ¬mark.1 <+: bs) :
    mark16 bs = (.little, bs) := by
  unfold mark16
  split
  · exact absurd ⟨_, rfl⟩ (h _ List.mem_cons_self)
  · exact absurd ⟨_, rfl⟩ (h _ (List.mem_cons_of_mem _ List.mem_cons_self))
  · rfl

/-- Behind no mark, so are those of UTF-32. -/
theorem mark32_of_not_prefix (h : ∀ mark ∈ (utf32 none).marks, ¬mark.1 <+: bs) :
    mark32 bs = (.little, bs) := by
  unfold mark32
  split
  · exact absurd ⟨_, rfl⟩ (h _ List.mem_cons_self)
  · exact absurd ⟨_, rfl⟩ (h _ (List.mem_cons_of_mem _ List.mem_cons_self))
  · rfl

/-- Behind no mark, all octets are UTF-8. -/
theorem decode_utf8_of_not_prefix (h : ∀ mark ∈ (utf8 true).marks, ¬mark.1 <+: bs) :
    (utf8 true).decode bs = Utf8.decode bs := by
  unfold decode
  split <;> simp_all [marks]

/-- **A decoder answers a text exactly for octets that write it.** -/
theorem decode_eq_some_iff : charset.decode bs = some t ↔ charset.Writes bs t := by
  cases charset with
  | ascii => exact decode_eq_some_iff_of_unmarked rfl reads_ascii.eq_some_iff_spells
  | latin1 => exact decode_eq_some_iff_of_unmarked rfl reads_latin1.eq_some_iff_spells
  | windows1252 => exact decode_eq_some_iff_of_unmarked rfl reads_windows1252.eq_some_iff_spells
  -- where there are marks, what follows one and what follows none are told apart
  | utf8 mark =>
    cases mark with
    | false => exact decode_eq_some_iff_of_unmarked rfl spells_utf8_iff.symm
    | true =>
      refine decode_eq_some_iff_of_marks ?_ ?_
      · intro mark hmem rest
        rw [List.mem_singleton.mp hmem]
        exact spells_utf8_iff.symm
      · intro hnone
        rw [spells_utf8_iff, decode_utf8_of_not_prefix hnone]
  | utf16 order =>
    cases order with
    | some order =>
      exact decode_eq_some_iff_of_unmarked rfl (reads_decode16 order).eq_some_iff_spells
    | none =>
      refine decode_eq_some_iff_of_marks ?_ ?_
      · intro mark hmem rest
        simp only [marks, List.mem_cons, List.not_mem_nil, or_false] at hmem
        rcases hmem with rfl | rfl
        · exact (reads_decode16 .little).eq_some_iff_spells
        · exact (reads_decode16 .big).eq_some_iff_spells
      · intro hnone
        rw [decode, mark16_of_not_prefix hnone]
        exact (reads_decode16 .little).eq_some_iff_spells
  | utf32 order =>
    cases order with
    | some order =>
      exact decode_eq_some_iff_of_unmarked rfl (reads_decode32 order).eq_some_iff_spells
    | none =>
      refine decode_eq_some_iff_of_marks ?_ ?_
      · intro mark hmem rest
        simp only [marks, List.mem_cons, List.not_mem_nil, or_false] at hmem
        rcases hmem with rfl | rfl
        · exact (reads_decode32 .little).eq_some_iff_spells
        · exact (reads_decode32 .big).eq_some_iff_spells
      · intro hnone
        rw [decode, mark32_of_not_prefix hnone]
        exact (reads_decode32 .little).eq_some_iff_spells
  | shiftJis =>
    exact decode_eq_some_iff_of_unmarked rfl reads_decodeShiftJis.eq_some_iff_spells
  | eucJp => exact decode_eq_some_iff_of_unmarked rfl reads_decodeEuc.eq_some_iff_spells

end Charset

end PackageCatalog
