import PackageCatalog.Proofs.NativeName

/-!
# Low characters

In every encoding a character below `@` is written with its own octet: a slash, a dot and a NUL come
of nothing else.  So a text that is decoded has no NUL unless there is a zero among its octets, and
the text of a name has no slash unless the name has one, whatever the encoding is that was guessed.

## Main results

* `Charset.octet_mem_of_writes` — **the octets of a text with a low character have its octet**, in
  every encoding.
* `not_mem_canonical` — octets without a zero have a text without a NUL.
* `mem_of_mem_nameText` — a low character of the text of a name is one of the name.
-/

namespace PackageCatalog

variable {os bs : Bytes} {t : Text} {c : Char}

/-- A character that is spelled with an octet leaves it in the whole. -/
theorem Text.octet_mem_of_spells {code : Bytes → Char → Prop} {b : UInt8}
    (hcode : ∀ os, code os c → b ∈ os) (h : Text.Spells code bs t) (ht : c ∈ t) : b ∈ bs := by
  induction h with
  | nil => cases ht
  | cons head _ ih =>
    rw [List.mem_append]
    rcases List.mem_cons.mp ht with rfl | ht
    · exact Or.inl (hcode _ head)
    · exact Or.inr (ih ht)

namespace Charset

variable {charset : Charset}

theorem le_windows1252High : ∀ code ∈ windows1252High, code ≠ 0 → 0x40 ≤ code := by decide

theorem octet_mem_of_isOctet (h : IsOctet os c) : UInt8.ofNat c.toNat ∈ os := by
  obtain ⟨b, rfl, hb⟩ := h
  rw [hb, UInt8.ofNat_toNat]
  exact List.mem_singleton_self b

/-- A low character stands neither among the half-width katakana nor in the grid. -/
theorem not_isHalfKana_low (hc : c.toNat < 0x40) {b : UInt8} : ¬IsHalfKana b c := by
  rintro ⟨hfirst, -, -⟩
  omega

theorem not_inGrid_low (hc : c.toNat < 0x40) {row cell : Nat} : ¬InGrid row cell c := by
  intro h
  have := le_of_gridChar h.there
  omega

theorem octet_mem_octets16 (order : ByteOrder) {n : Nat} (hn : n < 0x40) :
    UInt8.ofNat n ∈ octets16 order n := by
  have hlow : n % 256 = n := Nat.mod_eq_of_lt (by omega)
  cases order with
  | little => rw [octets16, hlow]; exact List.mem_cons_self
  | big => rw [octets16, hlow]; exact List.mem_cons_of_mem _ (List.mem_singleton_self _)

/-- **A low character is written with its own octet.** -/
theorem octet_mem_of_code (hc : c.toNat < 0x40) (h : charset.Code os c) :
    UInt8.ofNat c.toNat ∈ os := by
  -- below `@` an encoding writes a character by one octet, or among some with zeros
  cases charset with
  | ascii => exact octet_mem_of_isOctet h.2
  | latin1 => exact octet_mem_of_isOctet h
  | windows1252 =>
    rcases h with ⟨-, hoctet⟩ | ⟨n, -, hn, hne⟩
    · exact octet_mem_of_isOctet hoctet
    · have := le_windows1252High _ (List.mem_of_getElem? hn) hne
      omega
  | utf8 mark =>
    rw [show os = Utf8.encodeChar c from h, Utf8.encodeChar, if_pos (by omega)]
    exact List.mem_singleton_self _
  | utf16 order =>
    rw [show os = write16 (order.getD .little) c from h, write16, if_pos (by omega)]
    exact octet_mem_octets16 _ hc
  | utf32 order =>
    have hlow : c.toNat % 65536 = c.toNat := Nat.mod_eq_of_lt (by omega)
    rw [show os = octets32 (order.getD .little) c.toNat from h]
    cases order.getD .little with
    | little =>
      rw [octets32, hlow]
      exact List.mem_append_left _ (octet_mem_octets16 _ hc)
    | big =>
      rw [octets32, hlow]
      exact List.mem_append_right _ (octet_mem_octets16 _ hc)
  | shiftJis =>
    rcases h with ⟨-, hoctet⟩ | ⟨b, -, hkana⟩ | ⟨row, cell, hgrid, -⟩
    · exact octet_mem_of_isOctet hoctet
    · exact absurd hkana (not_isHalfKana_low hc)
    · exact absurd hgrid (not_inGrid_low hc)
  | eucJp =>
    rcases h with ⟨-, hoctet⟩ | ⟨b, -, hkana⟩ | ⟨row, cell, hgrid, -⟩
    · exact octet_mem_of_isOctet hoctet
    · exact absurd hkana (not_isHalfKana_low hc)
    · exact absurd hgrid (not_inGrid_low hc)

/-- **The octets of a text with a low character have its octet**, in every encoding. -/
theorem octet_mem_of_writes (hc : c.toNat < 0x40) (h : charset.Writes bs t) (ht : c ∈ t) :
    UInt8.ofNat c.toNat ∈ bs := by
  rcases h with ⟨mark, -, rest, rfl, hspells⟩ | ⟨-, hspells⟩
  · exact List.mem_append_right _
      (Text.octet_mem_of_spells (fun _ => octet_mem_of_code hc) hspells ht)
  · exact Text.octet_mem_of_spells (fun _ => octet_mem_of_code hc) hspells ht

end Charset

/-- A low character of a decoded text has its octet among those that were decoded, whichever
encoding is found out. -/
theorem octet_mem_of_mem_canonical {detect : Detector} {raw : Bytes} {label : NativeName}
    (hc : c.toNat < 0x40) (h : canonical detect raw label = .ok t) (ht : c ∈ t) :
    UInt8.ofNat c.toNat ∈ raw := by
  obtain ⟨charset, hwrites, -⟩ := exists_writes_of_canonical h
  exact Charset.octet_mem_of_writes hc hwrites ht

/-- Octets without a zero have a text without a NUL. -/
theorem not_mem_canonical {detect : Detector} {raw : Bytes} {label : NativeName} {t : Text}
    (h : canonical detect raw label = .ok t) (hraw : 0 ∉ raw) : '\x00' ∉ t :=
  fun ht => hraw (octet_mem_of_mem_canonical (by decide) h ht)

/-- **A low character of the text of a name is one of the name.** -/
theorem mem_of_mem_nameText {detect : Detector} {n : NativeName} (hc : c.toNat < 0x40)
    (h : nameText detect n = .ok t) (ht : c ∈ t) : NameUnit.char c ∈ n := by
  obtain ⟨raw, hraw, hcanonical⟩ := exists_canonical_of_nameText h
  have hoctet := octet_mem_of_mem_canonical hc hcanonical ht
  have hnat : (UInt8.ofNat c.toNat).toNat = c.toNat := Utf8.toNat_octet (by omega)
  have hmem := NativeName.char_mem_of_mem_octets hraw (by omega) hoctet
  rwa [hnat, Char.ofNat_toNat] at hmem

end PackageCatalog
