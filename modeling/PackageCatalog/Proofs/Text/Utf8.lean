import PackageCatalog.Text.Utf8
import Mathlib.Data.List.Basic

/-!
# Reading back UTF-8

The octets of a character, followed by anything, decode to the character and what follows it.  So
a text is told by its octets.

## Main results

* `decodeOne_encodeChar` — one character is read back.
* `encode_injective` — different texts have different octets.
* `decode_encode` — a text is read back.
* `encode_of_decode` — a text that is read has the octets it was read from.
-/

namespace PackageCatalog.Utf8

/-! ### Octets -/

theorem toNat_octet {n : Nat} (h : n < 256) : (UInt8.ofNat n).toNat = n :=
  UInt8.toNat_ofNat_of_lt' h

/-- A continuation octet gives back its six bits. -/
theorem continuation?_octet {x : Nat} (h : x < 64) :
    continuation? (UInt8.ofNat (0x80 + x)) = some x := by
  unfold continuation?
  rw [toNat_octet (by omega)]
  simp [show 0x80 + x < 0xC0 by omega]

/-- A code point of a character is a scalar value. -/
theorem scalar?_toNat {least : Nat} {c : Char} (h : least ≤ c.toNat) :
    scalar? least c.toNat = some c := by
  have hv : c.toNat.isValidChar := c.valid
  simp [scalar?, h, hv, Char.ofNat_toNat]

/-- Every code point is below U+110000. -/
theorem toNat_lt (c : Char) : c.toNat < 0x110000 := by
  have hv : c.toNat.isValidChar := c.valid
  rcases hv with h | ⟨-, h⟩ <;> omega

/-! ### Lead octets -/

theorem decodeOne_one {a : UInt8} (rest : Bytes) (h : a.toNat < 0x80) :
    decodeOne (a :: rest) = some (Char.ofNat a.toNat, rest) := by
  unfold decodeOne
  exact if_pos h

theorem decodeOne_two {a b : UInt8} {x : Nat} {c : Char} (rest : Bytes) (h : 0xC2 ≤ a.toNat)
    (h' : a.toNat < 0xE0) (hb : continuation? b = some x)
    (hc : scalar? 0x80 ((a.toNat - 0xC0) * 64 + x) = some c) :
    decodeOne (a :: b :: rest) = some (c, rest) := by
  simp only [decodeOne, Option.bind_eq_bind]
  rw [if_neg (by omega), if_neg (by omega), if_pos h']
  refine Option.bind_eq_some_iff.mpr ⟨x, hb, ?_⟩
  exact Option.bind_eq_some_iff.mpr ⟨c, hc, rfl⟩

theorem decodeOne_three {a b b' : UInt8} {x y : Nat} {c : Char} (rest : Bytes)
    (h : 0xE0 ≤ a.toNat) (h' : a.toNat < 0xF0) (hb : continuation? b = some x)
    (hb' : continuation? b' = some y)
    (hc : scalar? 0x800 ((a.toNat - 0xE0) * 4096 + x * 64 + y) = some c) :
    decodeOne (a :: b :: b' :: rest) = some (c, rest) := by
  simp only [decodeOne, Option.bind_eq_bind]
  rw [if_neg (by omega), if_neg (by omega), if_neg (by omega), if_pos h']
  refine Option.bind_eq_some_iff.mpr ⟨x, hb, ?_⟩
  refine Option.bind_eq_some_iff.mpr ⟨y, hb', ?_⟩
  exact Option.bind_eq_some_iff.mpr ⟨c, hc, rfl⟩

theorem decodeOne_four {a b b' b'' : UInt8} {x y z : Nat} {c : Char} (rest : Bytes)
    (h : 0xF0 ≤ a.toNat) (h' : a.toNat < 0xF5) (hb : continuation? b = some x)
    (hb' : continuation? b' = some y) (hb'' : continuation? b'' = some z)
    (hc : scalar? 0x10000 ((a.toNat - 0xF0) * 262144 + x * 4096 + y * 64 + z) = some c) :
    decodeOne (a :: b :: b' :: b'' :: rest) = some (c, rest) := by
  simp only [decodeOne, Option.bind_eq_bind]
  rw [if_neg (by omega), if_neg (by omega), if_neg (by omega), if_neg (by omega), if_pos h']
  refine Option.bind_eq_some_iff.mpr ⟨x, hb, ?_⟩
  refine Option.bind_eq_some_iff.mpr ⟨y, hb', ?_⟩
  refine Option.bind_eq_some_iff.mpr ⟨z, hb'', ?_⟩
  exact Option.bind_eq_some_iff.mpr ⟨c, hc, rfl⟩

/-! ### Characters -/

/-- One character is read back, whatever follows it. -/
theorem decodeOne_encodeChar (c : Char) (rest : Bytes) :
    decodeOne (encodeChar c ++ rest) = some (c, rest) := by
  have hlt := toNat_lt c
  have hscalar : ∀ {least m : Nat}, m = c.toNat → least ≤ c.toNat → scalar? least m = some c := by
    rintro least m rfl h
    exact scalar?_toNat h
  -- one case for each length, which the lead octet tells
  unfold encodeChar
  by_cases h1 : c.toNat < 0x80
  · simp only [h1, ↓reduceIte, List.cons_append, List.nil_append]
    rw [decodeOne_one rest (by rw [toNat_octet (by omega)]; exact h1), toNat_octet (by omega),
      Char.ofNat_toNat]
  by_cases h2 : c.toNat < 0x800
  · simp only [h1, h2, ↓reduceIte, List.cons_append, List.nil_append]
    have ha : (UInt8.ofNat (0xC0 + c.toNat / 64)).toNat = 0xC0 + c.toNat / 64 :=
      toNat_octet (by omega)
    exact decodeOne_two rest (by omega) (by omega) (continuation?_octet (by omega))
      (hscalar (by omega) (by omega))
  by_cases h3 : c.toNat < 0x10000
  · simp only [h1, h2, h3, ↓reduceIte, List.cons_append, List.nil_append]
    have ha : (UInt8.ofNat (0xE0 + c.toNat / 4096)).toNat = 0xE0 + c.toNat / 4096 :=
      toNat_octet (by omega)
    exact decodeOne_three rest (by omega) (by omega) (continuation?_octet (by omega))
      (continuation?_octet (by omega)) (hscalar (by omega) (by omega))
  · simp only [h1, h2, h3, ↓reduceIte, List.cons_append, List.nil_append]
    have ha : (UInt8.ofNat (0xF0 + c.toNat / 262144)).toNat = 0xF0 + c.toNat / 262144 :=
      toNat_octet (by omega)
    exact decodeOne_four rest (by omega) (by omega) (continuation?_octet (by omega))
      (continuation?_octet (by omega)) (continuation?_octet (by omega))
      (hscalar (by omega) (by omega))

theorem encodeChar_ne_nil (c : Char) : encodeChar c ≠ [] := by
  intro h
  have hread := decodeOne_encodeChar c []
  rw [h] at hread
  exact absurd hread (by simp [decodeOne])

/-- The octets of a character that is not ASCII are none of ASCII. -/
theorem toNat_of_mem_encodeChar {c : Char} {b : UInt8} (hb : b.toNat < 0x80)
    (h : b ∈ encodeChar c) : c.toNat = b.toNat := by
  have hlt := toNat_lt c
  have hlead : ∀ {n : Nat}, 0x80 ≤ n → n < 256 → b ≠ UInt8.ofNat n := by
    rintro n hn hn' rfl
    rw [toNat_octet hn'] at hb
    omega
  unfold encodeChar at h
  dsimp only at h
  split at h
  · rw [List.mem_singleton.mp h, toNat_octet (by omega)]
  split at h
  · simp only [List.mem_cons, List.not_mem_nil, or_false] at h
    rcases h with h | h
    · exact absurd h (hlead (by omega) (by omega))
    · exact absurd h (hlead (by omega) (by omega))
  split at h
  · simp only [List.mem_cons, List.not_mem_nil, or_false] at h
    rcases h with h | h | h
    · exact absurd h (hlead (by omega) (by omega))
    · exact absurd h (hlead (by omega) (by omega))
    · exact absurd h (hlead (by omega) (by omega))
  · simp only [List.mem_cons, List.not_mem_nil, or_false] at h
    rcases h with h | h | h | h
    · exact absurd h (hlead (by omega) (by omega))
    · exact absurd h (hlead (by omega) (by omega))
    · exact absurd h (hlead (by omega) (by omega))
    · exact absurd h (hlead (by omega) (by omega))

/-! ### Texts -/

@[simp] theorem encode_nil : encode [] = [] := rfl

@[simp] theorem encode_cons (c : Char) (t : Text) : encode (c :: t) = encodeChar c ++ encode t :=
  rfl

/-- **A text is told by its octets.** -/
theorem encode_injective : ∀ {s t : Text}, encode s = encode t → s = t := by
  intro s
  induction s with
  | nil =>
    intro t h
    cases t with
    | nil => rfl
    | cons d t =>
      rw [encode_nil, encode_cons] at h
      exact absurd (List.append_eq_nil_iff.mp h.symm).1 (encodeChar_ne_nil d)
  | cons c s ih =>
    intro t h
    cases t with
    | nil =>
      rw [encode_nil, encode_cons] at h
      exact absurd (List.append_eq_nil_iff.mp h).1 (encodeChar_ne_nil c)
    | cons d t =>
      rw [encode_cons, encode_cons] at h
      have hread := decodeOne_encodeChar c (encode s)
      rw [h, decodeOne_encodeChar] at hread
      simp only [Option.some.injEq, Prod.mk.injEq] at hread
      rw [hread.1, ih hread.2.symm]

/-- The octets of a text are read onto what has been read, as long as the fuel is no less than
their number. -/
theorem decodeOnto_encode : ∀ {t : Text} {fuel : Nat} {done : Text},
    (encode t).length ≤ fuel → decodeOnto fuel (encode t) done = some (done.reverse ++ t) := by
  intro t
  induction t with
  | nil =>
    intro fuel done _
    rw [encode_nil, decodeOnto, List.append_nil]
  | cons c t ih =>
    intro fuel done hfuel
    obtain ⟨b, bs, hb⟩ := List.exists_cons_of_ne_nil (encodeChar_ne_nil c)
    have hread := decodeOne_encodeChar c (encode t)
    rw [encode_cons, hb, List.cons_append] at hfuel ⊢
    rw [hb, List.cons_append] at hread
    cases fuel with
    | zero => exact absurd hfuel (by simp)
    | succ fuel =>
      have hrest : (encode t).length ≤ fuel := by
        rw [List.length_cons, List.length_append] at hfuel
        omega
      rw [decodeOnto, hread]
      dsimp only
      rw [ih hrest, List.reverse_cons, List.append_assoc, List.singleton_append]

/-- **A text is read back from its octets.** -/
theorem decode_encode (t : Text) : decode (encode t) = some t :=
  decodeOnto_encode (Nat.le_refl _)

/-! ### Octets that are read -/

/-- The octet that carries six bits. -/
theorem continuation?_eq {b : UInt8} {x : Nat} (h : continuation? b = some x) :
    b = UInt8.ofNat (0x80 + x) ∧ x < 64 := by
  unfold continuation? at h
  split at h
  · next hb =>
    have hx : b.toNat = 0x80 + x := by
      have hx := Option.some.inj h
      omega
    rw [← hx, UInt8.ofNat_toNat]
    exact ⟨rfl, by omega⟩
  · cases h

/-- The code point of a scalar value. -/
theorem scalar?_eq {least n : Nat} {c : Char} (h : scalar? least n = some c) :
    c.toNat = n ∧ least ≤ n := by
  unfold scalar? at h
  split at h
  · next hn =>
    have hc : Char.ofNat n = c := Option.some.inj h
    rw [← hc, Char.ofNat, dif_pos hn.2]
    exact ⟨rfl, hn.1⟩
  · cases h

/-- An octet is told by its number. -/
theorem octet_eq {a : UInt8} {n : Nat} (h : n = a.toNat) : UInt8.ofNat n = a := by
  rw [h, UInt8.ofNat_toNat]

theorem encodeChar_two {a : UInt8} {c : Char} {x : Nat} (hx : x < 64) (hleast : 0x80 ≤ c.toNat)
    (h : 0xC2 ≤ a.toNat) (h' : a.toNat < 0xE0) (hc : c.toNat = (a.toNat - 0xC0) * 64 + x) :
    encodeChar c = [a, UInt8.ofNat (0x80 + x)] := by
  have hlead : 0xC0 + c.toNat / 64 = a.toNat := by omega
  have hbits : c.toNat % 64 = x := by omega
  unfold encodeChar
  dsimp only
  rw [if_neg (by omega), if_pos (by omega), octet_eq hlead, hbits]

theorem encodeChar_three {a : UInt8} {c : Char} {x y : Nat} (hx : x < 64) (hy : y < 64)
    (hleast : 0x800 ≤ c.toNat) (h : 0xE0 ≤ a.toNat) (h' : a.toNat < 0xF0)
    (hc : c.toNat = (a.toNat - 0xE0) * 4096 + x * 64 + y) :
    encodeChar c = [a, UInt8.ofNat (0x80 + x), UInt8.ofNat (0x80 + y)] := by
  have hlead : 0xE0 + c.toNat / 4096 = a.toNat := by omega
  have hbits : c.toNat / 64 % 64 = x := by omega
  have hbits' : c.toNat % 64 = y := by omega
  unfold encodeChar
  dsimp only
  rw [if_neg (by omega), if_neg (by omega), if_pos (by omega), octet_eq hlead, hbits, hbits']

theorem encodeChar_four {a : UInt8} {c : Char} {x y z : Nat} (hx : x < 64) (hy : y < 64)
    (hz : z < 64) (hleast : 0x10000 ≤ c.toNat) (h : 0xF0 ≤ a.toNat)
    (hc : c.toNat = (a.toNat - 0xF0) * 262144 + x * 4096 + y * 64 + z) :
    encodeChar c =
      [a, UInt8.ofNat (0x80 + x), UInt8.ofNat (0x80 + y), UInt8.ofNat (0x80 + z)] := by
  have hlead : 0xF0 + c.toNat / 262144 = a.toNat := by omega
  have hbits : c.toNat / 4096 % 64 = x := by omega
  have hbits' : c.toNat / 64 % 64 = y := by omega
  have hbits'' : c.toNat % 64 = z := by omega
  unfold encodeChar
  dsimp only
  rw [if_neg (by omega), if_neg (by omega), if_neg (by omega), octet_eq hlead, hbits, hbits',
    hbits'']

/-- **The octets of a character that is read.** -/
theorem decodeOne_eq_some {bs rest : Bytes} {c : Char} (h : decodeOne bs = some (c, rest)) :
    bs = encodeChar c ++ rest := by
  cases bs with
  | nil => cases h
  | cons a bs =>
    -- one case for each length, which the lead octet tells
    unfold decodeOne at h
    dsimp only at h
    split at h
    · next h1 =>
      simp only [Option.some.injEq, Prod.mk.injEq] at h
      obtain ⟨rfl, rfl⟩ := h
      have hc : (Char.ofNat a.toNat).toNat = a.toNat := by
        rw [Char.ofNat, dif_pos (Or.inl (by omega))]
        rfl
      rw [encodeChar, hc, if_pos h1, UInt8.ofNat_toNat]
      rfl
    split at h
    · cases h
    split at h
    · split at h
      · simp only [Option.bind_eq_bind, Option.bind_eq_some_iff, Option.some.injEq,
          Prod.mk.injEq] at h
        obtain ⟨x, hx, d, hd, rfl, rfl⟩ := h
        obtain ⟨rfl, hx'⟩ := continuation?_eq hx
        obtain ⟨hd, hleast⟩ := scalar?_eq hd
        rw [encodeChar_two hx' (by omega) (by omega) (by omega) hd]
        rfl
      · cases h
    split at h
    · split at h
      · simp only [Option.bind_eq_bind, Option.bind_eq_some_iff, Option.some.injEq,
          Prod.mk.injEq] at h
        obtain ⟨x, hx, y, hy, d, hd, rfl, rfl⟩ := h
        obtain ⟨rfl, hx'⟩ := continuation?_eq hx
        obtain ⟨rfl, hy'⟩ := continuation?_eq hy
        obtain ⟨hd, hleast⟩ := scalar?_eq hd
        rw [encodeChar_three hx' hy' (by omega) (by omega) (by omega) hd]
        rfl
      · cases h
    split at h
    · split at h
      · simp only [Option.bind_eq_bind, Option.bind_eq_some_iff, Option.some.injEq,
          Prod.mk.injEq] at h
        obtain ⟨x, hx, y, hy, z, hz, d, hd, rfl, rfl⟩ := h
        obtain ⟨rfl, hx'⟩ := continuation?_eq hx
        obtain ⟨rfl, hy'⟩ := continuation?_eq hy
        obtain ⟨rfl, hz'⟩ := continuation?_eq hz
        obtain ⟨hd, hleast⟩ := scalar?_eq hd
        rw [encodeChar_four hx' hy' hz' (by omega) (by omega) hd]
        rfl
      · cases h
    · cases h

theorem decodeOnto_eq_some : ∀ {fuel : Nat} {bs : Bytes} {done t : Text},
    decodeOnto fuel bs done = some t → ∃ u, t = done.reverse ++ u ∧ bs = encode u := by
  intro fuel
  induction fuel with
  | zero =>
    intro bs done t h
    cases bs with
    | nil => exact ⟨[], by rw [List.append_nil]; exact (Option.some.inj h).symm, rfl⟩
    | cons b bs => cases h
  | succ fuel ih =>
    intro bs done t h
    cases bs with
    | nil => exact ⟨[], by rw [List.append_nil]; exact (Option.some.inj h).symm, rfl⟩
    | cons b bs =>
      rw [decodeOnto] at h
      cases hone : decodeOne (b :: bs) with
      | none =>
        rw [hone] at h
        cases h
      | some read =>
        obtain ⟨c, rest⟩ := read
        rw [hone] at h
        obtain ⟨u, rfl, rfl⟩ := ih h
        refine ⟨c :: u, ?_, decodeOne_eq_some hone⟩
        rw [List.reverse_cons, List.append_assoc]
        rfl

/-- **The octets of a text that is read.** -/
theorem encode_of_decode {bs : Bytes} {t : Text} (h : decode bs = some t) : encode t = bs := by
  obtain ⟨u, rfl, rfl⟩ := decodeOnto_eq_some h
  rfl

/-- A text whose octets start with those of another starts with it. -/
theorem exists_append_of_encode : ∀ {s t : Text} {bs : Bytes}, encode t = encode s ++ bs →
    ∃ u, t = s ++ u ∧ encode u = bs := by
  intro s
  induction s with
  | nil => exact fun {t bs} h => ⟨t, rfl, h⟩
  | cons c s ih =>
    intro t bs h
    rw [encode_cons, List.append_assoc] at h
    cases t with
    | nil => exact absurd (List.append_eq_nil_iff.mp h.symm).1 (encodeChar_ne_nil c)
    | cons d t =>
      rw [encode_cons] at h
      have hread := decodeOne_encodeChar d (encode t)
      rw [h, decodeOne_encodeChar] at hread
      simp only [Option.some.injEq, Prod.mk.injEq] at hread
      obtain ⟨u, rfl, hu⟩ := ih hread.2.symm
      exact ⟨u, by rw [hread.1]; rfl, hu⟩

end PackageCatalog.Utf8
