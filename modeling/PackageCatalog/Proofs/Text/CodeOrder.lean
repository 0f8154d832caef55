import PackageCatalog.Proofs.Store.KeyOrder

/-!
# The order of UTF-8

Texts stand in the same order by their octets as by their code points.  Of two characters of one
length the leading bits decide first, and they are written first; of two characters of different
lengths the lead octets decide, and a longer character has the greater one.  What follows a
character never matters, so that the order goes over to texts of which one may be a beginning of
the other.

## Main definitions

* `Utf8.Ahead` — octets that stand before others whatever follows either.
* `Utf8.Ascends` — a way of writing numbers that keeps their order.

## Main results

* `Utf8.ahead_encodeChar` — a lower code point stands ahead.
* `Utf8.order_eq_codeOrder` — **the order of octets is that of code points.**
-/

namespace PackageCatalog

/-! ### Comparison -/

namespace Text

variable {α : Type} {code : α → Nat} {a b : α} {s t : List α}

theorem compareCodes_cons_of_lt (h : code a < code b) :
    compareCodes code (a :: s) (b :: t) = .lt := if_pos h

theorem compareCodes_cons_self : compareCodes code (a :: s) (a :: t) = compareCodes code s t := by
  rw [compareCodes, if_neg (Nat.lt_irrefl _), if_neg (Nat.lt_irrefl _)]

/-- A common beginning says nothing. -/
theorem compareCodes_append (p : List α) :
    compareCodes code (p ++ s) (p ++ t) = compareCodes code s t := by
  induction p with
  | nil => rfl
  | cons a p ih => rw [List.cons_append, List.cons_append, compareCodes_cons_self, ih]

end Text

/-! ### Code points -/

theorem Text.codeOrder_iff (s u : Text) :
    (Text.codeOrder s u = .lt ↔ s < u) ∧ (Text.codeOrder s u = .eq ↔ s = u) := by
  have hlt : ∀ a b : Char, a.toNat < b.toNat ↔ id a < id b := fun _ _ => Iff.rfl
  have heq : ∀ a b : Char, a.toNat = b.toNat ↔ id a = id b := fun _ _ => Char.toNat_inj
  have h := Text.compareCodes_iff hlt heq s u
  rwa [List.map_id, List.map_id] at h

theorem Text.codeOrder_eq_lt_iff (s u : Text) : Text.codeOrder s u = .lt ↔ s < u :=
  (codeOrder_iff s u).1

theorem Text.codeOrder_eq_eq_iff (s u : Text) : Text.codeOrder s u = .eq ↔ s = u :=
  (codeOrder_iff s u).2

namespace Utf8

/-! ### Octets that decide -/

/-- Octets stand before others, whatever follows either. -/
def Ahead (u v : Bytes) : Prop :=
  ∀ x y : Bytes, Text.compareCodes UInt8.toNat (u ++ x) (v ++ y) = .lt

theorem ahead_of_lead {a b : UInt8} {u v : Bytes} (h : a.toNat < b.toNat) :
    Ahead (a :: u) (b :: v) := fun _ _ => Text.compareCodes_cons_of_lt h

variable {u v : Bytes}

/-- What decides, decides before anything that is written behind it. -/
theorem Ahead.append (h : Ahead u v) (p q : Bytes) : Ahead (u ++ p) (v ++ q) := by
  intro x y
  rw [List.append_assoc, List.append_assoc]
  exact h (p ++ x) (q ++ y)

theorem Ahead.behind (h : Ahead u v) (p : Bytes) : Ahead (p ++ u) (p ++ v) := by
  intro x y
  rw [List.append_assoc, List.append_assoc, Text.compareCodes_append]
  exact h x y

/-! ### Numbers in octets -/

/-- Numbers below a bound are written so that the lower one stands ahead. -/
def Ascends (write : Nat → Bytes) (bound : Nat) : Prop :=
  ∀ m n : Nat, m < n → n < bound → Ahead (write m) (write n)

/-- A number in a lead octet. -/
def lead (base n : Nat) : Bytes := [UInt8.ofNat (base + n)]

/-- A number whose lowest six bits are in a continuation octet. -/
def continued (write : Nat → Bytes) (n : Nat) : Bytes :=
  write (n / 64) ++ [UInt8.ofNat (0x80 + n % 64)]

theorem ascends_lead {base bound : Nat} (h : base + bound ≤ 256) : Ascends (lead base) bound := by
  intro m n hmn hn
  refine ahead_of_lead ?_
  rw [toNat_octet (by omega), toNat_octet (by omega)]
  omega

/-- The upper bits are written first, and the lowest six decide where those are the same. -/
theorem Ascends.continued {write : Nat → Bytes} {bound : Nat} (h : Ascends write bound) :
    Ascends (continued write) (bound * 64) := by
  intro m n hmn hn
  rcases Nat.lt_or_ge (m / 64) (n / 64) with hupper | hupper
  · exact (h _ _ hupper (by omega)).append _ _
  · have hsame : m / 64 = n / 64 := by omega
    unfold Utf8.continued
    rw [hsame]
    refine Ahead.behind (ahead_of_lead ?_) _
    rw [toNat_octet (by omega), toNat_octet (by omega)]
    omega

/-! ### Characters -/

theorem encodeChar_of_one {c : Char} (h : c.toNat < 0x80) : encodeChar c = lead 0 c.toNat := by
  simp only [encodeChar, h, ↓reduceIte, lead, Nat.zero_add]

theorem encodeChar_of_two {c : Char} (h : 0x80 ≤ c.toNat) (h' : c.toNat < 0x800) :
    encodeChar c = continued (lead 0xC0) c.toNat := by
  simp only [encodeChar, Nat.not_lt.mpr h, h', ↓reduceIte, continued, lead, List.singleton_append]

theorem encodeChar_of_three {c : Char} (h : 0x800 ≤ c.toNat) (h' : c.toNat < 0x10000) :
    encodeChar c = continued (continued (lead 0xE0)) c.toNat := by
  simp only [encodeChar, show ¬c.toNat < 0x80 by omega, Nat.not_lt.mpr h, h', ↓reduceIte, continued,
    lead, List.cons_append, List.nil_append, Nat.div_div_eq_div_mul, Nat.reduceMul]

theorem encodeChar_of_four {c : Char} (h : 0x10000 ≤ c.toNat) :
    encodeChar c = continued (continued (continued (lead 0xF0))) c.toNat := by
  simp only [encodeChar, show ¬c.toNat < 0x80 by omega, show ¬c.toNat < 0x800 by omega,
    Nat.not_lt.mpr h, ↓reduceIte, continued, lead, List.cons_append, List.nil_append,
    Nat.div_div_eq_div_mul, Nat.reduceMul]

/-- The number in the lead octet of a character. -/
def leadNumber (n : Nat) : Nat :=
  if n < 0x80 then n
  else if n < 0x800 then 0xC0 + n / 64
  else if n < 0x10000 then 0xE0 + n / 4096
  else 0xF0 + n / 262144

theorem leadNumber_lt (c : Char) : leadNumber c.toNat < 256 := by
  have hlt := toNat_lt c
  unfold leadNumber
  split_ifs <;> omega

theorem exists_encodeChar (c : Char) :
    ∃ os, encodeChar c = UInt8.ofNat (leadNumber c.toNat) :: os := by
  unfold encodeChar leadNumber
  dsimp only
  split
  · exact ⟨_, rfl⟩
  split
  · exact ⟨_, rfl⟩
  split
  · exact ⟨_, rfl⟩
  · exact ⟨_, rfl⟩

/-- A shorter character stands ahead of a longer one, by its lead octet. -/
theorem ahead_of_shorter {c d : Char} {least : Nat} (hleast : least ∈ [0x80, 0x800, 0x10000])
    (hc : c.toNat < least) (hd : least ≤ d.toNat) : Ahead (encodeChar c) (encodeChar d) := by
  have hlead : leadNumber c.toNat < leadNumber d.toNat := by
    simp only [List.mem_cons, List.not_mem_nil, or_false] at hleast
    unfold leadNumber
    rcases hleast with rfl | rfl | rfl
    · split_ifs <;> omega
    · split_ifs <;> omega
    · split_ifs <;> omega
  obtain ⟨os, hos⟩ := exists_encodeChar c
  obtain ⟨os', hos'⟩ := exists_encodeChar d
  rw [hos, hos']
  refine ahead_of_lead ?_
  rwa [toNat_octet (leadNumber_lt c), toNat_octet (leadNumber_lt d)]

/-- **A lower code point stands ahead**, whatever the lengths and whatever follows. -/
theorem ahead_encodeChar {c d : Char} (h : c.toNat < d.toNat) :
    Ahead (encodeChar c) (encodeChar d) := by
  have hlt := toNat_lt d
  have hone : Ascends (lead 0) 0x80 := ascends_lead (by decide)
  have htwo : Ascends (continued (lead 0xC0)) 0x800 :=
    (ascends_lead (by decide) : Ascends (lead 0xC0) 0x20).continued
  have hthree : Ascends (continued (continued (lead 0xE0))) 0x10000 :=
    ((ascends_lead (by decide) : Ascends (lead 0xE0) 0x10).continued : Ascends _ 0x400).continued
  have hfour : Ascends (continued (continued (continued (lead 0xF0)))) 0x400000 :=
    (((ascends_lead (by decide) : Ascends (lead 0xF0) 0x10).continued :
      Ascends _ 0x400).continued : Ascends _ 0x10000).continued
  -- one case for each length of the greater one; the other has the same length or is shorter
  by_cases h1 : d.toNat < 0x80
  · rw [encodeChar_of_one h1, encodeChar_of_one (by omega)]
    exact hone _ _ h h1
  by_cases h2 : d.toNat < 0x800
  · by_cases hc : c.toNat < 0x80
    · exact ahead_of_shorter (by decide) hc (Nat.not_lt.mp h1)
    rw [encodeChar_of_two (by omega) h2, encodeChar_of_two (by omega) (by omega)]
    exact htwo _ _ h h2
  by_cases h3 : d.toNat < 0x10000
  · by_cases hc : c.toNat < 0x800
    · exact ahead_of_shorter (by decide) hc (Nat.not_lt.mp h2)
    rw [encodeChar_of_three (by omega) h3, encodeChar_of_three (by omega) (by omega)]
    exact hthree _ _ h h3
  · by_cases hc : c.toNat < 0x10000
    · exact ahead_of_shorter (by decide) hc (Nat.not_lt.mp h3)
    rw [encodeChar_of_four (by omega), encodeChar_of_four (by omega)]
    exact hfour _ _ h (by omega)

/-! ### Texts -/

/-- **Texts stand in the same order by their octets as by their code points**, also where they have
characters of different lengths, and where one is a beginning of the other. -/
theorem order_eq_codeOrder : ∀ s t : Text, order s t = Text.codeOrder s t := by
  intro s
  induction s with
  | nil =>
    intro t
    cases t with
    | nil => rfl
    | cons d t =>
      obtain ⟨os, hos⟩ := exists_encodeChar d
      rw [order, encode_cons, hos]
      rfl
  | cons c s ih =>
    intro t
    cases t with
    | nil =>
      obtain ⟨os, hos⟩ := exists_encodeChar c
      rw [order, encode_cons, hos]
      rfl
    | cons d t =>
      rw [order, encode_cons, encode_cons, Text.codeOrder]
      rcases Nat.lt_trichotomy c.toNat d.toNat with h | h | h
      · rw [ahead_encodeChar h, Text.compareCodes_cons_of_lt h]
      · rw [Char.toNat_inj.mp h, Text.compareCodes_append, Text.compareCodes_cons_self]
        exact ih t
      · rw [Std.OrientedCmp.gt_of_lt (ahead_encodeChar h _ _),
          Std.OrientedCmp.gt_of_lt (Text.compareCodes_cons_of_lt h)]

/-- **Octets ascend exactly as texts do.** -/
theorem encode_lt_encode_iff (s u : Text) : encode s < encode u ↔ s < u := by
  rw [← (Text.compareCodes_octets_iff _ _).1, ← Text.codeOrder_eq_lt_iff, ← order_eq_codeOrder]
  rfl

end Utf8

end PackageCatalog
