import PackageCatalog.Canonical
import PackageCatalog.Proofs.Files
import PackageCatalog.Proofs.Segments
import PackageCatalog.Proofs.Text.Utf8

/-!
# Names and their texts

The system knows a file by the octets of its name, and the catalogue by a text.  A text that is
taken as a name has the octets of its encoding.  So the text of a name whose octets are UTF-8 is
a name of the same file; of other names this cannot be said.

## Main definitions

* `NativeName.IsUtf8` — names whose octets are UTF-8.

## Main results

* `NativeName.keepsMarks_toBytes?` — slashes and dots have octets of their own.
* `NativeName.ofBytes_induction` — how octets are read into a name.
* `NativeName.toBytes?_ofBytes` — **octets come back from the name that stands for them.**
* `absoluteName_absoluteName` — an absolute name is its own absolute form.
* `nameText_eq_ok_iff` — the text of a name whose octets are UTF-8.
* `FileTree.stat_ofText` — **that text leads to the same entry.**
-/

namespace PackageCatalog

/-! ### Octets of names -/

namespace NameUnit

/-- An octet of ASCII stands for its character only. -/
theorem eq_char_of_mem {u : NameUnit} {os : Bytes} {b : UInt8} (hu : u.toBytes? = some os)
    (hb : b.toNat < 0x80) (h : b ∈ os) : u = .char (Char.ofNat b.toNat) := by
  cases u with
  | char c =>
    cases hu
    rw [← Utf8.toNat_of_mem_encodeChar hb h, Char.ofNat_toNat]
  | surrogate s =>
    rw [toBytes?] at hu
    split at hu
    · next hs =>
      cases hu
      rw [List.mem_singleton.mp h, Utf8.toNat_octet (by omega)] at hb
      omega
    · cases hu

theorem ne_nil_of_toBytes? {u : NameUnit} {os : Bytes} (hu : u.toBytes? = some os) : os ≠ [] := by
  cases u with
  | char c =>
    cases hu
    exact Utf8.encodeChar_ne_nil c
  | surrogate s =>
    rw [toBytes?] at hu
    split at hu
    · cases hu
      exact List.cons_ne_nil _ _
    · cases hu

/-- An octet that belongs to no character comes back from its escape. -/
theorem toBytes?_escape {b : UInt8} (hb : 0x80 ≤ b.toNat) : (escape b).toBytes? = some [b] := by
  have hlt : b.toNat < 256 := b.toNat_lt
  have hval : (Fin.ofNat 0x800 (0x400 + b.toNat)).val = 0x400 + b.toNat :=
    Nat.mod_eq_of_lt (by omega)
  rw [escape, toBytes?, hval, if_pos (by omega), Nat.add_sub_cancel_left, UInt8.ofNat_toNat]

end NameUnit

namespace NativeName

open PackageCatalog.Path PathAlphabet

variable {n m : NativeName} {b : Bytes}

theorem toBytes?_cons_eq_some_iff {u : NameUnit} :
    toBytes? (u :: n) = some b ↔
      ∃ front back, u.toBytes? = some front ∧ n.toBytes? = some back ∧ b = front ++ back := by
  simp only [toBytes?, Option.bind_eq_bind, Option.bind_eq_some_iff, Option.some.injEq]
  constructor
  · rintro ⟨front, hfront, back, hback, rfl⟩
    exact ⟨front, back, hfront, hback, rfl⟩
  · rintro ⟨front, back, hfront, hback, rfl⟩
    exact ⟨front, hfront, back, hback, rfl⟩

/-- The octets of a name are those of its units, one behind the other. -/
theorem spells_iff :
    Text.Spells (fun os u => NameUnit.toBytes? u = some os) b n ↔ n.toBytes? = some b := by
  induction n generalizing b with
  | nil =>
    constructor
    · intro h
      cases h
      rfl
    · intro h
      cases h
      exact .nil
  | cons u n ih =>
    rw [toBytes?_cons_eq_some_iff]
    constructor
    · intro h
      cases h with
      | cons head tail => exact ⟨_, _, head, ih.mp tail, rfl⟩
    · rintro ⟨front, back, hfront, hback, rfl⟩
      exact .cons hfront (ih.mpr hback)

/-- An octet of ASCII among those of a name stands for a character of the name. -/
theorem char_mem_of_mem_octets {x : UInt8} : ∀ {n : NativeName} {b : Bytes},
    n.toBytes? = some b → x.toNat < 0x80 → x ∈ b → NameUnit.char (Char.ofNat x.toNat) ∈ n := by
  intro n
  induction n with
  | nil =>
    intro b hb _ hx
    cases hb
    cases hx
  | cons u n ih =>
    intro b hb hlow hx
    obtain ⟨front, back, hfront, hback, rfl⟩ := toBytes?_cons_eq_some_iff.mp hb
    rcases List.mem_append.mp hx with hx | hx
    · rw [NameUnit.eq_char_of_mem hfront hlow hx]
      exact List.mem_cons_self
    · exact List.mem_cons_of_mem u (ih hback hlow hx)

/-- The octets of a unit keep slashes and dots. -/
theorem keepsMarks_toBytes? :
    KeepsMarks (fun (os : Bytes) (u : NameUnit) => u.toBytes? = some os) := by
  -- a character of ASCII has its octet, and no other unit has it
  have hmark : ∀ (c : Char) (b : UInt8), b.toNat < 0x80 → Char.ofNat b.toNat = c →
      Utf8.encodeChar c = [b] →
      StandsAlone (fun (os : Bytes) (u : NameUnit) => u.toBytes? = some os) b (.char c) := by
    rintro c b hb rfl hc os u hu
    by_cases h : u = .char (Char.ofNat b.toNat)
    · subst h
      exact Or.inl ⟨(Option.some.inj hu).symm.trans hc, rfl⟩
    · refine Or.inr ⟨fun x hx => ?_, beq_eq_false_iff_ne.mpr h⟩
      rw [beq_eq_false_iff_ne]
      rintro rfl
      exact h (NameUnit.eq_char_of_mem hu hb hx)
  exact ⟨NameUnit.ne_nil_of_toBytes?, hmark '/' 0x2F (by decide) (by decide) (by decide),
    hmark '.' 0x2E (by decide) (by decide) (by decide)⟩

/-- **Octets are read from the front**: a character where one can be read, and otherwise the escape
of one octet. -/
theorem ofBytes_induction {P : Bytes → NativeName → Prop} (nil : P [] [])
    (char : ∀ (c : Char) (b : Bytes) (n : NativeName), P b n →
      P (Utf8.encodeChar c ++ b) (.char c :: n))
    (escape : ∀ (x : UInt8) (b : Bytes) (n : NativeName), Utf8.decodeOne (x :: b) = none → P b n →
      P (x :: b) (.escape x :: n)) (b : Bytes) : P b (ofBytes b) := by
  -- the fuel is the length, and only that it is enough matters
  suffices h : ∀ (fuel : Nat) (b : Bytes), b.length ≤ fuel → P b (ofBytesWith fuel b) from
    h b.length b (Nat.le_refl _)
  intro fuel
  induction fuel with
  | zero =>
    intro b hb
    rw [List.length_eq_zero_iff.mp (Nat.le_zero.mp hb)]
    exact nil
  | succ fuel ih =>
    intro b hb
    cases b with
    | nil => exact nil
    | cons x b =>
      rw [List.length_cons] at hb
      rw [ofBytesWith]
      cases hread : Utf8.decodeOne (x :: b) with
      | some read =>
        obtain ⟨c, rest⟩ := read
        have hoctets := Utf8.decodeOne_eq_some hread
        have hpos := List.length_pos_iff.mpr (Utf8.encodeChar_ne_nil c)
        have hlength := congrArg List.length hoctets
        rw [List.length_append, List.length_cons] at hlength
        rw [hoctets]
        exact char c rest _ (ih rest (by omega))
      | none => exact escape x b _ hread (ih b (by omega))

/-- **Octets come back from the name that stands for them.** -/
theorem toBytes?_ofBytes (b : Bytes) : (ofBytes b).toBytes? = some b := by
  induction b using ofBytes_induction with
  | nil => rfl
  | char c b n ih => exact toBytes?_cons_eq_some_iff.mpr ⟨_, b, rfl, ih, rfl⟩
  | escape x b n hread ih =>
    -- an octet of ASCII would have been read
    have hx : 0x80 ≤ x.toNat := by
      by_contra h
      rw [Utf8.decodeOne_one b (by omega)] at hread
      cases hread
    exact toBytes?_cons_eq_some_iff.mpr ⟨[x], b, NameUnit.toBytes?_escape hx, ih, rfl⟩

/-- The octets of a name are those of its units. -/
theorem mem_of_toBytes? (h : n.toBytes? = some b) {x : UInt8} :
    x ∈ b ↔ ∃ u ∈ n, ∃ os, u.toBytes? = some os ∧ x ∈ os := by
  induction n generalizing b with
  | nil =>
    cases h
    simp
  | cons u n ih =>
    obtain ⟨front, back, hfront, hback, rfl⟩ := toBytes?_cons_eq_some_iff.mp h
    rw [List.mem_append, ih hback]
    simp [hfront]

/-- A name has octets if all of its units have. -/
theorem exists_toBytes?_iff :
    (∃ b, n.toBytes? = some b) ↔ ∀ u ∈ n, ∃ os, u.toBytes? = some os := by
  induction n with
  | nil => simp [toBytes?]
  | cons u n ih =>
    rw [List.forall_mem_cons, ← ih]
    constructor
    · rintro ⟨b, hb⟩
      obtain ⟨front, back, hfront, hback, -⟩ := toBytes?_cons_eq_some_iff.mp hb
      exact ⟨⟨front, hfront⟩, back, hback⟩
    · rintro ⟨⟨front, hfront⟩, back, hback⟩
      exact ⟨_, toBytes?_cons_eq_some_iff.mpr ⟨front, back, hfront, hback, rfl⟩⟩

/-- A text taken as a name has the octets of its encoding. -/
theorem toBytes?_ofText : ∀ t : Text, (ofText t).toBytes? = some (Utf8.encode t) := by
  intro t
  induction t with
  | nil => rfl
  | cons c t ih =>
    rw [ofText, List.map_cons, ← ofText, toBytes?, ih]
    rfl

/-- A name whose octets are UTF-8. -/
def IsUtf8 (n : NativeName) : Prop := ∃ t, n.toBytes? = some (Utf8.encode t)

end NativeName

variable {detect : Detector} {n m : NativeName} {t : Text}

theorem nameText_of_toBytes? (h : n.toBytes? = some (Utf8.encode t)) :
    nameText detect n = .ok t := by
  simp only [nameText, h, canonical, Utf8.decode_encode]

/-- The text of a name whose octets are UTF-8 is the one that they encode. -/
theorem nameText_eq_ok_iff (hn : n.IsUtf8) :
    nameText detect n = .ok t ↔ n.toBytes? = some (Utf8.encode t) := by
  refine ⟨fun h => ?_, nameText_of_toBytes?⟩
  obtain ⟨s, hs⟩ := hn
  rw [nameText_of_toBytes? hs] at h
  rw [hs, Except.ok.inj h]

/-! ### Absolute names -/

/-- An absolute name is its own absolute form. -/
theorem absoluteName_absoluteName (n : NativeName) :
    absoluteName (absoluteName n) = absoluteName n := Path.absolute_absolute rfl n

/-- The key of an absolute name is its text. -/
theorem keyOf_absoluteName (detect : Detector) (n : NativeName) :
    keyOf detect (absoluteName n) = nameText detect (absoluteName n) := by
  rw [keyOf, absoluteName_absoluteName]

/-! ### What the system makes of a name -/

namespace FileTree

variable {tree : FileTree} {entry : Entry}

/-- The entry that a name leads to is settled by its octets. -/
theorem stat_eq_ok_congr (h : n.toBytes? = m.toBytes?) :
    tree.stat n = .ok entry ↔ tree.stat m = .ok entry := by
  have hoctets : octets n = octets m := by rw [octets, octets, h]
  simp only [stat_eq_ok_iff, locate_eq_ok_iff, hoctets]

/-- **The text of a name whose octets are UTF-8 leads to the same entry.** -/
theorem stat_ofText (hn : n.IsUtf8) (ht : nameText detect n = .ok t)
    (hentry : tree.stat n = .ok entry) : tree.stat (NativeName.ofText t) = .ok entry := by
  refine (stat_eq_ok_congr ?_).mp hentry
  rw [(nameText_eq_ok_iff hn).mp ht, NativeName.toBytes?_ofText]

end FileTree

end PackageCatalog
