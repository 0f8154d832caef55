import PackageCatalog.Store.SortKey
import PackageCatalog.Proofs.Text.Utf8
import Mathlib.Data.List.Basic

/-!
# The order of sort keys

Comparison by sort keys is a transitive three-way comparison, and what its answers mean is said
here without it: numbers by value, texts by the octets of their encoding, numbers before texts,
and of several keys the first on which two documents differ decides, in its own direction.

## Main definitions

* `Cell.Precedes`, `SortKey.Precedes` — one value, one document strictly before another.

## Main results

* `SortKey.compare_eq_lt_iff`, `SortKey.compare_eq_eq_iff` — what a comparison tells.
-/

namespace PackageCatalog

/-! ### Sequences -/

theorem Text.compareCodes_eq {α : Type} (code : α → Nat) : ∀ s t : List α,
    Text.compareCodes code s t = List.compareLex (compareOn code) s t := by
  intro s
  induction s with
  | nil => intro t; cases t <;> rfl
  | cons a s ih =>
    intro t
    cases t with
    | nil => rfl
    | cons b t =>
      rw [List.compareLex_cons_cons, ← ih t, Text.compareCodes]
      simp only [compareOn]
      rcases Nat.lt_trichotomy (code a) (code b) with h | h | h
      · rw [if_pos h, Nat.compare_eq_lt.mpr h]; rfl
      · rw [if_neg (by omega), if_neg (by omega), Nat.compare_eq_eq.mpr h]; rfl
      · rw [if_neg (by omega), if_pos h, Nat.compare_eq_gt.mpr h]; rfl

instance {α : Type} (code : α → Nat) : Std.TransCmp (Text.compareCodes code) := by
  have h : Text.compareCodes code = List.compareLex (compareOn code) :=
    funext fun s => funext fun t => Text.compareCodes_eq code s t
  rw [h]
  infer_instance

/-- Comparison by codes is the order of the lists of keys, when the codes are in the order of the
keys. -/
theorem Text.compareCodes_iff {α β : Type} [LT β] {code : α → Nat} {key : α → β}
    (hlt : ∀ a b, code a < code b ↔ key a < key b) (heq : ∀ a b, code a = code b ↔ key a = key b) :
    ∀ s t : List α, (Text.compareCodes code s t = .lt ↔ s.map key < t.map key) ∧
      (Text.compareCodes code s t = .eq ↔ s.map key = t.map key) := by
  intro s
  induction s with
  | nil => intro t; cases t <;> simp [Text.compareCodes]
  | cons a s ih =>
    intro t
    cases t with
    | nil => simp [Text.compareCodes]
    | cons b t =>
      obtain ⟨ihlt, iheq⟩ := ih t
      rw [List.map_cons, List.map_cons, List.cons_lt_cons_iff, List.cons.injEq, ← ihlt, ← iheq,
        ← hlt, ← heq, Text.compareCodes]
      rcases Nat.lt_trichotomy (code a) (code b) with h | h | h
      · simp [h, Nat.ne_of_lt h]
      · simp [h]
      · simp [h, Nat.lt_asymm h, (Nat.ne_of_lt h).symm]

/-- Sequences of octets are compared in the order of lists. -/
theorem Text.compareCodes_octets_iff (s t : Bytes) :
    (Text.compareCodes UInt8.toNat s t = .lt ↔ s < t) ∧
      (Text.compareCodes UInt8.toNat s t = .eq ↔ s = t) := by
  have h : (Text.compareCodes UInt8.toNat s t = .lt ↔ s.map id < t.map id) ∧
      (Text.compareCodes UInt8.toNat s t = .eq ↔ s.map id = t.map id) :=
    Text.compareCodes_iff (fun _ _ => UInt8.lt_iff_toNat_lt.symm) (fun _ _ => UInt8.toNat_inj) s t
  rwa [List.map_id, List.map_id] at h

/-! ### Numbers -/

namespace Double

theorem lt_irrefl (a : Double) : lt a a = false := by
  cases a <;> simp [lt]

theorem lt_trans {a b c : Double} (hab : lt a b = true) (hbc : lt b c = true) :
    lt a c = true := by
  cases a <;> cases b <;> cases c <;> simp_all [lt]
  omega

theorem lt_asymm {a b : Double} (h : lt a b = true) : lt b a = false := by
  cases hba : lt b a with
  | false => rfl
  | true => exact absurd (lt_trans h hba) (by simp [lt_irrefl])

/-- Of two numbers neither of which is less than the other there is only one. -/
theorem eq_of_not_lt {a b : Double} (hab : lt a b = false) (hba : lt b a = false) : a = b := by
  cases a <;> cases b <;> simp_all [lt]
  · omega
  · next p q => cases p <;> cases q <;> simp_all

/-- Not less is transitive: numbers that never go down stay at or above where they were. -/
theorem not_lt_trans {a b c : Double} (hab : lt b a = false) (hbc : lt c b = false) :
    lt c a = false := by
  cases hac : lt c a with
  | false => rfl
  | true =>
    cases h : lt a b with
    | false =>
      rw [eq_of_not_lt h hab] at hac
      exact absurd hac (by simp [hbc])
    | true => exact absurd (lt_trans hac h) (by simp [hbc])

theorem order_eq_lt_iff {a b : Double} : order a b = .lt ↔ lt a b = true := by
  unfold order
  constructor
  · intro h
    split at h
    · next hab => exact hab
    · split at h <;> cases h
  · intro h
    rw [if_pos h]

theorem order_eq_eq_iff {a b : Double} : order a b = .eq ↔ a = b := by
  unfold order
  constructor
  · intro h
    split at h
    · cases h
    · split at h
      · cases h
      · next hab hba => exact eq_of_not_lt (by simpa using hab) (by simpa using hba)
  · rintro rfl
    simp [lt_irrefl]

theorem order_eq_gt_iff {a b : Double} : order a b = .gt ↔ lt b a = true := by
  unfold order
  constructor
  · intro h
    split at h
    · cases h
    · split at h
      · next hba => exact hba
      · cases h
  · intro h
    rw [lt_asymm h]
    simp [h]

instance : Std.TransCmp order where
  eq_swap := by
    intro a b
    cases h : order b a with
    | lt => exact order_eq_gt_iff.mpr (order_eq_lt_iff.mp h)
    | eq => exact order_eq_eq_iff.mpr (order_eq_eq_iff.mp h).symm
    | gt => exact order_eq_lt_iff.mpr (order_eq_gt_iff.mp h)
  isLE_trans := by
    intro a b c hab hbc
    have key : ∀ {x y : Double}, (order x y).isLE ↔ lt y x = false := by
      intro x y
      rw [← Bool.not_eq_true, ← order_eq_gt_iff]
      cases order x y <;> simp
    rw [key] at *
    exact not_lt_trans hab hbc

end Double

/-! ### Stored values -/

namespace Cell

/-- A stored value is strictly before another: numbers by value, texts by the octets of their
encoding, numbers before texts. -/
def Precedes : Cell → Cell → Prop
  | number a, number b => Double.lt a b = true
  | number _, text _ => True
  | text _, number _ => False
  | text s, text t => Utf8.encode s < Utf8.encode t

theorem order_eq_lt_iff {a b : Cell} : order a b = .lt ↔ a.Precedes b := by
  cases a <;> cases b
  · exact Double.order_eq_lt_iff
  · simp [order, Precedes]
  · simp [order, Precedes]
  · exact (Text.compareCodes_octets_iff _ _).1

theorem order_eq_eq_iff {a b : Cell} : order a b = .eq ↔ a = b := by
  cases a <;> cases b
  · simp only [order, Double.order_eq_eq_iff, number.injEq]
  · simp [order]
  · simp [order]
  · rw [order, Utf8.order, (Text.compareCodes_octets_iff _ _).2, text.injEq]
    exact ⟨Utf8.encode_injective, fun h => h ▸ rfl⟩

instance : Std.TransCmp order where
  eq_swap := by
    intro a b
    cases a <;> cases b
    · exact @Std.OrientedCmp.eq_swap _ Double.order _ _ _
    · rfl
    · rfl
    · exact @Std.OrientedCmp.eq_swap _ (Text.compareCodes UInt8.toNat) _ _ _
  isLE_trans := by
    intro a b c hab hbc
    cases a <;> cases b <;> cases c <;> first | rfl | (simp [order] at hab hbc; done) | skip
    · exact @Std.TransCmp.isLE_trans _ Double.order _ _ _ _ hab hbc
    · exact @Std.TransCmp.isLE_trans _ (Text.compareCodes UInt8.toNat) _ _ _ _ hab hbc

end Cell

/-! ### Documents -/

namespace SortKey

/-- A document is strictly before another by keys in turn: the first field on which they differ
decides, in its own direction. -/
def Precedes : List SortKey → Document → Document → Prop
  | [], _, _ => False
  | k :: ks, a, b =>
    (if k.descending then (b.get k.field).Precedes (a.get k.field)
      else (a.get k.field).Precedes (b.get k.field)) ∨
    (a.get k.field = b.get k.field ∧ Precedes ks a b)

/-- Two documents are alike in the fields of all keys. -/
def Agree (ks : List SortKey) (a b : Document) : Prop :=
  ∀ k ∈ ks, a.get k.field = b.get k.field

/-- What one key makes of two documents. -/
def compareOne (k : SortKey) (a b : Document) : Ordering :=
  let o := Cell.order (a.get k.field) (b.get k.field)
  if k.descending then o.swap else o

theorem compare_cons (k : SortKey) (ks : List SortKey) :
    compare (k :: ks) = compareLex (compareOne k) (compare ks) := rfl

instance (k : SortKey) : Std.TransCmp (compareOne k) := by
  have hup : Std.TransCmp fun a b : Document => Cell.order (a.get k.field) (b.get k.field) :=
    { eq_swap := by intros; exact @Std.OrientedCmp.eq_swap _ Cell.order _ _ _
      isLE_trans := by intros; exact @Std.TransCmp.isLE_trans _ Cell.order _ _ _ _ ‹_› ‹_› }
  cases h : k.descending with
  | false =>
    have : compareOne k = fun a b : Document => Cell.order (a.get k.field) (b.get k.field) := by
      funext a b
      simp [compareOne, h]
    rwa [this]
  | true =>
    have : compareOne k = fun a b : Document => Cell.order (b.get k.field) (a.get k.field) := by
      funext a b
      simp [compareOne, h, @Std.OrientedCmp.eq_swap _ Cell.order _ (b.get k.field)]
    rw [this]
    exact Std.TransCmp.opposite

instance : ∀ ks : List SortKey, Std.TransCmp (compare ks)
  | [] => { eq_swap := rfl, isLE_trans := fun _ _ => rfl }
  | k :: ks => by
    have := instTransCmpDocumentCompare ks
    rw [compare_cons]
    infer_instance

theorem compareOne_eq_lt_iff {k : SortKey} {a b : Document} : compareOne k a b = .lt ↔
    if k.descending then (b.get k.field).Precedes (a.get k.field)
      else (a.get k.field).Precedes (b.get k.field) := by
  unfold compareOne
  split
  · rw [← Cell.order_eq_lt_iff, ← @Std.OrientedCmp.eq_swap _ Cell.order]
  · exact Cell.order_eq_lt_iff

theorem compareOne_eq_eq_iff {k : SortKey} {a b : Document} :
    compareOne k a b = .eq ↔ a.get k.field = b.get k.field := by
  rw [← Cell.order_eq_eq_iff]
  unfold compareOne
  split
  · simp
  · rfl

/-- A comparison says that two documents are equal when no key tells them apart. -/
theorem compare_eq_eq_iff : ∀ {ks : List SortKey} {a b : Document},
    compare ks a b = .eq ↔ Agree ks a b := by
  intro ks
  induction ks with
  | nil => intro a b; simp [compare, Agree]
  | cons k ks ih =>
    intro a b
    rw [compare_cons, compareLex_eq_eq, ih, compareOne_eq_eq_iff]
    simp [Agree]

/-- A comparison says that a document is less when it is strictly before the other. -/
theorem compare_eq_lt_iff : ∀ {ks : List SortKey} {a b : Document},
    compare ks a b = .lt ↔ Precedes ks a b := by
  intro ks
  induction ks with
  | nil => intro a b; simp [compare, Precedes]
  | cons k ks ih =>
    intro a b
    rw [compare_cons, compareLex, Ordering.then_eq_lt, ih, compareOne_eq_lt_iff,
      compareOne_eq_eq_iff, Precedes]

end SortKey

end PackageCatalog
