import PackageCatalog.Crawl.Wildcard
import Mathlib.Data.List.Basic
import Mathlib.Data.List.TakeWhile

/-!
# The sets of a pattern

The inside of a set is read by a search for hyphens.  It is cut at each hyphen that makes a range,
reversed ranges are taken out across the cuts, and what is left may start with an exclamation mark
that negates the set.  Here the inside is read character by character as a list of items, and the
two ways are shown to come to the same.

## Main definitions

* `Item`, `items` — what a set lists: characters, and ranges between two of them.
* `IsBody` — what may stand between the brackets of a set.
* `plainReading`, `reading` — the items of a set and whether they are negated, without and with
  regard to reversed ranges.
* `Lists` — a set lists a character of a name.
* `cut`, `itemsOf` — the parts of an inside, and the items that they stand for.

## Main results

* `setBody?_eq_some_iff` — where a set ends.
* `itemsOf_dropReversed` — what is left of the items when reversed ranges are taken out.
* `passes_testOfSet_iff` — **the test of a set passes what the set lists.**
-/

namespace PackageCatalog.Wildcard

variable {c : Char} {u : NameUnit} {k : Nat} {body rest t : Text} {part : Text} {parts : List Text}

/-! ### Items -/

/-- What a set lists: a character, or the characters from one to another. -/
inductive Item
  | single (c : Char)
  | range (a b : Char)
  deriving DecidableEq, Repr

namespace Item

/-- The codes that an item stands for. -/
def run : Item → Nat × Nat
  | single c => (c.toNat, c.toNat)
  | range a b => (a.toNat, b.toNat)

/-- A range whose end comes before its start; it has no characters. -/
def isReversed : Item → Bool
  | single _ => false
  | range a b => b < a

/-- A character of a name is one of an item. -/
def Holds (u : NameUnit) (i : Item) : Prop := i.run.1 ≤ u.code ∧ u.code ≤ i.run.2

instance (u : NameUnit) : DecidablePred (Holds u) :=
  fun i => inferInstanceAs (Decidable (i.run.1 ≤ u.code ∧ u.code ≤ i.run.2))

theorem not_holds_of_isReversed {i : Item} (h : i.isReversed = true) : ¬ Holds u i := by
  cases i with
  | single c => cases h
  | range a b =>
    have hlt : b.toNat < a.toNat := of_decide_eq_true h
    exact fun hholds => absurd (Nat.le_trans hholds.1 hholds.2) (Nat.not_le.mpr hlt)

end Item

/-- The items of a text: a hyphen between two characters makes a range of them. -/
def items : Text → List Item
  | a :: b :: c :: t => if b = '-' then .range a c :: items t else .single a :: items (b :: c :: t)
  | a :: t => .single a :: items t
  | [] => []

/-- The items of a text that have characters. -/
def kept (is : List Item) : List Item := is.filter (fun i => !i.isReversed)

/-- A set as it is written: an exclamation mark at its start negates the items behind it. -/
def plainReading : Text → Bool × List Item
  | '!' :: t => (true, items t)
  | t => (false, items t)

/-- Items with an exclamation mark at their start, which negates those behind it.  If it starts a
range, the hyphen and the end of the range stand for themselves. -/
def marked : List Item → Bool × List Item
  | .single '!' :: is => (true, is)
  | .range '!' b :: is => (true, .single '-' :: .single b :: is)
  | is => (false, is)

/-- A set as it is read: an exclamation mark that comes first when reversed ranges are taken out
negates what follows, as one at the start does. -/
def reading : Text → Bool × List Item
  | '!' :: t => (true, items t)
  | t => marked (kept (items t))

/-- A set lists a character of a name. -/
def Lists (u : NameUnit) : Bool × List Item → Prop
  | (false, is) => ∃ i ∈ is, i.Holds u
  | (true, is) => ∀ i ∈ is, ¬ i.Holds u

instance (u : NameUnit) : DecidablePred (Lists u)
  | (false, is) => inferInstanceAs (Decidable (∃ i ∈ is, i.Holds u))
  | (true, is) => inferInstanceAs (Decidable (∀ i ∈ is, ¬ i.Holds u))

theorem lists_kept_iff {negated : Bool} {is : List Item} :
    Lists u (negated, kept is) ↔ Lists u (negated, is) := by
  have hexists : (∃ i ∈ kept is, i.Holds u) ↔ ∃ i ∈ is, i.Holds u := by
    constructor
    · rintro ⟨i, hi, h⟩
      exact ⟨i, (List.mem_filter.mp hi).1, h⟩
    · rintro ⟨i, hi, h⟩
      refine ⟨i, List.mem_filter.mpr ⟨hi, ?_⟩, h⟩
      rw [Bool.not_eq_true', Bool.eq_false_iff]
      exact fun hreversed => Item.not_holds_of_isReversed hreversed h
  cases negated with
  | false => exact hexists
  | true => simpa [Lists] using not_congr hexists

/-! ### Insides -/

/-- What may stand between the brackets of a set: one character of any kind and others that are not
closing brackets, all behind an exclamation mark or not. -/
def IsBody (body : Text) : Prop :=
  ∃ c t, ']' ∉ t ∧ (c ≠ '!' ∧ body = c :: t ∨ body = '!' :: c :: t)

/-- The text up to the first closing bracket, behind what was read before, and the text after it. -/
def upToBracket (front t : Text) : Option (Text × Text) :=
  match t.dropWhile (· != ']') with
  | [] => none
  | _ :: after => some (front ++ t.takeWhile (· != ']'), after)

theorem upToBracket_eq_some_iff {f t : Text} :
    upToBracket f t = some (body, rest) ↔
      ∃ inner, ']' ∉ inner ∧ body = f ++ inner ∧ t = inner ++ ']' :: rest := by
  have happend := List.takeWhile_append_dropWhile (p := (· != ']')) (l := t)
  unfold upToBracket
  constructor
  · intro h
    split at h
    · cases h
    · next d after hdrop =>
      obtain ⟨rfl, rfl⟩ := Prod.mk.inj (Option.some.inj h)
      have hd : d = ']' := by
        have hfirst := List.head?_dropWhile_not (· != ']') t
        rw [hdrop] at hfirst
        simpa using hfirst
      refine ⟨_, fun hmem => ?_, rfl, ?_⟩
      · have hpass := List.mem_takeWhile_imp hmem
        simp at hpass
      · rw [hdrop, hd] at happend
        exact happend.symm
  · rintro ⟨inner, hinner, rfl, rfl⟩
    have hpass : ∀ c ∈ inner, (c != ']') = true := by
      intro c hc
      rw [bne_iff_ne]
      rintro rfl
      exact hinner hc
    rw [List.dropWhile_append_of_pos hpass, List.takeWhile_append_of_pos hpass]
    simp

theorem setBody?_negated (hc : c ≠ ']') :
    setBody? ('!' :: c :: t) = upToBracket ['!'] (c :: t) := by
  unfold setBody?
  split
  next front rest h =>
  split at h
  · next heq =>
    cases heq
    exact absurd rfl hc
  · next heq =>
    cases heq
    cases h
    rfl
  · next heq => cases heq
  · next hplain _ => exact absurd rfl (hplain _)

theorem setBody?_plain (hc : c ≠ ']') (hbang : c ≠ '!') :
    setBody? (c :: t) = upToBracket [] (c :: t) := by
  unfold setBody?
  split
  next front rest h =>
  split at h
  · next heq =>
    cases heq
    exact absurd rfl hbang
  · next heq =>
    cases heq
    exact absurd rfl hbang
  · next heq =>
    cases heq
    exact absurd rfl hc
  · cases h
    rfl

/-- A character that is no bracket belongs to the inside. -/
theorem upToBracket_cons_iff {front : Text} (hc : c ≠ ']') :
    upToBracket front (c :: t) = some (body, rest) ↔
      ∃ inner, ']' ∉ inner ∧ body = front ++ c :: inner ∧ t = inner ++ ']' :: rest := by
  rw [upToBracket_eq_some_iff]
  constructor
  · rintro ⟨inner, hinner, rfl, ht⟩
    cases inner with
    | nil => exact absurd (List.cons.inj ht).1 hc
    | cons d inner =>
      cases ht
      exact ⟨inner, fun hmem => hinner (List.mem_cons_of_mem _ hmem), rfl, rfl⟩
  · rintro ⟨inner, hinner, rfl, rfl⟩
    exact ⟨c :: inner, List.not_mem_cons_of_ne_of_not_mem (Ne.symm hc) hinner, rfl, rfl⟩

theorem setBody?_negated_iff : setBody? ('!' :: c :: t) = some (body, rest) ↔
    ∃ inner, ']' ∉ inner ∧ body = '!' :: c :: inner ∧ t = inner ++ ']' :: rest := by
  by_cases hc : c = ']'
  · subst hc
    exact upToBracket_eq_some_iff (f := ['!', ']'])
  · rw [setBody?_negated hc, upToBracket_cons_iff hc]
    rfl

theorem setBody?_plain_iff (hbang : c ≠ '!') : setBody? (c :: t) = some (body, rest) ↔
    ∃ inner, ']' ∉ inner ∧ body = c :: inner ∧ t = inner ++ ']' :: rest := by
  by_cases hc : c = ']'
  · subst hc
    exact upToBracket_eq_some_iff (f := [']'])
  · rw [setBody?_plain hc hbang, upToBracket_cons_iff hc]
    rfl

/-- **Where a set ends.** -/
theorem setBody?_eq_some_iff :
    setBody? t = some (body, rest) ↔ IsBody body ∧ t = body ++ ']' :: rest := by
  constructor
  · intro h
    cases t with
    | nil => cases h
    | cons c t =>
      by_cases hbang : c = '!'
      · subst hbang
        cases t with
        | nil => cases h
        | cons c t =>
          obtain ⟨inner, hinner, rfl, rfl⟩ := setBody?_negated_iff.mp h
          exact ⟨⟨c, inner, hinner, Or.inr rfl⟩, rfl⟩
      · obtain ⟨inner, hinner, rfl, rfl⟩ := (setBody?_plain_iff hbang).mp h
        exact ⟨⟨c, inner, hinner, Or.inl ⟨hbang, rfl⟩⟩, rfl⟩
  · rintro ⟨⟨c, inner, hinner, ⟨hbang, rfl⟩ | rfl⟩, rfl⟩
    · exact (setBody?_plain_iff hbang).mpr ⟨inner, hinner, rfl, rfl⟩
    · exact setBody?_negated_iff.mpr ⟨inner, hinner, rfl, rfl⟩

theorem setBody?_eq_none_iff :
    setBody? t = none ↔ ∀ body rest, IsBody body → t ≠ body ++ ']' :: rest := by
  rw [Option.eq_none_iff_forall_ne_some]
  constructor
  · intro h body rest hbody ht
    exact h _ (setBody?_eq_some_iff.mpr ⟨hbody, ht⟩)
  · rintro h ⟨body, rest⟩ hset
    obtain ⟨hbody, ht⟩ := setBody?_eq_some_iff.mp hset
    exact h body rest hbody ht

/-! ### Parts -/

/-- The parts of a text behind the part `part`, in which the search for a hyphen passes over `k`
characters.  A hyphen at the end of the text is a character like others. -/
def cut : Nat → Text → Text → List Text
  | _, part, [] => [part]
  | 0, part, c :: t => if c = '-' ∧ t ≠ [] then part :: cut 2 [] t else cut 0 (part ++ [c]) t
  | k + 1, part, c :: t => cut k (part ++ [c]) t

/-- The number of characters in parts and of the hyphens at which they are cut, and one more. -/
def extent (parts : List Text) : Nat := (parts.map List.length).foldr (· + ·) 0 + parts.length

theorem extent_cons (part : Text) (parts : List Text) :
    extent (part :: parts) = part.length + 1 + extent parts := by
  simp only [extent, List.map_cons, List.foldr_cons, List.length_cons]
  omega

theorem extent_append_hyphen (before : List Text) (last : Text) :
    extent (before ++ [last ++ ['-']]) = extent (before ++ [last]) + 1 := by
  induction before with
  | nil => simp [extent]
  | cons part before ih =>
    rw [List.cons_append, List.cons_append, extent_cons, extent_cons, ih]
    omega

/-- Nothing is lost by the cut. -/
theorem extent_cut : ∀ {t p : Text} {k : Nat},
    extent (cut k p t) = p.length + t.length + 1 := by
  intro t
  induction t with
  | nil => intro p k; simp [cut, extent]
  | cons c t ih =>
    intro p k
    have hmore : (p ++ [c]).length + t.length + 1 = p.length + (c :: t).length + 1 := by
      simp only [List.length_append, List.length_cons, List.length_nil]
      omega
    cases k with
    | succ k => rw [cut, ih, hmore]
    | zero =>
      rw [cut]
      split
      · rw [extent_cons, ih]
        simp only [List.length_cons, List.length_nil]
        omega
      · rw [ih, hmore]

/-- The parts that the search finds are those of the cut, unless a hyphen at the end is missing. -/
theorem rangeParts_cut : ∀ {t p : Text} {k : Nat}, (p ≠ [] ∨ 0 < k ∧ t ≠ []) →
    rangeParts k p.reverse t = cut k p t ∨
    ∃ before last, rangeParts k p.reverse t = before ++ [last] ∧
      cut k p t = before ++ [last ++ ['-']] := by
  intro t
  induction t with
  | nil =>
    intro p k h
    have hne : p ≠ [] := h.resolve_right (fun h => h.2 rfl)
    exact Or.inl (by simp [rangeParts, cut, hne])
  | cons c t ih =>
    intro p k h
    have hmore := ih (p := p ++ [c]) (k := k - 1) (Or.inl (by simp))
    have hreverse : (p ++ [c]).reverse = c :: p.reverse := by simp
    rw [hreverse] at hmore
    cases k with
    | succ k =>
      rw [rangeParts, cut]
      exact hmore
    | zero =>
      rw [rangeParts, cut]
      by_cases hc : c = '-'
      · rw [if_pos hc, List.reverse_reverse]
        by_cases ht : t = []
        · -- the hyphen that is missing
          subst hc ht
          exact Or.inr ⟨[], p, rfl, rfl⟩
        · rw [if_pos ⟨hc, ht⟩]
          have hrest := ih (p := []) (k := 2) (Or.inr ⟨Nat.two_pos, ht⟩)
          rcases hrest with h | ⟨before, last, h, hcut⟩
          · exact Or.inl (congrArg (p :: ·) h)
          · refine Or.inr ⟨p :: before, last, ?_, ?_⟩
            · exact congrArg (p :: ·) h
            · exact congrArg (p :: ·) hcut
      · rw [if_neg hc, if_neg (fun h => hc h.1)]
        exact hmore

/-- **The parts of an inside** are those of the cut. -/
theorem setParts_eq (hbody : body ≠ []) :
    setParts body = cut (if body.head? == some '!' then 2 else 1) [] body := by
  have hskip : 0 < if body.head? == some '!' then 2 else 1 := by split <;> decide
  unfold setParts
  dsimp only
  generalize (if body.head? == some '!' then 2 else 1) = k at hskip ⊢
  have hextent := extent_cut (t := body) (p := []) (k := k)
  rw [List.length_nil, Nat.zero_add] at hextent
  rcases rangeParts_cut (t := body) (p := []) (k := k) (Or.inr ⟨hskip, hbody⟩) with
    h | ⟨before, last, h, h'⟩
  · rw [List.reverse_nil] at h
    rw [h, if_neg]
    unfold extent at hextent
    omega
  · rw [List.reverse_nil] at h
    rw [h', extent_append_hyphen] at hextent
    have hlast : (before ++ [last]).length = before.length + 1 := by simp
    rw [h, if_pos, h']
    · simp
    · unfold extent at hextent
      omega

/-! ### The items of parts -/

/-- Characters as items. -/
def singleItems (t : Text) : List Item := t.map Item.single

/-- The items that parts stand for: a range across each cut, and every other character by itself.
The first `k` characters of the first part already belong to a range. -/
def itemsOf : Nat → List Text → List Item
  | _, [] => []
  | k, [part] => singleItems (part.drop k)
  | k, part :: next :: more =>
    match part.getLast?, next.head? with
    | some a, some b => singleItems (part.drop k).dropLast ++ .range a b :: itemsOf 1 (next :: more)
    | _, _ => singleItems (part.drop k) ++ itemsOf 0 (next :: more)

theorem map_run_singleItems (t : Text) : (singleItems t).map Item.run = singles t := by
  rw [singleItems, List.map_map]
  rfl

theorem runsOf_eq : ∀ {parts : List Text} {k : Nat},
    runsOf k parts = (itemsOf k parts).map Item.run := by
  intro parts
  induction parts with
  | nil => intro k; rfl
  | cons part parts ih =>
    intro k
    cases parts with
    | nil => exact (map_run_singleItems _).symm
    | cons next more =>
      rw [runsOf, itemsOf]
      cases part.getLast? with
      | none => rw [List.map_append, map_run_singleItems, ← ih]
      | some a =>
        cases next.head? with
        | none => rw [List.map_append, map_run_singleItems, ← ih]
        | some b =>
          rw [List.map_append, map_run_singleItems, List.map_cons, ← ih]
          rfl

/-- A range across a cut. -/
theorem itemsOf_cons {a b : Char} {p q : Text} {more : List Text} (hk : k ≤ p.length) :
    itemsOf k ((p ++ [a]) :: (b :: q) :: more) =
      singleItems (p.drop k) ++ .range a b :: itemsOf 1 ((b :: q) :: more) := by
  rw [itemsOf, List.getLast?_concat, List.head?_cons, List.drop_append_of_le_length hk]
  dsimp only
  rw [List.dropLast_concat]

/-- The first p starts with what stands before the cut. -/
theorem exists_cut_cons {e : Char} : ∀ {t p : Text} {k : Nat},
    ∃ q more, cut k (e :: p) t = (e :: q) :: more := by
  intro t
  induction t with
  | nil => intro p k; exact ⟨p, [], by rw [cut]⟩
  | cons c t ih =>
    intro p k
    cases k with
    | succ k => exact ih (p := p ++ [c])
    | zero =>
      rw [cut]
      split
      · exact ⟨p, _, rfl⟩
      · exact ih (p := p ++ [c])

theorem items_cons_range (a b : Char) (t : Text) :
    items (a :: '-' :: b :: t) = .range a b :: items t := if_pos rfl

theorem items_cons_of_ne {a b : Char} (hb : b ≠ '-') (t : Text) :
    items (a :: b :: t) = .single a :: items (b :: t) := by
  cases t with
  | nil => rfl
  | cons c t => exact if_neg hb

/-- **The items of a cut** are those of the text that is cut, when the search for a hyphen starts
behind the first character that belongs to no range yet. -/
theorem itemsOf_cut : ∀ {n : Nat} {t p : Text} {c : Char} {k : Nat}, t.length ≤ n →
    k ≤ p.length →
    itemsOf k (cut 0 (p ++ [c]) t) = singleItems (p.drop k) ++ items (c :: t) := by
  intro n
  induction n with
  | zero =>
    intro t p c k ht hk
    rw [List.length_eq_zero_iff.mp (Nat.le_zero.mp ht)]
    simp [cut, itemsOf, items, singleItems, List.drop_append_of_le_length hk]
  | succ n ih =>
    intro t p c k ht hk
    have hdrop : singleItems ((p ++ [c]).drop k) = singleItems (p.drop k) ++ [.single c] := by
      simp [singleItems, List.drop_append_of_le_length hk]
    cases t with
    | nil => simp [cut, itemsOf, items, hdrop]
    | cons d t =>
      rw [cut]
      by_cases hrange : d = '-' ∧ t ≠ []
      · -- the range takes the character, the hyphen and the character behind it
        obtain ⟨rfl, hne⟩ := hrange
        obtain ⟨e, t, rfl⟩ := List.exists_cons_of_ne_nil hne
        rw [if_pos ⟨rfl, hne⟩, items_cons_range]
        -- the character behind the hyphen opens the next part, and is already told
        have hrest : itemsOf 1 (cut 2 [] (e :: t)) = items t := by
          cases t with
          | nil => rfl
          | cons f t =>
            have hlength : t.length ≤ n := by
              simp only [List.length_cons] at ht
              omega
            exact ih (p := [e]) (k := 1) hlength (Nat.le_refl 1)
        obtain ⟨q, more, hcut⟩ := exists_cut_cons (e := e) (t := t) (p := []) (k := 1)
        rw [show cut 2 [] (e :: t) = cut 1 [e] t from rfl, hcut] at hrest ⊢
        rw [itemsOf_cons hk, hrest]
      · rw [if_neg hrange, ih (Nat.le_of_succ_le_succ ht) (by simp; omega), hdrop,
          List.append_assoc]
        by_cases hd : d = '-'
        · -- a hyphen at the end
          have ht : t = [] := not_not.mp (fun hne => hrange ⟨hd, hne⟩)
          rw [ht]
          rfl
        · rw [items_cons_of_ne hd]
          rfl

/-- Parts that have a character for each range that they belong to.  The first `k` characters of
the first part are taken already. -/
inductive Proper : Nat → List Text → Prop
  | last {k : Nat} {part : Text} : k ≤ part.length → Proper k [part]
  | cons {k : Nat} {p q : Text} {a b : Char} {more : List Text} : k ≤ p.length →
    Proper 1 ((b :: q) :: more) → Proper k ((p ++ [a]) :: (b :: q) :: more)

theorem proper_cut : ∀ {n : Nat} {t p : Text} {c : Char} {k : Nat}, t.length ≤ n →
    k ≤ p.length → Proper k (cut 0 (p ++ [c]) t) := by
  intro n
  induction n with
  | zero =>
    intro t p c k ht hk
    rw [List.length_eq_zero_iff.mp (Nat.le_zero.mp ht), cut]
    exact .last (by simp; omega)
  | succ n ih =>
    intro t p c k ht hk
    cases t with
    | nil =>
      rw [cut]
      exact .last (by simp; omega)
    | cons d t =>
      rw [cut]
      split
      · next hrange =>
        obtain ⟨e, t, rfl⟩ := List.exists_cons_of_ne_nil hrange.2
        have hrest : Proper 1 (cut 2 [] (e :: t)) := by
          cases t with
          -- the range ends with the text
          | nil => exact .last (Nat.le_refl 1)
          | cons f t =>
            have hlength : t.length ≤ n := by
              simp only [List.length_cons] at ht
              omega
            exact ih (p := [e]) hlength (Nat.le_refl 1)
        obtain ⟨q, more, hcut⟩ := exists_cut_cons (e := e) (t := t) (p := []) (k := 1)
        rw [show cut 2 [] (e :: t) = cut 1 [e] t from rfl, hcut] at hrest ⊢
        exact .cons hk hrest
      · exact ih (Nat.le_of_succ_le_succ ht) (by simp; omega)

/-! ### Reversed ranges -/

theorem kept_append (is js : List Item) : kept (is ++ js) = kept is ++ kept js :=
  List.filter_append _ _

theorem kept_singleItems (t : Text) : kept (singleItems t) = singleItems t := by
  refine List.filter_eq_self.mpr (fun i hi => ?_)
  obtain ⟨c, -, rfl⟩ := List.mem_map.mp hi
  rfl

theorem kept_range_cons (a b : Char) (is : List Item) :
    kept (.range a b :: is) = if b < a then kept is else .range a b :: kept is := by
  rw [kept, List.filter_cons]
  by_cases h : b < a
  · simp [Item.isReversed, h, kept]
  · simp [Item.isReversed, h, kept]

/-- A reversed range that is taken out between two parts. -/
theorem Proper.join {b : Char} {p q : Text} {more : List Text} (h : Proper 1 ((b :: q) :: more))
    (hk : k ≤ p.length) : Proper k ((p ++ q) :: more) ∧
      itemsOf k ((p ++ q) :: more) = singleItems (p.drop k) ++ itemsOf 1 ((b :: q) :: more) := by
  generalize hpart : b :: q = part at h
  cases h with
  | last _ =>
    refine ⟨.last (by simp; omega), ?_⟩
    rw [← hpart]
    simp [itemsOf, singleItems, List.drop_append_of_le_length hk]
  | @cons _ p' q' a' b' more hk' hrest =>
    obtain ⟨d, p', rfl⟩ := List.exists_cons_of_ne_nil (List.ne_nil_of_length_pos hk')
    obtain ⟨rfl, hq⟩ := List.cons.inj hpart
    have hjoined : k ≤ (p ++ p').length := by simp; omega
    rw [show p ++ q = (p ++ p') ++ [a'] by rw [hq]; simp]
    refine ⟨.cons hjoined hrest, ?_⟩
    rw [itemsOf_cons hjoined, itemsOf_cons hk', List.drop_append_of_le_length hk]
    simp [singleItems]

/-- **When reversed ranges are taken out**, the items that have characters are left, and a first
character that is taken already stays where it is. -/
theorem Proper.dropReversed (h : Proper k parts) :
    Proper k (dropReversed parts) ∧
      itemsOf k (dropReversed parts) = kept (itemsOf k parts) ∧
      (0 < k → ∀ {b q more}, parts = (b :: q) :: more →
        ∃ q' more', Wildcard.dropReversed parts = (b :: q') :: more') := by
  induction h with
  | @last k part hk =>
    refine ⟨.last hk, ?_, fun _ b q more hparts => ?_⟩
    · exact (kept_singleItems _).symm
    · cases hparts
      exact ⟨q, [], rfl⟩
  | @cons k p q a b more hk hrest ih =>
    obtain ⟨hproper, hitems, hfirst⟩ := ih
    obtain ⟨after, more', hdrop⟩ := hfirst Nat.one_pos rfl
    rw [hdrop] at hproper hitems
    have hstep : Wildcard.dropReversed ((p ++ [a]) :: (b :: q) :: more) =
        if b < a then (p ++ after) :: more' else (p ++ [a]) :: (b :: after) :: more' := by
      rw [Wildcard.dropReversed, hdrop]
      simp
    rw [hstep, itemsOf_cons hk, kept_append, kept_singleItems, kept_range_cons, ← hitems]
    -- a range with its bounds reversed holds nothing, and what is around it is joined
    by_cases hreversed : b < a
    · obtain ⟨hjoined, hjoinedItems⟩ := hproper.join hk
      rw [if_pos hreversed, if_pos hreversed]
      refine ⟨hjoined, hjoinedItems, fun hpos d _ _ hparts => ?_⟩
      obtain ⟨e, p, rfl⟩ := List.exists_cons_of_length_pos (Nat.lt_of_lt_of_le hpos hk)
      cases hparts
      exact ⟨_, _, rfl⟩
    · rw [if_neg hreversed, if_neg hreversed]
      refine ⟨.cons hk hproper, itemsOf_cons hk, fun hpos d _ _ hparts => ?_⟩
      obtain ⟨e, p, rfl⟩ := List.exists_cons_of_length_pos (Nat.lt_of_lt_of_le hpos hk)
      cases hparts
      exact ⟨_, _, rfl⟩

/-! ### Tests -/

theorem any_runsOf_iff :
    (runsOf k parts).any (fun run => run.1 ≤ u.code && u.code ≤ run.2) = true ↔
      ∃ i ∈ itemsOf k parts, i.Holds u := by
  rw [runsOf_eq, List.any_map, List.any_eq_true]
  refine exists_congr (fun i => and_congr_right (fun _ => ?_))
  simp [Item.Holds]

/-- The test of parts passes the characters of their items, or the others. -/
theorem passes_oneOf_iff {negated : Bool} :
    (Test.oneOf negated (runsOf k parts)).passes u = true ↔
      Lists u (negated, itemsOf k parts) := by
  rw [Test.passes]
  cases negated with
  | false => simpa [Lists] using any_runsOf_iff
  | true =>
    rw [Bool.bne_true, Bool.not_eq_true', Bool.eq_false_iff, Ne, any_runsOf_iff]
    simp [Lists]

theorem testOfParts_negated (hpart : part ≠ []) :
    testOfParts (('!' :: part) :: parts) = .oneOf true (runsOf 0 (part :: parts)) := by
  obtain ⟨c, part, rfl⟩ := List.exists_cons_of_ne_nil hpart
  rfl

theorem testOfParts_plain (hc : c ≠ '!') :
    testOfParts ((c :: part) :: parts) = .oneOf false (runsOf 0 ((c :: part) :: parts)) := by
  unfold testOfParts
  split <;> simp_all

theorem marked_single (hc : c ≠ '!') (is : List Item) :
    marked (.single c :: is) = (false, .single c :: is) := by
  unfold marked
  split <;> simp_all

theorem marked_range (hc : c ≠ '!') (b : Char) (is : List Item) :
    marked (.range c b :: is) = (false, .range c b :: is) := by
  unfold marked
  split <;> simp_all

/-- The test of parts, where an exclamation mark at the start may have come there when reversed
ranges were taken out. -/
theorem passes_testOfParts_iff (h : Proper 0 parts) :
    (testOfParts parts).passes u = true ↔ Lists u (marked (itemsOf 0 parts)) := by
  -- the mark of a negation may be alone, the start of a part, or the start of a range
  cases h with
  | @last _ part _ =>
    cases part with
    | nil => simp [testOfParts, Test.passes, itemsOf, singleItems, marked, Lists]
    | cons c part =>
      by_cases hc : c = '!'
      · subst hc
        cases part with
        | nil => simp [testOfParts, Test.passes, itemsOf, singleItems, marked, Lists]
        | cons d part =>
          rw [testOfParts_negated (List.cons_ne_nil d part), passes_oneOf_iff]
          rfl
      · rw [testOfParts_plain hc, passes_oneOf_iff]
        exact iff_of_eq (congrArg (Lists u) (marked_single hc _).symm)
  | @cons _ p q a b more _ hrest =>
    rw [itemsOf_cons (Nat.zero_le _), List.drop_zero]
    cases p with
    | nil =>
      by_cases ha : a = '!'
      · -- the hyphen behind the mark stands for itself
        subst ha
        obtain ⟨-, hjoin⟩ := hrest.join (p := ['-', b]) (k := 0) (Nat.zero_le _)
        show (Test.oneOf true (runsOf 0 ((['-', b] ++ q) :: more))).passes u = true ↔ _
        rw [passes_oneOf_iff, hjoin]
        rfl
      · rw [List.nil_append, testOfParts_plain ha, passes_oneOf_iff, ← List.nil_append [a],
          itemsOf_cons (Nat.zero_le _)]
        exact iff_of_eq (congrArg (Lists u) (marked_range ha b _).symm)
    | cons c p =>
      by_cases hc : c = '!'
      · subst hc
        rw [List.cons_append, testOfParts_negated (by simp), passes_oneOf_iff,
          itemsOf_cons (Nat.zero_le _)]
        rfl
      · rw [List.cons_append, testOfParts_plain hc, passes_oneOf_iff, ← List.cons_append,
          itemsOf_cons (Nat.zero_le _)]
        exact iff_of_eq (congrArg (Lists u) (marked_single hc _).symm)

/-- The test of parts with an exclamation mark that stood there from the start. -/
theorem passes_testOfParts_negated_iff {q : Text} (h : Proper 1 (('!' :: q) :: parts)) :
    (testOfParts (('!' :: q) :: parts)).passes u = true ↔
      Lists u (true, itemsOf 1 (('!' :: q) :: parts)) := by
  obtain ⟨-, hjoin⟩ := h.join (p := []) (k := 0) (Nat.le_refl 0)
  rw [List.nil_append] at hjoin
  by_cases hq : q = []
  · subst hq
    generalize hpart : ['!'] = part at h
    cases h with
    | last _ =>
      rw [← hpart]
      simp [testOfParts, Test.passes, itemsOf, singleItems, Lists]
    | cons hk _ =>
      have hlength := congrArg List.length hpart
      simp only [List.length_cons, List.length_append, List.length_nil] at hlength
      omega
  · rw [testOfParts_negated hq, passes_oneOf_iff, hjoin]
    rfl

/-- **The test of a set passes what the set lists.** -/
theorem passes_testOfSet_iff (hbody : IsBody body) :
    (testOfSet body).passes u = true ↔ Lists u (reading body) := by
  obtain ⟨c, t, -, ⟨hbang, rfl⟩ | rfl⟩ := hbody
  · have hcut : setParts (c :: t) = cut 0 ([] ++ [c]) t := by
      rw [setParts_eq (List.cons_ne_nil c t)]
      simp [hbang, cut]
    have hproper : Proper 0 (setParts (c :: t)) := by
      rw [hcut]
      exact proper_cut (Nat.le_refl _) (Nat.le_refl 0)
    have hitems : itemsOf 0 (setParts (c :: t)) = items (c :: t) := by
      rw [hcut, itemsOf_cut (Nat.le_refl _) (Nat.le_refl 0)]
      rfl
    obtain ⟨hdropped, hkept, -⟩ := hproper.dropReversed
    have hreading : reading (c :: t) = marked (kept (items (c :: t))) := by
      unfold reading
      split
      · next heq =>
        cases heq
        exact absurd rfl hbang
      · rfl
    rw [testOfSet, passes_testOfParts_iff hdropped, hkept, hitems, hreading]
  · have hcut : setParts ('!' :: c :: t) = cut 0 (['!'] ++ [c]) t :=
      setParts_eq (List.cons_ne_nil '!' (c :: t))
    have hproper : Proper 1 (setParts ('!' :: c :: t)) := by
      rw [hcut]
      exact proper_cut (Nat.le_refl _) (Nat.le_refl 1)
    have hitems : itemsOf 1 (setParts ('!' :: c :: t)) = items (c :: t) := by
      rw [hcut, itemsOf_cut (Nat.le_refl _) (Nat.le_refl 1)]
      rfl
    -- the mark stays at the start when reversed ranges are taken out
    obtain ⟨hdropped, hkept, hfirst⟩ := hproper.dropReversed
    obtain ⟨q, more, hparts⟩ := exists_cut_cons (e := '!') (t := t) (p := [c]) (k := 0)
    obtain ⟨q', more', hmark⟩ := hfirst Nat.one_pos (hcut.trans hparts)
    rw [hmark] at hdropped hkept
    rw [testOfSet, hmark, passes_testOfParts_negated_iff hdropped, hkept, hitems]
    exact lists_kept_iff

end PackageCatalog.Wildcard
