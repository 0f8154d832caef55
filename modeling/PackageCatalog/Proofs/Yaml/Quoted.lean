import PackageCatalog.Proofs.Yaml.Cursor
import PackageCatalog.Yaml.Scalar
import PackageCatalog.Yaml.Style
import Mathlib.Algebra.Group.Nat.Defs

/-!
# Texts in quotes are read back

What stands between quotes is read part by part.  Between double quotes every text comes back.
Between single quotes all line breaks are counted: the next line comes back as a line feed, and the
first break of a run comes back as nothing, or as a space when it is the only one.

## Main definitions

* `Yaml.Reads` — a cursor from which the rest of a quoted text is read.
* `Yaml.refold` — what comes back of a text between single quotes.
* `Yaml.IsReadBack`, `Yaml.IsReadBackDouble` — a text whose written form is read so, from every
  column.

## Main results

* `Yaml.Reads.char`, `Yaml.Reads.blank`, `Yaml.Reads.breaks`, ... — single parts.
* `Yaml.reads_writeSingle` — **what comes back between single quotes.**
* `Yaml.reads_writeDouble` — **between double quotes a text is read back.**
-/

namespace PackageCatalog.Yaml

/-- A space or a tab. -/
def isBlank (c : Char) : Bool := c == ' ' || c == '\t'

/-- From a cursor the rest `n` of a quoted text is read, and `more` follows. -/
def Reads (double : Bool) (c : Cursor) (n : NativeName) (more : Text) : Prop :=
  ∃ k, (c.forward k).rest = more ∧ ∀ done fuel, c.rest.length ≤ fuel →
    scanQuotedOnto double fuel c done = .ok (done.reverse ++ n, c.forward k)

variable {double : Bool} {c : Cursor} {n : NativeName} {t u more : Text} {a : Char}

theorem ofText_append (s t : Text) :
    NativeName.ofText (s ++ t) = NativeName.ofText s ++ NativeName.ofText t :=
  List.map_append

theorem toText?_ofText (t : Text) : NativeName.toText? (NativeName.ofText t) = some t := by
  induction t with
  | nil => rfl
  | cons c t ih => exact congrArg (Option.map (c :: ·)) ih

theorem isGap_eq (a : Char) : isGap a = (isBlank a || isBreak a) := rfl

/-! ### Parts -/

attribute [local simp] scanQuotedOnto

/-- What is read behind `k` characters is read behind what they stand for, when one step of the
reader takes them. -/
theorem Reads.of_step {k : Nat} (front : NativeName) (h : Reads double (c.forward k) n more)
    (hk : 0 < k) (hrest : k ≤ c.rest.length)
    (hstep : ∀ done fuel, scanQuotedOnto double (fuel + 1) c done =
      scanQuotedOnto double fuel (c.forward k) (front.reverse ++ done)) :
    Reads double c (front ++ n) more := by
  obtain ⟨m, hmore, hreads⟩ := h
  refine ⟨k + m, by rw [Cursor.forward_add]; exact hmore, fun done fuel hfuel => ?_⟩
  obtain ⟨fuel, rfl⟩ : ∃ f, fuel = f + 1 := ⟨fuel - 1, by omega⟩
  have hlength : (c.forward k).rest.length ≤ fuel := by
    rw [Cursor.rest_forward, List.length_drop]
    omega
  rw [hstep, hreads _ _ hlength, Cursor.forward_add]
  simp

/-- A character that stands for itself. -/
theorem Reads.char (h : Reads double c.step n more) (hc : c.rest = a :: t) (ha : isGap a = false)
    (hdouble : double = true → a ≠ '"' ∧ a ≠ '\\') (hsingle : double = false → a ≠ '\'') :
    Reads double c (.char a :: n) more := by
  refine h.of_step (k := 1) [.char a] Nat.one_pos (by simp [hc]) (fun done fuel => ?_)
  rw [scanQuotedOnto, hc]
  cases double with
  | true =>
    obtain ⟨hquote, hslash⟩ := hdouble rfl
    simp [ha, hquote, hslash]
  | false => simp [ha, hsingle rfl]

/-- The quote at the end. -/
theorem reads_closing (hc : c.rest = '"' :: more) : Reads true c [] more := by
  refine ⟨1, by simp [hc], fun done fuel hfuel => ?_⟩
  obtain ⟨fuel, rfl⟩ : ∃ f, fuel = f + 1 := ⟨fuel - 1, by rw [hc] at hfuel; simp at hfuel; omega⟩
  simp [hc, isGap, isBreak]

/-- The single quote at the end, behind which no other follows. -/
theorem reads_closing_single (hc : c.rest = '\'' :: more) (hmore : StartsOff (· == '\'') more) :
    Reads false c [] more := by
  have hnext : atChar '\'' more = false := by
    cases more with
    | nil => rfl
    | cons d more =>
      have hd := startsOff_cons.mp hmore
      simpa [atChar] using hd
  refine ⟨1, by simp [hc], fun done fuel hfuel => ?_⟩
  obtain ⟨fuel, rfl⟩ : ∃ f, fuel = f + 1 := ⟨fuel - 1, by rw [hc] at hfuel; simp at hfuel; omega⟩
  simp [hc, isGap, isBreak, hnext]

/-- A single quote is written twice. -/
theorem Reads.quote (h : Reads false (c.forward 2) n more) (hc : c.rest = '\'' :: '\'' :: t) :
    Reads false c (.char '\'' :: n) more := by
  refine h.of_step [.char '\''] Nat.two_pos (by simp [hc]) (fun done fuel => ?_)
  simp [hc, isGap, isBreak, atChar, Cursor.forward]

/-- Blanks before which no line ends are taken at once. -/
theorem scanQuotedOnto_blanks {b : Char} {done : NativeName} {fuel : Nat} (hc : c.rest = b :: t)
    (hb : isBlank b = true) (hnext : t.dropWhile isBlank ≠ [])
    (hbreak : StartsOff isBreak (t.dropWhile isBlank)) :
    scanQuotedOnto double (fuel + 1) c done =
      scanQuotedOnto double fuel (c.forward ((t.takeWhile isBlank).length + 1))
        (NativeName.ofText (t.takeWhile isBlank).reverse ++ .char b :: done) := by
  have hgap : isGap b = true := by rw [isGap_eq, hb]; rfl
  have htaken : c.taken (fun a => a == ' ' || a == '\t') = b :: t.takeWhile isBlank := by
    rw [Cursor.taken, hc]
    exact List.takeWhile_cons_of_pos hb
  have hrest : (c.forward ((t.takeWhile isBlank).length + 1)).rest = t.dropWhile isBlank := by
    rw [Cursor.rest_forward, hc, List.drop_succ_cons]
    conv => lhs; rw [← List.takeWhile_append_dropWhile (p := isBlank) (l := t)]
    exact List.drop_left' (by simp)
  have hline : (c.forward ((t.takeWhile isBlank).length + 1)).lineBreak? = none :=
    Cursor.lineBreak?_of_startsOff (by rw [hrest]; exact hbreak)
  have hsome : (c.forward ((t.takeWhile isBlank).length + 1)).rest.isEmpty = false := by
    rw [hrest]
    simpa using hnext
  rw [scanQuotedOnto, hc]
  simp only [hgap, if_true, htaken, List.length_cons, hline, hsome]
  simp [NativeName.ofText]

/-- A blank before which no line ends. -/
theorem Reads.blank (h : Reads double c.step n more) (hc : c.rest = a :: t)
    (ha : isBlank a = true) (hnext : t.dropWhile isBlank ≠ [])
    (hbreak : StartsOff isBreak (t.dropWhile isBlank)) : Reads double c (.char a :: n) more := by
  obtain ⟨m, hmore, hreads⟩ := h
  refine ⟨1 + m, by rw [Cursor.forward_add]; exact hmore, fun done fuel hfuel => ?_⟩
  obtain ⟨fuel, rfl⟩ : ∃ f, fuel = f + 1 := ⟨fuel - 1, by rw [hc] at hfuel; simp at hfuel; omega⟩
  have hlength : c.step.rest.length ≤ fuel := by
    rw [Cursor.rest_step, List.length_tail]
    omega
  rw [scanQuotedOnto_blanks hc ha hnext hbreak]
  -- the blanks that follow are taken with it, and so they are when it has been taken
  cases hspaces : t.takeWhile isBlank with
  | nil =>
    have hfirst := hreads (.char a :: done) fuel hlength
    simpa [NativeName.ofText, Cursor.forward_add] using hfirst
  | cons b spaces =>
    obtain ⟨u, rfl⟩ : ∃ u, t = b :: u := by
      cases t with
      | nil => cases hspaces
      | cons d u =>
        rw [List.takeWhile_cons] at hspaces
        split at hspaces
        · cases hspaces
          exact ⟨u, rfl⟩
        · cases hspaces
    have hb : isBlank b = true := List.mem_takeWhile_imp (hspaces ▸ List.mem_cons_self)
    rw [List.dropWhile_cons_of_pos hb] at hnext hbreak
    have hfirst := hreads (.char a :: done) (fuel + 1) (by omega)
    have hrest : c.step.rest = b :: u := by rw [Cursor.rest_step, hc]; rfl
    rw [scanQuotedOnto_blanks hrest hb hnext hbreak] at hfirst
    rw [List.takeWhile_cons_of_pos hb] at hspaces
    cases hspaces
    simpa [NativeName.ofText, Cursor.forward_add, Cursor.forward_succ] using hfirst

/-! ### Escapes -/

/-- A character behind a backslash that stands for another one. -/
theorem Reads.letter {e d : Char} (h : Reads true (c.forward 2) n more)
    (hc : c.rest = '\\' :: e :: t) (he : escapedChar? e = some d) :
    Reads true c (.char d :: n) more := by
  refine h.of_step [.char d] Nat.two_pos (by simp [hc]) (fun done fuel => ?_)
  simp [hc, isGap, isBreak, he, Cursor.forward]

/-- A number in hexadecimal digits that stands for a character. -/
theorem Reads.code {e d : Char} {length : Nat} {digits : Text}
    (h : Reads true (c.forward (length + 2)) n more) (hc : c.rest = '\\' :: e :: (digits ++ t))
    (he : escapedChar? e = none) (hlength : escapeLength? e = some length)
    (hdigits : digits.length = length) (hnumber : hexOnto 0 digits = some d.toNat) :
    Reads true c (.char d :: n) more := by
  have hcode : scanCode length c.step.step = .ok (.char d) := by
    have hlt : d.toNat < 0x110000 := by
      rcases d.valid with hd | ⟨-, hd⟩
      · exact Nat.lt_trans hd (by decide)
      · exact hd
    have hvalid : d.toNat.isValidChar := d.valid
    have htake : (digits ++ t).take length = digits := by rw [← hdigits, List.take_left]
    have hrest : c.step.step.rest = digits ++ t := by simp [hc]
    rw [scanCode, scanHex, hrest, htake, hnumber]
    simp [hdigits, hvalid, Nat.not_le.mpr hlt, show ¬0x80000000 ≤ d.toNat by omega]
  refine h.of_step [.char d] (by omega) (by simp [hc]; omega) (fun done fuel => ?_)
  simp [hc, isGap, isBreak, he, hlength, hcode]

/-! ### Line breaks -/

/-- Line breaks after the first one, up to the indentation of the next line. -/
theorem scanBreaks_eq {k : Nat} (hk : 0 < k) (ht : StartsOff isGap t) :
    ∀ {bs : Text} {c : Cursor} {fuel : Nat} (done : Text),
      c.rest = bs ++ (List.replicate k ' ' ++ t) → (∀ b ∈ bs, isBreak b = true) →
      bs.length < fuel → scanBreaks (fun a => a == ' ' || a == '\t') true fuel c done =
        .ok ((bs.map counted).reverse ++ done, c.forward (bs.length + k)) := by
  obtain ⟨k, rfl⟩ : ∃ m, k = m + 1 := ⟨k - 1, by omega⟩
  have hoff : StartsOff isBlank t ∧ StartsOff isBreak t := by
    refine ⟨fun a ha => ?_, fun a ha => ?_⟩
    all_goals
      have hgap := ht a ha
      rw [isGap_eq, Bool.or_eq_false_iff] at hgap
    · exact hgap.1
    · exact hgap.2
  intro bs
  induction bs with
  | nil =>
    intro c fuel done hc _ hfuel
    obtain ⟨fuel, rfl⟩ : ∃ f, fuel = f + 1 := ⟨fuel - 1, by simp at hfuel; omega⟩
    have hmark : c.atAnyMark = false := Cursor.atAnyMark_eq_false hc (by decide) (by decide)
    have hpass : c.pass (fun a => a == ' ' || a == '\t') = c.forward (k + 1) :=
      Cursor.pass_replicate hc rfl hoff.1
    have hline : (c.forward (k + 1)).lineBreak? = none := by
      refine Cursor.lineBreak?_of_startsOff ?_
      rw [Cursor.rest_forward, hc, List.nil_append, List.drop_left' List.length_replicate]
      exact hoff.2
    rw [scanBreaks, hmark]
    simp [hpass, hline]
  | cons b bs ih =>
    intro c fuel done hc hbs hfuel
    obtain ⟨hb, hbs⟩ := List.forall_mem_cons.mp hbs
    obtain ⟨fuel, rfl⟩ : ∃ f, fuel = f + 1 := ⟨fuel - 1, by simp at hfuel; omega⟩
    have hne : b ≠ '-' ∧ b ≠ '.' ∧ (b == ' ' || b == '\t') = false := by
      rcases isBreak_iff.mp hb with rfl | rfl | rfl | rfl <;> decide
    have hmark : c.atAnyMark = false := Cursor.atAnyMark_eq_false hc hne.1 hne.2.1
    have hpass : c.pass (fun a => a == ' ' || a == '\t') = c := by
      refine Cursor.pass_eq (u := []) hc nofun ?_
      exact startsOff_cons.mpr hne.2.2
    have hline := Cursor.lineBreak?_of_isBreak hc hb
    have hrest : c.step.rest = bs ++ (List.replicate (k + 1) ' ' ++ t) := by
      rw [Cursor.rest_step, hc]
      rfl
    have hread := ih (counted b :: done) hrest hbs (Nat.lt_of_succ_lt_succ hfuel)
    rw [scanBreaks, hmark]
    simp only [hpass, hline, hread]
    rw [List.length_cons, show bs.length + 1 + (k + 1) = bs.length + (k + 1) + 1 by omega,
      Cursor.forward_succ c (bs.length + (k + 1))]
    simp

/-- A run of line breaks between single quotes. -/
theorem Reads.breaks {b : Char} (bs : Text) {k : Nat}
    (h : Reads double (c.forward (bs.length + 1 + k)) n more)
    (hc : c.rest = b :: (bs ++ (List.replicate k ' ' ++ t))) (hb : isBreak b = true)
    (hbs : ∀ b ∈ bs, isBreak b = true) (hk : 0 < k) (ht : StartsOff isGap t) :
    Reads double c
      (NativeName.ofText (foldBreaks (counted b) (bs.map counted).reverse).reverse ++ n) more := by
  have hrest : c.step.rest = bs ++ (List.replicate k ' ' ++ t) := by
    rw [Cursor.rest_step, hc]
    rfl
  have hread := scanBreaks_eq hk ht [] hrest hbs
    (show bs.length < c.step.rest.length by rw [hrest]; simp; omega)
  have hgap : isGap b = true := by rw [isGap_eq, hb, Bool.or_true]
  have htaken : c.taken (fun a => a == ' ' || a == '\t') = [] := by
    rw [Cursor.taken, hc, List.takeWhile_cons_of_neg]
    rcases isBreak_iff.mp hb with rfl | rfl | rfl | rfl <;> decide
  have hline := Cursor.lineBreak?_of_isBreak hc hb
  refine h.of_step _ (by omega) (by rw [hc]; simp; omega) (fun done fuel => ?_)
  rw [scanQuotedOnto, hc]
  simp only [hgap, if_true, htaken, List.length_nil, Cursor.forward_zero, hline, hread]
  simp [NativeName.ofText, Cursor.forward_succ, Nat.add_right_comm]

/-- A line break behind a backslash stands for nothing. -/
theorem Reads.continued {k : Nat} (h : Reads true (c.forward (k + 2)) n more)
    (hc : c.rest = '\\' :: '\n' :: (List.replicate k ' ' ++ t)) (hk : 0 < k)
    (ht : StartsOff isGap t) : Reads true c n more := by
  have hline := Cursor.lineBreak?_of_isBreak (c := c.step) (a := '\n')
    (t := List.replicate k ' ' ++ t) (by rw [Cursor.rest_step, hc]; rfl) rfl
  have hrest : c.step.step.rest = [] ++ (List.replicate k ' ' ++ t) := by simp [hc]
  have hread := scanBreaks_eq hk ht [] hrest nofun
    (show List.length [] < c.step.step.rest.length by rw [hrest]; simp; omega)
  refine h.of_step [] (by omega) (by rw [hc]; simp) (fun done fuel => ?_)
  rw [scanQuotedOnto, hc]
  simp only [hread, hline, escapedChar?, escapeLength?]
  simp [isGap, isBreak, NativeName.ofText, Cursor.forward_succ]

/-! ### Between single quotes -/

/-- What comes back of a text between single quotes, where `after` says that a line break stands
before it. -/
def refold : Bool → Text → Text
  | _, [] => []
  | after, c :: t =>
    if isBreak c then
      if !after && c == '\u0085' then (if t.head?.any isBreak then [] else [' ']) ++ refold true t
      else counted c :: refold true t
    else c :: refold false t

theorem refold_of_line {after : Bool} (ha : isBreak a = false) :
    refold after (a :: t) = a :: refold false t := by
  rw [refold, ha, if_neg Bool.false_ne_true]

/-- A text that may stand between single quotes. -/
structure Quotable (t : Text) : Prop where
  plain : ∀ c ∈ t, isPlainChar c = true
  spaceBreak : hasPair isSpace isBreak t = false
  breakSpace : hasPair isBreak isSpace t = false

/-- There are no tabs, so that white space is spaces and line breaks. -/
theorem isGap_of_isPlainChar (ha : isPlainChar a = true) (hspace : isSpace a = false)
    (hbreak : isBreak a = false) : isGap a = false := by
  have htab : a ≠ '\t' := by
    rintro rfl
    exact absurd ha (by decide)
  rw [isSpace] at hspace
  rw [isGap, hspace, hbreak]
  simpa using htab

theorem hasPair_tail {p q : Char → Bool} (h : hasPair p q (a :: t) = false) :
    hasPair p q t = false := by
  cases t with
  | nil => rfl
  | cons d t =>
    rw [hasPair, Bool.or_eq_false_iff] at h
    exact h.2

/-- No character that satisfies `q` stands behind one that satisfies `p`. -/
theorem startsOff_of_hasPair {p q : Char → Bool} (h : hasPair p q (a :: t) = false)
    (ha : p a = true) : StartsOff q t := by
  cases t with
  | nil => exact nofun
  | cons d t =>
    rw [hasPair, Bool.or_eq_false_iff, ha, Bool.true_and] at h
    exact startsOff_cons.mpr h.1

namespace Quotable

theorem tail (h : Quotable (a :: t)) : Quotable t :=
  ⟨fun c hc => h.plain c (List.mem_cons_of_mem a hc), hasPair_tail h.spaceBreak,
    hasPair_tail h.breakSpace⟩

theorem of_append : ∀ {u : Text}, Quotable (u ++ t) → Quotable t := by
  intro u
  induction u with
  | nil => exact id
  | cons a u ih => exact fun h => ih h.tail

theorem startsOff_isSpace : ∀ {bs : Text} {a : Char}, Quotable (a :: (bs ++ t)) →
    isBreak a = true → (∀ b ∈ bs, isBreak b = true) → StartsOff isSpace t := by
  intro bs
  induction bs with
  | nil => exact fun h ha _ => startsOff_of_hasPair h.breakSpace ha
  | cons b bs ih =>
    intro a h _ hbs
    obtain ⟨hb, hbs⟩ := List.forall_mem_cons.mp hbs
    exact ih h.tail hb hbs

theorem isGap_eq_false (h : Quotable (a :: t)) (hspace : isSpace a = false)
    (hbreak : isBreak a = false) : isGap a = false :=
  isGap_of_isPlainChar (h.plain a List.mem_cons_self) hspace hbreak

theorem startsOff_isGap (h : Quotable t) (hspace : StartsOff isSpace t)
    (hbreak : StartsOff isBreak t) : StartsOff isGap t := by
  cases t with
  | nil => exact nofun
  | cons a t =>
    exact startsOff_cons.mpr
      (h.isGap_eq_false (startsOff_cons.mp hspace) (startsOff_cons.mp hbreak))

end Quotable

variable {indent column : Nat} {before : Option Char}

/-- A character that is no white space stands first when it is written. -/
theorem exists_writeSingle_cons (indent column : Nat) (before : Option Char) (t : Text)
    (ha : isGap a = false) :
    ∃ u, writeSingle indent column before (a :: t) = a :: u := by
  rw [isGap_eq, Bool.or_eq_false_iff, isBlank, Bool.or_eq_false_iff] at ha
  have hspace : isSpace a = false := ha.1.1
  rw [writeSingle, hspace, ha.2]
  by_cases hquote : a = '\''
  · exact ⟨'\'' :: writeSingle indent (column + 2) (some a) t, by simp [hquote]⟩
  · exact ⟨writeSingle indent (column + 1) (some a) t, by simp [hquote]⟩

theorem startsOff_writeSingle (indent column : Nat) (before : Option Char) (more : Text)
    (ht : StartsOff isGap t) :
    StartsOff isGap (writeSingle indent column before t ++ '\'' :: more) := by
  cases t with
  | nil => exact startsOff_cons.mpr (by decide)
  | cons a t =>
    have ha := startsOff_cons.mp ht
    obtain ⟨u, hu⟩ := exists_writeSingle_cons indent column before t ha
    rw [hu]
    exact startsOff_cons.mpr ha

/-- No line ends behind spaces that are written as they are. -/
theorem startsOff_writeSingle_space (indent : Nat) (more : Text) :
    ∀ {t : Text} (column : Nat), Quotable (' ' :: t) →
    let u := (writeSingle indent column (some ' ') t ++ '\'' :: more).dropWhile isBlank
    u ≠ [] ∧ StartsOff isBreak u := by
  intro t
  induction t with
  | nil =>
    intro column _
    refine ⟨?_, startsOff_cons.mpr (by decide)⟩
    simp [writeSingle, isBlank]
  | cons a t ih =>
    intro column h
    by_cases hspace : isSpace a = true
    · -- a space behind a space is never the place where a line is folded
      have ha : a = ' ' := by simpa [isSpace] using hspace
      subst ha
      have hwritten : writeSingle indent column (some ' ') (' ' :: t) =
          ' ' :: writeSingle indent (column + 1) (some ' ') t := by
        rw [writeSingle]
        simp [isSpace]
      rw [hwritten]
      exact ih _ h.tail
    · have hspace : isSpace a = false := by simpa using hspace
      -- no break follows a space, or the text would not be quotable
      have hbreak : isBreak a = false :=
        startsOff_cons.mp (startsOff_of_hasPair h.spaceBreak rfl)
      have hgap := h.tail.isGap_eq_false hspace hbreak
      obtain ⟨u, hu⟩ := exists_writeSingle_cons indent column (some ' ') t hgap
      have hblank : isBlank a = false := by
        rw [isGap_eq, Bool.or_eq_false_iff] at hgap
        exact hgap.1
      rw [hu, List.cons_append, List.dropWhile_cons_of_neg (by simp [hblank])]
      exact ⟨List.cons_ne_nil _ _, startsOff_cons.mpr hbreak⟩

/-- Line breaks behind a line break are written as they are, and the next line is indented. -/
theorem writeSingle_breaks (indent : Nat) (ht : StartsOff isBreak t) : ∀ {bs : Text} {b : Char},
    isBreak b = true → (∀ b ∈ bs, isBreak b = true) → ∃ b', isBreak b' = true ∧
      (if (bs ++ t).head?.any isBreak then writeSingle indent indent (some b) (bs ++ t)
        else List.replicate indent ' ' ++ writeSingle indent indent (some b) (bs ++ t)) =
      bs ++ (List.replicate indent ' ' ++ writeSingle indent indent (some b') t) := by
  intro bs
  induction bs with
  | nil =>
    intro b hb _
    have hhead : t.head?.any isBreak = false := by
      cases t with
      | nil => rfl
      | cons a t => exact startsOff_cons.mp ht
    exact ⟨b, hb, by simp [hhead]⟩
  | cons d bs ih =>
    intro b hb hbs
    obtain ⟨hd, hbs⟩ := List.forall_mem_cons.mp hbs
    obtain ⟨b', hb', h⟩ := ih hd hbs
    have hspace : isSpace d = false := by
      rcases isBreak_iff.mp hd with rfl | rfl | rfl | rfl <;> rfl
    refine ⟨b', hb', ?_⟩
    rw [List.cons_append, List.head?_cons, Option.any_some, if_pos hd, writeSingle]
    simp only [hspace, hd, hb, Option.any_some, Bool.not_true, Bool.and_false, Bool.false_eq_true,
      if_false, if_true, List.nil_append]
    rw [h]
    rfl

/-- A run of line breaks is written as it is, with one line feed more if it starts with one. -/
theorem writeSingle_run (indent column : Nat) {b : Char} {bs : Text} (hb : isBreak b = true)
    (hbs : ∀ b ∈ bs, isBreak b = true) (ht : StartsOff isBreak t)
    (hbefore : before.any isBreak = false) : ∃ b', isBreak b' = true ∧
      writeSingle indent column before (b :: (bs ++ t)) = (if b = '\n' then ['\n'] else []) ++
        b :: (bs ++ (List.replicate indent ' ' ++ writeSingle indent indent (some b') t)) := by
  obtain ⟨b', hb', hwritten⟩ := writeSingle_breaks indent ht hb hbs
  have hspace : isSpace b = false := by
    rcases isBreak_iff.mp hb with rfl | rfl | rfl | rfl <;> rfl
  refine ⟨b', hb', ?_⟩
  rw [writeSingle, hspace, hb]
  simp only [Bool.false_eq_true, if_false, if_true]
  rw [hwritten, hbefore]
  simp

/-- What comes back of the line breaks behind a first one. -/
theorem refold_breaks (ht : StartsOff isBreak t) : ∀ {bs : Text}, (∀ b ∈ bs, isBreak b = true) →
    refold true (bs ++ t) = bs.map counted ++ refold false t := by
  intro bs
  induction bs with
  | nil =>
    intro _
    cases t with
    | nil => rfl
    | cons a t => simp [refold, startsOff_cons.mp ht]
  | cons b bs ih =>
    intro hbs
    obtain ⟨hb, hbs⟩ := List.forall_mem_cons.mp hbs
    rw [List.cons_append, refold, if_pos hb]
    simp [ih hbs]

/-- What comes back of a run of line breaks, the first of which is written twice if it is a line
feed. -/
theorem refold_run {b : Char} {bs : Text} (hb : isBreak b = true)
    (hbs : ∀ b ∈ bs, isBreak b = true) (ht : StartsOff isBreak t) :
    refold false (b :: (bs ++ t)) =
      (if b = '\n' then (foldBreaks (counted b) ((b :: bs).map counted).reverse).reverse
        else (foldBreaks (counted b) (bs.map counted).reverse).reverse) ++ refold false t := by
  have hrest := refold_breaks ht hbs
  rw [refold, if_pos hb]
  rcases isBreak_iff.mp hb with rfl | rfl | rfl | rfl
  · simp [hrest, foldBreaks, counted]
  · -- the next line is taken for a line feed, and dropped or turned into a space
    cases bs with
    | nil =>
      have hhead : t.head?.any isBreak = false := by
        cases t with
        | nil => rfl
        | cons a t => exact startsOff_cons.mp ht
      rw [List.nil_append] at hrest ⊢
      simp [hrest, hhead, foldBreaks, counted]
    | cons d bs =>
      rw [List.cons_append] at hrest ⊢
      simp [hrest, foldBreaks, counted, hbs d List.mem_cons_self]
  · simp [hrest, foldBreaks, counted]
  · simp [hrest, foldBreaks, counted]

/-- What is written of a text between single quotes comes back with its line breaks counted, from
whatever column it is written, and with `more` behind the quote at its end. -/
def IsReadBack (indent : Nat) (more t : Text) : Prop :=
  ∀ (column : Nat) (before : Option Char) (c : Cursor),
    (∀ b, before = some b → isBreak b = true → StartsOff isBreak t) →
    c.rest = writeSingle indent column before t ++ '\'' :: more →
    Reads false c (NativeName.ofText (refold false t)) more

namespace IsReadBack

theorem nil (hmore : StartsOff (· == '\'') more) : IsReadBack indent more [] :=
  fun _ _ _ _ hc => reads_closing_single hc hmore

/-- What stands behind a character that is no line break may start with one. -/
theorem startsOff_of_line (ha : isBreak a = false) :
    ∀ b, some a = some b → isBreak b = true → StartsOff isBreak t := by
  rintro b ⟨⟩ hb
  rw [ha] at hb
  cases hb

/-- A space, as it is or in the form of a line break. -/
theorem space (h : IsReadBack indent more t) (hindent : 0 < indent) (ht : Quotable (' ' :: t)) :
    IsReadBack indent more (' ' :: t) := by
  intro column before c _ hc
  have hnext := startsOff_of_hasPair ht.spaceBreak rfl
  rw [refold_of_line (by decide)]
  rw [writeSingle, if_pos (by decide)] at hc
  dsimp only at hc
  split at hc
  · next hfold =>
    -- a line is folded only before something else than a space
    have hoff : StartsOff isSpace t := by
      cases t with
      | nil => exact nofun
      | cons d t =>
        simp only [List.head?_cons, Option.any_some, Bool.and_eq_true] at hfold
        exact startsOff_cons.mpr (by simpa using hfold.1.2)
    have hgap := startsOff_writeSingle indent indent (some ' ') more
      (ht.tail.startsOff_isGap hoff hnext)
    rw [newLine, List.append_assoc, List.cons_append] at hc
    have hrest : (c.forward (0 + 1 + indent)).rest =
        writeSingle indent indent (some ' ') t ++ '\'' :: more := by
      rw [Cursor.rest_forward, hc, Nat.zero_add, Nat.add_comm, List.drop_succ_cons,
        List.drop_left' List.length_replicate]
    exact (h _ _ _ (startsOff_of_line (by decide)) hrest).breaks [] hc rfl nofun hindent hgap
  · obtain ⟨hne, hoff⟩ := startsOff_writeSingle_space indent more (column + 1) ht
    have hrest : c.step.rest = writeSingle indent (column + 1) (some ' ') t ++
        '\'' :: more := by
      rw [Cursor.rest_step, hc]
      rfl
    exact (h _ _ _ (startsOff_of_line (by decide)) hrest).blank hc rfl hne hoff

/-- A run of line breaks, behind which the text goes on with something else. -/
theorem run {bs : Text} (h : IsReadBack indent more t) (hindent : 0 < indent)
    (hquotable : Quotable (a :: (bs ++ t))) (ha : isBreak a = true)
    (hbs : ∀ b ∈ bs, isBreak b = true) (ht : StartsOff isBreak t) :
    IsReadBack indent more (a :: (bs ++ t)) := by
  intro column before c hbefore hc
  have hfirst : before.any isBreak = false := by
    cases before with
    | none => rfl
    | some b =>
      by_contra hb
      have hoff := startsOff_cons.mp (hbefore b rfl (by simpa using hb))
      rw [hoff] at ha
      cases ha
  obtain ⟨b', -, hwritten⟩ := writeSingle_run indent column ha hbs ht hfirst
  have hgap := startsOff_writeSingle indent indent (some b') more
    (hquotable.tail.of_append.startsOff_isGap (hquotable.startsOff_isSpace ha hbs) ht)
  have hrun : c.rest = (if a = '\n' then ['\n'] else []) ++ a :: (bs ++
      (List.replicate indent ' ' ++ (writeSingle indent indent (some b') t ++
        '\'' :: more))) := by
    rw [hc, hwritten]
    simp
  have hnext : ∀ (k : Nat) (front : Text), c.rest = front ++ (List.replicate indent ' ' ++
      (writeSingle indent indent (some b') t ++ '\'' :: more)) → k = front.length + indent →
      Reads false (c.forward k) (NativeName.ofText (refold false t)) more := by
    rintro k front hfront rfl
    refine h indent (some b') _ (fun _ _ _ => ht) ?_
    rw [Cursor.rest_forward, hfront, ← List.drop_drop, List.drop_left,
      List.drop_left' List.length_replicate]
  rw [refold_run ha hbs ht, ofText_append]
  split at hrun
  · next hfeed =>
    subst hfeed
    rw [if_pos rfl]
    exact (hnext (('\n' :: bs).length + 1 + indent) ('\n' :: '\n' :: bs) hrun (by simp)).breaks
      ('\n' :: bs) hrun rfl (List.forall_mem_cons.mpr ⟨rfl, hbs⟩) hindent hgap
  · next hfeed =>
    rw [if_neg hfeed]
    exact (hnext (bs.length + 1 + indent) (a :: bs) hrun (by simp)).breaks
      bs hrun ha hbs hindent hgap

/-- A character that is no white space: a quote is written twice, and any other once. -/
theorem letter (h : IsReadBack indent more t) (ht : Quotable (a :: t)) (hspace : isSpace a = false)
    (hbreak : isBreak a = false) : IsReadBack indent more (a :: t) := by
  intro column before c _ hc
  rw [refold_of_line hbreak]
  rw [writeSingle, hspace, hbreak, if_neg Bool.false_ne_true, if_neg Bool.false_ne_true] at hc
  by_cases hquote : a = '\''
  · subst hquote
    rw [if_pos rfl] at hc
    have hrest : (c.forward 2).rest =
        writeSingle indent (column + 2) (some '\'') t ++ '\'' :: more := by
      rw [Cursor.rest_forward, hc]
      rfl
    exact (h _ _ _ (startsOff_of_line hbreak) hrest).quote hc
  · rw [if_neg hquote] at hc
    have hrest : c.step.rest = writeSingle indent (column + 1) (some a) t ++
        '\'' :: more := by
      rw [Cursor.rest_step, hc]
      rfl
    exact (h _ _ _ (startsOff_of_line hbreak) hrest).char hc (ht.isGap_eq_false hspace hbreak)
      nofun (fun _ => hquote)

end IsReadBack

/-- **What is written between single quotes is read back with its line breaks counted.** -/
theorem reads_writeSingle (hindent : 0 < indent) (hmore : StartsOff (· == '\'') more)
    (ht : Quotable t) : IsReadBack indent more t := by
  -- a run of line breaks is read at once, so that the induction is on the length
  induction hlength : t.length using Nat.strong_induction_on generalizing t with
  | _ length ih =>
    subst hlength
    cases t with
    | nil => exact .nil hmore
    | cons a t =>
      have hrest : IsReadBack indent more t := ih _ (Nat.lt_succ_self _) ht.tail rfl
      cases hspace : isSpace a with
      | true =>
        obtain rfl : a = ' ' := by simpa [isSpace] using hspace
        exact hrest.space hindent ht
      | false =>
        cases hbreak : isBreak a with
        | false => exact hrest.letter ht hspace hbreak
        | true =>
          obtain ⟨bs, u, rfl, hbs, hu⟩ : ∃ bs u, t = bs ++ u ∧ (∀ b ∈ bs, isBreak b = true) ∧
              StartsOff isBreak u :=
            ⟨t.takeWhile isBreak, t.dropWhile isBreak, List.takeWhile_append_dropWhile.symm,
              fun b hb => List.mem_takeWhile_imp hb, startsOff_dropWhile isBreak t⟩
          refine (ih u.length ?_ ht.tail.of_append rfl).run hindent ht hbreak hbs hu
          simp only [List.length_cons, List.length_append]
          omega

/-! ### Numbers in escapes -/

theorem hexOnto_append (u v : Text) (m : Nat) :
    hexOnto m (u ++ v) = (hexOnto m u).bind (hexOnto · v) := by
  induction u generalizing m with
  | nil => rfl
  | cons a u ih =>
    rw [List.cons_append, hexOnto, hexOnto]
    cases Text.hexDigit? a with
    | none => rfl
    | some d => exact ih (m * 16 + d)

theorem hexDigit?_digitChar : ∀ d < 16, Text.hexDigit? (Text.asciiUpper d.digitChar) = some d := by
  decide

/-- The hexadecimal digits of a number are read back. -/
theorem hexOnto_toDigits (m : Nat) :
    hexOnto 0 ((Nat.toDigits 16 m).map Text.asciiUpper) = some m := by
  induction m using Nat.strong_induction_on with
  | _ m ih =>
    rw [Nat.toDigits_eq_if (by decide)]
    split
    · next hlt =>
      rw [List.map_singleton, hexOnto, hexDigit?_digitChar m hlt]
      simp [hexOnto]
    · next hge =>
      have hdigit := hexDigit?_digitChar (m % 16) (Nat.mod_lt m (by decide))
      rw [List.map_append, hexOnto_append, ih (m / 16) (by omega), List.map_singleton]
      simp only [Option.bind_some, hexOnto, hdigit, Option.some.injEq]
      omega

theorem hexOnto_hex (width m : Nat) :
    hexOnto 0 ((Text.hex width m).map Text.asciiUpper) = some m := by
  have hzeros : ∀ k, hexOnto 0 (List.replicate k '0') = some 0 := by
    intro k
    induction k with
    | zero => rfl
    | succ k ih => exact ih
  have hzero : Text.asciiUpper '0' = '0' := by decide
  rw [Text.hex, List.map_append, List.map_replicate, hzero, hexOnto_append, hzeros]
  exact hexOnto_toDigits m

theorem length_hex {width m : Nat} (hwidth : 0 < width) (hm : m < 16 ^ width) :
    (Text.hex width m).length = width := by
  have hlength := (Nat.length_toDigits_le_iff (by decide) hwidth).mpr hm
  rw [Text.hex, List.length_append, List.length_replicate]
  omega

/-! ### Between double quotes -/

/-- **A character that cannot be printed is read back from its escape.** -/
theorem Reads.escape (h : Reads true (c.forward (escapeOf a).length) n more)
    (hc : c.rest = escapeOf a ++ t) : Reads true c (.char a :: n) more := by
  have hcode : ∀ (e : Char) (width : Nat), escapedChar? e = none → escapeLength? e = some width →
      0 < width → a.toNat < 16 ^ width →
      escapeOf a = '\\' :: e :: (Text.hex width a.toNat).map Text.asciiUpper →
      Reads true c (.char a :: n) more := by
    intro e width he hwidth hpos hlt hescape
    have hlength : ((Text.hex width a.toNat).map Text.asciiUpper).length = width := by
      rw [List.length_map, length_hex hpos hlt]
    rw [hescape] at h hc
    rw [List.length_cons, List.length_cons, hlength] at h
    exact h.code hc he hwidth hlength (hexOnto_hex width a.toNat)
  have hlt : a.toNat < 0x110000 := by
    rcases a.valid with ha | ⟨-, ha⟩
    · exact Nat.lt_trans ha (by decide)
    · exact ha
  -- a letter stands for the character, or its number in two, four or eight digits
  cases hletter : escapeLetter? a with
  | some letter =>
    have hescape : escapeOf a = ['\\', letter] := by rw [escapeOf, hletter]
    have hback : escapedChar? letter = some a := by
      unfold escapeLetter? at hletter
      split at hletter <;> cases hletter <;> rfl
    rw [hescape] at h hc
    exact h.letter hc hback
  | none =>
    by_cases h1 : a.toNat ≤ 0xFF
    · refine hcode 'x' 2 rfl rfl (by decide) (by omega) ?_
      rw [escapeOf, hletter]
      simp [h1]
    by_cases h2 : a.toNat ≤ 0xFFFF
    · refine hcode 'u' 4 rfl rfl (by decide) (by omega) ?_
      rw [escapeOf, hletter]
      simp [h1, h2]
    · refine hcode 'U' 8 rfl rfl (by decide) (by omega) ?_
      rw [escapeOf, hletter]
      simp [h1, h2]

/-- What an escape starts with. -/
theorem exists_escapeOf_cons (a : Char) : ∃ u, escapeOf a = '\\' :: u := by
  unfold escapeOf
  dsimp only
  split
  · exact ⟨_, rfl⟩
  · split
    · exact ⟨_, rfl⟩
    · split <;> exact ⟨_, rfl⟩

/-- A character that is printed is a space, or no white space. -/
theorem isGap_of_isPrinted (ha : isPrinted a = true) (hspace : isSpace a = false) :
    isGap a = false ∧ a ≠ '"' ∧ a ≠ '\\' := by
  have hspace : a ≠ ' ' := by simpa [isSpace] using hspace
  have htab : a ≠ '\t' := by
    rintro rfl
    exact absurd ha (by decide)
  simp only [isPrinted, Bool.and_eq_true, Bool.not_eq_true', Bool.or_eq_false_iff] at ha
  obtain ⟨-, ⟨⟨hquote, hslash⟩, hbreak⟩, -⟩ := ha
  refine ⟨?_, by simpa using hquote, by simpa using hslash⟩
  rw [isGap, hbreak]
  simp [hspace, htab]

variable {first fresh : Bool}

/-- A line that is folded starts with a backslash. -/
theorem exists_foldDouble_cons (indent : Nat) (next : Option Char) :
    ∃ u, (foldDouble indent next).1 = '\\' :: u := by
  unfold foldDouble
  split <;> exact ⟨_, rfl⟩

/-- Behind a fold the text goes on, where a space is escaped. -/
theorem Reads.folded {next : Option Char} (hindent : 0 < indent)
    (hc : c.rest = (foldDouble indent next).1 ++ t)
    (hspace : next = some ' ' → ∀ {c : Cursor}, c.rest = '\\' :: t → Reads true c n more)
    (hother : next ≠ some ' ' → StartsOff isGap t ∧
      ∀ {c : Cursor}, c.rest = t → Reads true c n more) : Reads true c n more := by
  have hrest : ∀ {u : Text}, c.rest = '\\' :: '\n' :: (List.replicate indent ' ' ++ u) →
      (c.forward (indent + 2)).rest = u := by
    intro u hu
    rw [Cursor.rest_forward, hu, List.drop_succ_cons, List.drop_succ_cons,
      List.drop_left' List.length_replicate]
  by_cases hnext : next = some ' '
  · have hc : c.rest = '\\' :: '\n' :: (List.replicate indent ' ' ++ '\\' :: t) := by
      simpa [foldDouble, hnext, newLine] using hc
    exact (hspace hnext (hrest hc)).continued hc hindent (startsOff_cons.mpr (by decide))
  · have hc : c.rest = '\\' :: '\n' :: (List.replicate indent ' ' ++ t) := by
      simpa [foldDouble, hnext, newLine] using hc
    obtain ⟨hgap, hreads⟩ := hother hnext
    exact (hreads (hrest hc)).continued hc hindent hgap

/-- A printed character as it is written. -/
theorem writeDouble_printed (indent column : Nat) (first fresh : Bool) (t : Text)
    (ha : isPrinted a = true) :
    writeDouble indent column first fresh (a :: t) =
      a :: writeDouble indent (column + 1) false false t ∨
    writeDouble indent column first fresh (a :: t) = (foldDouble indent (some a)).1 ++
      a :: writeDouble indent ((foldDouble indent (some a)).2 + 1) false false t := by
  rw [writeDouble, if_pos ha]
  split
  · exact Or.inr rfl
  · exact Or.inl rfl

/-- Any other character as it is written. -/
theorem writeDouble_escaped (indent column : Nat) (first fresh : Bool) (t : Text)
    (ha : isPrinted a = false) :
    (∃ column', writeDouble indent column first fresh (a :: t) =
      escapeOf a ++ writeDouble indent column' false true t) ∨
    t ≠ [] ∧ writeDouble indent column first fresh (a :: t) = escapeOf a ++
      ((foldDouble indent t.head?).1 ++
        writeDouble indent (foldDouble indent t.head?).2 false true t) := by
  rw [writeDouble, ha, if_neg Bool.false_ne_true]
  dsimp only
  split
  · next h =>
    refine Or.inr ⟨?_, by rw [List.append_assoc]⟩
    rintro rfl
    simp at h
  · exact Or.inl ⟨_, rfl⟩

/-- A text that does not start with a space is not written with white space first. -/
theorem startsOff_writeDouble (ht : StartsOff isSpace t) :
    StartsOff isGap (writeDouble indent column first fresh t ++ '"' :: more) := by
  cases t with
  | nil => exact startsOff_cons.mpr (by decide)
  | cons a t =>
    cases ha : isPrinted a with
    | true =>
      rcases writeDouble_printed indent column first fresh t ha with h | h
      · rw [h]
        exact startsOff_cons.mpr (isGap_of_isPrinted ha (startsOff_cons.mp ht)).1
      · obtain ⟨u, hu⟩ := exists_foldDouble_cons indent (some a)
        rw [h, hu]
        exact startsOff_cons.mpr (by decide)
    | false =>
      obtain ⟨u, hu⟩ := exists_escapeOf_cons a
      rcases writeDouble_escaped indent column first fresh t ha with ⟨_, h⟩ | ⟨-, h⟩
      · rw [h, hu]
        exact startsOff_cons.mpr (by decide)
      · rw [h, hu]
        exact startsOff_cons.mpr (by decide)

/-- No line ends behind spaces. -/
theorem startsOff_writeDouble_space (indent : Nat) (more : Text) :
    ∀ (t : Text) (column : Nat) (first fresh : Bool),
    let u := (writeDouble indent column first fresh t ++ '"' :: more).dropWhile isBlank
    u ≠ [] ∧ StartsOff isBreak u := by
  have hstop : ∀ {t : Text}, t ≠ [] → StartsOff isGap t →
      t.dropWhile isBlank ≠ [] ∧ StartsOff isBreak (t.dropWhile isBlank) := by
    intro t hne ht
    obtain ⟨a, t, rfl⟩ := List.exists_cons_of_ne_nil hne
    have ha := startsOff_cons.mp ht
    rw [isGap_eq, Bool.or_eq_false_iff] at ha
    rw [List.dropWhile_cons_of_neg (by simp [ha.1])]
    exact ⟨hne, startsOff_cons.mpr ha.2⟩
  intro t
  induction t with
  | nil => exact fun _ _ _ => hstop (List.cons_ne_nil _ _) (startsOff_cons.mpr (by decide))
  | cons a t ih =>
    intro column first fresh
    by_cases hspace : isSpace a = true
    · have ha : a = ' ' := by simpa [isSpace] using hspace
      subst ha
      rcases writeDouble_printed indent column first fresh t
        (show isPrinted ' ' = true by decide) with h | h
      · rw [h]
        exact ih _ _ _
      · obtain ⟨u, hu⟩ := exists_foldDouble_cons indent (some ' ')
        rw [h, hu]
        exact hstop (List.cons_ne_nil _ _) (startsOff_cons.mpr (by decide))
    · have hoff : StartsOff isSpace (a :: t) := startsOff_cons.mpr (by simpa using hspace)
      exact hstop (by simp) (startsOff_writeDouble hoff)

/-- What is written of a text between double quotes comes back, from whatever column it is written;
and so it does behind a backslash, where it starts with a space on a line that is not too wide. -/
structure IsReadBackDouble (indent : Nat) (more t : Text) : Prop where
  plain : ∀ {column : Nat} {first fresh : Bool} {c : Cursor},
    c.rest = writeDouble indent column first fresh t ++ '"' :: more →
      Reads true c (NativeName.ofText t) more
  slashed : t.head? = some ' ' → ∀ {column : Nat} {first fresh : Bool} {c : Cursor},
    column ≤ lineWidth → c.rest = '\\' :: (writeDouble indent column first fresh t ++ '"' :: more) →
      Reads true c (NativeName.ofText t) more

namespace IsReadBackDouble

theorem nil : IsReadBackDouble indent more [] where
  plain := reads_closing
  slashed := nofun

/-- A space is written as it is, or escaped behind a fold. -/
theorem space (h : IsReadBackDouble indent more t) (hindent : 0 < indent) :
    IsReadBackDouble indent more (' ' :: t) where
  plain {column first fresh c} hc := by
    rcases writeDouble_printed indent column first fresh t (a := ' ') (by decide) with hline | hfold
    · rw [hline] at hc
      obtain ⟨hne, hoff⟩ := startsOff_writeDouble_space indent more t (column + 1) false false
      have hrest : c.step.rest = writeDouble indent (column + 1) false false t ++ '"' :: more := by
        rw [Cursor.rest_step, hc]
        rfl
      exact (h.plain hrest).blank hc rfl hne hoff
    · rw [hfold, List.append_assoc] at hc
      refine Reads.folded hindent hc (fun _ c hc => ?_) (fun hne => absurd rfl hne)
      have hrest : (c.forward 2).rest = writeDouble indent
          ((foldDouble indent (some ' ')).2 + 1) false false t ++ '"' :: more := by
        rw [Cursor.rest_forward, hc]
        rfl
      exact (h.plain hrest).letter hc rfl
  slashed _ column first fresh c hcolumn hc := by
    -- the line is not too wide, so that the space is written as it is
    have hwritten : writeDouble indent column first fresh (' ' :: t) =
        ' ' :: writeDouble indent (column + 1) false false t := by
      rw [writeDouble, if_pos (by decide)]
      simp [Nat.not_lt.mpr hcolumn]
    rw [hwritten] at hc
    have hrest : (c.forward 2).rest = writeDouble indent (column + 1) false false t ++
        '"' :: more := by
      rw [Cursor.rest_forward, hc]
      rfl
    exact (h.plain hrest).letter hc rfl

/-- Any other character that is printed stands for itself, before or behind a fold. -/
theorem printed (h : IsReadBackDouble indent more t) (hindent : 0 < indent)
    (ha : isPrinted a = true) (hspace : isSpace a = false) :
    IsReadBackDouble indent more (a :: t) where
  plain {column first fresh c} hc := by
    obtain ⟨hgap, hquote, hslash⟩ := isGap_of_isPrinted ha hspace
    have hchar : ∀ {column : Nat} {c : Cursor}, c.rest =
        a :: (writeDouble indent column false false t ++ '"' :: more) →
          Reads true c (NativeName.ofText (a :: t)) more := by
      intro column c hc
      have hrest : c.step.rest = writeDouble indent column false false t ++ '"' :: more := by
        rw [Cursor.rest_step, hc]
        rfl
      exact (h.plain hrest).char hc hgap (fun _ => ⟨hquote, hslash⟩) nofun
    rcases writeDouble_printed indent column first fresh t ha with hline | hfold
    · rw [hline] at hc
      exact hchar hc
    · rw [hfold, List.append_assoc] at hc
      refine Reads.folded hindent hc (fun hnext => ?_) (fun _ => ⟨startsOff_cons.mpr hgap, hchar⟩)
      cases hnext
      cases hspace
  slashed hhead := by
    cases Option.some.inj hhead
    cases hspace

/-- A character that cannot be printed is escaped, and the line may be folded behind it. -/
theorem escaped (h : IsReadBackDouble indent more t) (hindent : 0 < indent)
    (hwidth : indent < lineWidth) (ha : isPrinted a = false) :
    IsReadBackDouble indent more (a :: t) where
  plain {column first fresh c} hc := by
    rcases writeDouble_escaped indent column first fresh t ha with ⟨column', hline⟩ | ⟨-, hfold⟩
    · rw [hline, List.append_assoc] at hc
      have hrest : (c.forward (escapeOf a).length).rest =
          writeDouble indent column' false true t ++ '"' :: more := by
        rw [Cursor.rest_forward, hc, List.drop_left]
      exact (h.plain hrest).escape hc
    · rw [hfold, List.append_assoc, List.append_assoc] at hc
      have hrest : (c.forward (escapeOf a).length).rest = (foldDouble indent t.head?).1 ++
          (writeDouble indent (foldDouble indent t.head?).2 false true t ++ '"' :: more) := by
        rw [Cursor.rest_forward, hc, List.drop_left]
      refine Reads.escape (Reads.folded hindent hrest (fun hnext c hc => ?_) fun hnext => ?_) hc
      · -- the new line is as wide as its indentation, and a space stands behind a backslash there
        refine h.slashed hnext ?_ hc
        simp only [foldDouble, hnext]
        exact hwidth
      · refine ⟨startsOff_writeDouble (fun d hd => ?_), fun hc => h.plain hc⟩
        have hd' : d ≠ ' ' := by
          rintro rfl
          exact hnext hd
        simpa [isSpace] using hd'
  slashed hhead := by
    cases Option.some.inj hhead
    cases ha

end IsReadBackDouble

/-- **What is written between double quotes is read back.** -/
theorem reads_writeDouble (hindent : 0 < indent) (hwidth : indent < lineWidth) (t : Text) :
    IsReadBackDouble indent more t := by
  induction t with
  | nil => exact .nil
  | cons a t ih =>
    cases ha : isPrinted a with
    | false => exact ih.escaped hindent hwidth ha
    | true =>
      cases hspace : isSpace a with
      | false => exact ih.printed hindent ha hspace
      | true =>
        obtain rfl : a = ' ' := by simpa [isSpace] using hspace
        exact ih.space hindent

end PackageCatalog.Yaml
