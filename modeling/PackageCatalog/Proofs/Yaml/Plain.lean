import PackageCatalog.Proofs.Yaml.Quoted

/-!
# Plain texts are read back

A plain text is read word by word.  A line is only folded at a single space, and what follows the
fold is indented deeper than the collection around, so that the text goes on there.  It ends where
the next line is not.

## Main definitions

* `Yaml.Wordy` — a text whose words are read as they stand.

## Main results

* `Yaml.scanPlainSpaces_of_spaces`, `Yaml.scanPlainSpaces_of_newLine` — the space after a word.
* `Yaml.scanPlain_writePlain` — **a plain text is read back.**
* `Yaml.scanPlain_name` — a single word before a colon.
-/

namespace PackageCatalog.Yaml

variable {c : Cursor} {a : Char} {t u v more : Text} {indent column m : Nat} {before : Option Char}

/-! ### Texts of words -/

/-- A text of one line that neither starts nor ends with a space, in which nothing would be taken
for an indicator behind a space. -/
structure Wordy (t : Text) : Prop where
  plain : ∀ c ∈ t, isPlainChar c = true
  line : ∀ c ∈ t, isBreak c = false
  inner : hasInnerIndicator (' ' :: t) = false
  front : StartsOff isSpace t
  back : t.getLast?.any isSpace = false
  ne_nil : t ≠ []

theorem hasInnerIndicator_of_append : ∀ {u : Text}, hasInnerIndicator (u ++ t) = false →
    hasInnerIndicator t = false := by
  intro u
  induction u with
  | nil => exact id
  | cons a u ih =>
    intro h
    refine ih ?_
    cases hrest : u ++ t with
    | nil => rfl
    | cons d s =>
      rw [List.cons_append, hrest, hasInnerIndicator, Bool.or_eq_false_iff] at h
      exact h.2

theorem ne_mark_of_isPlainChar (ha : isPlainChar a = true) : a ≠ '\uFEFF' := by
  rintro rfl
  exact absurd ha (by decide)

namespace Wordy

/-- The words behind spaces. -/
theorem of_spaces {w : Text} {n : Nat} (h : Wordy (w ++ (List.replicate (n + 1) ' ' ++ v)))
    (hv : StartsOff isSpace v) : Wordy v := by
  have hsplit : ' ' :: (w ++ (List.replicate (n + 1) ' ' ++ v)) =
      (' ' :: w ++ List.replicate n ' ') ++ ' ' :: v := by
    simp [List.replicate_succ']
  have hmem : ∀ d ∈ v, d ∈ w ++ (List.replicate (n + 1) ' ' ++ v) := by
    intro d hd
    exact List.mem_append_right _ (List.mem_append_right _ hd)
  have hne : v ≠ [] := by
    rintro rfl
    have hback := h.back
    rw [List.append_nil, List.replicate_succ', ← List.append_assoc, List.getLast?_concat] at hback
    cases hback
  have hlast : (w ++ (List.replicate (n + 1) ' ' ++ v)).getLast? = v.getLast? := by
    obtain ⟨d, hd⟩ := List.getLast?_isSome.mpr hne |> Option.isSome_iff_exists.mp
    rw [List.getLast?_append, List.getLast?_append, hd]
    rfl
  exact {
    plain := fun d hd => h.plain d (hmem d hd)
    line := fun d hd => h.line d (hmem d hd)
    inner := hasInnerIndicator_of_append (hsplit ▸ h.inner)
    front := hv
    back := hlast ▸ h.back
    ne_nil := hne }

/-- The first character of such a text. -/
theorem exists_cons (h : Wordy t) : ∃ a u, t = a :: u ∧ isGap a = false ∧ a ≠ '#' := by
  obtain ⟨a, u, rfl⟩ := List.exists_cons_of_ne_nil h.ne_nil
  have ha := isGap_of_isPlainChar (h.plain a List.mem_cons_self) (startsOff_cons.mp h.front)
    (h.line a List.mem_cons_self)
  refine ⟨a, u, rfl, ha, ?_⟩
  rintro rfl
  have hinner := h.inner
  rw [hasInnerIndicator] at hinner
  simp [isGap] at hinner

end Wordy

/-! ### Words -/

/-- What is written of a text goes on with white space where the text does. -/
theorem atGap_writePlain (column : Nat) (before : Option Char) :
    atGap (writePlain indent column before t ++ '\n' :: more) = atGap t := by
  cases t with
  | nil => rfl
  | cons a t =>
    rw [writePlain]
    split
    · next h =>
      have ha : a = ' ' := by simp [isSpace] at h; exact h.1.1
      subst ha
      rfl
    · rfl

theorem length_le_writePlain (indent : Nat) : ∀ (t : Text) (column : Nat) (before : Option Char),
    t.length ≤ (writePlain indent column before t).length := by
  intro t
  induction t with
  | nil => exact fun _ _ => Nat.le_refl _
  | cons a t ih =>
    intro column before
    rw [writePlain]
    split
    · have hnext := ih indent (some a)
      simp only [newLine, List.length_append, List.length_cons]
      omega
    · exact Nat.succ_le_succ (ih (column + 1) (some a))

/-- The first word of a text is read as it stands, up to a space or the end. -/
theorem exists_word (indent : Nat) (more : Text) :
    ∀ {t : Text} {a : Char}, (∀ c ∈ t, isPlainChar c = true) →
    (∀ c ∈ t, isBreak c = false) → hasInnerIndicator (a :: t) = false → ∃ w u, t = w ++ u ∧
      (u = [] ∨ u.head? = some ' ') ∧
      ∀ column before, ∃ column' before',
        writePlain indent column before t = w ++ writePlain indent column' before' u ∧
        plainWord false (writePlain indent column before t ++ '\n' :: more) = w := by
  intro t
  -- a word goes on until a space, since no colon in it has white space behind
  induction t with
  | nil =>
    intro a _ _ _
    exact ⟨[], [], rfl, Or.inl rfl, fun column before => ⟨column, before, rfl, rfl⟩⟩
  | cons d t ih =>
    intro a hplain hline hinner
    obtain ⟨hd, hplain⟩ := List.forall_mem_cons.mp hplain
    obtain ⟨hbreak, hline⟩ := List.forall_mem_cons.mp hline
    by_cases hspace : isSpace d = true
    · have hd : d = ' ' := by simpa [isSpace] using hspace
      subst hd
      refine ⟨[], ' ' :: t, rfl, Or.inr rfl, fun column before => ⟨column, before, rfl, ?_⟩⟩
      rw [writePlain]
      split <;> rfl
    · have hspace : isSpace d = false := by simpa using hspace
      have hgap := isGap_of_isPlainChar hd hspace hbreak
      rw [hasInnerIndicator, Bool.or_eq_false_iff, Bool.or_eq_false_iff] at hinner
      obtain ⟨⟨hcolon, -⟩, hinner⟩ := hinner
      obtain ⟨w, u, rfl, hu, hwritten⟩ := ih hplain hline hinner
      refine ⟨d :: w, u, rfl, hu, fun column before => ?_⟩
      obtain ⟨column', before', hfront, hword⟩ := hwritten (column + 1) (some d)
      have hout : writePlain indent column before (d :: (w ++ u)) =
          d :: writePlain indent (column + 1) (some d) (w ++ u) := by
        rw [writePlain, hspace]
        simp
      refine ⟨column', before', by rw [hout, hfront]; rfl, ?_⟩
      rw [hout, List.cons_append, plainWord, hgap, atGap_writePlain]
      simp [hcolon, hword]

/-- The first word of a text of words is not empty, and no comment. -/
theorem Wordy.exists_word (h : Wordy t) : ∃ w u, t = w ++ u ∧ w ≠ [] ∧ w.head? ≠ some '#' ∧
    (u = [] ∨ u.head? = some ' ') ∧ ∀ column before, ∃ column' before',
      writePlain indent column before t = w ++ writePlain indent column' before' u ∧
      plainWord false (writePlain indent column before t ++ '\n' :: more) = w := by
  obtain ⟨w, u, rfl, hu, hwritten⟩ :=
    Yaml.exists_word indent more h.plain h.line h.inner
  obtain ⟨a, s, hcons, -, hhash⟩ := h.exists_cons
  cases w with
  | nil =>
    rcases hu with rfl | hu
    · cases hcons
    · exact absurd (h.front ' ' hu) (by decide)
  | cons d w =>
    cases hcons
    exact ⟨_, u, rfl, List.cons_ne_nil _ _, by simpa using hhash, hu, hwritten⟩

/-- Nor is what is written of such a text. -/
theorem Wordy.atChar_writePlain (h : Wordy t) :
    atChar '#' (writePlain indent column before t ++ more) = false := by
  obtain ⟨a, s, rfl, hgap, hhash⟩ := h.exists_cons
  have hspace : isSpace a = false := by
    rw [isGap, Bool.or_eq_false_iff, Bool.or_eq_false_iff] at hgap
    exact hgap.1.1
  rw [writePlain, hspace, atChar]
  simpa using hhash

/-- Spaces behind a space are written as they are. -/
theorem writePlain_replicate (v : Text) : ∀ {n : Nat} (column : Nat),
    writePlain indent column (some ' ') (List.replicate n ' ' ++ v) =
      List.replicate n ' ' ++ writePlain indent (column + n) (some ' ') v := by
  intro n
  induction n with
  | zero =>
    intro column
    rfl
  | succ n ih =>
    intro column
    have hnext := ih (column + 1)
    rw [List.replicate_succ, List.cons_append, writePlain, hnext, Nat.add_assoc, Nat.add_comm 1]
    simp [isSpace]

/-- Spaces between words are written as they are, or a single one as a new line. -/
theorem exists_spaces (indent : Nat) (hu : u.head? = some ' ') :
    ∃ n v, u = List.replicate (n + 1) ' ' ++ v ∧
    StartsOff isSpace v ∧ ∀ column before, (∃ column', writePlain indent column before u =
        List.replicate (n + 1) ' ' ++ writePlain indent column' (some ' ') v) ∨
      n = 0 ∧ writePlain indent column before u =
        newLine indent ++ writePlain indent indent (some ' ') v := by
  obtain ⟨s, rfl⟩ : ∃ s, u = ' ' :: s := by
    cases u with
    | nil => cases hu
    | cons d s =>
      cases hu
      exact ⟨s, rfl⟩
  have hspaces : s.takeWhile isSpace = List.replicate (s.takeWhile isSpace).length ' ' := by
    refine List.eq_replicate_of_mem (fun d hd => ?_)
    have hd := List.mem_takeWhile_imp hd
    simpa [isSpace] using hd
  -- the spaces are counted, and what stands behind them starts with none
  generalize hn : (s.takeWhile isSpace).length = n at hspaces
  have hs : s = List.replicate n ' ' ++ s.dropWhile isSpace := by
    rw [← hspaces, List.takeWhile_append_dropWhile]
  generalize hv : s.dropWhile isSpace = v at hs
  have hoff : StartsOff isSpace v := hv ▸ startsOff_dropWhile isSpace s
  clear hn hspaces hv
  subst hs
  refine ⟨n, v, rfl, hoff, fun column before => ?_⟩
  rw [writePlain]
  split
  · -- only a space that stands alone may be written as the end of a line
    next halone =>
    refine Or.inr ⟨?_, ?_⟩
    all_goals
      cases n with
      | zero => rfl
      | succ n => simp [isSpace, List.replicate_succ] at halone
  · exact Or.inl ⟨column + 1 + n, by rw [writePlain_replicate]; rfl⟩

/-! ### Between words -/

/-- Spaces on a line. -/
theorem scanPlainSpaces_of_spaces {n : Nat} (hc : c.rest = List.replicate n ' ' ++ t)
    (ht : StartsOff isSpace t) (ht' : StartsOff isBreak t) :
    scanPlainSpaces c = (List.replicate n ' ', false, c.forward n) := by
  have htaken : c.taken (· == ' ') = List.replicate n ' ' := by
    rw [Cursor.taken, hc]
    refine takeWhile_append_of_startsOff (fun d hd => ?_) ht
    rw [List.eq_of_mem_replicate hd]
    rfl
  have hrest : (c.forward n).rest = t := by
    rw [Cursor.rest_forward, hc, List.drop_left' List.length_replicate]
  have hline : (c.forward n).lineBreak? = none :=
    Cursor.lineBreak?_of_startsOff (by rw [hrest]; exact ht')
  rw [scanPlainSpaces, htaken, List.length_replicate]
  simp only [hline]

/-- A line feed and the spaces behind it. -/
theorem scanPlainSpaces_of_newLine {n : Nat} (hc : c.rest = '\n' :: (List.replicate n ' ' ++ t))
    (ht : StartsOff isSpace t) (ht' : StartsOff isBreak t)
    (hmark : ∀ d : Cursor, d.rest = List.replicate n ' ' ++ t → d.atAnyMark = false) :
    scanPlainSpaces c = ([' '], true, c.forward (n + 1)) := by
  have htaken : c.taken (· == ' ') = [] := by rw [Cursor.taken, hc]; rfl
  have hrest : c.step.rest = List.replicate n ' ' ++ t := by
    rw [Cursor.rest_step, hc]
    rfl
  have hpass : c.step.passSpaces = c.step.forward n := Cursor.passSpaces_eq hrest ht
  have hend : (c.step.forward n).lineBreak? = none := by
    refine Cursor.lineBreak?_of_startsOff ?_
    rw [Cursor.rest_forward, hrest, List.drop_left' List.length_replicate]
    exact ht'
  have hbreaks : ∀ fuel, scanPlainBreaks fuel (c.step) [] = (some [], c.step.forward n) ∨
      fuel = 0 := by
    intro fuel
    cases fuel with
    | zero => exact Or.inr rfl
    | succ fuel =>
      left
      rw [scanPlainBreaks, hpass]
      simp only [hend]
  have hscan : scanPlainBreaks c.step.rest.length c.step [] = (some [], c.step.forward n) := by
    rcases hbreaks c.step.rest.length with h | h
    · exact h
    · -- nothing follows, so that there are no spaces to pass
      have hnil := List.append_eq_nil_iff.mp (hrest.symm.trans (List.length_eq_zero_iff.mp h))
      have hzero : n = 0 := by simpa using hnil.1
      rw [h, hzero]
      rfl
  rw [scanPlainSpaces, htaken]
  simp only [List.length_nil, Cursor.forward_zero, Cursor.lineBreak?_of_isBreak hc rfl,
    hmark _ hrest, Bool.false_eq_true, if_false, hscan]
  rfl

/-- The place behind spaces at the start of a line. -/
theorem forward_newLine {n : Nat} (hc : c.rest = '\n' :: (List.replicate n ' ' ++ t)) :
    (c.forward (n + 1)).rest = t ∧ (c.forward (n + 1)).column = n := by
  have hstep := Cursor.step_of_isBreak hc rfl
  have hspaces := Cursor.forward_of_line (c := c.step) (u := List.replicate n ' ') (t := t)
    (by rw [hstep]) (fun d hd => by
      rw [List.eq_of_mem_replicate hd]
      decide)
  rw [List.length_replicate, hstep] at hspaces
  rw [Cursor.forward_succ, hstep, hspaces]
  exact ⟨rfl, Nat.zero_add n⟩

/-! ### Whole texts -/

variable {outer : Int}

/-- The space between two words, in either form, is read back, and the next word is indented deeper
than the collection around. -/
theorem scanPlainSpaces_writePlain (hindent : outer + 1 ≤ indent) (hpos : 0 < indent)
    (hcolumn : outer + 1 ≤ c.column) (hu : u.head? = some ' ')
    (hv : ∀ {n : Nat} {v : Text}, u = List.replicate (n + 1) ' ' ++ v → StartsOff isSpace v →
      ∃ a s, v = a :: s ∧ isGap a = false)
    (hc : c.rest = writePlain indent column before u ++ more) :
    ∃ n v, u = List.replicate (n + 1) ' ' ++ v ∧ StartsOff isSpace v ∧
      ∃ k column' broken, scanPlainSpaces c = (List.replicate (n + 1) ' ', broken, c.forward k) ∧
        (c.forward k).rest = writePlain indent column' (some ' ') v ++ more ∧
        outer + 1 ≤ (c.forward k).column := by
  obtain ⟨n, v, rfl, hoff, hwritten⟩ := exists_spaces indent hu
  obtain ⟨a, s, rfl, hgap⟩ := hv rfl hoff
  rw [isGap, Bool.or_eq_false_iff, Bool.or_eq_false_iff] at hgap
  obtain ⟨⟨hspace, -⟩, hbreak⟩ := hgap
  have hout : ∀ column, ∃ s', writePlain indent column (some ' ') (a :: s) ++ more = a :: s' := by
    intro column
    rw [writePlain, isSpace, hspace]
    exact ⟨_, rfl⟩
  refine ⟨n, a :: s, rfl, hoff, ?_⟩
  -- the words behind stand on the same line, or on a new one that is indented
  rcases hwritten column before with ⟨column', hout'⟩ | ⟨rfl, hout'⟩
  · rw [hout', List.append_assoc] at hc
    obtain ⟨s', hs'⟩ := hout column'
    have hplace := Cursor.forward_of_line hc (fun d hd => by
      rw [List.eq_of_mem_replicate hd]
      decide)
    rw [List.length_replicate] at hplace
    refine ⟨n + 1, column', false, ?_, by rw [hplace], ?_⟩
    · rw [hs'] at hc
      exact scanPlainSpaces_of_spaces hc (startsOff_cons.mpr hspace) (startsOff_cons.mpr hbreak)
    · rw [hplace]
      dsimp only
      omega
  · rw [hout', newLine, List.append_assoc, List.cons_append] at hc
    obtain ⟨s', hs'⟩ := hout indent
    obtain ⟨hrest, hplace⟩ := forward_newLine hc
    refine ⟨indent + 1, indent, true, ?_, hrest, by rw [hplace]; exact hindent⟩
    rw [hs'] at hc
    refine scanPlainSpaces_of_newLine hc (startsOff_cons.mpr hspace) (startsOff_cons.mpr hbreak) ?_
    intro d hd
    obtain ⟨k, rfl⟩ := Nat.exists_eq_add_of_lt hpos
    rw [Nat.zero_add, List.replicate_succ, List.cons_append] at hd
    exact Cursor.atAnyMark_eq_false hd (by decide) (by decide)

/-- One word and the space behind it. -/
theorem scanPlainOnto_word {w spaces' done spaces : Text} {broken broken' : Bool} {fuel : Nat}
    {c' : Cursor} (hword : plainWord false c.rest = w) (hw : w ≠ []) (hhash : w.head? ≠ some '#')
    (hc : c.rest = w ++ t)
    (hspaces : scanPlainSpaces (c.forward w.length) = (spaces', broken', c')) :
    scanPlainOnto false outer (fuel + 1) c done spaces broken =
      if spaces'.isEmpty || atChar '#' c'.rest || decide (c'.column < outer) then
        (((spaces ++ done).reverse ++ w, broken'), c')
      else scanPlainOnto false outer fuel c' (w.reverse ++ (spaces ++ done)) spaces' broken' := by
  have hempty : w.isEmpty = false := by simpa using hw
  have hchar : atChar '#' c.rest = false := by
    obtain ⟨a, w, rfl⟩ := List.exists_cons_of_ne_nil hw
    rw [hc, atChar]
    simpa using hhash
  rw [scanPlainOnto, hword, hchar, hempty]
  simp only [Bool.or_false, Bool.false_eq_true, if_false, hspaces]
  simp

/-- **The words of a text are read back** up to the start of the next line that is not indented
deeper than the collection around. -/
theorem scanPlainOnto_writePlain (hindent : outer + 1 ≤ indent) (hpos : 0 < indent)
    (hm : (m : Int) < outer + 1) (hmore : StartsOff isSpace more) (hmore' : StartsOff isBreak more)
    (hmark : ∀ d : Cursor, d.rest = List.replicate m ' ' ++ more → d.atAnyMark = false) :
    ∀ {t : Text} {column : Nat} {before : Option Char} {c : Cursor} {done spaces : Text}
      {broken : Bool} {fuel : Nat}, Wordy t → outer + 1 ≤ c.column →
      c.rest = writePlain indent column before t ++ '\n' :: (List.replicate m ' ' ++ more) →
      t.length < fuel → ∃ k, (c.forward k).rest = more ∧ (c.forward k).column = m ∧
        scanPlainOnto false (outer + 1) fuel c done spaces broken =
          (((spaces ++ done).reverse ++ t, true), c.forward k) := by
  intro t
  -- a step takes a word and the spaces behind it, so that the induction is on the length
  induction hlength : t.length using Nat.strong_induction_on generalizing t with
  | _ length ih =>
    intro column before c done spaces broken fuel ht hcolumn hc hfuel
    obtain ⟨w, u, rfl, hne, hhash, hu, hwritten⟩ := ht.exists_word
    obtain ⟨column', before', hfront, hword⟩ := hwritten column before
    rw [← hc] at hword
    rw [hfront, List.append_assoc] at hc
    have hplace := Cursor.forward_of_line hc (fun d hd =>
      ⟨ht.line d (List.mem_append_left u hd),
        ne_mark_of_isPlainChar (ht.plain d (List.mem_append_left u hd))⟩)
    have hrest : (c.forward w.length).rest = writePlain indent column' before' u ++
        '\n' :: (List.replicate m ' ' ++ more) := by rw [hplace]
    have hwcolumn : outer + 1 ≤ (c.forward w.length).column := by
      rw [hplace]
      dsimp only
      omega
    obtain ⟨fuel, rfl⟩ : ∃ f, fuel = f + 1 := ⟨fuel - 1, by omega⟩
    rcases hu with rfl | hu
    · -- the last word, behind which the next line starts
      rw [writePlain, List.nil_append] at hrest
      obtain ⟨hnext, hnextcolumn⟩ := forward_newLine hrest
      have hspaces := scanPlainSpaces_of_newLine hrest hmore hmore' hmark
      rw [← Cursor.forward_add] at hnext hnextcolumn hspaces
      refine ⟨w.length + (m + 1), hnext, hnextcolumn, ?_⟩
      rw [scanPlainOnto_word hword hne hhash hc hspaces, hnextcolumn, if_pos (by simp [hm]),
        List.append_nil]
    · -- more words follow, on this line or on the next
      obtain ⟨n, v, rfl, hv, k, column'', broken', hspaces, hnext, hnextcolumn⟩ :=
        scanPlainSpaces_writePlain hindent hpos hwcolumn hu (fun {n v} hsplit hv => by
          obtain ⟨a, s, hcons, hgap, -⟩ := (hsplit ▸ ht).of_spaces hv |>.exists_cons
          exact ⟨a, s, hcons, hgap⟩) hrest
      have hvwordy : Wordy v := ht.of_spaces hv
      have hshort : v.length < length := by
        rw [← hlength]
        simp only [List.length_append, List.length_replicate]
        omega
      rw [← Cursor.forward_add] at hspaces hnext hnextcolumn
      obtain ⟨k', hend, hendcolumn, hread⟩ := ih _ hshort rfl
        hvwordy hnextcolumn hnext (show v.length < fuel by omega)
      have hnothash : atChar '#' (c.forward (w.length + k)).rest = false := by
        rw [hnext]
        exact hvwordy.atChar_writePlain
      rw [← Cursor.forward_add] at hend hendcolumn hread
      refine ⟨w.length + k + k', hend, hendcolumn, ?_⟩
      have hjoin : (List.replicate (n + 1) ' ' ++ (w.reverse ++ (spaces ++ done))).reverse ++ v =
          (spaces ++ done).reverse ++ (w ++ (List.replicate (n + 1) ' ' ++ v)) := by
        rw [List.reverse_append, List.reverse_replicate, List.reverse_append, List.reverse_reverse]
        simp only [List.append_assoc]
      rw [scanPlainOnto_word hword hne hhash hc hspaces, hnothash, if_neg, hread, hjoin]
      simpa [List.replicate_succ] using hnextcolumn

/-- **A plain text is read back.** -/
theorem scanPlain_writePlain (hindent : outer + 1 ≤ indent) (hpos : 0 < indent)
    (hm : (m : Int) < outer + 1) (hmore : StartsOff isSpace more) (hmore' : StartsOff isBreak more)
    (hmark : ∀ d : Cursor, d.rest = List.replicate m ' ' ++ more → d.atAnyMark = false)
    (ht : Wordy t) (hcolumn : outer + 1 ≤ c.column)
    (hc : c.rest = writePlain indent column before t ++ '\n' :: (List.replicate m ' ' ++ more)) :
    ∃ k, (c.forward k).rest = more ∧ (c.forward k).column = m ∧
      scanPlain false outer c = ((t, true), c.forward k) := by
  have hlength : t.length < c.rest.length + 1 := by
    rw [hc, List.length_append, List.length_cons]
    have hle := length_le_writePlain indent t column before
    omega
  exact scanPlainOnto_writePlain hindent hpos hm hmore hmore' hmark ht hcolumn hc hlength

/-- **A word before a colon is read up to it.** -/
theorem scanPlain_name (outer : Int) {w : Text} (hw : w ≠ []) (hhash : w.head? ≠ some '#')
    (hword : ∀ a ∈ w, isGap a = false ∧ a ≠ ':') (hmore : atGap more = true)
    (hc : c.rest = w ++ ':' :: more) :
    scanPlain false outer c = ((w, false), c.forward w.length) := by
  have hread : plainWord false c.rest = w := by
    rw [hc]
    clear hc hw hhash
    induction w with
    | nil => simp [plainWord, hmore]
    | cons a w ih =>
      obtain ⟨⟨hgap, hcolon⟩, hword⟩ := List.forall_mem_cons.mp hword
      rw [List.cons_append, plainWord, hgap, ih hword]
      simp [hcolon]
  have hrest : (c.forward w.length).rest = List.replicate 0 ' ' ++ ':' :: more := by
    rw [Cursor.rest_forward, hc, List.drop_left]
    rfl
  have hspaces := scanPlainSpaces_of_spaces hrest (startsOff_cons.mpr (by decide))
    (startsOff_cons.mpr (by decide))
  rw [scanPlain, scanPlainOnto_word hread hw hhash hc hspaces]
  rfl

/-! ### Texts that are written plain -/

/-- A text that is not written between double quotes has no characters that only they can carry. -/
theorem quotable_of_style (h : Style.ofText t ≠ .double) : Quotable t := by
  rw [Style.ofText] at h
  split at h
  · exact absurd rfl h
  · next hplain =>
    simp only [Bool.or_eq_true, not_or, Bool.not_eq_true, Bool.not_eq_false'] at hplain
    exact ⟨fun d hd => List.all_eq_true.mp hplain.1.1 d hd, hplain.1.2, hplain.2⟩

/-- What a text is that is written plain. -/
theorem of_style_plain (h : Style.ofText t = .plain) : t ≠ [] ∧ (∀ c ∈ t, isBreak c = false) ∧
    hasLooseEnd t = false ∧ hasIndicator t = false ∧ Kind.ofPlain t = .text := by
  rw [Style.ofText] at h
  split at h
  · cases h
  · split at h
    · cases h
    · next hother => simpa [and_assoc] using hother

/-- The first character of a text that is written plain. -/
theorem first_of_style_plain (h : Style.ofText (a :: t) = .plain) :
    "#,[]\x7b\x7d&*!|>'\"%@\x60".toList.any (· == a) = false ∧
      ((a == '?' || a == ':' || a == '-') && atGap t) = false := by
  obtain ⟨-, -, -, hindicator, -⟩ := of_style_plain h
  rw [hasIndicator, Bool.or_eq_false_iff] at hindicator
  exact Bool.or_eq_false_iff.mp hindicator.2

/-- A text that is written plain is one of words. -/
theorem wordy_of_style_plain (h : Style.ofText t = .plain) : Wordy t := by
  have hplain := (quotable_of_style (by rw [h]; nofun)).plain
  obtain ⟨hne, hline, hloose, hindicator, -⟩ := of_style_plain h
  obtain ⟨a, t, rfl⟩ := List.exists_cons_of_ne_nil hne
  obtain ⟨hother, hmark⟩ := first_of_style_plain h
  rw [hasLooseEnd, Bool.or_eq_false_iff] at hloose
  rw [hasIndicator, Bool.or_eq_false_iff, Bool.or_eq_false_iff] at hindicator
  refine { plain := hplain, line := hline, inner := ?_, front := ?_, back := ?_, ne_nil := hne }
  · have hhash : a ≠ '#' := by
      rintro rfl
      exact absurd hother (by decide)
    have hcolon : (a == ':' && atGap t) = false := by
      by_contra hcolon
      simp only [Bool.not_eq_false, Bool.and_eq_true] at hcolon
      simp [hcolon] at hmark
    rw [hasInnerIndicator, hindicator.1.2, hcolon]
    simp [hhash]
  · have hfirst := hloose.1
    rw [List.head?_cons, Option.any_some, Bool.or_eq_false_iff] at hfirst
    exact startsOff_cons.mpr hfirst.1
  · have hlast := hloose.2
    rw [List.getLast?_cons] at hlast ⊢
    rw [Option.any_some, Bool.or_eq_false_iff] at hlast
    exact hlast.1

end PackageCatalog.Yaml
