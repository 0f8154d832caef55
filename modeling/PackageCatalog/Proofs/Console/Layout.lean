import PackageCatalog.Console.Layout
import PackageCatalog.Proofs.Path
import PackageCatalog.Proofs.Text.Width
import Mathlib.Algebra.Order.BigOperators.Group.List
import Mathlib.Algebra.Order.Group.Nat
import Mathlib.Data.List.DropRight

/-!
# What the layout keeps

A text that fits into the columns of the console takes one line, and the line is the text without
tabs; only blanks at its end may be missing.  Whatever a text is, the layout brings nothing but
blanks and line breaks.

## Main definitions

* `Text.isControl` — control characters.
* `Layout.IsPlain` — a text that fits, with no controls but tabs.
* `Layout.Kept` — a text with no blanks at its end beyond the columns of the console.

## Main results

* `Layout.flatten_words`, `Layout.fill_of_fits` — words that fit are put into one line.
* `Layout.page_of_isPlain` — **the output for a text that fits.**
* `Layout.page_eq_iff` — the output is the text exactly when the text has no tabs and is kept.
* `Layout.count_page_le` — **the output has no other characters than the text**, and not more of
  them.
-/

namespace PackageCatalog

/-- Whether a character is a control. -/
def Text.isControl (c : Char) : Bool := c.toNat < 0x20 || (0x7F ≤ c.toNat && c.toNat < 0xA0)

namespace Layout

open Text (isBlank isControl width joiner)

variable {c : Char} {t u w : Text} {ws : List Text} {mode : Overflow} {limit column : Nat}

/-! ### Words -/

/-- The last character is a blank. -/
def EndsBlank (w : Text) : Prop := ∃ c, w.getLast? = some c ∧ isBlank c = true

theorem EndsBlank.ne_joiner (h : EndsBlank w) : w.getLast? ≠ some joiner := by
  obtain ⟨c, hc, hblank⟩ := h
  rw [hc]
  rintro ⟨⟩
  exact absurd hblank (by decide)

theorem EndsBlank.append (h : EndsBlank w) (u : Text) : EndsBlank (u ++ w) := by
  obtain ⟨c, hc, hblank⟩ := h
  exact ⟨c, by rw [List.getLast?_append, hc]; rfl, hblank⟩

/-- The parts of a line that a blank ends, but for the last part. -/
def Parted (ws : List Text) : Prop := ∀ w ∈ ws.dropLast, EndsBlank w

theorem Parted.tail (h : Parted (w :: ws)) : Parted ws := by
  intro v hv
  cases ws with
  | nil => cases hv
  | cons u ws => exact h v (List.mem_cons_of_mem w hv)

theorem Parted.cons (hw : ws = [] ∨ EndsBlank w) (h : Parted ws) : Parted (w :: ws) := by
  cases ws with
  | nil => nofun
  | cons u ws =>
    intro v hv
    rcases List.mem_cons.mp hv with rfl | hv
    · exact hw.resolve_left (List.cons_ne_nil u ws)
    · exact h v hv

theorem Parted.head (h : Parted (w :: u :: ws)) : EndsBlank w := h w List.mem_cons_self

/-- A character makes a part of its own, or it is put before the first one. -/
theorem attach_cases (c : Char) (hws : [] ∉ ws) :
    (attach c ws = [c] :: ws ∧ (ws = [] ∨ isBlank c = true)) ∨
      ∃ w rest, ws = w :: rest ∧ attach c ws = (c :: w) :: rest := by
  match ws, hws with
  | [], _ => exact Or.inl ⟨rfl, Or.inl rfl⟩
  | [] :: _, h => exact absurd List.mem_cons_self h
  | (d :: w) :: rest, _ =>
    by_cases h : (isBlank c && !isBlank d) = true
    · exact Or.inl ⟨if_pos h, Or.inr (Bool.and_elim_left h)⟩
    · exact Or.inr ⟨d :: w, rest, rfl, if_neg h⟩

/-- The parts of a line: none is empty, and together they are the line. -/
theorem parts_spec (t : Text) :
    [] ∉ t.foldr attach [] ∧ (t.foldr attach []).flatten = t ∧ Parted (t.foldr attach []) := by
  induction t with
  | nil => exact ⟨List.not_mem_nil, rfl, nofun⟩
  | cons c t ih =>
    obtain ⟨hne, hflatten, hparted⟩ := ih
    rw [List.foldr_cons]
    rcases attach_cases c hne with ⟨hattach, hc⟩ | ⟨w, rest, hws, hattach⟩
    · rw [hattach]
      refine ⟨?_, ?_, hparted.cons (hc.imp_right (fun hc => ⟨c, rfl, hc⟩))⟩
      · rw [List.mem_cons]
        exact not_or.mpr ⟨(List.cons_ne_nil c []).symm, hne⟩
      · rw [List.flatten_cons, hflatten]
        rfl
    · rw [hattach]
      rw [hws] at hne hflatten hparted
      refine ⟨?_, ?_, ?_⟩
      · rw [List.mem_cons]
        exact not_or.mpr ⟨(List.cons_ne_nil c w).symm, fun h => hne (List.mem_cons_of_mem w h)⟩
      · rw [List.flatten_cons, List.cons_append, ← List.flatten_cons, hflatten]
      · refine hparted.tail.cons ?_
        cases rest with
        | nil => exact Or.inl rfl
        | cons u rest => exact Or.inr (hparted.head.append [c])

theorem flatten_words (t : Text) : (words t).flatten = t := by
  obtain ⟨-, hflatten, -⟩ := parts_spec t
  unfold words
  split
  · next lead w ws hparts =>
    rw [hparts] at hflatten
    split
    · rw [List.flatten_cons, List.append_assoc]
      exact hflatten
    · exact hflatten
  · exact hflatten

theorem parted_words (t : Text) : Parted (words t) := by
  obtain ⟨-, -, hparted⟩ := parts_spec t
  unfold words
  split
  · next lead w ws hparts =>
    rw [hparts] at hparted
    split
    · refine hparted.tail.tail.cons ?_
      cases ws with
      | nil => exact Or.inl rfl
      | cons u ws => exact Or.inr (hparted.tail.head.append lead)
    · exact hparted
  · exact hparted

/-! ### Lines -/

theorem trimEnd_prefix_self (t : Text) : trimEnd t <+: t := List.rdropWhile_prefix isBlank t

/-- Words that fit are put into one line. -/
theorem fill_of_fits : ∀ {ws : List Text} {current : Text} {column : Nat}, Parted ws →
    column + width ws.flatten ≤ limit →
      fill mode limit current column ws = [current ++ ws.flatten] := by
  intro ws
  induction ws with
  | nil =>
    intro current column _ _
    rw [fill, List.flatten_nil, List.append_nil]
  | cons w ws ih =>
    intro current column hws h
    rw [List.flatten_cons] at h
    have hneed : width (trimEnd w) ≤ width (w ++ ws.flatten) :=
      Text.width_le_of_prefix ((trimEnd_prefix_self w).trans (List.prefix_append w _))
    -- a word before others ends in a blank, which joins nothing to what follows
    have hrest : width w + width ws.flatten ≤ width (w ++ ws.flatten) := by
      cases ws with
      | nil => simp [Text.width, Text.widthAfter]
      | cons u ws => exact Text.width_add_le_append _ hws.head.ne_joiner
    rw [fill]
    dsimp only
    rw [if_pos (by omega), ih hws.tail (by omega), List.append_assoc, List.flatten_cons]

theorem dropExcess_prefix_self (limit : Nat) (t : Text) : dropExcess limit t <+: t :=
  List.take_prefix _ t

theorem wrap_of_fits (h : width t ≤ limit) : wrap mode limit t = [dropExcess limit t] := by
  have hfill : fill mode limit [] 0 (words t) = [t] := by
    rw [fill_of_fits (parted_words t) (by rw [flatten_words, Nat.zero_add]; exact h), flatten_words]
    rfl
  rw [wrap, hfill]
  rfl

/-! ### Tabs -/

theorem expandTabs_of_not_mem (h : '\t' ∉ t) : expandTabs t = t := by
  have hfree : Text.Free '\t' t := by
    intro c hc
    rw [beq_eq_false_iff_ne]
    rintro rfl
    exact h hc
  rw [expandTabs, Text.pieces_of_free hfree]
  rfl

/-! ### The console -/

/-- A text that fits, with no controls but tabs. -/
structure IsPlain (t : Text) : Prop where
  calm : ∀ c ∈ t, isControl c = true → c = '\t'
  fits : width (expandTabs t) ≤ columns

/-- A text with no blanks at its end beyond the columns of the console. -/
def Kept (t : Text) : Prop := t.length ≤ columns ∨ trimEnd t = t

theorem dropExcess_eq_iff : dropExcess columns t = t ↔ Kept t := by
  have hle : (trimEnd t).length ≤ t.length := (trimEnd_prefix_self t).length_le
  have htrim : trimEnd t = t ↔ (trimEnd t).length = t.length :=
    ⟨congrArg List.length, (trimEnd_prefix_self t).eq_of_length⟩
  rw [dropExcess, List.take_eq_self_iff, Kept, htrim]
  omega

theorem cleaned_of_isPlain (h : IsPlain t) : cleaned t = t := by
  refine List.filter_eq_self.mpr (fun c hc => ?_)
  by_contra hdropped
  -- what is dropped is a control, and not the tab
  have hcontrol : isControl c = true := by
    simp only [isDropped, isControl, Bool.not_eq_true', Bool.not_eq_false, Bool.or_eq_true,
      Bool.and_eq_true, beq_iff_eq, decide_eq_true_eq] at hdropped ⊢
    omega
  rw [h.calm c hc hcontrol] at hdropped
  exact hdropped rfl

/-- **The output for a text that fits.** -/
theorem page_of_isPlain (h : IsPlain t) :
    page t = dropExcess columns (expandTabs t) ++ ['\n'] := by
  have hfree : Text.Free '\n' t := by
    intro c hc
    rw [beq_eq_false_iff_ne]
    rintro rfl
    exact absurd (h.calm _ hc rfl) (by decide)
  have hline : width (dropExcess columns (expandTabs t)) ≤ columns :=
    (Text.width_le_of_prefix (dropExcess_prefix_self _ _)).trans h.fits
  have hlines : consoleLines t = [dropExcess columns (expandTabs t)] := by
    rw [consoleLines, cleaned_of_isPlain h, linesWithin, Text.pieces_of_free hfree,
      List.flatMap_singleton, wrap_of_fits h.fits, List.map_singleton, truncate, if_pos hline]
  rw [page, row, hlines]
  rfl

/-! ### Nothing is brought -/

section Count

variable {β : Type} {xs : List β} {f g : β → Text}

theorem count_flatMap_le (h : ∀ x ∈ xs, (f x).count c ≤ (g x).count c) :
    (xs.flatMap f).count c ≤ (xs.flatMap g).count c := by
  rw [List.count_flatMap, List.count_flatMap]
  exact List.sum_le_sum h

theorem count_flatMap_lt (h : ∀ x ∈ xs, (f x).count c ≤ (g x).count c)
    (hlt : ∃ x ∈ xs, (f x).count c < (g x).count c) :
    (xs.flatMap f).count c < (xs.flatMap g).count c := by
  rw [List.count_flatMap, List.count_flatMap]
  exact List.sum_lt_sum _ _ h hlt

/-- Texts that are changed one by one. -/
theorem count_flatten_map_le {f : Text → Text} (h : ∀ t, (f t).count c ≤ t.count c)
    (ts : List Text) : (ts.map f).flatten.count c ≤ ts.flatten.count c := by
  rw [← List.flatMap_def, ← List.flatMap_id]
  exact count_flatMap_le (fun t _ => h t)

end Count

theorem flatten_pending (current : Text) : (pending current).flatten = current := by
  cases current <;> simp [pending]

theorem chopFrom_spec (limit column : Nat) (cs : List Text.Cluster) :
    chopFrom limit column cs ≠ [] ∧
      (chopFrom limit column cs).flatten = cs.flatMap Text.Cluster.text := by
  induction cs generalizing column with
  | nil => exact ⟨List.cons_ne_nil _ _, rfl⟩
  | cons c cs ih =>
    rw [chopFrom]
    -- a cluster is put before the first part of the rest, or it ends a part there
    split
    · obtain ⟨part, parts, hparts⟩ := List.exists_cons_of_ne_nil (ih (column + c.width)).1
      have hflatten := (ih (column + c.width)).2
      rw [hparts] at hflatten ⊢
      refine ⟨List.cons_ne_nil _ _, ?_⟩
      rw [List.flatten_cons, List.append_assoc, ← List.flatten_cons, hflatten, List.flatMap_cons]
    · obtain ⟨part, parts, hparts⟩ := List.exists_cons_of_ne_nil (ih c.width).1
      have hflatten := (ih c.width).2
      rw [hparts] at hflatten ⊢
      refine ⟨List.cons_ne_nil _ _, ?_⟩
      rw [List.flatten_cons, List.nil_append, List.flatten_cons, List.append_assoc,
        ← List.flatten_cons, hflatten, List.flatMap_cons]

/-- A word that is cut is there up to the last part, and the last part is there too. -/
theorem flatten_chop (limit : Nat) (w : Text) :
    (chop limit w).dropLast.flatten ++ (chop limit w).getLast?.getD [] = w := by
  obtain ⟨hne, hflatten⟩ := chopFrom_spec limit 0 (Text.clusters w)
  have hlast : (chop limit w).dropLast ++ [(chop limit w).getLast?.getD []] = chop limit w := by
    rw [chop, List.getLast?_eq_some_getLast hne, Option.getD_some,
      List.dropLast_concat_getLast hne]
  calc (chop limit w).dropLast.flatten ++ (chop limit w).getLast?.getD []
      = ((chop limit w).dropLast ++ [(chop limit w).getLast?.getD []]).flatten := by simp
    _ = (chop limit w).flatten := by rw [hlast]
    _ = w := by rw [chop, hflatten, Text.flatMap_clusters]

/-- Words that are put into lines are all there. -/
theorem flatten_fill : ∀ {ws : List Text} {current : Text} {column : Nat},
    (fill mode limit current column ws).flatten = current ++ ws.flatten := by
  intro ws
  induction ws with
  | nil => intro current column; simp [fill]
  | cons w ws ih =>
    intro current column
    rw [fill]
    dsimp only
    -- the word goes into the line, or begins the next one, or is cut
    split
    · rw [ih, List.append_assoc, List.flatten_cons]
    · split
      · rw [List.flatten_append, flatten_pending, ih, List.flatten_cons]
      · rw [List.flatten_append, List.flatten_append, flatten_pending, ih, List.append_assoc,
          ← List.append_assoc (chop limit w).dropLast.flatten, flatten_chop, List.flatten_cons]

theorem count_dropExcess_le (limit : Nat) (t : Text) : (dropExcess limit t).count c ≤ t.count c :=
  (dropExcess_prefix_self limit t).sublist.count_le c

theorem count_cropClusters_le (hc : c ≠ ' ') : ∀ (cs : List Text.Cluster) (limit : Nat),
    (cropClusters limit cs).count c ≤ (cs.flatMap Text.Cluster.text).count c := by
  have hspaces : ∀ n, (List.replicate n ' ').count c = 0 := by
    intro n
    rw [List.count_replicate, if_neg (by simpa using hc.symm)]
  intro cs
  induction cs with
  | nil =>
    intro limit
    rw [cropClusters, hspaces]
    exact Nat.zero_le _
  | cons d cs ih =>
    intro limit
    rw [cropClusters, List.flatMap_cons, List.count_append]
    split
    · rw [List.count_append]
      exact Nat.add_le_add_left (ih _) _
    · rw [hspaces]
      exact Nat.zero_le _

theorem count_truncate_le (hc : c ≠ ' ') (limit : Nat) (t : Text) :
    (truncate .fold limit t).count c ≤ t.count c := by
  rw [truncate]
  split
  · exact Nat.le_refl _
  · have hcrop := count_cropClusters_le hc (Text.clusters t) limit
    rw [Text.flatMap_clusters] at hcrop
    exact hcrop

theorem count_wrap_le (mode : Overflow) (limit : Nat) (line : Text) :
    (wrap mode limit line).flatten.count c ≤ line.count c := by
  have hfill : (fill mode limit [] 0 (words line)).flatten = line := by
    rw [flatten_fill, flatten_words, List.nil_append]
  rw [wrap]
  refine (count_flatten_map_le (count_dropExcess_le limit) _).trans ?_
  rw [hfill]

theorem count_linesWithin_le (mode : Overflow) (limit : Nat) (t : Text) :
    (linesWithin mode limit t).flatten.count c ≤
      ((Text.pieces '\n' t).flatMap expandTabs).count c := by
  rw [linesWithin, ← List.flatMap_id, List.flatMap_assoc]
  refine count_flatMap_le (fun line _ => ?_)
  rw [List.flatMap_id]
  exact count_wrap_le mode limit (expandTabs line)

theorem count_joined_of_ne {mark : Char} (hc : c ≠ mark) : ∀ ts : List Text,
    (Text.joined mark ts).count c = ts.flatten.count c
  | [] => rfl
  | [t] => by rw [Text.joined, List.flatten_singleton]
  | t :: u :: ts => by
    rw [Text.joined, List.count_append, List.count_cons_of_ne hc.symm,
      count_joined_of_ne hc (u :: ts), ← List.count_append, ← List.flatten_cons]

/-- The lines of the console have nothing but blanks that is not in the lines of a text. -/
theorem count_page_le_lines (hblank : c ≠ ' ') (hbreak : c ≠ '\n') (t : Text) :
    (page t).count c ≤ ((Text.pieces '\n' (cleaned t)).flatMap expandTabs).count c := by
  rw [page, List.count_append, List.count_singleton, if_neg (by simpa using hbreak.symm),
    Nat.add_zero, row, count_joined_of_ne hbreak, consoleLines]
  exact (count_flatten_map_le (count_truncate_le hblank columns) _).trans
    (count_linesWithin_le _ _ _)

theorem pieces_flatten_sublist (mark : Char) (t : Text) :
    (Text.pieces mark t).flatten.Sublist t := by
  induction t with
  | nil => exact List.Sublist.slnil
  | cons c t ih =>
    rw [Text.pieces]
    split
    · exact ih.trans (List.sublist_cons_self c t)
    · obtain ⟨p, ps, hp⟩ := List.exists_cons_of_ne_nil (Text.pieces_ne_nil mark t)
      rw [hp] at ih ⊢
      exact ih.cons_cons c

/-- Tabs become spaces, and all else stays. -/
theorem count_expandParts_le (hc : c ≠ ' ') : ∀ (column : Nat) (parts : List Text),
    (expandParts column parts).count c ≤ parts.flatten.count c := by
  intro column parts
  induction column, parts using expandParts.induct with
  | case1 column => exact Nat.le_refl _
  | case2 column part => rw [expandParts, List.flatten_singleton]
  | case3 column part q parts filled stop ih =>
    have hspaces : ∀ n, (filled ++ List.replicate n ' ').count c = part.count c := by
      intro n
      rw [List.count_append, List.count_replicate, if_neg (by simpa using hc.symm)]
      simp [filled, hc.symm]
    rw [expandParts, List.count_append, hspaces, List.flatten_cons, List.count_append]
    exact Nat.add_le_add_left ih _

theorem count_expandTabs_le (hc : c ≠ ' ') (t : Text) : (expandTabs t).count c ≤ t.count c :=
  (count_expandParts_le hc 0 _).trans ((pieces_flatten_sublist '\t' t).count_le c)

theorem not_mem_expandTabs (t : Text) : '\t' ∉ expandTabs t := by
  have hpieces : (Text.pieces '\t' t).flatten.count '\t' = 0 := by
    rw [List.count_eq_zero, List.mem_flatten]
    rintro ⟨p, hp, hmem⟩
    exact absurd (Text.free_of_mem_pieces hp _ hmem) (by decide)
  rw [← List.count_eq_zero, ← Nat.le_zero, ← hpieces]
  exact count_expandParts_le (by decide) 0 _

/-- **The output has no other characters than the text**, and not more of them, but for blanks and
line breaks. -/
theorem count_page_le (hblank : c ≠ ' ') (hbreak : c ≠ '\n') (t : Text) :
    (page t).count c ≤ t.count c := by
  refine (count_page_le_lines hblank hbreak t).trans ?_
  calc ((Text.pieces '\n' (cleaned t)).flatMap expandTabs).count c
      ≤ ((Text.pieces '\n' (cleaned t)).flatMap id).count c :=
        count_flatMap_le (fun line _ => count_expandTabs_le hblank line)
    _ ≤ (cleaned t).count c := by
        rw [List.flatMap_id]
        exact (pieces_flatten_sublist '\n' _).count_le c
    _ ≤ t.count c := List.filter_sublist.count_le c

/-- No tab is left in the output. -/
theorem not_mem_page (t : Text) : '\t' ∉ page t := by
  have hlines : ((Text.pieces '\n' (cleaned t)).flatMap expandTabs).count '\t' = 0 := by
    rw [List.count_eq_zero, List.mem_flatMap]
    rintro ⟨line, -, hmem⟩
    exact not_mem_expandTabs line hmem
  rw [← List.count_eq_zero, ← Nat.le_zero, ← hlines]
  exact count_page_le_lines (by decide) (by decide) t

/-- The output is the text exactly when the text has no tabs and is kept. -/
theorem page_eq_iff (h : IsPlain t) : page t = t ++ ['\n'] ↔ '\t' ∉ t ∧ Kept t := by
  constructor
  · intro hpage
    have htab : '\t' ∉ t := fun hmem =>
      not_mem_page t (hpage ▸ List.mem_append_left _ hmem)
    rw [page_of_isPlain h, expandTabs_of_not_mem htab] at hpage
    exact ⟨htab, dropExcess_eq_iff.mp (List.append_cancel_right hpage)⟩
  · rintro ⟨htab, hkept⟩
    rw [page_of_isPlain h, expandTabs_of_not_mem htab, dropExcess_eq_iff.mpr hkept]

end Layout

end PackageCatalog
