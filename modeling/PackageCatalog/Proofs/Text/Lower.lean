import PackageCatalog.Proofs.Query.Substring
import PackageCatalog.Text.Lower

/-!
# Lower case of a part

The lower-case form of a text is that of its parts one after the other, except that the form of a
capital sigma depends on what stands around it: the nearest character before it and the nearest one
behind it that are not passed over.  A part has one form wherever it stands exactly when that is
settled inside of it for each of its sigmas.

## Main definitions

* `Text.lowerBetween` — the lower-case form of a part, between what stands before and behind it.
* `Text.Settled` — the forms of all sigmas of a part are settled inside of it.

## Main results

* `Text.lower_append` — the lower-case form of a text by its parts.
* `Text.lower_infix_of_settled` — **a settled part is found again in lower case wherever it
  stands**, whatever the case of its ASCII letters.
* `Text.exists_not_infix_of_not_settled` — **a part that is not settled is lost in some text.**
-/

namespace PackageCatalog.Text

/-! ### The form of a part -/

variable {before after a b t u v w x y : Text}

/-- The lower-case form of a character between a text before it, given from its end, and one behind
it. -/
def formOf (before after : Text) (c : Char) : Text :=
  if c = 'Σ' then [if endsWord before after then 'ς' else 'σ']
  else if c = 'İ' then ['i', '\u0307']
  else [lowerChar c]

/-- The lower-case form of a text between one before it, given from its end, and one behind it. -/
def lowerBetween : Text → Text → Text → Text
  | _, _, [] => []
  | before, after, c :: t => formOf before (t ++ after) c ++ lowerBetween (c :: before) after t

theorem lowerBetween_cons (before after : Text) (c : Char) (t : Text) :
    lowerBetween before after (c :: t) =
      formOf before (t ++ after) c ++ lowerBetween (c :: before) after t := rfl

theorem lowerOnto_eq : ∀ {t before done : Text},
    lowerOnto before t done = done.reverse ++ lowerBetween before [] t := by
  intro t
  induction t with
  | nil => intro before done; exact (List.append_nil _).symm
  | cons c t ih =>
    intro before done
    rw [lowerOnto, lowerBetween_cons, List.append_nil, formOf]
    split
    · rw [ih, List.reverse_cons, List.append_assoc]
    · split
      · rw [ih, List.reverse_cons, List.reverse_cons, List.append_assoc, List.append_assoc]
        rfl
      · rw [ih, List.reverse_cons, List.append_assoc]

theorem lower_eq (t : Text) : lower t = lowerBetween [] [] t := lowerOnto_eq

theorem lowerBetween_append : ∀ {u before : Text}, lowerBetween before after (u ++ v) =
    lowerBetween before (v ++ after) u ++ lowerBetween (u.reverse ++ before) after v := by
  intro u
  induction u with
  | nil => intro before; rfl
  | cons c u ih =>
    intro before
    rw [List.cons_append, lowerBetween_cons, lowerBetween_cons, ih, List.reverse_cons,
      List.append_assoc,
      List.append_assoc, List.append_assoc]
    rfl

/-- **The lower-case form of a text is that of its parts one after the other**, each between the
others. -/
theorem lower_append (x w y : Text) : lower (x ++ w ++ y) =
    lowerBetween [] (w ++ y) x ++ lowerBetween x.reverse y w ++
      lowerBetween (w.reverse ++ x.reverse) [] y := by
  rw [lower_eq, List.append_assoc, lowerBetween_append, lowerBetween_append, List.append_nil,
    List.append_nil, List.append_nil, List.append_assoc]

/-- Only what stands around the sigmas of a part matters. -/
theorem lowerBetween_congr {after' : Text} : ∀ {t before before' : Text},
    (∀ u v, t = u ++ 'Σ' :: v → endsWord (u.reverse ++ before) (v ++ after) =
      endsWord (u.reverse ++ before') (v ++ after')) →
    lowerBetween before after t = lowerBetween before' after' t := by
  intro t
  induction t with
  | nil => intros; rfl
  | cons c t ih =>
    intro before before' h
    rw [lowerBetween_cons, lowerBetween_cons]
    congr 1
    · rw [formOf, formOf]
      split
      · next hc => rw [show endsWord before (t ++ after) = _ from h [] t (by rw [hc]; rfl)]; rfl
      · rfl
    · refine ih (fun u v htuv => ?_)
      have := h (c :: u) v (by rw [htuv]; rfl)
      rwa [List.reverse_cons, List.append_assoc, List.append_assoc] at this

/-- A part without a capital sigma has one form wherever it stands. -/
theorem lowerBetween_of_not_mem (before after before' after' : Text) (h : 'Σ' ∉ t) :
    lowerBetween before after t = lowerBetween before' after' t := by
  refine lowerBetween_congr (fun u v htuv => absurd ?_ h)
  rw [htuv]
  exact List.mem_append_right u List.mem_cons_self

/-! ### ASCII letters -/

/-- What holds of every character and itself, and of the capital ASCII letters and the small ones,
holds of every character and the one it is folded to. -/
theorem asciiLower_cases {P : Char → Char → Prop} (hself : ∀ c, P c c)
    (hcapital : ∀ n < 26, P (Char.ofNat (n + 65)) (asciiLower (Char.ofNat (n + 65)))) (c : Char) :
    P c (asciiLower c) := by
  by_cases h : 'A' ≤ c ∧ c ≤ 'Z'
  · have hlow : 65 ≤ c.toNat := h.1
    have hhigh : c.toNat ≤ 90 := h.2
    have := hcapital (c.toNat - 65) (by omega)
    rwa [Nat.sub_add_cancel hlow, Char.ofNat_toNat] at this
  · rw [asciiLower, if_neg h]
    exact hself c

/-- A capital ASCII letter and the small one are alike for their neighbours and have one form of
their own. -/
theorem capital_alike : ∀ n < 26,
    inRuns caseIgnorableRuns (Char.ofNat (n + 65)).toNat =
      inRuns caseIgnorableRuns (asciiLower (Char.ofNat (n + 65))).toNat ∧
    inRuns casedRuns (Char.ofNat (n + 65)).toNat =
      inRuns casedRuns (asciiLower (Char.ofNat (n + 65))).toNat ∧
    Char.ofNat (n + 65) ≠ 'Σ' ∧ Char.ofNat (n + 65) ≠ 'İ' ∧
    asciiLower (Char.ofNat (n + 65)) ≠ 'Σ' ∧ asciiLower (Char.ofNat (n + 65)) ≠ 'İ' ∧
    lowerChar (Char.ofNat (n + 65)) = lowerChar (asciiLower (Char.ofNat (n + 65))) := by
  decide +kernel

theorem ignorable_asciiLower (c : Char) :
    inRuns caseIgnorableRuns c.toNat = inRuns caseIgnorableRuns (asciiLower c).toNat :=
  asciiLower_cases (P := fun c d =>
    inRuns caseIgnorableRuns c.toNat = inRuns caseIgnorableRuns d.toNat) (fun _ => rfl)
    (fun n hn => (capital_alike n hn).1) c

theorem cased_asciiLower (c : Char) :
    inRuns casedRuns c.toNat = inRuns casedRuns (asciiLower c).toNat :=
  asciiLower_cases (P := fun c d => inRuns casedRuns c.toNat = inRuns casedRuns d.toNat)
    (fun _ => rfl) (fun n hn => (capital_alike n hn).2.1) c

theorem startsCased_map (t : Text) : startsCased (t.map asciiLower) = startsCased t := by
  induction t with
  | nil => rfl
  | cons c t ih =>
    rw [List.map_cons, startsCased, startsCased, ← ignorable_asciiLower, ← cased_asciiLower, ih]

theorem endsWord_map (before after : Text) :
    endsWord (before.map asciiLower) (after.map asciiLower) = endsWord before after := by
  rw [endsWord, endsWord, startsCased_map, startsCased_map]

/-- The case of an ASCII letter makes no difference to its form, nor does that of those around. -/
theorem formOf_map (before after : Text) (c : Char) :
    formOf (before.map asciiLower) (after.map asciiLower) (asciiLower c) =
      formOf before after c := by
  have hform : formOf before after c = formOf before after (asciiLower c) :=
    asciiLower_cases (P := fun c d => formOf before after c = formOf before after d)
      (fun _ => rfl) (fun n hn => by
        obtain ⟨-, -, h₁, h₂, h₃, h₄, h⟩ := capital_alike n hn
        rw [formOf, formOf, if_neg h₁, if_neg h₂, if_neg h₃, if_neg h₄, h]) c
  rw [hform, formOf, formOf, endsWord_map]

theorem lowerBetween_map : ∀ {t before : Text},
    lowerBetween (before.map asciiLower) (after.map asciiLower) (t.map asciiLower) =
      lowerBetween before after t := by
  intro t
  induction t with
  | nil => intro before; rfl
  | cons c t ih =>
    intro before
    rw [List.map_cons, lowerBetween_cons, lowerBetween_cons, ← List.map_append, formOf_map,
      ← List.map_cons, ih]

/-- Parts that differ in the case of ASCII letters have one lower-case form in one place. -/
theorem lowerBetween_eq_of_map_eq (h : u.map asciiLower = v.map asciiLower) :
    lowerBetween before after u = lowerBetween before after v := by
  rw [← lowerBetween_map, h, lowerBetween_map]

/-! ### What settles a sigma -/

/-- Whether a character is passed over when the neighbours of a sigma are looked at. -/
def isPassed (c : Char) : Bool := inRuns caseIgnorableRuns c.toNat

/-- Whether the first character that is not passed over is a cased one; none if all are passed
over. -/
def neighbour? (t : Text) : Option Bool :=
  (t.find? (fun c => !isPassed c)).map (fun c => inRuns casedRuns c.toNat)

theorem neighbour?_append (u v : Text) :
    neighbour? (u ++ v) = (neighbour? u).or (neighbour? v) := by
  rw [neighbour?, List.find?_append, Option.map_or]
  rfl

theorem startsCased_eq (t : Text) : startsCased t = (neighbour? t).getD false := by
  induction t with
  | nil => rfl
  | cons c t ih =>
    rw [startsCased, neighbour?, List.find?_cons]
    cases hpassed : inRuns caseIgnorableRuns c.toNat with
    | true => simp only [if_true, isPassed, hpassed, Bool.not_true, ih, neighbour?]
    | false =>
      simp only [Bool.false_eq_true, if_false, isPassed, hpassed, Bool.not_false, Option.map_some,
        Option.getD_some]

/-- Whether the form of a sigma is settled by a part of the text before it and one of that behind
it. -/
def settles : Option Bool → Option Bool → Bool
  | some false, _ => true
  | _, some true => true
  | some true, some false => true
  | _, _ => false

/-- The form of every capital sigma of a part is settled inside of it: it does not end a word for
what stands before it or behind it, or it ends one for both. -/
def Settled (p : Text) : Prop :=
  ∀ a b, p = a ++ 'Σ' :: b → settles (neighbour? a.reverse) (neighbour? b) = true

/-- A part without a capital sigma is settled. -/
theorem settled_of_not_mem {p : Text} (h : 'Σ' ∉ p) : Settled p := by
  rintro a b rfl
  exact absurd (List.mem_append_right a List.mem_cons_self) h

theorem endsWord_append (h : settles (neighbour? u) (neighbour? v) = true) :
    endsWord (u ++ x) (v ++ y) = endsWord u v := by
  simp only [endsWord, startsCased_eq, neighbour?_append]
  revert h
  rcases neighbour? u with _ | _ | _ <;> rcases neighbour? v with _ | _ | _ <;> simp [settles]

/-- A settled part has one form wherever it stands. -/
theorem lowerBetween_of_settled {p : Text} (h : Settled p) : lowerBetween x y p = lower p := by
  rw [lower_eq]
  refine lowerBetween_congr (fun u v huv => ?_)
  rw [endsWord_append (h u v huv), endsWord_append (h u v huv)]

/-- **A settled part is found again in lower case wherever it stands**, whatever the case of its
ASCII letters. -/
theorem lower_infix_of_settled {p : Text} (h : Settled p) (hocc : Occurs p t) :
    lower p <:+: lower t := by
  obtain ⟨w, ⟨x, y, rfl⟩, hw⟩ := occurs_iff.mp hocc
  refine ⟨lowerBetween [] (w ++ y) x, lowerBetween (w.reverse ++ x.reverse) [] y, ?_⟩
  rw [lower_append, ← lowerBetween_eq_of_map_eq hw, lowerBetween_of_settled h]

/-! ### What is lost -/

/-- A letter and a sigma are neighbours for a sigma. -/
theorem neighbour?_letters : neighbour? ['A'] = some true ∧ neighbour? ['Σ'] = some true := by
  decide +kernel

theorem neighbour?_sigma (t : Text) : neighbour? ('Σ' :: t) = some true := by
  rw [← List.singleton_append, neighbour?_append, neighbour?_letters.2]
  rfl

/-- A text whose characters are all passed over has no sigma. -/
theorem not_mem_of_neighbour?_eq_none (h : neighbour? t = none) : 'Σ' ∉ t := by
  intro hmem
  obtain ⟨a, b, rfl⟩ := List.append_of_mem hmem
  rw [neighbour?_append, neighbour?_sigma, Option.or_eq_none_iff] at h
  cases h.2

/-- What stands far before a part does not matter when there is a neighbour before it. -/
theorem lowerBetween_append_left (h : neighbour? u ≠ none) :
    lowerBetween (u ++ x) after t = lowerBetween u after t := by
  obtain ⟨n, hn⟩ := Option.ne_none_iff_exists'.mp h
  refine lowerBetween_congr (fun a b _ => ?_)
  simp only [endsWord, startsCased_eq, neighbour?_append, hn]
  rcases neighbour? a.reverse with _ | _ <;> rfl

/-- What stands far behind a part does not matter when there is a neighbour behind it. -/
theorem lowerBetween_append_right (h : neighbour? v ≠ none) :
    lowerBetween before (v ++ y) t = lowerBetween before v t := by
  obtain ⟨n, hn⟩ := Option.ne_none_iff_exists'.mp h
  refine lowerBetween_congr (fun a b _ => ?_)
  simp only [endsWord, startsCased_eq, neighbour?_append, hn]
  rcases neighbour? b with _ | _ <;> rfl

/-- A text that has fewer of a character than a part does not have the part in it. -/
theorem not_infix_of_count_lt {c : Char} (h : u.count c < v.count c) : ¬ v <:+: u :=
  fun hin => absurd (hin.sublist.count_le c) (by omega)

/-- A sigma with no neighbour before it, and none behind it that is cased, ends a word behind a
letter. -/
theorem not_infix_behind (ha : neighbour? a.reverse = none) (hb : neighbour? b ≠ some true) :
    ¬ lower (a ++ 'Σ' :: b) <:+: lower ('A' :: (a ++ 'Σ' :: b)) := by
  have hfree : 'Σ' ∉ a := by
    have := not_mem_of_neighbour?_eq_none ha
    rwa [List.mem_reverse] at this
  have hsuffix : startsCased b = false := by
    rw [startsCased_eq]
    rcases hn : neighbour? b with _ | _ | _
    · rfl
    · rfl
    · exact absurd hn hb
  have hplain : formOf a.reverse b 'Σ' = ['σ'] := by
    simp [formOf, endsWord, startsCased_eq, ha]
  have hfinal : formOf (a.reverse ++ ['A']) b 'Σ' = ['ς'] := by
    rw [formOf, if_pos rfl, endsWord, startsCased_eq, neighbour?_append, ha, neighbour?_letters.1,
      hsuffix]
    rfl
  have hmiddle : ∀ before : Text, lowerBetween before [] (a ++ 'Σ' :: b) =
      lowerBetween [] [] a ++ (formOf (a.reverse ++ before) b 'Σ' ++
        lowerBetween ['Σ'] [] b) := by
    intro before
    have hsigma : neighbour? ['Σ'] ≠ none := by
      rw [neighbour?_sigma]
      exact Option.some_ne_none _
    rw [lowerBetween_append, lowerBetween_of_not_mem before _ [] [] hfree, lowerBetween_cons,
      List.append_nil, ← List.singleton_append, lowerBetween_append_left hsigma]
  have hcontent : lower ('A' :: (a ++ 'Σ' :: b)) =
      'a' :: lowerBetween ['A'] [] (a ++ 'Σ' :: b) := by
    rw [lower_eq, lowerBetween_cons]
    rfl
  -- the two forms have the same medial sigmas but for this one
  refine not_infix_of_count_lt (c := 'σ') ?_
  rw [hcontent, lower_eq, hmiddle, hmiddle, hfinal, List.append_nil, hplain]
  simp

/-- A sigma with a cased neighbour before it, and none behind it, does not end a word before a
letter. -/
theorem not_infix_before (ha : neighbour? a.reverse = some true) (hb : neighbour? b = none) :
    ¬ lower (a ++ 'Σ' :: b) <:+: lower ((a ++ 'Σ' :: b) ++ ['A']) := by
  have hplain : formOf (a.reverse ++ []) (b ++ []) 'Σ' = ['ς'] := by
    simp [formOf, endsWord, startsCased_eq, ha, hb]
  have hmedial : formOf (a.reverse ++ []) (b ++ ['A']) 'Σ' = ['σ'] := by
    simp [formOf, endsWord, startsCased_eq, neighbour?_append, hb, neighbour?_letters.1]
  have hmiddle : ∀ after : Text, lowerBetween [] after (a ++ 'Σ' :: b) =
      lowerBetween [] ('Σ' :: b) a ++ (formOf (a.reverse ++ []) (b ++ after) 'Σ' ++
        lowerBetween [] [] b) := by
    intro after
    have hsigma : neighbour? ('Σ' :: b) ≠ none := by
      rw [neighbour?_sigma]
      exact Option.some_ne_none _
    rw [lowerBetween_append, lowerBetween_cons, lowerBetween_append_right hsigma,
      lowerBetween_of_not_mem _ after [] [] (not_mem_of_neighbour?_eq_none hb)]
  have hcontent : lower ((a ++ 'Σ' :: b) ++ ['A']) =
      lowerBetween [] ['A'] (a ++ 'Σ' :: b) ++ ['a'] := by
    rw [lower_eq, lowerBetween_append]
    rfl
  refine not_infix_of_count_lt (c := 'ς') ?_
  rw [hcontent, lower_eq, hmiddle, hmiddle, hmedial, hplain]
  simp

/-- **A part that is not settled is lost in some text** that has it and a letter beside it. -/
theorem exists_not_infix_of_not_settled {p : Text} (h : ¬ Settled p) :
    ∃ t, (t = 'A' :: p ∨ t = p ++ ['A']) ∧ ¬ lower p <:+: lower t := by
  simp only [Settled, not_forall] at h
  obtain ⟨a, b, rfl, h⟩ := h
  -- a letter is put on the side on which the sigma has no neighbour
  rcases ha : neighbour? a.reverse with _ | _ | _
  · refine ⟨_, Or.inl rfl, not_infix_behind ha (fun hb => h ?_)⟩
    rw [ha, hb]
    rfl
  · exact absurd (by rw [ha]; rfl) h
  · refine ⟨_, Or.inr rfl, not_infix_before ha ?_⟩
    rcases hb : neighbour? b with _ | _ | _
    · rfl
    · exact absurd (by rw [ha, hb]; rfl) h
    · exact absurd (by rw [ha, hb]; rfl) h

end PackageCatalog.Text
