import PackageCatalog.Proofs.Console.Emoji
import PackageCatalog.Console.Markup
import Mathlib.Data.List.TakeWhile

/-!
# The pieces of a message

A message is read from left to right: backslashes, and behind them a tag or a letter.  What is read
off a message never has more in it than the message, and it has fewer marks as soon as a tag begins
or a backslash stands before a bracket.

## Main definitions

* `Markup.IsTag` — what may stand between the brackets of a tag.
* `Markup.Reading` — how a message is read.
* `Markup.piecesFrom` — the pieces of the rest of a message.
* `Markup.held` — the characters of pieces, without tags.
* `Markup.calm` — no tag begins in a message, and no backslash stands before a bracket.

## Main results

* `Markup.piecesFrom_append` — what is read does not depend on a bracket behind it.
* `Markup.held_sublist` — **reading brings nothing.**
* `Markup.exists_plain_of_calm` — a calm message is plain text.
* `Markup.marks_held_lt` — **a message that is not calm loses a mark.**
-/

namespace PackageCatalog.Markup

open Emoji (marks isMark marks_append)

variable {c d : Char} {t u v r body : Text} {fuel n place : Nat}

/-! ### Tags -/

/-- What may stand between the brackets of a tag. -/
def IsTag (body : Text) : Prop :=
  ∃ c cs, body = c :: cs ∧ opensTag c = true ∧ ∀ d ∈ cs, isBracket d = false

theorem not_isBracket_of_opensTag (h : opensTag c = true) : isBracket c = false := by
  cases hbracket : isBracket c with
  | false => rfl
  | true =>
    rcases (Bool.or_eq_true _ _).mp hbracket with hc | hc
    · rw [eq_of_beq hc] at h
      exact absurd h (by decide)
    · rw [eq_of_beq hc] at h
      exact absurd h (by decide)

/-- No bracket stands within a tag. -/
theorem IsTag.not_isBracket (h : IsTag body) : ∀ d ∈ body, isBracket d = false := by
  obtain ⟨c, cs, rfl, hc, hcs⟩ := h
  exact List.forall_mem_cons.mpr ⟨not_isBracket_of_opensTag hc, hcs⟩

/-- A tag is read, whatever follows it. -/
theorem tag?_of_isTag (h : IsTag body) (t : Text) :
    tag? ('[' :: (body ++ ']' :: t)) = some body := by
  obtain ⟨c, cs, rfl, hc, hcs⟩ := h
  have htake : (cs ++ ']' :: t).takeWhile (fun d => !isBracket d) = cs := by
    rw [List.takeWhile_append_of_pos (fun d hd => by rw [hcs d hd]; rfl)]
    simp [isBracket]
  rw [tag?, List.cons_append, tagBody?, if_pos hc]
  dsimp only
  rw [htake, List.drop_left, List.head?_cons, if_pos rfl]

/-- Where a tag is read, there is one. -/
theorem exists_of_tag? (h : tag? r = some body) :
    IsTag body ∧ ∃ t, r = '[' :: (body ++ ']' :: t) := by
  unfold tag? at h
  split at h
  · next r =>
    cases r with
    | nil => cases h
    | cons c r =>
      rw [tagBody?] at h
      split at h
      · next hc =>
        dsimp only at h
        split at h
        · next hend =>
          cases h
          refine ⟨⟨c, _, rfl, hc, fun d hd => by simpa using List.mem_takeWhile_imp hd⟩, ?_⟩
          obtain ⟨t, ht⟩ : ∃ t, r.drop (r.takeWhile (fun d => !isBracket d)).length = ']' :: t := by
            revert hend
            cases r.drop (r.takeWhile (fun d => !isBracket d)).length with
            | nil => nofun
            | cons d t =>
              rintro ⟨⟩
              exact ⟨t, rfl⟩
          refine ⟨t, ?_⟩
          have hsplit := List.prefix_iff_eq_append.mp
            (List.takeWhile_prefix (fun d => !isBracket d) (l := r))
          rw [← ht, List.cons_append, hsplit]
        · cases h
      · cases h
  · cases h

theorem tag?_eq_none_of_ne (h : c ≠ '[') (t : Text) : tag? (c :: t) = none := by
  unfold tag?
  split
  · next heq => exact absurd (List.cons.inj heq).1 h
  · rfl

/-! ### Backslashes -/

/-- A text is some backslashes and a rest that begins with none. -/
theorem exists_slashes (t : Text) :
    ∃ n r, t = List.replicate n '\\' ++ r ∧ r.head? ≠ some '\\' := by
  induction t with
  | nil => exact ⟨0, [], rfl, nofun⟩
  | cons c t ih =>
    by_cases hc : c = '\\'
    · obtain ⟨n, r, rfl, hr⟩ := ih
      exact ⟨n + 1, r, by rw [hc]; rfl, hr⟩
    · exact ⟨0, c :: t, rfl, fun h => hc (Option.some.inj h)⟩

/-- The backslashes that stand for themselves before a letter. -/
def kept (n : Nat) (r : Text) : Nat := if r.head? = some '[' then n - 1 else n

/-- The first pieces of a text. -/
theorem piecesWith_slashes (fuel place : Nat) (hr : r.head? ≠ some '\\')
    (hne : List.replicate n '\\' ++ r ≠ []) :
    piecesWith (fuel + 1) place (List.replicate n '\\' ++ r) =
      match tag? r with
      | some body => escapedTag place n body ++
          piecesWith fuel (place + n + (body.length + 2)) (r.drop (body.length + 2))
      | none => .plain (List.replicate (kept n r) '\\' ++ r.take 1) ::
          piecesWith fuel (place + n + 1) (r.drop 1) := by
  have hslashes : (List.replicate n '\\' ++ r).takeWhile (· == '\\') = List.replicate n '\\' := by
    rw [List.takeWhile_append_of_pos (fun d hd => by rw [List.eq_of_mem_replicate hd]; rfl)]
    cases r with
    | nil => rw [List.takeWhile_nil, List.append_nil]
    | cons d r =>
      have hd : ¬ (d == '\\') = true := fun h => hr (congrArg some (eq_of_beq h))
      rw [List.takeWhile_cons, if_neg hd, List.append_nil]
  obtain ⟨c, t, ht⟩ := List.exists_cons_of_ne_nil hne
  rw [ht, piecesWith, ← ht]
  dsimp only
  rw [hslashes, List.length_replicate, List.drop_left' List.length_replicate]
  cases htag : tag? r with
  | some body => rfl
  | none =>
    dsimp only
    split
    · next hn =>
      -- without backslashes the letter is the first character
      subst hn
      cases r with
      | nil => exact absurd rfl hne
      | cons d r =>
        cases ht
        simp [kept]
    · rfl

/-! ### Readings -/

/-- How a message is read: backslashes, and behind them a tag, a letter, or nothing. -/
inductive Reading : Text → Prop
  | slashes (n : Nat) : Reading (List.replicate n '\\')
  | letter (n : Nat) {d : Char} {t : Text} (hd : d ≠ '\\') (htag : tag? (d :: t) = none)
      (rest : Reading t) : Reading (List.replicate n '\\' ++ d :: t)
  | tag (n : Nat) {body t : Text} (hbody : IsTag body) (rest : Reading t) :
      Reading (List.replicate n '\\' ++ '[' :: (body ++ ']' :: t))

/-- Every message can be read. -/
theorem reading (t : Text) : Reading t := by
  induction hlength : t.length using Nat.strong_induction_on generalizing t with
  | _ k ih =>
    obtain ⟨n, r, rfl, hr⟩ := exists_slashes t
    subst hlength
    cases r with
    | nil =>
      rw [List.append_nil]
      exact .slashes n
    | cons d r =>
      cases htag : tag? (d :: r) with
      | none =>
        refine .letter n (fun h => hr (congrArg some h)) htag (ih _ ?_ r rfl)
        simp only [List.length_append, List.length_cons]
        omega
      | some body =>
        obtain ⟨hbody, t, ht⟩ := exists_of_tag? htag
        rw [ht] at ih ⊢
        refine .tag n hbody (ih _ ?_ t rfl)
        simp only [List.length_append, List.length_cons]
        omega

theorem piecesWith_nil (fuel place : Nat) : piecesWith fuel place [] = [] := by
  cases fuel <;> rfl

theorem piecesWith_replicate (fuel place n : Nat) :
    piecesWith (fuel + 1) place (List.replicate (n + 1) '\\') =
      [.plain (List.replicate (n + 1) '\\')] := by
  have h := piecesWith_slashes (n := n + 1) (r := []) fuel place nofun (by simp)
  rw [List.append_nil] at h
  rw [h]
  simp [tag?, kept, piecesWith_nil]

theorem piecesWith_letter (fuel place n : Nat) (hd : d ≠ '\\') (htag : tag? (d :: t) = none) :
    piecesWith (fuel + 1) place (List.replicate n '\\' ++ d :: t) =
      .plain (List.replicate (kept n (d :: t)) '\\' ++ [d]) ::
        piecesWith fuel (place + n + 1) t := by
  have hr : (d :: t).head? ≠ some '\\' := fun h => hd (Option.some.inj h)
  rw [piecesWith_slashes fuel place hr (by simp), htag]
  rfl

theorem piecesWith_tag (fuel place n : Nat) (hbody : IsTag body) (t : Text) :
    piecesWith (fuel + 1) place (List.replicate n '\\' ++ '[' :: (body ++ ']' :: t)) =
      escapedTag place n body ++ piecesWith fuel (place + n + (body.length + 2)) t := by
  have hrest : ('[' :: (body ++ ']' :: t)).drop (body.length + 2) = t := by
    rw [List.drop_succ_cons, ← List.drop_drop, List.drop_left]
    rfl
  rw [piecesWith_slashes fuel place (by simp) (by simp), tag?_of_isTag hbody]
  dsimp only
  rw [hrest]

theorem length_tag (n : Nat) (body t : Text) :
    (List.replicate n '\\' ++ '[' :: (body ++ ']' :: t)).length =
      (n + body.length + 1 + t.length) + 1 := by
  simp only [List.length_append, List.length_replicate, List.length_cons]
  omega

/-- A text is read in at most as many steps as it has characters. -/
theorem piecesWith_of_le : ∀ {t : Text} {fuel place : Nat}, t.length ≤ fuel →
    piecesWith fuel place t = piecesWith t.length place t := by
  intro t
  induction reading t with
  | slashes n =>
    intro fuel place h
    rw [List.length_replicate] at h ⊢
    cases n with
    | zero => rw [List.replicate_zero, piecesWith_nil, piecesWith_nil]
    | succ n =>
      obtain ⟨k, rfl⟩ := Nat.exists_eq_add_of_lt h
      rw [piecesWith_replicate, piecesWith_replicate]
  | @letter n d t hd htag rest ih =>
    intro fuel place h
    rw [List.length_append, List.length_replicate, List.length_cons, ← Nat.add_assoc] at h ⊢
    obtain ⟨k, rfl⟩ := Nat.exists_eq_add_of_lt h
    rw [piecesWith_letter _ _ _ hd htag, piecesWith_letter _ _ _ hd htag, ih (by omega),
      ih (Nat.le_add_left t.length n)]
  | @tag n body t hbody rest ih =>
    intro fuel place h
    rw [length_tag] at h ⊢
    obtain ⟨k, rfl⟩ := Nat.exists_eq_add_of_lt h
    rw [piecesWith_tag _ _ _ hbody, piecesWith_tag _ _ _ hbody, ih (by omega),
      ih (Nat.le_add_left t.length (n + body.length + 1))]

/-! ### The rest of a message -/

/-- The pieces of the rest of a message that begins at a place. -/
def piecesFrom (place : Nat) (t : Text) : List Piece := piecesWith t.length place t

theorem pieces_eq (t : Text) : pieces t = piecesFrom 0 t := rfl

theorem piecesFrom_nil (place : Nat) : piecesFrom place [] = [] := rfl

theorem piecesFrom_replicate (place n : Nat) :
    piecesFrom place (List.replicate (n + 1) '\\') = [.plain (List.replicate (n + 1) '\\')] := by
  rw [piecesFrom, List.length_replicate, piecesWith_replicate]

theorem piecesFrom_letter (place n : Nat) (hd : d ≠ '\\') (htag : tag? (d :: t) = none) :
    piecesFrom place (List.replicate n '\\' ++ d :: t) =
      .plain (List.replicate (kept n (d :: t)) '\\' ++ [d]) :: piecesFrom (place + n + 1) t := by
  rw [piecesFrom, List.length_append, List.length_cons, ← Nat.add_assoc,
    piecesWith_letter _ _ _ hd htag, piecesWith_of_le (Nat.le_add_left _ _)]
  rfl

theorem piecesFrom_tag (place n : Nat) (hbody : IsTag body) (t : Text) :
    piecesFrom place (List.replicate n '\\' ++ '[' :: (body ++ ']' :: t)) =
      escapedTag place n body ++ piecesFrom (place + n + (body.length + 2)) t := by
  rw [piecesFrom, length_tag, piecesWith_tag _ _ _ hbody, piecesWith_of_le (Nat.le_add_left _ _)]
  rfl

/-- No tag begins where the next bracket behind it opens another one. -/
theorem tag?_append (h : tag? (d :: t) = none) (n : Nat) (v : Text) :
    tag? (d :: (t ++ (List.replicate n '\\' ++ '[' :: v))) = none := by
  rw [Option.eq_none_iff_forall_ne_some]
  intro body hbody
  obtain ⟨htag, t', ht'⟩ := exists_of_tag? hbody
  obtain ⟨rfl, happend⟩ := List.cons.inj ht'
  -- the bracket that closes the tag would be the next one
  have hnext : ∀ a b : Text, (∀ c ∈ a, isBracket c = false) →
      (a ++ ']' :: b).find? isBracket = some ']' := by
    intro a b ha
    rw [List.find?_append, List.find?_eq_none.mpr (fun c hc => by rw [ha c hc]; exact nofun)]
    rfl
  have hopen : (List.replicate n '\\' ++ '[' :: v).find? isBracket = some '[' := by
    rw [List.find?_append, List.find?_eq_none.mpr
      (fun c hc => by rw [List.eq_of_mem_replicate hc]; decide)]
    rfl
  rcases List.append_eq_append_iff.mp happend with ⟨a, rfl, hrest⟩ | ⟨a, rfl, hrest⟩
  · have hclose := hnext a t' (fun c hc => htag.not_isBracket c (List.mem_append_right _ hc))
    rw [← hrest, hopen] at hclose
    cases hclose
  · cases a with
    | nil =>
      have hclose := hnext [] t' nofun
      rw [List.nil_append, hrest, List.nil_append, hopen] at hclose
      cases hclose
    | cons c a =>
      obtain ⟨rfl, -⟩ := List.cons.inj hrest
      rw [tag?_of_isTag htag] at h
      cases h

/-- What is left of a text that does not end in a backslash does not either. -/
theorem getLast?_ne_of_append {c : Char} (h : (u ++ t).getLast? ≠ some c) :
    t.getLast? ≠ some c := by
  intro ht
  rw [List.getLast?_append, ht] at h
  exact h rfl

/-- **What is read does not depend on a bracket behind it**, with all the backslashes before that
bracket. -/
theorem piecesFrom_append : ∀ {u : Text} (place n : Nat) (v : Text), u.getLast? ≠ some '\\' →
    piecesFrom place (u ++ (List.replicate n '\\' ++ '[' :: v)) =
      piecesFrom place u ++
        piecesFrom (place + u.length) (List.replicate n '\\' ++ '[' :: v) := by
  intro u
  induction reading u with
  | slashes m =>
    intro place n v h
    cases m with
    | zero => rfl
    | succ m => exact absurd (by rw [List.getLast?_replicate]; rfl) h
  -- the tag that starts behind `u` takes in nothing of it
  | @letter m d t hd htag rest ih =>
    intro place n v h
    have ht : t.getLast? ≠ some '\\' :=
      getLast?_ne_of_append (u := List.replicate m '\\' ++ [d]) (by rwa [List.append_assoc])
    have hkept : kept m (d :: (t ++ (List.replicate n '\\' ++ '[' :: v))) = kept m (d :: t) := rfl
    rw [List.append_assoc, List.cons_append, piecesFrom_letter _ _ hd (tag?_append htag n v),
      piecesFrom_letter _ _ hd htag, ih _ _ _ ht, hkept, List.cons_append, List.length_append,
      List.length_replicate, List.length_cons,
      show place + m + 1 + t.length = place + (m + (t.length + 1)) by omega]
  | @tag m body t hbody rest ih =>
    intro place n v h
    have ht : t.getLast? ≠ some '\\' :=
      getLast?_ne_of_append (u := List.replicate m '\\' ++ '[' :: (body ++ [']']))
        (by simpa only [List.append_assoc, List.cons_append, List.nil_append] using h)
    rw [List.append_assoc, List.cons_append, List.append_assoc, List.cons_append,
      piecesFrom_tag _ _ hbody, piecesFrom_tag _ _ hbody, ih _ _ _ ht, List.append_assoc]
    simp only [List.length_append, List.length_replicate, List.length_cons]
    rw [show place + m + (body.length + 2) + t.length =
      place + (m + (body.length + (t.length + 1) + 1)) by omega]

/-! ### What is held -/

/-- The characters of a piece. -/
def Piece.held : Piece → Text
  | plain t => t
  | literal t => t
  | tag _ _ => []

/-- The characters of pieces, without tags. -/
def held (ps : List Piece) : Text := ps.flatMap Piece.held

theorem held_cons (p : Piece) (ps : List Piece) : held (p :: ps) = p.held ++ held ps := rfl

theorem held_append (ps qs : List Piece) : held (ps ++ qs) = held ps ++ held qs :=
  List.flatMap_append

/-- What is held of a tag with backslashes before it. -/
theorem held_escapedTag (place n : Nat) (body : Text) :
    held (escapedTag place n body) =
      List.replicate (n / 2) '\\' ++ if n % 2 = 1 then '[' :: (body ++ [']']) else [] := by
  unfold escapedTag
  split <;> simp [held, Piece.held]

/-- **Reading brings nothing.** -/
theorem held_sublist : ∀ (place : Nat) {t : Text}, (held (piecesFrom place t)).Sublist t := by
  intro place t
  induction reading t generalizing place with
  | slashes n =>
    cases n with
    | zero => exact List.Sublist.slnil
    | succ n =>
      rw [piecesFrom_replicate, held_cons]
      simp [Piece.held, held]
  | @letter n d t hd htag rest ih =>
    rw [piecesFrom_letter _ _ hd htag, held_cons, Piece.held, List.append_assoc]
    refine List.Sublist.append ?_ ((ih _).cons_cons d)
    refine List.replicate_sublist_replicate _ |>.mpr ?_
    rw [kept]
    split <;> omega
  | @tag n body t hbody rest ih =>
    rw [piecesFrom_tag _ _ hbody, held_append, held_escapedTag, List.append_assoc]
    refine List.Sublist.append (List.replicate_sublist_replicate _ |>.mpr (Nat.div_le_self n 2)) ?_
    have hsplit : '[' :: (body ++ ']' :: t) = '[' :: (body ++ [']']) ++ t := by simp
    rw [hsplit]
    refine List.Sublist.append ?_ (ih _)
    split
    · exact List.Sublist.refl _
    · exact List.nil_sublist _

/-! ### Calm messages -/

/-- No tag begins in a message, and no backslash stands before a bracket that opens. -/
def calm : Text → Bool
  | [] => true
  | c :: t => (tag? (c :: t)).isNone && !(c == '\\' && t.head? == some '[') && calm t

theorem calm_cons_of_ne (hc : c ≠ '[') (hslash : c ≠ '\\') (t : Text) :
    calm (c :: t) = calm t := by
  rw [calm, tag?_eq_none_of_ne hc]
  simp [hslash]

theorem calm_slashes (n : Nat) (r : Text) :
    calm (List.replicate n '\\' ++ r) = ((n == 0 || r.head? != some '[') && calm r) := by
  induction n with
  | zero => rfl
  | succ n ih =>
    rw [List.replicate_succ, List.cons_append, calm, tag?_eq_none_of_ne (by decide), ih]
    cases n with
    | zero => simp [bne]
    | succ n => simp [List.replicate_succ]

/-- A calm message is plain text. -/
theorem exists_plain_of_calm : ∀ (place : Nat) {t : Text}, calm t = true →
    ∃ ts : List Text, piecesFrom place t = ts.map .plain ∧ ts.flatten = t := by
  intro place t
  induction reading t generalizing place with
  | slashes n =>
    intro _
    cases n with
    | zero => exact ⟨[], rfl, rfl⟩
    | succ n => exact ⟨[_], piecesFrom_replicate place n, List.flatten_singleton⟩
  | @letter n d t hd htag rest ih =>
    intro h
    rw [calm_slashes, calm, Bool.and_eq_true, Bool.and_eq_true] at h
    obtain ⟨ts, hts, hflatten⟩ := ih (place + n + 1) h.2.2
    have hkept : kept n (d :: t) = n := by
      rw [kept]
      split
      · next hbracket =>
        have hn : n = 0 := by simpa [hbracket] using h.1
        rw [hn]
      · rfl
    refine ⟨(List.replicate n '\\' ++ [d]) :: ts, ?_, ?_⟩
    · rw [piecesFrom_letter _ _ hd htag, hkept, hts]
      rfl
    · rw [List.flatten_cons, hflatten, List.append_assoc]
      rfl
  | @tag n body t hbody rest ih =>
    intro h
    rw [calm_slashes, calm, tag?_of_isTag hbody] at h
    simp at h

theorem marks_slashes (n : Nat) : marks (List.replicate n '\\') = n := by
  rw [marks, List.countP_replicate]
  rfl

theorem marks_held_le (place : Nat) (t : Text) : marks (held (piecesFrom place t)) ≤ marks t :=
  (held_sublist place).countP_le

/-- **A message that is not calm loses a mark.** -/
theorem marks_held_lt : ∀ (place : Nat) {t : Text}, calm t = false →
    marks (held (piecesFrom place t)) < marks t := by
  intro place t
  induction reading t generalizing place with
  | slashes n =>
    intro h
    have hcalm := calm_slashes n []
    rw [List.append_nil, h] at hcalm
    simp [calm] at hcalm
  | @letter n d t hd htag rest ih =>
    intro h
    have hletter := marks_append [d] t
    have hheld : marks (held (piecesFrom place (List.replicate n '\\' ++ d :: t))) =
        kept n (d :: t) + marks [d] + marks (held (piecesFrom (place + n + 1) t)) := by
      rw [piecesFrom_letter _ _ hd htag, held_cons, Piece.held, marks_append, marks_append,
        marks_slashes]
    have hrest := marks_held_le (place + n + 1) t
    rw [hheld, marks_append, marks_slashes]
    rw [List.singleton_append] at hletter
    by_cases hescaped : n ≠ 0 ∧ d = '['
    · -- one of the backslashes before the bracket is lost
      obtain ⟨hn, rfl⟩ := hescaped
      have hkept : kept n ('[' :: t) = n - 1 := if_pos rfl
      omega
    · have hkept : kept n (d :: t) ≤ n := by
        rw [kept]
        split <;> omega
      have hcalm : calm t = false := by
        cases ht : calm t with
        | false => rfl
        | true =>
          rw [calm_slashes, calm, htag, ht, beq_eq_false_iff_ne.mpr hd] at h
          simp at h
          exact absurd h hescaped
      have hloss := ih (place + n + 1) hcalm
      omega
  | @tag n body t hbody rest ih =>
    intro _
    have htag : marks ('[' :: (body ++ ']' :: t)) = marks ('[' :: (body ++ [']'])) + marks t := by
      rw [← marks_append]
      simp
    have hopen : 0 < marks ('[' :: (body ++ [']'])) := by
      rw [marks, List.countP_cons_of_pos rfl]
      exact Nat.succ_pos _
    have hrest := marks_held_le (place + n + (body.length + 2)) t
    rw [piecesFrom_tag _ _ hbody, held_append, held_escapedTag, marks_append, marks_append,
      marks_append, marks_slashes, marks_slashes, htag]
    split
    · -- an odd number of backslashes is halved
      omega
    · -- the bracket that opens is lost
      rw [show marks [] = 0 from rfl]
      omega

end PackageCatalog.Markup
