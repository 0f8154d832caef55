import PackageCatalog.Proofs.Yaml.Cursor
import PackageCatalog.Yaml.Style
import PackageCatalog.Yaml.Token

/-!
# One turn of a scan

What a scan holds between two tokens does not depend on how many of its tokens were handed over
already.  A turn passes the white space before the next token, closes the collections that end
there, and takes the token up.

## Main definitions

* `Yaml.Scan.Yields` — all tokens that come of a scan.
* `Yaml.Scan.Stands` — the tokens that a scan has found, and the collections it is in.
* `Yaml.gap` — white space before a token, on the same line or on the next one.
* `Yaml.unwound` — the tokens and collections once those deeper than a column are closed.

## Main results

* `Yaml.Scan.Stands.insertAt` — a token put in among those that were found.
* `Yaml.Scan.Stands.unwind` — the collections that are closed.
* `Yaml.Scan.yields_of_turn` — **one turn of a scan.**
* `Yaml.Scan.yields_of_end` — the last turn.
-/

namespace PackageCatalog.Yaml

/-- White space before a token: spaces, on a new line if `line` says so. -/
def gap (line : Bool) (n : Nat) : Text := (if line then ['\n'] else []) ++ List.replicate n ' '

/-- A text that starts with no white space and with no comment. -/
def Bare (t : Text) : Prop := StartsOff (fun c => isGap c || c == '#') t

/-- A text that starts bare starts with no space, no line break and no comment. -/
theorem Bare.startsOff {t : Text} (h : Bare t) :
    StartsOff isSpace t ∧ StartsOff isBreak t ∧ StartsOff (· == '#') t := by
  have hsplit : ∀ c, t.head? = some c →
      isSpace c = false ∧ isBreak c = false ∧ (c == '#') = false := by
    intro c hc
    have hbare : (isGap c || c == '#') = false := h c hc
    rw [isGap, Bool.or_eq_false_iff, Bool.or_eq_false_iff, Bool.or_eq_false_iff] at hbare
    exact ⟨hbare.1.1.1, hbare.1.2, hbare.2⟩
  exact ⟨fun c hc => (hsplit c hc).1, fun c hc => (hsplit c hc).2.1,
    fun c hc => (hsplit c hc).2.2⟩

/-- The tokens found (latest first), the column of the innermost collection and the columns of
those around it, once the collections deeper than a column are closed. -/
def unwound (column : Int) (found : List Token) (i : Int) :
    List Int → List Token × Int × List Int
  | [] => (found, i, [])
  | j :: outer =>
    if column < i then unwound column (.blockEnd :: found) j outer else (found, i, j :: outer)

theorem unwound_of_le {column i : Int} (h : i ≤ column) (found : List Token) (outer : List Int) :
    unwound column found i outer = (found, i, outer) := by
  cases outer with
  | nil => rfl
  | cons j outer => rw [unwound, if_neg (Int.not_lt.mpr h)]

theorem unwound_of_lt {column i j : Int} (h : column < i) (h' : j ≤ column) (found : List Token)
    (outer : List Int) :
    unwound column found i (j :: outer) = (.blockEnd :: found, j, outer) := by
  rw [unwound, if_pos h, unwound_of_le h']

namespace Scan

variable {s : Scan} {done found ts : List Token} {i : Int} {outer : List Int} {depth : Nat}

/-- From a scan, behind tokens handed over (latest first), all tokens of the text are these. -/
def Yields (s : Scan) (done ts : List Token) : Prop :=
  ∀ fuel, s.cursor.rest.length < fuel → run fuel s done = ts

/-- The tokens `found` (latest first) by a scan that has handed `done` over, and the collections
it is in. -/
structure Stands (s : Scan) (done found : List Token) (i : Int) (outer : List Int) (depth : Nat) :
    Prop where
  tokens : s.waiting ++ done = found
  handed : s.handed = done.length
  held : ∀ k ∈ s.keys, ∀ start ∈ k, done.length ≤ start.position
  depth : s.keys.length = depth + 1
  indent : s.indent = i
  outer : s.outer = outer

/-- A scan in which no start of a key must be followed by a colon. -/
def Lax (s : Scan) : Prop := ∀ k ∈ s.keys, ∀ start ∈ k, start.required = false

/-- Closing collections leaves the place and the starts of keys as they are. -/
theorem unwind_frame (s : Scan) (column : Int) : (s.unwind column).cursor = s.cursor ∧
    (s.unwind column).keyAllowed = s.keyAllowed ∧ (s.unwind column).keys = s.keys := by
  have hgo : ∀ (outer : List Int) (s : Scan), (unwindWith column outer s).cursor = s.cursor ∧
      (unwindWith column outer s).keyAllowed = s.keyAllowed ∧
      (unwindWith column outer s).keys = s.keys := by
    intro outer
    induction outer with
    | nil => exact fun s => ⟨rfl, rfl, rfl⟩
    | cons j outer ih =>
      intro s
      rw [unwindWith]
      split
      · exact ih _
      · exact ⟨rfl, rfl, rfl⟩
  rw [unwind]
  split
  · exact ⟨rfl, rfl, rfl⟩
  · exact hgo _ s

namespace Stands

/-- The number of tokens found. -/
theorem count (h : s.Stands done found i outer depth) : s.count = found.length := by
  rw [Scan.count, h.handed, ← h.tokens, List.length_append, Nat.add_comm]

theorem inside_eq (h : s.Stands done found i outer depth) : s.inside = decide (0 < depth) := by
  rw [inside, h.depth]
  simp

/-- Another place. -/
theorem move (h : s.Stands done found i outer depth) (c : Cursor) (keyAllowed : Bool) :
    ({ s with cursor := c, keyAllowed } : Scan).Stands done found i outer depth :=
  { h with }

/-- One more token. -/
theorem push (h : s.Stands done found i outer depth) (t : Token) :
    (s.push t).Stands done (t :: found) i outer depth :=
  { h with tokens := by rw [← h.tokens]; rfl }

/-- **A token is put in among those that were found.** -/
theorem insertAt (front : List Token) {back : List Token}
    (h : s.Stands done (front ++ back) i outer depth)
    (hback : done.length ≤ back.length) (t : Token) :
    (s.insertAt back.length t).Stands done (front ++ t :: back) i outer depth := by
  have hlater : s.count - back.length = front.length := by
    rw [h.count, List.length_append, Nat.add_sub_cancel]
  have hlength := congrArg List.length h.tokens
  rw [List.length_append, List.length_append] at hlength
  -- the tokens behind the place are still waiting
  obtain ⟨rest, hwaiting⟩ : ∃ rest, s.waiting = front ++ rest := by
    have hleads : front <+: s.waiting := by
      refine List.prefix_of_prefix_length_le (List.prefix_append front back) ?_
        (by omega)
      rw [← h.tokens]
      exact List.prefix_append _ _
    obtain ⟨rest, hrest⟩ := hleads
    exact ⟨rest, hrest.symm⟩
  have hrest : rest ++ done = back := by
    have htokens := h.tokens
    rw [hwaiting, List.append_assoc] at htokens
    exact List.append_cancel_left htokens
  refine { h with tokens := ?_ }
  simp only [Scan.insertAt, hlater, hwaiting, List.take_left, List.drop_left]
  rw [← hrest]
  simp

/-- **The collections deeper than a column are closed.** -/
theorem unwind (h : s.Stands done found i outer 0) (column : Int) :
    (s.unwind column).Stands done (unwound column found i outer).1
      (unwound column found i outer).2.1 (unwound column found i outer).2.2 0 := by
  have hgo : ∀ {outer : List Int} {s : Scan} {found : List Token} {i : Int},
      s.Stands done found i outer 0 → (unwindWith column s.outer s).Stands done
        (unwound column found i outer).1 (unwound column found i outer).2.1
        (unwound column found i outer).2.2 0 := by
    intro outer
    induction outer with
    | nil =>
      intro s found i h
      rw [h.outer]
      exact h
    | cons j outer ih =>
      intro s found i h
      rw [h.outer, unwindWith, unwound, h.indent]
      split
      · have hnext : ({ s with indent := j, outer } : Scan).Stands done found j outer 0 :=
          { h with indent := rfl, outer := rfl }
        exact ih (hnext.push .blockEnd)
      · exact h
  rw [Scan.unwind, h.inside_eq]
  exact hgo h

end Stands

/-! ### White space -/

/-- Spaces are passed up to a token. -/
theorem passSpaces_passComment {c : Cursor} {n : Nat} {t : Text}
    (hc : c.rest = List.replicate n ' ' ++ t) (ht : Bare t) :
    c.passSpaces.passComment = c.forward n ∧ (c.forward n).lineBreak? = none := by
  obtain ⟨hspace, hbreak, hhash⟩ := ht.startsOff
  have hrest : (c.forward n).rest = t := by
    rw [Cursor.rest_forward, hc, List.drop_left' List.length_replicate]
  have hcomment : atChar '#' t = false := by
    cases t with
    | nil => rfl
    | cons a t => simpa [atChar] using startsOff_cons.mp hhash
  refine ⟨?_, Cursor.lineBreak?_of_startsOff (by rw [hrest]; exact hbreak)⟩
  rw [Cursor.passSpaces_eq hc hspace, Cursor.passComment, hrest, hcomment]
  rfl

/-- **White space is passed up to a token.** -/
theorem passGaps_gap {line : Bool} {n : Nat} {t : Text} (hrest : s.cursor.rest = gap line n ++ t)
    (ht : Bare t) : passGaps (s.cursor.rest.length + 1) s =
      { s with
        cursor := s.cursor.forward (gap line n).length
        keyAllowed := s.keyAllowed || (line && !s.inside) } := by
  have hspaces : ∀ {s : Scan} {fuel : Nat}, s.cursor.rest = List.replicate n ' ' ++ t →
      passGaps (fuel + 1) s = { s with cursor := s.cursor.forward n } := by
    intro s fuel hrest
    obtain ⟨hpass, hline⟩ := passSpaces_passComment hrest ht
    rw [passGaps, hpass]
    simp only [hline]
  cases line with
  | false =>
    rw [hspaces hrest]
    simp [gap]
  | true =>
    have hbreak : s.cursor.rest = '\n' :: (List.replicate n ' ' ++ t) := hrest
    have hpass : s.cursor.passSpaces.passComment = s.cursor := by
      rw [Cursor.passSpaces_eq (n := 0) hbreak (startsOff_cons.mpr (by decide)),
        Cursor.forward_zero, Cursor.passComment, hbreak]
      rfl
    have hstep : s.cursor.step.rest = List.replicate n ' ' ++ t := by
      rw [Cursor.rest_step, hbreak]
      rfl
    rw [passGaps, hpass]
    simp only [Cursor.lineBreak?_of_isBreak hbreak rfl]
    rw [hbreak, List.length_cons, hspaces hstep]
    simp [gap, Cursor.forward_succ]

/-! ### Starts of keys -/

/-- A condition on the starts of keys that no text up to a place breaks: none of those that must be
followed by a colon is forgotten there. -/
def Lasts (P : List (Option KeyStart) → Prop) (c : Cursor) : Prop :=
  ∀ keys, P keys → (∀ k ∈ keys, ∀ start ∈ k, isFresh c start = false → start.required = false) ∧
    P (keys.map (fun k => k.filter (isFresh c)))

variable {P : List (Option KeyStart) → Prop}

theorem lasts_lax (c : Cursor) :
    Lasts (fun keys => ∀ k ∈ keys, ∀ start ∈ k, start.required = false) c := by
  intro keys h
  refine ⟨fun k hk start hstart _ => h k hk start hstart, ?_⟩
  simp only [List.mem_map, forall_exists_index, and_imp, forall_apply_eq_imp_iff₂]
  intro k hk start hstart
  exact h k hk start (Option.mem_filter_iff.mp hstart).1

/-- A start on the same line, not too far back, is not forgotten. -/
theorem lasts_fresh {c : Cursor} {start : KeyStart} (h : isFresh c start = true) :
    Lasts (· = [some start]) c := by
  rintro keys rfl
  simp [h]

/-- Starts that are too far back are forgotten. -/
theorem Stands.dropStale (h : s.Stands done found i outer depth) (hP : P s.keys)
    (hlasts : Lasts P s.cursor) : ∃ keys, s.dropStale = .ok { s with keys } ∧ P keys ∧
      ({ s with keys } : Scan).Stands done found i outer depth := by
  obtain ⟨hnot, hkeys⟩ := hlasts s.keys hP
  have hany : s.keys.any (fun k => k.any (fun k => !isFresh s.cursor k && k.required)) = false := by
    simp only [List.any_eq_false, Option.any_eq_true, not_exists, Bool.and_eq_true, not_and,
      Bool.not_eq_true, Bool.not_eq_true']
    intro k hk start hstart hstale
    exact hnot k hk start hstart hstale
  refine ⟨_, ?_, hkeys, { h with held := ?_, depth := ?_ }⟩
  · rw [Scan.dropStale]
    simp only [hany, Bool.not_not, Bool.false_eq_true, if_false]
  · simp only [List.mem_map, forall_exists_index, and_imp, forall_apply_eq_imp_iff₂]
    intro k hk start hstart
    exact h.held k hk start (Option.mem_filter_iff.mp hstart).1
  · rw [List.length_map]
    exact h.depth

theorem Lax.of_keys {s' : Scan} (h : s.Lax) (hkeys : s'.keys = s.keys) : s'.Lax := by
  rw [Lax, hkeys]
  exact h

/-- No colon is missing behind the start of a key. -/
theorem Lax.dropKey (h : s.Lax) : s.dropKey = .ok (s.setKey none) := by
  have hcurrent : s.currentKey.any (·.required) = false := by
    rw [currentKey]
    cases hkeys : s.keys with
    | nil => rfl
    | cons k keys =>
      have hk : k ∈ s.keys := by
        rw [hkeys]
        exact List.mem_cons_self
      cases k with
      | none => rfl
      | some start => exact h (some start) hk start rfl
  rw [Scan.dropKey, hcurrent]
  rfl

/-! ### Turns -/

theorem foldl_le {α : Type} {f : Nat → Option α → Nat} {g : α → Nat}
    (hf : ∀ n k, f n k ≤ n ∧ ∀ a ∈ k, f n k ≤ g a) : ∀ {ks : List (Option α)} {n : Nat},
    ks.foldl f n ≤ n ∧ ∀ k ∈ ks, ∀ a ∈ k, ks.foldl f n ≤ g a := by
  intro ks
  induction ks with
  | nil => exact fun {n} => ⟨Nat.le_refl n, nofun⟩
  | cons k ks ih =>
    intro n
    obtain ⟨hle, hkey⟩ := hf n k
    obtain ⟨hle', hkeys⟩ := ih (n := f n k)
    refine ⟨Nat.le_trans hle' hle, List.forall_mem_cons.mpr ⟨fun a ha => ?_, hkeys⟩⟩
    exact Nat.le_trans hle' (hkey a ha)

/-- Tokens are handed over, but none behind the start of a key. -/
theorem Stands.handOver (h : s.Stands done found i outer depth) : ∃ ready, ∃ s' : Scan,
    s.handOver = (ready, s') ∧ s'.Stands (ready ++ done) found i outer depth ∧
      s'.cursor = s.cursor ∧ s'.keyAllowed = s.keyAllowed ∧ s'.keys = s.keys := by
  obtain ⟨ready, ⟨hle, hkeys⟩, hout⟩ : ∃ ready, (ready ≤ s.waiting.length ∧
      ∀ k ∈ s.keys, ∀ start ∈ k, ready ≤ start.position - s.handed) ∧
      s.handOver = (s.waiting.drop (s.waiting.length - ready), { s with
        handed := s.handed + ready
        waiting := s.waiting.take (s.waiting.length - ready) }) := by
    refine ⟨_, foldl_le (fun n k => ?_), rfl⟩
    cases k with
    | none => exact ⟨Nat.le_refl n, nofun⟩
    | some k =>
      refine ⟨Nat.min_le_left _ _, ?_⟩
      rintro start ⟨⟩
      exact Nat.min_le_right _ _
  have hlength : (s.waiting.drop (s.waiting.length - ready) ++ done).length =
      done.length + ready := by
    rw [List.length_append, List.length_drop]
    omega
  refine ⟨_, _, hout, { h with tokens := ?_, handed := ?_, held := ?_ }, rfl, rfl, rfl⟩
  · rw [← List.append_assoc, List.take_append_drop]
    exact h.tokens
  · rw [hlength, h.handed]
  · intro k hk start hstart
    have hheld := h.held k hk start hstart
    have hready := hkeys k hk start hstart
    rw [h.handed] at hready
    omega

/-- What comes before a token is passed. -/
theorem Stands.prepare {line : Bool} {n : Nat} {t : Text}
    (h : s.Stands done found i outer depth) (hP : P s.keys)
    (hlasts : Lasts P (s.cursor.forward (gap line n).length))
    (hrest : s.cursor.rest = gap line n ++ t) (ht : Bare t) :
    ∃ s' : Scan, s.prepare = .ok (s'.unwind s'.cursor.column) ∧
      s'.Stands done found i outer depth ∧ P s'.keys ∧
      s'.cursor = s.cursor.forward (gap line n).length ∧
      s'.keyAllowed = (s.keyAllowed || (line && depth == 0)) := by
  have hpassed := passGaps_gap hrest ht
  have hnext := h.move (s.cursor.forward (gap line n).length) (s.keyAllowed || (line && !s.inside))
  obtain ⟨keys, hdrop, hkeys, hstands⟩ := hnext.dropStale hP hlasts
  refine ⟨_, ?_, hstands, hkeys, rfl, ?_⟩
  · rw [Scan.prepare, hpassed, hdrop]
  · rw [h.inside_eq]
    cases depth <;> simp

/-- **One turn of a scan**: what comes before the next token is passed, and the token is taken
up. -/
theorem yields_of_turn (line : Bool) (n : Nat) {a : Char} {t : Text}
    (h : s.Stands done found i outer depth) (hP : P s.keys) (hlasts : Lasts P s.cursor)
    (hlasts' : Lasts P (s.cursor.forward (gap line n).length))
    (hrest : s.cursor.rest = gap line n ++ a :: t) (ha : isGap a = false) (ha' : a ≠ '#')
    (hnext : ∀ (s' : Scan) (done' : List Token), s'.Stands done' found i outer depth →
      P s'.keys → s'.cursor = s.cursor.forward (gap line n).length →
      s'.keyAllowed = (s.keyAllowed || (line && depth == 0)) →
      ∃ s'' : Scan, (s'.unwind s'.cursor.column).token a t = .ok s'' ∧ s''.cursor.broken = none ∧
        s''.cursor.rest.length ≤ t.length ∧ s''.Yields done' ts) : s.Yields done ts := by
  intro fuel hfuel
  obtain ⟨fuel, rfl⟩ : ∃ f, fuel = f + 1 := ⟨fuel - 1, by omega⟩
  have hbare : Bare (a :: t) := startsOff_cons.mpr (by simp [ha, ha'])
  obtain ⟨keys, hdrop, hkeys, hstands⟩ := h.dropStale hP hlasts
  obtain ⟨ready, s₁, hhand, hstands₁, hcursor₁, hallowed₁, hkeys₁⟩ := hstands.handOver
  have hrest₁ : s₁.cursor.rest = gap line n ++ a :: t := by rw [hcursor₁]; exact hrest
  have hP₁ : P s₁.keys := by rw [hkeys₁]; exact hkeys
  have hlasts₁ : Lasts P (s₁.cursor.forward (gap line n).length) := by rw [hcursor₁]; exact hlasts'
  obtain ⟨s₂, hprepare, hstands₂, hP₂, hcursor₂, hallowed₂⟩ :=
    hstands₁.prepare hP₁ hlasts₁ hrest₁ hbare
  rw [hcursor₁] at hcursor₂
  rw [hallowed₁] at hallowed₂
  obtain ⟨s₃, htoken, hbroken, hshorter, hyields⟩ := hnext s₂ _ hstands₂ hP₂ hcursor₂ hallowed₂
  have hat : (s₂.unwind s₂.cursor.column).cursor.rest = a :: t := by
    rw [(unwind_frame s₂ s₂.cursor.column).1, hcursor₂, Cursor.rest_forward, hrest, List.drop_left]
  have hfuel' : s₃.cursor.rest.length < fuel := by
    rw [hrest, List.length_append, List.length_cons] at hfuel
    omega
  have hgoes : s₁.next = .ok (s₃, false) := by
    rw [next, hprepare]
    simp only [bind, Except.bind, hat, htoken, Cursor.broken?, hbroken, ite_self]
    rfl
  rw [run, hdrop]
  simp only [hhand, hgoes]
  exact hyields fuel hfuel'

/-- **The last turn of a scan** closes all collections. -/
theorem yields_of_end {line : Bool} {n : Nat} (h : s.Stands done found i outer 0) (hlax : s.Lax)
    (hrest : s.cursor.rest = gap line n) (hbroken : s.cursor.broken = none)
    {found' found'' : List Token} {i' i'' : Int} {outer' outer'' : List Int}
    (hclosed : unwound (s.cursor.forward (gap line n).length).column found i outer =
      (found', i', outer'))
    (hclosed' : unwound (-1) found' i' outer' = (found'', i'', outer'')) :
    s.Yields done found''.reverse := by
  intro fuel hfuel
  obtain ⟨fuel, rfl⟩ : ∃ f, fuel = f + 1 := ⟨fuel - 1, by omega⟩
  obtain ⟨keys, hdrop, hkeys, hstands⟩ := h.dropStale hlax (lasts_lax _)
  obtain ⟨ready, s₁, hhand, hstands₁, hcursor₁, hallowed₁, hkeys₁⟩ := hstands.handOver
  have hrest₁ : s₁.cursor.rest = gap line n ++ [] := by
    rw [hcursor₁, List.append_nil]
    exact hrest
  have hlax₁ : s₁.Lax := by
    rw [Lax, hkeys₁]
    exact hkeys
  obtain ⟨s₂, hprepare, hstands₂, hlax₂, hcursor₂, hallowed₂⟩ :=
    hstands₁.prepare hlax₁ (lasts_lax _) hrest₁ nofun
  rw [hcursor₁] at hcursor₂
  have hstands₃ := hstands₂.unwind s₂.cursor.column
  obtain ⟨hcursor₃, -, hkeys₃⟩ := unwind_frame s₂ s₂.cursor.column
  generalize s₂.unwind s₂.cursor.column = s₃ at hprepare hstands₃ hcursor₃ hkeys₃
  rw [hcursor₂, hclosed] at hstands₃
  -- at the end all collections are closed, whatever their indentation
  have hstands₄ := hstands₃.unwind (-1)
  rw [hclosed'] at hstands₄
  obtain ⟨-, -, hkeys₄⟩ := unwind_frame s₃ (-1)
  have hclose : ∃ s₄, s₃.closeAll = .ok s₄ ∧ s₄.waiting = (s₃.unwind (-1)).waiting := by
    have hlax₄ : (s₃.unwind (-1)).Lax := Lax.of_keys hlax₂ (hkeys₄.trans hkeys₃)
    rw [closeAll, hlax₄.dropKey]
    exact ⟨_, rfl, rfl⟩
  obtain ⟨s₄, hcloseAll, hwaiting⟩ := hclose
  have hnil : s₃.cursor.rest = [] := by
    rw [hcursor₃, hcursor₂, Cursor.rest_forward, hrest, List.drop_length]
  have hbroken₃ : s₃.cursor.broken = none := by
    rw [hcursor₃, hcursor₂, Cursor.broken_forward, hbroken]
  have hends : s₁.next = .ok (s₄, true) := by
    rw [next, hprepare]
    simp only [bind, Except.bind, hnil, hbroken₃, hcloseAll]
    rfl
  rw [run, hdrop]
  simp only [hhand, hends, if_true]
  rw [hwaiting, hstands₄.tokens]

end Scan

end PackageCatalog.Yaml
