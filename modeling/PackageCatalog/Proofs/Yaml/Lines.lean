import PackageCatalog.Proofs.Yaml.Plain
import PackageCatalog.Proofs.Yaml.Scan

/-!
# The tokens of a line

A line of a block mapping is a key, a colon, and a text or an empty list; or the value stands on the
lines below.  A line of a block list starts with a hyphen.  Each is cut into its tokens, and the
scan stands before the next line.

## Main definitions

* `Yaml.readBack`, `Yaml.Token.ofText` — what comes back of a text, and its token.
* `Yaml.IsKey`, `Yaml.LineStart` — keys, and how a line may start.
* `Yaml.Scan.Begins` — a scan before a token that may be a key.
* `Yaml.Scan.Leads` — what comes of every scan that begins with a text.

## Main results

* `Yaml.Scan.Begins.key` — **a key and its colon.**
* `Yaml.Scan.Stands.scalar` — **a text in any spelling, up to the next line.**
* `Yaml.Scan.Stands.brackets` — an empty list.
* `Yaml.Scan.Begins.item` — the hyphen before an item.
-/

namespace PackageCatalog.Yaml

variable {a : Char}

/-! ### Texts and keys -/

/-- What comes back of a text. -/
def readBack (t : Text) : Text := if Style.ofText t = .single then refold false t else t

/-- The token of a text. -/
def Token.ofText (t : Text) : Token :=
  .scalar (NativeName.ofText (readBack t)) (Style.ofText t == .plain)

/-- The characters of the keys of a configuration. -/
def isKeyChar (c : Char) : Bool := ('a' ≤ c && c ≤ 'z') || c == '_'

/-- A key that is written plain. -/
def IsKey (w : Text) : Prop := w ≠ [] ∧ w.all isKeyChar = true ∧ w.length ≤ keyLimit

instance (w : Text) : Decidable (IsKey w) := inferInstanceAs (Decidable (_ ∧ _ ∧ _))

theorem isKeyChar_ne {b : Char} (ha : isKeyChar a = true) (hb : isKeyChar b = false) : a ≠ b := by
  rintro rfl
  rw [ha] at hb
  cases hb

theorem isGap_of_isKeyChar (ha : isKeyChar a = true) : isGap a = false := by
  have hne : ∀ b, isKeyChar b = false → a ≠ b := fun b => isKeyChar_ne ha
  simp [isGap, isBreak, hne ' ' (by decide), hne '\t' (by decide), hne '\n' (by decide),
    hne '\u0085' (by decide), hne '\u2028' (by decide), hne '\u2029' (by decide)]

namespace IsKey

variable {w : Text}

theorem word (hw : IsKey w) (a : Char) (ha : a ∈ w) : isGap a = false ∧ a ≠ ':' :=
  have hkey := List.all_eq_true.mp hw.2.1 a ha
  ⟨isGap_of_isKeyChar hkey, isKeyChar_ne hkey (by decide)⟩

theorem line (hw : IsKey w) (a : Char) (ha : a ∈ w) : isBreak a = false ∧ a ≠ '\uFEFF' := by
  have hgap := (hw.word a ha).1
  rw [isGap, Bool.or_eq_false_iff] at hgap
  exact ⟨hgap.2, isKeyChar_ne (List.all_eq_true.mp hw.2.1 a ha) (by decide)⟩

theorem head?_ne_hash (hw : IsKey w) : w.head? ≠ some '#' := by
  intro hhash
  exact isKeyChar_ne (List.all_eq_true.mp hw.2.1 _ (List.mem_of_mem_head? hhash)) (by decide) rfl

end IsKey

/-! ### Starts of lines -/

/-- A line that starts with `m` spaces and then `t`: nothing is passed over before `t`, and the line
is no document mark. -/
def LineStart (m : Nat) (t : Text) : Prop :=
  Bare t ∧ ∀ c : Cursor, c.rest = List.replicate m ' ' ++ t → c.atAnyMark = false

theorem lineStart_of_key {m : Nat} {w t : Text} (hw : IsKey w) : LineStart m (w ++ t) := by
  obtain ⟨hne, hall, -⟩ := hw
  obtain ⟨a, w, rfl⟩ := List.exists_cons_of_ne_nil hne
  have ha : isKeyChar a = true := List.all_eq_true.mp hall a List.mem_cons_self
  refine ⟨startsOff_cons.mpr ?_, fun c hc => ?_⟩
  · rw [isGap_of_isKeyChar ha]
    simpa using isKeyChar_ne ha (by decide)
  · cases m with
    | zero =>
      exact Cursor.atAnyMark_eq_false hc (isKeyChar_ne ha (by decide))
        (isKeyChar_ne ha (by decide))
    | succ m => exact Cursor.atAnyMark_eq_false hc (by decide) (by decide)

theorem lineStart_of_item {m : Nat} {t : Text} : LineStart m ('-' :: ' ' :: t) := by
  refine ⟨startsOff_cons.mpr (by decide), fun c hc => ?_⟩
  cases m with
  | zero =>
    rw [Cursor.atAnyMark, Cursor.atMark, Cursor.atMark, hc]
    rfl
  | succ m => exact Cursor.atAnyMark_eq_false hc (by decide) (by decide)

theorem lineStart_nil : LineStart 0 [] := by
  refine ⟨nofun, fun c hc => ?_⟩
  rw [Cursor.atAnyMark, Cursor.atMark, Cursor.atMark, hc]
  rfl

/-- The innermost collection once one opens at a column, unless one is there. -/
def entered (column : Int) (found : List Token) (i : Int) (outer : List Int) :
    List Token × Int × List Int :=
  if i < column then (.blockMapping :: found, column, i :: outer) else (found, i, outer)

namespace Scan

variable {s : Scan} {done found found' ts : List Token} {i i' : Int} {outer outer' : List Int}
  {depth column m indent : Nat} {t u w value : Text}

/-- A scan before the token that `t` starts with at a column, which may be a key: the tokens found
(latest first) and the collections it is in, once those that end there are closed. -/
def Begins (s : Scan) (done found : List Token) (i : Int) (outer : List Int) (column : Nat)
    (t : Text) : Prop :=
  ∃ line n found₀ i₀ outer₀, s.Stands done found₀ i₀ outer₀ 0 ∧ s.Lax ∧ s.cursor.broken = none ∧
    s.cursor.rest = gap line n ++ t ∧ (s.cursor.forward (gap line n).length).column = column ∧
    (s.keyAllowed || line) = true ∧ unwound column found₀ i₀ outer₀ = (found, i, outer)

/-- From every scan that begins with a text, all tokens are these. -/
def Leads (found : List Token) (i : Int) (outer : List Int) (column : Nat) (t : Text)
    (ts : List Token) : Prop :=
  ∀ (s : Scan) (done : List Token), s.Begins done found i outer column t → s.Yields done ts

/-- A turn that takes up a token which may be a key. -/
theorem Begins.turn (h : s.Begins done found i outer column (a :: t)) (ha : isGap a = false)
    (ha' : a ≠ '#')
    (hnext : ∀ (s' : Scan) (done' : List Token), s'.Stands done' found i outer 0 → s'.Lax →
      s'.keyAllowed = true → s'.cursor.rest = a :: t → s'.cursor.column = column →
      s'.cursor.broken = none → ∃ s'' : Scan, s'.token a t = .ok s'' ∧ s''.cursor.broken = none ∧
        s''.cursor.rest.length ≤ t.length ∧ s''.Yields done' ts) : s.Yields done ts := by
  obtain ⟨line, n, found₀, i₀, outer₀, hstands, hlax, hbroken, hrest, hcolumn, hallowed,
      hclosed⟩ := h
  refine yields_of_turn line n hstands hlax (lasts_lax _) (lasts_lax _) hrest ha ha' ?_
  intro s' done' hstands' hlax' hcursor' hallowed'
  obtain ⟨hcursor, hkeyAllowed, hkeys⟩ := unwind_frame s' s'.cursor.column
  have hunwound := hstands'.unwind s'.cursor.column
  rw [hcursor', hcolumn, hclosed] at hunwound
  rw [hcursor', hcolumn] at hcursor hkeyAllowed hkeys ⊢
  refine hnext _ done' hunwound (Lax.of_keys hlax' hkeys) ?_ ?_ ?_ ?_
  · rw [hkeyAllowed, hallowed']
    simpa using hallowed
  · rw [hcursor, Cursor.rest_forward, hrest, List.drop_left]
  · rw [hcursor, hcolumn]
  · rw [hcursor, Cursor.broken_forward, hbroken]

/-! ### Starts of keys -/

theorem Stands.length_le (h : s.Stands done found i outer depth) : done.length ≤ found.length := by
  rw [← h.tokens, List.length_append]
  exact Nat.le_add_left _ _

/-- Another start of a key, which is not among the tokens handed over. -/
theorem Stands.setKey {k : Option KeyStart} (h : s.Stands done found i outer depth)
    (hk : ∀ start ∈ k, done.length ≤ start.position) :
    (s.setKey k).Stands done found i outer depth := by
  have hdepth := h.depth
  refine { h with held := List.forall_mem_cons.mpr ⟨hk, fun k hk => ?_⟩, depth := ?_ }
  · exact h.held k (List.mem_of_mem_tail hk)
  · rw [Scan.setKey, List.length_cons, List.length_tail, hdepth, Nat.add_sub_cancel]

theorem Stands.keys_setKey {k : Option KeyStart} (h : s.Stands done found i outer 0) :
    (s.setKey k).keys = [k] := by
  obtain ⟨k', hk⟩ := List.length_eq_one_iff.mp h.depth
  rw [Scan.setKey, hk]
  rfl

/-- Where a key may start, its start is kept in mind. -/
theorem Stands.saveKey (h : s.Stands done found i outer 0) (hlax : s.Lax)
    (hallowed : s.keyAllowed = true) : ∃ start : KeyStart,
      s.saveKey = .ok (s.setKey (some start)) ∧ start.position = found.length ∧
      start.index = s.cursor.index ∧ start.line = s.cursor.line ∧
      start.column = s.cursor.column ∧ start.required = (i == s.cursor.column) := by
  have hnone := h.setKey (k := none) (fun _ h => by cases h)
  refine ⟨⟨(s.setKey none).count, !(s.setKey none).inside && s.indent == s.cursor.column,
    s.cursor.index, s.cursor.line, s.cursor.column⟩, ?_, hnone.count, rfl, rfl, rfl, ?_⟩
  · rw [Scan.saveKey, if_pos hallowed, hlax.dropKey]
    rfl
  · rw [hnone.inside_eq, h.indent]
    rfl

/-- A key that starts deeper than the innermost collection need not be one. -/
theorem Stands.saveKey_lax (h : s.Stands done found i outer 0) (hlax : s.Lax)
    (hcolumn : i < s.cursor.column) : ∃ s' : Scan, s.saveKey = .ok s' ∧
      s'.Stands done found i outer 0 ∧ s'.Lax ∧ s'.cursor = s.cursor := by
  by_cases hallowed : s.keyAllowed = true
  · obtain ⟨start, hsave, hposition, -, -, -, hrequired⟩ := h.saveKey hlax hallowed
    refine ⟨_, hsave, h.setKey ?_, List.forall_mem_cons.mpr ⟨?_, fun k hk => ?_⟩, rfl⟩
    · rintro _ ⟨⟩
      rw [hposition]
      exact h.length_le
    · rintro _ ⟨⟩
      rw [hrequired]
      simpa using Int.ne_of_lt hcolumn
    · exact hlax k (List.mem_of_mem_tail hk)
  · refine ⟨s, ?_, h, hlax, rfl⟩
    rw [Scan.saveKey, if_neg hallowed]

/-! ### Plain tokens -/

/-- A scalar that starts with no indicator is plain. -/
theorem token_eq_plain (hinside : s.inside = false) (hrest : s.cursor.rest = a :: t)
    (hstart : s.cursor.column ≠ 0 ∨ a ≠ '-' ∧ a ≠ '.') (hgap : isGap a = false)
    (hfirst : "#,[]\x7b\x7d&*!|>'\"%@\x60".toList.any (· == a) = false)
    (hmark : ((a == '?' || a == ':' || a == '-') && atGap t) = false) :
    s.token a t = s.plain := by
  -- no document mark stands here, and no indicator that would start another token
  have hmarks : (s.cursor.column == 0 && s.cursor.atMark "---") = false ∧
      (s.cursor.column == 0 && s.cursor.atMark "...") = false := by
    rcases hstart with hcolumn | ⟨hdash, hdot⟩
    · have hcolumn : (s.cursor.column == 0) = false := by simpa using hcolumn
      rw [hcolumn]
      exact ⟨rfl, rfl⟩
    · have hnone := Cursor.atAnyMark_eq_false hrest hdash hdot
      rw [Cursor.atAnyMark, Bool.or_eq_false_iff] at hnone
      rw [hnone.1, hnone.2, Bool.and_false]
      exact ⟨rfl, rfl⟩
  have hne : ∀ b, "#,[]\x7b\x7d&*!|>'\"%@\x60".toList.any (· == b) = true → a ≠ b := by
    rintro b hb rfl
    rw [hfirst] at hb
    cases hb
  have hsplit := Bool.and_eq_false_iff.mp hmark
  simp only [Bool.or_eq_false_iff] at hsplit
  obtain ⟨hdash, hquestion, hcolon⟩ : (a == '-' && atGap t) = false ∧
      (a == '?' && atGap t) = false ∧ (a == ':' && atGap t) = false := by
    rcases hsplit with h | h
    · simp [h]
    · simp [h]
  have hplain : startsPlain false (a :: t) = true := by
    rw [startsPlain]
    by_cases hspecial : a = '-' ∨ a = '?' ∨ a = ':'
    · have hword : atGap t = false := by
        rcases hsplit with h | h
        · rcases hspecial with rfl | rfl | rfl <;> simp at h
        · exact h
      rcases hspecial with rfl | rfl | rfl <;> simp [hword]
    · have hnone : "-?:,[]\x7b\x7d#&*!|>'\"%@\x60".toList.any (· == a) = false := by
        simp only [not_or, eq_comm (a := a)] at hspecial
        simpa [hspecial, and_assoc, and_left_comm, and_comm] using hfirst
      rw [hgap, hnone]
      rfl
  rw [token]
  simp [hmarks, hne '%' (by decide), hne '[' (by decide), hne ']' (by decide),
    hne '\x7b' (by decide),
    hne '\x7d' (by decide), hne ',' (by decide), hne '*' (by decide), hne '&' (by decide),
    hne '!' (by decide), hne '|' (by decide), hne '>' (by decide), hne '\'' (by decide),
    hne '"' (by decide), hdash, hquestion, hcolon, hinside, hplain]

/-! ### Keys -/

/-- A colon turns what was found since the start of a key into the key. -/
theorem Stands.colon_eq {start : KeyStart} {tok : Token}
    (h : s.Stands done (tok :: found) i outer 0) (hkeys : s.keys = [some start])
    (hposition : start.position = found.length)
    (hentered : entered start.column found i outer = (found', i', outer')) :
    ∃ s' : Scan, s.colon = .ok s' ∧
      s'.Stands done (.value :: tok :: .key :: found') i' outer' 0 ∧ s'.Lax ∧
      s'.keyAllowed = false ∧ s'.cursor = s.cursor.step := by
  have hdone : done.length ≤ found.length := by
    rw [← hposition]
    exact h.held (some start) (by rw [hkeys]; exact List.mem_singleton_self _) start rfl
  have hcurrent : s.currentKey = some start := by
    rw [currentKey, hkeys]
    rfl
  have hnone := (h.setKey (k := none) (fun _ h => by cases h)).insertAt [tok] hdone .key
  have hlax : ((s.setKey none).insertAt found.length .key).Lax := by
    have hkeys' : ((s.setKey none).insertAt found.length .key).keys = [none] := by
      rw [Scan.insertAt, Scan.setKey, hkeys]
      rfl
    intro k hk
    rw [hkeys', List.mem_singleton] at hk
    rw [hk]
    exact fun _ h => by cases h
  have hcursor : ((s.setKey none).insertAt found.length .key).cursor = s.cursor := rfl
  simp only [Scan.colon, hcurrent, hposition]
  generalize (s.setKey none).insertAt found.length .key = s₁ at hnone hlax hcursor ⊢
  rw [hnone.inside_eq, opensAt, hnone.indent]
  rw [entered] at hentered
  -- the mapping opens here, or it is already open
  split at hentered
  · next hopen =>
    cases hentered
    have hopened : (s₁.openAt start.column).Stands done ([tok, .key] ++ found) start.column
        (i :: outer) 0 :=
      { hnone with indent := rfl, outer := by rw [← hnone.indent, ← hnone.outer]; rfl }
    have hinserted := hopened.insertAt [tok, .key] hdone .blockMapping
    rw [if_pos (by simpa using hopen)]
    exact ⟨_, rfl, (hinserted.move _ false).push .value, hlax, rfl, congrArg Cursor.step hcursor⟩
  · next hopen =>
    cases hentered
    rw [if_neg (by simpa using hopen)]
    exact ⟨_, rfl, (hnone.move _ false).push .value, hlax, rfl, congrArg Cursor.step hcursor⟩

/-- The colon behind the start of a key. -/
theorem Stands.colon {start : KeyStart} {tok : Token}
    (h : s.Stands done (tok :: found) i outer 0) (hkeys : s.keys = [some start])
    (hposition : start.position = found.length) (hfresh : isFresh s.cursor start = true)
    (hcolumn : start.column < s.cursor.column) (hi : i ≤ start.column)
    (hrest : s.cursor.rest = ':' :: t) (hbroken : s.cursor.broken = none) (ht : atGap t = true)
    (hentered : entered start.column found i outer = (found', i', outer'))
    (hnext : ∀ (s' : Scan) (done' : List Token),
      s'.Stands done' (.value :: tok :: .key :: found') i' outer' 0 → s'.Lax →
      s'.keyAllowed = false → s'.cursor = s.cursor.step → s'.Yields done' ts) :
    s.Yields done ts := by
  have hlasts := lasts_fresh hfresh
  refine yields_of_turn false 0 h hkeys hlasts hlasts hrest (by decide) (by decide) ?_
  intro s₁ done₁ hstands₁ hkeys₁ hcursor₁ _
  obtain ⟨hcursor₂, -, hkeys₂⟩ := unwind_frame s₁ s₁.cursor.column
  have hstands₂ := hstands₁.unwind s₁.cursor.column
  -- the key began within the block, so that the colon behind it closes no block
  rw [unwound_of_le (by rw [hcursor₁]; simp [gap]; omega)] at hstands₂
  generalize s₁.unwind s₁.cursor.column = s₂ at hcursor₂ hkeys₂ hstands₂
  replace hcursor₂ : s₂.cursor = s.cursor := hcursor₂.trans hcursor₁
  replace hkeys₂ : s₂.keys = [some start] := hkeys₂.trans hkeys₁
  -- the column is not zero, so that no mark of a document is looked for
  have htoken : s₂.token ':' t = s₂.colon := by
    have hstart : (s₂.cursor.column == 0) = false := by
      rw [hcursor₂]
      simp
      omega
    rw [token, hstart, ht]
    simp
  obtain ⟨s₃, hcolon, hstands₃, hlax₃, hallowed₃, hcursor₃⟩ :=
    hstands₂.colon_eq hkeys₂ hposition hentered
  rw [hcursor₂] at hcursor₃
  refine ⟨s₃, htoken.trans hcolon, ?_, ?_, hnext s₃ done₁ hstands₃ hlax₃ hallowed₃ hcursor₃⟩
  · rw [hcursor₃, Cursor.broken_step, hbroken]
  · rw [hcursor₃, Cursor.rest_step, hrest, List.tail_cons]

/-- A plain scalar that starts a key is taken for a plain scalar at first. -/
theorem token_key (ha : isKeyChar a = true) (hinside : s.inside = false)
    (hrest : s.cursor.rest = a :: t) : s.token a t = s.plain := by
  have hnone : ∀ b ∈ "#,[]\x7b\x7d&*!|>'\"%@\x60".toList, isKeyChar b = false := by
    simp [isKeyChar]
  refine token_eq_plain hinside hrest (Or.inr ⟨isKeyChar_ne ha (by decide),
    isKeyChar_ne ha (by decide)⟩) (isGap_of_isKeyChar ha) ?_ ?_
  · rw [List.any_eq_false]
    intro b hb heq
    exact isKeyChar_ne ha (hnone b hb) (by simpa using Eq.symm (by simpa using heq))
  · simp [isKeyChar_ne ha (show isKeyChar '?' = false by decide),
      isKeyChar_ne ha (show isKeyChar ':' = false by decide),
      isKeyChar_ne ha (show isKeyChar '-' = false by decide)]

/-- A plain scalar is read behind what is kept in mind of its start. -/
theorem Stands.plain_eq_of_saved {s₁ : Scan} {broken : Bool} {c : Cursor}
    (hsave : s.saveKey = .ok s₁)
    (h : s₁.Stands done found i outer 0) (hcursor : s₁.cursor = s.cursor)
    (hscan : scanPlain false i s.cursor = ((value, broken), c)) :
    s.plain = .ok (({ s₁ with cursor := c, keyAllowed := broken } : Scan).push
      (.scalar (NativeName.ofText value) true)) := by
  rw [plain, hsave]
  simp only [h.inside_eq, h.indent, hcursor, Nat.lt_irrefl, decide_false, hscan]

/-- **A key and its colon.**  The mapping opens at the key if it is deeper than the collection
around. -/
theorem Begins.key (h : s.Begins done found i outer column (w ++ ':' :: t)) (hw : IsKey w)
    (ht : atGap t = true) (hi : i ≤ column)
    (hentered : entered column found i outer = (found', i', outer'))
    (hnext : ∀ (s' : Scan) (done' : List Token), s'.Stands done'
        (.value :: .scalar (NativeName.ofText w) true :: .key :: found') i' outer' 0 → s'.Lax →
      s'.keyAllowed = false → s'.cursor.rest = t → s'.cursor.column = column + w.length + 1 →
      s'.cursor.broken = none → s'.Yields done' ts) : s.Yields done ts := by
  obtain ⟨a, v, rfl⟩ := List.exists_cons_of_ne_nil hw.1
  have ha : isKeyChar a = true := List.all_eq_true.mp hw.2.1 a List.mem_cons_self
  refine h.turn (isGap_of_isKeyChar ha) (isKeyChar_ne ha (by decide)) ?_
  intro s₁ done₁ hstands₁ hlax₁ hallowed₁ hrest₁ hcolumn₁ hbroken₁
  obtain ⟨start, hsave, hposition, hindex, hline, hstart, -⟩ := hstands₁.saveKey hlax₁ hallowed₁
  have hkeep : (s₁.setKey (some start)).Stands done₁ found i outer 0 := by
    refine hstands₁.setKey ?_
    rintro _ ⟨⟩
    rw [hposition]
    exact hstands₁.length_le
  -- the key is read as a plain scalar, which ends at the colon
  have hplace := Cursor.forward_of_line hrest₁ hw.line
  have hscan := scanPlain_name i hw.1 hw.head?_ne_hash hw.word ht hrest₁
  have hplain := hkeep.plain_eq_of_saved hsave rfl hscan
  have hstands₂ := (hkeep.move (s₁.cursor.forward (a :: v).length) false).push
    (.scalar (NativeName.ofText (a :: v)) true)
  have hrest₂ : (s₁.cursor.forward (a :: v).length).rest = ':' :: t := by rw [hplace]
  refine ⟨_, (token_key ha hstands₁.inside_eq hrest₁).trans hplain, ?_, ?_, ?_⟩
  · exact (Cursor.broken_forward _ _).trans hbroken₁
  · show (s₁.cursor.forward (a :: v).length).rest.length ≤ (v ++ ':' :: t).length
    rw [hrest₂, List.length_append]
    exact Nat.le_add_left _ _
  · -- at the colon the key is still in mind, because it is short and on the same line
    have hfresh : isFresh (s₁.cursor.forward (a :: v).length) start = true := by
      rw [hplace, isFresh, hline, hindex]
      simpa using hw.2.2
    have hentered₂ : entered start.column found i outer = (found', i', outer') := by
      rw [hstart, hcolumn₁]
      exact hentered
    refine hstands₂.colon hstands₁.keys_setKey hposition hfresh ?_ ?_ hrest₂ ?_ ht hentered₂ ?_
    · rw [hstart]
      show _ < (s₁.cursor.forward (a :: v).length).column
      rw [hplace]
      simp
    · rw [hstart, hcolumn₁]
      exact hi
    · exact (Cursor.broken_forward _ _).trans hbroken₁
    · intro s₃ done₃ hstands₃ hlax₃ hallowed₃ hcursor₃
      have hstep := Cursor.step_of_line hrest₂ (by decide) (by decide)
      have hcursor₃ : s₃.cursor = (s₁.cursor.forward (a :: v).length).step := hcursor₃
      refine hnext s₃ done₃ hstands₃ hlax₃ hallowed₃ ?_ ?_ ?_
      · rw [hcursor₃, hstep]
      · rw [hcursor₃, hstep, hplace, hcolumn₁]
      · rw [hcursor₃, Cursor.broken_step, Cursor.broken_forward, hbroken₁]

/-! ### Values -/

/-- A scan before the next line. -/
theorem Begins.of_newLine (h : s.Stands done found i outer 0) (hlax : s.Lax)
    (hbroken : s.cursor.broken = none) (hrest : s.cursor.rest = '\n' :: (List.replicate m ' ' ++ t))
    (hclosed : unwound m found i outer = (found', i', outer')) :
    s.Begins done found' i' outer' m t := by
  have hlength : (gap true m).length = m + 1 := by
    simp [gap]
  refine ⟨true, m, found, i, outer, h, hlax, hbroken, hrest, ?_, Bool.or_true _, hclosed⟩
  rw [hlength]
  exact (forward_newLine hrest).2

/-- A turn in which no collection is closed. -/
theorem Stands.turn (line : Bool) (n : Nat) (h : s.Stands done found i outer 0) (hlax : s.Lax)
    (hrest : s.cursor.rest = gap line n ++ a :: t) (ha : isGap a = false) (ha' : a ≠ '#')
    (hi : i ≤ (s.cursor.forward (gap line n).length).column)
    (hnext : ∀ (s' : Scan) (done' : List Token), s'.Stands done' found i outer 0 → s'.Lax →
      s'.cursor = s.cursor.forward (gap line n).length → ∃ s'' : Scan, s'.token a t = .ok s'' ∧
        s''.cursor.broken = none ∧ s''.cursor.rest.length ≤ t.length ∧ s''.Yields done' ts) :
    s.Yields done ts := by
  refine yields_of_turn line n h hlax (lasts_lax _) (lasts_lax _) hrest ha ha' ?_
  intro s' done' hstands' hlax' hcursor' _
  obtain ⟨hcursor, -, hkeys⟩ := unwind_frame s' s'.cursor.column
  have hunwound := hstands'.unwind s'.cursor.column
  rw [hcursor', unwound_of_le hi] at hunwound
  rw [hcursor'] at hcursor hkeys ⊢
  exact hnext _ done' hunwound (Lax.of_keys hlax' hkeys) hcursor

/-- A turn behind one space. -/
theorem Stands.behindSpace (h : s.Stands done found i outer 0) (hlax : s.Lax)
    (hbroken : s.cursor.broken = none) (hcolumn : i ≤ s.cursor.column)
    (hrest : s.cursor.rest = ' ' :: a :: t) (ha : isGap a = false) (ha' : a ≠ '#')
    (hnext : ∀ (s' : Scan) (done' : List Token), s'.Stands done' found i outer 0 → s'.Lax →
      s'.cursor.column = s.cursor.column + 1 → s'.cursor.rest = a :: t → s'.cursor.broken = none →
      ∃ s'' : Scan, s'.token a t = .ok s'' ∧ s''.cursor.broken = none ∧
        s''.cursor.rest.length ≤ t.length ∧ s''.Yields done' ts) :
    s.Yields done ts := by
  have hplace := Cursor.step_of_line hrest (by decide) (by decide)
  have hdeeper : i ≤ s.cursor.step.column := by
    rw [hplace]
    exact Int.le_add_one hcolumn
  refine h.turn false 1 hlax hrest ha ha' hdeeper ?_
  intro s' done' hstands' hlax' hcursor'
  replace hcursor' : s'.cursor = s.cursor.step := hcursor'
  refine hnext s' done' hstands' hlax' (by rw [hcursor', hplace]) (by rw [hcursor', hplace]) ?_
  rw [hcursor', Cursor.broken_step, hbroken]

/-! What the functions that read a token leave, deeper than the innermost collection. -/

theorem Stands.single_eq (scan : Cursor → Scanned Token) {tok : Token} {c : Cursor}
    (h : s.Stands done found i outer 0) (hlax : s.Lax) (hcolumn : i < s.cursor.column)
    (hscan : scan s.cursor = .ok (tok, c)) : ∃ s' : Scan, s.single scan = .ok s' ∧
      s'.Stands done (tok :: found) i outer 0 ∧ s'.Lax ∧ s'.cursor = c := by
  obtain ⟨s₁, hsave, hstands₁, hlax₁, hcursor₁⟩ := h.saveKey_lax hlax hcolumn
  refine ⟨_, ?_, (hstands₁.move c false).push tok, hlax₁, rfl⟩
  rw [single, hsave]
  simp only [hcursor₁, hscan]

theorem Stands.plain_eq {broken : Bool} {c : Cursor} (h : s.Stands done found i outer 0)
    (hlax : s.Lax) (hcolumn : i < s.cursor.column)
    (hscan : scanPlain false i s.cursor = ((value, broken), c)) : ∃ s' : Scan, s.plain = .ok s' ∧
      s'.Stands done (.scalar (NativeName.ofText value) true :: found) i outer 0 ∧ s'.Lax ∧
      s'.keyAllowed = broken ∧ s'.cursor = c := by
  obtain ⟨s₁, hsave, hstands₁, hlax₁, hcursor₁⟩ := h.saveKey_lax hlax hcolumn
  exact ⟨_, hstands₁.plain_eq_of_saved hsave hcursor₁ hscan,
    (hstands₁.move c broken).push (.scalar (NativeName.ofText value) true), hlax₁, rfl, rfl⟩

theorem Stands.openBracket_eq (tok : Token) (h : s.Stands done found i outer 0) (hlax : s.Lax)
    (hcolumn : i < s.cursor.column) : ∃ s' : Scan, s.openBracket tok = .ok s' ∧
      s'.Stands done (tok :: found) i outer 1 ∧ s'.Lax ∧ s'.cursor = s.cursor.step := by
  obtain ⟨s₁, hsave, hstands₁, hlax₁, hcursor₁⟩ := h.saveKey_lax hlax hcolumn
  have hopened : ({ s₁ with
      cursor := s₁.cursor.step, keyAllowed := true, keys := none :: s₁.keys } : Scan).Stands done
        found i outer 1 :=
    { hstands₁ with
      held := List.forall_mem_cons.mpr ⟨nofun, hstands₁.held⟩
      depth := congrArg Nat.succ hstands₁.depth }
  refine ⟨_, ?_, hopened.push tok, List.forall_mem_cons.mpr ⟨nofun, hlax₁⟩,
    congrArg Cursor.step hcursor₁⟩
  rw [openBracket, hsave]

theorem Stands.closeBracket_eq (tok : Token) (h : s.Stands done found i outer 1) (hlax : s.Lax) :
    ∃ s' : Scan, s.closeBracket tok = .ok s' ∧ s'.Stands done (tok :: found) i outer 0 ∧
      s'.Lax ∧ s'.cursor = s.cursor.step := by
  have hinside : s.inside = true := by
    rw [h.inside_eq]
    rfl
  have hclosed : ({ s with
      cursor := s.cursor.step, keyAllowed := false, keys := s.keys.tail } : Scan).Stands done
        found i outer 0 :=
    { h with
      held := fun k hk => h.held k (List.mem_of_mem_tail hk)
      depth := by
        show s.keys.tail.length = 1
        rw [List.length_tail, h.depth] }
  refine ⟨_, ?_, hclosed.push tok, fun k hk => hlax k (List.mem_of_mem_tail hk), rfl⟩
  rw [closeBracket, hinside, Lax.dropKey hlax]
  rfl

/-! ### Texts -/

/-- The token of a quote. -/
theorem token_quote {double : Bool} (hcolumn : s.cursor.column ≠ 0) :
    s.token (if double then '"' else '\'') t =
      s.single (fun c => (scanQuoted double c).map (fun r => (.scalar r.1 false, r.2))) := by
  have hstart : (s.cursor.column == 0) = false := by simpa using hcolumn
  rw [token, hstart]
  cases double with
  | true => simp
  | false => simp

/-- A text in quotes, up to the next line. -/
theorem Stands.quoted (double : Bool) {n : NativeName} (h : s.Stands done found i outer 0)
    (hlax : s.Lax) (hbroken : s.cursor.broken = none) (hcolumn : i ≤ s.cursor.column)
    (hrest : s.cursor.rest = ' ' :: (if double then '"' else '\'') :: u)
    (hreads : ∀ c : Cursor, c.rest = u → Reads double c n ('\n' :: (List.replicate m ' ' ++ t)))
    (hclosed : unwound m (.scalar n false :: found) i outer = (found', i', outer'))
    (hnext : Leads found' i' outer' m t ts) : s.Yields done ts := by
  have hquote : ∀ double : Bool, isGap (if double then '"' else '\'') = false ∧
      (if double then '"' else '\'') ≠ '#' := by
    decide
  refine h.behindSpace hlax hbroken hcolumn hrest (hquote double).1 (hquote double).2 ?_
  intro s₁ done₁ hstands₁ hlax₁ hcolumn₁ hrest₁ hbroken₁
  obtain ⟨k, hmore, hread⟩ := hreads s₁.cursor.step
    (by rw [Cursor.rest_step, hrest₁, List.tail_cons])
  have hscan : scanQuoted double s₁.cursor = .ok (n, s₁.cursor.step.forward k) := by
    have hlength : s₁.cursor.step.rest.length ≤ s₁.cursor.rest.length := by
      rw [Cursor.rest_step, List.length_tail]
      exact Nat.sub_le _ _
    exact hread [] _ hlength
  obtain ⟨s₂, hsingle, hstands₂, hlax₂, hcursor₂⟩ := hstands₁.single_eq
    (fun c => (scanQuoted double c).map (fun r => (.scalar r.1 false, r.2))) hlax₁ (by omega)
    (by rw [hscan]; rfl)
  have hbroken₂ : s₂.cursor.broken = none := by
    rw [hcursor₂, Cursor.broken_forward, Cursor.broken_step, hbroken₁]
  have hbegins := Begins.of_newLine hstands₂ hlax₂ hbroken₂ (by rw [hcursor₂, hmore]) hclosed
  refine ⟨s₂, (token_quote (by omega)).trans hsingle, hbroken₂, ?_, hnext _ _ hbegins⟩
  rw [hcursor₂, Cursor.rest_forward, Cursor.rest_step, hrest₁, List.tail_cons, List.length_drop]
  exact Nat.sub_le _ _

/-- A text without quotes, up to the next line. -/
theorem Stands.unquoted (h : s.Stands done found i outer 0) (hlax : s.Lax)
    (hbroken : s.cursor.broken = none) (hcolumn : i ≤ s.cursor.column) (hindent : i + 1 ≤ indent)
    (hpos : 0 < indent) (hstyle : Style.ofText value = .plain)
    (hrest : s.cursor.rest = ' ' :: (writePlain indent column none value ++
      '\n' :: (List.replicate m ' ' ++ t))) (hm : (m : Int) < i + 1)
    (ht : LineStart m t)
    (hclosed : unwound m (.scalar (NativeName.ofText value) true :: found) i outer =
      (found', i', outer'))
    (hnext : Leads found' i' outer' m t ts) : s.Yields done ts := by
  -- the first character stands behind a space, and starts a plain scalar
  have hwordy := wordy_of_style_plain hstyle
  obtain ⟨a, v, rfl, hgap, hhash⟩ := hwordy.exists_cons
  obtain ⟨hfirst, hmarks⟩ := first_of_style_plain hstyle
  have hwritten : writePlain indent column none (a :: v) =
      a :: writePlain indent (column + 1) (some a) v := by
    rw [writePlain]
    simp
  refine h.behindSpace hlax hbroken hcolumn
    (by rw [hrest, hwritten, List.cons_append]) hgap hhash ?_
  intro s₁ done₁ hstands₁ hlax₁ hcolumn₁ hrest₁ hbroken₁
  have hrest₂ : s₁.cursor.rest = writePlain indent column none (a :: v) ++
      '\n' :: (List.replicate m ' ' ++ t) := by
    rw [hwritten]
    exact hrest₁
  obtain ⟨k, hmore, hmcolumn, hscan⟩ := scanPlain_writePlain hindent hpos hm
    ht.1.startsOff.1 ht.1.startsOff.2.1 ht.2 hwordy (by omega) hrest₂
  obtain ⟨s₂, hplain, hstands₂, hlax₂, hallowed₂, hcursor₂⟩ :=
    hstands₁.plain_eq hlax₁ (by omega) hscan
  have hbroken₂ : s₂.cursor.broken = none := by
    rw [hcursor₂, Cursor.broken_forward, hbroken₁]
  have htoken := token_eq_plain hstands₁.inside_eq hrest₁ (Or.inl (by omega)) hgap hfirst
    (by rw [atGap_writePlain]; exact hmarks)
  refine ⟨s₂, htoken.trans hplain, hbroken₂, ?_, hnext _ _ ⟨false, 0, _, _, _, hstands₂, hlax₂,
    hbroken₂, by rw [hcursor₂, hmore]; rfl, by rw [hcursor₂]; exact hmcolumn, ?_, hclosed⟩⟩
  · rw [hcursor₂, hmore]
    simp only [List.length_append, List.length_cons]
    omega
  · rw [hallowed₂]
    rfl

/-- **A text in any spelling**, up to the next line. -/
theorem Stands.scalar (h : s.Stands done found i outer 0) (hlax : s.Lax)
    (hbroken : s.cursor.broken = none) (hcolumn : i ≤ s.cursor.column) (hindent : i + 1 ≤ indent)
    (hpos : 0 < indent) (hwidth : indent < lineWidth)
    (hrest : s.cursor.rest = writeScalar indent column value ++
      '\n' :: (List.replicate m ' ' ++ t)) (hm : (m : Int) < i + 1)
    (ht : LineStart m t)
    (hclosed : unwound m (.ofText value :: found) i outer = (found', i', outer'))
    (hnext : Leads found' i' outer' m t ts) : s.Yields done ts := by
  have hback : ∀ {style : Style}, Style.ofText value = style →
      Token.ofText value = .scalar (NativeName.ofText (if style = .single then refold false value
        else value)) (style == .plain) := by
    rintro _ rfl
    rfl
  rw [writeScalar] at hrest
  -- one case for each spelling; only single quotes give back another text
  cases hstyle : Style.ofText value with
  | plain =>
    rw [hback hstyle] at hclosed
    rw [hstyle] at hrest
    exact h.unquoted hlax hbroken hcolumn hindent hpos hstyle hrest hm ht hclosed hnext
  | single =>
    rw [hback hstyle] at hclosed
    refine h.quoted false hlax hbroken hcolumn
      (u := writeSingle indent (column + 2) none value ++
        '\'' :: '\n' :: (List.replicate m ' ' ++ t))
      ?_ (fun c hc => ?_) hclosed hnext
    · rw [hrest, hstyle]
      simp
    · exact reads_writeSingle hpos (startsOff_cons.mpr (by decide))
        (quotable_of_style (by rw [hstyle]; decide)) _ _ _ (fun b hb => by cases hb) hc
  | double =>
    rw [hback hstyle] at hclosed
    refine h.quoted true hlax hbroken hcolumn
      (u := writeDouble indent (column + 2) true true value ++
        '"' :: '\n' :: (List.replicate m ' ' ++ t)) ?_ (fun c hc => ?_) hclosed hnext
    · rw [hrest, hstyle]
      simp
    · exact (reads_writeDouble hpos hwidth _).plain hc

/-! ### Lists -/

/-- Inside brackets no collection is closed. -/
theorem Stands.unwind_inside (h : s.Stands done found i outer (depth + 1)) (column : Int) :
    s.unwind column = s := by
  rw [Scan.unwind, h.inside_eq]
  simp

/-- **An empty list**, up to the next line. -/
theorem Stands.brackets (h : s.Stands done found i outer 0) (hlax : s.Lax)
    (hbroken : s.cursor.broken = none) (hcolumn : i ≤ s.cursor.column)
    (hrest : s.cursor.rest = ' ' :: '[' :: ']' :: '\n' :: (List.replicate m ' ' ++ t))
    (hclosed : unwound m (.flowSequenceEnd :: .flowSequence :: found) i outer =
      (found', i', outer'))
    (hnext : Leads found' i' outer' m t ts) : s.Yields done ts := by
  refine h.behindSpace hlax hbroken hcolumn hrest (by decide) (by decide) ?_
  intro s₁ done₁ hstands₁ hlax₁ hcolumn₁ hrest₁ hbroken₁
  obtain ⟨s₂, hopen, hstands₂, hlax₂, hcursor₂⟩ :=
    hstands₁.openBracket_eq .flowSequence hlax₁ (by omega)
  have htoken : s₁.token '[' (']' :: '\n' :: (List.replicate m ' ' ++ t)) =
      s₁.openBracket .flowSequence := by
    have hstart : (s₁.cursor.column == 0) = false := by simp [hcolumn₁]
    rw [token, hstart]
    simp
  have hplace₂ := Cursor.step_of_line hrest₁ (by decide) (by decide)
  rw [← hcursor₂] at hplace₂
  have hrest₂ : s₂.cursor.rest = ']' :: '\n' :: (List.replicate m ' ' ++ t) := by rw [hplace₂]
  have hbroken₂ : s₂.cursor.broken = none := by
    rw [hcursor₂, Cursor.broken_step, hbroken₁]
  refine ⟨s₂, htoken.trans hopen, hbroken₂, by rw [hrest₂], ?_⟩
  -- the bracket is closed at once
  refine yields_of_turn false 0 hstands₂ hlax₂ (lasts_lax _) (lasts_lax _) hrest₂ (by decide)
    (by decide) ?_
  intro s₃ done₂ hstands₃ hlax₃ hcursor₃ _
  replace hcursor₃ : s₃.cursor = s₂.cursor := hcursor₃
  rw [hstands₃.unwind_inside]
  obtain ⟨s₄, hclose, hstands₄, hlax₄, hcursor₄⟩ := hstands₃.closeBracket_eq .flowSequenceEnd hlax₃
  have htoken₃ : s₃.token ']' ('\n' :: (List.replicate m ' ' ++ t)) =
      s₃.closeBracket .flowSequenceEnd := by
    have hstart : (s₃.cursor.column == 0) = false := by
      rw [hcursor₃, hplace₂]
      simp
    rw [token, hstart]
    simp
  rw [hcursor₃] at hcursor₄
  have hrest₄ : s₄.cursor.rest = '\n' :: (List.replicate m ' ' ++ t) := by
    rw [hcursor₄, Cursor.rest_step, hrest₂, List.tail_cons]
  have hbroken₄ : s₄.cursor.broken = none := by
    rw [hcursor₄, Cursor.broken_step, hbroken₂]
  refine ⟨s₄, htoken₃.trans hclose, hbroken₄, by rw [hrest₄], ?_⟩
  exact hnext _ _ (Begins.of_newLine hstands₄ hlax₄ hbroken₄ hrest₄ hclosed)

/-- **The hyphen before an item** of a list that is not indented. -/
theorem Begins.item (h : s.Begins done found i outer column ('-' :: ' ' :: t)) (hi : column ≤ i)
    (hnext : ∀ (s' : Scan) (done' : List Token), s'.Stands done' (.item :: found) i outer 0 →
      s'.Lax → s'.keyAllowed = true → s'.cursor.rest = ' ' :: t →
      s'.cursor.column = column + 1 → s'.cursor.broken = none → s'.Yields done' ts) :
    s.Yields done ts := by
  refine h.turn (by decide) (by decide) ?_
  intro s₁ done₁ hstands₁ hlax₁ hallowed₁ hrest₁ hcolumn₁ hbroken₁
  have hplace := Cursor.step_of_line hrest₁ (by decide) (by decide)
  have hmark : s₁.cursor.atMark "---" = false ∧ s₁.cursor.atMark "..." = false := by
    rw [Cursor.atMark, Cursor.atMark, hrest₁]
    exact ⟨rfl, rfl⟩
  have htoken : s₁.token '-' (' ' :: t) = .ok (({ s₁.setKey none with
      cursor := s₁.cursor.step, keyAllowed := true } : Scan).push .item) := by
    -- the list is not deeper than the mapping around, so that none is opened
    have hclosed : (!s₁.inside && s₁.opensAt s₁.cursor.column) = false := by
      rw [opensAt, hstands₁.indent, hcolumn₁]
      simp
      omega
    have hdrop : ({ s₁ with keyAllowed := true } : Scan).dropKey =
        .ok (Scan.setKey { s₁ with keyAllowed := true } none) := Lax.dropKey hlax₁
    rw [token]
    simp [hmark, atGap, isGap, indicator, hallowed₁, hclosed]
    rw [hdrop]
    rfl
  have hstands₂ := ((hstands₁.setKey (k := none)
      (fun _ h => by cases h)).move s₁.cursor.step true).push .item
  refine ⟨_, htoken, ?_, ?_, hnext _ _ hstands₂ ?_ rfl ?_ ?_ ?_⟩
  · show s₁.cursor.step.broken = none
    rw [Cursor.broken_step, hbroken₁]
  · show s₁.cursor.step.rest.length ≤ _
    rw [hplace]
  · exact List.forall_mem_cons.mpr ⟨(fun _ h => by cases h), fun k hk =>
      hlax₁ k (List.mem_of_mem_tail hk)⟩
  · show s₁.cursor.step.rest = ' ' :: t
    rw [hplace]
  · show s₁.cursor.step.column = column + 1
    rw [hplace, hcolumn₁]
  · show s₁.cursor.step.broken = none
    rw [Cursor.broken_step, hbroken₁]

/-! ### Lines -/

variable {found'' : List Token} {i'' : Int} {outer'' : List Int} {c : Nat}

/-- What a text is written after. -/
theorem exists_writeScalar_cons (indent c : Nat) (value : Text) :
    ∃ u, writeScalar indent c value = ' ' :: u := by
  rw [writeScalar]
  split <;> exact ⟨_, rfl⟩

/-- **A line with a key and a text.** -/
theorem leads_entry (hw : IsKey w) (hi : i ≤ column)
    (hentered : entered column found i outer = (found', (column : Int), outer'))
    (hindent : column + 1 ≤ indent) (hwidth : indent < lineWidth) (hm : m ≤ column)
    (ht : LineStart m t)
    (hclosed : unwound m
      (.ofText value :: .value :: .scalar (NativeName.ofText w) true :: .key :: found') column
        outer' = (found'', i'', outer''))
    (hnext : Leads found'' i'' outer'' m t ts) : Leads found i outer column
      (w ++ ':' :: (writeScalar indent c value ++ '\n' :: (List.replicate m ' ' ++ t))) ts := by
  intro s done h
  obtain ⟨u, hu⟩ := exists_writeScalar_cons indent c value
  refine h.key hw (by rw [hu]; rfl) hi hentered ?_
  intro s' done' hstands hlax _ hrest hcolumn hbroken
  refine hstands.scalar hlax hbroken ?_ (by omega)
    (by omega) hwidth hrest (by omega) ht hclosed hnext
  rw [hcolumn]
  omega

/-- A line with a key and an empty list. -/
theorem leads_brackets (hw : IsKey w) (hi : i ≤ column)
    (hentered : entered column found i outer = (found', (column : Int), outer'))
    (hclosed : unwound m (.flowSequenceEnd :: .flowSequence :: .value ::
      .scalar (NativeName.ofText w) true :: .key :: found') column outer' = (found'', i'', outer''))
    (hnext : Leads found'' i'' outer'' m t ts) : Leads found i outer column
      (w ++ ':' :: ' ' :: '[' :: ']' :: '\n' :: (List.replicate m ' ' ++ t)) ts := by
  intro s done h
  refine h.key hw rfl hi hentered ?_
  intro s' done' hstands hlax _ hrest hcolumn hbroken
  refine hstands.brackets hlax hbroken ?_ hrest hclosed hnext
  rw [hcolumn]
  omega

/-- A line with a key whose value stands below. -/
theorem leads_block (hw : IsKey w) (hi : i ≤ column)
    (hentered : entered column found i outer = (found', (column : Int), outer')) (hm : column ≤ m)
    (hnext : Leads (.value :: .scalar (NativeName.ofText w) true :: .key :: found') column outer'
      m t ts) :
    Leads found i outer column (w ++ ':' :: '\n' :: (List.replicate m ' ' ++ t)) ts := by
  intro s done h
  refine h.key hw rfl hi hentered ?_
  intro s' done' hstands hlax _ hrest hcolumn hbroken
  exact hnext _ _ (Begins.of_newLine hstands hlax hbroken hrest (unwound_of_le (by omega) _ _))

/-- **A line with an item that is a text.** -/
theorem leads_item (hi : column ≤ i) (hi' : i ≤ column + 1) (hindent : i + 1 ≤ indent)
    (hwidth : indent < lineWidth) (hm : (m : Int) < i + 1) (ht : LineStart m t)
    (hclosed : unwound m (.ofText value :: .item :: found) i outer = (found', i', outer'))
    (hnext : Leads found' i' outer' m t ts) : Leads found i outer column
      ('-' :: (writeScalar indent c value ++ '\n' :: (List.replicate m ' ' ++ t))) ts := by
  intro s done h
  obtain ⟨u, hu⟩ := exists_writeScalar_cons indent c value
  rw [hu] at h
  refine h.item hi ?_
  intro s' done' hstands hlax _ hrest hcolumn hbroken
  refine hstands.scalar hlax hbroken ?_ hindent
    (by omega) hwidth (by rw [hrest, hu]; rfl) hm ht hclosed hnext
  rw [hcolumn]
  omega

/-- A line with an item that starts with a key. -/
theorem leads_inner (hi : column ≤ i) (hi' : i ≤ column + 2)
    (hnext : Leads (.item :: found) i outer (column + 2) t ts) :
    Leads found i outer column ('-' :: ' ' :: t) ts := by
  intro s done h
  refine h.item hi ?_
  intro s' done' hstands hlax hallowed hrest hcolumn hbroken
  have hplace := Cursor.step_of_line hrest (by decide) (by decide)
  refine hnext _ _ ⟨false, 1, _, _, _, hstands, hlax, hbroken, hrest, ?_, ?_,
    unwound_of_le (by simpa using hi') _ _⟩
  · show s'.cursor.step.column = column + 2
    rw [hplace, hcolumn]
  · rw [hallowed]
    rfl

/-- The end of a document. -/
theorem leads_end (hclosed : unwound (-1) found i outer = (found', i', outer')) :
    Leads found i outer column [] found'.reverse := by
  rintro s done ⟨line, n, found₀, i₀, outer₀, hstands, hlax, hbroken, hrest, hcolumn, -, hopen⟩
  rw [List.append_nil] at hrest
  refine yields_of_end hstands hlax hrest hbroken ?_ hclosed
  rw [hcolumn]
  exact hopen

end Scan

end PackageCatalog.Yaml
