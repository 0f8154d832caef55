import PackageCatalog.Proofs.Yaml.Quoted
import PackageCatalog.Yaml.Value
import Mathlib.Data.List.Forall2

/-!
# Reading nodes

The nodes of data are numbered from the outside in: what is below a node has greater numbers.  So
what is read later, and what completes a node above, leaves them as they are.

## Main definitions

* `Yaml.Graph.Means` — a node that stands for data.
* `Yaml.Extends` — nodes with others behind them.
* `Yaml.Gets` — tokens from which data is read.

## Main results

* `Yaml.Graph.Means.mono` — what nodes stand for when others change.
* `Yaml.gets_text`, `Yaml.gets_list`, `Yaml.gets_brackets`, `Yaml.gets_record` — **reading data of
  each kind.**
* `Yaml.ofTokens?_eq` — reading the only document.
-/

namespace PackageCatalog.Yaml

/-! ### What nodes stand for -/

/-- A node is a text. -/
def Graph.IsText (g : Graph) (id : NodeId) (t : Text) : Prop :=
  g[id]? = some (.scalar .text (NativeName.ofText t))

/-- A node stands for data that is nested to a height at most. -/
def Graph.Means (g : Graph) : Nat → NodeId → Datum → Prop
  | 0, id, d => ∃ t, d = .text t ∧ g.IsText id t
  | height + 1, id, d =>
    g.Means height id d ∨
    (∃ ids ds, d = .list ds ∧ g[id]? = some (.list .list ids) ∧
      List.Forall₂ (fun j d => id < j ∧ g.Means height j d) ids ds) ∨
    (∃ entries fields, d = .record fields ∧ g[id]? = some (.mapping .mapping entries) ∧
      List.Forall₂ (fun e f => (id < e.1 ∧ g.IsText e.1 f.1) ∧ id < e.2 ∧ g.Means height e.2 f.2)
        entries fields)

variable {g g' : Graph} {id height : Nat} {d : Datum} {ts rest : List Token} {r : Reading}
  {handles : List (Text × Text)}

theorem Graph.IsText.lt_size {t : Text} (h : g.IsText id t) : id < g.size :=
  (Array.getElem?_eq_some_iff.mp h).1

/-- **What a node stands for depends only on the nodes with numbers from its own on.** -/
theorem Graph.Means.mono (hagree : ∀ j, id ≤ j → j < g.size → g'[j]? = g[j]?) :
    g.Means height id d → g'.Means height id d := by
  induction height generalizing id d with
  | zero =>
    rintro ⟨t, rfl, h⟩
    exact ⟨t, rfl, (hagree id (Nat.le_refl id) h.lt_size).trans h⟩
  | succ height ih =>
    have hself : ∀ {n : Node}, g[id]? = some n → g'[id]? = some n := by
      intro n hn
      rw [hagree id (Nat.le_refl id) (Array.getElem?_eq_some_iff.mp hn).1, hn]
    have hbelow : ∀ {j}, id < j → ∀ k, j ≤ k → k < g.size → g'[k]? = g[k]? := by
      intro j hj k hk
      exact hagree k (Nat.le_trans (Nat.le_of_lt hj) hk)
    rintro (h | ⟨ids, ds, rfl, hnode, hitems⟩ | ⟨entries, fields, rfl, hnode, hparts⟩)
    · exact Or.inl (ih hagree h)
    · refine Or.inr (Or.inl ⟨ids, ds, rfl, hself hnode, hitems.imp ?_⟩)
      rintro j d ⟨hj, hmeans⟩
      exact ⟨hj, ih (hbelow hj) hmeans⟩
    · refine Or.inr (Or.inr ⟨entries, fields, rfl, hself hnode, hparts.imp ?_⟩)
      rintro e f ⟨⟨hk, hkey⟩, hv, hmeans⟩
      exact ⟨⟨hk, (hbelow hk e.1 (Nat.le_refl _) hkey.lt_size).trans hkey⟩, hv,
        ih (hbelow hv) hmeans⟩

/-! ### Reading -/

/-- Nodes with others behind them. -/
def Extends (g g' : Graph) : Prop := g.size ≤ g'.size ∧ ∀ j < g.size, g'[j]? = g[j]?

theorem Extends.refl (g : Graph) : Extends g g := ⟨Nat.le_refl _, fun _ _ => rfl⟩

theorem Extends.trans {g'' : Graph} (h : Extends g g') (h' : Extends g' g'') : Extends g g'' :=
  ⟨Nat.le_trans h.1 h'.1, fun j hj => (h'.2 j (Nat.lt_of_lt_of_le hj h.1)).trans (h.2 j hj)⟩

theorem Graph.Means.extends (h : g.Means height id d) (hext : Extends g g') :
    g'.Means height id d :=
  h.mono (fun j _ hj => hext.2 j hj)

/-- From these tokens data is read, as a node behind the ones there are; `flat` says whether it may
be a list that is not indented, which ends before a token that is no hyphen. -/
def Gets (flat : Bool) (ts : List Token) (height : Nat) (d : Datum) : Prop :=
  ∀ ⦃handles : List (Text × Text)⦄ ⦃fuel : Nat⦄ ⦃r : Reading⦄ ⦃rest : List Token⦄,
    r.tokens = ts ++ rest → 3 * ts.length + 2 ≤ fuel → (flat = true → rest.head? ≠ some .item) →
    ∃ r', readNode handles fuel true flat r = .ok (r.nodes.size, r') ∧ r'.tokens = rest ∧
      Extends r.nodes r'.nodes ∧ r'.nodes.Means height r.nodes.size d

/-- What is nested to a height is nested to a greater one. -/
theorem Gets.succ (h : Gets flat ts height d) : Gets flat ts (height + 1) d := by
  intro handles fuel r rest htokens hfuel hrest
  obtain ⟨r', hread, htokens', hext, hmeans⟩ := h htokens hfuel hrest
  exact ⟨r', hread, htokens', hext, Or.inl hmeans⟩

/-- A node that is added and completed behind what is read meanwhile. -/
theorem extends_complete {n : Node} (h : Extends (g.push .empty) g') :
    Extends g (g'.setIfInBounds g.size n) ∧ (g'.setIfInBounds g.size n)[g.size]? = some n ∧
      ∀ j, g.size < j → (g'.setIfInBounds g.size n)[j]? = g'[j]? := by
  have hsize : g.size < g'.size := by
    have hle := h.1
    rw [Array.size_push] at hle
    exact hle
  refine ⟨⟨?_, fun j hj => ?_⟩, ?_, fun j hj => ?_⟩
  · rw [Array.size_setIfInBounds]
    exact Nat.le_of_lt hsize
  · rw [Array.getElem?_setIfInBounds_ne (Nat.ne_of_gt hj), h.2 j (by rw [Array.size_push]; omega),
      Array.getElem?_push_lt hj, Array.getElem?_eq_getElem hj]
  · rw [Array.getElem?_setIfInBounds_self_of_lt hsize]
  · rw [Array.getElem?_setIfInBounds_ne (Nat.ne_of_lt hj)]

variable {fuel : Nat} {flat : Bool}

/-- What was read once a node is added whose content starts with `ts`. -/
def Reading.opened (r : Reading) (ts : List Token) : Reading :=
  { r with tokens := ts, nodes := r.nodes.push .empty }

theorem Reading.at_eq {tok : Token} {ts' : List Token} (h : r.tokens = tok :: ts')
    (ts : List Token) :
    r.at_ ts = ts.contains tok := by
  rw [Reading.at_, Reading.head?, h]
  rfl

section Opening

attribute [local simp] readNode Reading.head? readProperties Properties.fullTag Reading.isBroken
  Reading.add Reading.mark

theorem readNode_scalar {text : NativeName} {plain : Bool}
    (htokens : r.tokens = .scalar text plain :: rest) :
    readNode handles (fuel + 1) true flat r =
      .ok (r.nodes.size,
        (r.opened rest).complete r.nodes.size (.scalar (scalarKind none text plain) text)) := by
  simp [htokens, Reading.opened, Reading.tail]

theorem readNode_brackets (htokens : r.tokens = .flowSequence :: .flowSequenceEnd :: rest) :
    readNode handles (fuel + 2) true flat r =
      .ok (r.nodes.size, (r.opened rest).complete r.nodes.size (.list .list [])) := by
  simp [readFlowItems, htokens, Reading.opened, Reading.tail, Reading.at_, collectionKind]

theorem readNode_items {items : List NodeId} {r' : Reading} (hhead : r.head? = some .item)
    (hitems : readItems handles fuel false (r.opened r.tokens) [] = .ok (items, r')) :
    readNode handles (fuel + 1) true true r =
      .ok (r.nodes.size, r'.complete r.nodes.size (.list .list items)) := by
  obtain ⟨ts, htokens⟩ : ∃ ts, r.tokens = .item :: ts := by
    rw [Reading.head?] at hhead
    cases hr : r.tokens with
    | nil =>
      rw [hr] at hhead
      cases hhead
    | cons tok ts =>
      rw [hr] at hhead
      cases hhead
      exact ⟨ts, rfl⟩
  simp only [Reading.opened, htokens] at hitems
  simp [htokens, collectionKind, hitems]

theorem readNode_entries {entries : List (NodeId × NodeId)} {r' : Reading}
    (htokens : r.tokens = .blockMapping :: rest)
    (hentries : readEntries handles fuel (r.opened rest) [] = .ok (entries, r')) :
    readNode handles (fuel + 1) true flat r =
      .ok (r.nodes.size, r'.complete r.nodes.size (.mapping .mapping entries)) := by
  simp only [Reading.opened] at hentries
  simp [htokens, Reading.tail, collectionKind, hentries]

end Opening

/-- **A text is read.** -/
theorem gets_text {flat plain : Bool} {t : Text}
    (hkind : plain = true → Kind.ofName (NativeName.ofText t) = .text) :
    Gets flat [.scalar (NativeName.ofText t) plain] 0 (.text t) := by
  intro handles fuel r rest htokens hfuel _
  obtain ⟨fuel, rfl⟩ : ∃ f, fuel = f + 1 := ⟨fuel - 1, by omega⟩
  have hscalar : scalarKind none (NativeName.ofText t) plain = .text := by
    cases plain with
    | true => exact hkind rfl
    | false => rfl
  obtain ⟨hext, hself, -⟩ := extends_complete
    (n := .scalar .text (NativeName.ofText t)) (Extends.refl (r.nodes.push .empty))
  refine ⟨_, readNode_scalar htokens, rfl, ?_, t, rfl, ?_⟩
  · rw [hscalar]
    exact hext
  · rw [hscalar]
    exact hself

/-- **An empty list is read.** -/
theorem gets_brackets : Gets flat [.flowSequence, .flowSequenceEnd] (height + 1) (.list []) := by
  intro handles fuel r rest htokens hfuel _
  obtain ⟨fuel, rfl⟩ : ∃ f, fuel = f + 2 := ⟨fuel - 2, by simp at hfuel; omega⟩
  obtain ⟨hext, hself, -⟩ := extends_complete (n := .list .list [])
    (Extends.refl (r.nodes.push .empty))
  exact ⟨_, readNode_brackets htokens, rfl, hext, Or.inr (Or.inl ⟨[], [], rfl, hself, .nil⟩)⟩

/-! ### Lists -/

/-- One item of a list that is not indented. -/
theorem readItems_item (done : List NodeId) {fuel : Nat} {ts : List Token} {tok : Token}
    (h : Gets false (tok :: ts) height d) (htok : tok ∉ [Token.item, .blockEnd, .key, .value])
    (htokens : r.tokens = .item :: tok :: (ts ++ rest))
    (hfuel : 3 * (tok :: ts).length + 2 ≤ fuel) :
    ∃ r', readItems handles (fuel + 1) false r done =
        readItems handles fuel false r' (r.nodes.size :: done) ∧
      r'.tokens = rest ∧ Extends r.nodes r'.nodes ∧ r'.nodes.Means height r.nodes.size d := by
  have hitem : r.at_ [.item] = true := by rw [Reading.at_eq htokens]; rfl
  have hnext : r.tail.tokens = (tok :: ts) ++ rest := by
    rw [Reading.tail, htokens]
    rfl
  have hpart : r.tail.at_ ([.item, .blockEnd] ++ [.key, .value]) = false := by
    rw [Reading.at_eq hnext]
    simpa using htok
  obtain ⟨r', hread, htokens', hext, hmeans⟩ := h hnext hfuel nofun
  have hread : readNode handles fuel true false r.tail = .ok (r.nodes.size, r') := hread
  refine ⟨r', ?_, htokens', hext, hmeans⟩
  rw [readItems, if_pos hitem]
  simp only [hpart, hread, Bool.false_eq_true, if_false]

/-- The items of a list that is not indented. -/
theorem readItems_eq : ∀ {items : List (List Token × Datum)} {fuel : Nat} {r : Reading}
    (done : List NodeId), (∀ x ∈ items, Gets false x.1 height x.2 ∧ ∃ tok more,
        x.1 = tok :: more ∧ tok ∉ [Token.item, .blockEnd, .key, .value]) →
    rest.head? ≠ some .item → r.tokens = items.flatMap (fun x => .item :: x.1) ++ rest →
    3 * (items.flatMap (fun x => Token.item :: x.1)).length + 1 ≤ fuel →
    ∃ ids r', readItems handles fuel false r done = .ok (done.reverse ++ ids, r') ∧
      r'.tokens = rest ∧ Extends r.nodes r'.nodes ∧
      List.Forall₂ (fun j d => r.nodes.size ≤ j ∧ r'.nodes.Means height j d) ids
        (items.map Prod.snd) := by
  intro items
  -- an item is read first, and the rest with the number of its node done
  induction items with
  | nil =>
    intro fuel r done _ hrest htokens hfuel
    obtain ⟨fuel, rfl⟩ : ∃ f, fuel = f + 1 := ⟨fuel - 1, by omega⟩
    refine ⟨[], r, ?_, htokens, Extends.refl _, .nil⟩
    have hstop : r.at_ [.item] = false := by
      rw [Reading.at_, Reading.head?, htokens, List.flatMap_nil, List.nil_append]
      cases hhead : rest.head? with
      | none => rfl
      | some tok =>
        rw [hhead] at hrest
        simpa using hrest
    rw [readItems, hstop]
    simp
  | cons x items ih =>
    intro fuel r done hitems hrest htokens hfuel
    obtain ⟨⟨hgets, tok, more, hstart, hcontent⟩, hitems⟩ := List.forall_mem_cons.mp hitems
    obtain ⟨fuel, rfl⟩ : ∃ f, fuel = f + 1 := ⟨fuel - 1, by omega⟩
    rw [List.flatMap_cons, List.length_append, List.length_cons] at hfuel
    rw [List.flatMap_cons, List.cons_append, List.cons_append, List.append_assoc, hstart] at htokens
    obtain ⟨r₁, hitem, htokens₁, hext₁, hmeans₁⟩ := readItems_item done (hstart ▸ hgets)
      hcontent htokens (show _ ≤ fuel by rw [← hstart]; omega)
    obtain ⟨ids, r₂, hreads, htokens₂, hext₂, hmeans₂⟩ := ih
      (r.nodes.size :: done) hitems hrest htokens₁ (show _ ≤ fuel by omega)
    refine ⟨r.nodes.size :: ids, r₂, ?_, htokens₂, hext₁.trans hext₂,
      .cons ⟨Nat.le_refl _, hmeans₁.extends hext₂⟩ (hmeans₂.imp ?_)⟩
    · rw [hitem, hreads, List.reverse_cons, List.append_assoc]
      rfl
    · rintro j d ⟨hj, hmeans⟩
      exact ⟨Nat.le_trans hext₁.1 hj, hmeans⟩

/-- **A list that is not indented is read.** -/
theorem gets_list {items : List (List Token × Datum)} (hne : items ≠ [])
    (hitems : ∀ x ∈ items, Gets false x.1 height x.2 ∧ ∃ tok more, x.1 = tok :: more ∧
      tok ∉ [Token.item, .blockEnd, .key, .value]) :
    Gets true (items.flatMap (fun x => .item :: x.1)) (height + 1)
      (.list (items.map Prod.snd)) := by
  intro handles fuel r rest htokens hfuel hrest
  obtain ⟨fuel, rfl⟩ : ∃ f, fuel = f + 1 := ⟨fuel - 1, by omega⟩
  have hhead : r.head? = some .item := by
    obtain ⟨x, items, rfl⟩ := List.exists_cons_of_ne_nil hne
    rw [Reading.head?, htokens]
    rfl
  obtain ⟨ids, r', hread, htokens', hext, hmeans⟩ := readItems_eq
    (r := r.opened r.tokens) [] hitems (hrest rfl) htokens (show _ ≤ fuel by omega)
  obtain ⟨hext', hself, hbelow⟩ := extends_complete (n := .list .list ids) hext
  refine ⟨_, readNode_items hhead hread, htokens', hext', Or.inr (Or.inl ⟨ids, _, rfl, hself,
    hmeans.imp ?_⟩)⟩
  rintro j d ⟨hj, hmeans⟩
  have hsize : (r.opened r.tokens).nodes.size = r.nodes.size + 1 := Array.size_push _
  have hj : r.nodes.size < j := by omega
  exact ⟨hj, hmeans.mono (fun k hk _ => hbelow k (Nat.lt_of_lt_of_le hj hk))⟩

/-! ### Mappings -/

/-- The tokens of an entry of a mapping. -/
def entryTokens (key : Text) (value : List Token) : List Token :=
  .key :: .scalar (NativeName.ofText key) true :: .value :: value

/-- A key or a value that is there. -/
theorem readPart_eq {tok : Token} (htokens : r.tokens = tok :: rest)
    (htok : tok ∉ [Token.key, .value, .blockEnd]) :
    readPart handles (fuel + 1) r = readNode handles fuel true true r := by
  rw [readPart, Reading.at_eq htokens, if_neg]
  simpa using htok

/-- One entry of a mapping. -/
theorem readEntries_entry (done : List (NodeId × NodeId)) {key : Text} {ts : List Token}
    {tok : Token} (hkind : Kind.ofName (NativeName.ofText key) = .text)
    (h : Gets true (tok :: ts) height d) (htok : tok ∉ [Token.key, .value, .blockEnd])
    (htokens : r.tokens = entryTokens key (tok :: ts) ++ rest)
    (hrest : rest.head? ≠ some .item) (hfuel : 3 * (tok :: ts).length + 2 ≤ fuel) :
    ∃ id r', readEntries handles (fuel + 2) r done =
        readEntries handles (fuel + 1) r' ((r.nodes.size, id) :: done) ∧
      r'.tokens = rest ∧ Extends r.nodes r'.nodes ∧ r'.nodes.IsText r.nodes.size key ∧
      r.nodes.size ≤ id ∧ r'.nodes.Means height id d := by
  have htokens : r.tokens = .key :: .scalar (NativeName.ofText key) true :: .value ::
    (tok :: ts ++ rest) := htokens
  -- the key
  have hkey : r.tail.tokens = [.scalar (NativeName.ofText key) true] ++
      .value :: (tok :: ts ++ rest) := by
    rw [Reading.tail, htokens]
    rfl
  obtain ⟨r₁, hread₁, htokens₁, hext₁, t, ht, htext⟩ := gets_text (fun _ => hkind)
    hkey (show _ ≤ fuel by simp at hfuel ⊢; omega) nofun
  cases ht
  -- the value
  have hvalue : r₁.tail.tokens = tok :: ts ++ rest := by
    rw [Reading.tail, htokens₁]
    rfl
  obtain ⟨r₂, hread₂, htokens₂, hext₂, hmeans⟩ := h hvalue hfuel (fun _ => hrest)
  have hkeyPart : readPart handles (fuel + 1) r.tail = .ok (r.nodes.size, r₁) :=
    (readPart_eq hkey (by simp)).trans hread₁
  have hvaluePart : readPart handles (fuel + 1) r₁.tail = .ok (r₁.nodes.size, r₂) :=
    (readPart_eq hvalue htok).trans hread₂
  refine ⟨r₁.nodes.size, r₂, ?_, htokens₂, hext₁.trans hext₂,
    (hext₂.2 _ htext.lt_size).trans htext, hext₁.1, hmeans⟩
  rw [readEntries, Reading.at_eq htokens, Reading.at_eq htokens, hkeyPart]
  simp only [Reading.at_eq htokens₁, hvaluePart]
  rfl

/-- The entries of a mapping. -/
theorem readEntries_eq : ∀ {entries : List (Text × List Token × Datum)} {fuel : Nat} {r : Reading}
    (done : List (NodeId × NodeId)), (∀ x ∈ entries,
        Kind.ofName (NativeName.ofText x.1) = .text ∧ Gets true x.2.1 height x.2.2 ∧
        ∃ tok more, x.2.1 = tok :: more ∧ tok ∉ [Token.key, .value, .blockEnd]) →
    r.tokens = entries.flatMap (fun x => entryTokens x.1 x.2.1) ++ .blockEnd :: rest →
    3 * (entries.flatMap (fun x => entryTokens x.1 x.2.1)).length + 1 ≤ fuel →
    ∃ es r', readEntries handles fuel r done = .ok (done.reverse ++ es, r') ∧
      r'.tokens = rest ∧ Extends r.nodes r'.nodes ∧
      List.Forall₂ (fun e f => (r.nodes.size ≤ e.1 ∧ r'.nodes.IsText e.1 f.1) ∧
        r.nodes.size ≤ e.2 ∧ r'.nodes.Means height e.2 f.2) es
        (entries.map (fun x => (x.1, x.2.2))) := by
  intro entries
  induction entries with
  | nil =>
    intro fuel r done _ htokens hfuel
    obtain ⟨fuel, rfl⟩ : ∃ f, fuel = f + 1 := ⟨fuel - 1, by omega⟩
    have htokens : r.tokens = .blockEnd :: rest := htokens
    refine ⟨[], r.tail, ?_, by rw [Reading.tail, htokens]; rfl, Extends.refl _, .nil⟩
    rw [readEntries, Reading.at_eq htokens]
    simp
  | cons x entries ih =>
    intro fuel r done hentries htokens hfuel
    obtain ⟨⟨hkind, hgets, tok, more, hstart, hpart⟩, hentries⟩ := List.forall_mem_cons.mp hentries
    obtain ⟨fuel, rfl⟩ : ∃ f, fuel = f + 2 := ⟨fuel - 2, by
      rw [List.flatMap_cons, List.length_append, entryTokens, List.length_cons] at hfuel
      omega⟩
    have hlength : (entryTokens x.1 x.2.1).length = x.2.1.length + 3 := rfl
    rw [List.flatMap_cons, List.length_append, hlength] at hfuel
    rw [List.flatMap_cons, List.append_assoc] at htokens
    generalize hmore : entries.flatMap (fun x => entryTokens x.1 x.2.1) ++ .blockEnd :: rest = after
      at htokens ih
    -- another entry or the end follows, and no item that a value would take
    have hafter : after.head? ≠ some .item := by
      rw [← hmore]
      cases entries with
      | nil => nofun
      | cons y entries => nofun
    rw [hstart] at htokens hgets hfuel
    obtain ⟨id, r₂, hentry, htokens₂, hext, htext, hsize, hmeans⟩ := readEntries_entry done hkind
      hgets hpart htokens hafter (show _ ≤ fuel by omega)
    obtain ⟨es, r₃, hreads, htokens₃, hext₃, hmeans₃⟩ := ih
      ((r.nodes.size, id) :: done) hentries htokens₂ (show _ ≤ fuel + 1 by omega)
    refine ⟨(r.nodes.size, id) :: es, r₃, ?_, htokens₃, hext.trans hext₃,
      .cons ⟨⟨Nat.le_refl _, ?_⟩, hsize, hmeans.extends hext₃⟩ (hmeans₃.imp ?_)⟩
    · rw [hentry, hreads, List.reverse_cons, List.append_assoc]
      rfl
    · exact (hext₃.2 _ htext.lt_size).trans htext
    · rintro e f ⟨⟨hk, hkey⟩, hv, hmeans⟩
      exact ⟨⟨Nat.le_trans hext.1 hk, hkey⟩, Nat.le_trans hext.1 hv, hmeans⟩

/-- **A mapping is read.** -/
theorem gets_record (entries : List (Text × List Token × Datum)) (hentries : ∀ x ∈ entries,
      Kind.ofName (NativeName.ofText x.1) = .text ∧ Gets true x.2.1 height x.2.2 ∧
      ∃ tok more, x.2.1 = tok :: more ∧ tok ∉ [Token.key, .value, .blockEnd]) :
    Gets flat (.blockMapping :: (entries.flatMap (fun x => entryTokens x.1 x.2.1) ++ [.blockEnd]))
      (height + 1) (.record (entries.map (fun x => (x.1, x.2.2)))) := by
  intro handles fuel r rest htokens hfuel _
  rw [List.length_cons, List.length_append] at hfuel
  obtain ⟨fuel, rfl⟩ : ∃ f, fuel = f + 1 := ⟨fuel - 1, by omega⟩
  rw [List.cons_append, List.append_assoc] at htokens
  obtain ⟨es, r', hread, htokens', hext, hparts⟩ := readEntries_eq
    (r := r.opened (entries.flatMap (fun x => entryTokens x.1 x.2.1) ++ .blockEnd :: rest))
    [] hentries rfl (show _ ≤ fuel by omega)
  obtain ⟨hext', hself, hbelow⟩ := extends_complete (n := .mapping .mapping es) hext
  refine ⟨_, readNode_entries htokens hread, htokens', hext', Or.inr (Or.inr ⟨es, _, rfl, hself,
    hparts.imp ?_⟩)⟩
  rintro e f ⟨⟨hk, hkey⟩, hv, hmeans⟩
  have hsize : (r.opened (entries.flatMap (fun x => entryTokens x.1 x.2.1) ++
    .blockEnd :: rest)).nodes.size = r.nodes.size + 1 := Array.size_push _
  have hk : r.nodes.size < e.1 := by omega
  have hv : r.nodes.size < e.2 := by omega
  exact ⟨⟨hk, (hbelow _ hk).trans hkey⟩, hv,
    hmeans.mono (fun k hk _ => hbelow k (Nat.lt_of_lt_of_le hv hk))⟩

/-! ### Documents -/

/-- **The only document of its tokens is read.** -/
theorem ofTokens?_eq {tok : Token} (h : Gets false (tok :: ts) height d)
    (htok : tok.isDirective = false) (hstart : tok ≠ .documentStart) :
    ∃ g, Graph.ofTokens? (tok :: ts) = .ok (some (0, g)) ∧ g.Means height 0 d := by
  obtain ⟨r', hread, htokens, -, hmeans⟩ := h
    (r := { tokens := tok :: ts }) (List.append_nil _).symm
    (show _ ≤ 3 * (tok :: ts).length + 3 by omega) nofun
  refine ⟨r'.nodes, ?_, hmeans⟩
  have hread : readNode ([] ++ standardHandles) (3 * (tok :: ts).length + 3) true false
      { tokens := tok :: ts } = .ok (0, r') := hread
  have hdocument : readDocument [] false (tok :: ts) = .ok ((0, r'.nodes), []) := by
    rw [readDocument]
    simp only [Bool.false_and, Bool.false_eq_true, if_false, hread]
    rw [Reading.at_, Reading.head?, htokens]
    rfl
  have hnone : (tok.isDirective || tok == .documentStart) = false := by simp [htok, hstart]
  rw [Graph.ofTokens?]
  simp only [hnone, Bool.false_eq_true, if_false, hdocument]
  rfl

end PackageCatalog.Yaml
