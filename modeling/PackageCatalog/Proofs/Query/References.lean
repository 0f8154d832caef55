import PackageCatalog.Proofs.Query.Rendering
import PackageCatalog.Store.Table

/-!
# What a query may refer to

A query is written from its nodes, from left to right, each before the nodes below it.  A node that
compares a field must name one that the table it reads has; a node that is no predicate cannot be
written at all.  The first node at fault decides, and then nothing is asked of any store.

What is written refers to tables by their aliases: to the documents for every comparison with the
whole of a field, and to the text index for every comparison with a part.  A query reads the text
index when it has a comparison of the second kind, so every alias that it refers to stands for a
table.

## Main definitions

* `Predicate.nodes`, `Predicate.fault?` — the nodes of a predicate in their order, and what is wrong
  with one of them by itself.
* `Sql.aliases` — the aliases that a condition refers to.
* `Sql.scope` — the aliases of the tables that a query reads.

## Main results

* `Sql.refusal?_render` — **the first node at fault decides.**
* `Sql.Refers.join`, `Sql.refers_render` — what a condition refers to.
* `Store.select_of_index` — a query without comparisons with parts does not read the text index.
* `Sql.law_of_references` — **what is refused, and what is referred to.**
-/

namespace PackageCatalog

/-! ### Nodes -/

namespace Field

/-- The names of the fields of documents. -/
def names : List Text := all.map (fun f => f.name.toList)

/-- The names of the fields that the text index carries. -/
def textNames : List Text := (all.filter isText).map (fun f => f.name.toList)

theorem mem_names_iff {name : Text} : name ∈ names ↔ ∃ f, ofName? name = some f := by
  constructor
  · intro h
    obtain ⟨f, -, rfl⟩ := List.mem_map.mp h
    exact ⟨f, ofName?_name f⟩
  · rintro ⟨f, hf⟩
    rw [eq_name_of_ofName? hf]
    exact List.mem_map_of_mem (by cases f <;> decide)

theorem mem_textNames_iff {name : Text} : name ∈ textNames ↔ ∃ f, textOfName? name = some f := by
  constructor
  · intro h
    obtain ⟨f, hf, rfl⟩ := List.mem_map.mp h
    exact ⟨f, textOfName?_name (List.mem_filter.mp hf).2⟩
  · rintro ⟨f, hf⟩
    obtain ⟨hname, htext⟩ := Option.filter_eq_some_iff.mp hf
    rw [eq_name_of_ofName? hname]
    exact List.mem_map_of_mem (List.mem_filter.mpr ⟨by cases f <;> decide, htext⟩)

end Field

namespace Predicate

mutual

/-- The nodes of a predicate: each before those below it, and those from left to right. -/
def nodes : Predicate → List Predicate
  | all children => all children :: nodesOfAll children
  | any children => any children :: nodesOfAll children
  | p => [p]

/-- The nodes of several predicates. -/
def nodesOfAll : List Predicate → List Predicate
  | [] => []
  | p :: ps => nodes p ++ nodesOfAll ps

end

/-- What is wrong with a node by itself: a comparison of a field that is not there, or that the text
index does not carry, or something that is no predicate. -/
def fault? : Predicate → Option QueryError
  | term name _ whole =>
    if name ∈ (if whole then Field.names else Field.textNames) then none
    else some (.unknownField name)
  | all _ => none
  | any _ => none
  | other value => some (.notPredicate value)

end Predicate

/-- The alias of the table that a term reads. -/
def Leaf.table (l : Leaf) : Text := if l.whole then ['d'] else ['f']

namespace Sql

variable {p : Predicate} {ps : List Predicate} {c : Condition} {cs : List Condition}

/-! ### The first node at fault -/

/-- Why something is refused. -/
def refusal? {α : Type} : Except QueryError α → Option QueryError
  | .error e => some e
  | .ok _ => none

theorem refusal?_eq_some_iff {α : Type} {x : Except QueryError α} {e : QueryError} :
    refusal? x = some e ↔ x = .error e := by
  cases x <;> simp [refusal?]

theorem refusal?_eq_none_iff {α : Type} {x : Except QueryError α} :
    refusal? x = none ↔ ∃ a, x = .ok a := by
  cases x <;> simp [refusal?]

theorem refusal?_map {α β : Type} (f : α → β) (x : Except QueryError α) :
    refusal? (x.map f) = refusal? x := by
  cases x <;> rfl

theorem refusal?_renderTerm (name value : Text) (whole : Bool) :
    refusal? (renderTerm name value whole) = (Predicate.term name value whole).fault? := by
  cases whole with
  | true =>
    rw [renderTerm, Predicate.fault?, if_pos rfl, if_pos rfl]
    cases hname : Field.ofName? name with
    | none =>
      have hnot : name ∉ Field.names := fun h => by
        obtain ⟨f, hf⟩ := Field.mem_names_iff.mp h
        cases hname.symm.trans hf
      rw [if_neg hnot]
      rfl
    | some f =>
      rw [if_pos (Field.mem_names_iff.mpr ⟨f, hname⟩)]
      rfl
  | false =>
    rw [renderTerm, Predicate.fault?, if_neg Bool.false_ne_true, if_neg Bool.false_ne_true]
    cases hname : Field.textOfName? name with
    | none =>
      have hnot : name ∉ Field.textNames := fun h => by
        obtain ⟨f, hf⟩ := Field.mem_textNames_iff.mp h
        cases hname.symm.trans hf
      rw [if_neg hnot]
      rfl
    | some f =>
      rw [if_pos (Field.mem_textNames_iff.mpr ⟨f, hname⟩)]
      rfl

/-- Of several predicates the first that is refused decides. -/
theorem refusal?_renderAll
    (h : ∀ p ∈ ps, refusal? (render p) = p.nodes.findSome? Predicate.fault?) :
    refusal? (renderAll ps) = (Predicate.nodesOfAll ps).findSome? Predicate.fault? := by
  induction ps with
  | nil => rfl
  | cons p ps ih =>
    obtain ⟨hp, hps⟩ := List.forall_mem_cons.mp h
    rw [Predicate.nodesOfAll, List.findSome?_append, ← hp, ← ih hps, renderAll]
    cases render p with
    | error e => rfl
    | ok c => cases renderAll ps <;> rfl

/-- **The first node at fault decides.** -/
theorem refusal?_render (p : Predicate) :
    refusal? (render p) = p.nodes.findSome? Predicate.fault? := by
  have hnode : ∀ q : Predicate, q.fault? = [q].findSome? Predicate.fault? := fun q => by
    rw [List.findSome?_singleton]
  induction p using Predicate.induction with
  | term name value whole => exact (refusal?_renderTerm name value whole).trans (hnode _)
  | all children ih =>
    rw [render, refusal?_map, refusal?_renderAll ih]
    rfl
  | any children ih =>
    rw [render, refusal?_map, refusal?_renderAll ih]
    rfl
  | other value => rfl

/-! ### References -/

/-- The words that stand before dots. -/
def qualifiers : List Token → List Text
  | .word w :: .dot :: ts => w :: qualifiers ts
  | _ :: ts => qualifiers ts
  | [] => []

/-- The aliases that a condition refers to, one for each time. -/
def aliases (sql : Text) : List Text := ((tokens sql).map qualifiers).getD []

/-- The aliases of the tables that a query reads: the documents, and the text index if it is
joined. -/
def scope (p : Predicate) : List Text := if p.needsIndex then [['d'], ['f']] else [['d']]

theorem qualifiers_word {ts : List Token} (h : ts.head? ≠ some .dot) (w : Text) :
    qualifiers (.word w :: ts) = qualifiers ts := by
  cases ts with
  | nil => rfl
  | cons t ts =>
    cases t with
    | dot => exact absurd rfl h
    | _ => rfl

/-- References before something else than a dot. -/
theorem qualifiers_append {t : Token} (ht : t ≠ .dot) (ts ts' : List Token) :
    qualifiers (ts ++ t :: ts') = qualifiers ts ++ qualifiers (t :: ts') := by
  fun_induction qualifiers ts with
  | case1 w ts ih => exact congrArg (w :: ·) ih
  | case2 a ts hno ih =>
    have hhead : ∀ w, a = .word w → (ts ++ t :: ts').head? ≠ some .dot := by
      rintro w rfl hdot
      cases ts with
      | nil => exact ht (Option.some.inj hdot)
      | cons b ts => exact hno w ts rfl (congrArg (· :: ts) (Option.some.inj hdot))
    rw [List.cons_append, ← ih]
    cases a with
    | word w => exact qualifiers_word (hhead w rfl) w
    | _ => rfl
  | case3 => rfl

/-- A text refers to tables by some aliases, one after the other. -/
def Refers (sql : Text) (names : List Text) : Prop :=
  ∃ ts, tokens sql = some ts ∧ ts.head? ≠ some .dot ∧ qualifiers ts = names

namespace Refers

variable {sql sql' : Text} {names names' : List Text}

theorem aliases_eq (h : Refers sql names) : aliases sql = names := by
  obtain ⟨ts, hts, -, hnames⟩ := h
  rw [aliases, hts]
  exact hnames

theorem parens (h : Refers sql names) : Refers ('(' :: (sql ++ [')'])) names := by
  obtain ⟨ts, hts, -, rfl⟩ := h
  refine ⟨_, tokens_parens hts, nofun, ?_⟩
  show qualifiers (ts ++ [.closing]) = qualifiers ts
  rw [qualifiers_append (show Token.closing ≠ .dot from nofun)]
  exact List.append_nil _

/-- What is joined refers to what its parts refer to. -/
theorem join {w : Connective} (h : Refers sql names) (h' : Refers sql' names') :
    Refers (sql ++ (w.text ++ sql')) (names ++ names') := by
  obtain ⟨ts, hts, hhead, rfl⟩ := h
  obtain ⟨ts', hts', hhead', rfl⟩ := h'
  refine ⟨_, tokens_join hts hts', ?_, ?_⟩
  · cases ts with
    | nil => nofun
    | cons t ts => exact hhead
  · rw [qualifiers_append (show Token.word w.word ≠ .dot from nofun), qualifiers_word hhead']

end Refers

theorem refers_joinSql {w : Connective} {names : List (List Text)}
    (h : List.Forall₂ (fun c ns => Refers c.sql ns) cs names) (hne : cs ≠ []) :
    Refers (joinSql w.text cs) names.flatten := by
  induction h with
  | nil => exact absurd rfl hne
  | @cons c ns cs names hc hcs ih =>
    cases cs with
    | nil =>
      cases hcs
      rw [List.flatten_cons, List.flatten_nil, List.append_nil]
      exact hc.parens
    | cons d cs =>
      rw [joinSql_cons, List.flatten_cons]
      exact hc.parens.join (ih (List.cons_ne_nil d cs))

/-- What a connective of conditions refers to. -/
theorem refers_combine {w : Connective} {names : List (List Text)}
    (h : List.Forall₂ (fun c ns => Refers c.sql ns) cs names) :
    Refers (combine w.text w.empty cs).sql names.flatten := by
  cases h with
  | nil => cases w <;> exact ⟨_, rfl, nofun, rfl⟩
  | cons hc hcs => exact refers_joinSql (.cons hc hcs) (List.cons_ne_nil _ _)

theorem refers_term {name value : Text} {whole : Bool}
    (h : render (.term name value whole) = .ok c) :
    Refers c.sql [Leaf.table ⟨name, value, whole⟩] := by
  cases whole with
  | true =>
    rw [render, renderTerm, if_pos rfl] at h
    split at h
    · next f _ =>
      rw [← Except.ok.inj h]
      exact ⟨_, tokens_equal f, by simp, rfl⟩
    · cases h
  | false =>
    obtain ⟨f, hf⟩ := Predicate.writable_token_iff.mp ⟨c, h⟩
    obtain ⟨hname, htext⟩ := Option.filter_eq_some_iff.mp hf
    obtain rfl := Field.eq_name_of_ofName? hname
    obtain ⟨ts, htokens, hescape⟩ := exists_tokens_like f value
    rw [← Except.ok.inj ((render_token htext value).symm.trans h)]
    refine ⟨_, htokens, by simp, ?_⟩
    rcases hescape with ⟨-, rfl⟩ | ⟨-, rfl⟩ <;> rfl

/-- What the children of a connective refer to. -/
theorem refers_renderAll (hcs : renderAll ps = .ok cs)
    (h : ∀ p ∈ ps, ∀ c, render p = .ok c → Refers c.sql (p.leaves.map Leaf.table)) :
    List.Forall₂ (fun c ns => Refers c.sql ns) cs (ps.map (fun p => p.leaves.map Leaf.table)) := by
  induction ps generalizing cs with
  | nil =>
    cases hcs
    exact .nil
  | cons p ps ih =>
    obtain ⟨hp, hps⟩ := List.forall_mem_cons.mp h
    rw [renderAll] at hcs
    cases hrender : render p with
    | error e =>
      rw [hrender] at hcs
      cases hcs
    | ok c =>
      cases hrest : renderAll ps with
      | error e =>
        rw [hrender, hrest] at hcs
        cases hcs
      | ok cs' =>
        rw [hrender, hrest] at hcs
        cases hcs
        exact .cons (hp c hrender) (ih hrest hps)

theorem leavesOfAll_map (ps : List Predicate) (f : Leaf → Text) :
    (Predicate.leavesOfAll ps).map f = (ps.map (fun p => p.leaves.map f)).flatten := by
  induction ps with
  | nil => rfl
  | cons p ps ih =>
    rw [Predicate.leavesOfAll, List.map_append, ih, List.map_cons, List.flatten_cons]

/-- **What a condition refers to**: the table of each term, from left to right. -/
theorem refers_render (h : render p = .ok c) : Refers c.sql (p.leaves.map Leaf.table) := by
  have hconnective : ∀ {w : Connective} {children : List Predicate} {c : Condition},
      (∀ p ∈ children, ∀ c, render p = .ok c → Refers c.sql (p.leaves.map Leaf.table)) →
      (renderAll children).map (combine w.text w.empty) = .ok c →
        Refers c.sql ((Predicate.leavesOfAll children).map Leaf.table) := by
    intro w children c ih h
    cases hcs : renderAll children with
    | error e =>
      rw [hcs] at h
      cases h
    | ok cs =>
      rw [hcs] at h
      rw [← Except.ok.inj h, leavesOfAll_map]
      exact refers_combine (refers_renderAll hcs ih)
  induction p using Predicate.induction generalizing c with
  | term name value whole => exact refers_term h
  | all children ih => exact hconnective (w := .and) (fun p hp c => ih p hp) h
  | any children ih => exact hconnective (w := .or) (fun p hp c => ih p hp) h
  | other value => cases h

/-! ### The text index -/

end Sql

namespace Predicate

theorem someNeedsIndex_iff {ps : List Predicate} :
    someNeedsIndex ps = true ↔ ∃ p ∈ ps, p.needsIndex = true := by
  induction ps with
  | nil => simp [someNeedsIndex]
  | cons p ps ih => simp [someNeedsIndex, ih]

theorem mem_leavesOfAll_iff {ps : List Predicate} {l : Leaf} :
    l ∈ leavesOfAll ps ↔ ∃ p ∈ ps, l ∈ p.leaves := by
  induction ps with
  | nil => simp [leavesOfAll]
  | cons p ps ih => simp [leavesOfAll, ih]

/-- A query needs the text index for its terms that look for a part of a text. -/
theorem needsIndex_iff (p : Predicate) : p.needsIndex = true ↔ ∃ l ∈ p.leaves, l.whole = false := by
  have hchildren : ∀ children : List Predicate,
      (∀ p ∈ children, p.needsIndex = true ↔ ∃ l ∈ p.leaves, l.whole = false) →
      (someNeedsIndex children = true ↔ ∃ l ∈ leavesOfAll children, l.whole = false) := by
    intro children ih
    rw [someNeedsIndex_iff]
    constructor
    · rintro ⟨p, hp, hneeds⟩
      obtain ⟨l, hl, hpart⟩ := (ih p hp).mp hneeds
      exact ⟨l, mem_leavesOfAll_iff.mpr ⟨p, hp, hl⟩, hpart⟩
    · rintro ⟨l, hl, hpart⟩
      obtain ⟨p, hp, hl⟩ := mem_leavesOfAll_iff.mp hl
      exact ⟨p, hp, (ih p hp).mpr ⟨l, hl, hpart⟩⟩
  induction p using Predicate.induction with
  | term name value whole => simp [needsIndex, leaves]
  | all children ih => exact hchildren children ih
  | any children ih => exact hchildren children ih
  | other value => simp [needsIndex, leaves]

theorem index_mem_tables_iff (p : Predicate) :
    ['f'] ∈ p.leaves.map Leaf.table ↔ p.needsIndex = true := by
  rw [needsIndex_iff, List.mem_map]
  refine exists_congr (fun l => and_congr_right (fun _ => ?_))
  rw [Leaf.table]
  cases l.whole <;> simp

end Predicate

namespace Store

variable {s : Store} {p : Predicate}

/-- A query that needs the text index goes over documents and the index rows of their numbers. -/
theorem mem_rows_iff (h : p.needsIndex = true) {row : Row} :
    row ∈ s.rows p ↔ row.1 ∈ s.documents ∧ row.2 ∈ s.index ∧ row.2.id = row.1.id := by
  rw [rows, if_pos h]
  simp only [List.mem_flatMap, List.mem_map, List.mem_filter, beq_iff_eq]
  constructor
  · rintro ⟨d, hd, r, hr, rfl⟩
    exact ⟨hd, hr⟩
  · rintro ⟨hd, hr⟩
    exact ⟨row.1, hd, row.2, hr, rfl⟩

/-- A query that does not need the text index does not read it. -/
theorem select_of_index (h : p.needsIndex = false) (index : List IndexRow) (keys : List SortKey)
    (offset : Int) (limit : Option Int) :
    ({ s with index } : Store).select p keys offset limit = s.select p keys offset limit := by
  have hrows : ({ s with index } : Store).rows p = s.rows p := by
    rw [rows, rows, h]
    rfl
  rw [select, select, hrows]

end Store

/-! ### The law -/

/-- **What is refused, and what is referred to.**

* A query is written if and only if no node of it is at fault.
* Else the first node at fault, each before those below it and those from left to right, says why.
* Then every selection ends with that error, before the table is asked, whatever its state is.
* What is written refers to the tables of its terms, one after the other, and only to tables that
  the query reads.
* It refers to the text index if and only if the query needs it.  Then the documents are joined with
  the index rows of their numbers, and else nothing depends on what the index holds. -/
theorem Sql.law_of_references (p : Predicate) :
    ((∃ c, render p = .ok c) ↔ ∀ q ∈ p.nodes, q.fault? = none) ∧
    (∀ e, render p = .error e ↔ ∃ before q after, p.nodes = before ++ q :: after ∧
      q.fault? = some e ∧ ∀ r ∈ before, r.fault? = none) ∧
    (∀ e, render p = .error e → ∀ (t : Table) (keys : List SortKey) (sort : List (Text × Text))
      (offset : Int) (limit : Option Int), t.select p keys offset limit = .error (.query e) ∧
        t.selectBy p sort offset limit = .error (.query e)) ∧
    ∀ c, render p = .ok c →
      (aliases c.sql = p.leaves.map Leaf.table ∧ ∀ a ∈ aliases c.sql, a ∈ scope p) ∧
      (['f'] ∈ aliases c.sql ↔ p.needsIndex = true) ∧
      (['f'] ∈ aliases c.sql → ∀ (s : Store) (row : Row), row ∈ s.rows p ↔
        row.1 ∈ s.documents ∧ row.2 ∈ s.index ∧ row.2.id = row.1.id) ∧
      (['f'] ∉ aliases c.sql → ∀ (s : Store) (index : List IndexRow) (keys : List SortKey)
        (offset : Int) (limit : Option Int), ({ s with index } : Store).select p keys offset limit =
          s.select p keys offset limit) := by
  refine ⟨?_, fun e => ?_, fun e he t keys sort offset limit => ?_, fun c hc => ?_⟩
  · rw [← refusal?_eq_none_iff, refusal?_render, List.findSome?_eq_none_iff]
  · rw [← refusal?_eq_some_iff, refusal?_render, List.findSome?_eq_some_iff]
  · rw [Table.select, Table.selectBy, he]
    exact ⟨rfl, rfl⟩
  · have haliases := (refers_render hc).aliases_eq
    have hindex : ['f'] ∈ aliases c.sql ↔ p.needsIndex = true := by
      rw [haliases]
      exact p.index_mem_tables_iff
    refine ⟨⟨haliases, fun a ha => ?_⟩, hindex, fun hin s row => Store.mem_rows_iff (hindex.mp hin),
      fun hout s index keys offset limit => ?_⟩
    · rw [scope]
      have hmem := ha
      rw [haliases, List.mem_map] at hmem
      obtain ⟨l, -, rfl⟩ := hmem
      -- a reference to the index is one that the query needs it for
      cases hwhole : l.whole with
      | true => rw [Leaf.table, hwhole]; split <;> decide
      | false =>
        rw [Leaf.table, hwhole] at ha ⊢
        rw [if_pos (hindex.mp ha)]
        decide
    · exact Store.select_of_index (Bool.eq_false_iff.mpr (fun h => hout (hindex.mpr h))) index keys
        offset limit

/-- Of two nodes at fault the one to the left counts, however deep it stands; and an empty
connective beside a comparison with the whole of a field refers to no text index. -/
theorem Sql.law_of_references_nested :
    let p := Predicate.all [.any [], .equals .suffix ['c'],
      .any [.all [.token .path ['a'], .term "timestamp".toList ['1'] false], .other .null]]
    let q := Predicate.all [.any [], .equals .timestamp ['1']]
    (∀ t : Table, t.select p [] 0 none = .error (.query (.unknownField "timestamp".toList))) ∧
      ∃ c, render q = .ok c ∧ aliases c.sql = [['d']] ∧ ['f'] ∉ aliases c.sql ∧
        ∀ (s : Store) (index : List IndexRow), ({ s with index } : Store).select q [] 0 none =
          s.select q [] 0 none := by
  intro p q
  obtain ⟨-, hfirst, hasked, -⟩ := law_of_references p
  obtain ⟨hwritten, -, -, hrefers⟩ := law_of_references q
  have hfault : render p = .error (.unknownField "timestamp".toList) :=
    (hfirst _).mpr ⟨p.nodes.take 6, .term "timestamp".toList ['1'] false, [.other .null], rfl, rfl,
      by decide⟩
  obtain ⟨c, hc⟩ := hwritten.mpr (by decide)
  obtain ⟨⟨haliases, -⟩, -, -, hindex⟩ := hrefers c hc
  have hout : ['f'] ∉ aliases c.sql := by
    rw [haliases]
    decide
  exact ⟨fun t => (hasked _ hfault t [] [] 0 none).1, c, hc, haliases, hout,
    fun s index => hindex hout s index [] 0 none⟩

end PackageCatalog
