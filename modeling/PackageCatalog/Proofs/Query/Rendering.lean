import Mathlib.Data.List.Forall2
import PackageCatalog.Proofs.Query.Expression
import PackageCatalog.Proofs.Query.Substring

/-!
# The condition that is written for a predicate

A predicate over allowed fields is written as a condition with a mark for every term, and the
parameters stand in the order of the marks.  Read by the grammar of SQL, the condition has on every
row the truth of the predicate.  The terms give it nothing but their fields, how they compare, and
for parts of a text whether anything in them has to be escaped; so there is no value with which the
condition would say something else.

## Main definitions

* `Predicate.isAllowed` — predicates over allowed fields.
* `Predicate.leaves`, `Leaf.parameter` — the terms of a predicate, and what they are compared with.
* `Predicate.outline` — a predicate without its values.
* `Sql.Renders` — a condition is written right for a predicate.

## Main results

* `Sql.Renders.link` — a condition that is joined to others from the right.
* `Sql.exists_renders` — a predicate over allowed fields has a condition that is written right.
* `Sql.sql_of_outline` — the condition is that of the outline.
* `Sql.law_of_rendering` — **what is written for a predicate says what the predicate means, whatever
  its values are.**
-/

namespace PackageCatalog

/-! ### Terms -/

/-- A term of a predicate. -/
structure Leaf where
  field : Text
  value : Text
  whole : Bool
  deriving DecidableEq, Repr

namespace Leaf

/-- What the field of a term is compared with. -/
def parameter (l : Leaf) : Text := if l.whole then l.value else Like.pattern l.value

/-- The field of a term is allowed: the text index carries it, or the comparison is of the whole. -/
def isAllowed (l : Leaf) : Bool :=
  if l.whole then (Field.ofName? l.field).isSome else (Field.textOfName? l.field).isSome

/-- A value that stands for all that are escaped, or left as they are, as a value is. -/
def outline (l : Leaf) : Text :=
  if l.whole then [] else if Like.hasSpecial l.value then ['%'] else []

end Leaf

namespace Predicate

mutual

/-- The terms of a predicate, from left to right. -/
def leaves : Predicate → List Leaf
  | term field value whole => [⟨field, value, whole⟩]
  | all children => leavesOfAll children
  | any children => leavesOfAll children
  | other _ => []

/-- The terms of several predicates. -/
def leavesOfAll : List Predicate → List Leaf
  | [] => []
  | p :: ps => leaves p ++ leavesOfAll ps

end

mutual

/-- Every term is over an allowed field, and there is nothing that is no predicate. -/
def isAllowed : Predicate → Bool
  | term field value whole => Leaf.isAllowed ⟨field, value, whole⟩
  | all children => areAllowed children
  | any children => areAllowed children
  | other _ => false

/-- So it is of several predicates. -/
def areAllowed : List Predicate → Bool
  | [] => true
  | p :: ps => isAllowed p && areAllowed ps

end

mutual

/-- A predicate without its values: of a value stays only whether it has to be escaped. -/
def outline : Predicate → Predicate
  | term field value whole => term field (Leaf.outline ⟨field, value, whole⟩) whole
  | all children => all (outlineOfAll children)
  | any children => any (outlineOfAll children)
  | other value => other value

/-- Several predicates without their values. -/
def outlineOfAll : List Predicate → List Predicate
  | [] => []
  | p :: ps => outline p :: outlineOfAll ps

end

variable {ps qs : List Predicate} {row : Row}

theorem leavesOfAll_append : leavesOfAll (ps ++ qs) = leavesOfAll ps ++ leavesOfAll qs := by
  induction ps with
  | nil => rfl
  | cons p ps ih => rw [List.cons_append, leavesOfAll, ih, leavesOfAll, List.append_assoc]

theorem areAllowed_iff : areAllowed ps = true ↔ ∀ p ∈ ps, p.isAllowed = true := by
  induction ps with
  | nil => simp [areAllowed]
  | cons p ps ih => simp [areAllowed, ih]

theorem isAllowed_outline (p : Predicate) : p.outline.isAllowed = p.isAllowed := by
  have hall : ∀ ps : List Predicate, (∀ p ∈ ps, p.outline.isAllowed = p.isAllowed) →
      areAllowed (outlineOfAll ps) = areAllowed ps := by
    intro ps
    induction ps with
    | nil => exact fun _ => rfl
    | cons p ps ih =>
      intro h
      obtain ⟨hp, hps⟩ := List.forall_mem_cons.mp h
      rw [outlineOfAll, areAllowed, areAllowed, hp, ih hps]
  induction p using induction with
  | term name value whole => rfl
  | all children ih => exact hall children ih
  | any children ih => exact hall children ih
  | other value => rfl

/-- Predicates that are joined by a connective. -/
def join : Sql.Connective → List Predicate → Predicate
  | .and, ps => all ps
  | .or, ps => any ps

theorem leaves_join (w : Sql.Connective) : (join w ps).leaves = leavesOfAll ps := by
  cases w <;> rfl

theorem holds_join_singleton (w : Sql.Connective) (p : Predicate) :
    (join w [p]).holds row = p.holds row := by
  cases w <;> simp [join, holds, allHold, anyHolds]

/-- One more predicate on the right. -/
theorem holds_join_concat (w : Sql.Connective) (p : Predicate) :
    (join w (ps ++ [p])).holds row = w.apply ((join w ps).holds row) (p.holds row) := by
  cases w with
  | and =>
    rw [Bool.eq_iff_iff]
    simp [join, holds, allHold_iff, Sql.Connective.apply, or_imp, forall_and]
  | or =>
    rw [Bool.eq_iff_iff]
    simp [join, holds, anyHolds_iff, Sql.Connective.apply, or_and_right, exists_or]

end Predicate

namespace Sql

/-! ### Conditions that are written right -/

/-- A condition is written right for a predicate, and holds together as tightly as a level tells:
what it says has the truth of the predicate on every row, when its marks take the parameters and
leave what comes after; there is a mark for every term, and the parameters are those of the terms.
-/
structure Renders (n : Level) (p : Predicate) (c : Condition) : Prop where
  reads : ∃ e, Reads n c.sql e ∧
    ∀ row rest, e.eval row (c.parameters ++ rest) = some (p.holds row, rest)
  marks : c.sql.count '?' = p.leaves.length
  parameters : c.parameters = p.leaves.map Leaf.parameter

namespace Renders

variable {n : Level} {p : Predicate} {ps qs : List Predicate} {a c : Condition}
  {cs : List Condition}
  {w : Connective}

/-- In parentheses a condition holds together. -/
theorem parens (h : Renders .disjunction p c) :
    Renders .operand p ⟨'(' :: (c.sql ++ [')']), c.parameters⟩ where
  reads := by
    obtain ⟨e, hreads, heval⟩ := h.reads
    exact ⟨e, hreads.parens, heval⟩
  marks := by simp [h.marks]
  parameters := h.parameters

/-- A tighter condition can stand for one that holds together less. -/
theorem weaken {m : Level}
    (hweaken : ∀ {ps : List Phrase} {e : Expression}, Grammar n ps e → Grammar m ps e)
    (h : Renders n p c) : Renders m p c where
  reads := by
    obtain ⟨e, ⟨ts, phrases, hts, hphrases, hgrammar⟩, heval⟩ := h.reads
    exact ⟨e, ⟨ts, phrases, hts, hphrases, hweaken hgrammar⟩, heval⟩
  marks := h.marks
  parameters := h.parameters

/-- A single condition, before others are joined to it. -/
theorem single (h : Renders .operand p c) : Renders w.level (.join w [p]) c where
  reads := by
    obtain ⟨e, ⟨ts, phrases, hts, hphrases, hgrammar⟩, heval⟩ := h.reads
    refine ⟨e, ⟨ts, phrases, hts, hphrases, ?_⟩, ?_⟩
    · cases w with
      | and => exact .clause hgrammar
      | or => exact .alternative (.clause hgrammar)
    · intro row rest
      rw [heval, Predicate.holds_join_singleton]
  marks := by simp [h.marks, Predicate.leaves_join, Predicate.leavesOfAll]
  parameters := by simp [h.parameters, Predicate.leaves_join, Predicate.leavesOfAll]

/-- **A condition that is joined to others from the right.** -/
theorem link (h : Renders w.level (.join w ps) a) (hc : Renders .operand p c) :
    Renders w.level (.join w (ps ++ [p]))
      ⟨a.sql ++ (w.text ++ c.sql), a.parameters ++ c.parameters⟩ where
  reads := by
    obtain ⟨e, hreads, heval⟩ := h.reads
    have hunder : Renders w.under p c := by
      cases w with
      | and => exact hc
      | or => exact hc.weaken .clause
    obtain ⟨e', hreads', heval'⟩ := hunder.reads
    refine ⟨.join w e e', hreads.join hreads', ?_⟩
    -- the left condition takes its parameters and leaves those of the right one
    intro row rest
    rw [List.append_assoc, Expression.eval, heval, Predicate.holds_join_concat]
    simp only [heval', Option.map_some]
  marks := by
    have hword : w.text.count '?' = 0 := by cases w <;> rfl
    simp only [List.count_append, h.marks, hc.marks, hword, Predicate.leaves_join,
      Predicate.leavesOfAll_append, Predicate.leavesOfAll, List.length_append, List.append_nil,
      Nat.zero_add]
  parameters := by
    simp only [h.parameters, hc.parameters, Predicate.leaves_join, Predicate.leavesOfAll_append,
      Predicate.leavesOfAll, List.map_append, List.append_nil]

end Renders

/-! ### Connectives -/

/-- What stands for a connective of nothing. -/
def Connective.empty : Connective → Text
  | and => ['1']
  | or => ['0']

theorem joinSql_cons (w : Connective) (c d : Condition) (cs : List Condition) :
    joinSql w.text (c :: d :: cs) =
      ('(' :: (c.sql ++ [')'])) ++ (w.text ++ joinSql w.text (d :: cs)) := by
  simp [joinSql]

/-- Conditions that are joined to others one after the other. -/
theorem renders_joined {w : Connective} {qs : List Predicate} {cs : List Condition}
    (h : List.Forall₂ (Renders .disjunction) qs cs) : ∀ {ps : List Predicate} {a : Condition},
      Renders w.level (.join w ps) a → cs ≠ [] →
        Renders w.level (.join w (ps ++ qs))
          ⟨a.sql ++ (w.text ++ joinSql w.text cs),
            a.parameters ++ cs.flatMap Condition.parameters⟩ := by
  induction h with
  | nil => exact fun _ hne => absurd rfl hne
  | @cons q c qs cs hq hqs ih =>
    intro ps a ha _
    have hlink := ha.link hq.parens
    cases cs with
    | nil =>
      cases hqs
      simpa [joinSql] using hlink
    | cons d cs =>
      have hmore := ih hlink (List.cons_ne_nil d cs)
      simpa [joinSql_cons] using hmore

/-- Conditions that are joined by a connective are written right for the predicates that are. -/
theorem renders_join {w : Connective} {ps : List Predicate} {cs : List Condition}
    (h : List.Forall₂ (Renders .disjunction) ps cs) :
    Renders .disjunction (.join w ps) (combine w.text w.empty cs) := by
  have hloosen : ∀ {p : Predicate} {c : Condition}, Renders w.level p c →
      Renders .disjunction p c := by
    intro p c hc
    cases w with
    | and => exact hc.weaken .alternative
    | or => exact hc
  cases h with
  | nil =>
    cases w with
    | and => exact ⟨⟨.constant true, ⟨_, _, rfl, rfl, .alternative (.clause (.leaf _))⟩,
        fun _ _ => rfl⟩, rfl, rfl⟩
    | or => exact ⟨⟨.constant false, ⟨_, _, rfl, rfl, .alternative (.clause (.leaf _))⟩,
        fun _ _ => rfl⟩, rfl, rfl⟩
  | @cons p c ps cs hp hps =>
    have hfirst : Renders w.level (.join w [p]) _ := hp.parens.single
    cases cs with
    | nil =>
      cases hps
      simpa [combine, joinSql] using hloosen hfirst
    | cons d cs =>
      have hall := renders_joined hps hfirst (List.cons_ne_nil d cs)
      simpa [combine, joinSql_cons] using hloosen hall

/-! ### Predicates -/

theorem tokens_equal (f : Field) : tokens ("d.".toList ++ f.name.toList ++ " = ?".toList) =
    some [.word ['d'], .dot, .word f.name.toList, .equals, .mark] := by
  cases f <;> rfl

/-- The tokens of a comparison by pattern, up to its mark. -/
theorem exists_tokens_like (f : Field) (v : Text) : ∃ ts,
    tokens ("f.".toList ++ f.name.toList ++ likeOperator (Like.escapeOf v)) =
        some ([.word ['f'], .dot, .word f.name.toList, .word "like".toList, .mark] ++ ts) ∧
      (Like.escapeOf v = none ∧ ts = [] ∨
        Like.escapeOf v = some '\\' ∧ ts = [.word "escape".toList, .literal ['\\']]) := by
  by_cases hspecial : Like.hasSpecial v = true
  · rw [Like.escapeOf, if_pos hspecial]
    exact ⟨_, by cases f <;> rfl, Or.inr ⟨rfl, rfl⟩⟩
  · rw [Like.escapeOf, if_neg hspecial]
    exact ⟨[], by cases f <;> rfl, Or.inl ⟨rfl, rfl⟩⟩

theorem reads_equal (f : Field) :
    Reads .disjunction ("d.".toList ++ f.name.toList ++ " = ?".toList) (.equal f) := by
  refine ⟨_, [.leaf (.equal f)], tokens_equal f, ?_, .alternative (.clause (.leaf _))⟩
  cases f <;> rfl

theorem reads_like {f : Field} (hf : f.isText = true) (v : Text) :
    Reads .disjunction ("f.".toList ++ f.name.toList ++ likeOperator (Like.escapeOf v))
      (.like f (Like.escapeOf v)) := by
  obtain ⟨ts, htokens, hescape⟩ := exists_tokens_like f v
  refine ⟨_, [.leaf (.like f (Like.escapeOf v))], htokens, ?_, .alternative (.clause (.leaf _))⟩
  rcases hescape with ⟨hescape, rfl⟩ | ⟨hescape, rfl⟩
  · rw [hescape]
    cases f <;> first | rfl | cases hf
  · rw [hescape]
    cases f <;> first | rfl | cases hf

/-- A comparison with the whole of a field. -/
theorem renders_equals (f : Field) (v : Text) :
    Renders .disjunction (.equals f v)
      ⟨"d.".toList ++ f.name.toList ++ " = ?".toList, [v]⟩ where
  reads := by
    refine ⟨.equal f, reads_equal f, ?_⟩
    intro row rest
    simp [Expression.eval, Predicate.equals, Predicate.holds, termHolds, Field.ofName?_name]
  marks := by cases f <;> rfl
  parameters := rfl

/-- A comparison with parts of a field. -/
theorem renders_token {f : Field} (hf : f.isText = true) (v : Text) :
    Renders .disjunction (.token f v)
      ⟨"f.".toList ++ f.name.toList ++ likeOperator (Like.escapeOf v), [Like.pattern v]⟩ where
  reads := by
    refine ⟨.like f (Like.escapeOf v), reads_like hf v, ?_⟩
    intro row rest
    simp [Expression.eval, Predicate.token, Predicate.holds, termHolds, Field.ofName?_name,
      tokenHolds]
  marks := by
    by_cases hspecial : Like.hasSpecial v = true
    · rw [Like.escapeOf, if_pos hspecial]
      cases f <;> rfl
    · rw [Like.escapeOf, if_neg hspecial]
      cases f <;> rfl
  parameters := rfl

/-- The condition of a term over an allowed field. -/
theorem exists_renders_term {name value : Text} {whole : Bool}
    (h : (Predicate.term name value whole).isAllowed = true) :
    ∃ c, render (.term name value whole) = .ok c ∧
      Renders .disjunction (.term name value whole) c := by
  cases whole with
  | true =>
    obtain ⟨f, hf : Field.ofName? name = some f⟩ := Option.isSome_iff_exists.mp h
    obtain rfl := Field.eq_name_of_ofName? hf
    exact ⟨_, by simp [render, renderTerm, hf], renders_equals f value⟩
  | false =>
    obtain ⟨f, hf : Field.textOfName? name = some f⟩ := Option.isSome_iff_exists.mp h
    obtain ⟨hname, htext⟩ := Option.filter_eq_some_iff.mp hf
    obtain rfl := Field.eq_name_of_ofName? hname
    exact ⟨_, render_token htext value, renders_token htext value⟩

/-- What is written for the children of a connective. -/
theorem exists_renderAll {ps : List Predicate}
    (h : ∀ p ∈ ps, ∃ c, render p = .ok c ∧ Renders .disjunction p c) :
    ∃ cs, renderAll ps = .ok cs ∧ List.Forall₂ (Renders .disjunction) ps cs := by
  induction ps with
  | nil => exact ⟨[], rfl, .nil⟩
  | cons p ps ih =>
    obtain ⟨hp, hps⟩ := List.forall_mem_cons.mp h
    obtain ⟨c, hc, hrenders⟩ := hp
    obtain ⟨cs, hcs, hall⟩ := ih hps
    exact ⟨c :: cs, by rw [renderAll, hc, hcs], .cons hrenders hall⟩

/-- **A predicate over allowed fields has a condition that is written right.** -/
theorem exists_renders {p : Predicate} (hp : p.isAllowed = true) :
    ∃ c, render p = .ok c ∧ Renders .disjunction p c := by
  induction p using Predicate.induction with
  | term name value whole => exact exists_renders_term hp
  | all children ih =>
    have hchildren := Predicate.areAllowed_iff.mp hp
    obtain ⟨cs, hcs, hall⟩ := exists_renderAll (fun p hp => ih p hp (hchildren p hp))
    exact ⟨_, by rw [render, hcs]; rfl, renders_join (w := .and) hall⟩
  | any children ih =>
    have hchildren := Predicate.areAllowed_iff.mp hp
    obtain ⟨cs, hcs, hall⟩ := exists_renderAll (fun p hp => ih p hp (hchildren p hp))
    exact ⟨_, by rw [render, hcs]; rfl, renders_join (w := .or) hall⟩
  | other value => cases hp

/-! ### Values -/

/-- What conditions are joined to is settled by their texts. -/
theorem joinSql_congr {word : Text} {cs ds : List Condition}
    (h : cs.map Condition.sql = ds.map Condition.sql) : joinSql word cs = joinSql word ds := by
  induction cs generalizing ds with
  | nil =>
    cases ds with
    | nil => rfl
    | cons d ds => cases h
  | cons c cs ih =>
    cases ds with
    | nil => cases h
    | cons d ds =>
      obtain ⟨hfirst, hrest⟩ := List.cons.inj h
      cases cs with
      | nil =>
        cases ds with
        | nil => simp [joinSql, hfirst]
        | cons d' ds => cases hrest
      | cons c' cs =>
        cases ds with
        | nil => cases hrest
        | cons d' ds => simp [joinSql, hfirst, ih hrest]

theorem combine_congr {word empty : Text} {cs ds : List Condition}
    (h : cs.map Condition.sql = ds.map Condition.sql) :
    (combine word empty cs).sql = (combine word empty ds).sql := by
  cases cs with
  | nil =>
    cases ds with
    | nil => rfl
    | cons d ds => cases h
  | cons c cs =>
    cases ds with
    | nil => cases h
    | cons d ds =>
      simp only [combine, List.isEmpty_cons]
      exact joinSql_congr h

/-- The condition of a term has of its value only whether it is escaped. -/
theorem sql_of_outline_term (name value : Text) (whole : Bool) :
    (render (.term name value whole)).map Condition.sql =
      (render (Predicate.term name value whole).outline).map Condition.sql := by
  cases whole with
  | true =>
    simp only [Predicate.outline, render, renderTerm, if_true]
    cases Field.ofName? name <;> rfl
  | false =>
    have hspecial : Like.hasSpecial (Leaf.outline ⟨name, value, false⟩) =
        Like.hasSpecial value := by
      cases h : Like.hasSpecial value with
      | true => simp only [Leaf.outline, h]; rfl
      | false => simp only [Leaf.outline, h]; rfl
    simp only [Predicate.outline, render, renderTerm, hspecial, Bool.false_eq_true, if_false]
    cases Field.textOfName? name <;> rfl

/-- The texts of the conditions of several predicates: that of the first, and those of the others.
-/
theorem sql_renderAll_cons (p : Predicate) (ps : List Predicate) :
    (renderAll (p :: ps)).map (List.map Condition.sql) =
      ((render p).map Condition.sql).bind fun text =>
        ((renderAll ps).map (List.map Condition.sql)).map (text :: ·) := by
  rw [renderAll]
  cases render p with
  | error e => rfl
  | ok c => cases renderAll ps <;> rfl

/-- So it is with the conditions of several predicates. -/
theorem sql_of_outlineOfAll {ps : List Predicate}
    (h : ∀ p ∈ ps, (render p).map Condition.sql = (render p.outline).map Condition.sql) :
    (renderAll ps).map (List.map Condition.sql) =
      (renderAll (Predicate.outlineOfAll ps)).map (List.map Condition.sql) := by
  induction ps with
  | nil => rfl
  | cons p ps ih =>
    obtain ⟨hp, hps⟩ := List.forall_mem_cons.mp h
    rw [Predicate.outlineOfAll, sql_renderAll_cons, sql_renderAll_cons, hp, ih hps]

/-- What is written for a connective has of its children only their texts. -/
theorem sql_of_combine {word empty : Text} {cs ds : Except QueryError (List Condition)}
    (h : cs.map (List.map Condition.sql) = ds.map (List.map Condition.sql)) :
    (cs.map (combine word empty)).map Condition.sql =
      (ds.map (combine word empty)).map Condition.sql := by
  cases cs with
  | error e =>
    cases ds with
    | error e' => exact congrArg Except.error (Except.error.inj h)
    | ok ds => cases h
  | ok cs =>
    cases ds with
    | error e => cases h
    | ok ds => exact congrArg Except.ok (combine_congr (Except.ok.inj h))

/-- **The condition is that of the outline**, and where the one is refused so is the other. -/
theorem sql_of_outline (p : Predicate) :
    (render p).map Condition.sql = (render p.outline).map Condition.sql := by
  induction p using Predicate.induction with
  | term name value whole => exact sql_of_outline_term name value whole
  | all children ih => exact sql_of_combine (sql_of_outlineOfAll ih)
  | any children ih => exact sql_of_combine (sql_of_outlineOfAll ih)
  | other value => rfl

/-! ### The law -/

/-- **The law of rendering.**  For a predicate over allowed fields a condition is written, and

* it says one thing by the grammar of SQL;
* it has as many marks as there are parameters, and there is a parameter for every term, in order;
* with its marks bound to the parameters from left to right it has on every row the truth of the
  predicate; so of a document and its own index row it says what the predicate means;
* for a predicate that differs in its values only, and not in which of those that are looked for as
  parts have to be escaped, the same condition is written, and with the parameters of that
  predicate it has the truth of that predicate. -/
theorem law_of_rendering (p : Predicate) (hp : p.isAllowed = true) :
    ∃ c e, render p = .ok c ∧ (∀ e', Reads .disjunction c.sql e' ↔ e' = e) ∧
      (c.sql.count '?' = c.parameters.length ∧ c.parameters.length = p.leaves.length ∧
        c.parameters = p.leaves.map Leaf.parameter) ∧
      (∀ row, e.truth row c.parameters = some (p.holds row)) ∧
      (∀ d : Document, e.truth (d, d.indexRow) c.parameters = some true ↔ d.Satisfies p) ∧
      ∀ q : Predicate, q.outline = p.outline → ∃ c', render q = .ok c' ∧ c'.sql = c.sql ∧
        ∀ row, e.truth row c'.parameters = some (q.holds row) := by
  obtain ⟨c, hc, hrenders⟩ := exists_renders hp
  obtain ⟨e, hreads, heval⟩ := hrenders.reads
  have hlength : c.parameters.length = p.leaves.length := by
    rw [hrenders.parameters, List.length_map]
  have htruth : ∀ row, e.truth row c.parameters = some (p.holds row) := by
    intro row
    have hrow := heval row []
    rw [List.append_nil] at hrow
    rw [Expression.truth, hrow]
  refine ⟨c, e, hc, ?_, ⟨hrenders.marks.trans hlength.symm, hlength, hrenders.parameters⟩, htruth,
    ?_, ?_⟩
  · intro e'
    constructor
    · exact fun h => h.unique hreads
    · rintro rfl
      exact hreads
  · intro d
    rw [htruth, Option.some.injEq]
    exact Predicate.holds_own_iff ⟨c, hc⟩
  · intro q hq
    have hallowed : q.isAllowed = true := by
      rw [← Predicate.isAllowed_outline, hq, Predicate.isAllowed_outline, hp]
    obtain ⟨c', hc', hrenders'⟩ := exists_renders hallowed
    obtain ⟨e', hreads', heval'⟩ := hrenders'.reads
    have hsql : c'.sql = c.sql := by
      have h := (sql_of_outline q).trans
        ((congrArg _ (congrArg _ hq)).trans (sql_of_outline p).symm)
      rw [hc, hc'] at h
      exact Except.ok.inj h
    -- one text has one reading
    rw [hsql] at hreads'
    obtain rfl := hreads'.unique hreads
    refine ⟨c', hc', hsql, ?_⟩
    intro row
    have hrow := heval' row []
    rw [List.append_nil] at hrow
    rw [Expression.truth, hrow]

/-- A nested predicate: with other values the same text is written, unless a percent sign comes in.
-/
theorem law_of_rendering_nested :
    let p := Predicate.all [.token .content ['a'], .any [.equals .suffix ['c'], .token .path ['%']]]
    let q := Predicate.all [.token .content ['b'], .any [.equals .suffix ['%'], .token .path ['_']]]
    p.isAllowed = true ∧ q.outline = p.outline ∧
      ∃ c c', render p = .ok c ∧ render q = .ok c' ∧ c'.sql = c.sql ∧
        c.parameters = [['%', 'a', '%'], ['c'], ['%', '\\', '%', '%']] := by
  intro p q
  have hp : p.isAllowed = true := by decide
  have hq : q.outline = p.outline := by rfl
  obtain ⟨c, _, hc, -, ⟨-, -, hparameters⟩, -, -, houtline⟩ := law_of_rendering p hp
  obtain ⟨c', hc', hsql, -⟩ := houtline q hq
  exact ⟨hp, hq, c, c', hc, hc', hsql, hparameters⟩

end Sql

end PackageCatalog
