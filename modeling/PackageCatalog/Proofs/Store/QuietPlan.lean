import PackageCatalog.Store.Select
import PackageCatalog.Proofs.Query.Triable
import Mathlib.Data.List.TakeDrop

/-!
# Plans that meet no error

Whatever way a query is answered, the clauses that are tried on the way come from its predicate.
So a query whose patterns are all triable never ends in an error while rows are gone over, along
whichever routes.

## Main definitions

* `Reading.Within` — alternatives that are read are those of given clauses.
* `Route.Quiet`, `Plan.Quiet` — only triable clauses are tried.

## Main results

* `Side.within_of_mem_ways` — ways read the alternatives of the clauses they are for.
* `Plan.quiet_ofQuery` — the plan of a triable predicate is quiet.
* `Plan.fault?_eq_none` — **going over rows by a quiet plan ends in no error.**
-/

namespace PackageCatalog

/-! ### The best of several -/

/-- Going over a list and taking some elements in the place of the one in hand ends with one of
them. -/
theorem foldl_choice_mem {α : Type} (better : α → α → Bool) : ∀ (l : List α) (a : α),
    l.foldl (fun a b => if better b a then b else a) a ∈ a :: l := by
  intro l
  induction l with
  | nil => intro a; exact List.mem_singleton_self a
  | cons b l ih =>
    intro a
    rw [List.foldl_cons]
    rcases List.mem_cons.mp (ih (if better b a then b else a)) with h | h
    · rw [h]
      split
      · exact List.mem_cons_of_mem a List.mem_cons_self
      · exact List.mem_cons_self
    · exact List.mem_cons_of_mem a (List.mem_cons_of_mem b h)

/-! ### Ways -/

/-- Alternatives that are read are those of one of the clauses, and stand beside others of
them. -/
def Reading.Within (clauses : List Predicate) : Reading → Prop
  | .alternatives clause others => clause ∈ clauses ∧ ∀ q ∈ others, q ∈ clauses
  | _ => True

namespace Way

variable {clauses : List Predicate}

theorem mem_of_best?_eq_some {ways : List Way} {w : Way} (h : best? ways = some w) : w ∈ ways := by
  cases ways with
  | nil => cases h
  | cons v ways =>
    rw [← Option.some.inj h]
    exact foldl_choice_mem (fun b a => b.isBetter a) ways v

@[simp] theorem reading_besides (w v : Way) : (w.besides v).reading = w.reading := by
  unfold besides
  repeat' split
  all_goals rfl

@[simp] theorem reading_among (w : Way) (ways : List Way) : (w.among ways).reading = w.reading := by
  unfold among
  induction ways generalizing w with
  | nil => rfl
  | cons v ways ih => rw [List.foldl_cons, ih, reading_besides]

theorem mem_keep {ways : List Way} {v w : Way} (h : v ∈ keep ways w) : v ∈ ways ∨ v = w := by
  unfold keep at h
  split at h
  · exact Or.inl h
  · rw [List.span_eq_takeWhile_dropWhile] at h
    rcases List.mem_append.mp h with h | h
    · exact Or.inl ((List.takeWhile_sublist _).subset h)
    · rcases List.mem_cons.mp h with h | h
      · exact Or.inr h
      · exact Or.inl ((List.dropWhile_sublist _).subset (List.mem_filter.mp h).1)

/-- Ways of which each reads within the clauses. -/
def AllWithin (clauses : List Predicate) (ways : List Way) : Prop :=
  ∀ w ∈ ways, w.reading.Within clauses

theorem AllWithin.keep {ways : List Way} {w : Way} (h : AllWithin clauses ways)
    (hw : w.reading.Within clauses) : AllWithin clauses (keep ways w) := by
  intro v hv
  rcases mem_keep hv with hv | rfl
  · exact h v hv
  · exact hw

/-- Adding ways one after the other keeps within the clauses. -/
theorem AllWithin.foldl {α : Type} {add : List Way → α → List Way}
    {l : List α} (hadd : ∀ ways, ∀ a ∈ l, AllWithin clauses ways → AllWithin clauses (add ways a)) :
    ∀ {ways : List Way}, AllWithin clauses ways → AllWithin clauses (l.foldl add ways) := by
  induction l with
  | nil => intro ways h; exact h
  | cons a l ih =>
    intro ways h
    exact ih (fun ways b hb => hadd ways b (List.mem_cons_of_mem a hb))
      (hadd ways a List.mem_cons_self h)

theorem AllWithin.withAlternatives {offers : Predicate → Bool}
    {branch : List Way → Nat → Predicate → Option (Int × Int)} {ways : List Way}
    (h : AllWithin clauses ways) :
    AllWithin clauses (withAlternatives offers clauses branch ways) := by
  refine AllWithin.foldl ?_ h
  rintro ways ⟨c, i⟩ hc hways
  -- what is beside a clause are the clauses without it
  split
  · refine hways.keep ⟨?_, ?_⟩
    · exact List.fst_mem_of_mem_zipIdx hc
    · exact fun q hq => List.mem_of_mem_eraseIdx hq
  · exact hways

theorem within_searches {scope : Scope} {index : FieldIndex} {ordering : Option FieldIndex} :
    AllWithin clauses (searches scope index ordering) := by
  intro w hw
  cases index with
  | byPackage =>
    obtain ⟨a, -, hw⟩ := List.mem_flatMap.mp hw
    rcases List.mem_cons.mp hw with rfl | hw
    · trivial
    · obtain ⟨b, -, rfl⟩ := List.mem_map.mp hw
      trivial
  | byPath =>
    obtain ⟨a, -, rfl⟩ := List.mem_map.mp hw
    trivial

theorem within_whole {joined : Bool} {index : FieldIndex} :
    (whole clauses joined index).reading.Within clauses := trivial

/-- The ways along an index, all of it and parts of it. -/
theorem within_indexed {scope : Scope} {joined helps : Bool} {index : FieldIndex}
    {ordering : Option FieldIndex} :
    AllWithin clauses ((if helps then [whole clauses joined index] else []) ++
      searches scope index ordering) := by
  intro w hw
  rcases List.mem_append.mp hw with hw | hw
  · cases helps with
    | true => rw [List.mem_singleton.mp hw]; exact within_whole
    | false => exact absurd hw List.not_mem_nil
  · exact within_searches w hw

theorem within_ofDocuments {joined : Bool} {keys : List SortKey} :
    AllWithin clauses (ofDocuments clauses joined keys) := by
  unfold ofDocuments
  refine AllWithin.withAlternatives (AllWithin.foldl ?_ (fun _ h => absurd h List.not_mem_nil))
  intro ways w hw hways
  refine hways.keep ?_
  rw [reading_among]
  -- none of the plain ways reads alternatives
  rcases List.mem_cons.mp hw with rfl | hw
  · trivial
  rcases List.mem_append.mp hw with hw | hw
  · rcases List.mem_append.mp hw with hw | hw
    · cases joined with
      | true => rw [List.mem_singleton.mp hw]; trivial
      | false => exact absurd hw List.not_mem_nil
    · exact within_indexed w hw
  · exact within_indexed w hw

theorem within_ofIndex {joined : Bool} : AllWithin clauses (ofIndex clauses joined) := by
  unfold ofIndex
  refine AllWithin.withAlternatives (AllWithin.foldl ?_ (fun _ h => absurd h List.not_mem_nil))
  intro ways w hw hways
  refine hways.keep ?_
  rcases List.mem_append.mp hw with hw | hw
  · cases joined with
    | true => rw [List.mem_singleton.mp hw]; trivial
    | false => exact absurd hw List.not_mem_nil
  · rw [List.mem_singleton.mp hw, byLookups]
    split <;> trivial

end Way

/-- The ways on a side read the alternatives of the clauses they are for. -/
theorem Side.within_of_mem_ways {side : Side} {clauses : List Predicate} {joined : Bool}
    {keys : List SortKey} {w : Way} (h : w ∈ side.ways clauses joined keys) :
    w.reading.Within clauses := by
  cases side with
  | documents => exact Way.within_ofDocuments w h
  | index => exact Way.within_ofIndex w h

/-! ### Courses -/

namespace Course

variable {clauses : List Predicate}

/-- A course along ways that read within the clauses. -/
structure Within (clauses : List Predicate) (c : Course) : Prop where
  outer : c.outer.way.reading.Within clauses
  inner : ∀ s ∈ c.inner, s.way.reading.Within clauses

/-- Stages of which each reads within the clauses. -/
def StagesWithin (clauses : List Predicate) (stages : List Stage) : Prop :=
  ∀ s ∈ stages, s.way.reading.Within clauses

theorem mem_of_best?_eq_some {courses : List Course} {c : Course} (h : best? courses = some c) :
    c ∈ courses := by
  cases courses with
  | nil => cases h
  | cons d courses =>
    rw [← Option.some.inj h]
    exact foldl_choice_mem (fun b a => b.isBetter a) courses d

@[simp] theorem outer_ofCost (outer : Stage) (inner : Option Stage) (sorting : Option Int)
    (cost rows : Int) : (ofCost outer inner sorting cost rows).outer = outer := by
  cases sorting <;> rfl

@[simp] theorem inner_ofCost (outer : Stage) (inner : Option Stage) (sorting : Option Int)
    (cost rows : Int) : (ofCost outer inner sorting cost rows).inner = inner := by
  cases sorting <;> rfl

theorem within_start {sorting : Stage → Option Int} {s : Stage}
    (hs : s.way.reading.Within clauses) : (start sorting s).Within clauses := by
  constructor
  · rw [start, outer_ofCost]
    exact hs
  · rw [start, inner_ofCost]
    rintro _ ⟨⟩

theorem Within.within {c : Course} {s : Stage} (hc : c.Within clauses)
    (hs : s.way.reading.Within clauses) : (c.within s).Within clauses := by
  constructor
  · rw [Course.within, outer_ofCost]
    exact hc.outer
  · rw [Course.within, inner_ofCost]
    rintro _ ⟨⟩
    exact hs

/-- The courses that are begun on one side. -/
theorem within_of_begun {stages : List Stage} {sorting : Stage → Option Int} {c : Course}
    (hstages : StagesWithin clauses stages)
    (h : c ∈ (best? ((stages.filter (fun s => !s.way.needsOther)).map (start sorting))).toList) :
    c.Within clauses := by
  obtain ⟨s, hs, rfl⟩ := List.mem_map.mp (mem_of_best?_eq_some (Option.mem_toList.mp h))
  exact within_start (hstages s (List.mem_filter.mp hs).1)

theorem within_of_choose? {documents index : List Stage} {sorting : Stage → Option Int}
    {c : Course} (hdocuments : StagesWithin clauses documents)
    (hindex : StagesWithin clauses index) (h : choose? documents index sorting = some c) :
    c.Within clauses := by
  unfold choose? at h
  split at h
  · exact within_of_begun hdocuments (mem_of_best?_eq_some h)
  · rcases List.mem_append.mp (mem_of_best?_eq_some h) with h | h
    · obtain ⟨d, hd, h⟩ := List.mem_flatMap.mp h
      obtain ⟨s, hs, rfl⟩ := List.mem_map.mp h
      exact (within_of_begun hdocuments hd).within (hindex s hs)
    · obtain ⟨d, hd, h⟩ := List.mem_flatMap.mp h
      obtain ⟨s, hs, rfl⟩ := List.mem_map.mp h
      exact (within_of_begun hindex hd).within (hdocuments s hs)

theorem stagesWithin_ways {side : Side} {joined : Bool} {keys : List SortKey} :
    StagesWithin clauses ((side.ways clauses joined keys).map (Stage.mk side)) := by
  intro s hs
  obtain ⟨w, hw, rfl⟩ := List.mem_map.mp hs
  exact Side.within_of_mem_ways hw

theorem within_of_ofClauses? {joined : Bool} {fixed : List Field} {keys : List SortKey}
    {limit : Option Nat} {c : Course} (h : ofClauses? clauses joined fixed keys limit = some c) :
    c.Within clauses := by
  unfold ofClauses? at h
  have hdocuments : StagesWithin clauses
      ((Side.documents.ways clauses joined keys).map (Stage.mk .documents)) := stagesWithin_ways
  have hindex : StagesWithin clauses
      (if joined then (Side.index.ways clauses joined keys).map (Stage.mk .index) else []) := by
    cases joined with
    | true => exact stagesWithin_ways
    | false => exact fun _ hs => absurd hs List.not_mem_nil
  dsimp only at h
  split at h
  · cases h
  · next first hfirst =>
    split at h
    · rw [← Option.some.inj h]
      exact within_of_choose? hdocuments hindex hfirst
    · -- the second choice is among the same stages, or among those of them that stay
      refine within_of_choose? ?_ hindex h
      split
      · exact fun s hs => hdocuments s (List.mem_filter.mp hs).1
      · exact hdocuments

end Course

/-! ### Routes -/

namespace Route

/-- A route on which only triable clauses are tried. -/
inductive Quiet : Route → Prop
  | along {fields : List Field} {lookups tests : List Predicate} :
    (∀ p ∈ tests, p.isTriable = true) → Quiet (.along fields lookups tests)
  | branches {parts : List Route} {tests : List Predicate} :
    (∀ r ∈ parts, Quiet r) → (∀ p ∈ tests, p.isTriable = true) → Quiet (.branches parts tests)

/-- Meetings of which each is that of a row. -/
def AllMet (meetings : List Meeting) : Prop := ∀ m ∈ meetings, ∃ row, m = .ok row

theorem allMet_flatMap {α : Type} {f : α → List Meeting} {l : List α}
    (h : ∀ a ∈ l, AllMet (f a)) : AllMet (l.flatMap f) := by
  intro m hm
  obtain ⟨a, ha, hm⟩ := List.mem_flatMap.mp hm
  exact h a ha m hm

theorem allMet_meet {tests : List Predicate} (h : ∀ p ∈ tests, p.isTriable = true) (row : Row) :
    AllMet (meet tests row) := by
  have htry : Predicate.attemptAll row tests = .ok (Predicate.allHold row tests) :=
    Predicate.attemptAll_eq_ok (fun p hp => Predicate.attempt_eq_ok row (h p hp))
  unfold meet
  rw [htry]
  cases Predicate.allHold row tests with
  | true => exact fun m hm => ⟨row, List.mem_singleton.mp hm⟩
  | false => exact fun m hm => absurd hm List.not_mem_nil

theorem mem_of_mem_firstMeetings {m : Meeting} : ∀ {ms : List Meeting} {seen : List Nat},
    m ∈ firstMeetings seen ms → m ∈ ms := by
  intro ms
  induction ms with
  | nil => intro seen h; exact h
  | cons n ms ih =>
    intro seen h
    cases n with
    | error e =>
      rcases List.mem_cons.mp h with rfl | h
      · exact List.mem_cons_self
      · exact List.mem_cons_of_mem _ (ih h)
    | ok row =>
      rw [firstMeetings] at h
      split at h
      · exact List.mem_cons_of_mem _ (ih h)
      · rcases List.mem_cons.mp h with rfl | h
        · exact List.mem_cons_self
        · exact List.mem_cons_of_mem _ (ih h)

theorem walkAll_eq_flatMap (parts : List Route) (rows : List Row) :
    walkAll parts rows = parts.flatMap (fun r => r.walk rows) := by
  induction parts with
  | nil => rfl
  | cons r parts ih => rw [walkAll, ih, List.flatMap_cons]

/-- On a quiet route there are rows only. -/
theorem Quiet.allMet_walk {r : Route} (h : r.Quiet) (rows : List Row) : AllMet (r.walk rows) := by
  induction h with
  | along htests =>
    rw [walk]
    exact allMet_flatMap (fun row _ => allMet_meet htests row)
  | branches _ htests ih =>
    -- a row that was met on one of the parts is tried once more
    rw [walk, walkAll_eq_flatMap]
    refine allMet_flatMap ?_
    intro m hm
    obtain ⟨row, rfl⟩ := allMet_flatMap ih m (mem_of_mem_firstMeetings hm)
    exact allMet_meet htests row

theorem quiet_nowhere : nowhere.Quiet := by
  refine .along ?_
  intro p hp
  rw [List.mem_singleton.mp hp]
  rfl

variable {clauses : List Predicate} (hclauses : ∀ p ∈ clauses, p.isTriable = true)
include hclauses

theorem triable_testsOf (tries : Predicate → Bool) :
    ∀ p ∈ testsOf tries clauses, p.isTriable = true := by
  intro p hp
  obtain ⟨q, hq, rfl⟩ := List.mem_map.mp hp
  exact Predicate.isTriable_settled (hclauses q (List.mem_filter.mp hq).1)

/-- The route along a way is quiet when the routes through single alternatives are. -/
theorem quiet_ofWay {inside : List Predicate → Route} {side : Side} {tries : Predicate → Bool}
    {w : Way} (hw : w.reading.Within clauses)
    (hinside : ∀ qs : List Predicate, (∀ q ∈ qs, q.isTriable = true) → (inside qs).Quiet) :
    (ofWay inside side tries clauses w).Quiet := by
  have htests := triable_testsOf hclauses tries
  unfold ofWay
  dsimp only
  split
  · exact .along htests
  · exact .along htests
  · exact .along htests
  · exact .along htests
  · exact .along htests
  · next clause others hreading =>
    rw [hreading] at hw
    -- what is gone through inside comes from the clause itself or from those beside it
    refine .branches ?_ htests
    intro r hr
    obtain ⟨q, hq, rfl⟩ := List.mem_map.mp hr
    refine hinside _ ?_
    intro p hp
    rcases List.mem_append.mp hp with hp | hp
    · have hclause := hclauses clause hw.1
      exact Predicate.isTriable_of_mem_conjuncts
        (Predicate.isTriable_of_mem_disjuncts hclause hq) hp
    · exact hclauses p (hw.2 p (List.mem_filter.mp hp).1)

omit hclauses in
theorem quiet_toRows (side : Side) : ∀ (depth : Nat) (clauses : List Predicate),
    (∀ p ∈ clauses, p.isTriable = true) → (toRows side depth clauses).Quiet := by
  intro depth
  induction depth with
  | zero => intro clauses h; exact .along (triable_testsOf h _)
  | succ depth ih =>
    intro clauses h
    rw [toRows]
    split
    · exact quiet_nowhere
    · split
      · next w hw =>
        exact quiet_ofWay h (Side.within_of_mem_ways (Way.mem_of_best?_eq_some hw)) ih
      · exact quiet_nowhere

end Route

/-! ### Plans -/

namespace Plan

/-- A plan along quiet routes. -/
structure Quiet (plan : Plan) : Prop where
  outer : plan.outer.Quiet
  inner : ∀ r ∈ plan.inner, r.Quiet

theorem quiet_idle : idle.Quiet := ⟨Route.quiet_nowhere, fun _ h => absurd h List.not_mem_nil⟩

theorem quiet_ofCourse {clauses : List Predicate} (hclauses : ∀ p ∈ clauses, p.isTriable = true)
    {fixed : List Field} {keys : List SortKey} {c : Course} (hc : c.Within clauses) :
    (ofCourse clauses fixed keys c).Quiet := by
  have hroute : ∀ (tries : Predicate → Bool) (s : Stage), s.way.reading.Within clauses →
      (routeOf tries clauses s).Quiet :=
    fun _ s hs => Route.quiet_ofWay hclauses hs (Route.quiet_toRows s.side depth)
  constructor
  · exact hroute _ c.outer hc.outer
  · intro r hr
    obtain ⟨s, hs, rfl⟩ := List.mem_map.mp hr
    exact hroute _ s (hc.inner s (Option.mem_toList.mp hs))

/-- The plan of a triable predicate is quiet. -/
theorem quiet_ofQuery {p : Predicate} (hp : p.isTriable = true) (keys : List SortKey)
    (limit : Option Int) : (ofQuery p keys limit).Quiet := by
  have hclauses : ∀ q ∈ p.pruned.conjuncts, q.isTriable = true :=
    fun q hq => Predicate.isTriable_of_mem_conjuncts (Predicate.isTriable_pruned hp) hq
  unfold ofQuery
  dsimp only
  split
  · exact quiet_idle
  · split
    · next c hc => exact quiet_ofCourse hclauses (Course.within_of_ofClauses? hc)
    · exact quiet_idle

theorem allMet_walkWithin {routes : List Route} (h : ∀ r ∈ routes, r.Quiet) (row : Row) :
    Route.AllMet (walkWithin routes (.ok row)) := by
  induction routes generalizing row with
  | nil => exact fun m hm => ⟨row, List.mem_singleton.mp hm⟩
  | cons r routes ih =>
    obtain ⟨hr, hroutes⟩ := List.forall_mem_cons.mp h
    rw [walkWithin]
    refine Route.allMet_flatMap ?_
    intro m hm
    obtain ⟨row', rfl⟩ := hr.allMet_walk [row] m hm
    exact ih hroutes row'

theorem Quiet.allMet_walk {plan : Plan} (h : plan.Quiet) (rows : List Row) :
    Route.AllMet (plan.walk rows) := by
  refine Route.allMet_flatMap ?_
  intro m hm
  have hm' : m ∈ plan.outer.walk rows := by
    split at hm
    · exact List.mem_reverse.mp hm
    · exact hm
  obtain ⟨row, rfl⟩ := h.outer.allMet_walk rows m hm'
  exact allMet_walkWithin h.inner row

theorem fault?_of_allMet {plan : Plan} {needed : Option Nat} : ∀ {ms : List Meeting},
    Route.AllMet ms → ∀ (found : Nat) (last : Option Document),
      plan.fault? needed found last ms = none := by
  intro ms
  induction ms with
  | nil => intro _ found last; rfl
  | cons m ms ih =>
    intro h found last
    obtain ⟨⟨row, rfl⟩, hms⟩ := List.forall_mem_cons.mp h
    rw [fault?]
    split
    · rfl
    · split
      · rfl
      · exact ih hms _ _

/-- **Going over rows by a quiet plan ends in no error**, however many answers are needed. -/
theorem Quiet.fault?_eq_none {plan : Plan} (h : plan.Quiet) (needed : Option Nat)
    (rows : List Row) : plan.fault? needed 0 none (plan.walk rows) = none :=
  fault?_of_allMet (h.allMet_walk rows) 0 none

end Plan

end PackageCatalog
