import PackageCatalog.Proofs.Catalogue.Adding

/-!
# Calls that fail, and transactions that are undone

A caller reads and changes the records of a table call by call.  Some calls find out that they fail
only after a statement was given to the store: an update of a path that is not there has changed no
row, and is told so.  Here every call is carried out step by step, with the table that it leaves
whether it fails or not, and is shown to leave the table as it was when it fails.

A body of calls goes on with the answers that it gets, failures among them, and may give up at any
point.  Carried out in a transaction it comes to what it comes to without one, except that all that
it did is undone when it gives up.

## Main definitions

* `Request`, `Answer` — the calls of the records of a table, and what they answer.
* `Table.answer` — a call step by step, with the table that it leaves.
* `Request.Offends` — the calls that are refused for what they ask of the store.
* `Script` — a body of calls.

## Main results

* `Table.answer_eq` — a call step by step is the operation of the table, which fails or returns.
* `Table.answer_of_offends` — **a call that offends fails.**
* `Script.run_frame` — a body does the same inside a transaction and outside of it.
* `Table.law_of_undoing` — **what fails leaves the table as it was**, a single call as well as a
  transaction.
-/

namespace PackageCatalog

/-! ### Calls -/

/-- A call of the records of a table. -/
inductive Request
  | insert (path : Text) (values : List (Text × Datum))
  | update (path : Text) (values : List (Text × Datum))
  | delete (path : Text)
  | deleteAll
  | get (path : Text)
  | select (p : Predicate) (sort : List (Text × Text)) (offset : Int) (limit : Option Int)
  | scan
  | count
  | countBy (field : Text)

/-- What a call answers. -/
inductive Answer
  | done
  | number (n : Nat)
  | document (d : Option Document)
  | documents (ds : List Document)
  | counts (ns : List (Cell × Nat))

namespace Store

/-- The rows of a path with assignments, and how many they are.  No two rows have one path. -/
def updateRows (s : Store) (path : Text) (values : List (Field × Datum)) :
    Except StoreError (Store × Nat) :=
  match s.get? path with
  | none => .ok (s, 0)
  | some _ => (s.update path values).map (·, 1)

/-- The store without the rows of a path, and how many they were. -/
def deleteRows (s : Store) (path : Text) : Except StoreError (Store × Nat) :=
  match s.get? path with
  | none => .ok (s, 0)
  | some _ => (s.delete path).map (·, 1)

end Store

namespace Table

/-- A change is given to the store.  Returns the table that this leaves, and the number of rows that
were changed. -/
def give (t : Table) (prepare : Except StoreError Unit)
    (change : Store → Except StoreError (Store × Nat)) : Table × Except StoreError Nat :=
  match t.execute prepare change with
  | .error e => (t, .error e)
  | .ok (t', n) => (t', .ok n)

/-- A change that must have found a row of a path. -/
def found (path : Text) : Table × Except StoreError Nat → Table × Except StoreError Answer
  | (t, .error e) => (t, .error e)
  | (t, .ok 0) => (t, .error (.notFound path))
  | (t, .ok (_ + 1)) => (t, .ok .done)

/-- An insertion step by step. -/
def insertTold (t : Table) (path : Text) (values : List (Text × Datum)) :
    Table × Except StoreError Answer :=
  match fieldsOf (withPath path values) with
  | .error e => (t, .error e)
  | .ok fields =>
    let (t', n) := t.give (bindAll 0 (fields.map Prod.snd)) (fun s => (s.insert fields).map (·, 1))
    (t', n.map (fun _ => .done))

/-- An update step by step: the names of fields are looked at, the change is given to the store, and
then it may turn out that there was no row to change. -/
def updateTold (t : Table) (path : Text) (values : List (Text × Datum)) :
    Table × Except StoreError Answer :=
  match fieldsOf values with
  | .error e => (t, .error e)
  | .ok fields =>
    let prepare :=
      if fields.isEmpty then .error .noAssignments else bindAll 0 (fields.map Prod.snd)
    found path (t.give prepare (fun s => s.updateRows path fields))

/-- A deletion step by step. -/
def deleteTold (t : Table) (path : Text) : Table × Except StoreError Answer :=
  found path (t.give (.ok ()) (fun s => s.deleteRows path))

/-- A call step by step, with the table that it leaves. -/
def answer (t : Table) : Request → Table × Except StoreError Answer
  | .insert path values => t.insertTold path values
  | .update path values => t.updateTold path values
  | .delete path => t.deleteTold path
  | .deleteAll =>
    let (t', n) := t.give (.ok ()) (fun s => .ok s.deleteAll)
    (t', n.map .number)
  | .get path => (t, (t.get? path).map .document)
  | .select p sort offset limit => (t, (t.selectBy p sort offset limit).map .documents)
  | .scan => (t, t.documents.map .documents)
  | .count => (t, t.size.map .number)
  | .countBy field => (t, (t.countBy field).map .counts)

/-- The operation of the table that a call stands for. -/
def operation (t : Table) : Request → Except StoreError (Table × Answer)
  | .insert path values => (t.insert path values).map (·, .done)
  | .update path values => (t.update path values).map (·, .done)
  | .delete path => (t.delete path).map (·, .done)
  | .deleteAll => t.deleteAll.map (fun r => (r.1, .number r.2))
  | .get path => (t.get? path).map (fun d => (t, .document d))
  | .select p sort offset limit =>
    (t.selectBy p sort offset limit).map (fun ds => (t, .documents ds))
  | .scan => t.documents.map (fun ds => (t, .documents ds))
  | .count => t.size.map (fun n => (t, .number n))
  | .countBy field => (t.countBy field).map (fun ns => (t, .counts ns))

/-- The table that an operation leaves, which is the one that was there when it fails. -/
def left (t : Table) : Except StoreError (Table × Answer) → Table × Except StoreError Answer
  | .error e => (t, .error e)
  | .ok (t', a) => (t', .ok a)

/-! ### A call is the operation of the table -/

variable {t : Table} {path : Text}

/-- What is made of the answer of a change is no matter of the change. -/
theorem execute_map {α β : Type} (t : Table) (prepare : Except StoreError Unit)
    (run : Store → Except StoreError (Store × α)) (f : α → β) :
    t.execute prepare (fun s => (run s).map (fun r => (r.1, f r.2))) =
      (t.execute prepare run).map (fun r => (r.1, f r.2)) := by
  unfold execute
  cases t.access with
  | closed => rfl
  | busy => cases prepare <;> rfl
  | ready =>
    cases prepare with
    | error e => rfl
    | ok u =>
      dsimp only
      rw [if_neg Access.noConfusion, if_neg Access.noConfusion]
      cases run t.store <;> rfl

/-- A change that says no more than that it was made, and one that also counts its only row. -/
theorem execute_counted (t : Table) (prepare : Except StoreError Unit)
    (change : Store → Except StoreError Store) :
    t.execute prepare (fun s => (change s).map (·, 1)) =
      (t.execute prepare (fun s => (change s).map (fun s => (s, ())))).map (fun r => (r.1, 1)) := by
  have hchange : (fun s => (change s).map (fun s => (s, 1))) =
      fun s => ((change s).map (fun s => (s, ()))).map (fun r => (r.1, 1)) := by
    funext s
    cases change s <;> rfl
  rw [hchange]
  exact execute_map t prepare (fun s => (change s).map (fun s => (s, ()))) (fun _ : Unit => 1)

theorem left_map {β : Type} (t : Table) (r : Except StoreError β) (f : β → Answer) :
    left t (r.map (fun b => (t, f b))) = (t, r.map f) := by
  cases r <;> rfl

theorem answer_insert (t : Table) (path : Text) (values : List (Text × Datum)) :
    t.insertTold path values = left t ((t.insert path values).map (·, .done)) := by
  unfold insertTold Table.insert
  cases fieldsOf (withPath path values) with
  | error e => rfl
  | ok fields =>
    dsimp only
    rw [give, execute_counted]
    cases t.execute (bindAll 0 (fields.map Prod.snd))
      (fun s => (s.insert fields).map (fun s => (s, ()))) <;> rfl

/-- A change that counts no row has changed nothing, so the table is as it was when it fails for
want of one. -/
theorem found_give (prepare : Except StoreError Unit)
    (rows : Store → Except StoreError (Store × Nat)) (change : Store → Except StoreError Store)
    (hnone : t.store.get? path = none →
      rows t.store = .ok (t.store, 0) ∧ change t.store = .error (.notFound path))
    (hsome : ∀ d, t.store.get? path = some d → rows t.store = (change t.store).map (·, 1)) :
    found path (t.give prepare rows) =
      left t ((t.execute prepare (fun s => (change s).map (fun s => (s, ())))).map
        (fun r => (r.1, .done))) := by
  unfold give execute
  obtain ⟨store, saved, access⟩ := t
  cases access with
  | closed => rfl
  | busy => cases prepare <;> rfl
  | ready =>
    cases prepare with
    | error e => rfl
    | ok u =>
      dsimp only at hnone hsome ⊢
      rw [if_neg Access.noConfusion, if_neg Access.noConfusion]
      cases hget : store.get? path with
      | none =>
        obtain ⟨hrows, hchange⟩ := hnone hget
        rw [hrows, hchange]
        rfl
      | some d =>
        rw [hsome d hget]
        cases change store <;> rfl

theorem answer_update (t : Table) (path : Text) (values : List (Text × Datum)) :
    t.updateTold path values = left t ((t.update path values).map (·, .done)) := by
  unfold updateTold Table.update
  cases fieldsOf values with
  | error e => rfl
  | ok fields =>
    dsimp only
    rw [found_give _ _ (fun s => s.update path fields)]
    · cases t.execute _ (fun s => (s.update path fields).map (fun s => (s, ()))) <;> rfl
    · intro hnone
      simp [Store.updateRows, Store.update, hnone]
    · intro d hd
      simp [Store.updateRows, hd]

theorem answer_delete (t : Table) (path : Text) :
    t.deleteTold path = left t ((t.delete path).map (·, .done)) := by
  unfold deleteTold Table.delete
  rw [found_give _ _ (fun s => s.delete path)]
  · cases t.execute _ (fun s => (s.delete path).map (fun s => (s, ()))) <;> rfl
  · intro hnone
    simp [Store.deleteRows, Store.delete, hnone]
  · intro d hd
    simp [Store.deleteRows, hd]

/-- **A call step by step is the operation of the table**: where that returns, the table is the one
it returns, and where that fails, the table is as it was. -/
theorem answer_eq (t : Table) (r : Request) : t.answer r = left t (t.operation r) := by
  cases r with
  | insert path values => exact answer_insert t path values
  | update path values => exact answer_update t path values
  | delete path => exact answer_delete t path
  | deleteAll =>
    unfold answer operation give Table.deleteAll
    cases t.execute (.ok ()) (fun s => .ok s.deleteAll) <;> rfl
  | get path => exact (left_map t _ _).symm
  | select p sort offset limit => exact (left_map t _ _).symm
  | scan => exact (left_map t _ _).symm
  | count => exact (left_map t _ _).symm
  | countBy field => exact (left_map t _ _).symm

/-- A call that fails leaves the table as it was. -/
theorem answer_of_error {r : Request} {e : StoreError} (h : (t.answer r).2 = .error e) :
    t.answer r = (t, .error e) := by
  rw [answer_eq] at h ⊢
  cases hop : t.operation r with
  | error e' =>
    rw [hop] at h
    exact congrArg (Prod.mk t) h
  | ok result =>
    rw [hop] at h
    cases h

/-! ### What a call does not touch -/

/-- A change given to the store alters the store alone, and does not look at the one that a rollback
would bring back. -/
theorem give_frame (t : Table) (prepare : Except StoreError Unit)
    (change : Store → Except StoreError (Store × Nat)) :
    ∃ s o, ∀ saved, ({ t with saved } : Table).give prepare change =
      ({ t with saved, store := s }, o) := by
  unfold give execute
  obtain ⟨store, _, access⟩ := t
  cases access with
  | closed => exact ⟨store, .error .closed, fun _ => rfl⟩
  | busy =>
    cases prepare with
    | error e => exact ⟨store, .error e, fun _ => rfl⟩
    | ok u => exact ⟨store, .error .locked, fun _ => rfl⟩
  | ready =>
    cases prepare with
    | error e => exact ⟨store, .error e, fun _ => rfl⟩
    | ok u =>
      simp only [reduceCtorEq, if_false]
      cases change store with
      | error e => exact ⟨store, .error e, fun _ => rfl⟩
      | ok result => exact ⟨result.1, .ok result.2, fun _ => rfl⟩

theorem found_frame {s : Store} (path : Text) (o : Except StoreError Nat) :
    ∃ o', ∀ saved, found path (({ t with saved, store := s } : Table), o) =
      ({ t with saved, store := s }, o') := by
  cases o with
  | error e => exact ⟨.error e, fun _ => rfl⟩
  | ok n =>
    cases n with
    | zero => exact ⟨.error (.notFound path), fun _ => rfl⟩
    | succ n => exact ⟨.ok .done, fun _ => rfl⟩

/-- **A call alters the store alone**, and does not look at the one that a rollback would bring
back. -/
theorem answer_frame (t : Table) (r : Request) :
    ∃ s o, ∀ saved, ({ t with saved } : Table).answer r = ({ t with saved, store := s }, o) := by
  cases r with
  | insert path values =>
    simp only [answer, insertTold]
    cases fieldsOf (withPath path values) with
    | error e => exact ⟨t.store, .error e, fun _ => rfl⟩
    | ok fields =>
      obtain ⟨s, o, h⟩ := t.give_frame (bindAll 0 (fields.map Prod.snd))
        (fun s => (s.insert fields).map (·, 1))
      refine ⟨s, o.map (fun _ => .done), fun saved => ?_⟩
      simp only [h saved]
  | update path values =>
    simp only [answer, updateTold]
    cases fieldsOf values with
    | error e => exact ⟨t.store, .error e, fun _ => rfl⟩
    | ok fields =>
      obtain ⟨s, o, h⟩ := t.give_frame
        (if fields.isEmpty then .error .noAssignments else bindAll 0 (fields.map Prod.snd))
        (fun s => s.updateRows path fields)
      obtain ⟨o', h'⟩ := found_frame (t := t) (s := s) path o
      refine ⟨s, o', fun saved => ?_⟩
      simp only [h saved, h' saved]
  | delete path =>
    obtain ⟨s, o, h⟩ := t.give_frame (.ok ()) (fun s => s.deleteRows path)
    obtain ⟨o', h'⟩ := found_frame (t := t) (s := s) path o
    refine ⟨s, o', fun saved => ?_⟩
    rw [answer, deleteTold, h saved, h' saved]
  | deleteAll =>
    obtain ⟨s, o, h⟩ := t.give_frame (.ok ()) (fun s => .ok s.deleteAll)
    refine ⟨s, o.map .number, fun saved => ?_⟩
    rw [answer, h saved]
  -- the other calls ask the store and change nothing
  | get path => exact ⟨t.store, (t.answer (.get path)).2, fun _ => rfl⟩
  | select p sort offset limit =>
    exact ⟨t.store, (t.answer (.select p sort offset limit)).2, fun _ => rfl⟩
  | scan => exact ⟨t.store, (t.answer .scan).2, fun _ => rfl⟩
  | count => exact ⟨t.store, (t.answer .count).2, fun _ => rfl⟩
  | countBy field => exact ⟨t.store, (t.answer (.countBy field)).2, fun _ => rfl⟩

end Table

/-! ### Calls that are refused for what they ask -/

namespace Request

/-- The value that a name is given; of several it is the first. -/
def given? (name : Text) (values : List (Text × Datum)) : Option Datum :=
  (values.find? (fun v => v.1 == name)).map Prod.snd

/-- The fields that a new document must have besides its path. -/
def required : List Field := [.package, .restpath, .content, .timestamp]

/-- A call that asks the impossible of a store: a second document of a path, a document without a
field that it must have, a field that there is not, or a change of a document that there is not. -/
inductive Offends (s : Store) : Request → Prop
  | taken {path : Text} {values : List (Text × Datum)} {d : Document} (h : s.get? path = some d) :
    Offends s (.insert path values)
  | lacking {path : Text} {values : List (Text × Datum)} {f : Field} (hf : f ∈ required)
    (h : (given? f.name.toList values).bind columnText = none) : Offends s (.insert path values)
  | insertUnknown {path : Text} {values : List (Text × Datum)} {v : Text × Datum} (hv : v ∈ values)
    (h : Field.ofName? v.1 = none) : Offends s (.insert path values)
  | updateMissing {path : Text} {values : List (Text × Datum)} (h : s.get? path = none) :
    Offends s (.update path values)
  | updateUnknown {path : Text} {values : List (Text × Datum)} {v : Text × Datum} (hv : v ∈ values)
    (h : Field.ofName? v.1 = none) : Offends s (.update path values)
  | occupied {path path' : Text} {values : List (Text × Datum)} {d : Document}
    (h : (given? Field.path.name.toList values).bind columnText = some path') (hne : path' ≠ path)
    (hd : s.get? path' = some d) : Offends s (.update path values)
  | deleteMissing {path : Text} (h : s.get? path = none) : Offends s (.delete path)

theorem given?_cons (name : Text) (v : Text × Datum) (values : List (Text × Datum)) :
    given? name (v :: values) = if v.1 = name then some v.2 else given? name values := by
  unfold given?
  rw [List.find?_cons]
  split
  · next h => rw [if_pos (beq_iff_eq.mp h), Option.map_some]
  · next h => rw [if_neg (beq_eq_false_iff_ne.mp h)]

theorem assigned?_cons (f : Field) (v : Field × Datum) (fields : List (Field × Datum)) :
    Store.assigned? f (v :: fields) = if v.1 = f then some v.2 else Store.assigned? f fields := by
  unfold Store.assigned?
  rw [List.find?_cons]
  split
  · next h => rw [if_pos (beq_iff_eq.mp h), Option.map_some]
  · next h => rw [if_neg (beq_eq_false_iff_ne.mp h)]

/-- Named values are values of fields when every name is that of a field. -/
theorem fieldsOf_cons_eq_ok {v : Text × Datum} {values : List (Text × Datum)}
    {fields : List (Field × Datum)} (h : Table.fieldsOf (v :: values) = .ok fields) :
    ∃ g rest, Field.ofName? v.1 = some g ∧ Table.fieldsOf values = .ok rest ∧
      fields = (g, v.2) :: rest := by
  rw [Table.fieldsOf] at h
  cases hname : Field.ofName? v.1 with
  | none => simp [hname] at h
  | some g =>
    cases hfields : Table.fieldsOf values with
    | error e => simp [hname, hfields] at h
    | ok rest =>
      simp only [hname, hfields, Except.ok.injEq] at h
      exact ⟨g, rest, rfl, rfl, h.symm⟩

/-- What is assigned to a field is what its name is given. -/
theorem assigned?_of_fieldsOf (f : Field) : ∀ {values : List (Text × Datum)}
    {fields : List (Field × Datum)}, Table.fieldsOf values = .ok fields →
    Store.assigned? f fields = given? f.name.toList values := by
  intro values
  induction values with
  | nil =>
    intro fields h
    cases h
    rfl
  | cons v values ih =>
    intro fields h
    obtain ⟨g, rest, hname, hrest, rfl⟩ := fieldsOf_cons_eq_ok h
    have hiff : v.1 = f.name.toList ↔ g = f := by
      constructor
      · intro heq
        rw [heq, Field.ofName?_name] at hname
        exact (Option.some.inj hname).symm
      · rintro rfl
        exact Field.eq_name_of_ofName? hname
    rw [given?_cons, assigned?_cons, ih hrest]
    simp only [hiff]

/-- The fields have names that there are. -/
theorem ofName?_ne_none_of_fieldsOf : ∀ {values : List (Text × Datum)}
    {fields : List (Field × Datum)}, Table.fieldsOf values = .ok fields →
    ∀ v ∈ values, Field.ofName? v.1 ≠ none := by
  intro values
  induction values with
  | nil => intro fields _ v hv; cases hv
  | cons w values ih =>
    intro fields h v hv
    obtain ⟨g, rest, hname, hrest, -⟩ := fieldsOf_cons_eq_ok h
    rcases List.mem_cons.mp hv with rfl | hv
    · simp [hname]
    · exact ih hrest v hv

/-- A name that is given another value wherever it has one. -/
theorem given?_map (name name' : Text) (d : Datum) (values : List (Text × Datum)) :
    given? name (values.map (fun v => if v.1 == name' then (name', d) else v)) =
      (given? name values).map (fun old => if name = name' then d else old) := by
  induction values with
  | nil => rfl
  | cons v values ih =>
    rw [List.map_cons, given?_cons, given?_cons, ih]
    by_cases hv : v.1 = name' <;> by_cases hname : v.1 = name <;> grind

/-- The path that is put among values is what the name of the path is given then, and every other
name is given what it was. -/
theorem given?_withPath (name path : Text) (values : List (Text × Datum)) :
    given? name (Table.withPath path values) =
      if name = Field.path.name.toList then some (.text path) else given? name values := by
  unfold Table.withPath
  dsimp only
  split
  · next hany =>
    -- the path is among the values and keeps its place
    obtain ⟨v, hv, hname⟩ := List.any_eq_true.mp hany
    rw [given?_map]
    split
    · next h =>
      cases hgiven : given? name values with
      | none =>
        have hfind := List.find?_eq_none.mp (Option.map_eq_none_iff.mp hgiven) v hv
        exact absurd (h ▸ hname) hfind
      | some d => rfl
    · exact Option.map_id'
  · next hany =>
    have hnone : given? Field.path.name.toList values = none :=
      Option.map_eq_none_iff.mpr (List.find?_eq_none.mpr (fun v hv h =>
        hany (List.any_eq_true.mpr ⟨v, hv, h⟩)))
    rw [given?, List.find?_append, Option.map_or]
    change (given? name values).or (given? name [(Field.path.name.toList, .text path)]) = _
    rw [given?_cons]
    split
    · next h =>
      rw [if_pos h.symm, ← show Field.path.name.toList = name from h, hnone, Option.none_or]
    · next h => rw [if_neg (Ne.symm h)]; exact Option.or_none

end Request

namespace Store

variable {fields : List (Field × Datum)} {c : Contents}

theorem textFor_eq_ok {f : Field} {d : Datum} {t : Text} (h : textFor f d = .ok t) :
    columnText d = some t := by
  unfold textFor at h
  cases htext : columnText d with
  | none => simp [htext] at h
  | some t' => simpa [htext] using h

theorem stampFor_eq_ok {d : Datum} {cell : Cell} (h : stampFor d = .ok cell) :
    columnText d ≠ none := by
  cases d <;> simp_all [stampFor, columnNumber, columnText]

theorem columnText_getD (o : Option Datum) : columnText (o.getD .null) = o.bind columnText := by
  cases o <;> rfl

/-- A new row has the path that it is given, and a value for every field that it must have. -/
theorem newContents_eq_ok (h : newContents fields = .ok c) :
    (assigned? .path fields).bind columnText = some c.path ∧
      ∀ f ∈ Request.required, (assigned? f fields).bind columnText ≠ none := by
  unfold newContents at h
  simp only [Candidate.bind_eq_ok_iff] at h
  obtain ⟨path, hpath, package, hpackage, restpath, hrestpath, content, hcontent, timestamp,
    htimestamp, suffix, -, h⟩ := h
  cases h
  simp only [← columnText_getD]
  refine ⟨textFor_eq_ok hpath, ?_⟩
  simp [Request.required, textFor_eq_ok hpackage, textFor_eq_ok hrestpath, textFor_eq_ok hcontent,
    stampFor_eq_ok htimestamp]

/-- A row that is given another path has it afterwards. -/
theorem path_of_changedContents {old : Contents} {path : Text}
    (h : changedContents old fields = .ok c)
    (hpath : (assigned? .path fields).bind columnText = some path) : c.path = path := by
  obtain ⟨d, hd, htext⟩ := Option.bind_eq_some_iff.mp hpath
  unfold changedContents at h
  simp only [Candidate.bind_eq_ok_iff, hd, textFor, htext, Except.ok.injEq] at h
  obtain ⟨_, rfl, _, -, _, -, _, -, h⟩ := h
  -- whichever way the time stamp goes, it and the suffix come last
  split at h
  all_goals
    obtain ⟨_, -, h⟩ := Candidate.bind_eq_ok_iff.mp h
    obtain ⟨_, -, h⟩ := Candidate.bind_eq_ok_iff.mp h
    cases h
    rfl

end Store

namespace Table

open Request

variable {t : Table} {r : Request}

/-- What is inserted has a path that was free, and everything that a document must have. -/
theorem insert_allowed {t' : Table} {path : Text} {values : List (Text × Datum)}
    (h : t.insert path values = .ok t') :
    t.store.get? path = none ∧ (∀ v ∈ values, Field.ofName? v.1 ≠ none) ∧
      ∀ f ∈ required, (given? f.name.toList values).bind columnText ≠ none := by
  obtain ⟨fields, s, hfields, hinsert, -⟩ := insert_eq_ok h
  obtain ⟨c, hc, hfree, -⟩ := Store.insert_eq_ok hinsert
  obtain ⟨hpath, hrequired⟩ := Store.newContents_eq_ok hc
  refine ⟨?_, ?_, ?_⟩
  · rw [assigned?_of_fieldsOf _ hfields, given?_withPath, if_pos rfl] at hpath
    rw [Option.some.inj hpath]
    exact hfree
  · intro v hv
    by_cases hname : v.1 = Field.path.name.toList
    · rw [hname, Field.ofName?_name]
      exact Option.some_ne_none _
    · refine ofName?_ne_none_of_fieldsOf hfields v ?_
      unfold withPath
      dsimp only
      split
      · exact List.mem_map.mpr ⟨v, hv, if_neg (by simpa using hname)⟩
      · exact List.mem_append_left _ hv
  · intro f hf
    have hne : f.name.toList ≠ Field.path.name.toList := by
      revert f
      decide
    have := hrequired f hf
    rwa [assigned?_of_fieldsOf _ hfields, given?_withPath, if_neg hne] at this

/-- What is updated was there, and no other document has the path that it is given. -/
theorem update_allowed (hs : t.store.Sound) {t' : Table} {path : Text}
    {values : List (Text × Datum)} (h : t.update path values = .ok t') :
    t.store.get? path ≠ none ∧ (∀ v ∈ values, Field.ofName? v.1 ≠ none) ∧
      ∀ path', (given? Field.path.name.toList values).bind columnText = some path' →
        path' ≠ path → t.store.get? path' = none := by
  obtain ⟨fields, s, hfields, hupdate, -⟩ := update_eq_ok h
  obtain ⟨old, c, hold, hc, hfree, -⟩ := Store.update_eq_ok hupdate
  refine ⟨by simp [hold], ofName?_ne_none_of_fieldsOf hfields, ?_⟩
  intro path' hgiven hne
  rw [← assigned?_of_fieldsOf _ hfields] at hgiven
  have hpath := Store.path_of_changedContents hc hgiven
  refine Store.get?_eq_none_iff.mpr (fun d hd hd' => hne ?_)
  -- another document with the new path would have the number of the one that is updated
  have hid := hfree d hd (hd'.trans hpath.symm)
  have := hs.eq_of_id hd (Store.mem_of_get?_eq_some hold) hid
  rw [← hd', this, Store.path_of_get?_eq_some hold]

theorem delete_allowed {t' : Table} {path : Text} (h : t.delete path = .ok t') :
    t.store.get? path ≠ none := by
  obtain ⟨s, hdelete, -⟩ := delete_eq_ok h
  obtain ⟨old, hold, -⟩ := Store.delete_eq_ok hdelete
  simp [hold]

/-- **A call that offends fails**, whatever the connection may do. -/
theorem answer_of_offends (hs : t.store.Sound) (h : r.Offends t.store) :
    ∃ e, t.answer r = (t, .error e) := by
  have hrefused : ∀ a, t.operation r ≠ .ok a := by
    intro a ha
    cases r with
    | insert path values =>
      obtain ⟨t', hinsert, -⟩ := exists_of_map_eq_ok ha
      obtain ⟨hfree, hknown, hgiven⟩ := insert_allowed hinsert
      cases h with
      | taken hd => exact absurd (hfree.symm.trans hd) (Option.some_ne_none _).symm
      | lacking hf hnone => exact hgiven _ hf hnone
      | insertUnknown hv hnone => exact hknown _ hv hnone
    | update path values =>
      obtain ⟨t', hupdate, -⟩ := exists_of_map_eq_ok ha
      obtain ⟨hthere, hknown, hfree⟩ := update_allowed hs hupdate
      cases h with
      | updateMissing hnone => exact hthere hnone
      | updateUnknown hv hnone => exact hknown _ hv hnone
      | occupied hgiven hne hd =>
        exact absurd ((hfree _ hgiven hne).symm.trans hd) (Option.some_ne_none _).symm
    | delete path =>
      obtain ⟨t', hdelete, -⟩ := exists_of_map_eq_ok ha
      cases h with
      | deleteMissing hnone => exact delete_allowed hdelete hnone
    | _ => cases h
  cases hop : t.operation r with
  | error e => exact ⟨e, by rw [answer_eq, hop, left]⟩
  | ok a => exact absurd hop (hrefused a)

end Table

/-! ### Bodies of calls -/

/-- A body of calls: it goes on with what a call answers, and ends with an answer of its own or with
a failure. -/
inductive Script (α : Type)
  | done (a : α)
  | fail (e : Failure)
  | call (r : Request) (next : Except StoreError Answer → Script α)

namespace Script

variable {α : Type}

/-- A body of calls carried out on a table, with the table that it leaves. -/
def run : Script α → Table → Table × Except Failure α
  | done a, t => (t, .ok a)
  | fail e, t => (t, .error e)
  | call r next, t => (next (t.answer r).2).run (t.answer r).1

/-- Calls one after the other.  The first that fails ends them. -/
def each : List Request → Script Unit
  | [] => done ()
  | r :: rs => call r (fun
    | .error e => fail (.store e)
    | .ok _ => each rs)

/-- **A body of calls alters the store alone**, and does not look at the one that a rollback would
bring back. -/
theorem run_frame (body : Script α) : ∀ t : Table, ∃ s o, ∀ saved,
    body.run { t with saved } = ({ t with saved, store := s }, o) := by
  induction body with
  | done a => exact fun t => ⟨t.store, .ok a, fun _ => rfl⟩
  | fail e => exact fun t => ⟨t.store, .error e, fun _ => rfl⟩
  | call r next ih =>
    intro t
    obtain ⟨s, o, hcall⟩ := t.answer_frame r
    obtain ⟨s', o', hnext⟩ := ih o { t with store := s }
    refine ⟨s', o', fun saved => ?_⟩
    rw [run, hcall saved]
    exact hnext saved

end Script

namespace Table

variable {t : Table} {α : Type}

/-- A body of calls that is carried out in a transaction: it leaves what it leaves without one when
it ends well, and the table as it was when it fails. -/
theorem inTransaction_run (body : Script α) (hready : t.access = .ready) (hsaved : t.saved = none) :
    t.inTransaction body.run =
      match body.run t with
      | (_, .error e) => (t, .error e)
      | (t', .ok a) => (t', .ok a) := by
  obtain ⟨s, o, hrun⟩ := body.run_frame t
  have hplain : body.run t = ({ t with store := s }, o) := hrun t.saved
  rw [hplain]
  cases o with
  | error e => exact inTransaction_of_error hready hsaved (hrun (some t.store))
  | ok a =>
    rw [inTransaction_of_ok hready hsaved (hrun (some t.store)), hsaved]

/-- **What fails leaves the table as it was**: its rows, its index and the last number that was
given.  A call that offends fails, and any call that fails changes nothing.  A body of calls in a
transaction changes nothing when it fails, wherever it does, and fails with what it failed with;
when it ends well, it leaves what it leaves without a transaction.  Where no transaction can be
begun, nothing is done. -/
theorem law_of_undoing (ht : t.store.Reachable) :
    (∀ r : Request, r.Offends t.store → ∃ e, t.answer r = (t, .error e)) ∧
    (∀ (r : Request) (e : StoreError), (t.answer r).2 = .error e → (t.answer r).1 = t) ∧
    (∀ (body : Script α) (opened : Table), t.startTransaction = .ok opened →
      (∀ e, (body.run t).2 = .error e → t.inTransaction body.run = (t, .error e)) ∧
      (∀ a, (body.run t).2 = .ok a → t.inTransaction body.run = body.run t)) ∧
    ∀ (body : Script α) (e : StoreError), t.startTransaction = .error e →
      t.inTransaction body.run = (t, .error (.store e)) := by
  refine ⟨fun r h => answer_of_offends ht.sound h, fun r e h => ?_, fun body opened hstart => ?_,
    fun body e h => inTransaction_of_refused h⟩
  · rw [answer_of_error h]
  · obtain ⟨hready, hsaved, -⟩ := startTransaction_eq_ok hstart
    rw [inTransaction_run body hready hsaved]
    obtain ⟨t', o⟩ := body.run t
    cases o with
    | error e' =>
      refine ⟨fun e h => ?_, fun a h => (nomatch h)⟩
      cases h
      rfl
    | ok a' => exact ⟨fun e h => (nomatch h), fun a h => rfl⟩

/-- Two deletions, the second of a path that is not there: the first stays when they are given one
after the other, and is undone in a transaction. -/
theorem law_of_undoing_twins :
    let body := Script.each [.delete "/b/p/r".toList, .delete "/c".toList]
    (body.run twins).1 ≠ twins ∧
      twins.inTransaction body.run = (twins, .error (.store (.notFound "/c".toList))) := by
  refine ⟨by decide +kernel, ?_⟩
  exact ((law_of_undoing reachable_twins).2.2.1 _ _ rfl).1 _ rfl

end Table

end PackageCatalog
