import PackageCatalog.Proofs.Catalogue.Adding

/-!
# Adding a file, one step at a time

While a file is being added, others may change the file or add it as well.  What they find depends
on how far the call is: the file was asked for its time of change, the transaction was begun, the
row was looked up, the content was read, the row was written, and the transaction was ended.  Each
of these is a step here, taken on the table as it then is; a call whose table nobody else changes
comes to what `Table.addInTransaction` says.

## Main definitions

* `Candidate.judge` — what is to be done about the row that was found.
* `Phase` — how far a call is.
* `Phase.start`, `Phase.next` — the first step of a call, and each later one.

## Main results

* `Candidate.judge_eq_ok_iff` — the judgment is the answer that is right of the row.
* `Phase.ends_start` — **a call that is alone, taken step by step, is `Table.addInTransaction`.**
-/

namespace PackageCatalog

namespace Candidate

/-- What is to be done about the row that was found under the key of a file. -/
def judge (c : Candidate) : Option Document → Except Failure AddResult
  | none => .ok .new
  | some d =>
    match d.timestamp with
    | .text _ => .error .incomparable
    | .number old => if Double.lt old c.stamp then .ok .updated else .ok .unchanged

/-- The row of a file is made, or brought up to date. -/
def put (c : Candidate) (content : Text) (t : Table) : AddResult → Except StoreError Table
  | .new => t.insert c.path (named (c.values content))
  | _ => t.update c.path (named (c.values content))

theorem judge_eq_ok_iff {c : Candidate} {row : Option Document} {r : AddResult} :
    c.judge row = .ok r ↔ r.Answers row c.stamp := by
  constructor
  · intro h
    unfold judge at h
    split at h
    · cases h
      rfl
    · next d =>
      split at h
      · cases h
      · next old hold =>
        split at h
        · next hlt =>
          cases h
          exact ⟨d, old, rfl, hold, hlt⟩
        · next hlt =>
          cases h
          exact ⟨d, old, rfl, hold, Bool.eq_false_iff.mpr hlt⟩
  · intro h
    cases r with
    | new =>
      rw [show row = none from h]
      rfl
    | updated =>
      obtain ⟨d, old, rfl, hold, hlt⟩ := h
      simp only [judge, hold, hlt, if_true]
    | unchanged =>
      obtain ⟨d, old, rfl, hold, hlt⟩ := h
      simp only [judge, hold, hlt, Bool.false_eq_true, if_false]

/-- A row that was made, or brought up to date, is put. -/
theorem put_eq_ok {c : Candidate} {content : Text} {t t' : Table} {r : AddResult}
    (hready : t.access = .ready) (hs : t.store.Reachable)
    (hrow : r.Answers (t.store.get? c.path) c.stamp) (hr : r ≠ .unchanged)
    (h : c.put content t r = .ok t') :
    ∃ s' d, t' = { t with store := s' } ∧ d.toContents = c.contents content ∧
      t.store.Puts s' d ∧ s'.Reachable := by
  cases r with
  | new =>
    rw [put, insert_values hready] at h
    cases hinsert : t.store.insert (c.values content ++ [(.path, .text c.path)]) with
    | error e =>
      rw [hinsert] at h
      cases h
    | ok s' =>
      rw [hinsert] at h
      cases h
      exact ⟨s', _, rfl, rfl, Store.puts_insert hinsert (newContents_values content),
        hs.insert hinsert⟩
  | updated =>
    -- the row that is updated has the path of the candidate
    obtain ⟨old, -, hold, -, -⟩ := hrow
    have hpath := Store.path_of_get?_eq_some hold
    rw [put, update_values hready] at h
    · cases hupdate : t.store.update c.path (c.values content) with
      | error e =>
        rw [hupdate] at h
        cases h
      | ok s' =>
        rw [hupdate] at h
        cases h
        exact ⟨s', _, rfl, rfl, Store.puts_update (c := c.contents content) hs.sound hupdate hold
          (changedContents_values hpath content), hs.update hupdate⟩
    · exact nofun
  | unchanged => exact absurd rfl hr

end Candidate

/-- How far a call that adds a file is. -/
inductive Phase
  /-- No call was made yet. -/
  | idle
  /-- The names are known, and the time of change. -/
  | prepared (c : Candidate)
  /-- The transaction was begun. -/
  | begun (c : Candidate)
  /-- The row was looked up. -/
  | found (c : Candidate) (row : Option Document)
  /-- The content was read. -/
  | filled (c : Candidate) (r : AddResult) (content : Text)
  /-- Nothing is left but to make the transaction final. -/
  | written (c : Candidate) (r : AddResult)
  /-- Something failed inside the transaction, which is to be undone. -/
  | failing (e : Failure)
  | returned (c : Candidate) (r : AddResult)
  | failed (e : Failure)

namespace Phase

/-- The names of a file become text, and the system is asked for its time of change. -/
def start (detect : Detector) (tree : FileTree) (directory rest : NativeName)
    (name : Option NativeName) : Phase :=
  match Candidate.prepare detect tree directory rest name with
  | .error e => .failed e
  | .ok c => .prepared c

/-- The next step of a call, on the table and with the files as they are now. -/
def next (detect : Detector) (tree : FileTree) (t : Table) : Phase → Table × Phase
  | .prepared c =>
    match t.startTransaction with
    | .error e => (t, .failed (.store e))
    | .ok t' => (t', .begun c)
  | .begun c =>
    match t.get? c.path with
    | .error e => (t, .failing (.store e))
    | .ok row => (t, .found c row)
  | .found c row =>
    match c.judge row with
    | .error e => (t, .failing e)
    | .ok .unchanged => (t, .written c .unchanged)
    | .ok r =>
      match readContent detect tree c.filename with
      | .error e => (t, .failing e.toFailure)
      | .ok content => (t, .filled c r content)
  | .filled c r content =>
    match c.put content t r with
    | .error e => (t, .failing (.store e))
    | .ok t' => (t', .written c r)
  | .written c r =>
    match t.commit with
    | .error e => (t, .failed (.store e))
    | .ok t' => (t', .returned c r)
  | .failing e =>
    match t.rollback with
    | .error e' => (t, .failed (.store e'))
    | .ok t' => (t', .failed e)
  | p => (t, p)

/-- What is known of the file in a phase. -/
def candidate? : Phase → Option Candidate
  | prepared c | begun c | found c _ | filled c _ _ | written c _ | returned c _ => some c
  | idle | failing _ | failed _ => none

/-- How a call ended, if it did. -/
def outcome? : Phase → Option (Except Failure AddResult)
  | returned _ r => some (.ok r)
  | failed e => some (.error e)
  | _ => none

/-- The answer that a call returned, if it did. -/
def answer? : Phase → Option AddResult
  | returned _ r => some r
  | _ => none

/-- Whether a call is in its transaction. -/
def isInside : Phase → Bool
  | begun _ | found _ _ | filled _ _ _ | written _ _ | failing _ => true
  | idle | prepared _ | returned _ _ | failed _ => false

/-- Whether no call is under way. -/
def isAtRest : Phase → Bool
  | idle | returned _ _ | failed _ => true
  | _ => false

variable {detect : Detector} {tree : FileTree} {t : Table} {p : Phase} {c : Candidate}

theorem isInside_of_isAtRest (h : p.isAtRest = true) : p.isInside = false := by
  cases p <;> first | rfl | cases h

/-- A step learns nothing new of the file but what it reads. -/
theorem candidate?_next (h : (p.next detect tree t).2.candidate? = some c) :
    p.candidate? = some c := by
  cases p <;> simp only [next] at h <;> repeat' split at h
  all_goals first | exact h | cases h

/-- What can follow the look-up of a row: a failure, the end when the row is current, or the
content of the file. -/
theorem next_found (t : Table) (c : Candidate) (row : Option Document) :
    ∃ p, (found c row).next detect tree t = (t, p) ∧
      ((∃ e, p = failing e) ∨
        (p = written c .unchanged ∧ AddResult.unchanged.Answers row c.stamp) ∨
        ∃ r content, p = filled c r content ∧ r.Answers row c.stamp ∧ r ≠ .unchanged ∧
          readContent detect tree c.filename = .ok content) := by
  cases hjudge : c.judge row with
  | error e => exact ⟨_, by simp only [next, hjudge], .inl ⟨e, rfl⟩⟩
  | ok r =>
    have hrow := Candidate.judge_eq_ok_iff.mp hjudge
    by_cases hr : r = .unchanged
    · subst hr
      exact ⟨_, by simp only [next, hjudge], .inr (.inl ⟨rfl, hrow⟩)⟩
    · cases hread : readContent detect tree c.filename with
      | error e => exact ⟨failing e.toFailure, by simp only [next, hjudge, hread], .inl ⟨_, rfl⟩⟩
      | ok content =>
        refine ⟨filled c r content, by simp only [next, hjudge, hread], .inr (.inr ?_)⟩
        exact ⟨r, content, rfl, hrow, hr, rfl⟩

end Phase

/-! ### A call that is alone -/

/-- What a transaction comes to when its body is done. -/
def Table.conclude : Table × Except Failure AddResult → Table × Except Failure AddResult
  | (t, .error e) =>
    match t.rollback with
    | .error e' => (t, .error (.store e'))
    | .ok t' => (t', .error e)
  | (t, .ok r) =>
    match t.commit with
    | .error e => (t, .error (.store e))
    | .ok t' => (t', .ok r)

theorem Table.inTransaction_of_opened {t opened : Table}
    {body : Table → Table × Except Failure AddResult} (h : t.startTransaction = .ok opened) :
    t.inTransaction body = conclude (body opened) := by
  unfold inTransaction
  rw [h]
  dsimp only
  obtain ⟨t', outcome⟩ := body opened
  cases outcome <;> rfl

namespace Phase

/-- A call that is alone ends with a table and an outcome. -/
inductive Ends (detect : Detector) (tree : FileTree) :
    Table → Phase → Table × Except Failure AddResult → Prop
  | done {t : Table} {p : Phase} {o : Except Failure AddResult} : p.outcome? = some o →
    Ends detect tree t p (t, o)
  | step {t : Table} {p : Phase} {s : Table × Except Failure AddResult} :
    Ends detect tree (p.next detect tree t).1 (p.next detect tree t).2 s → Ends detect tree t p s

theorem ends_written (t : Table) (c : Candidate) (r : AddResult) :
    Ends detect tree t (.written c r) (Table.conclude (t, .ok r)) := by
  refine .step ?_
  cases h : t.commit <;> simp only [next, Table.conclude, h] <;> exact .done rfl

theorem ends_failing (t : Table) (e : Failure) :
    Ends detect tree t (.failing e) (Table.conclude (t, .error e)) := by
  refine .step ?_
  cases h : t.rollback <;> simp only [next, Table.conclude, h] <;> exact .done rfl

/-- A row that is to be filled in is filled in. -/
theorem ends_fill {t : Table} {c : Candidate} {row : Option Document} {r : AddResult}
    (hjudge : c.judge row = .ok r) (hr : r ≠ .unchanged)
    {change : List (Text × Datum) → Except StoreError Table}
    (hchange : ∀ content, c.put content t r = change (named (c.values content))) :
    Ends detect tree t (.found c row) (Table.conclude (c.fill detect tree t change r)) := by
  refine .step ?_
  unfold Candidate.fill
  cases hread : readContent detect tree c.filename with
  | error e =>
    simp only [next, hjudge, hread]
    exact ends_failing t _
  | ok content =>
    simp only [next, hjudge, hread]
    refine .step ?_
    cases hput : c.put content t r with
    | error e =>
      simp only [next, hput, ← hchange]
      exact ends_failing t _
    | ok t' =>
      simp only [next, hput, ← hchange]
      exact ends_written t' c r

theorem ends_begun (t : Table) (c : Candidate) :
    Ends detect tree t (.begun c) (Table.conclude (c.record detect tree t)) := by
  refine .step ?_
  unfold Candidate.record
  cases hget : t.get? c.path with
  | error e =>
    simp only [next, hget]
    exact ends_failing t _
  | ok row =>
    simp only [next, hget]
    cases row with
    | none => exact ends_fill rfl (by decide) (fun _ => rfl)
    | some d =>
      dsimp only
      split
      · next hstamp =>
        refine .step ?_
        simp only [next, Candidate.judge, hstamp]
        exact ends_failing t _
      · next old hstamp =>
        split
        · next hlt =>
          refine ends_fill ?_ (by decide) (fun _ => rfl)
          simp only [Candidate.judge, hstamp, hlt, if_true]
        · next hlt =>
          refine .step ?_
          simp only [next, Candidate.judge, hstamp, hlt, Bool.false_eq_true, if_false]
          exact ends_written t c .unchanged

/-- **A call that is alone, taken step by step, is `Table.addInTransaction`.** -/
theorem ends_start (t : Table) (detect : Detector) (tree : FileTree)
    (directory rest : NativeName) (name : Option NativeName) :
    Ends detect tree t (start detect tree directory rest name)
      (t.addInTransaction detect tree directory rest name) := by
  unfold start
  cases hprepare : Candidate.prepare detect tree directory rest name with
  | error e =>
    rw [Table.addInTransaction_of_refused hprepare]
    exact .done rfl
  | ok c =>
    -- the equation that `unfold` would look for is slow to prove: it evaluates the preparation
    delta Table.addInTransaction
    rw [hprepare]
    refine .step ?_
    dsimp only
    cases hopened : t.startTransaction with
    | error e =>
      rw [Table.inTransaction_of_refused hopened]
      simp only [next, hopened]
      exact .done rfl
    | ok opened =>
      rw [Table.inTransaction_of_opened hopened]
      simp only [next, hopened]
      exact ends_begun opened c

end Phase

end PackageCatalog
