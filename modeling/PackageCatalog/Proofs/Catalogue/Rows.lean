import PackageCatalog.Proofs.Catalogue.Numbers

/-!
# The row under a key

What is under a key after files were added is settled by the row that was there and by the files
with that key, in their order; files with other keys do not matter.  Here this is said by
a function on rows, and proved of one add and of a run of adds.

## Main definitions

* `AddCall`, `AddCall.key?` — a file to be added, and its key.
* `AddCall.refresh` — the row under the key of a file after it was added.
* `AddCall.Yields` — a file can be added, with an outcome.
* `Table.addAll`, `Table.AddedAll` — files added one after the other, and what that does whatever
  the keys.

## Main results

* `Table.spec_of_add` — all that an add that returns has done.
* `Table.row_addAll` — **the row under a key after a run of adds.**
-/

namespace PackageCatalog

/-! ### One file -/

/-- A file to be added: the directory of its package, its name below it, and the name of the
package if one is given. -/
structure AddCall where
  directory : NativeName
  rest : NativeName
  name : Option NativeName
  deriving DecidableEq

/-- Whether the content of a file is needed, given the row under its key. -/
def Candidate.isNeeded (k : Candidate) : Option Contents → Bool
  | none => true
  | some old =>
    match old.timestamp with
    | .number x => Double.lt x k.stamp
    | .text _ => false

namespace AddCall

/-- The key of a file. -/
def key? (detect : Detector) (c : AddCall) : Option Text :=
  (keyOf detect (absoluteName (Path.join c.directory c.rest))).toOption

/-- The row under the key of a file after it was added, given the row that was there. -/
def refresh (detect : Detector) (tree : FileTree) (row : Option Contents) (c : AddCall) :
    Option Contents :=
  match Candidate.prepare detect tree c.directory c.rest c.name with
  | .error _ => row
  | .ok k =>
    match readContent detect tree k.filename with
    | .error _ => row
    | .ok content => if k.isNeeded row then some (k.contents content) else row

end AddCall

/-- The content of a file is needed unless it is unchanged. -/
theorem AddResult.Answers.isNeeded {k : Candidate} {row : Option Document} {r : AddResult}
    (h : r.Answers row k.stamp) :
    k.isNeeded (row.map (·.toContents)) = true ↔ r ≠ .unchanged := by
  cases r with
  | new =>
    rw [show row = none from h]
    simp [Candidate.isNeeded]
  | updated =>
    obtain ⟨old, x, rfl, hx, hlt⟩ := h
    simp [Candidate.isNeeded, hx, hlt]
  | unchanged =>
    obtain ⟨old, x, rfl, hx, hlt⟩ := h
    simp [Candidate.isNeeded, hx, hlt]

namespace Candidate

variable {k : Candidate} {detect : Detector} {tree : FileTree} {s s' : Store} {r : AddResult}

/-- What an add does to the numbers: a new document has the next one. -/
theorem numbers_settle (h : k.settle detect tree s = .ok (s', r)) :
    s'.documents.map (·.id) = s.documents.map (·.id) ++ List.range' (s.lastId + 1) r.growth ∧
      s'.lastId = s.lastId + r.growth := by
  obtain ⟨-, ⟨rfl, rfl⟩ | ⟨content, -, ⟨rfl, hinsert⟩ | ⟨rfl, hupdate⟩⟩⟩ := settle_eq_ok h
  · exact ⟨(List.append_nil _).symm, rfl⟩
  · obtain ⟨c, -, -, rfl⟩ := Store.insert_eq_ok hinsert
    exact ⟨List.map_append, rfl⟩
  · obtain ⟨old, c, -, -, -, rfl⟩ := Store.update_eq_ok hupdate
    refine ⟨?_, rfl⟩
    show (Store.replaced _ s.documents).map (·.id) = _
    rw [Store.replaced, List.map_map]
    refine (List.map_congr_left (fun d _ => ?_)).trans (List.append_nil _).symm
    by_cases hid : d.id = old.id <;> simp [hid]

/-- Under other keys an add leaves what there is. -/
theorem Settled.get?_of_ne (h : k.Settled detect tree s s' r) (hs : s.Sound) {path : Text}
    (hpath : path ≠ k.path) : s'.get? path = s.get? path := by
  by_cases hr : r = .unchanged
  · rw [h.unchanged hr]
  · obtain ⟨content, d, -, hd, hputs⟩ := h.put hr
    exact hputs.get?_of_ne hs h.reachable.sound
      (by rwa [show d.path = k.path from congrArg Contents.path hd])

/-- A row keeps its number. -/
theorem Settled.exists_number (h : k.Settled detect tree s s' r) (hs : s.Sound) {path : Text}
    {e : Document} (he : s.get? path = some e) : ∃ d, s'.get? path = some d ∧ d.id = e.id := by
  by_cases hpath : path = k.path
  · subst hpath
    by_cases hr : r = .unchanged
    · rw [h.unchanged hr]
      exact ⟨e, he, rfl⟩
    · obtain ⟨content, d, -, hd, hputs⟩ := h.put hr
      have hdpath : d.path = k.path := congrArg Contents.path hd
      obtain ⟨hmem, hepath⟩ := hs.get?_eq_some_iff.mp he
      refine ⟨d, ?_, (hputs.numbered e hmem (hepath.trans hdpath.symm)).symm⟩
      rw [← hdpath]
      exact hputs.get?_eq_some h.reachable.sound
  · exact ⟨e, (h.get?_of_ne hs hpath).trans he, rfl⟩

end Candidate

namespace AddCall

variable {detect : Detector} {tree : FileTree} {c : AddCall} {k : Candidate} {s s' : Store}
  {r : AddResult}

theorem key?_of_describes (hk : k.Describes detect tree c.directory c.rest c.name) :
    c.key? detect = some k.path := by
  rw [key?, ← hk.filename, hk.path]
  rfl

/-- What an add that returns has put under its key. -/
theorem refresh_of_settled (hk : k.Describes detect tree c.directory c.rest c.name)
    (h : k.Settled detect tree s s' r) :
    (s'.get? k.path).map (·.toContents) =
      c.refresh detect tree ((s.get? k.path).map (·.toContents)) := by
  unfold refresh
  rw [Candidate.prepare_eq_ok_iff.mpr hk]
  dsimp only
  by_cases hr : r = .unchanged
  · -- read or not, the content is not needed
    have hneeded := mt h.answer.isNeeded.mp (not_not_intro hr)
    rw [h.unchanged hr]
    split
    · rfl
    · rw [if_neg hneeded]
  · obtain ⟨content, d, hread, hd, hputs⟩ := h.put hr
    have hrow := hputs.get?_eq_some h.reachable.sound
    rw [show d.path = k.path from congrArg Contents.path hd] at hrow
    rw [hread, hrow]
    dsimp only
    rw [if_pos (h.answer.isNeeded.mpr hr), Option.map_some, hd]

/-- A file can be added to a store, with an outcome: its names are texts, the system knows it, the
outcome is right of the row under its key, and its content can be read if it is needed. -/
def Yields (detect : Detector) (tree : FileTree) (s : Store) (c : AddCall) (r : AddResult) : Prop :=
  ∃ k : Candidate, k.Describes detect tree c.directory c.rest c.name ∧
    r.Answers (s.get? k.path) k.stamp ∧
      (r ≠ .unchanged → ∃ content, readContent detect tree k.filename = .ok content)

/-- One outcome is right. -/
theorem Yields.unique {r' : AddResult} (h : c.Yields detect tree s r)
    (h' : c.Yields detect tree s r') : r = r' := by
  obtain ⟨k, hk, hr, -⟩ := h
  obtain ⟨k', hk', hr', -⟩ := h'
  cases hk.unique hk'
  exact hr.unique hr'

/-- Whether a file can be added depends on the row under its key alone. -/
theorem Yields.of_get?_eq (h : c.Yields detect tree s r)
    (hrow : ∀ path, c.key? detect = some path → s'.get? path = s.get? path) :
    c.Yields detect tree s' r := by
  obtain ⟨k, hk, hr, hread⟩ := h
  exact ⟨k, hk, (hrow k.path (key?_of_describes hk)).symm ▸ hr, hread⟩

theorem yields_of_settled (hk : k.Describes detect tree c.directory c.rest c.name)
    (h : k.Settled detect tree s s' r) : c.Yields detect tree s r := by
  refine ⟨k, hk, h.answer, fun hr => ?_⟩
  obtain ⟨content, d, hread, -⟩ := h.put hr
  exact ⟨content, hread⟩

end AddCall

namespace Table

variable {detect : Detector} {tree : FileTree} {t t' : Table} {c : AddCall} {r : AddResult}

/-- A file that can be added to the store of a table is added, when the table may be written outside
of a transaction. -/
theorem exists_add (hready : t.access = .ready) (hclosed : t.saved = none)
    (hs : t.store.Reachable) (h : c.Yields detect tree t.store r) :
    ∃ t', t.add detect tree c.directory c.rest c.name = .ok (t', r) := by
  obtain ⟨k, hk, hr, hread⟩ := h
  have hsettle : ∃ s', k.settle detect tree t.store = .ok (s', r) := by
    by_cases hcurrent : r = .unchanged
    · subst hcurrent
      exact ⟨_, Candidate.settle_of_current hr⟩
    · obtain ⟨content, hcontent⟩ := hread hcurrent
      obtain ⟨s', d, hsettle, -⟩ := Candidate.settle_of_readable hs hr hcurrent hcontent
      exact ⟨s', hsettle⟩
  obtain ⟨s', hsettle⟩ := hsettle
  have hstart : t.startTransaction = .ok { t with saved := some t.store } := by
    rw [startTransaction, hready, hclosed]
    rfl
  refine ⟨{ t with store := s' }, ?_⟩
  unfold add
  rw [Candidate.prepare_eq_ok_iff.mpr hk]
  dsimp only
  rw [hstart]
  dsimp only
  rw [hsettle]
  dsimp only
  rw [← hclosed]

/-- All that an add that returns has done to a table. -/
theorem spec_of_add (hs : t.store.Reachable)
    (h : t.add detect tree c.directory c.rest c.name = .ok (t', r)) :
    (∃ k : Candidate, k.Describes detect tree c.directory c.rest c.name ∧
      k.Settled detect tree t.store t'.store r) ∧
    t'.store.documents.map (·.id) =
      t.store.documents.map (·.id) ++ List.range' (t.store.lastId + 1) r.growth ∧
    t'.store.lastId = t.store.lastId + r.growth ∧
    (t.access = .ready ∧ t.saved = none) ∧ t' = { t with store := t'.store } := by
  obtain ⟨k, s', hk, hready, hclosed, hsettle, rfl⟩ := add_eq_ok h
  obtain ⟨hids, hlast⟩ := Candidate.numbers_settle hsettle
  exact ⟨⟨k, hk, Candidate.settled_of_settle hs hsettle⟩, hids, hlast, ⟨hready, hclosed⟩, rfl⟩

/-! ### Files one after the other -/

/-- Files are added one after the other, up to one that fails; with the table come the files with
their outcomes. -/
def addAll (detect : Detector) (tree : FileTree) :
    Table → List AddCall → Except Failure (Table × List (AddCall × AddResult))
  | t, [] => .ok (t, [])
  | t, c :: calls =>
    match t.add detect tree c.directory c.rest c.name with
    | .error e => .error e
    | .ok (t', r) =>
      match addAll detect tree t' calls with
      | .error e => .error e
      | .ok (t'', results) => .ok (t'', (c, r) :: results)

variable {calls : List AddCall} {results : List (AddCall × AddResult)} {path : Text}

theorem addAll_cons :
    t.addAll detect tree (c :: calls) =
      match t.add detect tree c.directory c.rest c.name with
      | .error e => .error e
      | .ok (t', r) =>
        match addAll detect tree t' calls with
        | .error e => .error e
        | .ok (t'', results) => .ok (t'', (c, r) :: results) := by
  -- the equation that `rw` would look for is slow to prove: it evaluates the add
  rfl

theorem addAll_cons_eq_ok_iff {t'' : Table} :
    t.addAll detect tree (c :: calls) = .ok (t'', results) ↔
      ∃ t' r rest, t.add detect tree c.directory c.rest c.name = .ok (t', r) ∧
        t'.addAll detect tree calls = .ok (t'', rest) ∧ results = (c, r) :: rest := by
  rw [addAll_cons]
  constructor
  · intro h
    split at h
    · cases h
    · next t' r hadd =>
      split at h
      · cases h
      · next rest hrest =>
        cases h
        exact ⟨t', r, _, hadd, hrest, rfl⟩
  · rintro ⟨t', r, rest, hadd, hrest, rfl⟩
    rw [hadd]
    dsimp only
    rw [hrest]

/-- What a run of adds that returns has done to a table, whatever the keys. -/
structure AddedAll (t : Table) (calls : List AddCall) (t' : Table)
    (results : List (AddCall × AddResult)) : Prop where
  all : results.map Prod.fst = calls
  table : t' = { t with store := t'.store }
  ready : calls ≠ [] → t.access = .ready ∧ t.saved = none
  reachable : t'.store.Reachable
  ids : t'.store.documents.map (·.id) = t.store.documents.map (·.id) ++
    List.range' (t.store.lastId + 1) (results.countP (fun x => x.2 == .new))
  lastId : t'.store.lastId = t.store.lastId + results.countP (fun x => x.2 == .new)
  numbered : ∀ path e, t.store.get? path = some e →
    ∃ d, t'.store.get? path = some d ∧ d.id = e.id

theorem addedAll_of_addAll (hs : t.store.Reachable)
    (h : t.addAll detect tree calls = .ok (t', results)) : t.AddedAll calls t' results := by
  induction calls generalizing t results with
  | nil =>
    cases h
    exact ⟨rfl, rfl, fun h => absurd rfl h, hs, (List.append_nil _).symm, rfl,
      fun path e he => ⟨e, he, rfl⟩⟩
  | cons c calls ih =>
    obtain ⟨t₁, r, rest, hadd, hrest, rfl⟩ := addAll_cons_eq_ok_iff.mp h
    obtain ⟨⟨k, -, hsettled⟩, hids, hlast, hready, ht₁⟩ := spec_of_add hs hadd
    have hdone := ih hsettled.reachable hrest
    have hcount : ((c, r) :: rest).countP (fun x => x.2 == .new) =
        r.growth + rest.countP (fun x => x.2 == .new) := by
      rw [List.countP_cons, AddResult.growth, Nat.add_comm]
    refine ⟨by rw [List.map_cons, hdone.all], ?_, fun _ => hready, hdone.reachable, ?_, ?_, ?_⟩
    · rw [hdone.table, ht₁]
    · rw [hdone.ids, hids, hlast, hcount, List.append_assoc, Nat.add_right_comm,
        List.range'_append_1]
    · rw [hdone.lastId, hlast, hcount, Nat.add_assoc]
    · intro path e he
      obtain ⟨d, hd, hid⟩ := hsettled.exists_number hs.sound he
      obtain ⟨d', hd', hid'⟩ := hdone.numbered path d hd
      exact ⟨d', hd', hid'.trans hid⟩

/-- **The row under a key after a run of adds** is what the files with that key make, in their
order, of the row that was there. -/
theorem row_addAll (hs : t.store.Reachable)
    (h : t.addAll detect tree calls = .ok (t', results)) (path : Text) :
    (t'.store.get? path).map (·.toContents) =
      (calls.filter (fun c => c.key? detect = some path)).foldl (AddCall.refresh detect tree)
        ((t.store.get? path).map (·.toContents)) := by
  induction calls generalizing t results with
  | nil =>
    cases h
    rfl
  | cons c calls ih =>
    obtain ⟨t₁, r, rest, hadd, hrest, rfl⟩ := addAll_cons_eq_ok_iff.mp h
    obtain ⟨⟨k, hk, hsettled⟩, -⟩ := spec_of_add hs hadd
    rw [ih hsettled.reachable hrest]
    by_cases hkey : c.key? detect = some path
    · cases (AddCall.key?_of_describes hk).symm.trans hkey
      rw [AddCall.refresh_of_settled hk hsettled, List.filter_cons_of_pos (by simpa using hkey),
        List.foldl_cons]
    · -- a file with another key leaves the row
      have hpath : path ≠ k.path := by
        rintro rfl
        exact hkey (AddCall.key?_of_describes hk)
      rw [hsettled.get?_of_ne hs.sound hpath, List.filter_cons_of_neg (by simpa using hkey)]

end Table

end PackageCatalog
