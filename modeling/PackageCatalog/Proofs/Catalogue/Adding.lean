import PackageCatalog.Proofs.Catalogue.Transaction
import PackageCatalog.Proofs.Store.KeyOrder

/-!
# What adding a file does

The answer to adding a file tells how the file stands to the row under its key: there was none,
there was an older one, or there was one that is not older.  In the first two cases one row is
put in the place and every other stays; in the third, and when anything fails, nothing is changed.

## Main definitions

* `Store.Puts` — one row is put under its path, and every other stays.
* `Candidate.Describes` — what is learned of a file before its row is looked up.
* `Candidate.Settled` — what an add that returns has done to the store.
* `Table.Kept` — tables that files are added to and removed from.
* `Table.Adds` — the law of adding a file.

## Main results

* `Candidate.settle_of_none`, `Candidate.settle_of_older`, `Candidate.settle_of_current`,
  `Candidate.settle_of_unreadable` — the four ways in which adding a file ends.
* `Candidate.settle_eq_ok`, `Candidate.settle_eq_error` — all that the step inside the transaction
  can do.
* `Candidate.settled_of_settle`, `Table.add_eq_ok` — what an add has done, told from its return.
* `Table.adds_addInTransaction` — **adding a file keeps the law.**
-/

namespace PackageCatalog

/-! ### One row is put -/

namespace Store

/-- One row is put under its path, where it keeps the number of the row before it, and every
other row stays. -/
structure Puts (s s' : Store) (d : Document) : Prop where
  stored : d ∈ s'.documents
  numbered : ∀ e ∈ s.documents, e.path = d.path → e.id = d.id
  others : ∀ e, e.path ≠ d.path → (e ∈ s'.documents ↔ e ∈ s.documents)

variable {s s' : Store} {values : List (Field × Datum)} {c : Contents}

theorem puts_insert (h : s.insert values = .ok s') (hc : newContents values = .ok c) :
    s.Puts s' { c with id := s.lastId + 1 } := by
  obtain ⟨c', hc', hfree, rfl⟩ := insert_eq_ok h
  cases hc.symm.trans hc'
  refine ⟨List.mem_append_right _ (List.mem_singleton_self _), ?_, ?_⟩
  · exact fun e he hpath => absurd hpath (get?_eq_none_iff.mp hfree e he)
  · intro e hpath
    have hne : e ≠ { c with id := s.lastId + 1 } := by
      rintro rfl
      exact hpath rfl
    show e ∈ s.documents ++ [_] ↔ _
    rw [List.mem_append, List.mem_singleton]
    exact or_iff_left hne

theorem length_insert (h : s.insert values = .ok s') :
    s'.documents.length = s.documents.length + 1 := by
  obtain ⟨c, -, -, rfl⟩ := insert_eq_ok h
  exact List.length_append

theorem length_update {path : Text} (h : s.update path values = .ok s') :
    s'.documents.length = s.documents.length := by
  obtain ⟨old, c, -, -, -, rfl⟩ := update_eq_ok h
  exact List.length_map _

theorem puts_update {old : Document} (hs : s.Sound) (h : s.update c.path values = .ok s')
    (hold : s.get? c.path = some old) (hc : changedContents old.toContents values = .ok c) :
    s.Puts s' { c with id := old.id } := by
  obtain ⟨old', c', hold', hc', -, rfl⟩ := update_eq_ok h
  cases hold.symm.trans hold'
  cases hc.symm.trans hc'
  obtain ⟨hmem, hpath⟩ := hs.get?_eq_some_iff.mp hold
  refine ⟨mem_replaced_self hmem rfl, ?_, ?_⟩
  · intro e he hepath
    rw [hs.eq_of_path he hmem (hepath.trans hpath.symm)]
  · intro e hepath
    constructor
    · intro he
      rcases mem_replaced he with rfl | ⟨he, -⟩
      · exact absurd rfl hepath
      · exact he
    · intro he
      refine mem_replaced_of_ne he (fun hid => hepath ?_)
      rw [hs.eq_of_id he hmem hid]
      exact hpath

/-- The row that is put is the one that its path leads to. -/
theorem Puts.get?_eq_some {d : Document} (h : s.Puts s' d) (hs' : s'.Sound) :
    s'.get? d.path = some d := hs'.get?_path h.stored

/-- Under every other path there is what there was. -/
theorem Puts.get?_of_ne {d : Document} (h : s.Puts s' d) (hs : s.Sound) (hs' : s'.Sound)
    {path : Text} (hpath : path ≠ d.path) : s'.get? path = s.get? path := by
  have hiff : ∀ e, s'.get? path = some e ↔ s.get? path = some e := by
    intro e
    rw [hs'.get?_eq_some_iff, hs.get?_eq_some_iff]
    refine and_congr_left (fun he => h.others e ?_)
    rw [he]
    exact hpath
  exact Option.ext hiff

/-- A row is the one that is put, or was there before. -/
theorem Puts.eq_or_mem {d e : Document} (h : s.Puts s' d) (hs' : s'.Sound)
    (he : e ∈ s'.documents) : e = d ∨ e ∈ s.documents := by
  by_cases hpath : e.path = d.path
  · exact Or.inl (hs'.eq_of_path he h.stored hpath)
  · exact Or.inr ((h.others e hpath).mp he)

end Store

/-! ### What an answer says -/

/-- What an answer says of the row that was there, given the time of change of the file: there was
no row, it was older, or it was not older. -/
def AddResult.Answers (row : Option Document) (stamp : Double) : AddResult → Prop
  | .new => row = none
  | .updated => ∃ old x, row = some old ∧ old.timestamp = .number x ∧ Double.lt x stamp = true
  | .unchanged => ∃ old x, row = some old ∧ old.timestamp = .number x ∧ Double.lt x stamp = false

/-- Of one row one answer is given. -/
theorem AddResult.Answers.unique {row : Option Document} {stamp : Double} {r r' : AddResult}
    (h : r.Answers row stamp) (h' : r'.Answers row stamp) : r = r' := by
  cases r <;> cases r' <;> simp only [Answers] at h h' <;> first
    | rfl
    | (obtain ⟨old, x, hrow, hx, hlt⟩ := h
       simp_all)

/-- A row with a number for its time of change has an answer, and so has none. -/
theorem AddResult.exists_answers {row : Option Document} (stamp : Double)
    (h : ∀ old ∈ row, ∃ x, old.timestamp = .number x) : ∃ r : AddResult, r.Answers row stamp := by
  cases row with
  | none => exact ⟨.new, rfl⟩
  | some old =>
    obtain ⟨x, hx⟩ := h old rfl
    cases hlt : Double.lt x stamp with
    | false => exact ⟨.unchanged, old, x, rfl, hx, hlt⟩
    | true => exact ⟨.updated, old, x, rfl, hx, hlt⟩

/-- How many more rows there are after an answer. -/
def AddResult.growth (r : AddResult) : Nat := if r == .new then 1 else 0

/-! ### What is learned of a file -/

namespace Candidate

variable {c : Candidate} {detect : Detector} {tree : FileTree} {directory rest : NativeName}
  {name : Option NativeName} {s : Store}

/-- What is learned of a file before its row is looked up: its names as texts, and its time of
change. -/
structure Describes (c : Candidate) (detect : Detector) (tree : FileTree)
    (directory rest : NativeName) (name : Option NativeName) : Prop where
  filename : c.filename = absoluteName (Path.join directory rest)
  path : keyOf detect c.filename = .ok c.path
  package : nameText detect (packageName directory name) = .ok c.package
  restpath : nameText detect rest = .ok c.restpath
  stamp : ∃ entry, tree.stat c.filename = .ok entry ∧ c.stamp = entry.stamp
  suffix : c.suffix = Path.suffix c.path

theorem mapError_eq_ok_iff {ε ε' α : Type} {f : ε → ε'} {r : Except ε α} {a : α} :
    r.mapError f = .ok a ↔ r = .ok a := by
  cases r <;> simp [Except.mapError]

theorem bind_eq_ok_iff {ε α β : Type} {r : Except ε α} {f : α → Except ε β} {b : β} :
    r >>= f = .ok b ↔ ∃ a, r = .ok a ∧ f a = .ok b := by
  cases r with
  | error e =>
    constructor
    · rintro ⟨⟩
    · rintro ⟨_, ⟨⟩, _⟩
  | ok a =>
    constructor
    · exact fun h => ⟨a, rfl, h⟩
    · rintro ⟨_, ⟨⟩, h⟩
      exact h

/-- Preparing a file succeeds with what describes it. -/
theorem prepare_eq_ok_iff :
    prepare detect tree directory rest name = .ok c ↔
      c.Describes detect tree directory rest name := by
  unfold prepare
  simp only [bind_eq_ok_iff, mapError_eq_ok_iff]
  constructor
  · rintro ⟨path, hpath, package, hpackage, restpath, hrestpath, entry, hentry, h⟩
    cases h
    exact ⟨rfl, hpath, hpackage, hrestpath, ⟨entry, hentry, rfl⟩, rfl⟩
  · rintro ⟨hfilename, hpath, hpackage, hrestpath, ⟨entry, hentry, hstamp⟩, hsuffix⟩
    refine ⟨c.path, hfilename ▸ hpath, c.package, hpackage, c.restpath, hrestpath, entry,
      hfilename ▸ hentry, ?_⟩
    rw [← hsuffix, ← hstamp, ← hfilename]
    rfl

/-- What describes a file is settled by its names and the system. -/
theorem Describes.unique {c' : Candidate} (h : c.Describes detect tree directory rest name)
    (h' : c'.Describes detect tree directory rest name) : c = c' :=
  Except.ok.inj ((prepare_eq_ok_iff.mpr h).symm.trans (prepare_eq_ok_iff.mpr h'))

/-! ### The four ways in which adding a file ends -/

/-- The row of a candidate, given its content. -/
def contents (c : Candidate) (content : Text) : Contents :=
  ⟨c.path, c.package, c.restpath, content, .number c.stamp, c.suffix⟩

theorem newContents_values (content : Text) :
    Store.newContents (c.values content ++ [(.path, .text c.path)]) = .ok (c.contents content) :=
  rfl

theorem changedContents_values {old : Contents} (hold : old.path = c.path) (content : Text) :
    Store.changedContents old (c.values content) = .ok (c.contents content) := by
  rw [contents, ← hold]
  rfl

theorem settle_of_none {content : Text} (hs : s.Reachable)
    (hrow : AddResult.new.Answers (s.get? c.path) c.stamp)
    (hread : readContent detect tree c.filename = .ok content) :
    ∃ s' d, c.settle detect tree s = .ok (s', .new) ∧ d.toContents = c.contents content ∧
      s.Puts s' d ∧ s'.Reachable := by
  obtain ⟨s', hinsert⟩ : ∃ s', s.insert (c.values content ++ [(.path, .text c.path)]) = .ok s' := by
    have hfree : (s.get? (c.contents content).path).isSome = false := by
      rw [show s.get? (c.contents content).path = none from hrow]
      rfl
    unfold Store.insert
    rw [newContents_values]
    dsimp only
    rw [hfree]
    exact ⟨_, rfl⟩
  refine ⟨s', _, ?_, rfl, Store.puts_insert hinsert (newContents_values content),
    hs.insert hinsert⟩
  simp only [settle, show s.get? c.path = none from hrow, hread, hinsert]

theorem settle_of_older {content : Text} (hs : s.Reachable)
    (hrow : AddResult.updated.Answers (s.get? c.path) c.stamp)
    (hread : readContent detect tree c.filename = .ok content) :
    ∃ s' d, c.settle detect tree s = .ok (s', .updated) ∧ d.toContents = c.contents content ∧
      s.Puts s' d ∧ s'.Reachable := by
  obtain ⟨old, x, hold, hstamp, hlt⟩ := hrow
  have hsound := hs.sound
  obtain ⟨hmem, hpath⟩ := hsound.get?_eq_some_iff.mp hold
  have hchanged := changedContents_values hpath content
  obtain ⟨s', hupdate⟩ : ∃ s', s.update c.path (c.values content) = .ok s' := by
    have hfree : s.documents.any
        (fun d => d.id != old.id && d.path == (c.contents content).path) = false := by
      refine List.any_eq_false.mpr ?_
      intro d hd
      rw [Bool.and_eq_true, bne_iff_ne, beq_iff_eq]
      rintro ⟨hid, hdpath⟩
      exact hid (congrArg Document.id (hsound.eq_of_path hd hmem (hdpath.trans hpath.symm)))
    unfold Store.update
    rw [hold]
    dsimp only
    rw [hchanged]
    dsimp only
    rw [hfree]
    exact ⟨_, rfl⟩
  refine ⟨s', _, ?_, rfl, Store.puts_update (c := c.contents content) hsound hupdate hold hchanged,
    hs.update hupdate⟩
  simp only [settle, hold, hstamp, hlt, hread, hupdate, if_true]

theorem settle_of_current (hrow : AddResult.unchanged.Answers (s.get? c.path) c.stamp) :
    c.settle detect tree s = .ok (s, .unchanged) := by
  obtain ⟨old, x, hold, hstamp, hlt⟩ := hrow
  simp only [settle, hold, hstamp, hlt, Bool.false_eq_true, if_false]

theorem settle_of_unreadable {r : AddResult} {e : ReadError}
    (hrow : r.Answers (s.get? c.path) c.stamp) (hneeded : r ≠ .unchanged)
    (hread : readContent detect tree c.filename = .error e) :
    c.settle detect tree s = .error e.toFailure := by
  cases r with
  | new => simp only [settle, show s.get? c.path = none from hrow, hread]
  | updated =>
    obtain ⟨old, x, hold, hstamp, hlt⟩ := hrow
    simp only [settle, hold, hstamp, hlt, hread, if_true]
  | unchanged => exact absurd rfl hneeded

/-- What is read of a file goes into one row, when the file is new or its row is older. -/
theorem settle_of_readable {r : AddResult} {content : Text} (hs : s.Reachable)
    (hrow : r.Answers (s.get? c.path) c.stamp) (hneeded : r ≠ .unchanged)
    (hread : readContent detect tree c.filename = .ok content) :
    ∃ s' d, c.settle detect tree s = .ok (s', r) ∧ d.toContents = c.contents content ∧
      s.Puts s' d ∧ s'.Reachable := by
  cases r with
  | new => exact settle_of_none hs hrow hread
  | updated => exact settle_of_older hs hrow hread
  | unchanged => exact absurd rfl hneeded

/-! ### What an add that returns has done -/

/-- What an add that returns has done to a store, whatever the store held. -/
structure Settled (c : Candidate) (detect : Detector) (tree : FileTree) (s s' : Store)
    (r : AddResult) : Prop where
  answer : r.Answers (s.get? c.path) c.stamp
  unchanged : r = .unchanged → s' = s
  put : r ≠ .unchanged → ∃ content d, readContent detect tree c.filename = .ok content ∧
    d.toContents = c.contents content ∧ s.Puts s' d
  length : s'.documents.length = s.documents.length + r.growth
  reachable : s'.Reachable

/-- An add that returns has made a row, brought one up to date, or found one that is not older. -/
theorem settle_eq_ok {s' : Store} {r : AddResult} (h : c.settle detect tree s = .ok (s', r)) :
    r.Answers (s.get? c.path) c.stamp ∧
      ((r = .unchanged ∧ s' = s) ∨ ∃ content, readContent detect tree c.filename = .ok content ∧
        ((r = .new ∧ s.insert (c.values content ++ [(.path, .text c.path)]) = .ok s') ∨
          (r = .updated ∧ s.update c.path (c.values content) = .ok s'))) := by
  unfold settle at h
  split at h
  · next hrow =>
    split at h
    · cases h
    · next content hread =>
      split at h
      · cases h
      · next hinsert =>
        cases h
        exact ⟨hrow, Or.inr ⟨content, hread, Or.inl ⟨rfl, hinsert⟩⟩⟩
  · next old hrow =>
    split at h
    · cases h
    · next x hx =>
      split at h
      · next hlt =>
        split at h
        · cases h
        · next content hread =>
          split at h
          · cases h
          · next hupdate =>
            cases h
            exact ⟨⟨old, x, hrow, hx, hlt⟩, Or.inr ⟨content, hread, Or.inr ⟨rfl, hupdate⟩⟩⟩
      · next hlt =>
        cases h
        exact ⟨⟨old, x, hrow, hx, Bool.eq_false_iff.mpr hlt⟩, Or.inl ⟨rfl, rfl⟩⟩

/-- An add fails where the file cannot be read, a row cannot be put, or its time of change is none.
-/
theorem settle_eq_error {e : Failure} (h : c.settle detect tree s = .error e) :
    (∃ e', readContent detect tree c.filename = .error e' ∧ e = e'.toFailure) ∨
    (∃ content e', s.insert (c.values content ++ [(.path, .text c.path)]) = .error e' ∧
      e = .store e') ∨
    (∃ old content e', s.get? c.path = some old ∧
      s.update c.path (c.values content) = .error e' ∧ e = .store e') ∨
    e = .incomparable := by
  unfold settle at h
  split at h
  · split at h
    · next e' hread =>
      cases h
      exact Or.inl ⟨e', hread, rfl⟩
    · next content hread =>
      split at h
      · next e' hinsert =>
        cases h
        exact Or.inr (Or.inl ⟨content, e', hinsert, rfl⟩)
      · cases h
  · next old hrow =>
    split at h
    · cases h
      exact Or.inr (Or.inr (Or.inr rfl))
    · split at h
      · split at h
        · next e' hread =>
          cases h
          exact Or.inl ⟨e', hread, rfl⟩
        · next content hread =>
          split at h
          · next e' hupdate =>
            cases h
            exact Or.inr (Or.inr (Or.inl ⟨old, content, e', hrow, hupdate, rfl⟩))
          · cases h
      · cases h

/-- An add that returns has put a row, or has found one that is current. -/
theorem settled_of_settle {s' : Store} {r : AddResult} (hs : s.Reachable)
    (h : c.settle detect tree s = .ok (s', r)) : c.Settled detect tree s s' r := by
  obtain ⟨hanswer, ⟨rfl, rfl⟩ | ⟨content, hread, ⟨rfl, hinsert⟩ | ⟨rfl, hupdate⟩⟩⟩ := settle_eq_ok h
  · exact ⟨hanswer, fun _ => rfl, fun h => absurd rfl h, rfl, hs⟩
  · exact ⟨hanswer, (nomatch ·), fun _ => ⟨content, _, hread, rfl,
      Store.puts_insert hinsert (newContents_values content)⟩, Store.length_insert hinsert,
      hs.insert hinsert⟩
  · obtain ⟨old, -, hrow, -⟩ := id hanswer
    have hpath := Store.path_of_get?_eq_some hrow
    exact ⟨hanswer, (nomatch ·), fun _ => ⟨content, _, hread, rfl,
      Store.puts_update (c := c.contents content) hs.sound hupdate hrow
        (changedContents_values hpath content)⟩, Store.length_update hupdate, hs.update hupdate⟩

namespace Settled

variable {s' : Store} {r : AddResult}

/-- After it the file has a row that is not older. -/
theorem current (h : c.Settled detect tree s s' r) :
    AddResult.unchanged.Answers (s'.get? c.path) c.stamp := by
  by_cases hr : r = .unchanged
  · have hanswer := h.answer
    rw [hr] at hanswer
    rw [h.unchanged hr]
    exact hanswer
  · obtain ⟨content, d, -, hd, hputs⟩ := h.put hr
    have hrow := hputs.get?_eq_some h.reachable.sound
    rw [show d.path = c.path from congrArg Contents.path hd] at hrow
    exact ⟨d, c.stamp, hrow, congrArg Contents.timestamp hd, Double.lt_irrefl c.stamp⟩

/-- Rows that are not older than other files stay so. -/
theorem current_of_current (h : c.Settled detect tree s s' r) (hs : s.Sound) {path : Text}
    {stamp : Double} (hrow : AddResult.unchanged.Answers (s.get? path) stamp) :
    AddResult.unchanged.Answers (s'.get? path) stamp := by
  by_cases hr : r = .unchanged
  · rw [h.unchanged hr]
    exact hrow
  · obtain ⟨content, d, -, hd, hputs⟩ := h.put hr
    have hdpath : d.path = c.path := congrArg Contents.path hd
    by_cases hpath : path = d.path
    · -- the row that is put is newer than the one that was there
      obtain ⟨old, x, hold, hx, hlt⟩ := hrow
      have hanswer := h.answer
      rw [← hdpath, ← hpath, hold] at hanswer
      cases r with
      | new => cases hanswer
      | updated =>
        obtain ⟨_, y, ⟨⟩, hy, hylt⟩ := hanswer
        cases hx.symm.trans hy
        rw [hpath]
        exact ⟨d, c.stamp, hputs.get?_eq_some h.reachable.sound, congrArg Contents.timestamp hd,
          Double.not_lt_trans hlt (Double.lt_asymm hylt)⟩
      | unchanged => exact absurd rfl hr
    · rw [hputs.get?_of_ne hs h.reachable.sound hpath]
      exact hrow

end Settled

end Candidate

/-! ### The law of adding a file -/

namespace Table

/-- A table that files are added to and removed from: no transaction is open, every time of change
is a number, and every suffix is that of the path. -/
structure Kept (t : Table) : Prop where
  ready : t.access = .ready
  closed : t.saved = none
  reachable : t.store.Reachable
  dated : ∀ d ∈ t.store.documents, ∃ x, d.timestamp = .number x
  suffixed : ∀ d ∈ t.store.documents, d.suffix = Path.suffix d.path

theorem kept_empty : Kept {} where
  ready := rfl
  closed := rfl
  reachable := .empty
  dated := fun _ h => absurd h List.not_mem_nil
  suffixed := fun _ h => absurd h List.not_mem_nil

variable {t t' : Table} {detect : Detector} {tree : FileTree} {directory rest : NativeName}
  {name : Option NativeName} {c : Candidate}

theorem Kept.exists_answers (ht : t.Kept) (path : Text) (stamp : Double) :
    ∃ r : AddResult, r.Answers (t.store.get? path) stamp := by
  refine AddResult.exists_answers stamp ?_
  exact fun old hold => ht.dated old (Store.mem_of_get?_eq_some hold)

/-- An add that returns has found a table that may be written, and outside a transaction. -/
theorem add_eq_ok {r : AddResult} (h : t.add detect tree directory rest name = .ok (t', r)) :
    ∃ (c : Candidate) (s' : Store), c.Describes detect tree directory rest name ∧
      t.access = .ready ∧ t.saved = none ∧ c.settle detect tree t.store = .ok (s', r) ∧
      t' = { t with store := s' } := by
  unfold add at h
  split at h
  · cases h
  · next c hc =>
    split at h
    · cases h
    · next opened hopened =>
      obtain ⟨hready, hsaved, rfl⟩ := startTransaction_eq_ok hopened
      split at h
      · cases h
      · next s' r' hsettle =>
        cases h
        refine ⟨c, s', Candidate.prepare_eq_ok_iff.mp hc, hready, hsaved, hsettle, ?_⟩
        rw [← hsaved]

/-- What an add that returns has done to the store of a table. -/
theorem settled_of_add {r : AddResult} (hs : t.store.Reachable)
    (h : t.add detect tree directory rest name = .ok (t', r)) :
    ∃ c : Candidate, c.Describes detect tree directory rest name ∧
      c.Settled detect tree t.store t'.store r := by
  obtain ⟨c, s', hc, -, -, hsettle, rfl⟩ := add_eq_ok h
  exact ⟨c, hc, Candidate.settled_of_settle hs hsettle⟩

/-- The law of adding a file to a table that is kept: how it ends, and the table that it leaves. -/
structure Adds (detect : Detector) (tree : FileTree) (directory rest : NativeName)
    (name : Option NativeName) (t t' : Table) (outcome : Except Failure AddResult) : Prop where
  /-- The answer is the one that is right of the row under the key.  Unless the row is current, the
  row that is put there holds what the names, the system and the file say. -/
  returned : ∀ r, outcome = .ok r → ∃ c : Candidate,
    c.Describes detect tree directory rest name ∧
    (∀ r', r = r' ↔ r'.Answers (t.store.get? c.path) c.stamp) ∧
    (r = .unchanged → t' = t) ∧
    (r ≠ .unchanged → ∃ content d, readContent detect tree c.filename = .ok content ∧
      d.toContents = c.contents content ∧ t.store.Puts t'.store d)
  /-- What fails leaves the table as it was. -/
  failed : ∀ e, outcome = .error e → t' = t
  /-- Only a name, the system, or a content that is needed can make it fail. -/
  returns : ∀ c : Candidate, c.Describes detect tree directory rest name →
    (¬AddResult.unchanged.Answers (t.store.get? c.path) c.stamp →
      ∃ content, readContent detect tree c.filename = .ok content) → ∃ r, outcome = .ok r

/-- How adding a file can end, with the table that it leaves. -/
inductive AddEnding (detect : Detector) (tree : FileTree) (directory rest : NativeName)
    (name : Option NativeName) (t : Table) : Table × Except Failure AddResult → Prop
  /-- A name has no text, or the system does not know the file. -/
  | refused {e : Failure} : Candidate.prepare detect tree directory rest name = .error e →
    AddEnding detect tree directory rest name t (t, .error e)
  /-- The content is needed and cannot be read. -/
  | unreadable {c : Candidate} {r : AddResult} {e : ReadError} :
    c.Describes detect tree directory rest name → r.Answers (t.store.get? c.path) c.stamp →
      r ≠ .unchanged → readContent detect tree c.filename = .error e →
        AddEnding detect tree directory rest name t (t, .error e.toFailure)
  /-- The row is not older than the file. -/
  | current {c : Candidate} : c.Describes detect tree directory rest name →
    AddResult.unchanged.Answers (t.store.get? c.path) c.stamp →
      AddEnding detect tree directory rest name t (t, .ok .unchanged)
  /-- A row is put. -/
  | put {c : Candidate} {r : AddResult} {content : Text} {s' : Store} {d : Document} :
    c.Describes detect tree directory rest name → r.Answers (t.store.get? c.path) c.stamp →
      r ≠ .unchanged → readContent detect tree c.filename = .ok content →
        d.toContents = c.contents content → t.store.Puts s' d → s'.Reachable →
          AddEnding detect tree directory rest name t ({ t with store := s' }, .ok r)

theorem Kept.addEnding (ht : t.Kept) (detect : Detector) (tree : FileTree)
    (directory rest : NativeName) (name : Option NativeName) :
    AddEnding detect tree directory rest name t
      (t.addInTransaction detect tree directory rest name) := by
  cases hprepare : Candidate.prepare detect tree directory rest name with
  | error e =>
    rw [addInTransaction_of_refused hprepare]
    exact .refused hprepare
  | ok c =>
    have hc := Candidate.prepare_eq_ok_iff.mp hprepare
    obtain ⟨r, hr⟩ := ht.exists_answers c.path c.stamp
    rw [addInTransaction_eq_ending ht.ready ht.closed hprepare]
    by_cases hcurrent : r = .unchanged
    · subst hcurrent
      rw [Candidate.settle_of_current hr]
      exact .current hc hr
    · cases hread : readContent detect tree c.filename with
      | error e =>
        rw [Candidate.settle_of_unreadable hr hcurrent hread]
        exact .unreadable hc hr hcurrent hread
      | ok content =>
        obtain ⟨s', d, hsettle, hd, hputs, hs'⟩ :=
          Candidate.settle_of_readable ht.reachable hr hcurrent hread
        rw [hsettle]
        exact .put hc hr hcurrent hread hd hputs hs'

/-- **Adding a file keeps the law**, whatever the file tree is. -/
theorem Kept.adds_addInTransaction (ht : t.Kept) (detect : Detector) (tree : FileTree)
    (directory rest : NativeName) (name : Option NativeName) :
    Adds detect tree directory rest name t
      (t.addInTransaction detect tree directory rest name).1
      (t.addInTransaction detect tree directory rest name).2 := by
  have hanswer : ∀ {c : Candidate} {r : AddResult}, r.Answers (t.store.get? c.path) c.stamp →
      ∀ r', r = r' ↔ r'.Answers (t.store.get? c.path) c.stamp :=
    fun hr r' => ⟨fun h => h ▸ hr, hr.unique⟩
  have hending := ht.addEnding detect tree directory rest name
  generalize t.addInTransaction detect tree directory rest name = result at hending ⊢
  cases hending with
  | refused hprepare =>
    refine ⟨fun _ h => (nomatch h), fun _ _ => rfl, fun c hc => ?_⟩
    cases hprepare.symm.trans (Candidate.prepare_eq_ok_iff.mpr hc)
  | unreadable hc hr hcurrent hread =>
    refine ⟨fun _ h => (nomatch h), fun _ _ => rfl, fun c' hc' hreadable => ?_⟩
    cases hc.unique hc'
    obtain ⟨content, hcontent⟩ := hreadable (fun h => hcurrent (hr.unique h))
    cases hread.symm.trans hcontent
  | current hc hr =>
    refine ⟨?_, fun _ _ => rfl, fun _ _ _ => ⟨_, rfl⟩⟩
    rintro _ ⟨⟩
    exact ⟨_, hc, hanswer hr, fun _ => rfl, fun h => absurd rfl h⟩
  | put hc hr hcurrent hread hd hputs _ =>
    refine ⟨?_, fun _ h => (nomatch h), fun _ _ _ => ⟨_, rfl⟩⟩
    rintro _ ⟨⟩
    exact ⟨_, hc, hanswer hr, fun h => absurd h hcurrent, fun _ => ⟨_, _, hread, hd, hputs⟩⟩

/-- Adding a file keeps what is so of every row. -/
theorem Kept.addInTransaction (ht : t.Kept) (detect : Detector) (tree : FileTree)
    (directory rest : NativeName) (name : Option NativeName) :
    (t.addInTransaction detect tree directory rest name).1.Kept := by
  have hending := ht.addEnding detect tree directory rest name
  generalize t.addInTransaction detect tree directory rest name = result at hending ⊢
  cases hending with
  | refused _ => exact ht
  | unreadable _ _ _ _ => exact ht
  | current _ _ => exact ht
  | @put c r content s' d hc _ _ _ hd hputs hs' =>
    -- the row that is put is that of the candidate, and every other one was there before
    refine ⟨ht.ready, ht.closed, hs', ?_, ?_⟩
    · intro e he
      rcases hputs.eq_or_mem hs'.sound he with rfl | he
      · exact ⟨c.stamp, congrArg Contents.timestamp hd⟩
      · exact ht.dated e he
    · intro e he
      rcases hputs.eq_or_mem hs'.sound he with rfl | he
      · show e.toContents.suffix = Path.suffix e.toContents.path
        rw [hd]
        exact hc.suffix
      · exact ht.suffixed e he

end Table

end PackageCatalog
