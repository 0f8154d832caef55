import PackageCatalog.Proofs.Catalogue.Adding
import PackageCatalog.Proofs.Catalogue.Removal

/-!
# Runs of the catalogue

Files are added to a table and documents removed from it, call after call, while the files change
between the calls as they like.  Every call either loses documents or puts a row by the law of
adding; from this follows what is so of every row after any run, and that the time of change
under a key never goes back as long as the key is not removed.

## Main definitions

* `Operation`, `Call` — what is done to a table, and with which files.
* `Table.afterCall`, `Table.afterCalls` — the table that a call, and a run, leaves.
* `NotEarlier` — a row whose time of change is no earlier.
* `Continues` — the row of a file some time later.

## Main results

* `Table.Kept.afterCalls` — what is so of every row after any run.
* `Table.Kept.continues_afterCalls` — a row that is not removed keeps its number, and its time of
  change never goes back.
* `Table.law_of_adding` — **after any run adding a file keeps the law, the time of change under a
  key never goes back, and every suffix is that of the path.**
-/

namespace PackageCatalog

/-- What is done to a table of documents. -/
inductive Operation
  | add (directory rest : NativeName) (name : Option NativeName)
  | remove (path : Text)
  | removeMatching (fragment : Text)
  | removeAll
  | cleanup
  | cleanupPackage (package : Text)

/-- An operation, with the files as they are when it is called. -/
structure Call where
  operation : Operation
  tree : FileTree

/-- A row whose time of change is no earlier than that of another. -/
def NotEarlier (d d' : Document) : Prop :=
  ∃ x x', d.timestamp = .number x ∧ d'.timestamp = .number x' ∧ Double.lt x' x = false

theorem NotEarlier.trans {d d' d'' : Document} (h : NotEarlier d d') (h' : NotEarlier d' d'') :
    NotEarlier d d'' := by
  obtain ⟨x, y, hx, hy, hxy⟩ := h
  obtain ⟨y', z, hy', hz, hyz⟩ := h'
  cases hy.symm.trans hy'
  exact ⟨x, z, hx, hz, Double.not_lt_trans hxy hyz⟩

/-- The row of a file some time later: under the same number, and its time of change is no
earlier. -/
structure Continues (d d' : Document) : Prop where
  id : d'.id = d.id
  notEarlier : NotEarlier d d'

theorem Continues.trans {d d' d'' : Document} (h : Continues d d') (h' : Continues d' d'') :
    Continues d d'' := ⟨h'.id.trans h.id, h.notEarlier.trans h'.notEarlier⟩

namespace Table

/-- The table that a call leaves. -/
def afterCall (detect : Detector) (t : Table) (c : Call) : Table :=
  match c.operation with
  | .add directory rest name => (t.addInTransaction detect c.tree directory rest name).1
  | .remove path =>
    match t.remove path with
    | .ok t' => t'
    | .error _ => t
  | .removeMatching fragment =>
    match t.search { paths := [fragment] } with
    | .ok ds => t.afterRemovals ds
    | .error _ => t
  | .removeAll =>
    match t.removeAll with
    | .ok r => r.1
    | .error _ => t
  | .cleanup => (t.cleanup c.tree).table
  | .cleanupPackage package => (t.cleanupPackage c.tree package).table

/-- The table that a run of calls leaves. -/
def afterCalls (detect : Detector) (t : Table) (calls : List Call) : Table :=
  calls.foldl (afterCall detect) t

variable {t t' : Table} {detect : Detector}

@[simp] theorem afterCalls_cons {c : Call} {calls : List Call} :
    t.afterCalls detect (c :: calls) = (t.afterCall detect c).afterCalls detect calls := rfl

/-! ### One call -/

/-- Losing documents keeps what is so of every row. -/
theorem Kept.thins (ht : t.Kept) (h : Thins t t') : t'.Kept where
  ready := h.access.trans ht.ready
  closed := h.saved.trans ht.closed
  reachable := h.reachable ht.reachable
  dated := fun d hd => ht.dated d (h.kept d hd)
  suffixed := fun d hd => ht.suffixed d (h.kept d hd)

/-- A call loses documents, or it adds a file. -/
theorem Kept.afterCall_cases (ht : t.Kept) (detect : Detector) (c : Call) :
    Thins t (t.afterCall detect c) ∨ ∃ directory rest name,
      c.operation = .add directory rest name ∧
        t.afterCall detect c = (t.addInTransaction detect c.tree directory rest name).1 := by
  unfold afterCall
  split
  · next h => exact Or.inr ⟨_, _, _, h, rfl⟩
  · left
    split
    · next h => exact thins_remove h
    · exact Thins.refl t
  · left
    split
    · exact thins_afterRemovals _ t
    · exact Thins.refl t
  · left
    split
    · next h => exact thins_removeAll ht.reachable.sound h
    · exact Thins.refl t
  · exact Or.inl (thins_cleanup c.tree t)
  · exact Or.inl (thins_cleanupPackage c.tree _ t)

theorem Kept.afterCall (ht : t.Kept) (c : Call) : (t.afterCall detect c).Kept := by
  rcases ht.afterCall_cases detect c with h | ⟨directory, rest, name, -, h⟩
  · exact ht.thins h
  · rw [h]
    exact ht.addInTransaction detect c.tree directory rest name

theorem Kept.continues_refl (ht : t.Kept) {path : Text} {d : Document}
    (hd : t.store.get? path = some d) : Continues d d := by
  obtain ⟨x, hx⟩ := ht.dated d (Store.mem_of_get?_eq_some hd)
  exact ⟨rfl, x, x, hx, hx, Double.lt_irrefl x⟩

/-- Adding a file leaves the rows that are there as they are, or brings one up to date. -/
theorem Kept.continues_addInTransaction (ht : t.Kept) {tree : FileTree}
    {directory rest : NativeName} {name : Option NativeName} {path : Text} {d d' : Document}
    (hd : t.store.get? path = some d)
    (hd' : (t.addInTransaction detect tree directory rest name).1.store.get? path = some d') :
    Continues d d' := by
  have hsame : t.store.get? path = some d' → Continues d d' := by
    intro hsome
    cases hd.symm.trans hsome
    exact ht.continues_refl hd
  have hending := ht.addEnding detect tree directory rest name
  -- the ending says all that the addition may have done to the row
  generalize t.addInTransaction detect tree directory rest name = result at hending hd'
  cases hending with
  | refused _ => exact hsame hd'
  | unreadable _ _ _ _ => exact hsame hd'
  | current _ _ => exact hsame hd'
  | @put c r content s' e hc hr hcurrent _ he hputs hs' =>
    have hepath : e.path = c.path := congrArg Contents.path he
    by_cases hpath : path = e.path
    · -- the row that is put is newer than the one that was there, and takes over its number
      subst hpath
      cases (hputs.get?_eq_some hs'.sound).symm.trans hd'
      have hid := hputs.numbered d (Store.mem_of_get?_eq_some hd) (Store.path_of_get?_eq_some hd)
      rw [← hepath, hd] at hr
      cases r with
      | new => cases hr
      | updated =>
        obtain ⟨_, x, ⟨⟩, hx, hlt⟩ := hr
        exact ⟨hid.symm, x, c.stamp, hx, congrArg Contents.timestamp he, Double.lt_asymm hlt⟩
      | unchanged => exact absurd rfl hcurrent
    · rw [← hputs.get?_of_ne ht.reachable.sound hs'.sound hpath] at hsame
      exact hsame hd'

/-- A call leaves the rows that stay there as they are, or brings one up to date. -/
theorem Kept.continues_afterCall (ht : t.Kept) {c : Call} {path : Text} {d d' : Document}
    (hd : t.store.get? path = some d)
    (hd' : (t.afterCall detect c).store.get? path = some d') : Continues d d' := by
  rcases ht.afterCall_cases detect c with h | ⟨directory, rest, name, -, h⟩
  · -- a document that is still there is the one that was there
    have hs := ht.reachable.sound
    obtain ⟨hmem, hpath⟩ := ((h.reachable ht.reachable).sound.get?_eq_some_iff).mp hd'
    have hsame := hs.get?_eq_some_iff.mpr ⟨h.kept d' hmem, hpath⟩
    cases hd.symm.trans hsame
    exact ht.continues_refl hd
  · rw [h] at hd'
    exact ht.continues_addInTransaction hd hd'

/-! ### Runs -/

/-- What is so of every row after any run. -/
theorem Kept.afterCalls (calls : List Call) : ∀ {t : Table}, t.Kept →
    (t.afterCalls detect calls).Kept := by
  induction calls with
  | nil => intro t ht; exact ht
  | cons c calls ih =>
    intro t ht
    rw [afterCalls_cons]
    exact ih (ht.afterCall c)

/-- As long as a key is not removed its row keeps its number, and its time of change never goes
back. -/
theorem Kept.continues_afterCalls {path : Text} {d' : Document} : ∀ {calls : List Call} {t : Table}
    {d : Document}, t.Kept → t.store.get? path = some d →
      (∀ before, before <+: calls → ((t.afterCalls detect before).store.get? path).isSome = true) →
        (t.afterCalls detect calls).store.get? path = some d' → Continues d d' := by
  intro calls
  induction calls with
  | nil =>
    intro t d ht hd _ hd'
    cases hd.symm.trans hd'
    exact ht.continues_refl hd
  | cons c calls ih =>
    intro t d ht hd hpresent hd'
    obtain ⟨e, he⟩ := Option.isSome_iff_exists.mp
      (hpresent [c] ((List.prefix_cons_inj c).mpr List.nil_prefix))
    refine (ht.continues_afterCall hd he).trans (ih (ht.afterCall c) he ?_ hd')
    exact fun before hbefore => hpresent (c :: before) ((List.prefix_cons_inj c).mpr hbefore)

/-- **After any run of calls, whatever became of the files between them**:

* adding a file, which is carried out in a transaction and agrees with `Table.add`, keeps the law
  of adding;
* as long as a key is not removed its time of change never goes back;
* the suffix of every row is that of its path. -/
theorem law_of_adding (detect : Detector) (calls : List Call) :
    let t := ({} : Table).afterCalls detect calls
    (∀ (tree : FileTree) (directory rest : NativeName) (name : Option NativeName),
      Adds detect tree directory rest name t
        (t.addInTransaction detect tree directory rest name).1
        (t.addInTransaction detect tree directory rest name).2 ∧
      (∀ t' r, t.add detect tree directory rest name = .ok (t', r) ↔
        t.addInTransaction detect tree directory rest name = (t', .ok r)) ∧
      (∀ e, t.add detect tree directory rest name = .error e ↔
        t.addInTransaction detect tree directory rest name = (t, .error e))) ∧
    (∀ (later : List Call) (path : Text) (d d' : Document), t.store.get? path = some d →
      (∀ before, before <+: later →
        ((t.afterCalls detect before).store.get? path).isSome = true) →
      (t.afterCalls detect later).store.get? path = some d' → NotEarlier d d') ∧
    (∀ d ∈ t.store.documents, d.suffix = Path.suffix d.path) := by
  intro t
  have ht : t.Kept := kept_empty.afterCalls calls
  refine ⟨fun tree directory rest name => ⟨ht.adds_addInTransaction detect tree directory rest name,
    ?_, ?_⟩, fun later path d d' hd hpresent hd' =>
      (ht.continues_afterCalls hd hpresent hd').notEarlier, ht.suffixed⟩
  · intro t' r
    rw [addInTransaction_eq]
    cases t.add detect tree directory rest name with
    | error e => simp
    | ok result =>
      obtain ⟨t'', r'⟩ := result
      simp
  · intro e
    rw [addInTransaction_eq]
    cases t.add detect tree directory rest name <;> simp

/-- A tree with one file, `/p/a`, that was changed at a time. -/
def lone (changed : Int) : FileTree :=
  ⟨[([[0x70]], .directory 0), ([[0x70], [0x61]], .file (.octets [0x78]) changed)]⟩

/-- The call that adds the file of such a tree. -/
def adding (changed : Int) : Call :=
  ⟨.add (NativeName.ofText ['/', 'p']) (NativeName.ofText ['a']) none, lone changed⟩

/-- A file that was added and is changed afterwards is brought up to date. -/
theorem law_of_adding_changed :
    let t := ({} : Table).afterCalls (Detector.constant none) [adding 1000]
    ∃ t' d, t.add (Detector.constant none) (lone 2000) (NativeName.ofText ['/', 'p'])
      (NativeName.ofText ['a']) none = .ok (t', .updated) ∧ t.store.Puts t'.store d := by
  intro t
  obtain ⟨hlaw, -, -⟩ := law_of_adding (Detector.constant none) [adding 1000]
  obtain ⟨hadds, hok, -⟩ := hlaw (lone 2000) (NativeName.ofText ['/', 'p'])
    (NativeName.ofText ['a']) none
  have houtcome : (t.addInTransaction (Detector.constant none) (lone 2000)
      (NativeName.ofText ['/', 'p']) (NativeName.ofText ['a']) none).2.toOption =
        some .updated := by decide +kernel
  generalize t.addInTransaction (Detector.constant none) (lone 2000) (NativeName.ofText ['/', 'p'])
    (NativeName.ofText ['a']) none = result at hadds hok houtcome
  obtain ⟨t', outcome⟩ := result
  cases outcome with
  | error e => cases houtcome
  | ok r =>
    cases Option.some.inj houtcome
    obtain ⟨c, -, -, -, hput⟩ := hadds.returned .updated rfl
    obtain ⟨content, d, -, -, hd⟩ := hput (by decide)
    exact ⟨t', d, (hok t' .updated).mpr rfl, hd⟩

end Table

end PackageCatalog
