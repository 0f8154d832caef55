import PackageCatalog.Proofs.Catalogue.Sweeping

/-!
# Removals that are told

A cleanup, and a removal by a fragment, go over documents that were read from the table before and
take some of them out, one after the other.  Each is told to a listener before it goes.  Here the
loop is carried out with its listener, who sees the table as it is at each call and changes nothing
but itself; what the loop leaves is the table without the documents that were told.

## Main definitions

* `Table.lacking` — a table without some of its documents.
* `Table.removeTold`, `Telling` — the loop, and how it ends.
* `Table.calls`, `Table.told` — the calls of the listener, and what it has become after them.
* `Table.Removes` — documents were told and removed, and nothing else has changed.
* `Table.cleanupTold` — a cleanup, of the whole table or of a package.

## Main results

* `Table.remove_stored` — a stored document that is removed is lacking, and nothing else is.
* `Table.removeTold_append` — **the loop over documents that can all be tested.**
* `Table.cleanupTold_eq` — with its listener a cleanup comes to what it does without.
-/

namespace PackageCatalog

/-- How removals with a listener end: the table, what the listener has become, and the answer, or
what has stopped them. -/
structure Telling (σ α : Type) where
  table : Table
  heard : σ
  outcome : Except Failure α

/-- What a sweep answers: the number of the documents that it has removed, or what has stopped it.
-/
def Sweep.outcome (s : Sweep) : Except Failure Nat :=
  match s.failure with
  | none => .ok s.removed.length
  | some e => .error e

namespace Table

variable {σ α : Type} {t : Table} {d : Document} {ds gone : List Document}

/-! ### Tables without some documents -/

/-- The table without some documents and their index rows. -/
def lacking (t : Table) (gone : List Document) : Table :=
  { t with store :=
    { t.store with
      documents := t.store.documents.filter (fun d => !gone.any (·.id == d.id))
      index := t.store.index.filter (fun r => !gone.any (·.id == r.id)) } }

theorem lacking_nil (t : Table) : t.lacking [] = t := by
  simp [lacking]

theorem lacking_lacking (t : Table) (ds es : List Document) :
    (t.lacking ds).lacking es = t.lacking (ds ++ es) := by
  simp [lacking, List.filter_filter, Bool.and_comm]

/-- It does not matter in which order documents are lacking, and how often they are named. -/
theorem lacking_congr {es : List Document} (h : ∀ d, d ∈ ds ↔ d ∈ es) :
    t.lacking ds = t.lacking es := by
  have hany : ∀ n : Nat, ds.any (fun d => d.id == n) = es.any (fun d => d.id == n) := by
    intro n
    rw [Bool.eq_iff_iff, List.any_eq_true, List.any_eq_true]
    exact exists_congr (fun d => and_congr_left' (h d))
  simp only [lacking, hany]

/-- A document is lacking if it is one of those that were taken out. -/
theorem mem_lacking (hs : t.store.Sound) (hgone : ∀ d ∈ gone, d ∈ t.store.documents) :
    d ∈ (t.lacking gone).store.documents ↔ d ∈ t.store.documents ∧ d ∉ gone := by
  rw [lacking, List.mem_filter, Bool.not_eq_true', List.any_eq_false]
  refine and_congr_right (fun hd => ⟨fun h hmem => h d hmem (beq_self_eq_true _), ?_⟩)
  intro h e he hid
  exact h (hs.eq_of_id (hgone e he) hd (eq_of_beq hid) ▸ he)

theorem sound_lacking (hs : t.store.Sound) (gone : List Document) :
    (t.lacking gone).store.Sound where
  mirrored := by
    show t.store.index.filter _ = List.map _ (t.store.documents.filter _)
    rw [hs.mirrored, List.filter_map]
    rfl
  ascending := hs.ascending.sublist List.filter_sublist
  distinct := hs.distinct.sublist List.filter_sublist
  bounded := fun d hd => hs.bounded d (List.mem_filter.mp hd).1

/-- **A stored document that is removed is lacking, and nothing else is.** -/
theorem remove_stored (hready : t.access = .ready) (hs : t.store.Sound)
    (hd : d ∈ t.store.documents) : t.remove d.path = .ok (t.lacking [d]) := by
  have hdelete : t.store.delete d.path = .ok (t.lacking [d]).store := by
    rw [Store.delete, hs.get?_path hd]
    simp [lacking, Store.afterDelete, bne, BEq.comm (a := d.id)]
  obtain ⟨store, saved, access⟩ := t
  obtain rfl : access = .ready := hready
  rw [remove_eq_ok_iff]
  simp only [delete, execute, hdelete, Except.map, reduceCtorEq, if_false]
  rfl

/-- The documents that come after one that is removed are others, so that they are still there. -/
theorem stored_of_lacking (hs : t.store.Sound) (hds : ∀ e ∈ d :: ds, e ∈ t.store.documents)
    (hnodup : (d :: ds).Nodup) : ∀ e ∈ ds, e ∈ (t.lacking [d]).store.documents := by
  intro e he
  obtain ⟨hd, hds⟩ := List.forall_mem_cons.mp hds
  refine (mem_lacking hs (List.forall_mem_singleton.mpr hd)).mpr ⟨hds e he, ?_⟩
  rw [List.mem_singleton]
  rintro rfl
  exact (List.nodup_cons.mp hnodup).1 he

/-! ### The loop -/

/-- Documents are gone through.  Each that passes a test is told to a listener, who sees the table
as it is then, and is removed; the answer is the number of those. -/
def removeTold (test : Document → Except Failure Bool) (hear : σ → Table → Document → σ) :
    Table → σ → List Document → Telling σ Nat
  | t, s, [] => ⟨t, s, .ok 0⟩
  | t, s, d :: ds =>
    match test d with
    | .error e => ⟨t, s, .error e⟩
    | .ok false => removeTold test hear t s ds
    | .ok true =>
      let s := hear s t d
      match t.remove d.path with
      | .error e => ⟨t, s, .error e⟩
      | .ok t =>
        let rest := removeTold test hear t s ds
        { rest with outcome := rest.outcome.map (· + 1) }

/-- The calls of a listener when documents are removed one after the other: each with the table of
that time. -/
def calls : Table → List Document → List (Table × Document)
  | _, [] => []
  | t, d :: ds => (t, d) :: calls (t.lacking [d]) ds

/-- What a listener becomes when documents are removed one after the other. -/
def told (hear : σ → Table → Document → σ) (t : Table) (s : σ) (ds : List Document) : σ :=
  (t.calls ds).foldl (fun s call => hear s call.1 call.2) s

/-- There is one call for each document, in their order. -/
theorem map_snd_calls (t : Table) (ds : List Document) : (t.calls ds).map Prod.snd = ds := by
  induction ds generalizing t with
  | nil => rfl
  | cons d ds ih => rw [calls, List.map_cons, ih]

/-- A document is told after those before it were removed, and before it is removed itself. -/
theorem mem_calls (hs : t.store.Sound) (hds : ∀ d ∈ ds, d ∈ t.store.documents) (hnodup : ds.Nodup)
    {call : Table × Document} (h : call ∈ t.calls ds) :
    call.2 ∈ call.1.store.documents ∧
      ∃ before after, ds = before ++ call.2 :: after ∧ call.1 = t.lacking before := by
  induction ds generalizing t with
  | nil => cases h
  | cons d ds ih =>
    have hlater := stored_of_lacking hs hds hnodup
    rcases List.mem_cons.mp h with rfl | h
    · exact ⟨hds d List.mem_cons_self, [], ds, rfl, (lacking_nil t).symm⟩
    · obtain ⟨hstored, before, after, rfl, hbefore⟩ :=
        ih (sound_lacking hs [d]) hlater (List.nodup_cons.mp hnodup).2 h
      refine ⟨hstored, d :: before, after, rfl, ?_⟩
      rw [hbefore, lacking_lacking]
      rfl

/-- **The loop over documents that can all be tested** removes those that pass, tells each of them,
and goes on with what comes after. -/
theorem removeTold_append {test : Document → Except Failure Bool}
    {hear : σ → Table → Document → σ} {pass : Document → Bool} {before : List Document}
    (after : List Document) (hready : ∀ d ∈ before, pass d = true → t.access = .ready)
    (hs : t.store.Sound) (hbefore : ∀ d ∈ before, d ∈ t.store.documents) (hnodup : before.Nodup)
    (htest : ∀ d ∈ before, test d = .ok (pass d)) (s : σ) :
    t.removeTold test hear s (before ++ after) =
      let rest := (t.lacking (before.filter pass)).removeTold test hear
        (t.told hear s (before.filter pass)) after
      { rest with outcome := rest.outcome.map (· + (before.filter pass).length) } := by
  have hzero : ∀ r : Except Failure Nat, r.map (· + 0) = r := by
    intro r
    cases r <;> rfl
  have hsucc : ∀ (r : Except Failure Nat) (n : Nat),
      (r.map (· + n)).map (· + 1) = r.map (· + (n + 1)) := by
    intro r n
    cases r <;> rfl
  -- the induction is on the documents before; the table is what earlier removals have left
  induction before generalizing t s with
  | nil =>
    rw [List.filter_nil, List.nil_append, lacking_nil, List.length_nil]
    simp only [told, calls, List.foldl_nil, hzero]
  | cons d before ih =>
    have hlater := stored_of_lacking hs hbefore hnodup
    obtain ⟨hd, hbefore⟩ := List.forall_mem_cons.mp hbefore
    obtain ⟨-, hnodup⟩ := List.nodup_cons.mp hnodup
    obtain ⟨hready₁, hready⟩ := List.forall_mem_cons.mp hready
    obtain ⟨htest₁, htest⟩ := List.forall_mem_cons.mp htest
    rw [List.cons_append, removeTold, htest₁]
    cases hpass : pass d with
    | false =>
      rw [List.filter_cons_of_neg (by rw [hpass]; exact Bool.false_ne_true)]
      exact ih hready hs hbefore hnodup htest s
    | true =>
      rw [List.filter_cons_of_pos hpass]
      dsimp only
      rw [remove_stored (hready₁ hpass) hs hd]
      dsimp only
      rw [ih (t := t.lacking [d]) hready (sound_lacking hs [d]) hlater hnodup htest,
        lacking_lacking, List.length_cons]
      dsimp only
      rw [hsucc]
      rfl

/-- The loop over documents of the table that can all be tested. -/
theorem removeTold_of_tested {test : Document → Except Failure Bool}
    {hear : σ → Table → Document → σ} {pass : Document → Bool}
    (hready : ∀ d ∈ ds, pass d = true → t.access = .ready) (hs : t.store.Sound)
    (hds : ∀ d ∈ ds, d ∈ t.store.documents) (hnodup : ds.Nodup)
    (htest : ∀ d ∈ ds, test d = .ok (pass d)) (s : σ) :
    t.removeTold test hear s ds = ⟨t.lacking (ds.filter pass), t.told hear s (ds.filter pass),
      .ok (ds.filter pass).length⟩ := by
  have happend : t.removeTold test hear s (ds ++ []) = _ :=
    removeTold_append [] hready hs hds hnodup htest s
  rw [List.append_nil] at happend
  rw [happend]
  simp [removeTold, Except.map]

/-- The loop ends at a document that cannot be tested. -/
theorem removeTold_of_failed {test : Document → Except Failure Bool}
    {hear : σ → Table → Document → σ} {pass : Document → Bool} {before after : List Document}
    {e : Failure} (hready : ∀ d ∈ before, pass d = true → t.access = .ready) (hs : t.store.Sound)
    (hbefore : ∀ d ∈ before, d ∈ t.store.documents) (hnodup : before.Nodup)
    (htest : ∀ d ∈ before, test d = .ok (pass d)) (hfailed : test d = .error e) (s : σ) :
    t.removeTold test hear s (before ++ d :: after) =
      ⟨t.lacking (before.filter pass), t.told hear s (before.filter pass), .error e⟩ := by
  rw [removeTold_append (d :: after) hready hs hbefore hnodup htest s]
  simp only [removeTold, hfailed, Except.map]

/-! ### What was told and removed -/

/-- Documents of a table were told and removed, and nothing else has changed: each was told once, in
the order of their removal, while it was still there. -/
structure Removes (t : Table) (hear : σ → Table → Document → σ) (s : σ) (gone : List Document)
    (run : Telling σ α) : Prop where
  once : gone.Nodup
  stored : ∀ d ∈ gone, d ∈ t.store.documents
  table : run.table = t.lacking gone
  kept : ∀ d, d ∈ run.table.store.documents ↔ d ∈ t.store.documents ∧ d ∉ gone
  heard : run.heard = t.told hear s gone
  each : (t.calls gone).map Prod.snd = gone
  before : ∀ call ∈ t.calls gone, call.2 ∈ call.1.store.documents

theorem removes_lacking {hear : σ → Table → Document → σ} {s : σ} (hs : t.store.Sound)
    (honce : gone.Nodup) (hstored : ∀ d ∈ gone, d ∈ t.store.documents)
    (outcome : Except Failure α) :
    Removes t hear s gone ⟨t.lacking gone, t.told hear s gone, outcome⟩ where
  once := honce
  stored := hstored
  table := rfl
  kept := fun _ => mem_lacking hs hstored
  heard := rfl
  each := map_snd_calls t gone
  before := fun _ hcall => (mem_calls hs hstored honce hcall).1

/-! ### Cleanups -/

/-- The documents that a cleanup goes over, in its order: those of the whole table or those of a
package. -/
def visited (t : Table) (scope : Option Text) : Except StoreError (List Document) :=
  match scope with
  | none => t.documents
  | some package => t.packageDocuments package

/-- A cleanup of the whole table or of a package. -/
def cleanupOf (t : Table) (tree : FileTree) (scope : Option Text) : Sweep :=
  match scope with
  | none => t.cleanup tree
  | some package => t.cleanupPackage tree package

/-- A cleanup with a listener. -/
def cleanupTold (t : Table) (tree : FileTree) (hear : σ → Table → Document → σ) (s : σ)
    (scope : Option Text) : Telling σ Nat :=
  match t.visited scope with
  | .error e => ⟨t, s, .error (.store e)⟩
  | .ok ds => t.removeTold (fun d => isGone tree d.path) hear s ds

/-- With its listener a sweep comes to what it does without. -/
theorem removeTold_eq_sweep (tree : FileTree) (hear : σ → Table → Document → σ)
    (ds : List Document) : ∀ (t : Table) (s : σ),
      (t.removeTold (fun d => isGone tree d.path) hear s ds).table = (sweep tree t ds).table ∧
        (t.removeTold (fun d => isGone tree d.path) hear s ds).outcome =
          (sweep tree t ds).outcome := by
  induction ds with
  | nil => exact fun t s => ⟨rfl, rfl⟩
  | cons d ds ih =>
    intro t s
    rw [removeTold, sweep]
    cases isGone tree d.path with
    | error e => exact ⟨rfl, rfl⟩
    | ok gone =>
      cases gone with
      | false => exact ih t s
      | true =>
        dsimp only
        cases t.remove d.path with
        | error e => exact ⟨rfl, rfl⟩
        | ok t' =>
          obtain ⟨htable, houtcome⟩ := ih t' (hear s t d)
          refine ⟨htable, ?_⟩
          dsimp only
          rw [houtcome]
          unfold Sweep.outcome
          cases (sweep tree t' ds).failure <;> rfl

/-- **With its listener a cleanup comes to what it does without.** -/
theorem cleanupTold_eq (t : Table) (tree : FileTree) (hear : σ → Table → Document → σ) (s : σ)
    (scope : Option Text) :
    (t.cleanupTold tree hear s scope).table = (t.cleanupOf tree scope).table ∧
      (t.cleanupTold tree hear s scope).outcome = (t.cleanupOf tree scope).outcome := by
  have hof : t.cleanupOf tree scope =
      match t.visited scope with
      | .error e => ⟨t, [], [], some (.store e)⟩
      | .ok ds => sweep tree t ds := by
    cases scope <;> rfl
  rw [hof, cleanupTold]
  cases t.visited scope with
  | error e => exact ⟨rfl, rfl⟩
  | ok ds => exact removeTold_eq_sweep tree hear ds t s

end Table

end PackageCatalog
