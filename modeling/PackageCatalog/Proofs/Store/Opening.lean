import PackageCatalog.Proofs.Growth
import PackageCatalog.Store.Pool

/-!
# Opening databases

Opening a database makes the directories above it, and an empty database where there is none.
Nothing else is changed by it, whether it succeeds or not; nor is anything by a connection that is
only looked at and closed.

## Main definitions

* `Pool.stores` — what the databases of a pool hold for good.
* `Pool.Extends` — a pool with some empty databases more.

## Main results

* `Pool.openFile_spec` — **what opening a database does to the files and to the databases.**
* `Pool.stores_close_keep` — a connection that leaves its table as it sees it.
-/

namespace PackageCatalog

namespace Pool

variable {p p' p'' : Pool} {tree tree' : FileTree} {connection n : Nat} {how : Opening}

/-- What the databases of a pool hold for good. -/
def stores (p : Pool) : List Store := p.databases.map Database.committed

/-- A pool with some empty databases more. -/
def Extends (p p' : Pool) : Prop := ∃ k, p'.stores = p.stores ++ List.replicate k ({} : Store)

theorem Extends.of_stores_eq (h : p'.stores = p.stores) : Extends p p' :=
  ⟨0, by rw [h, List.replicate_zero, List.append_nil]⟩

theorem Extends.refl (p : Pool) : Extends p p := .of_stores_eq rfl

theorem Extends.trans (h : Extends p p') (h' : Extends p' p'') : Extends p p'' := by
  obtain ⟨k, hk⟩ := h
  obtain ⟨k', hk'⟩ := h'
  exact ⟨k + k', by rw [hk', hk, List.append_assoc, List.replicate_append_replicate]⟩

/-! ### Opening -/

theorem extends_create (p : Pool) : Extends p p.create.1 := by
  refine ⟨1, ?_⟩
  rw [create, stores, stores, List.map_append]
  rfl

theorem extends_connect (p : Pool) (n : Nat) : Extends p (p.connect n).1 := .of_stores_eq rfl

theorem extends_openPrivate (p : Pool) : Extends p p.openPrivate.1 :=
  (extends_create p).trans (extends_connect _ _)

theorem extends_openShared (p : Pool) (name : Bytes) : Extends p (p.openShared name).1 := by
  rw [openShared]
  split
  · exact extends_connect p _
  · exact (extends_create p).trans (.of_stores_eq rfl)

/-- A database is opened where it is, or made where nothing is, or an empty file. -/
theorem databaseAt_spec {name : NativeName}
    (h : p.databaseAt tree name how = .ok (tree', p', n)) :
    FileTree.Grows tree tree' ∧ Extends p p' := by
  have hfresh : ∀ {path : RealPath} {changed : Int},
      (∀ e, tree.entry? path = some e → ∃ t, e = .file (.octets []) t) →
      (tree.put path (.file (.database p.create.2) changed), p.create.1, p.create.2) =
        (tree', p', n) → FileTree.Grows tree tree' ∧ Extends p p' := by
    rintro path changed hplace ⟨⟩
    exact ⟨FileTree.grows_put hplace, extends_create p⟩
  -- a database is made where there is no file, or an empty one
  rw [databaseAt] at h
  split at h
  · cases h
  split at h
  · cases h
  dsimp only at h
  split at h
  · cases h
  · next path hresolve =>
    split at h
    · split at h
      · cases h
      · refine hfresh (fun e he => ?_) (Except.ok.inj h)
        rw [FileTree.entry?_of_resolve hresolve] at he
        cases he
    · cases h
  · next path changed hresolve =>
    split at h
    · cases h
    · refine hfresh (fun e he => ⟨changed, ?_⟩) (Except.ok.inj h)
      have hentry := (FileTree.leads_of_resolve hresolve).end_entry.2 _ _ rfl
      rw [he] at hentry
      exact hentry
  · cases h
  · split at h
    · cases h
    split at h
    · cases h
    · cases h
      exact ⟨FileTree.Grows.refl tree, Extends.refl p⟩
  · cases h

theorem connectAt_spec (p : Pool) (tree : FileTree) (path : Bytes) (how : Opening) :
    FileTree.Grows tree (p.connectAt tree path how).1 ∧
      Extends p (p.connectAt tree path how).2.1 := by
  rw [connectAt]
  split
  · split
    · exact ⟨FileTree.Grows.refl tree, Extends.refl p⟩
    split
    · exact ⟨FileTree.Grows.refl tree, extends_openShared p path⟩
    · exact ⟨FileTree.Grows.refl tree, extends_openPrivate p⟩
  · dsimp only
    split
    · exact ⟨FileTree.Grows.refl tree, Extends.refl p⟩
    · next hdatabase =>
      obtain ⟨hgrows, hextends⟩ := databaseAt_spec hdatabase
      exact ⟨hgrows, hextends.trans (extends_connect _ _)⟩

/-- **What opening a database does**: directories are made above it, and an empty database where
there is none, whether it is opened at the end or not. -/
theorem openFile_spec (p : Pool) (tree : FileTree) (name : Text) :
    FileTree.Grows tree (p.openFile tree name).1 ∧ Extends p (p.openFile tree name).2.1 := by
  rw [openFile]
  split
  · exact connectAt_spec p tree _ _
  dsimp only
  split
  · exact ⟨FileTree.Grows.refl tree, Extends.refl p⟩
  · next made hmade =>
    have hgrows := FileTree.grows_makeDirectories hmade
    have hconnect : ∀ path how, FileTree.Grows tree (p.connectAt made path how).1 ∧
        Extends p (p.connectAt made path how).2.1 := fun path how =>
      ⟨hgrows.trans (connectAt_spec p made path how).1, (connectAt_spec p made path how).2⟩
    split
    · exact ⟨hgrows, Extends.refl p⟩
    split
    · exact hconnect _ _
    · split
      · exact ⟨hgrows, Extends.refl p⟩
      · exact hconnect _ _

/-! ### Connections that are only looked at -/

theorem committed_settle_view (d : Database) (connection : Nat) :
    (d.settle connection (d.view connection)).committed = d.committed := by
  rw [Database.view]
  split
  · rfl
  · split <;> rfl

theorem committed_abandon (d : Database) (connection : Nat) :
    (d.abandon connection).committed = d.committed := by
  rw [Database.abandon]
  split
  · rfl
  · split <;> rfl

theorem stores_change {f : Database → Database}
    (h : ∀ d, p.databases[n]? = some d → (f d).committed = d.committed) :
    (p.change n f).stores = p.stores := by
  rw [stores, stores, change]
  refine List.ext_getElem? (fun i => ?_)
  rw [List.getElem?_map, List.getElem?_map]
  by_cases hi : n = i
  · subst hi
    rw [List.getElem?_modify_eq]
    cases hd : p.databases[n]? with
    | none => rfl
    | some d => exact congrArg some (h d hd)
  · dsimp only
    rw [List.getElem?_modify_ne _ _ hi]

theorem stores_keep (p : Pool) (connection : Nat) :
    (p.keep connection (p.table connection)).stores = p.stores := by
  rw [keep, table]
  split
  · rfl
  · next n _ =>
    refine stores_change (fun d hd => ?_)
    dsimp only
    rw [hd]
    exact committed_settle_view d connection

theorem stores_close (p : Pool) (connection : Nat) : (p.close connection).stores = p.stores := by
  rw [close]
  split
  · rfl
  · exact stores_change (fun d _ => committed_abandon d connection)

/-- **A connection that leaves its table as it sees it** changes nothing for good. -/
theorem stores_close_keep (p : Pool) (connection : Nat) :
    ((p.keep connection (p.table connection)).close connection).stores = p.stores := by
  rw [stores_close, stores_keep]

end Pool

end PackageCatalog
