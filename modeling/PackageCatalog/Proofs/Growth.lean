import PackageCatalog.Proofs.Crawl.Ways

/-!
# Trees that grow

Directories and databases are made where nothing stands, or an empty file.  So a tree only grows:
what stood in it stands there still, directories with another time at most, and a file that holds
something is found as it was.

## Main definitions

* `FileTree.Grows` — a tree in which all that stood before stands still, but for empty files.

## Main results

* `FileTree.grows_put` — what is put where nothing stands lets a tree grow.
* `FileTree.stat_of_grows` — **a file that holds something is found in the grown tree.**
* `FileTree.grows_makeDirectories`, `FileTree.grows_makeParents` — making directories.
-/

namespace PackageCatalog

namespace FileTree

variable {tree tree' tree'' : FileTree} {dir p q : RealPath} {todo : List Bytes} {body : Body}
  {entry : Entry} {name nm : NativeName} {n : Nat} {t : Int}

/-- A tree in which all that stood before stands still, but for empty files; the times of
directories may be others. -/
def Grows (tree tree' : FileTree) : Prop :=
  ∀ q e, tree.entry? q = some e → (∀ t, e ≠ .file (.octets []) t) →
    ∃ e', tree'.entry? q = some e' ∧ refreshed e' = refreshed e

/-! ### What stands still -/

theorem Grows.refl (tree : FileTree) : Grows tree tree := fun _ e he _ => ⟨e, he, rfl⟩

theorem Grows.trans (h : Grows tree tree') (h' : Grows tree' tree'') : Grows tree tree'' := by
  intro q e he hfull
  obtain ⟨e₁, he₁, hsame₁⟩ := h q e he hfull
  have hfull₁ : ∀ t, e₁ ≠ .file (.octets []) t := by
    rintro t rfl
    cases e with
    | file body t' => exact hfull t hsame₁.symm
    | directory t' => cases hsame₁
    | link target => cases hsame₁
  obtain ⟨e₂, he₂, hsame₂⟩ := h' q e₁ he₁ hfull₁
  exact ⟨e₂, he₂, hsame₂.trans hsame₁⟩

theorem Grows.directory (h : Grows tree tree') (hentry : tree.entry? q = some (.directory t)) :
    ∃ t', tree'.entry? q = some (.directory t') := by
  obtain ⟨e', he', hsame⟩ := h q _ hentry nofun
  cases e' with
  | directory t' => exact ⟨t', he'⟩
  | file body t' => cases hsame
  | link target => cases hsame

theorem Grows.link {target : Bytes} (h : Grows tree tree')
    (hentry : tree.entry? q = some (.link target)) : tree'.entry? q = some (.link target) := by
  obtain ⟨e', he', hsame⟩ := h q _ hentry nofun
  cases e' with
  | link target' => exact he'.trans (congrArg some hsame)
  | file body t' => cases hsame
  | directory t' => cases hsame

theorem Grows.file (h : Grows tree tree') (hentry : tree.entry? q = some (.file body t))
    (hbody : body ≠ .octets []) : tree'.entry? q = some (.file body t) := by
  obtain ⟨e', he', hsame⟩ := h q _ hentry (fun t' heq => hbody (Entry.file.inj heq).1)
  cases e' with
  | file body' t' => exact he'.trans (congrArg some hsame)
  | directory t' => cases hsame
  | link target => cases hsame

/-- What is put where nothing stands, or an empty file, lets a tree grow. -/
theorem grows_put (h : ∀ e, tree.entry? p = some e → ∃ t, e = .file (.octets []) t) :
    Grows tree (tree.put p entry) := by
  intro q e he hfull
  have hq : q ≠ p := by
    rintro rfl
    obtain ⟨t, rfl⟩ := h e he
    exact hfull t rfl
  have hother : FileTree.entry? (tree.put p entry) q = tree.entry? q ∨
      FileTree.entry? (tree.put p entry) q = (tree.entry? q).map refreshed := entry?_put_of_ne hq
  rcases hother with hput | hput
  · exact ⟨e, hput.trans he, rfl⟩
  · refine ⟨refreshed e, by rw [hput, he]; rfl, ?_⟩
    cases e <;> rfl

/-! ### Files that are found -/

/-- A way that ends at a file which holds something is still taken. -/
theorem Leads.grow (hgrows : Grows tree tree') (hbody : body ≠ .octets [])
    (h : Leads tree n dir todo (.present p (.file body t))) :
    Leads tree' n dir todo (.present p (.file body t)) := by
  -- the goal is a variable for the induction, and `hend` says which one it is
  generalize hend : Spot.present p (.file body t) = goal at h
  induction h with
  -- the entry is the one looked up, since the default is a directory
  | @stop n dir =>
    obtain ⟨rfl, hentry⟩ := Spot.present.inj hend
    have hfile : tree.entry? p = some (.file body t) := by
      cases hfound : tree.entry? p with
      | none =>
        rw [hfound] at hentry
        cases hentry
      | some e =>
        rw [hfound] at hentry
        exact congrArg some hentry.symm
    have hstop : Leads tree' n p [] _ := .stop
    rw [hgrows.file hfile hbody] at hstop
    rw [← hend]
    exact hstop
  | idle hname _ ih => exact .idle hname (ih hend)
  | parent hidle hname _ ih => exact .parent hidle hname (ih hend)
  | absent _ _ => cases hend
  | file hname hentry =>
    obtain ⟨rfl, hfile⟩ := Spot.present.inj hend
    obtain ⟨rfl, rfl⟩ := Entry.file.inj hfile
    exact .file hname (hgrows.file hentry hbody)
  | directory hname hentry _ ih =>
    obtain ⟨t', hentry'⟩ := hgrows.directory hentry
    exact .directory hname hentry' (ih hend)
  | link hname hentry _ ih => exact .link hname (hgrows.link hentry) (ih hend)

/-- **A file that holds something is found in the grown tree.** -/
theorem stat_of_grows (hgrows : Grows tree tree') (hbody : body ≠ .octets [])
    (h : tree.stat nm = .ok (.file body t)) : tree'.stat nm = .ok (.file body t) := by
  obtain ⟨p, hlocate⟩ := stat_eq_ok_iff.mp h
  obtain ⟨bytes, hoctets, hresolve⟩ := locate_eq_ok_iff.mp hlocate
  obtain ⟨hne, hlength, hway⟩ := resolve_eq_ok_iff_leads.mp hresolve
  exact stat_eq_ok_iff.mpr ⟨p, locate_eq_ok_iff.mpr ⟨bytes, hoctets,
    resolve_eq_ok_iff_leads.mpr ⟨hne, hlength, hway.grow hgrows hbody⟩⟩⟩

/-! ### Making directories -/

theorem grows_create (h : tree.create name entry = .ok tree') : Grows tree tree' := by
  rw [create] at h
  split at h
  · cases h
  · cases h
  · next p hlocate =>
    obtain ⟨bytes, -, hresolve⟩ := locate_eq_ok_iff.mp hlocate
    rw [← Except.ok.inj h]
    refine grows_put (fun e he => ?_)
    rw [entry?_of_resolve hresolve] at he
    cases he

theorem grows_makeDirectory (h : tree.makeDirectory name = .ok tree') : Grows tree tree' :=
  grows_create h

/-- The last directory is made, or stands there already. -/
theorem grows_makeLast
    (h : (match tree.makeDirectory name with
      | .ok tree => .ok tree
      | .error (.system errno path) =>
        match tree.stat name with
        | .ok (.directory _) => .ok tree
        | _ => .error (.system errno path)
      | .error e => .error e : Except FileError FileTree) = .ok tree') : Grows tree tree' := by
  split at h
  · next hmake => exact Except.ok.inj h ▸ grows_makeDirectory hmake
  · split at h
    · exact Except.ok.inj h ▸ Grows.refl tree
    · cases h
  · cases h

theorem grows_makeDirectoriesWith : ∀ {depth : Nat} {tree tree' : FileTree} {name : NativeName},
    makeDirectoriesWith depth tree name = .ok tree' → Grows tree tree' := by
  intro depth
  induction depth with
  | zero =>
    intro tree tree' name h
    rw [makeDirectoriesWith] at h
    exact grows_makeLast h
  | succ depth ih =>
    intro tree tree' name h
    rw [makeDirectoriesWith] at h
    split at h
    · exact grows_makeLast h
    · split at h
      · next hhead => exact (ih hhead).trans (grows_makeLast h)
      · split at h
        · exact grows_makeLast h
        · cases h

/-- A tree in which directories were made has grown. -/
theorem grows_makeDirectories (h : tree.makeDirectories name = .ok tree') : Grows tree tree' :=
  grows_makeDirectoriesWith h

/-- A directory that stands there already is as good as a new one. -/
theorem eq_of_accepted {e : FileError}
    (h : (match e with
      | .system _ _ =>
        match tree.testEntry name isDirectoryEntry with
        | .ok true => .ok tree
        | .ok false => .error e
        | .error e => .error e
      | e => .error e : Except FileError FileTree) = .ok tree') : tree' = tree := by
  split at h
  · split at h
    · exact (Except.ok.inj h).symm
    · cases h
    · cases h
  · cases h

theorem grows_makeParentsWith : ∀ {depth : Nat} {tree tree' : FileTree} {name : NativeName},
    makeParentsWith depth tree name = .ok tree' → Grows tree tree' := by
  intro depth
  induction depth with
  | zero =>
    intro tree tree' name h
    rw [makeParentsWith] at h
    split at h
    · next hmake => exact Except.ok.inj h ▸ grows_makeDirectory hmake
    · cases h
    · exact eq_of_accepted h ▸ Grows.refl tree
  | succ depth ih =>
    intro tree tree' name h
    rw [makeParentsWith] at h
    split at h
    · next hmake => exact Except.ok.inj h ▸ grows_makeDirectory hmake
    · dsimp only at h
      split at h
      · cases h
      split at h
      · cases h
      · next hparent =>
        have hgrows := ih hparent
        split at h
        · next hmake => exact hgrows.trans (Except.ok.inj h ▸ grows_makeDirectory hmake)
        · exact eq_of_accepted h ▸ hgrows
    · exact eq_of_accepted h ▸ Grows.refl tree

/-- A tree in which the directories above a file were made has grown. -/
theorem grows_makeParents (h : tree.makeParents name = .ok tree') : Grows tree tree' :=
  grows_makeParentsWith h

end FileTree

end PackageCatalog
