import PackageCatalog.FileTree
import Mathlib.Data.List.Basic
import Mathlib.Data.List.Infix

/-!
# What a written file holds

A name that a file was written to leads to that file.  The way to it passes directories and links,
and of these a write changes no more than a time: the file stands at the end of the way, and no way
passes the same link twice and ends on it.

## Main definitions

* `FileTree.Leads` — the way that a resolution takes.
* `Spot.path` — where it ends.

## Main results

* `FileTree.followLinks_eq_ok_iff`, `FileTree.resolve_eq_ok_iff_leads` — a resolution is such a way.
* `FileTree.locate_eq_ok_iff`, `FileTree.stat_eq_ok_iff` — what a name leads to.
* `FileTree.Leads.path_ne` — a way that starts outside of a link does not end on it.
* `FileTree.Leads.put` — **the way after a write.**
* `FileTree.stat_write`, `FileTree.read_write` — **a written file is found, and read back.**
-/

namespace PackageCatalog

/-- The real path where a resolution ends. -/
def Spot.path : Spot → RealPath
  | present path _ => path
  | absent path => path

namespace FileTree

/-- A part of a path that names something. -/
def Names (name : Bytes) : Prop :=
  Path.isIdle name = false ∧ Path.isParent name = false ∧ ¬nameLimit < name.length

/-- The way from a directory along the parts of a path, to where it ends, with a bound on the
links that are followed. -/
inductive Leads (tree : FileTree) : Nat → RealPath → List Bytes → Spot → Prop
  | stop {n : Nat} {dir : RealPath} :
      Leads tree n dir [] (.present dir ((tree.entry? dir).getD (.directory recentTime)))
  | idle {n : Nat} {dir : RealPath} {name : Bytes} {rest : List Bytes} {spot : Spot}
      (hname : Path.isIdle name = true) :
      Leads tree n dir rest spot → Leads tree n dir (name :: rest) spot
  | parent {n : Nat} {dir : RealPath} {name : Bytes} {rest : List Bytes} {spot : Spot}
      (hidle : Path.isIdle name = false) (hname : Path.isParent name = true) :
      Leads tree n dir.dropLast rest spot → Leads tree n dir (name :: rest) spot
  | absent {n : Nat} {dir : RealPath} {name : Bytes} (hname : Names name)
      (hentry : tree.entry? (dir ++ [name]) = none) :
      Leads tree n dir [name] (.absent (dir ++ [name]))
  | file {n : Nat} {dir : RealPath} {name : Bytes} {body : Body} {changed : Int}
      (hname : Names name)
      (hentry : tree.entry? (dir ++ [name]) = some (.file body changed)) :
      Leads tree n dir [name] (.present (dir ++ [name]) (.file body changed))
  | directory {n : Nat} {dir : RealPath} {name : Bytes} {rest : List Bytes} {spot : Spot}
      {changed : Int} (hname : Names name)
      (hentry : tree.entry? (dir ++ [name]) = some (.directory changed)) :
      Leads tree n (dir ++ [name]) rest spot → Leads tree n dir (name :: rest) spot
  | link {n : Nat} {dir : RealPath} {name target : Bytes} {rest : List Bytes} {spot : Spot}
      (hname : Names name)
      (hentry : tree.entry? (dir ++ [name]) = some (.link target)) :
      Leads tree n (if Path.isAbsolute target then [] else dir)
        (Path.segments target ++ rest) spot →
        Leads tree (n + 1) dir (name :: rest) spot

variable {tree : FileTree} {p q dir : RealPath} {name : Bytes} {rest todo : List Bytes}
  {entry : Entry} {spot : Spot} {n : Nat}

/-! ### Entries -/

/-- The entry at a path when all entries are changed at their places. -/
theorem find?_map_entries {f : RealPath × Entry → RealPath × Entry} (hf : ∀ e, (f e).1 = e.1)
    (l : List (RealPath × Entry)) (q : RealPath) :
    (l.map f).find? (fun e => e.1 == q) = (l.find? (fun e => e.1 == q)).map f := by
  have hkey : (fun e : RealPath × Entry => e.1 == q) ∘ f = fun e => e.1 == q :=
    funext (fun e => congrArg (· == q) (hf e))
  rw [List.find?_map, hkey]

theorem entry?_eq (hq : q ≠ []) :
    tree.entry? q = (tree.entries.find? (fun e => e.1 == q)).map Prod.snd := by
  unfold entry?
  rw [if_neg (by simpa using hq)]

/-- A directory gets a new time of change when something in it comes. -/
theorem entry?_refresh (hq : q ≠ []) : FileTree.entry? (tree.refresh p) q = tree.entry? q ∨
    FileTree.entry? (tree.refresh p) q = (tree.entry? q).map refreshed := by
  have hkey : ∀ e : RealPath × Entry,
      (if e.1 == p.dropLast then (e.1, refreshed e.2) else e).1 = e.1 := by
    intro e
    split <;> rfl
  rw [entry?_eq hq, entry?_eq hq, refresh, find?_map_entries hkey]
  cases hfind : tree.entries.find? (fun e => e.1 == q) with
  | none => exact Or.inl rfl
  | some e =>
    rw [Option.map_some, Option.map_some, Option.map_some]
    split
    · exact Or.inr rfl
    · exact Or.inl rfl

theorem entry?_eq_none_iff (hq : q ≠ []) :
    tree.entry? q = none ↔ tree.entries.any (fun e => e.1 == q) = false := by
  rw [entry?_eq hq, Option.map_eq_none_iff, List.find?_eq_none, List.any_eq_false]

/-- What was put at a path is there. -/
theorem entry?_put_self (hp : p ≠ []) : FileTree.entry? (tree.put p entry) p = some entry := by
  rw [put]
  split
  · next hany =>
    have hkey : ∀ e : RealPath × Entry, (if e.1 == p then (p, entry) else e).1 = e.1 := by
      intro e
      split
      · next he => exact (eq_of_beq he).symm
      · rfl
    rw [entry?_eq hp, find?_map_entries hkey]
    cases hfind : tree.entries.find? (fun e => e.1 == p) with
    | none =>
      obtain ⟨e, he, hep⟩ := List.any_eq_true.mp hany
      exact absurd hep (List.find?_eq_none.mp hfind e he)
    | some e =>
      have hep : (e.1 == p) = true :=
        List.find?_some (p := fun e : RealPath × Entry => e.1 == p) hfind
      rw [Option.map_some, Option.map_some, if_pos hep]
  · next hany =>
    have hfree : FileTree.entry? (tree.refresh p) p = none := by
      have hnone := (entry?_eq_none_iff hp).mpr (Bool.not_eq_true _ ▸ hany)
      rcases entry?_refresh (p := p) hp with h | h
      · rw [h, hnone]
      · rw [h, hnone]
        rfl
    rw [entry?_eq hp, Option.map_eq_none_iff] at hfree
    rw [entry?_eq hp, List.find?_append, hfree]
    simp

/-- What is put at a path changes other entries at most in their time. -/
theorem entry?_put_of_ne (hq : q ≠ p) : FileTree.entry? (tree.put p entry) q = tree.entry? q ∨
    FileTree.entry? (tree.put p entry) q = (tree.entry? q).map refreshed := by
  by_cases hroot : q = []
  · subst hroot
    exact Or.inl rfl
  rw [put]
  split
  · have hkey : ∀ e : RealPath × Entry, (if e.1 == p then (p, entry) else e).1 = e.1 := by
      intro e
      split
      · next he => exact (eq_of_beq he).symm
      · rfl
    left
    rw [entry?_eq hroot, entry?_eq hroot, find?_map_entries hkey]
    cases hfind : tree.entries.find? (fun e => e.1 == q) with
    | none => rfl
    | some e =>
      have heq : (e.1 == q) = true :=
        List.find?_some (p := fun e : RealPath × Entry => e.1 == q) hfind
      have hep : ¬(e.1 == p) = true := by
        rw [eq_of_beq heq, beq_iff_eq]
        exact hq
      rw [Option.map_some, Option.map_some, Option.map_some, if_neg hep]
  · have happend : FileTree.entry? ⟨(tree.refresh p).entries ++ [(p, entry)]⟩ q =
        FileTree.entry? (tree.refresh p) q := by
      have hother : [(p, entry)].find? (fun e => e.1 == q) = none := by
        simp [Ne.symm hq]
      rw [entry?_eq hroot, entry?_eq hroot, List.find?_append, hother, Option.or_none]
    rw [happend]
    exact entry?_refresh hroot

/-! ### Ways -/

theorem leads_of_follow {again : Option (RealPath → List Bytes → Except Errno Spot)}
    (hagain : ∀ go, again = some go → ∃ m, n = m + 1 ∧
      ∀ dir todo spot, go dir todo = .ok spot → Leads tree m dir todo spot) :
    ∀ {dir : RealPath}, tree.follow true again dir todo = .ok spot →
      Leads tree n dir todo spot := by
  -- the induction is on the names that are left; at a link `again` takes over
  induction todo with
  | nil =>
    intro dir h
    rw [follow] at h
    rw [← Except.ok.inj h]
    exact .stop
  | cons name rest ih =>
    intro dir h
    rw [follow] at h
    split at h
    · next hidle => exact .idle hidle (ih h)
    · next hidle =>
      have hidle := Bool.not_eq_true _ ▸ hidle
      split at h
      · next hparent => exact .parent hidle hparent (ih h)
      · next hparent =>
        have hparent := Bool.not_eq_true _ ▸ hparent
        split at h
        · cases h
        · next hlength =>
          have hname : Names name := ⟨hidle, hparent, hlength⟩
          dsimp only at h
          split at h
          · next hentry =>
            split at h
            · next hrest =>
              rw [List.isEmpty_iff.mp hrest, ← Except.ok.inj h]
              exact .absent hname hentry
            · cases h
          · next hentry => exact .directory hname hentry (ih h)
          · next hentry =>
            split at h
            · next hrest =>
              rw [List.isEmpty_iff.mp hrest, ← Except.ok.inj h]
              exact .file hname hentry
            · cases h
          · next hentry =>
            rw [Bool.not_true, Bool.and_false, if_neg Bool.false_ne_true] at h
            cases again with
            | none => cases h
            | some go =>
              obtain ⟨m, rfl, hgo⟩ := hagain go rfl
              exact .link hname hentry (hgo _ _ _ h)

/-- **A resolution takes a way.** -/
theorem leads_of_followLinks : ∀ {n : Nat} {dir : RealPath} {todo : List Bytes} {spot : Spot},
    tree.followLinks true n dir todo = .ok spot → Leads tree n dir todo spot := by
  intro n
  induction n with
  | zero =>
    intro dir todo spot h
    rw [followLinks] at h
    exact leads_of_follow (fun go hgo => by cases hgo) h
  | succ n ih =>
    intro dir todo spot h
    refine leads_of_follow (fun go hgo => ⟨n, rfl, fun dir todo spot h => ?_⟩) h
    rw [← Option.some.inj hgo] at h
    exact ih h

/-- A way is what a resolution takes. -/
theorem followLinks_of_leads (h : Leads tree n dir todo spot) :
    tree.followLinks true n dir todo = .ok spot := by
  have hfollow : ∀ n, ∃ again, tree.followLinks true n = tree.follow true again := by
    intro n
    cases n with
    | zero => exact ⟨none, rfl⟩
    | succ n => exact ⟨some (tree.followLinks true n), rfl⟩
  -- one case for each step of the way, which is the next name that is followed
  induction h with
  | @stop n dir =>
    obtain ⟨again, hagain⟩ := hfollow n
    rw [hagain, follow]
  | @idle n dir name rest spot hname _ ih =>
    obtain ⟨again, hagain⟩ := hfollow n
    rw [hagain] at ih ⊢
    rw [follow, if_pos hname, ih]
  | @parent n dir name rest spot hidle hname _ ih =>
    obtain ⟨again, hagain⟩ := hfollow n
    rw [hagain] at ih ⊢
    rw [follow, hidle, if_neg Bool.false_ne_true, if_pos hname, ih]
  | @absent n dir name hname hentry =>
    obtain ⟨again, hagain⟩ := hfollow n
    obtain ⟨hidle, hparent, hlength⟩ := hname
    rw [hagain, follow, hidle, hparent]
    simp [hlength, hentry]
  | @file n dir name body changed hname hentry =>
    obtain ⟨again, hagain⟩ := hfollow n
    obtain ⟨hidle, hparent, hlength⟩ := hname
    rw [hagain, follow, hidle, hparent]
    simp [hlength, hentry]
  | @directory n dir name rest spot changed hname hentry _ ih =>
    obtain ⟨again, hagain⟩ := hfollow n
    obtain ⟨hidle, hparent, hlength⟩ := hname
    rw [hagain] at ih ⊢
    rw [follow, hidle, hparent]
    simp [hlength, hentry, ih]
  | @link n dir name target rest spot hname hentry _ ih =>
    obtain ⟨hidle, hparent, hlength⟩ := hname
    rw [followLinks, follow, hidle, hparent]
    simp [hlength, hentry, ih]

/-- **A resolution is the way that it takes.** -/
theorem followLinks_eq_ok_iff : tree.followLinks true n dir todo = .ok spot ↔
    Leads tree n dir todo spot := ⟨leads_of_followLinks, followLinks_of_leads⟩

/-! ### Names -/

/-- The directory from which octets lead on. -/
def startOf (bytes : Bytes) : RealPath :=
  if Path.isAbsolute bytes then [] else workingDirectory

variable {last : Bool} {bytes : Bytes} {nm : NativeName}

/-- Octets that lead somewhere are not none and not too many. -/
theorem resolve_eq_ok_iff : tree.resolve last bytes = .ok spot ↔
    bytes ≠ [] ∧ bytes.length < pathLimit ∧
      tree.followLinks last linkLimit (startOf bytes) (Path.segments bytes) = .ok spot := by
  by_cases hempty : bytes = []
  · subst hempty
    exact iff_of_false nofun (fun h => h.1 rfl)
  rw [resolve, if_neg (by simpa using hempty)]
  by_cases hlength : bytes.length < pathLimit
  · rw [if_neg (Nat.not_le.mpr hlength), startOf]
    simp [hempty, hlength]
  · rw [if_pos (Nat.not_lt.mp hlength)]
    exact iff_of_false nofun (fun h => hlength h.2.1)

/-- **Octets lead along a way**, from where they start. -/
theorem resolve_eq_ok_iff_leads : tree.resolve true bytes = .ok spot ↔
    bytes ≠ [] ∧ bytes.length < pathLimit ∧
      Leads tree linkLimit (startOf bytes) (Path.segments bytes) spot := by
  rw [resolve_eq_ok_iff, followLinks_eq_ok_iff]

theorem leads_of_resolve (h : tree.resolve true bytes = .ok spot) :
    Leads tree linkLimit (startOf bytes) (Path.segments bytes) spot :=
  (resolve_eq_ok_iff_leads.mp h).2.2

theorem octets_eq_ok_iff : octets nm = .ok bytes ↔ nm.toBytes? = some bytes ∧ 0 ∉ bytes := by
  rw [octets]
  cases nm.toBytes? with
  | none => simp
  | some b =>
    by_cases hzero : 0 ∈ b
    · simp only [List.contains_iff_mem, hzero, if_true, Option.some.injEq, reduceCtorEq, false_iff]
      rintro ⟨rfl, hfree⟩
      exact hfree hzero
    · simp only [List.contains_iff_mem, hzero, if_false, Option.some.injEq, Except.ok.injEq]
      constructor
      · rintro rfl
        exact ⟨rfl, hzero⟩
      · exact fun h => h.1

/-- A name leads where its octets lead. -/
theorem locate_eq_ok_iff : tree.locate last nm = .ok spot ↔
    ∃ bytes, octets nm = .ok bytes ∧ tree.resolve last bytes = .ok spot := by
  rw [locate]
  cases octets nm with
  | error e => simp
  | ok bytes => cases hresolve : tree.resolve last bytes <;> simp [hresolve]

theorem stat_eq_ok_iff :
    tree.stat nm = .ok entry ↔ ∃ p, tree.locate true nm = .ok (.present p entry) := by
  rw [stat]
  cases tree.locate true nm with
  | error e => simp
  | ok spot => cases spot <;> simp

/-! ### Ends of ways -/

/-- What stands where a way ends. -/
theorem Leads.end_entry (h : Leads tree n dir todo spot) :
    (∀ p, spot = .absent p → tree.entry? p = none) ∧
      ∀ p e, spot = .present p e → (tree.entry? p).getD (.directory recentTime) = e := by
  induction h with
  | stop =>
    refine ⟨nofun, fun p e h => ?_⟩
    cases h
    rfl
  | idle _ _ ih => exact ih
  | parent _ _ _ ih => exact ih
  | absent _ hentry =>
    refine ⟨fun p h => ?_, nofun⟩
    cases h
    exact hentry
  | file _ hentry =>
    refine ⟨nofun, fun p e h => ?_⟩
    cases h
    rw [hentry]
    rfl
  | directory _ _ _ ih => exact ih
  | link _ _ _ ih => exact ih

/-- **A way that starts outside of a link does not end on it.** -/
theorem Leads.path_ne {target : Bytes} (h : Leads tree n dir todo spot)
    (hlink : tree.entry? q = some (.link target)) (hdir : ¬q <+: dir) : spot.path ≠ q := by
  induction h with
  | stop =>
    rintro rfl
    exact hdir (List.prefix_refl _)
  | idle _ _ ih => exact ih hdir
  | parent _ _ _ ih => exact ih (fun h => hdir (h.trans (List.dropLast_prefix _)))
  | absent _ hentry =>
    rintro rfl
    rw [Spot.path, hentry] at hlink
    cases hlink
  | file _ hentry =>
    rintro rfl
    rw [Spot.path, hentry] at hlink
    cases hlink
  | directory _ hentry _ ih =>
    refine ih (fun h => ?_)
    rcases List.prefix_concat_iff.mp h with h | h
    · rw [h, hentry] at hlink
      cases hlink
    · exact hdir h
  | link _ _ _ ih =>
    refine ih (fun h => hdir ?_)
    split at h
    · rw [List.prefix_nil.mp h]
      exact List.nil_prefix
    · exact h

/-! ### Written files -/

theorem entry?_put_directory {q : RealPath} {changed : Int} (hq : q ≠ p)
    (hentry : tree.entry? q = some (.directory changed)) :
    ∃ t, FileTree.entry? (tree.put p entry) q = some (.directory t) := by
  rcases entry?_put_of_ne hq with h | h
  · exact ⟨changed, h.trans hentry⟩
  · exact ⟨recentTime, by rw [h, hentry]; rfl⟩

theorem entry?_put_link {q : RealPath} {target : Bytes} (hq : q ≠ p)
    (hentry : tree.entry? q = some (.link target)) :
    FileTree.entry? (tree.put p entry) q = some (.link target) := by
  rcases entry?_put_of_ne hq with h | h
  · exact h.trans hentry
  · rw [h, hentry]
    rfl

/-- **The way after a write.** -/
theorem Leads.put {body : Body} {changed : Int} (h : Leads tree n dir todo spot)
    (hpath : spot.path = p) (hplace : ∀ t, tree.entry? p ≠ some (.directory t)) :
    Leads (tree.put p (.file body changed)) n dir todo (.present p (.file body changed)) := by
  have hp : p ≠ [] := by
    rintro rfl
    exact hplace recentTime rfl
  have hself : FileTree.entry? (tree.put p (.file body changed)) p = some (.file body changed) :=
    entry?_put_self hp
  -- what stands on the way stays as it was, since the place is no directory
  induction h with
  | @stop n dir =>
    rw [Spot.path] at hpath
    subst hpath
    have hstop : Leads (tree.put dir (.file body changed)) n dir [] _ := .stop
    rw [hself] at hstop
    exact hstop
  | idle hname _ ih => exact .idle hname (ih hpath)
  | parent hidle hname _ ih => exact .parent hidle hname (ih hpath)
  | absent hname _ =>
    rw [Spot.path] at hpath
    subst hpath
    exact .file hname hself
  | file hname _ =>
    rw [Spot.path] at hpath
    subst hpath
    exact .file hname hself
  | @directory n dir name rest spot changed' hname hentry _ ih =>
    have hne : dir ++ [name] ≠ p := by
      rintro rfl
      exact hplace changed' hentry
    obtain ⟨t, hentry'⟩ := entry?_put_directory hne hentry
    exact .directory hname hentry' (ih hpath)
  | @link n dir name target rest spot hname hentry hway ih =>
    have hne : dir ++ [name] ≠ p := by
      rw [← hpath]
      refine (hway.path_ne hentry (fun h => ?_)).symm
      have hle := h.length_le
      rw [List.length_append, List.length_singleton] at hle
      split at hle
      · rw [List.length_nil] at hle
        omega
      · omega
    exact .link hname (entry?_put_link hne hentry) (ih hpath)

/-- A write puts the file where its name leads to, which is no directory. -/
theorem write_eq_ok {name : NativeName} {body : Body} {changed : Int} {tree' : FileTree}
    (h : tree.write name body changed = .ok tree') : ∃ bytes spot, octets name = .ok bytes ∧
      tree.resolve true bytes = .ok spot ∧ tree' = tree.put spot.path (.file body changed) ∧
      ∀ t, tree.entry? spot.path ≠ some (.directory t) := by
  rw [write] at h
  cases hlocate : tree.locate true name with
  | error e =>
    rw [hlocate] at h
    cases h
  | ok spot =>
    rw [hlocate] at h
    obtain ⟨bytes, hoctets, hresolve⟩ := locate_eq_ok_iff.mp hlocate
    obtain ⟨habsent, hpresent⟩ := (leads_of_resolve hresolve).end_entry
    refine ⟨bytes, spot, hoctets, hresolve, ?_⟩
    -- nothing is written over a directory, and elsewhere the place is the end of the way
    cases spot with
    | absent path =>
      refine ⟨(Except.ok.inj h).symm, fun t ht => ?_⟩
      rw [Spot.path, habsent path rfl] at ht
      cases ht
    | present path entry =>
      have hentry := hpresent path entry rfl
      cases entry with
      | directory changed => cases h
      | file body' changed' =>
        refine ⟨(Except.ok.inj h).symm, fun t ht => ?_⟩
        rw [Spot.path] at ht
        rw [ht] at hentry
        cases hentry
      | link target =>
        refine ⟨(Except.ok.inj h).symm, fun t ht => ?_⟩
        rw [Spot.path] at ht
        rw [ht] at hentry
        cases hentry

/-- **A written file is found.** -/
theorem stat_write {name : NativeName} {body : Body} {changed : Int} {tree' : FileTree}
    (h : tree.write name body changed = .ok tree') :
    tree'.stat name = .ok (.file body changed) := by
  obtain ⟨bytes, spot, hoctets, hresolve, rfl, hplace⟩ := write_eq_ok h
  obtain ⟨hne, hlength, hway⟩ := resolve_eq_ok_iff_leads.mp hresolve
  exact stat_eq_ok_iff.mpr ⟨_, locate_eq_ok_iff.mpr ⟨bytes, hoctets,
    resolve_eq_ok_iff_leads.mpr ⟨hne, hlength, hway.put rfl hplace⟩⟩⟩

/-- **A written file is read back.** -/
theorem read_write {name : NativeName} {body : Body} {changed : Int} {tree' : FileTree}
    (h : tree.write name body changed = .ok tree') : tree'.read name = .ok body.bytes := by
  rw [read, stat_write h]

end FileTree

end PackageCatalog
