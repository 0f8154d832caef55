import PackageCatalog.Proofs.Crawl.Below
import PackageCatalog.Proofs.Files
import Mathlib.Data.List.Nodup
import Mathlib.Data.List.Perm.Subperm
import Mathlib.Data.List.Range

/-!
# Ways below a directory

A name that leads to a directory leads on, from there, along whatever is written behind it.  So an
entry below the directory is found by the names on the way, as long as the system takes a name of
that length; and nothing else than a length can be a reason not to look at an entry.

## Main definitions

* `FileTree.WellFormed` — every entry stands at one path, which is written from names.
* `FileTree.RealWay` — a way from a directory through real directories.
* `FileTree.TooLong` — a name that the system does not look at, because of a length.

## Main results

* `FileTree.Leads.append` — **a way that ends at a directory goes on from there.**
* `FileTree.mayAnswer_resolve` — what a resolution answers.
* `FileTree.testEntry_eq_error_iff` — what is not looked at is too long.
* `FileTree.exists_locate_nameBelow` — **where a name below a directory leads.**
* `FileTree.listing_nameBelow` — the listing of a real directory.
-/

namespace PackageCatalog

namespace FileTree

open PackageCatalog.Path Glob

variable {tree : FileTree} {base dir p : RealPath} {ns todo : List Bytes} {name : Bytes}
  {entry : Entry} {spot : Spot} {n : Nat}

/-! ### Trees -/

/-- A name that an entry can have. -/
structure IsEntryName (name : Bytes) : Prop where
  plain : Plain name
  length_le : name.length ≤ nameLimit
  zero : 0 ∉ name

/-- A name that an entry can have, computed. -/
def isEntryName (name : Bytes) : Bool :=
  !isIdle name && !isParent name && name.all (fun a => !(a == PathAlphabet.slash)) &&
    Nat.ble name.length nameLimit && !name.contains 0

theorem isEntryName_iff : IsEntryName name ↔ isEntryName name = true := by
  have hfree : name.all (fun a => !(a == PathAlphabet.slash)) = true ↔
      Text.Free PathAlphabet.slash name := by
    simp [Text.Free]
  have hzero : (!name.contains 0) = true ↔ 0 ∉ name := by simp
  simp only [isEntryName, Bool.and_eq_true, hfree, hzero, Bool.not_eq_true', Nat.ble_eq]
  constructor
  · intro h
    exact ⟨⟨⟨⟨h.plain.idle, h.plain.parent⟩, h.plain.free⟩, h.length_le⟩, h.zero⟩
  · rintro ⟨⟨⟨⟨hidle, hparent⟩, hfree⟩, hlength⟩, hzero⟩
    exact ⟨⟨hidle, hparent, hfree⟩, hlength, hzero⟩

instance (name : Bytes) : Decidable (IsEntryName name) := decidable_of_iff' _ isEntryName_iff

theorem IsEntryName.names (h : IsEntryName name) : Names name :=
  ⟨h.plain.idle, h.plain.parent, Nat.not_lt.mpr h.length_le⟩

/-- Every entry stands at one path, which is written from names. -/
structure WellFormed (tree : FileTree) : Prop where
  nodup : (tree.entries.map Prod.fst).Nodup
  ne_nil : ∀ e ∈ tree.entries, e.1 ≠ []
  names : ∀ e ∈ tree.entries, ∀ name ∈ e.1, IsEntryName name

instance (tree : FileTree) : Decidable tree.WellFormed :=
  decidable_of_iff ((tree.entries.map Prod.fst).Nodup ∧ (∀ e ∈ tree.entries, e.1 ≠ []) ∧
      ∀ e ∈ tree.entries, ∀ name ∈ e.1, IsEntryName name)
    ⟨fun h => ⟨h.1, h.2.1, h.2.2⟩, fun h => ⟨h.nodup, h.ne_nil, h.names⟩⟩

theorem mem_entries_of_entry (hp : p ≠ []) (h : tree.entry? p = some entry) :
    (p, entry) ∈ tree.entries := by
  rw [entry?_eq hp, Option.map_eq_some_iff] at h
  obtain ⟨e, he, rfl⟩ := h
  have hkey : (e.1 == p) = true := List.find?_some (p := fun e : RealPath × Entry => e.1 == p) he
  rw [← eq_of_beq hkey]
  exact List.mem_of_find?_eq_some he

theorem WellFormed.entry?_of_mem (hwf : tree.WellFormed) (h : (p, entry) ∈ tree.entries) :
    tree.entry? p = some entry := by
  have hp : p ≠ [] := hwf.ne_nil _ h
  cases hfound : tree.entry? p with
  | none =>
    have hnone := (entry?_eq_none_iff hp).mp hfound
    have hsome : tree.entries.any (fun e => e.1 == p) = true :=
      List.any_eq_true.mpr ⟨_, h, BEq.rfl⟩
    rw [hnone] at hsome
    cases hsome
  | some other =>
    -- both stand at the same path
    have hother := mem_entries_of_entry hp hfound
    have heq := List.inj_on_of_nodup_map hwf.nodup hother h rfl
    rw [(Prod.mk.inj heq).2]

/-- The children of a directory are the entries one name below it. -/
theorem mem_children_iff : (name, entry) ∈ tree.children dir ↔
    (dir ++ [name], entry) ∈ tree.entries := by
  rw [children, List.mem_filterMap]
  constructor
  · rintro ⟨⟨path, e⟩, he, hchild⟩
    rcases List.eq_nil_or_concat path with rfl | ⟨front, last, rfl⟩
    · cases hchild
    · rw [List.concat_eq_append] at he hchild
      simp only [List.getLast?_concat, List.dropLast_concat] at hchild
      split at hchild
      · next hdir =>
        obtain ⟨rfl, rfl⟩ := Prod.mk.inj (Option.some.inj hchild)
        rwa [← eq_of_beq hdir]
      · cases hchild
  · intro h
    refine ⟨_, h, ?_⟩
    simp

theorem WellFormed.mem_children_iff_entry (hwf : tree.WellFormed) :
    (name, entry) ∈ tree.children dir ↔ tree.entry? (dir ++ [name]) = some entry := by
  rw [mem_children_iff]
  refine ⟨hwf.entry?_of_mem, mem_entries_of_entry ?_⟩
  simp

theorem WellFormed.isEntryName (hwf : tree.WellFormed) (h : tree.entry? p = some entry)
    (hname : name ∈ p) : IsEntryName name :=
  hwf.names _ (mem_entries_of_entry (List.ne_nil_of_mem hname) h) name hname

/-! ### Real directories -/

/-- The way from `base` along `ns` passes real directories, and ends at one. -/
def RealWay (tree : FileTree) (base : RealPath) (ns : List Bytes) : Prop :=
  ∀ front, front ≠ [] → front <+: ns → ∃ t, tree.entry? (base ++ front) = some (.directory t)

theorem RealWay.nil : RealWay tree base [] :=
  fun _ hne hfront => absurd (List.prefix_nil.mp hfront) hne

theorem realWay_append_singleton_iff : RealWay tree base (ns ++ [name]) ↔
    RealWay tree base ns ∧ ∃ t, tree.entry? (base ++ (ns ++ [name])) = some (.directory t) := by
  constructor
  · intro h
    refine ⟨fun front hne hfront => h front hne (hfront.trans (List.prefix_append _ _)), ?_⟩
    exact h _ (by simp) (List.prefix_refl _)
  · rintro ⟨h, hlast⟩ front hne hfront
    rcases List.prefix_concat_iff.mp hfront with rfl | hfront
    · exact hlast
    · exact h front hne hfront

theorem realWay_cons_iff : RealWay tree base (name :: ns) ↔
    (∃ t, tree.entry? (base ++ [name]) = some (.directory t)) ∧
      RealWay tree (base ++ [name]) ns := by
  constructor
  · intro h
    refine ⟨h [name] (List.cons_ne_nil _ _) (List.prefix_append [name] ns), ?_⟩
    intro front _ hfront
    rw [List.append_assoc]
    exact h _ (List.cons_ne_nil _ _) ((List.prefix_cons_inj name).mpr hfront)
  · rintro ⟨hname, h⟩ front hne hfront
    obtain ⟨a, front, rfl⟩ := List.exists_cons_of_ne_nil hne
    obtain ⟨rfl, hrest⟩ := List.cons_prefix_cons.mp hfront
    by_cases hnil : front = []
    · rw [hnil]
      exact hname
    · have hentry := h front hnil hrest
      rwa [List.append_assoc] at hentry

theorem RealWay.isEntryName (hwf : tree.WellFormed) (h : RealWay tree base ns) :
    ∀ name ∈ ns, IsEntryName name := by
  intro name hname
  obtain ⟨t, ht⟩ := h ns (List.ne_nil_of_mem hname) (List.prefix_refl _)
  exact hwf.isEntryName ht (List.mem_append_right base hname)

/-- No way through real directories is longer than the tree is large. -/
theorem RealWay.length_le (h : RealWay tree base ns) : ns.length ≤ tree.entries.length := by
  let stops := (List.range ns.length).map (fun k => base ++ ns.take (k + 1))
  have hsub : stops ⊆ tree.entries.map Prod.fst := by
    intro p hp
    obtain ⟨k, hk, rfl⟩ := List.mem_map.mp hp
    have hlt := List.mem_range.mp hk
    have hne : ns.take (k + 1) ≠ [] := by
      rw [← List.length_pos_iff, List.length_take]
      omega
    obtain ⟨t, ht⟩ := h _ hne (List.take_prefix _ _)
    have hmem := mem_entries_of_entry (by simp [hne]) ht
    exact List.mem_map_of_mem hmem
  have hnodup : stops.Nodup := by
    refine List.Nodup.map_on ?_ List.nodup_range
    -- the stops differ in their length
    intro j hj k hk heq
    have hlength := congrArg List.length heq
    simp only [List.length_append, List.length_take] at hlength
    have hj := List.mem_range.mp hj
    have hk := List.mem_range.mp hk
    omega
  have hle := (hnodup.subperm hsub).length_le
  rwa [List.length_map, List.length_map, List.length_range] at hle

/-! ### Ways that go on -/

/-- **A way that ends at a directory goes on from there.** -/
theorem Leads.append {t : Int} (h : Leads tree n dir todo (.present p (.directory t))) :
    ∃ m, ∀ more spot, Leads tree m p more spot → Leads tree n dir (todo ++ more) spot := by
  generalize hend : Spot.present p (.directory t) = goal at h
  -- the links that are left after the way are those that can be followed from its end
  induction h with
  | @stop n dir =>
    cases (Spot.present.inj hend).1
    exact ⟨n, fun more spot h => h⟩
  | idle hname _ ih =>
    obtain ⟨m, hm⟩ := ih hend
    exact ⟨m, fun more spot h => .idle hname (hm more spot h)⟩
  | parent hidle hname _ ih =>
    obtain ⟨m, hm⟩ := ih hend
    exact ⟨m, fun more spot h => .parent hidle hname (hm more spot h)⟩
  | absent _ _ => cases hend
  | file _ _ => cases (Spot.present.inj hend).2
  | directory hname hentry _ ih =>
    obtain ⟨m, hm⟩ := ih hend
    exact ⟨m, fun more spot h => .directory hname hentry (hm more spot h)⟩
  | link hname hentry _ ih =>
    obtain ⟨m, hm⟩ := ih hend
    refine ⟨m, fun more spot h => .link hname hentry ?_⟩
    have hway := hm more spot h
    rwa [List.append_assoc] at hway

/-- A way through real directories follows no link. -/
theorem RealWay.leads (hwf : tree.WellFormed) (h : RealWay tree base ns)
    (hmore : Leads tree n (base ++ ns) todo spot) : Leads tree n base (ns ++ todo) spot := by
  induction ns generalizing base with
  | nil =>
    rw [List.append_nil] at hmore
    exact hmore
  | cons name ns ih =>
    obtain ⟨⟨t, ht⟩, hrest⟩ := realWay_cons_iff.mp h
    have hname : IsEntryName name := hwf.isEntryName ht (by simp)
    refine .directory hname.names ht (ih hrest ?_)
    rwa [List.append_assoc, List.singleton_append]

theorem leads_idle_cons_iff (hname : isIdle name = true) :
    Leads tree n dir (name :: todo) spot ↔ Leads tree n dir todo spot := by
  constructor
  · intro h
    cases h with
    | idle _ h => exact h
    | parent hidle =>
      rw [hname] at hidle
      cases hidle
    | absent h =>
      rw [h.1] at hname
      cases hname
    | file h =>
      rw [h.1] at hname
      cases hname
    | directory h =>
      rw [h.1] at hname
      cases hname
    | link h =>
      rw [h.1] at hname
      cases hname
  · exact .idle hname

/-- Idle names in front of a way are passed over. -/
theorem leads_idle_append_iff {idles : List Bytes} (hidles : ∀ s ∈ idles, isIdle s = true) :
    Leads tree n dir (idles ++ todo) spot ↔ Leads tree n dir todo spot := by
  induction idles with
  | nil => exact Iff.rfl
  | cons s idles ih =>
    obtain ⟨hs, hidles⟩ := List.forall_mem_cons.mp hidles
    rw [List.cons_append, leads_idle_cons_iff hs, ih hidles]

/-- What a way passes is named, or idle, or the parent. -/
theorem Leads.names (h : Leads tree n dir todo spot) (hplain : Plain name) (hmem : name ∈ todo) :
    Names name := by
  induction h with
  | stop => cases hmem
  | idle hname _ ih =>
    rcases List.mem_cons.mp hmem with rfl | hmem
    · rw [hplain.idle] at hname
      cases hname
    · exact ih hmem
  | parent _ hname _ ih =>
    rcases List.mem_cons.mp hmem with rfl | hmem
    · rw [hplain.parent] at hname
      cases hname
    · exact ih hmem
  | absent hname _ =>
    rw [List.mem_singleton.mp hmem]
    exact hname
  | file hname _ =>
    rw [List.mem_singleton.mp hmem]
    exact hname
  | directory hname _ _ ih =>
    rcases List.mem_cons.mp hmem with rfl | hmem
    · exact hname
    · exact ih hmem
  | link hname _ _ ih =>
    rcases List.mem_cons.mp hmem with rfl | hmem
    · exact hname
    · exact ih (List.mem_append_right _ hmem)

/-! ### Refusals -/

/-- The system does not look at a name, because a part of it, or of a link on the way, is too
long. -/
def TooLong (tree : FileTree) (name : NativeName) : Prop :=
  tree.stat name = .error (.system .nameTooLong name)

/-- A name leads nowhere, or is too long: these are the failures of a resolution. -/
def IsRefusal (errno : Errno) : Prop :=
  errno = .nameTooLong ∨ ∀ name, isAbsence (.system errno name) = true

/-- What a resolution may answer: an entry, a place where there is none, or a refusal. -/
def MayAnswer (tree : FileTree) : Except Errno Spot → Prop
  | .ok (.present _ _) => True
  | .ok (.absent p) => tree.entry? p = none
  | .error errno => IsRefusal errno

theorem mayAnswer_follow {again : Option (RealPath → List Bytes → Except Errno Spot)} {last : Bool}
    (hagain : ∀ go, again = some go → ∀ dir todo, MayAnswer tree (go dir todo)) :
    ∀ dir : RealPath, MayAnswer tree (tree.follow last again dir todo) := by
  have hrefusal : ∀ errno : Errno, (∀ name, isAbsence (.system errno name) = true) →
      MayAnswer tree (.error errno) := fun _ => Or.inr
  -- the induction is on the names that are left; at a link `again` takes over
  induction todo with
  | nil => exact fun dir => trivial
  | cons name rest ih =>
    intro dir
    rw [follow]
    split
    · exact ih dir
    split
    · exact ih dir.dropLast
    split
    · exact Or.inl rfl
    dsimp only
    split
    · next hentry =>
      split
      · exact hentry
      · exact hrefusal _ (fun _ => rfl)
    · exact ih (dir ++ [name])
    · split
      · trivial
      · exact hrefusal _ (fun _ => rfl)
    · split
      · trivial
      · cases again with
        | none => exact hrefusal _ (fun _ => rfl)
        | some go => exact hagain go rfl _ _

theorem mayAnswer_followLinks {last : Bool} : ∀ (n : Nat) (dir : RealPath) (todo : List Bytes),
    MayAnswer tree (tree.followLinks last n dir todo) := by
  intro n
  induction n with
  | zero =>
    intro dir todo
    rw [followLinks]
    exact mayAnswer_follow (fun go hgo => by cases hgo) dir
  | succ n ih =>
    intro dir todo
    refine mayAnswer_follow (fun go hgo dir todo => ?_) dir
    rw [← Option.some.inj hgo]
    exact ih dir todo

/-- **What a resolution answers**, whether it follows a link at the end or not. -/
theorem mayAnswer_resolve (tree : FileTree) (last : Bool) (bytes : Bytes) :
    MayAnswer tree (tree.resolve last bytes) := by
  rw [resolve]
  split
  · exact Or.inr (fun _ => rfl)
  split
  · exact Or.inl rfl
  · exact mayAnswer_followLinks _ _ _

theorem resolve_eq_error {last : Bool} {bytes : Bytes} {errno : Errno}
    (h : tree.resolve last bytes = .error errno) : IsRefusal errno := by
  have hanswer := mayAnswer_resolve tree last bytes
  rwa [h] at hanswer

/-- Nothing stands at a free place, whether links are followed to it or not. -/
theorem entry?_of_resolve {last : Bool} {bytes : Bytes}
    (h : tree.resolve last bytes = .ok (.absent p)) : tree.entry? p = none := by
  have hanswer := mayAnswer_resolve tree last bytes
  rwa [h] at hanswer

/-- A name that is not looked at leads nowhere, or is too long. -/
theorem stat_eq_error {nm : NativeName} {e : FileError} (h : tree.stat nm = .error e) :
    isAbsence e = true ∨ e = .system .nameTooLong nm := by
  rw [stat, locate] at h
  cases hoctets : octets nm with
  -- no file has a name without octets
  | error e' =>
    rw [hoctets] at h
    rw [octets] at hoctets
    cases Except.error.inj h
    left
    split at hoctets
    · rw [← Except.error.inj hoctets]
      rfl
    · split at hoctets
      · rw [← Except.error.inj hoctets]
        rfl
      · cases hoctets
  | ok bytes =>
    rw [hoctets] at h
    dsimp only at h
    cases hresolve : tree.resolve true bytes with
    | error errno =>
      rw [hresolve] at h
      cases Except.error.inj h
      rcases resolve_eq_error hresolve with rfl | habsence
      · exact Or.inr rfl
      · exact Or.inl (habsence nm)
    | ok spot =>
      rw [hresolve] at h
      cases spot with
      | present path entry => cases h
      -- the way ends where nothing is
      | absent path =>
        cases Except.error.inj h
        exact Or.inl rfl

/-- **What is not looked at is too long**: a test only fails so. -/
theorem testEntry_eq_error {nm : NativeName} {test : Entry → Bool} {e : FileError}
    (h : tree.testEntry nm test = .error e) :
    e = .system .nameTooLong nm ∧ tree.TooLong nm := by
  rw [testEntry] at h
  split at h
  · cases h
  · next e' hstat =>
    split at h
    · cases h
    · next habsence =>
      cases Except.error.inj h
      rcases stat_eq_error hstat with h' | rfl
      · exact absurd h' habsence
      · exact ⟨rfl, hstat⟩

theorem testEntry_of_stat {nm : NativeName} {test : Entry → Bool} (h : tree.stat nm = .ok entry) :
    tree.testEntry nm test = .ok (test entry) := by
  rw [testEntry, h]

theorem testEntry_eq_true {nm : NativeName} {test : Entry → Bool}
    (h : tree.testEntry nm test = .ok true) : ∃ e, tree.stat nm = .ok e ∧ test e = true := by
  rw [testEntry] at h
  split at h
  · next e hstat => exact ⟨e, hstat, Except.ok.inj h⟩
  · split at h <;> cases h

/-- A name that passes the test for files is that of a file. -/
theorem exists_file_of_testEntry {nm : NativeName}
    (h : tree.testEntry nm isFileEntry = .ok true) :
    ∃ body changed, tree.stat nm = .ok (.file body changed) := by
  obtain ⟨entry, hstat, hfile⟩ := testEntry_eq_true h
  cases entry with
  | directory changed => cases hfile
  | link target => cases hfile
  | file body changed => exact ⟨body, changed, hstat⟩

/-! ### Names below a directory -/

variable {q nm : NativeName} {bytes : Bytes} {t : Int}

/-- Octets lead along their way, unless they are too many. -/
theorem resolve_of_leads (hne : bytes ≠ [])
    (h : Leads tree linkLimit (startOf bytes) (segments bytes) spot) :
    tree.resolve true bytes = .ok spot ∨ tree.resolve true bytes = .error .nameTooLong := by
  by_cases hlength : bytes.length < pathLimit
  · exact Or.inl (resolve_eq_ok_iff_leads.mpr ⟨hne, hlength, h⟩)
  · right
    rw [resolve, if_neg (by simpa using hne), if_pos (Nat.not_lt.mp hlength)]

theorem exists_octets_of_locate (h : tree.locate true nm = .ok spot) :
    ∃ bytes, nm.toBytes? = some bytes ∧ 0 ∉ bytes ∧ tree.resolve true bytes = .ok spot := by
  obtain ⟨bytes, hoctets, hresolve⟩ := locate_eq_ok_iff.mp h
  obtain ⟨hbytes, hzero⟩ := octets_eq_ok_iff.mp hoctets
  exact ⟨bytes, hbytes, hzero, hresolve⟩

/-- **Where a name below a directory leads**: where the way from that directory leads. -/
theorem exists_locate_nameBelow
    (hroot : tree.locate true (tidy q) = .ok (.present base (.directory t))) :
    ∃ m, ∀ ns : List Bytes, (∀ name ∈ ns, IsEntryName name) → ∀ spot, Leads tree m base ns spot →
      tree.locate true (nameBelow (tidy q) (ns.map NativeName.ofBytes)) = .ok spot ∨
        tree.locate true (nameBelow (tidy q) (ns.map NativeName.ofBytes)) =
          .error (.system .nameTooLong (nameBelow (tidy q) (ns.map NativeName.ofBytes))) := by
  obtain ⟨root, hrootBytes, hrootZero, hresolve⟩ := exists_octets_of_locate hroot
  obtain ⟨way, ⟨idles, hidles, hsegments⟩, hbelow⟩ := exists_octets hrootBytes
  -- the way to the directory goes on from there
  have hway := leads_of_resolve hresolve
  rw [hsegments, leads_idle_append_iff hidles] at hway
  obtain ⟨m, hm⟩ := hway.append
  refine ⟨m, fun ns hns spot h => ?_⟩
  obtain ⟨bytes, hbytes, hne, habsolute, ⟨idles', hidles', hsegments'⟩, hzero⟩ :=
    hbelow ns (fun name hname => (hns name hname).plain.isPart)
  have hoctets := octets_eq_ok_iff.mpr
    ⟨hbytes, hzero hrootZero (fun name hname => (hns name hname).zero)⟩
  have hleads : Leads tree linkLimit (startOf bytes) (segments bytes) spot := by
    rw [hsegments', leads_idle_append_iff hidles', startOf, habsolute]
    exact hm ns spot h
  rw [locate, hoctets]
  dsimp only
  rcases resolve_of_leads hne hleads with h | h
  · rw [h]
    exact Or.inl rfl
  · rw [h]
    exact Or.inr rfl

/-- What a name below a directory leads along can be named. -/
theorem isEntryName_of_locate
    (hroot : tree.locate true (tidy q) = .ok (.present base (.directory t)))
    (hplain : ∀ name ∈ ns, Plain name)
    (h : tree.locate true (nameBelow (tidy q) (ns.map NativeName.ofBytes)) = .ok spot) :
    ∀ name ∈ ns, IsEntryName name := by
  obtain ⟨root, hrootBytes, -, -⟩ := exists_octets_of_locate hroot
  obtain ⟨way, -, hbelow⟩ := exists_octets hrootBytes
  -- the octets that were resolved are those that are written of the names
  obtain ⟨bytes, hbytes, -, -, ⟨idles, -, hsegments⟩, -⟩ :=
    hbelow ns (fun name hname => (hplain name hname).isPart)
  obtain ⟨bytes', hbytes', hzero, hresolve⟩ := exists_octets_of_locate h
  obtain rfl : bytes = bytes' := Option.some.inj (hbytes.symm.trans hbytes')
  intro name hname
  have hmem : name ∈ segments bytes := by
    rw [hsegments]
    exact List.mem_append_right _ (List.mem_append_right _ hname)
  have hnamed := (leads_of_resolve hresolve).names (hplain name hname) hmem
  exact ⟨hplain name hname, Nat.not_lt.mp hnamed.2.2,
    fun h => hzero (Text.mem_of_mem_pieces hmem h)⟩

/-- The listing of a real directory below a directory: its entries. -/
theorem listing_nameBelow (hwf : tree.WellFormed)
    (hroot : tree.locate true (tidy q) = .ok (.present base (.directory t)))
    (hns : RealWay tree base ns) :
    listing tree (nameBelow (tidy q) (ns.map NativeName.ofBytes)) =
        .ok (tree.children (base ++ ns)) ∨
      listing tree (nameBelow (tidy q) (ns.map NativeName.ofBytes)) =
          .error (.system .nameTooLong (nameBelow (tidy q) (ns.map NativeName.ofBytes))) ∧
        tree.TooLong (nameBelow (tidy q) (ns.map NativeName.ofBytes)) := by
  obtain ⟨m, hm⟩ := exists_locate_nameBelow hroot
  have hleads : Leads tree m base (ns ++ []) (.present (base ++ ns) _) := hns.leads hwf .stop
  rw [List.append_nil] at hleads
  -- the way ends at a directory
  have hend : ∃ t', (tree.entry? (base ++ ns)).getD (.directory recentTime) = .directory t' := by
    by_cases hnil : ns = []
    · obtain ⟨bytes, -, -, hresolve⟩ := exists_octets_of_locate hroot
      rw [hnil, List.append_nil]
      exact ⟨t, (leads_of_resolve hresolve).end_entry.2 _ _ rfl⟩
    · obtain ⟨t', ht'⟩ := hns ns hnil (List.prefix_refl _)
      exact ⟨t', by rw [ht']; rfl⟩
  obtain ⟨t', ht'⟩ := hend
  rw [ht'] at hleads
  rcases hm ns (hns.isEntryName hwf) _ hleads with h | h
  · left
    rw [listing, h]
  · right
    rw [listing, h]
    refine ⟨rfl, ?_⟩
    rw [TooLong, stat, h]

/-- What is found below a real directory is an entry of it. -/
theorem exists_entry_of_stat (hwf : tree.WellFormed)
    (hroot : tree.locate true (tidy q) = .ok (.present base (.directory t)))
    (hns : RealWay tree base ns) (hplain : ∀ n ∈ ns ++ [name], Plain n)
    (h : tree.stat (nameBelow (tidy q) ((ns ++ [name]).map NativeName.ofBytes)) = .ok entry) :
    ∃ e, tree.entry? (base ++ (ns ++ [name])) = some e := by
  obtain ⟨m, hm⟩ := exists_locate_nameBelow hroot
  cases hentry : tree.entry? (base ++ (ns ++ [name])) with
  | some e => exact ⟨e, rfl⟩
  | none =>
    -- the way would end at a free place
    exfalso
    obtain ⟨p, hlocate⟩ := stat_eq_ok_iff.mp h
    have hnames := isEntryName_of_locate hroot hplain hlocate
    rw [← List.append_assoc] at hentry
    have hleads := hns.leads hwf (.absent (n := m) (hnames name (by simp)).names hentry)
    rcases hm _ hnames _ hleads with hfree | hlong
    · cases hlocate.symm.trans hfree
    · cases hlocate.symm.trans hlong

end FileTree

end PackageCatalog
