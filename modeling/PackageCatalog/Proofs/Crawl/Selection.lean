import PackageCatalog.Proofs.Crawl.Ways
import PackageCatalog.Proofs.Sorting
import PackageCatalog.Proofs.Store.KeyOrder

/-!
# What a glob selects

The paths that a glob selects ascend, component by component and by code point, and are written
from parts.  A glob of all entries selects every entry that a walk through real directories comes
to, or stops at one that the system does not look at.

## Main definitions

* `Glob.codes` — the code points of the components of a path.
* `Glob.Visits` — the names by which a walk looks at a directory and at the entries in it.

## Main results

* `Glob.pairwise_of_select` — **selected paths ascend.**
* `Glob.isPart_of_select` — selected paths are written from parts.
* `Glob.mem_directoriesWith`, `Glob.ok_mem_directoriesWith` — what a walk comes to.
* `Glob.select_all` — **a glob of all entries selects what stands below real directories.**
-/

namespace PackageCatalog

/-! ### Orders -/

/-- A lexicographic order follows the order of its keys. -/
theorem lexicographic_iff {α β : Type} [LT β] {cmp : α → α → Ordering} {f : α → β}
    (hf : ∀ a b, (cmp a b = .lt ↔ f a < f b) ∧ (cmp a b = .eq ↔ f a = f b)) :
    ∀ s t : List α, (lexicographic cmp s t = .lt ↔ s.map f < t.map f) ∧
      (lexicographic cmp s t = .eq ↔ s.map f = t.map f) := by
  intro s
  induction s with
  | nil => intro t; cases t <;> simp [lexicographic]
  | cons a s ih =>
    intro t
    cases t with
    | nil => simp [lexicographic]
    | cons b t =>
      obtain ⟨hlt, heq⟩ := ih t
      obtain ⟨hlt', heq'⟩ := hf a b
      rw [List.map_cons, List.map_cons, List.cons_lt_cons_iff, List.cons.injEq, ← hlt, ← heq,
        ← hlt', ← heq', lexicographic, Ordering.then_eq_lt, Ordering.then_eq_eq]
      exact ⟨Iff.rfl, Iff.rfl⟩

theorem lexicographic_eq {α : Type} (cmp : α → α → Ordering) :
    lexicographic cmp = List.compareLex cmp := by
  funext s
  induction s with
  | nil => funext t; cases t <;> rfl
  | cons a s ih =>
    funext t
    cases t with
    | nil => rfl
    | cons b t =>
      rw [List.compareLex_cons_cons, ← ih]
      rfl

instance {α : Type} (cmp : α → α → Ordering) [Std.TransCmp cmp] :
    Std.TransCmp (lexicographic cmp) := by
  rw [lexicographic_eq]
  infer_instance

namespace NameUnit

/-- Different units have different codes: the codes of surrogates are none of characters. -/
theorem code_injective : Function.Injective code := by
  have hsurrogate : ∀ (c : Char) (s : Fin 0x800), c.toNat ≠ 0xD800 + s.val := by
    intro c s h
    have hvalid : c.toNat < 0xD800 ∨ 0xDFFF < c.toNat ∧ c.toNat < 0x110000 := c.valid
    have hs := s.isLt
    omega
  intro u v h
  cases u with
  | char c =>
    cases v with
    | char d => rw [Char.toNat_inj.mp h]
    | surrogate s => exact absurd h (hsurrogate c s)
  | surrogate s =>
    cases v with
    | char d => exact absurd h.symm (hsurrogate d s)
    | surrogate s' =>
      have heq : s = s' := Fin.ext (Nat.add_left_cancel h)
      rw [heq]

end NameUnit

namespace Glob

open PackageCatalog.Path FileTree

variable {tree : FileTree} {base : RealPath} {ns ms : List Bytes} {root q : NativeName}

/-- The code points of the components of a path. -/
def codes (rest : RestPath) : List (List Nat) := rest.map (·.map NameUnit.code)

theorem restOrder_iff (a b : RestPath) :
    (restOrder a b = .lt ↔ codes a < codes b) ∧ (restOrder a b = .eq ↔ codes a = codes b) :=
  lexicographic_iff (f := List.map NameUnit.code)
    (Text.compareCodes_iff (fun _ _ => Iff.rfl) (fun _ _ => Iff.rfl)) a b

instance : Std.TransCmp restOrder :=
  inferInstanceAs (Std.TransCmp (lexicographic (Text.compareCodes NameUnit.code)))

theorem eq_of_restOrder {a b : RestPath} (h : restOrder a b = .eq) : a = b := by
  have hinj : Function.Injective (List.map NameUnit.code) :=
    List.map_injective_iff.mpr NameUnit.code_injective
  exact List.map_injective_iff.mpr hinj ((restOrder_iff a b).2.mp h)

theorem mem_dedupe {a : RestPath} : ∀ {l : List RestPath}, a ∈ dedupe l ↔ a ∈ l := by
  intro l
  induction l with
  | nil => exact Iff.rfl
  | cons b l ih =>
    cases l with
    | nil => exact Iff.rfl
    | cons c l =>
      rw [dedupe]
      split
      · next h =>
        rw [ih, eq_of_beq h]
        simp
      · rw [List.mem_cons, ih, List.mem_cons (a := a) (b := b)]

/-- What ascends, and holds nothing twice, ascends strictly. -/
theorem pairwise_dedupe : ∀ {l : List RestPath}, l.Pairwise (fun a b => restOrder a b ≠ .gt) →
    (dedupe l).Pairwise (fun a b => restOrder a b = .lt) := by
  intro l
  induction l with
  | nil => exact fun _ => List.Pairwise.nil
  | cons a l ih =>
    intro h
    obtain ⟨ha, hl⟩ := List.pairwise_cons.mp h
    cases l with
    | nil => exact List.pairwise_singleton _ _
    | cons b l =>
      rw [dedupe]
      split
      · exact ih hl
      · next hab =>
        refine List.pairwise_cons.mpr ⟨fun c hc => ?_, ih hl⟩
        have hac := ha c (mem_dedupe.mp hc)
        cases horder : restOrder a c with
        | lt => rfl
        | gt => exact absurd horder hac
        | eq =>
          -- what is no greater than its successor, and equal to a later one, is equal to both
          exfalso
          obtain rfl := eq_of_restOrder horder
          have hne := ha b List.mem_cons_self
          have hba : restOrder b a ≠ .gt := by
            rcases List.mem_cons.mp (mem_dedupe.mp hc) with rfl | hc
            · exact hne
            · exact (List.pairwise_cons.mp hl).1 a hc
          refine hab (beq_iff_eq.mpr (eq_of_restOrder ?_))
          cases h' : restOrder a b with
          | eq => rfl
          | gt => exact absurd h' hne
          | lt => exact absurd (Std.OrientedCmp.gt_of_lt h') hba

/-- **Selected paths ascend**, component by component. -/
theorem pairwise_of_select {g : Glob} {paths : List RestPath}
    (h : g.select tree root = .ok paths) : paths.Pairwise (fun a b => codes a < codes b) := by
  rw [select] at h
  split at h
  · cases h
  · rw [← Except.ok.inj h]
    exact (pairwise_dedupe (sortBy_ascends _)).imp (restOrder_iff _ _).1.mp

/-- The selected paths are those that the components select. -/
theorem select_eq_ok_iff {g : Glob} {paths : List RestPath} :
    g.select tree root = .ok paths ↔ ∃ found,
      selectFrom tree root g.directoriesOnly g.components [] = .ok found ∧
        paths = dedupe (sortBy restOrder found) := by
  rw [select]
  split
  · simp [*]
  · simp [*, eq_comm]

/-! ### Results one after the other -/

section Collect

variable {α β ε : Type} {f : α → Except ε (List β)} {as : List α}

theorem collect_eq_error {e : ε} (h : collect f as = .error e) : ∃ a ∈ as, f a = .error e := by
  induction as with
  | nil => cases h
  | cons a as ih =>
    rw [collect] at h
    split at h
    · next e' he =>
      cases Except.error.inj h
      exact ⟨a, List.mem_cons_self, he⟩
    · split at h
      · next e' he =>
        cases Except.error.inj h
        obtain ⟨a', ha', he'⟩ := ih he
        exact ⟨a', List.mem_cons_of_mem a ha', he'⟩
      · cases h

theorem collect_eq_ok {bs : List β} (h : collect f as = .ok bs) :
    (∀ a ∈ as, ∃ cs, f a = .ok cs) ∧ ∀ b, b ∈ bs ↔ ∃ a ∈ as, ∃ cs, f a = .ok cs ∧ b ∈ cs := by
  induction as generalizing bs with
  | nil =>
    cases h
    simp
  | cons a as ih =>
    rw [collect] at h
    split at h
    · cases h
    · next cs hcs =>
      split at h
      · cases h
      · next more hmore =>
        cases Except.ok.inj h
        obtain ⟨hall, hmem⟩ := ih hmore
        refine ⟨List.forall_mem_cons.mpr ⟨⟨cs, hcs⟩, hall⟩, fun b => ?_⟩
        rw [List.mem_append, hmem]
        simp [hcs]

end Collect

/-! ### Parts -/

theorem listing_children {name : NativeName} {children : List (Bytes × Entry)}
    (h : listing tree name = .ok children) :
      ∀ child ∈ children, ∃ dir, child ∈ tree.children dir := by
  intro child hchild
  rw [listing] at h
  split at h
  · cases h
  · next path _ _ =>
    rw [← Except.ok.inj h] at hchild
    exact ⟨path, hchild⟩
  · rw [← Except.ok.inj h] at hchild
    cases hchild

/-- The name of a listed entry is a part. -/
theorem isPart_of_listing (hwf : tree.WellFormed) {name : NativeName}
    {children : List (Bytes × Entry)} (h : listing tree name = .ok children) :
    ∀ child ∈ children, IsPart (NativeName.ofBytes child.1) := by
  intro child hchild
  obtain ⟨dir, hdir⟩ := listing_children h child hchild
  have hmem := mem_children_iff.mp hdir
  exact isPart_ofBytes (hwf.names _ hmem child.1 (by simp)).plain.isPart

theorem forall_mem_append_singleton {P : NativeName → Prop} {rest : RestPath} {name : NativeName}
    (hrest : ∀ s ∈ rest, P s) (hname : P name) : ∀ s ∈ rest ++ [name], P s := by
  intro s hs
  rcases List.mem_append.mp hs with hs | hs
  · exact hrest s hs
  · rw [List.mem_singleton.mp hs]
    exact hname

theorem isPart_of_directoriesWith (hwf : tree.WellFormed) {path : RestPath} :
    ∀ {depth : Nat} {rest : RestPath}, (∀ s ∈ rest, IsPart s) →
      .ok path ∈ directoriesWith tree root depth rest → ∀ s ∈ path, IsPart s := by
  intro depth
  induction depth with
  | zero =>
    intro rest hrest h
    cases List.mem_singleton.mp h
    exact hrest
  | succ depth ih =>
    intro rest hrest h
    rw [directoriesWith] at h
    rcases List.mem_cons.mp h with h | h
    · cases h
      exact hrest
    · split at h
      · cases List.mem_singleton.mp h
      · next children hlisting =>
        obtain ⟨child, hchild, h⟩ := List.mem_flatMap.mp h
        split at h
        · cases List.mem_singleton.mp h
        · exact ih (forall_mem_append_singleton hrest
            (isPart_of_listing hwf hlisting child hchild)) h
        · cases h

theorem isPart_ofText {t : Text} (h : IsPart t) : IsPart (NativeName.ofText t) where
  idle := by
    rw [Bool.eq_false_iff]
    intro hidle
    have ht : t = [] ∨ t = ['.'] := by
      simpa [isIdle, NativeName.ofText, PathAlphabet.dot] using hidle
    have hnot := h.idle
    rcases ht with rfl | rfl <;> cases hnot
  free := by
    intro u hu
    obtain ⟨c, hc, rfl⟩ := List.mem_map.mp hu
    have hslash : c ≠ '/' := beq_eq_false_iff_ne.mp (h.free c hc)
    exact beq_eq_false_iff_ne.mpr (fun heq => hslash (NameUnit.char.inj heq))

theorem isPart_of_selectFrom (hwf : tree.WellFormed) {only : Bool} {components : List Component}
    (hnamed : ∀ name, .named name ∈ components → IsPart name) :
    ∀ {rest : RestPath} {paths : List RestPath}, (∀ s ∈ rest, IsPart s) →
      selectFrom tree root only components rest = .ok paths →
        ∀ path ∈ paths, ∀ s ∈ path, IsPart s := by
  -- every component puts parts behind those that were selected before it
  induction components with
  | nil =>
    intro rest paths hrest h path hpath
    cases Except.ok.inj h
    rw [List.mem_singleton.mp hpath]
    exact hrest
  | cons component more ih =>
    have ih := @ih (fun name hname => hnamed name (List.mem_cons_of_mem component hname))
    intro rest paths hrest h path hpath
    cases component with
    | named name =>
      have hname := isPart_ofText (hnamed name List.mem_cons_self)
      simp only [selectFrom] at h
      split at h
      · cases h
      · exact ih (forall_mem_append_singleton hrest hname) h path hpath
      · cases Except.ok.inj h
        cases hpath
    | wild pattern =>
      simp only [selectFrom] at h
      split at h
      · cases h
      · next children hlisting =>
        obtain ⟨child, hchild, found, hfound, hmem⟩ := ((collect_eq_ok h).2 path).mp hpath
        have hname := isPart_of_listing hwf hlisting child hchild
        split at hfound
        · cases hfound
        · cases Except.ok.inj hfound
          cases hmem
        · split at hfound
          · exact ih (forall_mem_append_singleton hrest hname) hfound path hmem
          · cases Except.ok.inj hfound
            cases hmem
    | anywhere =>
      simp only [selectFrom] at h
      obtain ⟨dir, hdir, found, hfound, hmem⟩ := ((collect_eq_ok h).2 path).mp hpath
      cases dir with
      | error e => cases hfound
      | ok dir => exact ih (isPart_of_directoriesWith hwf hrest hdir) hfound path hmem

theorem mem_of_parseAll {name : Text} : ∀ {ts : List Text} {components : List Component},
    parseAll ts = .ok components → .named name ∈ components → name ∈ ts := by
  intro ts
  induction ts with
  | nil =>
    intro components h hname
    cases Except.ok.inj h
    cases hname
  | cons t ts ih =>
    intro components h hname
    rw [parseAll] at h
    split at h
    · cases h
    · next component hcomponent =>
      split at h
      · cases h
      · next more hmore =>
        cases Except.ok.inj h
        rcases List.mem_cons.mp hname with hname | hname
        · rw [← hname, Component.parse] at hcomponent
          split at hcomponent
          · cases Except.ok.inj hcomponent
          split at hcomponent
          · cases hcomponent
          split at hcomponent
          · cases Except.ok.inj hcomponent
          · cases Except.ok.inj hcomponent
            exact List.mem_cons_self
        · exact List.mem_cons_of_mem t (ih hmore hname)

/-- **Selected paths are written from parts.** -/
theorem isPart_of_select (hwf : tree.WellFormed) {t : Text} {g : Glob} {paths : List RestPath}
    (hparse : parse t = .ok g) (h : g.select tree root = .ok paths) :
    ∀ path ∈ paths, ∀ s ∈ path, IsPart s := by
  obtain ⟨found, hfound, rfl⟩ := select_eq_ok_iff.mp h
  intro path hpath
  have hnamed : ∀ name, .named name ∈ g.components → IsPart name := by
    intro name hname
    rw [parse] at hparse
    split at hparse
    · cases hparse
    split at hparse
    · cases hparse
    dsimp only at hparse
    split at hparse
    · cases hparse
    · split at hparse
      · cases hparse
      · next components hcomponents =>
        cases Except.ok.inj hparse
        exact mem_parts (mem_of_parseAll hcomponents hname)
  exact isPart_of_selectFrom hwf hnamed (fun _ h => absurd h List.not_mem_nil) hfound path
    (mem_sortBy.mp (mem_dedupe.mp hpath))

/-! ### Walks -/

/-- The names by which a walk below a directory looks at directories and at entries. -/
inductive Visits (tree : FileTree) (base : RealPath) (root : NativeName) : NativeName → Prop
  | directory {ns : List Bytes} (hns : RealWay tree base ns) :
      Visits tree base root (nameBelow root (ns.map NativeName.ofBytes))
  | listed {ns : List Bytes} {name : Bytes} {e : Entry} (hns : RealWay tree base ns)
      (hentry : tree.entry? (base ++ (ns ++ [name])) = some e) :
      Visits tree base root (entryName root (ns.map NativeName.ofBytes) (NativeName.ofBytes name))
  | entry {ns : List Bytes} {name : Bytes} {e : Entry} (hns : RealWay tree base ns)
      (hentry : tree.entry? (base ++ (ns ++ [name])) = some e) :
      Visits tree base root (nameBelow root ((ns ++ [name]).map NativeName.ofBytes))

/-- A walk stops at a name that is too long. -/
def StopsAt (tree : FileTree) (base : RealPath) (root : NativeName) (e : FileError) : Prop :=
  ∃ name, Visits tree base root name ∧ tree.TooLong name ∧ e = .system .nameTooLong name

variable {t : Int}

theorem childIsDirectory_eq_error (hns : RealWay tree base ns) {child : Bytes × Entry}
    {e : FileError} (hentry : tree.entry? (base ++ (ns ++ [child.1])) = some child.2)
    (h : childIsDirectory tree root (ns.map NativeName.ofBytes) child = .error e) :
    StopsAt tree base root e := by
  rw [childIsDirectory] at h
  split at h
  · obtain ⟨rfl, hlong⟩ := testEntry_eq_error h
    exact ⟨_, .listed hns hentry, hlong, rfl⟩
  · cases h

/-- **A walk comes to real directories**, or stops at a name that is too long. -/
theorem mem_directoriesWith (hwf : tree.WellFormed)
    (hroot : tree.locate true (tidy q) = .ok (.present base (.directory t)))
    {found : Except FileError RestPath} : ∀ {depth : Nat} {ns : List Bytes},
      RealWay tree base ns →
        found ∈ directoriesWith tree (tidy q) depth (ns.map NativeName.ofBytes) →
          (∃ ms, RealWay tree base ms ∧ found = .ok (ms.map NativeName.ofBytes)) ∨
            ∃ e, StopsAt tree base (tidy q) e ∧ found = .error e := by
  intro depth
  induction depth with
  | zero =>
    intro ns hns h
    exact Or.inl ⟨ns, hns, List.mem_singleton.mp h⟩
  | succ depth ih =>
    intro ns hns h
    rw [directoriesWith] at h
    rcases List.mem_cons.mp h with h | h
    · exact Or.inl ⟨ns, hns, h⟩
    · rcases listing_nameBelow hwf hroot hns with hlisting | ⟨hlisting, hlong⟩
      · -- a child cannot be looked at, or the walk goes on below it, or leaves it out
        rw [hlisting] at h
        obtain ⟨child, hchild, h⟩ := List.mem_flatMap.mp h
        have hentry := hwf.mem_children_iff_entry.mp hchild
        rw [List.append_assoc] at hentry
        split at h
        · next e hdirectory =>
          exact Or.inr ⟨e, childIsDirectory_eq_error hns hentry hdirectory, List.mem_singleton.mp h⟩
        · next hdirectory =>
          rw [hdirectory] at hentry
          refine ih (realWay_append_singleton_iff.mpr ⟨hns, _, hentry⟩) ?_
          rwa [List.map_append, List.map_singleton]
        · cases h
      · rw [hlisting] at h
        exact Or.inr ⟨_, ⟨_, .directory hns, hlong, rfl⟩, List.mem_singleton.mp h⟩

/-- **A walk that does not stop comes to every real directory.** -/
theorem ok_mem_directoriesWith (hwf : tree.WellFormed)
    (hroot : tree.locate true (tidy q) = .ok (.present base (.directory t))) :
    ∀ {ms ns : List Bytes} {depth : Nat}, ms.length ≤ depth → RealWay tree base (ns ++ ms) →
      (∀ found ∈ directoriesWith tree (tidy q) depth (ns.map NativeName.ofBytes),
        ∃ path, found = .ok path) →
      .ok ((ns ++ ms).map NativeName.ofBytes) ∈
        directoriesWith tree (tidy q) depth (ns.map NativeName.ofBytes) := by
  intro ms
  -- the induction is on the way that is left, since the walk goes down one name at a time
  induction ms with
  | nil =>
    intro ns depth _ _ _
    rw [List.append_nil]
    cases depth <;> exact List.mem_cons_self
  | cons name ms ih =>
    intro ns depth hdepth hway hall
    obtain ⟨depth, rfl⟩ : ∃ d, depth = d + 1 :=
      Nat.exists_eq_add_one_of_ne_zero (by rw [List.length_cons] at hdepth; omega)
    have hsplit : ns ++ name :: ms = (ns ++ [name]) ++ ms := by simp
    rw [hsplit] at hway ⊢
    have hfront : RealWay tree base (ns ++ [name]) :=
      fun front hne hfront => hway front hne (hfront.trans (List.prefix_append _ _))
    obtain ⟨hns, t', hentry⟩ := realWay_append_singleton_iff.mp hfront
    rw [directoriesWith] at hall ⊢
    refine List.mem_cons_of_mem _ ?_
    rcases listing_nameBelow hwf hroot hns with hlisting | ⟨hlisting, -⟩
    · rw [hlisting] at hall ⊢
      have hchild : (name, Entry.directory t') ∈ tree.children (base ++ ns) := by
        rw [hwf.mem_children_iff_entry, List.append_assoc]
        exact hentry
      have hmap : (ns ++ [name]).map NativeName.ofBytes =
          ns.map NativeName.ofBytes ++ [NativeName.ofBytes name] := by simp
      refine List.mem_flatMap.mpr ⟨_, hchild, ?_⟩
      rw [← hmap]
      refine ih (by rw [List.length_cons] at hdepth; omega) hway (fun found hfound => ?_)
      rw [hmap] at hfound
      exact hall found (List.mem_cons_of_mem _ (List.mem_flatMap.mpr ⟨_, hchild, hfound⟩))
    · rw [hlisting] at hall
      obtain ⟨path, hpath⟩ := hall _ (List.mem_cons_of_mem _ (List.mem_singleton_self _))
      cases hpath

/-! ### All entries -/

/-- The glob of all entries below a directory. -/
def all : Glob := ⟨[.anywhere, .wild ['*']], false⟩

theorem accepts_star (n : NativeName) : Wildcard.accepts ['*'] n = true := by
  have h : n.drop (n.length - 0) = [] := List.drop_length
  show Wildcard.endsWith [] n = true
  simp [Wildcard.endsWith, Wildcard.dropChunk]

theorem collect_map {α β ε : Type} {f : α → Except ε (List β)} {g : α → β} {as : List α}
    (h : ∀ a ∈ as, f a = .ok [g a]) : collect f as = .ok (as.map g) := by
  induction as with
  | nil => rfl
  | cons a as ih =>
    obtain ⟨ha, has⟩ := List.forall_mem_cons.mp h
    rw [collect, ha, ih has]
    rfl

/-- A star selects all entries of a directory. -/
theorem selectFrom_star (rest : RestPath) :
    selectFrom tree root false [.wild ['*']] rest =
      match listing tree (nameBelow root rest) with
      | .error e => .error e
      | .ok children => .ok (children.map (fun child => rest ++ [NativeName.ofBytes child.1])) := by
  simp only [selectFrom]
  cases listing tree (nameBelow root rest) with
  | error e => rfl
  | ok children => exact collect_map (fun child _ => if_pos (accepts_star _))

/-- What follows a walk is selected below every directory that the walk comes to. -/
theorem selectFrom_anywhere {only : Bool} (rest : RestPath) (more : List Component) :
    selectFrom tree root only (.anywhere :: more) rest =
      collect (fun found => found.bind (selectFrom tree root only more))
        (directoriesBelow tree root rest) := by
  rw [selectFrom]
  congr 1
  funext found
  cases found <;> rfl

/-- A star below a real directory selects its entries, or stops at it. -/
theorem selectFrom_star_nameBelow (hwf : tree.WellFormed)
    (hroot : tree.locate true (tidy q) = .ok (.present base (.directory t)))
    (hns : RealWay tree base ns) :
    (∃ found, selectFrom tree (tidy q) false [.wild ['*']] (ns.map NativeName.ofBytes) = .ok found ∧
      ∀ path, path ∈ found ↔ ∃ name e, tree.entry? (base ++ (ns ++ [name])) = some e ∧
        path = (ns ++ [name]).map NativeName.ofBytes) ∨
      ∃ e, StopsAt tree base (tidy q) e ∧
        selectFrom tree (tidy q) false [.wild ['*']] (ns.map NativeName.ofBytes) = .error e := by
  rw [selectFrom_star]
  rcases listing_nameBelow hwf hroot hns with hlisting | ⟨hlisting, hlong⟩
  · left
    rw [hlisting]
    refine ⟨_, rfl, fun path => ?_⟩
    rw [List.mem_map]
    constructor
    · rintro ⟨⟨name, e⟩, hchild, rfl⟩
      rw [hwf.mem_children_iff_entry, List.append_assoc] at hchild
      exact ⟨name, e, hchild, by simp⟩
    · rintro ⟨name, e, hentry, rfl⟩
      rw [← List.append_assoc, ← hwf.mem_children_iff_entry] at hentry
      exact ⟨(name, e), hentry, by simp⟩
  · right
    rw [hlisting]
    exact ⟨_, ⟨_, .directory hns, hlong, rfl⟩, rfl⟩

/-- The selection of all entries: a star below every directory that the walk comes to. -/
theorem selectFrom_all (q : NativeName) :
    selectFrom tree (tidy q) false [.anywhere, .wild ['*']] [] =
      collect (fun found => found.bind (selectFrom tree (tidy q) false [.wild ['*']]))
        (directoriesWith tree (tidy q) (tree.entries.length + 1) []) :=
  selectFrom_anywhere [] [.wild ['*']]

/-- If the selection stops, then the walk did, or the star below a directory to which it came. -/
theorem stopsAt_of_selectFrom_all {e : FileError} (hwf : tree.WellFormed)
    (hroot : tree.locate true (tidy q) = .ok (.present base (.directory t)))
    (h : selectFrom tree (tidy q) false [.anywhere, .wild ['*']] [] = .error e) :
    StopsAt tree base (tidy q) e := by
  rw [selectFrom_all] at h
  obtain ⟨found, hfound, hstop⟩ := collect_eq_error h
  rcases mem_directoriesWith hwf hroot RealWay.nil hfound with ⟨ns, hns, rfl⟩ | ⟨e', hstops, rfl⟩
  · rcases selectFrom_star_nameBelow hwf hroot hns with ⟨paths, hpaths, -⟩ | ⟨e', hstops, he'⟩
    · cases hpaths.symm.trans hstop
    · cases he'.symm.trans hstop
      exact hstops
  · cases hstop
    exact hstops

/-- If it does not stop, it selects what stands below real directories. -/
theorem mem_selectFrom_all {found : List RestPath} (hwf : tree.WellFormed)
    (hroot : tree.locate true (tidy q) = .ok (.present base (.directory t)))
    (h : selectFrom tree (tidy q) false [.anywhere, .wild ['*']] [] = .ok found) (path : RestPath) :
    path ∈ found ↔ ∃ ns name e, RealWay tree base ns ∧
      tree.entry? (base ++ (ns ++ [name])) = some e ∧
      path = (ns ++ [name]).map NativeName.ofBytes := by
  rw [selectFrom_all] at h
  obtain ⟨hall, hmem⟩ := collect_eq_ok h
  have hwalk : ∀ dir ∈ directoriesWith tree (tidy q) (tree.entries.length + 1) [],
      (∃ ns, RealWay tree base ns ∧ dir = .ok (ns.map NativeName.ofBytes)) ∨
        ∃ e, StopsAt tree base (tidy q) e ∧ dir = .error e :=
    fun dir hdir => mem_directoriesWith hwf hroot RealWay.nil hdir
  rw [hmem]
  constructor
  · rintro ⟨dir, hdir, paths, hpaths, hpath⟩
    rcases hwalk dir hdir with ⟨ns, hns, rfl⟩ | ⟨e, -, rfl⟩
    · rcases selectFrom_star_nameBelow hwf hroot hns with ⟨paths', hpaths', hiff⟩ | ⟨e, -, he⟩
      · cases hpaths'.symm.trans hpaths
        obtain ⟨name, e, hentry, rfl⟩ := (hiff path).mp hpath
        exact ⟨ns, name, e, hns, hentry, rfl⟩
      · cases he.symm.trans hpaths
    · cases hpaths
  · rintro ⟨ns, name, e, hns, hentry, rfl⟩
    -- the walk did not stop anywhere, so that it came to the directory
    have hgoes : ∀ dir ∈ directoriesWith tree (tidy q) (tree.entries.length + 1) [],
        ∃ path, dir = .ok path := by
      intro dir hdir
      rcases hwalk dir hdir with ⟨ms, -, rfl⟩ | ⟨e, -, rfl⟩
      · exact ⟨_, rfl⟩
      · obtain ⟨paths, hpaths⟩ := hall _ hdir
        cases hpaths
    have hdir : .ok (ns.map NativeName.ofBytes) ∈
        directoriesWith tree (tidy q) (tree.entries.length + 1) [] :=
      @ok_mem_directoriesWith _ _ _ _ hwf hroot ns [] _ (Nat.le_succ_of_le hns.length_le) hns hgoes
    obtain ⟨paths, hpaths⟩ := hall _ hdir
    refine ⟨_, hdir, paths, hpaths, ?_⟩
    rcases selectFrom_star_nameBelow hwf hroot hns with ⟨paths', hpaths', hiff⟩ | ⟨e, -, he⟩
    · cases hpaths'.symm.trans hpaths
      exact (hiff _).mpr ⟨name, e, hentry, rfl⟩
    · cases he.symm.trans hpaths

/-- **A glob of all entries selects what stands below real directories**, or stops at a name that
is too long. -/
theorem select_all (hwf : tree.WellFormed)
    (hroot : tree.locate true (tidy q) = .ok (.present base (.directory t))) :
    (∃ paths, all.select tree (tidy q) = .ok paths ∧ ∀ path, path ∈ paths ↔
      ∃ ns name e, RealWay tree base ns ∧ tree.entry? (base ++ (ns ++ [name])) = some e ∧
        path = (ns ++ [name]).map NativeName.ofBytes) ∨
      ∃ e, StopsAt tree base (tidy q) e ∧ all.select tree (tidy q) = .error e := by
  rw [select, all]
  cases h : selectFrom tree (tidy q) false [.anywhere, .wild ['*']] [] with
  | error e => exact Or.inr ⟨e, stopsAt_of_selectFrom_all hwf hroot h, rfl⟩
  | ok found =>
    refine Or.inl ⟨_, rfl, fun path => ?_⟩
    rw [mem_dedupe, mem_sortBy]
    exact mem_selectFrom_all hwf hroot h path

end Glob

end PackageCatalog
