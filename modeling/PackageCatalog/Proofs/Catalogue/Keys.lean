import PackageCatalog.Proofs.Catalogue.Adding
import PackageCatalog.Proofs.Names

/-!
# Files and their keys

A row stands under the text of the absolute name of its file.  Whatever the spelling of a name,
and whatever package it is added for, the key is settled by the absolute name, so that a file has
one row.  Two files have two rows where their keys differ: this is so of names whose octets are
UTF-8, and need not be so of others, which a detector may give the text of a name that is there
already.

## Main definitions

* `Document.Holds` — a row holds what a file says.

## Main results

* `keyOf_ne_of_toBytes?_ne` — names whose octets are UTF-8 have keys of their own.
* `Table.one_row_of_same_key` — files of one key have one row.
* `Table.two_rows_of_two_keys` — files of two keys have two.
* `Table.rows_of_two_adds` — **two files have two rows, each with what its file says, exactly when
  their keys differ.**
-/

namespace PackageCatalog

/-- A row holds what a file says: it stands under the key of the file's name, with its content and
its time of change. -/
structure Document.Holds (d : Document) (detect : Detector) (tree : FileTree) (n : NativeName) :
    Prop where
  path : keyOf detect n = .ok d.path
  content : readContent detect tree n = .ok d.content
  stamp : ∃ entry, tree.stat n = .ok entry ∧ d.timestamp = .number entry.stamp

/-- Names whose octets are UTF-8, and not the same, have different keys. -/
theorem keyOf_ne_of_toBytes?_ne {detect : Detector} {n m : NativeName}
    (hn : (absoluteName n).IsUtf8) (hm : (absoluteName m).IsUtf8)
    (hne : (absoluteName n).toBytes? ≠ (absoluteName m).toBytes?) :
    keyOf detect (absoluteName n) ≠ keyOf detect (absoluteName m) := by
  obtain ⟨s, hs⟩ := hn
  obtain ⟨t, ht⟩ := hm
  rw [keyOf_absoluteName, keyOf_absoluteName, nameText_of_toBytes? hs, nameText_of_toBytes? ht]
  rintro ⟨⟩
  exact hne (hs.trans ht.symm)

namespace Candidate

variable {c : Candidate} {detect : Detector} {tree : FileTree} {directory rest : NativeName}
  {name : Option NativeName} {s s' : Store} {r : AddResult}

/-- A row that is put for a file holds what the file says. -/
theorem Describes.holds (h : c.Describes detect tree directory rest name) {content : Text}
    {d : Document} (hread : readContent detect tree c.filename = .ok content)
    (hd : d.toContents = c.contents content) : d.Holds detect tree c.filename where
  path := by
    rw [show d.path = c.path from congrArg Contents.path hd]
    exact h.path
  content := by
    rw [show d.content = content from congrArg Contents.content hd]
    exact hread
  stamp := by
    obtain ⟨entry, hentry, hstamp⟩ := h.stamp
    refine ⟨entry, hentry, ?_⟩
    rw [← hstamp]
    exact congrArg Contents.timestamp hd

/-- A file whose key has no row gets one, and the others stay. -/
theorem Settled.of_free (h : c.Settled detect tree s s' r)
    (hc : c.Describes detect tree directory rest name) (hfree : s.get? c.path = none) :
    s'.documents.length = s.documents.length + 1 ∧
      (∃ d ∈ s'.documents, d.Holds detect tree c.filename) ∧
      ∀ e ∈ s.documents, e ∈ s'.documents := by
  have hr : r = .new := h.answer.unique hfree
  obtain ⟨content, d, hread, hd, hputs⟩ := h.put (by rw [hr]; decide)
  refine ⟨by rw [h.length, hr]; rfl, ⟨d, hputs.stored, hc.holds hread hd⟩, ?_⟩
  intro e he
  refine (hputs.others e (fun hpath => ?_)).mpr he
  rw [show d.path = c.path from congrArg Contents.path hd] at hpath
  exact Store.get?_eq_none_iff.mp hfree e he hpath

/-- A file whose key has a row keeps the number of rows, and the number of that one. -/
theorem Settled.of_taken (h : c.Settled detect tree s s' r) (hs : s.Sound) {d : Document}
    (hd : d ∈ s.documents) (hpath : d.path = c.path) :
    s'.documents.length = s.documents.length ∧
      ∃ d' ∈ s'.documents, d'.path = c.path ∧ d'.id = d.id := by
  have hrow : s.get? c.path = some d := hs.get?_eq_some_iff.mpr ⟨hd, hpath⟩
  have hnew : r ≠ .new := by
    rintro rfl
    cases hrow.symm.trans h.answer
  constructor
  · rw [h.length]
    cases r with
    | new => exact absurd rfl hnew
    | updated => rfl
    | unchanged => rfl
  · by_cases hr : r = .unchanged
    · rw [h.unchanged hr]
      exact ⟨d, hd, hpath, rfl⟩
    · obtain ⟨content, d', -, hd', hputs⟩ := h.put hr
      have hpath' : d'.path = c.path := congrArg Contents.path hd'
      exact ⟨d', hputs.stored, hpath', (hputs.numbered d hd (hpath.trans hpath'.symm)).symm⟩

end Candidate

namespace Table

variable {detect : Detector} {tree₁ tree₂ : FileTree}
  {directory₁ rest₁ directory₂ rest₂ : NativeName} {name₁ name₂ : Option NativeName}
  {t t₁ t₂ : Table} {r₁ r₂ : AddResult} {c₁ c₂ : Candidate}

/-- The key of a file is settled by its absolute name. -/
theorem path_eq_iff (h₁ : c₁.Describes detect tree₁ directory₁ rest₁ name₁)
    (h₂ : c₂.Describes detect tree₂ directory₂ rest₂ name₂) :
    c₁.path = c₂.path ↔ keyOf detect (absoluteName (Path.join directory₁ rest₁)) =
      keyOf detect (absoluteName (Path.join directory₂ rest₂)) := by
  rw [← h₁.filename, ← h₂.filename, h₁.path, h₂.path, Except.ok.injEq]

/-- **Files of one key have one row**, whatever the table held, and the second of them leaves its
number. -/
theorem one_row_of_same_key (ht : t.store.Reachable)
    (hkey : keyOf detect (absoluteName (Path.join directory₁ rest₁)) =
      keyOf detect (absoluteName (Path.join directory₂ rest₂)))
    (h₁ : t.add detect tree₁ directory₁ rest₁ name₁ = .ok (t₁, r₁))
    (h₂ : t₁.add detect tree₂ directory₂ rest₂ name₂ = .ok (t₂, r₂)) :
    t₂.store.documents.length = t₁.store.documents.length ∧
      ∃ key d₁ d₂, keyOf detect (absoluteName (Path.join directory₂ rest₂)) = .ok key ∧
        (∀ d, d ∈ t₁.store.documents ∧ d.path = key ↔ d = d₁) ∧
        (∀ d, d ∈ t₂.store.documents ∧ d.path = key ↔ d = d₂) ∧ d₁.id = d₂.id := by
  obtain ⟨c₁, hc₁, hsettled₁⟩ := settled_of_add ht h₁
  obtain ⟨c₂, hc₂, hsettled₂⟩ := settled_of_add hsettled₁.reachable h₂
  have hsound₁ := hsettled₁.reachable.sound
  have hsound₂ := hsettled₂.reachable.sound
  have hpath : c₁.path = c₂.path := (path_eq_iff hc₁ hc₂).mpr hkey
  obtain ⟨d₁, -, hrow₁, -⟩ := hsettled₁.current
  obtain ⟨hmem₁, hpath₁⟩ := hsound₁.get?_eq_some_iff.mp hrow₁
  obtain ⟨hlength, d₂, hmem₂, hpath₂, hid⟩ :=
    hsettled₂.of_taken hsound₁ hmem₁ (hpath₁.trans hpath)
  -- a row that is there is the only one of its path
  have hone : ∀ {s : Store} {e : Document}, s.Sound → e ∈ s.documents → e.path = c₂.path →
      ∀ d, d ∈ s.documents ∧ d.path = c₂.path ↔ d = e := by
    intro s e hs he hepath d
    constructor
    · exact fun hd => hs.eq_of_path hd.1 he (hd.2.trans hepath.symm)
    · rintro rfl
      exact ⟨he, hepath⟩
  refine ⟨hlength, c₂.path, d₁, d₂, ?_, hone hsound₁ hmem₁ (hpath₁.trans hpath),
    hone hsound₂ hmem₂ hpath₂, hid.symm⟩
  rw [← hc₂.filename]
  exact hc₂.path

/-- Two files of different keys have a row each in a table that was empty. -/
theorem two_rows_of_two_keys
    (hkey : keyOf detect (absoluteName (Path.join directory₁ rest₁)) ≠
      keyOf detect (absoluteName (Path.join directory₂ rest₂)))
    (h₁ : ({} : Table).add detect tree₁ directory₁ rest₁ name₁ = .ok (t₁, r₁))
    (h₂ : t₁.add detect tree₂ directory₂ rest₂ name₂ = .ok (t₂, r₂)) :
    t₂.store.documents.length = 2 ∧
      (∃ d ∈ t₂.store.documents,
        d.Holds detect tree₁ (absoluteName (Path.join directory₁ rest₁))) ∧
      ∃ d ∈ t₂.store.documents,
        d.Holds detect tree₂ (absoluteName (Path.join directory₂ rest₂)) := by
  obtain ⟨c₁, hc₁, hsettled₁⟩ := settled_of_add .empty h₁
  obtain ⟨c₂, hc₂, hsettled₂⟩ := settled_of_add hsettled₁.reachable h₂
  obtain ⟨hlength₁, ⟨d₁, hmem₁, hholds₁⟩, -⟩ := hsettled₁.of_free hc₁ rfl
  have hone : t₁.store.documents = [d₁] := by
    obtain ⟨e, he⟩ := List.length_eq_one_iff.mp hlength₁
    rw [he, List.mem_singleton] at hmem₁
    rw [he, hmem₁]
  have hpath₁ : d₁.path = c₁.path := Except.ok.inj (hholds₁.path.symm.trans hc₁.path)
  have hfree : t₁.store.get? c₂.path = none := by
    refine Store.get?_eq_none_iff.mpr (fun d hd hpath => hkey ((path_eq_iff hc₁ hc₂).mp ?_))
    rw [hone, List.mem_singleton] at hd
    rw [← hpath, hd, hpath₁]
  obtain ⟨hlength₂, hrow₂, hothers⟩ := hsettled₂.of_free hc₂ hfree
  rw [← hc₁.filename, ← hc₂.filename]
  refine ⟨?_, ⟨d₁, hothers d₁ hmem₁, hholds₁⟩, hrow₂⟩
  rw [hlength₂, hlength₁]
  rfl

/-- **Two files that are added to an empty table have two rows, each with what its file says,
exactly when their keys differ.**

* Names whose octets are UTF-8, and not the same, have different keys, whatever the detector says.
* Files of the same absolute name, whatever its spelling and the packages they are added for, have
  one row in any table: the second add leaves the number of rows, and the number of that one. -/
theorem rows_of_two_adds (detect : Detector) (tree₁ tree₂ : FileTree)
    (directory₁ rest₁ directory₂ rest₂ : NativeName) (name₁ name₂ : Option NativeName) :
    let n₁ := absoluteName (Path.join directory₁ rest₁)
    let n₂ := absoluteName (Path.join directory₂ rest₂)
    (∀ (t₁ t₂ : Table) (r₁ r₂ : AddResult),
      ({} : Table).add detect tree₁ directory₁ rest₁ name₁ = .ok (t₁, r₁) →
      t₁.add detect tree₂ directory₂ rest₂ name₂ = .ok (t₂, r₂) →
      ((t₂.store.documents.length = 2 ∧
        (∃ d ∈ t₂.store.documents, d.Holds detect tree₁ n₁) ∧
        ∃ d ∈ t₂.store.documents, d.Holds detect tree₂ n₂) ↔
        keyOf detect n₁ ≠ keyOf detect n₂)) ∧
    (n₁.IsUtf8 → n₂.IsUtf8 → n₁.toBytes? ≠ n₂.toBytes? → keyOf detect n₁ ≠ keyOf detect n₂) ∧
    (n₁ = n₂ → ∀ (t t₁ t₂ : Table) (r₁ r₂ : AddResult), t.store.Reachable →
      t.add detect tree₁ directory₁ rest₁ name₁ = .ok (t₁, r₁) →
      t₁.add detect tree₂ directory₂ rest₂ name₂ = .ok (t₂, r₂) →
      t₂.store.documents.length = t₁.store.documents.length ∧
        ∃ key d₁ d₂, keyOf detect n₂ = .ok key ∧
          (∀ d, d ∈ t₁.store.documents ∧ d.path = key ↔ d = d₁) ∧
          (∀ d, d ∈ t₂.store.documents ∧ d.path = key ↔ d = d₂) ∧ d₁.id = d₂.id) := by
  intro n₁ n₂
  refine ⟨fun t₁ t₂ r₁ r₂ h₁ h₂ => ⟨fun htwo hkey => ?_, fun hkey => ?_⟩, ?_, ?_⟩
  · -- with one key the second file finds the row of the first
    obtain ⟨hlength, -⟩ := one_row_of_same_key .empty hkey h₁ h₂
    obtain ⟨c₁, hc₁, hsettled₁⟩ := settled_of_add .empty h₁
    obtain ⟨hone, -⟩ := hsettled₁.of_free hc₁ rfl
    have htwo' := htwo.1
    rw [hlength, hone] at htwo'
    exact absurd htwo' (by decide)
  · exact two_rows_of_two_keys hkey h₁ h₂
  · exact keyOf_ne_of_toBytes?_ne
  · intro hn t t₁ t₂ r₁ r₂ ht h₁ h₂
    exact one_row_of_same_key ht (congrArg (keyOf detect) hn) h₁ h₂

/-! ### Two names of one text -/

/-- A tree with two files, `/p/é` in UTF-8 and in Latin-1. -/
def accented : FileTree :=
  ⟨[([[0x70]], .directory 0), ([[0x70], [0xC3, 0xA9]], .file (.octets [0x78]) 1000),
    ([[0x70], [0xE9]], .file (.octets [0x79]) 1000)]⟩

/-- A file of that tree that is added, given the octets of its last name. -/
def addAccented (t : Table) (guess : String) (octets : Bytes) :
    Except Failure (Table × AddResult) :=
  t.add (Detector.constant (some guess.toList)) accented (NativeName.ofText ['/', 'p'])
    (NativeName.ofBytes octets) none

/-- The absolute name of a file of that tree. -/
def accentedName (octets : Bytes) : NativeName :=
  absoluteName (Path.join (NativeName.ofText ['/', 'p']) (NativeName.ofBytes octets))

/-- A detector that says Latin-1 gives both files one key, so that the second of them, whose
octets and content are others, is taken for the first. -/
theorem one_row_of_two_names :
    (accentedName [0xC3, 0xA9]).toBytes? ≠ (accentedName [0xE9]).toBytes? ∧
      readContent (Detector.constant (some "latin-1".toList)) accented (accentedName [0xE9]) =
        .ok ['y'] ∧
      ∃ t₁ t₂, addAccented {} "latin-1" [0xC3, 0xA9] = .ok (t₁, .new) ∧
        addAccented t₁ "latin-1" [0xE9] = .ok (t₂, .unchanged) ∧
        t₂.store.documents.map (fun d => d.content) = [['x']] := by
  refine ⟨by decide +kernel, by decide +kernel, ?_⟩
  have hruns : ((addAccented {} "latin-1" [0xC3, 0xA9]).toOption.bind (fun first =>
      (addAccented first.1 "latin-1" [0xE9]).toOption.map (fun second =>
        (first.2, second.2, second.1.store.documents.map (fun d => d.content))))) =
          some (.new, .unchanged, [['x']]) := by decide +kernel
  cases h₁ : addAccented {} "latin-1" [0xC3, 0xA9] with
  | error e => simp [h₁, Except.toOption] at hruns
  | ok first =>
    cases h₂ : addAccented first.1 "latin-1" [0xE9] with
    | error e => simp [h₁, h₂, Except.toOption] at hruns
    | ok second =>
      simp only [h₁, h₂, Except.toOption, Option.bind_some, Option.map_some, Option.some.injEq,
        Prod.mk.injEq] at hruns
      obtain ⟨t₁, r₁⟩ := first
      obtain ⟨t₂, r₂⟩ := second
      obtain ⟨rfl, rfl, hcontent⟩ := hruns
      exact ⟨t₁, t₂, rfl, h₂, hcontent⟩

end Table

end PackageCatalog
