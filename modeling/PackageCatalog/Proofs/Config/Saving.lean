import PackageCatalog.Proofs.Config.Reading
import PackageCatalog.Proofs.Files

/-!
# Saving and loading a configuration

A configuration that was saved is loaded again, with all its packages in their order and with each
text as it comes back.  Every text comes back as it is but one: between single quotes the line break
U+0085 is read as a line feed, or as a space.

## Main definitions

* `AppConfig.texts` — the texts of a configuration.

## Main results

* `Yaml.readBack_eq_iff` — **the texts that come back.**
* `AppConfig.readBack_eq_iff` — the configurations that come back.
* `AppConfig.load_save_iff` — **what is loaded after a configuration was saved.**
-/

namespace PackageCatalog

open Yaml

/-! ### Texts -/

namespace Yaml

theorem refold_eq_of_free : ∀ {t : Text} {after : Bool}, '\u0085' ∉ t → refold after t = t := by
  intro t
  induction t with
  | nil => exact fun _ => rfl
  | cons c t ih =>
    intro after h
    rw [List.mem_cons, not_or] at h
    have hc : c ≠ '\u0085' := Ne.symm h.1
    rw [refold, ih h.2, ih h.2, counted, if_neg hc]
    simp [hc]

theorem free_refold : ∀ {t : Text} {after : Bool}, '\u0085' ∉ refold after t := by
  have hcounted : ∀ c, '\u0085' ≠ counted c := by
    intro c
    rw [counted]
    split
    · decide
    · next hc => exact Ne.symm hc
  intro t
  induction t with
  | nil => exact List.not_mem_nil
  | cons c t ih =>
    intro after
    rw [refold]
    split
    · split
      · have hspace : '\u0085' ∉ (if t.head?.any isBreak then [] else [' ']) := by
          split
          · exact List.not_mem_nil
          · decide
        rw [List.mem_append, not_or]
        exact ⟨hspace, ih⟩
      · rw [List.mem_cons, not_or]
        exact ⟨hcounted c, ih⟩
    · next hbreak =>
      rw [List.mem_cons, not_or]
      refine ⟨?_, ih⟩
      rintro rfl
      exact hbreak rfl

/-- **A text comes back unless it holds U+0085 and is written between single quotes.** -/
theorem readBack_eq_iff (t : Text) :
    readBack t = t ↔ (Style.ofText t = .single → '\u0085' ∉ t) := by
  rw [readBack]
  split
  · next hstyle =>
    refine ⟨fun h _ => ?_, fun h => refold_eq_of_free (h hstyle)⟩
    rw [← h]
    exact free_refold
  · next hstyle => exact ⟨fun _ h => absurd h hstyle, fun _ => rfl⟩

end Yaml

/-! ### Configurations -/

/-- The texts of a package. -/
def PackageConfig.texts (p : PackageConfig) : List Text :=
  p.name :: p.path :: p.globPattern :: p.ignore

/-- The texts of a configuration. -/
def AppConfig.texts (c : AppConfig) : List Text :=
  c.dbPath :: c.logLevel :: c.packages.flatMap PackageConfig.texts

theorem map_eq_self_iff {α : Type} {f : α → α} {l : List α} : l.map f = l ↔ ∀ x ∈ l, f x = x := by
  have h : l.map f = l.map id ↔ ∀ x ∈ l, f x = id x := List.map_inj_left
  rw [List.map_id] at h
  exact h

theorem PackageConfig.readBack_eq_iff (p : PackageConfig) :
    p.readBack = p ↔ ∀ t ∈ p.texts, Yaml.readBack t = t := by
  cases p with
  | mk name path globPattern ignore =>
    simp only [PackageConfig.readBack, PackageConfig.mk.injEq, texts, List.forall_mem_cons,
      map_eq_self_iff]

/-- The configurations that come back are those whose texts do. -/
theorem AppConfig.readBack_eq_iff (c : AppConfig) :
    c.readBack = c ↔ ∀ t ∈ c.texts, Yaml.readBack t = t := by
  cases c with
  | mk dbPath logLevel packages =>
    simp only [AppConfig.readBack, AppConfig.mk.injEq, texts, List.forall_mem_cons,
      map_eq_self_iff, PackageConfig.readBack_eq_iff, List.forall_mem_flatMap]

theorem exists_of_toBool {ε α : Type} {x : Except ε α} (h : x.toBool = true) : ∃ a, x = .ok a := by
  cases x with
  | error e => cases h
  | ok a => exact ⟨a, rfl⟩

/-- What is loaded after a configuration was saved. -/
theorem AppConfig.load_of_save {c : AppConfig} {home : Home} {tree tree' : FileTree} {path : Text}
    (h : c.save tree path = .ok tree') : AppConfig.load home tree' path = .ok c.readBack := by
  rw [AppConfig.save] at h
  cases hparents : tree.makeParents (Path.tidy (Path.directory (NativeName.ofText path))) with
  | error e =>
    rw [hparents] at h
    cases h
  | ok tree₁ =>
    rw [hparents] at h
    have hwrite : tree₁.write (NativeName.ofText path) (.octets (Utf8.encode c.written))
        (writeTime tree₁ (NativeName.ofText path)) = .ok tree' := h
    rw [AppConfig.load, FileTree.testEntry, FileTree.stat_write hwrite]
    dsimp only
    rw [FileTree.read_write hwrite]
    exact c.ofBytes_written home

/-- **A configuration that was saved is loaded with each of its texts as it comes back.**  It is the
one that was saved if and only if none of its texts holds U+0085 and is written between single
quotes. -/
theorem AppConfig.load_save_iff {c : AppConfig} {home : Home} {tree tree' : FileTree} {path : Text}
    (h : c.save tree path = .ok tree') : AppConfig.load home tree' path = .ok c.readBack ∧
      (AppConfig.load home tree' path = .ok c ↔
        ∀ t ∈ c.texts, Style.ofText t = .single → '\u0085' ∉ t) := by
  have hload : AppConfig.load home tree' path = .ok c.readBack := AppConfig.load_of_save h
  refine ⟨hload, ?_⟩
  rw [hload, Except.ok.injEq, AppConfig.readBack_eq_iff]
  exact forall₂_congr (fun t _ => Yaml.readBack_eq_iff t)

/-- Texts that look like something else, and white space of all kinds. -/
theorem AppConfig.load_save_odd : ∃ tree', (⟨"yes".toList, "a # b\n\n c".toList,
      [⟨"~".toList, " p\t".toList, "\u2028*".toList, ["'1:30'".toList, []]⟩]⟩ : AppConfig).save
        FileTree.empty "x/c.yml".toList = .ok tree' ∧
      AppConfig.load ⟨none, "/root".toList⟩ tree' "x/c.yml".toList =
        .ok ⟨"yes".toList, "a # b\n\n c".toList,
          [⟨"~".toList, " p\t".toList, "\u2028*".toList, ["'1:30'".toList, []]⟩]⟩ := by
  have hsaved : ((⟨"yes".toList, "a # b\n\n c".toList,
      [⟨"~".toList, " p\t".toList, "\u2028*".toList, ["'1:30'".toList, []]⟩]⟩ : AppConfig).save
        FileTree.empty "x/c.yml".toList).toBool = true := by
    decide +kernel
  obtain ⟨tree', hsave⟩ := exists_of_toBool hsaved
  exact ⟨tree', hsave, (AppConfig.load_save_iff hsave).2.mpr (by decide +kernel)⟩

/-- A logging level with U+0085 comes back with a space in its place. -/
theorem AppConfig.not_loaded_nextLine : ∃ tree',
    (⟨"i.db".toList, "a\u0085b".toList, []⟩ : AppConfig).save FileTree.empty "c.yml".toList =
        .ok tree' ∧
      AppConfig.load ⟨none, "/root".toList⟩ tree' "c.yml".toList =
        .ok ⟨"i.db".toList, "a b".toList, []⟩ ∧
      AppConfig.load ⟨none, "/root".toList⟩ tree' "c.yml".toList ≠
        .ok ⟨"i.db".toList, "a\u0085b".toList, []⟩ := by
  have hsaved : ((⟨"i.db".toList, "a\u0085b".toList, []⟩ : AppConfig).save FileTree.empty
      "c.yml".toList).toBool = true := by
    decide +kernel
  have hback : (⟨"i.db".toList, "a\u0085b".toList, []⟩ : AppConfig).readBack =
      ⟨"i.db".toList, "a b".toList, []⟩ := by
    decide +kernel
  obtain ⟨tree', hsave⟩ := exists_of_toBool hsaved
  have hload : AppConfig.load ⟨none, "/root".toList⟩ tree' "c.yml".toList = _ :=
    AppConfig.load_of_save hsave
  rw [hback] at hload
  refine ⟨tree', hsave, hload, ?_⟩
  rw [hload]
  exact fun h => absurd (Except.ok.inj h) (by decide)

end PackageCatalog
