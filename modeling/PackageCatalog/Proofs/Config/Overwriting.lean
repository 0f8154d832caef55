import PackageCatalog.Proofs.Config.Saving
import PackageCatalog.Proofs.Parents
import PackageCatalog.Proofs.Resolution

/-!
# Saving over a configuration

A configuration file that is there can always be written again: it is found, so the directories
above it stand.

## Main results

* `AppConfig.stat_of_save` — what is found after a configuration was saved.
* `AppConfig.exists_save_of_stat` — **a configuration is saved where a file is found.**
* `AppConfig.stands_of_save` — directories stand when a configuration was saved.
-/

namespace PackageCatalog

open PackageCatalog.Path

/-! ### Writing -/

namespace FileTree

variable {tree tree' : FileTree} {dir : RealPath} {nm : NativeName} {body : Body} {entry : Entry}
  {changed t : Int}

/-- A file that is found can be written. -/
theorem exists_write_of_stat {old : Body} (h : tree.stat nm = .ok (.file old t)) (body : Body)
    (changed : Int) : ∃ tree', tree.write nm body changed = .ok tree' := by
  obtain ⟨p, hlocate⟩ := stat_eq_ok_iff.mp h
  rw [write, hlocate]
  exact ⟨_, rfl⟩

/-- Directories stand after a file was written. -/
theorem Stands.write (h : Stands tree dir) (hwrite : tree.write nm body changed = .ok tree') :
    Stands tree' dir := by
  obtain ⟨bytes, spot, -, -, rfl, hplace⟩ := write_eq_ok hwrite
  exact h.put hplace

end FileTree

/-! ### The configuration -/

/-- The path of the configuration file ends with its name. -/
theorem Home.segments_configPath (home : Home) :
    ∃ segs, segments (NativeName.ofText home.configPath) =
      segs ++ [NativeName.ofText "config.yml".toList] := by
  have hne : home.directory ≠ [] := by
    rw [Home.directory]
    split <;> exact tidy_ne_nil _
  obtain ⟨idles, -, hsegments⟩ := segments_tidy (join home.directory "config.yml".toList)
  have hparts : parts (join home.directory "config.yml".toList) =
      parts home.directory ++ ["config.yml".toList] := parts_join hne rfl
  refine ⟨(idles ++ parts home.directory).map NativeName.ofText, ?_⟩
  rw [Home.configPath, Home.file, segments_ofText, hsegments, hparts, ← List.append_assoc,
    List.map_append]
  rfl

namespace AppConfig

variable {c : AppConfig} {home : Home} {tree tree' : FileTree} {dir : RealPath} {path : Text}
  {body : Body} {t : Int}

theorem written_ne_nil (c : AppConfig) : c.written ≠ [] := by
  rw [written, writtenEntry]
  simp

/-- Saving makes directories, and writes the file. -/
theorem save_eq_ok_iff : c.save tree path = .ok tree' ↔ ∃ made,
    tree.makeParents (tidy (directory (NativeName.ofText path))) = .ok made ∧
      made.write (NativeName.ofText path) (.octets (Utf8.encode c.written))
        (writeTime made (NativeName.ofText path)) = .ok tree' := by
  rw [save]
  cases tree.makeParents (tidy (directory (NativeName.ofText path))) with
  | error e =>
    constructor
    · intro h
      cases h
    · rintro ⟨_, h, -⟩
      cases h
  | ok made =>
    constructor
    · exact fun h => ⟨made, rfl, h⟩
    · rintro ⟨_, ⟨⟩, h⟩
      exact h

/-- What is found after a configuration was saved. -/
theorem stat_of_save (h : c.save tree path = .ok tree') :
    ∃ t, tree'.stat (NativeName.ofText path) = .ok (.file (.octets (Utf8.encode c.written)) t) := by
  obtain ⟨made, -, hwrite⟩ := save_eq_ok_iff.mp h
  exact ⟨_, FileTree.stat_write hwrite⟩

/-- Directories stand when a configuration was saved. -/
theorem stands_of_save (h : c.save tree path = .ok tree') (hstands : FileTree.Stands tree dir) :
    FileTree.Stands tree' dir := by
  obtain ⟨made, hparents, hwrite⟩ := save_eq_ok_iff.mp h
  exact (hstands.grow (FileTree.grows_makeParents hparents)).write hwrite

/-- **A configuration is saved where a file is found.** -/
theorem exists_save_of_stat (hstands : FileTree.Stands tree FileTree.workingDirectory)
    (h : tree.stat (NativeName.ofText home.configPath) = .ok (.file body t)) (c : AppConfig) :
    ∃ tree', c.save tree home.configPath = .ok tree' := by
  obtain ⟨segs, hsegments⟩ := home.segments_configPath
  have hparents := FileTree.makeParents_of_stat hstands hsegments rfl rfl h
  obtain ⟨tree', hwrite⟩ := FileTree.exists_write_of_stat h (.octets (Utf8.encode c.written))
    (writeTime tree (NativeName.ofText home.configPath))
  exact ⟨tree', save_eq_ok_iff.mpr ⟨tree, hparents, hwrite⟩⟩

end AppConfig

end PackageCatalog
