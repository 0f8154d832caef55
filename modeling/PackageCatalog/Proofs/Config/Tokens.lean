import PackageCatalog.Config.File
import PackageCatalog.Proofs.Yaml.Lines
import PackageCatalog.Proofs.Yaml.Node

/-!
# The tokens of a configuration

The text of a configuration is cut into the tokens of its mapping, line by line.  A list is either a
pair of brackets or one item a line.

## Main definitions

* `listTokens` — the tokens of a list.
* `PackageConfig.tokens`, `AppConfig.tokens` — those of a package and of a configuration.

## Main results

* `leads_ignore`, `leads_packages` — the lists of a package and of a configuration.
* `AppConfig.tokens_written` — **the tokens of a configuration.**
-/

namespace PackageCatalog

open Yaml Yaml.Scan

/-- The tokens of a list, given those of its items. -/
def listTokens (items : List (List Token)) : List Token :=
  if items.isEmpty then [.flowSequence, .flowSequenceEnd] else items.flatMap (.item :: ·)

/-- The tokens of a package. -/
def PackageConfig.tokens (p : PackageConfig) : List Token :=
  .blockMapping :: (entryTokens "glob_pattern".toList [.ofText p.globPattern] ++
    entryTokens "ignore".toList (listTokens (p.ignore.map (fun t => [.ofText t]))) ++
    entryTokens "name".toList [.ofText p.name] ++ entryTokens "path".toList [.ofText p.path] ++
      [.blockEnd])

/-- The tokens of a configuration. -/
def AppConfig.tokens (c : AppConfig) : List Token :=
  .blockMapping :: (entryTokens "db_path".toList [.ofText c.dbPath] ++
    entryTokens "log_level".toList [.ofText c.logLevel] ++
    entryTokens "packages".toList (listTokens (c.packages.map PackageConfig.tokens)) ++ [.blockEnd])

variable {found ts : List Token} {t : Text}

/-! ### Packages -/

/-- The last two lines of a package. -/
theorem leads_tail {p : PackageConfig} (ht : LineStart 0 t)
    (hnext : Leads (.blockEnd :: ((entryTokens "name".toList [.ofText p.name] ++
      entryTokens "path".toList [.ofText p.path]).reverse ++ found)) 0 [-1] 0 t ts) :
    Leads found 2 [0, -1] 2 ("name".toList ++ ':' :: (writeScalar 4 7 p.name ++ '\n' ::
      (List.replicate 2 ' ' ++ ("path".toList ++ ':' :: (writeScalar 4 7 p.path ++ '\n' ::
        (List.replicate 0 ' ' ++ t)))))) ts := by
  have hname : IsKey "name".toList := by decide
  have hpath : IsKey "path".toList := by decide
  refine leads_entry hname (by decide) rfl (by decide) (by decide) (Nat.le_refl 2)
    (lineStart_of_key hpath) (unwound_of_le (by decide) _ _) ?_
  refine leads_entry hpath (by decide) rfl (by decide) (by decide) (by decide) ht
    (unwound_of_lt (by decide) (by decide) _ _) ?_
  exact hnext

/-- The lines of items, behind the spaces of the first one, where `rest` follows. -/
def itemLines (rest : Text) : List Text → Text
  | [] => rest
  | t :: items => '-' :: (writeScalar 4 3 t ++ '\n' ::
    (List.replicate 2 ' ' ++ itemLines rest items))

theorem lineStart_itemLines {rest : Text} (hrest : LineStart 2 rest) (items : List Text) :
    LineStart 2 (itemLines rest items) := by
  cases items with
  | nil => exact hrest
  | cons t items =>
    obtain ⟨u, hu⟩ := exists_writeScalar_cons 4 3 t
    rw [itemLines, hu]
    exact lineStart_of_item

/-- The items of a list of texts. -/
theorem leads_items {rest : Text} (hrest : LineStart 2 rest) :
    ∀ {items : List Text} {found : List Token},
      Leads ((items.flatMap (fun t => [.item, .ofText t])).reverse ++ found) 2 [0, -1] 2 rest ts →
      Leads found 2 [0, -1] 2 (itemLines rest items) ts := by
  intro items
  induction items with
  | nil => exact id
  | cons t items ih =>
    intro found hnext
    refine leads_item (by decide) (by decide) (by decide) (by decide) (by decide)
      (lineStart_itemLines hrest items) (unwound_of_le (by decide) _ _) (ih ?_)
    simpa using hnext

/-- **The patterns that a package ignores.** -/
theorem leads_ignore {rest : Text} {items : List Text} (hrest : LineStart 2 rest)
    (hnext : Leads ((entryTokens "ignore".toList
      (listTokens (items.map (fun t => [.ofText t])))).reverse ++
      found) 2 [0, -1] 2 rest ts) :
    Leads found 2 [0, -1] 2 ("ignore".toList ++ ':' ::
      ((if items.isEmpty then " []\n".toList else '\n' :: (items.map (fun t =>
        "  -".toList ++ writeScalar 4 3 t ++ ['\n'])).flatten) ++
          (List.replicate 2 ' ' ++ rest))) ts := by
  have hkey : IsKey "ignore".toList := by decide
  have hlines : ∀ items : List Text, (items.map (fun t =>
      "  -".toList ++ writeScalar 4 3 t ++ ['\n'])).flatten ++ (List.replicate 2 ' ' ++ rest) =
      List.replicate 2 ' ' ++ itemLines rest items := by
    intro items
    induction items with
    | nil => rfl
    | cons t items ih =>
      rw [List.map_cons, List.flatten_cons, List.append_assoc, ih, itemLines]
      simp
  cases items with
  | nil =>
    exact leads_brackets hkey (by decide) rfl (unwound_of_le (by decide) _ _) hnext
  | cons t items =>
    rw [List.isEmpty_cons, if_neg Bool.false_ne_true, List.cons_append, hlines]
    refine leads_block hkey (by decide) rfl (Nat.le_refl 2) (leads_items hrest ?_)
    have htokens : listTokens ((t :: items).map (fun t => [.ofText t])) =
        (t :: items).flatMap (fun t => [.item, .ofText t]) := by
      rw [listTokens, List.map_cons, List.isEmpty_cons, if_neg Bool.false_ne_true]
      simp [List.flatMap_map]
    rw [htokens] at hnext
    simpa [entryTokens] using hnext

/-- The text of a package, line by line. -/
theorem PackageConfig.written_append (p : PackageConfig) (t : Text) : p.written ++ t =
    '-' :: ' ' :: ("glob_pattern".toList ++ ':' :: (writeScalar 4 15 p.globPattern ++ '\n' ::
      (List.replicate 2 ' ' ++ ("ignore".toList ++ ':' ::
        ((if p.ignore.isEmpty then " []\n".toList else '\n' :: (p.ignore.map (fun t =>
          "  -".toList ++ writeScalar 4 3 t ++ ['\n'])).flatten) ++ (List.replicate 2 ' ' ++
        ("name".toList ++ ':' :: (writeScalar 4 7 p.name ++ '\n' :: (List.replicate 2 ' ' ++
          ("path".toList ++ ':' :: (writeScalar 4 7 p.path ++ '\n' ::
            (List.replicate 0 ' ' ++ t)))))))))))) := by
  rw [PackageConfig.written]
  cases p.ignore with
  | nil => simp [writtenEntry, writtenList]
  | cons t items => simp [writtenEntry, writtenList]

/-- **The lines of a package.** -/
theorem leads_package {p : PackageConfig} (ht : LineStart 0 t)
    (hnext : Leads ((.item :: p.tokens).reverse ++ found) 0 [-1] 0 t ts) :
    Leads found 0 [-1] 0 (p.written ++ t) ts := by
  have hglob : IsKey "glob_pattern".toList := by decide
  have hignore : IsKey "ignore".toList := by decide
  have hname : IsKey "name".toList := by decide
  rw [p.written_append]
  refine leads_inner (by decide) (by decide) ?_
  refine leads_entry hglob (by decide) rfl (by decide) (by decide) (Nat.le_refl 2)
    (lineStart_of_key hignore) (unwound_of_le (by decide) _ _) ?_
  refine leads_ignore (lineStart_of_key hname) (leads_tail ht ?_)
  simpa [PackageConfig.tokens, entryTokens] using hnext

/-! ### Configurations -/

theorem lineStart_packages (ps : List PackageConfig) :
    LineStart 0 (ps.map PackageConfig.written).flatten := by
  cases ps with
  | nil => exact lineStart_nil
  | cons p ps =>
    rw [List.map_cons, List.flatten_cons, p.written_append]
    exact lineStart_of_item

/-- The lines of packages, up to the end of the document. -/
theorem leads_packages : ∀ (ps : List PackageConfig) (found : List Token),
    Leads found 0 [-1] 0 (ps.map PackageConfig.written).flatten
      (found.reverse ++ ps.flatMap (fun p => .item :: p.tokens) ++ [.blockEnd]) := by
  intro ps
  induction ps with
  | nil =>
    intro found
    simpa using leads_end (unwound_of_lt (by decide) (by decide) found [])
  | cons p ps ih =>
    intro found
    have hnext := ih ((.item :: p.tokens).reverse ++ found)
    refine leads_package (lineStart_packages ps) ?_
    simpa using hnext

/-- The text of a configuration, line by line. -/
theorem AppConfig.written_eq (c : AppConfig) : c.written =
    "db_path".toList ++ ':' :: (writeScalar 2 8 c.dbPath ++ '\n' :: (List.replicate 0 ' ' ++
      ("log_level".toList ++ ':' :: (writeScalar 2 10 c.logLevel ++ '\n' ::
        (List.replicate 0 ' ' ++ ("packages".toList ++ ':' ::
          (if c.packages.isEmpty then " []\n".toList
            else '\n' :: (c.packages.map PackageConfig.written).flatten))))))) := by
  rw [AppConfig.written]
  cases c.packages with
  | nil => simp [writtenEntry, writtenList]
  | cons p ps => simp [writtenEntry, writtenList]

/-- **The tokens of a configuration.** -/
theorem AppConfig.tokens_written (c : AppConfig) : Yaml.tokens c.written none = c.tokens := by
  have hdb : IsKey "db_path".toList := by decide
  have hlevel : IsKey "log_level".toList := by decide
  have hpackages : IsKey "packages".toList := by decide
  have hleads : Leads [] (-1) [] 0 c.written c.tokens := by
    rw [c.written_eq]
    refine leads_entry hdb (by decide) rfl (by decide) (by decide) (Nat.le_refl 0)
      (lineStart_of_key hlevel) (unwound_of_le (by decide) _ _) ?_
    refine leads_entry hlevel (by decide) rfl (by decide) (by decide) (Nat.le_refl 0)
      (lineStart_of_key hpackages) (unwound_of_le (by decide) _ _) ?_
    -- no packages are an empty list in brackets, and some are one item for each
    cases hps : c.packages with
    | nil =>
      have htokens : c.tokens = (.blockEnd :: (.blockMapping ::
          (entryTokens "db_path".toList [.ofText c.dbPath] ++
            entryTokens "log_level".toList [.ofText c.logLevel] ++
            entryTokens "packages".toList (listTokens []))).reverse).reverse := by
        simp [AppConfig.tokens, hps]
      rw [htokens]
      exact leads_brackets (m := 0) (t := []) hpackages (by decide) rfl
        (unwound_of_le (by decide) _ _) (leads_end (unwound_of_lt (by decide) (by decide) _ _))
    | cons p ps =>
      have htokens : c.tokens = (.blockMapping ::
          (entryTokens "db_path".toList [.ofText c.dbPath] ++
          entryTokens "log_level".toList [.ofText c.logLevel] ++
          entryTokens "packages".toList [])).reverse.reverse ++
          (p :: ps).flatMap (fun p => .item :: p.tokens) ++ [.blockEnd] := by
        simp [AppConfig.tokens, hps, entryTokens, listTokens, List.flatMap_map]
      rw [htokens]
      exact leads_block (m := 0) (t := ((p :: ps).map PackageConfig.written).flatten) hpackages
        (by decide) rfl (Nat.le_refl 0) (leads_packages _ _)
  have hmark : atChar '\uFEFF' c.written = false := by
    rw [c.written_eq]
    rfl
  have hbegins : Begins { cursor := { rest := c.written } } [] [] (-1) [] 0 c.written := by
    refine ⟨false, 0, [], -1, [], ⟨rfl, rfl, ?_, rfl, rfl, rfl⟩, ?_, rfl, rfl, rfl, rfl, rfl⟩
    · simp
    · simp [Lax]
  rw [Yaml.tokens, hmark]
  exact hleads _ _ hbegins _ (Nat.lt_succ_self _)

end PackageCatalog
