import PackageCatalog.Proofs.Config.Tokens
import PackageCatalog.Proofs.Yaml.Letters
import PackageCatalog.Proofs.Yaml.Value

/-!
# Reading back a configuration

The tokens of a configuration are read as the data of its lines, and these data as the
configuration again, with each of its texts as it comes back.

## Main definitions

* `PackageConfig.readBack`, `AppConfig.readBack` — what comes back.
* `PackageConfig.lines`, `AppConfig.lines` — the data in the order of the lines.

## Main results

* `PackageConfig.gets`, `AppConfig.gets` — **the data are read from the tokens.**
* `AppConfig.read_written` — **the data of a file that holds a configuration.**
* `AppConfig.ofDatum_lines` — **a configuration is read from its data.**
* `AppConfig.ofBytes_written` — **what comes back of a configuration.**
-/

namespace PackageCatalog

open Yaml

/-! ### What comes back -/

/-- What comes back of a package. -/
def PackageConfig.readBack (p : PackageConfig) : PackageConfig :=
  ⟨Yaml.readBack p.name, Yaml.readBack p.path, Yaml.readBack p.globPattern,
    p.ignore.map Yaml.readBack⟩

/-- What comes back of a configuration. -/
def AppConfig.readBack (c : AppConfig) : AppConfig :=
  ⟨Yaml.readBack c.dbPath, Yaml.readBack c.logLevel, c.packages.map PackageConfig.readBack⟩

/-- The data of a package in the order of its lines. -/
def PackageConfig.lines (p : PackageConfig) : Datum :=
  .record [("glob_pattern".toList, .text p.globPattern),
    ("ignore".toList, .list (p.ignore.map .text)), ("name".toList, .text p.name),
    ("path".toList, .text p.path)]

/-- The data of a configuration in the order of its lines. -/
def AppConfig.lines (c : AppConfig) : Datum :=
  .record [("db_path".toList, .text c.dbPath), ("log_level".toList, .text c.logLevel),
    ("packages".toList, .list (c.packages.map PackageConfig.lines))]

/-! ### Tokens -/

theorem readBack_of_plain {t : Text} (h : Style.ofText t = .plain) : Yaml.readBack t = t := by
  rw [Yaml.readBack, h]
  exact if_neg (by decide)

/-- A text is read from its token. -/
theorem gets_ofText {flat : Bool} (t : Text) :
    Gets flat [.ofText t] 0 (.text (Yaml.readBack t)) := by
  refine gets_text (fun hplain => ?_)
  have hstyle : Style.ofText t = .plain := eq_of_beq hplain
  obtain ⟨-, -, -, -, hkind⟩ := of_style_plain hstyle
  rw [readBack_of_plain hstyle, Kind.ofName, toText?_ofText]
  exact hkind

theorem ofText_not_mem (t : Text) : Token.ofText t ∉ [Token.item, .blockEnd, .key, .value] := by
  simp [Token.ofText]

/-- A list is read from its tokens. -/
theorem gets_listTokens {α : Type} {tokens : α → List Token} {data : α → Datum} {height : Nat}
    (items : List α) (hitems : ∀ x ∈ items, Gets false (tokens x) height (data x) ∧
      ∃ tok more, tokens x = tok :: more ∧ tok ∉ [Token.item, .blockEnd, .key, .value]) :
    Gets true (listTokens (items.map tokens)) (height + 1) (.list (items.map data)) ∧
      ∃ tok more, listTokens (items.map tokens) = tok :: more ∧
        tok ∉ [Token.key, .value, .blockEnd] := by
  cases items with
  | nil => exact ⟨gets_brackets, .flowSequence, _, rfl, by decide⟩
  | cons x items =>
    have hparts : ∀ y ∈ (x :: items).map (fun x => (tokens x, data x)),
        Gets false y.1 height y.2 ∧ ∃ tok more, y.1 = tok :: more ∧
          tok ∉ [Token.item, .blockEnd, .key, .value] := List.forall_mem_map.mpr hitems
    have htokens : listTokens ((x :: items).map tokens) =
        ((x :: items).map (fun x => (tokens x, data x))).flatMap (fun y => .item :: y.1) := by
      rw [listTokens, List.map_cons, List.isEmpty_cons, if_neg Bool.false_ne_true, ← List.map_cons,
        List.flatMap_map, List.flatMap_map]
    have hdata : (x :: items).map data =
        ((x :: items).map (fun x => (tokens x, data x))).map Prod.snd := by
      rw [List.map_map]
      rfl
    rw [htokens, hdata]
    exact ⟨gets_list (List.cons_ne_nil _ _) hparts, .item, _, rfl, by decide⟩

/-- A text is read as the value of a key. -/
theorem gets_value (t : Text) (height : Nat) :
    Gets true [.ofText t] height (.text (Yaml.readBack t)) ∧
    ∃ tok more, [Token.ofText t] = tok :: more ∧ tok ∉ [Token.key, .value, .blockEnd] := by
  refine ⟨?_, _, _, rfl, by simp [Token.ofText]⟩
  induction height with
  | zero => exact gets_ofText t
  | succ height ih => exact ih.succ

/-- **A package is read from its tokens.** -/
theorem PackageConfig.gets (p : PackageConfig) : Gets false p.tokens 2 p.readBack.lines := by
  have hignore := gets_listTokens p.ignore
    (fun t _ => ⟨gets_ofText t, _, _, rfl, ofText_not_mem t⟩)
  have hrecord : Gets false _ _ _ := gets_record
    [("glob_pattern".toList, [.ofText p.globPattern], .text (Yaml.readBack p.globPattern)),
     ("ignore".toList, listTokens (p.ignore.map (fun t => [.ofText t])),
        .list (p.ignore.map (fun t => .text (Yaml.readBack t)))),
     ("name".toList, [.ofText p.name], .text (Yaml.readBack p.name)),
     ("path".toList, [.ofText p.path], .text (Yaml.readBack p.path))] (by
      simp only [List.forall_mem_cons, List.not_mem_nil, false_imp_iff, implies_true, and_true]
      exact ⟨⟨by decide, gets_value _ 1⟩, ⟨by decide, hignore⟩, ⟨by decide, gets_value _ 1⟩,
        ⟨by decide, gets_value _ 1⟩⟩)
  simpa [PackageConfig.tokens, PackageConfig.lines, PackageConfig.readBack, Function.comp_def]
    using hrecord

/-- **A configuration is read from its tokens.** -/
theorem AppConfig.gets (c : AppConfig) : Gets false c.tokens 4 c.readBack.lines := by
  have hpackages := gets_listTokens c.packages
    (fun p _ => ⟨p.gets, .blockMapping, _, rfl, by decide⟩)
  have hrecord : Gets false _ _ _ := gets_record
    [("db_path".toList, [.ofText c.dbPath], .text (Yaml.readBack c.dbPath)),
     ("log_level".toList, [.ofText c.logLevel], .text (Yaml.readBack c.logLevel)),
     ("packages".toList, listTokens (c.packages.map PackageConfig.tokens),
        .list (c.packages.map (fun p => p.readBack.lines)))] (by
      simp only [List.forall_mem_cons, List.not_mem_nil, false_imp_iff, implies_true, and_true]
      exact ⟨⟨by decide, gets_value _ 3⟩, ⟨by decide, gets_value _ 3⟩, ⟨by decide, hpackages⟩⟩)
  simpa [AppConfig.tokens, AppConfig.lines, AppConfig.readBack, Function.comp_def] using hrecord

/-! ### Octets -/

theorem all_writtenEntry {lead key : String} (indent : Nat) (t : Text)
    (hlead : lead.toList.all isClean = true) (hkey : key.toList.all isClean = true) :
    (writtenEntry indent lead key t).all isClean = true := by
  rw [writtenEntry]
  rw [List.all_append, List.all_append, List.all_append, List.all_append, hlead, hkey,
    all_writeScalar]
  rfl

theorem all_writtenList {lead key : String} {items : List Text}
    (hlead : lead.toList.all isClean = true) (hkey : key.toList.all isClean = true)
    (hitems : ∀ t ∈ items, t.all isClean = true) :
    (writtenList lead key items).all isClean = true := by
  have hlines : items.flatten.all isClean = true := by
    rw [List.all_flatten]
    exact List.all_eq_true.mpr hitems
  rw [writtenList]
  split
  · rw [List.all_append, List.all_append, List.all_append, hlead, hkey]
    rfl
  · have hbroken : ('\n' :: items.flatten).all isClean = true := by
      rw [List.all_cons, hlines]
      rfl
    rw [List.all_append, List.all_append, List.all_append, hlead, hkey, hbroken]
    rfl

theorem PackageConfig.all_written (p : PackageConfig) : p.written.all isClean = true := by
  have hlead : "- ".toList.all isClean = true := by decide
  have hlead' : "  ".toList.all isClean = true := by decide
  rw [PackageConfig.written]
  rw [List.all_append, List.all_append, List.all_append,
    all_writtenEntry 4 _ hlead (by decide), all_writtenEntry 4 _ hlead' (by decide),
    all_writtenEntry 4 _ hlead' (by decide), all_writtenList hlead' (by decide)]
  · rfl
  · rw [List.forall_mem_map]
    intro t _
    rw [List.all_append, List.all_append, all_writeScalar]
    rfl

/-- The text of a configuration is read as it stands. -/
theorem AppConfig.all_written (c : AppConfig) : c.written.all isClean = true := by
  have hlead : "".toList.all isClean = true := rfl
  rw [AppConfig.written, List.all_append, List.all_append,
    all_writtenEntry 2 _ hlead (by decide), all_writtenEntry 2 _ hlead (by decide),
    all_writtenList hlead (by decide)]
  · rfl
  · rw [List.forall_mem_map]
    exact fun p _ => p.all_written

/-- **The data of a file that holds a configuration.** -/
theorem AppConfig.read_written (c : AppConfig) :
    Yaml.read (Utf8.encode c.written) = .ok (some c.readBack.lines) := by
  obtain ⟨ts, hhead⟩ : ∃ ts, c.tokens = .blockMapping :: ts := ⟨_, rfl⟩
  have hgets := c.gets
  rw [hhead] at hgets
  obtain ⟨g, hnodes, hmeans⟩ := ofTokens?_eq hgets rfl (by decide)
  rw [← hhead] at hnodes
  obtain ⟨b, hbuild, hsound, hempty, hroot⟩ := Build.ofGraph_known ⟨4, _, hmeans⟩
  have hdatum := Build.datum_eq hsound hempty (show 4 ≤ dataDepth by decide) hmeans hroot
  unfold Yaml.read
  rw [Source.ofBytes_encode c.all_written]
  dsimp only
  rw [c.tokens_written, hnodes]
  dsimp only
  rw [hbuild, ← hdatum]
  rfl

/-! ### Data -/

/-- Items that are read one by one are read as a list. -/
theorem each_eq {α : Type} (read : Datum → Checked α) {data : α → Datum}
    (h : ∀ x, read (data x) = .ok x) : ∀ (items : List α) (n : Nat),
      Checked.each read n (items.map data) = .ok items := by
  intro items
  induction items with
  | nil => exact fun n => rfl
  | cons x items ih =>
    intro n
    rw [List.map_cons, Checked.each, h, ih (n + 1)]
    rfl

/-- The value of a key that is there is read. -/
theorem field_eq {α : Type} {read : Datum → Checked α} {name : String}
    {entries : List (Text × Datum)} {d : Datum} {x : α}
    (hlookup : Datum.lookup? name.toList entries = some d) (hread : read d = .ok x) :
    Checked.field read name entries = .ok x := by
  rw [Checked.field, hlookup]
  dsimp only
  rw [hread]
  rfl

/-- A default does not count for a key that is there. -/
theorem fieldOr_eq {α : Type} {default : α} {read : Datum → Checked α} {name : String}
    {entries : List (Text × Datum)} {d : Datum} {x : α}
    (hlookup : Datum.lookup? name.toList entries = some d) (hread : read d = .ok x) :
    Checked.fieldOr default read name entries = .ok x := by
  rw [Checked.fieldOr, hlookup]
  dsimp only
  rw [hread]
  rfl

/-- **A package is read from the data of its lines.** -/
theorem PackageConfig.ofDatum_lines (p : PackageConfig) :
    PackageConfig.ofDatum p.lines = .ok p := by
  have hignore : Checked.list Checked.text (.list (p.ignore.map Datum.text)) = .ok p.ignore :=
    each_eq Checked.text (fun _ => rfl) p.ignore 0
  rw [PackageConfig.lines, PackageConfig.ofDatum, field_eq (d := .text p.name) (by rfl) (by rfl),
    field_eq (d := .text p.path) (by rfl) (by rfl),
    fieldOr_eq (d := .text p.globPattern) (by rfl) (by rfl), fieldOr_eq (by rfl) hignore]
  rfl

/-- **A configuration is read from the data of its lines.** -/
theorem AppConfig.ofDatum_lines (home : Home) (c : AppConfig) :
    AppConfig.ofDatum home c.lines = .ok c := by
  have hpackages : Checked.list PackageConfig.ofDatum
      (.list (c.packages.map PackageConfig.lines)) = .ok c.packages :=
    each_eq _ PackageConfig.ofDatum_lines c.packages 0
  rw [AppConfig.lines, AppConfig.ofDatum, fieldOr_eq (d := .text c.dbPath) (by rfl) (by rfl),
    fieldOr_eq (d := .text c.logLevel) (by rfl) (by rfl), fieldOr_eq (by rfl) hpackages]
  rfl

/-- **What comes back of a configuration.** -/
theorem AppConfig.ofBytes_written (home : Home) (c : AppConfig) :
    AppConfig.ofBytes home (Utf8.encode c.written) = .ok c.readBack := by
  have hdata := AppConfig.ofDatum_lines home c.readBack
  unfold AppConfig.ofBytes
  rw [c.read_written]
  rw [AppConfig.lines] at hdata ⊢
  dsimp only
  rw [hdata]
  rfl

end PackageCatalog
