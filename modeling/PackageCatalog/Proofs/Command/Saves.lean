import PackageCatalog.Proofs.Command.Guard

/-!
# What commands save

Only three commands write files: a package is added or removed, or a value of the configuration is
set.  Each of them writes the configuration file once, before it does anything to documents, and
whatever becomes of the documents then, the file stays written.

## Main definitions

* `Session.Still` — an action that leaves the files as they are.
* `Command.saves?` — the configuration that a command saves.
* `AppConfig.treeAfter`, `Command.treeAfter` — the files after saving, and after a command.

## Main results

* `Session.Still.bind`, `Session.Still.forIn` — actions one after the other.
* `Session.tree_perform` — **the files after a command.**
* `Session.course_addPackage_of_refused` — what a registration does that is refused.
-/

namespace PackageCatalog

/-! ### Actions that leave the files as they are -/

namespace Session

variable {α β γ : Type} {s s' : Session} {su : Surroundings}

/-- An action that leaves the files as they are. -/
def Still (a : Action α) : Prop := ∀ s, (course a s).2.tree = s.tree

theorem Still.bind {a : Action α} {f : α → Action β} (ha : Still a) (hf : ∀ x, Still (f x)) :
    Still (a >>= f) := by
  intro s
  have htree := ha s
  cases hcourse : course a s with
  | mk r s' =>
    rw [hcourse] at htree
    cases r with
    | ok x => rw [course_bind_of_ok hcourse, hf x s', htree]
    | error e => rw [course_bind_of_error hcourse, htree]

theorem still_pure (x : α) : Still (pure x : Action α) := fun _ => rfl

theorem still_throw (e : Stop) : Still (throw e : Action α) := fun _ => rfl

theorem still_get : Still (get : Action Session) := fun _ => rfl

theorem still_modify {f : Session → Session} (hf : ∀ s, (f s).tree = s.tree) :
    Still (modify f : Action Unit) := hf

theorem Still.forIn {f : α → γ → Action (ForInStep γ)} (hf : ∀ x c, Still (f x c)) :
    ∀ (l : List α) (c : γ), Still (forIn l c f) := by
  intro l
  induction l with
  | nil => exact fun c => still_pure c
  | cons x l ih =>
    intro c
    rw [List.forIn_cons]
    refine (hf x c).bind (fun step => ?_)
    cases step with
    | done c => exact still_pure c
    | yield c => exact ih c

/-- What is done for each of some things, one after the other. -/
theorem still_each {f : α → Action Unit} (hf : ∀ x, Still (f x)) (l : List α) :
    Still (forIn l PUnit.unit (fun x _ => do
      f x
      pure (ForInStep.yield PUnit.unit))) :=
  .forIn (fun x _ => (hf x).bind (fun _ => still_pure _)) l _

/-! ### Single steps -/

theorem still_attempt (r : Except Failure α) : Still (attempt r) := by
  cases r with
  | ok x => exact still_pure x
  | error e => exact still_throw _

theorem still_ask (f : Table → Except Failure α) : Still (ask f) :=
  still_get.bind (fun _ => still_attempt _)

theorem still_echo (t : Text) : Still (echo t) := still_modify (fun _ => rfl)

theorem still_note (ns : List Notice) : Still (note ns) := still_modify (fun _ => rfl)

theorem still_setTable (t : Table) : Still (setTable t) := still_modify (fun _ => rfl)

theorem still_plain (t : Text) : Still (plain t) := still_get.bind (fun _ => still_attempt _)

theorem still_say (t : Text) : Still (say t) := (still_plain t).bind (fun _ => still_echo _)

theorem still_sayRow (t : Text) : Still (sayRow t) := (still_plain t).bind (fun _ => still_echo _)

theorem still_sayPlain (t : Text) : Still (sayPlain t) := still_get.bind (fun _ => still_echo _)

theorem still_showGrid (g : Grid) : Still (showGrid g) :=
  still_get.bind (fun _ => (still_attempt _).bind (fun _ => still_echo _))

theorem still_refuse (t : Text) : Still (refuse t : Action α) :=
  (still_say t).bind (fun _ => still_throw _)

theorem still_orRefuse (r : Except Failure α) : Still (orRefuse r) := by
  cases r with
  | ok x => exact still_pure x
  | error e =>
    unfold orRefuse
    dsimp only
    split
    · exact still_refuse _
    · exact still_throw _

theorem still_removeDocument (path : Text) : Still (removeDocument path) :=
  (still_ask _).bind (fun t => (still_setTable t).bind (fun _ => still_note _))

/-! ### Commands that save nothing -/

theorem still_index (lead : String) (p : PackageConfig) : Still (index su lead p) := by
  intro s
  rw [index, course_bind_of_ok course_get]
  dsimp only
  rw [setTable, course_bind_of_ok (course_modify _)]
  split
  on_goal 1 => refine (still_note _).bind (fun _ => ?_) _
  on_goal 2 => refine (?_ : Still _) _
  all_goals
    split
    · exact still_say _
    · split
      · exact still_refuse _
      · exact still_throw _

theorem still_updateEach (count : Nat) : ∀ (ps : List PackageConfig) (i : Nat),
    Still (updateEach su count i ps) := by
  intro ps
  induction ps with
  | nil => exact fun _ => still_pure _
  | cons p ps ih =>
    intro i
    exact (still_say _).bind (fun _ => (still_index "  " p).bind (fun _ => ih (i + 1)))

theorem still_updatePackages (name : Option Text) : Still (updatePackages su name) := by
  have hupdate : ∀ packages : List PackageConfig, Still (do
      if packages.isEmpty then say (styled "yellow" "No packages to update.".toList)
      else updateEach su packages.length 1 packages) := by
    intro packages
    split
    · exact still_say _
    · exact still_updateEach _ packages 1
  refine still_get.bind (fun s => ?_)
  dsimp only
  cases nonEmpty? name with
  | none => exact (still_pure _).bind hupdate
  | some name =>
    dsimp only
    cases s.config.findPackage? name with
    | none => exact (still_refuse _).bind hupdate
    | some p => exact (still_pure _).bind hupdate

theorem still_listPackages : Still listPackages := by
  refine still_get.bind (fun s => ?_)
  dsimp only
  split
  · exact still_say _
  · exact (still_ask _).bind (fun _ => still_showGrid _)

theorem still_showHit (needles : List Text) (d : Document) : Still (showHit needles d) := by
  refine (still_say _).bind (fun _ => (Still.forIn (fun line _ => ?_) _ _).bind
    (fun _ => still_pure _))
  exact (still_sayRow _).bind (fun _ => (still_sayPlain _).bind (fun _ => still_pure _))

theorem still_searchDocuments (r : SearchRequest) : Still (searchDocuments r) := by
  unfold searchDocuments
  rcases r.options with cs | o
  on_goal 1 => refine (still_refuse _).bind (fun o => ?_)
  on_goal 2 => refine (still_pure o).bind (fun o => ?_)
  all_goals
    refine (still_ask _).bind (fun ds => ?_)
    split
    · exact still_say _
    · split
      · exact still_echo _
      · exact still_echo _
      · exact (still_each (fun d => still_showHit _ d) _).bind (fun _ => still_say _)

theorem still_listDocuments (shortpath : Option Text) : Still (listDocuments shortpath) := by
  refine still_get.bind (fun s => (still_orRefuse _).bind (fun ds => ?_))
  split
  · exact still_say _
  · exact (still_attempt _).bind (fun _ => still_showGrid _)

theorem still_showDocument (shortpath : Text) (numbered : Bool) :
    Still (showDocument shortpath numbered) := by
  refine still_get.bind (fun s => (still_orRefuse _).bind (fun found => ?_))
  cases found with
  | none => exact still_refuse _
  | some d =>
    refine (still_say _).bind (fun _ => (still_say _).bind (fun _ => ?_))
    refine (Still.forIn (fun line _ => ?_) _ _).bind (fun _ => still_pure _)
    dsimp only
    split
    · exact (still_sayRow _).bind (fun _ => (still_sayPlain _).bind (fun _ => still_pure _))
    · exact (still_sayPlain _).bind (fun _ => still_pure _)

theorem still_dumpDocuments : Still dumpDocuments :=
  (still_ask _).bind (fun _ => (still_note _).bind (fun _ =>
    (still_each (fun _ => still_sayPlain _) _).bind (fun _ => still_pure _)))

theorem still_sweepDocument (d : Document) : Still (sweepDocument d) := by
  refine still_get.bind (fun s => (still_each (fun _ => still_say _) _).bind (fun _ =>
    (still_setTable _).bind (fun _ => (still_note _).bind (fun _ => ?_))))
  split
  · exact still_throw _
  · exact still_pure _

theorem still_sweepEach : ∀ ds : List Document, Still (sweepEach ds)
  | [] => still_pure 0
  | d :: ds => (still_sweepDocument d).bind (fun _ =>
      (still_sweepEach ds).bind (fun _ => still_pure _))

theorem still_cleanupDocuments (package : Option Text) : Still (cleanupDocuments package) :=
  (still_ask _).bind (fun ds => (still_sweepEach ds).bind (fun _ => still_say _))

theorem still_showStatus : Still showStatus := by
  refine still_get.bind (fun s => still_get.bind (fun s' => ?_))
  refine (still_attempt _).bind (fun _ => (still_ask _).bind (fun _ => ?_))
  refine (still_showGrid _).bind (fun _ => (still_ask _).bind (fun counts => ?_))
  split
  · exact still_showGrid _
  · exact still_pure _

theorem still_showConfiguration : Still (showConfiguration su) :=
  still_get.bind (fun _ => (still_say _).bind (fun _ => still_showGrid _))

end Session

/-! ### Commands that save the configuration -/

/-- The files after a configuration was saved; they are as they were if it cannot be. -/
def AppConfig.treeAfter (config : AppConfig) (tree : FileTree) (path : Text) : FileTree :=
  match config.save tree path with
  | .ok tree => tree
  | .error _ => tree

theorem AppConfig.treeAfter_of_ok {config : AppConfig} {tree tree' : FileTree} {path : Text}
    (h : config.save tree path = .ok tree') : config.treeAfter tree path = tree' := by
  rw [treeAfter, h]

theorem AppConfig.treeAfter_of_error {config : AppConfig} {tree : FileTree} {path : Text}
    {e : FileError} (h : config.save tree path = .error e) : config.treeAfter tree path = tree := by
  rw [treeAfter, h]

namespace Command

open Session

/-- The configuration that a command saves, given the files and the configuration with which it
starts; none when it saves nothing. -/
def saves? (tree : FileTree) (config : AppConfig) : Command → Option AppConfig
  | setConfig key value => withSetting config key value
  | add path name glob ignore =>
    let full := Path.absolute "/tmp/pkgx".toList path
    let p := newPackage full name glob ignore
    if isDirectory tree full && (config.findPackage? p.name).isNone then
      some (withPackage config p)
    else none
  | remove name => if (config.findPackage? name).isSome then some (config.without name) else none
  | _ => none

/-- The files after a command. -/
def treeAfter (home : Home) (tree : FileTree) (config : AppConfig) (command : Command) : FileTree :=
  match command.saves? tree config with
  | none => tree
  | some saved => saved.treeAfter tree home.configPath

end Command

namespace Session

variable {α : Type} {s : Session} {su : Surroundings} {path glob name key value : Text}
  {chosen : Option Text} {ignore : List Text}

/-- What is done after a configuration was saved lets the files as they are then. -/
theorem tree_saveConfig_bind {home : Home} {config : AppConfig} {f : Unit → Action α}
    (hf : ∀ x, Still (f x)) :
    (course (saveConfig home config >>= f) s).2.tree =
      config.treeAfter s.tree home.configPath := by
  cases hsave : config.save s.tree home.configPath with
  | error e =>
    rw [course_bind_of_error (course_saveConfig_of_error hsave), config.treeAfter_of_error hsave]
  | ok tree =>
    rw [course_bind_of_ok (course_saveConfig hsave), hf, config.treeAfter_of_ok hsave]

theorem tree_setConfiguration : (course (setConfiguration su key value) s).2.tree =
    (Command.setConfig key value).treeAfter su.home s.tree s.config := by
  rw [setConfiguration, course_bind_of_ok course_get, Command.treeAfter, Command.saves?]
  cases withSetting s.config key value with
  | none =>
    dsimp only
    rw [still_refuse]
  | some config =>
    dsimp only
    exact tree_saveConfig_bind (fun _ => still_say _)

theorem course_refuse_bind {β : Type} (t : Text) (f : α → Action β) :
    ∃ stop s', course (refuse t >>= f) s = (.error stop, s') ∧ s'.tree = s.tree ∧
      s'.table = s.table := by
  rw [course_bind, course_refuse]
  cases Markup.display s.gallery t with
  | ok x => exact ⟨_, _, rfl, rfl, rfl⟩
  | error e => exact ⟨_, _, rfl, rfl, rfl⟩

/-- What a registration saves. -/
theorem saves?_add_eq_some_iff {tree : FileTree} {config saved : AppConfig} :
    (Command.add path chosen glob ignore).saves? tree config = some saved ↔
      let full := Path.absolute "/tmp/pkgx".toList path
      let p := newPackage full chosen glob ignore
      isDirectory tree full = true ∧ config.findPackage? p.name = none ∧
        saved = withPackage config p := by
  rw [Command.saves?]
  generalize Path.absolute "/tmp/pkgx".toList path = full
  dsimp only
  rw [Option.ite_none_right_eq_some, Bool.and_eq_true, Option.isNone_iff_eq_none, Option.some.injEq,
    and_assoc, eq_comm (a := saved)]

theorem saves?_add_eq_none_iff {tree : FileTree} {config : AppConfig} :
    (Command.add path chosen glob ignore).saves? tree config = none ↔
      let full := Path.absolute "/tmp/pkgx".toList path
      let p := newPackage full chosen glob ignore
      isDirectory tree full = false ∨ (config.findPackage? p.name).isSome = true := by
  rw [Command.saves?]
  generalize Path.absolute "/tmp/pkgx".toList path = full
  simp [Option.isSome_iff_ne_none, imp_iff_not_or]

/-- **A registration that is refused** leaves the files and the table as they are. -/
theorem course_addPackage_of_refused (su : Surroundings)
    (h : (Command.add path chosen glob ignore).saves? s.tree s.config = none) :
    ∃ stop s', course (addPackage su path chosen glob ignore) s = (.error stop, s') ∧
      s'.tree = s.tree ∧ s'.table = s.table := by
  have hrefused := saves?_add_eq_none_iff.mp h
  rw [addPackage, course_bind_of_ok course_get]
  -- nothing depends on how the path is made absolute
  generalize Path.absolute "/tmp/pkgx".toList path = full at hrefused ⊢
  dsimp only at hrefused ⊢
  split
  · exact course_refuse_bind _ _
  · next hdirectory =>
    rcases hrefused with hnot | hsome
    · rw [hnot] at hdirectory
      exact absurd rfl hdirectory
    · split
      · exact course_refuse_bind _ _
      · next hnone => exact absurd hsome hnone

/-- A registration that is not refused saves the configuration first. -/
theorem course_addPackage_of_saves (su : Surroundings) {saved : AppConfig}
    (h : (Command.add path chosen glob ignore).saves? s.tree s.config = some saved) :
    ∃ f : Unit → Action Unit, (∀ x, Still (f x)) ∧
      course (addPackage su path chosen glob ignore) s =
        course (saveConfig su.home saved >>= f) s := by
  obtain ⟨hfull, hfree, rfl⟩ := saves?_add_eq_some_iff.mp h
  rw [addPackage, course_bind_of_ok course_get]
  -- nothing depends on how the path is made absolute
  generalize Path.absolute "/tmp/pkgx".toList path = full at hfull hfree ⊢
  dsimp only
  split
  · next hdirectory =>
    rw [hfull] at hdirectory
    cases hdirectory
  · split
    · next hsome =>
      rw [show s.config.findPackage? ((nonEmpty? chosen).getD _) = none from hfree] at hsome
      cases hsome
    · exact ⟨_, fun _ => (still_say _).bind (fun _ => still_index "" _), rfl⟩

theorem tree_addPackage : (course (addPackage su path chosen glob ignore) s).2.tree =
    (Command.add path chosen glob ignore).treeAfter su.home s.tree s.config := by
  rw [Command.treeAfter]
  cases hsaves : (Command.add path chosen glob ignore).saves? s.tree s.config with
  | none =>
    obtain ⟨stop, s', hcourse, htree, -⟩ := course_addPackage_of_refused su hsaves
    rw [hcourse]
    exact htree
  | some saved =>
    obtain ⟨f, hf, hcourse⟩ := course_addPackage_of_saves su hsaves
    rw [hcourse]
    exact tree_saveConfig_bind hf

theorem tree_removePackage : (course (removePackage su name) s).2.tree =
    (Command.remove name).treeAfter su.home s.tree s.config := by
  have hremoval : ∀ x : Unit, Still (do
      let ds ← ask (fun t => t.below (some name))
      for d in if name.isEmpty then ds else inOrder ds do removeDocument d.path
      say (farewell name ds.length)) := fun _ =>
    (still_ask _).bind (fun ds =>
      (still_each (fun d => still_removeDocument _) _).bind (fun _ => still_say _))
  rw [removePackage, course_bind_of_ok course_get, Command.treeAfter, Command.saves?]
  dsimp only
  cases s.config.findPackage? name with
  | none =>
    obtain ⟨stop, s', hcourse, htree, -⟩ := course_refuse_bind (s := s) (unknownPackage name) _
    rw [Option.isNone_none, if_pos rfl, hcourse]
    exact htree
  | some p =>
    rw [Option.isNone_some, Option.isSome_some, if_neg Bool.false_ne_true, if_pos rfl]
    exact tree_saveConfig_bind hremoval

theorem tree_of_still {a : Action Unit} {command : Command} (ha : Still a)
    (hperform : command.perform su = a) (hsaves : command.saves? s.tree s.config = none) :
    (course (command.perform su) s).2.tree = command.treeAfter su.home s.tree s.config := by
  rw [hperform, Command.treeAfter, hsaves]
  exact ha s

/-- **The files after a command**: only the configuration was saved, if the command saves it. -/
theorem tree_perform (su : Surroundings) (command : Command) (s : Session) :
    (course (command.perform su) s).2.tree = command.treeAfter su.home s.tree s.config := by
  cases command with
  | setConfig key value => exact tree_setConfiguration
  | add path name glob ignore => exact tree_addPackage
  | remove name => exact tree_removePackage
  | showConfig => exact tree_of_still still_showConfiguration rfl rfl
  | update name => exact tree_of_still (still_updatePackages name) rfl rfl
  | list => exact tree_of_still still_listPackages rfl rfl
  | search request => exact tree_of_still (still_searchDocuments request) rfl rfl
  | ls shortpath => exact tree_of_still (still_listDocuments shortpath) rfl rfl
  | get shortpath numbered => exact tree_of_still (still_showDocument shortpath numbered) rfl rfl
  | dump => exact tree_of_still still_dumpDocuments rfl rfl
  | cleanup package => exact tree_of_still (still_cleanupDocuments package) rfl rfl
  | status => exact tree_of_still still_showStatus rfl rfl

/-- A registration that cannot be saved leaves the files and the table as they are. -/
theorem course_addPackage_of_unsaved {saved : AppConfig} {e : FileError}
    (h : (Command.add path chosen glob ignore).saves? s.tree s.config = some saved)
    (hsave : saved.save s.tree su.home.configPath = .error e) :
    ∃ stop s', course (addPackage su path chosen glob ignore) s = (.error stop, s') ∧
      s'.tree = s.tree ∧ s'.table = s.table := by
  obtain ⟨f, -, hcourse⟩ := course_addPackage_of_saves su h
  rw [hcourse, course_bind_of_error (course_saveConfig_of_error hsave)]
  exact ⟨_, _, rfl, rfl, rfl⟩

end Session

end PackageCatalog
