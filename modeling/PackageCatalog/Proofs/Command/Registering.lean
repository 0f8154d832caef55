import PackageCatalog.Proofs.Command.Saves
import PackageCatalog.Proofs.Config.Overwriting
import PackageCatalog.Proofs.Store.Opening

/-!
# Registered packages

Every command line loads the configuration that the last one has left, and opens the database that
is configured.  Then its command is carried out, unless the database cannot be opened or the level
of the journal is refused.  As long as what is written comes back, the names of the registered
packages stay distinct: a name that is registered is refused, a package is added at the end, and the
removal of a name takes out its one package.

## Main definitions

* `Asks`, `Site.Comes` — the command that words ask for, and a line that comes to its command.
* `Command.next` — the configuration after a command.
* `Site.Holds` — a site with a configuration in which names are distinct.
* `Site.Faithful`, `Site.Reached` — what is taken for granted of a line, and the sites that lines
  lead to.
* `Site.Registers` — what a line does to the registered packages.

## Main results

* `Site.Holds.run` — **what one line leaves.**
* `Site.Reached.holds` — **what all lines leave.**
* `Site.law_of_registering` — **the registered packages along all lines.**
-/

namespace PackageCatalog

open Session

/-! ### What is registered -/

namespace AppConfig

variable {config saved : AppConfig} {p : PackageConfig} {name : Text}

/-- A configuration whose packages have distinct names, and come back when they are written. -/
structure Sound (config : AppConfig) : Prop where
  distinct : (config.packages.map (·.name)).Nodup
  plain : ∀ p ∈ config.packages, p.readBack = p

theorem sound_standard (home : Home) : (AppConfig.standard home).Sound :=
  ⟨List.nodup_nil, fun _ h => absurd h List.not_mem_nil⟩

theorem Sound.packages_readBack (h : config.Sound) : config.readBack.packages = config.packages :=
  map_eq_self_iff.mpr h.plain

theorem Sound.readBack (h : config.Sound) : config.readBack.Sound := by
  constructor
  · rw [h.packages_readBack]
    exact h.distinct
  · rw [h.packages_readBack]
    exact h.plain

theorem findPackage?_eq_none_iff :
    config.findPackage? name = none ↔ name ∉ config.packages.map (·.name) := by
  simp [findPackage?]

/-- A package of a new name is added. -/
theorem Sound.withPackage (h : config.Sound) (hfree : config.findPackage? p.name = none)
    (hplain : p.readBack = p) : (withPackage config p).Sound := by
  constructor
  · show ((config.packages ++ [p]).map (·.name)).Nodup
    rw [List.map_append, List.nodup_append]
    refine ⟨h.distinct, List.nodup_singleton _, fun a ha b hb => ?_⟩
    rw [List.mem_singleton.mp hb]
    rintro rfl
    exact findPackage?_eq_none_iff.mp hfree ha
  · intro q hq
    rcases List.mem_append.mp hq with hq | hq
    · exact h.plain q hq
    · rw [List.mem_singleton.mp hq]
      exact hplain

theorem Sound.without (h : config.Sound) (name : Text) : (config.without name).Sound :=
  ⟨h.distinct.sublist (List.filter_sublist.map _), fun q hq => h.plain q (List.mem_filter.mp hq).1⟩

theorem packages_withSetting {key value : Text} (h : withSetting config key value = some saved) :
    saved.packages = config.packages := by
  rw [withSetting] at h
  split at h
  · rw [← Option.some.inj h]
  · split at h
    · rw [← Option.some.inj h]
    · cases h

/-- **The removal of a name takes out the one package of that name.** -/
theorem Sound.exists_without (h : config.Sound) (hp : p ∈ config.packages) :
    ∃ front back, config.packages = front ++ p :: back ∧
      (config.without p.name).packages = front ++ back := by
  obtain ⟨front, back, hsplit⟩ := List.append_of_mem hp
  have hdistinct := h.distinct
  rw [hsplit, List.map_append, List.map_cons, List.nodup_append] at hdistinct
  obtain ⟨-, hback, hfront⟩ := hdistinct
  refine ⟨front, back, hsplit, ?_⟩
  have hkept : ∀ q ∈ front ++ back, (q.name != p.name) = true := by
    intro q hq
    rw [bne_iff_ne]
    rcases List.mem_append.mp hq with hq | hq
    · exact hfront _ (List.mem_map_of_mem hq) _ List.mem_cons_self
    · exact fun heq => (List.nodup_cons.mp hback).1 (heq ▸ List.mem_map_of_mem hq)
  show config.packages.filter (fun q => q.name != p.name) = front ++ back
  rw [hsplit, List.filter_append, List.filter_cons_of_neg (by simp), ← List.filter_append,
    List.filter_eq_self.mpr hkept]

end AppConfig

/-- What a command saves is sound, when the package that is added comes back. -/
theorem AppConfig.Sound.of_saves {tree : FileTree} {config saved : AppConfig} {command : Command}
    (h : config.Sound) (hsaves : command.saves? tree config = some saved)
    (hplain : ∀ path name glob ignore, command = .add path name glob ignore →
      let p := newPackage (Path.absolute "/tmp/pkgx".toList path) name glob ignore
      p.readBack = p) : saved.Sound := by
  cases command with
  | setConfig key value =>
    have hpackages := packages_withSetting hsaves
    exact ⟨hpackages ▸ h.distinct, hpackages ▸ h.plain⟩
  | add path name glob ignore =>
    obtain ⟨-, hfree, rfl⟩ := saves?_add_eq_some_iff.mp hsaves
    exact h.withPackage hfree (hplain path name glob ignore rfl)
  | remove name =>
    rw [Command.saves?, Option.ite_none_right_eq_some] at hsaves
    rw [← Option.some.inj hsaves.2]
    exact h.without name
  | _ => cases hsaves

/-- The configuration after a command: as it comes back when it was saved. -/
def Command.next (home : Home) (tree : FileTree) (config : AppConfig) (command : Command) :
    AppConfig :=
  match command.saves? tree config with
  | none => config
  | some saved =>
    match saved.save tree home.configPath with
    | .ok _ => saved.readBack
    | .error _ => config

/-! ### Command lines -/

/-- The words of a line ask for a command. -/
def Asks (words : List Text) (command : Command) : Prop :=
  ∃ invocation, Invocation.read words = .ok invocation ∧
    invocation.verb.read invocation.words = .ok command

theorem Asks.unique {words : List Text} {command command' : Command} (h : Asks words command)
    (h' : Asks words command') : command = command' := by
  obtain ⟨invocation, hread, hasked⟩ := h
  obtain ⟨invocation', hread', hasked'⟩ := h'
  obtain rfl := Except.ok.inj (hread.symm.trans hread')
  exact Except.ok.inj (hasked.symm.trans hasked')

namespace Site

variable {site : Site} {su : Surroundings} {home : Home} {words : List Text} {command : Command}
  {config : AppConfig} {s : Session}

/-- The files after the database of a configuration was opened. -/
def opened (site : Site) (config : AppConfig) : FileTree :=
  (site.pool.openFile site.tree config.dbPath).1

/-- A line comes to its command: the configuration is loaded, the database is opened, the level of
the journal is known and the words are those of the command.  The command works in a session. -/
inductive Comes (site : Site) (su : Surroundings) (words : List Text) : Command → Session → Prop
  | intro {invocation : Invocation} {config : AppConfig} {tree : FileTree} {pool : Pool}
      {connection threshold : Nat} {command : Command}
      (called : Invocation.read words = .ok invocation)
      (loaded : AppConfig.load su.home site.tree su.home.configPath = .ok config)
      (opened : site.pool.openFile site.tree config.dbPath = (tree, pool, .ok connection))
      (level : Level.rank ((nonEmpty? invocation.logLevel).getD config.logLevel) = .ok threshold)
      (asked : invocation.verb.read invocation.words = .ok command) :
      Comes site su words command
        { gallery := site.gallery, tree, config, table := pool.table connection, threshold,
          fileSize := fileSize site.tree tree config.dbPath }

theorem Comes.asks (h : site.Comes su words command s) : Asks words command := by
  cases h with
  | intro called _ _ _ asked => exact ⟨_, called, asked⟩

theorem Comes.config_eq (h : site.Comes su words command s)
    (hload : AppConfig.load su.home site.tree su.home.configPath = .ok config) :
    s.config = config := by
  cases h with
  | intro _ loaded => exact Except.ok.inj (loaded.symm.trans hload)

theorem Comes.tree_eq (h : site.Comes su words command s) : s.tree = site.opened s.config := by
  cases h with
  | intro _ _ opened => exact (congrArg Prod.fst opened).symm

/-- **A line that comes to its command** does what the command does.  The databases are as they were
when the command leaves the table so. -/
theorem Comes.run (h : site.Comes su words command s) :
    (site.run su words).1.tree = (course (command.perform su) s).2.tree ∧
      (site.run su words).2.ending = Ending.ofResult (course (command.perform su) s).1 ∧
      ((course (command.perform su) s).2.table = s.table →
        Pool.Extends site.pool (site.run su words).1.pool) := by
  cases h with
  | @intro invocation config tree pool connection threshold command called loaded opened level
      asked =>
    obtain ⟨result, s', hcourse⟩ : ∃ result s', course (command.perform su)
        { gallery := site.gallery, tree, config, table := pool.table connection, threshold,
          fileSize := fileSize site.tree tree config.dbPath } = (result, s') := ⟨_, _, rfl⟩
    have hperform : Site.perform { site with tree, pool } su config connection
        (fileSize site.tree tree config.dbPath) invocation = _ := perform_eq level asked hcourse
    have hrun : site.run su words = Site.perform { site with tree, pool } su config connection
        (fileSize site.tree tree config.dbPath) invocation := by
      rw [Site.run, called]
      dsimp only
      rw [loaded]
      dsimp only
      rw [opened]
    rw [hrun, hperform, hcourse]
    refine ⟨rfl, rfl, fun htable => ?_⟩
    have hextends := (Pool.openFile_spec site.pool site.tree config.dbPath).2
    rw [opened] at hextends
    refine hextends.trans (.of_stores_eq ?_)
    show ((pool.keep connection s'.table).close connection).stores = pool.stores
    rw [show s'.table = pool.table connection from htable]
    exact Pool.stores_close_keep pool connection

/-- **A line that does not come to its command** opens the database at most, and fails when it asks
for a command. -/
theorem run_of_not_comes
    (hload : AppConfig.load su.home site.tree su.home.configPath = .ok config)
    (h : ∀ command s, ¬site.Comes su words command s) :
    ((site.run su words).1.tree = site.tree ∨
        (site.run su words).1.tree = site.opened config) ∧
      Pool.Extends site.pool (site.run su words).1.pool ∧
      ∀ command, Asks words command → (site.run su words).2.ending.code = 1 := by
  rw [run]
  cases hcalled : Invocation.read words with
  | error e =>
    refine ⟨Or.inl rfl, Pool.Extends.refl _, fun command ⟨invocation, hread, _⟩ => ?_⟩
    rw [hcalled] at hread
    cases hread
  | ok invocation =>
    dsimp only
    rw [hload]
    dsimp only
    have hextends := (Pool.openFile_spec site.pool site.tree config.dbPath).2
    have htree : site.opened config = (site.pool.openFile site.tree config.dbPath).1 := rfl
    cases hopened : site.pool.openFile site.tree config.dbPath with
    | mk tree opening =>
      obtain ⟨pool, result⟩ := opening
      rw [hopened] at hextends htree
      cases result with
      | error e => exact ⟨Or.inr htree.symm, hextends, fun _ _ => rfl⟩
      | ok connection =>
        dsimp only
        -- the database was opened: it is closed whatever becomes of the invocation
        have hclosed : Pool.Extends site.pool (pool.close connection) :=
          hextends.trans (.of_stores_eq (Pool.stores_close pool connection))
        rw [perform]
        dsimp only
        cases hlevel : Level.rank ((nonEmpty? invocation.logLevel).getD config.logLevel) with
        | error e => exact ⟨Or.inr htree.symm, hclosed, fun _ _ => rfl⟩
        | ok threshold =>
          dsimp only
          cases hasked : invocation.verb.read invocation.words with
          | error e =>
            refine ⟨Or.inr htree.symm, hclosed, fun command ⟨invocation', hread, hcommand⟩ => ?_⟩
            obtain rfl := Except.ok.inj (hcalled.symm.trans hread)
            rw [hasked] at hcommand
            cases hcommand
          -- all that a command needs is there, so that it would come
          | ok command => exact absurd (.intro hcalled hload hopened hlevel hasked) (h command _)

/-! ### What one line leaves -/

/-- The name of the configuration file. -/
def configName (home : Home) : NativeName := NativeName.ofText home.configPath

/-- There is no configuration file. -/
def Unconfigured (home : Home) (tree : FileTree) : Prop :=
  tree.testEntry (configName home) (fun _ => true) = .ok false

instance (home : Home) (tree : FileTree) : Decidable (Unconfigured home tree) :=
  inferInstanceAs (Decidable (_ = _))

/-- The files hold a configuration: the standard one where there is no file, and else the one that
is read out of the file. -/
inductive Keeps (home : Home) (tree : FileTree) : AppConfig → Prop
  | nothing (hnone : Unconfigured home tree) : Keeps home tree (.standard home)
  | file {bytes : Bytes} {t : Int} {config : AppConfig}
      (hstat : tree.stat (configName home) = .ok (.file (.octets bytes) t)) (hne : bytes ≠ [])
      (hread : AppConfig.ofBytes home bytes = .ok config) : Keeps home tree config

theorem Keeps.load {tree : FileTree} (h : Keeps home tree config) :
    AppConfig.load home tree home.configPath = .ok config := by
  cases h with
  | nothing hnone =>
    rw [AppConfig.load,
      show tree.testEntry (NativeName.ofText home.configPath) (fun _ => true) = _ from hnone]
  | @file bytes t _ hstat _ hread =>
    have hstat : tree.stat (NativeName.ofText home.configPath) =
        .ok (.file (.octets bytes) t) := hstat
    rw [AppConfig.load, FileTree.testEntry_of_stat hstat]
    dsimp only
    rw [FileTree.read, hstat]
    exact hread

/-- The files hold what was saved, as it comes back. -/
theorem keeps_of_save {tree tree' : FileTree} (h : config.save tree home.configPath = .ok tree') :
    Keeps home tree' config.readBack := by
  obtain ⟨t, hstat⟩ := AppConfig.stat_of_save h
  have hne : NativeName.ofText config.written ≠ [] :=
    fun hnil => config.written_ne_nil (List.map_eq_nil_iff.mp hnil)
  exact .file hstat (NativeName.octets_ne_nil hne (NativeName.toBytes?_ofText _))
    (config.ofBytes_written home)

/-- A site with a sound configuration, and with the directory from which paths lead. -/
structure Holds (home : Home) (site : Site) (config : AppConfig) : Prop where
  kept : Keeps home site.tree config
  stands : site.tree.Stands FileTree.workingDirectory
  sound : config.Sound

/-- What is taken for granted of the configuration file while a line is carried out: no database is
made in its place, and a package that is added comes back as it is written. -/
structure Faithful (site : Site) (su : Surroundings) (words : List Text) : Prop where
  unmade : Unconfigured su.home site.tree → Unconfigured su.home (site.opened (.standard su.home))
  readBack : ∀ path name glob ignore, Asks words (.add path name glob ignore) →
    let p := newPackage (Path.absolute "/tmp/pkgx".toList path) name glob ignore
    p.readBack = p

/-- Opening the database leaves the configuration as it is. -/
theorem Holds.keeps_opened (h : site.Holds su.home config) (hfaithful : site.Faithful su words) :
    Keeps su.home (site.opened config) config := by
  have hgrows := (Pool.openFile_spec site.pool site.tree config.dbPath).1
  cases h.kept with
  | nothing hnone => exact .nothing (hfaithful.unmade hnone)
  | file hstat hne hread =>
    refine .file (FileTree.stat_of_grows hgrows (fun hbody => ?_) hstat) hne hread
    exact hne (Body.octets.inj hbody)

theorem Holds.stands_opened (h : site.Holds home config) :
    (site.opened config).Stands FileTree.workingDirectory :=
  h.stands.grow (Pool.openFile_spec site.pool site.tree config.dbPath).1

/-- **What a line leaves that comes to its command.** -/
theorem Holds.run_of_comes (h : site.Holds su.home config) (hfaithful : site.Faithful su words)
    (hcomes : site.Comes su words command s) :
    (site.run su words).1.Holds su.home (command.next su.home s.tree config) := by
  have hconfig := hcomes.config_eq h.kept.load
  have htree : (site.run su words).1.tree = command.treeAfter su.home s.tree config := by
    rw [hcomes.run.1, tree_perform, hconfig]
  have hopened : s.tree = site.opened config := by rw [hcomes.tree_eq, hconfig]
  have hsame : (site.run su words).1.tree = s.tree →
      (site.run su words).1.Holds su.home config := by
    intro hunchanged
    rw [hopened] at hunchanged
    exact ⟨hunchanged ▸ h.keeps_opened hfaithful, hunchanged ▸ h.stands_opened, h.sound⟩
  rw [Command.treeAfter] at htree
  rw [Command.next]
  cases hsaves : command.saves? s.tree config with
  -- the command saves nothing
  | none =>
    rw [hsaves] at htree
    exact hsame htree
  | some saved =>
    rw [hsaves] at htree
    dsimp only at htree ⊢
    have hsound : saved.Sound := h.sound.of_saves hsaves (fun path name glob ignore hcommand =>
      hfaithful.readBack path name glob ignore (hcommand ▸ hcomes.asks))
    cases hsave : saved.save s.tree su.home.configPath with
    -- the configuration cannot be written, and the old one stands
    | error e =>
      rw [AppConfig.treeAfter_of_error hsave] at htree
      exact hsame htree
    | ok tree =>
      rw [AppConfig.treeAfter_of_ok hsave] at htree
      have hstands : s.tree.Stands FileTree.workingDirectory := hopened ▸ h.stands_opened
      refine ⟨?_, ?_, hsound.readBack⟩
      · rw [htree]
        exact keeps_of_save hsave
      · rw [htree]
        exact AppConfig.stands_of_save hsave hstands

/-- What a line leaves that does not come to its command. -/
theorem Holds.run_of_not_comes (h : site.Holds su.home config) (hfaithful : site.Faithful su words)
    (hnot : ∀ command s, ¬site.Comes su words command s) :
    (site.run su words).1.Holds su.home config := by
  rcases (Site.run_of_not_comes h.kept.load hnot).1 with htree | htree
  · exact ⟨htree ▸ h.kept, htree ▸ h.stands, h.sound⟩
  · exact ⟨htree ▸ h.keeps_opened hfaithful, htree ▸ h.stands_opened, h.sound⟩

/-- **What one line leaves.** -/
theorem Holds.run (h : site.Holds su.home config) (hfaithful : site.Faithful su words) :
    ∃ config', (site.run su words).1.Holds su.home config' := by
  by_cases hcomes : ∃ command s, site.Comes su words command s
  · obtain ⟨command, s, hcomes⟩ := hcomes
    exact ⟨_, h.run_of_comes hfaithful hcomes⟩
  · exact ⟨config, h.run_of_not_comes hfaithful (fun command s h => hcomes ⟨command, s, h⟩)⟩

/-! ### What all lines leave -/

/-- The sites that lines lead to, from one where there is no configuration file.  Between two lines
files may change, but not the configuration file. -/
inductive Reached (home : Home) : Site → Prop
  | fresh {site : Site} (hnone : Unconfigured home site.tree)
      (hstands : site.tree.Stands FileTree.workingDirectory) : Reached home site
  | line {site : Site} {detect : Detector} {words : List Text} (hsite : Reached home site)
      (hfaithful : site.Faithful ⟨home, detect⟩ words) :
      Reached home (site.run ⟨home, detect⟩ words).1
  | changed {site : Site} {tree : FileTree} (hsite : Reached home site)
      (hstat : tree.stat (configName home) = site.tree.stat (configName home))
      (hstands : tree.Stands FileTree.workingDirectory) : Reached home { site with tree }

/-- A site is reached by one more line. -/
theorem Reached.next (h : site.Reached su.home) (hfaithful : site.Faithful su words) :
    (site.run su words).1.Reached su.home :=
  h.line hfaithful

/-- **What all lines leave.** -/
theorem Reached.holds (h : site.Reached home) : ∃ config, site.Holds home config := by
  induction h with
  | fresh hnone hstands => exact ⟨_, .nothing hnone, hstands, AppConfig.sound_standard home⟩
  | line _ hfaithful ih =>
    obtain ⟨config, hholds⟩ := ih
    exact hholds.run hfaithful
  | @changed site tree _ hstat hstands ih =>
    obtain ⟨config, hholds⟩ := ih
    refine ⟨config, ?_, hstands, hholds.sound⟩
    cases hholds.kept with
    | nothing hnone =>
      refine .nothing ?_
      rw [Unconfigured, FileTree.testEntry, hstat]
      exact hnone
    | file hfound hne hread => exact .file (hstat.trans hfound) hne hread

/-! ### The registered packages -/

/-- What a line does to the registered packages, given the configurations before and after it. -/
structure Registers (site : Site) (su : Surroundings) (words : List Text)
    (before after : AppConfig) (result : Site × Outcome) : Prop where
  /-- Where the path of a registration is no directory, or its name is taken, it is refused:
  the configuration and the tables stay as they are. -/
  refused : ∀ path name glob ignore, Asks words (.add path name glob ignore) →
    let full := Path.absolute "/tmp/pkgx".toList path
    let p := newPackage full name glob ignore
    isDirectory (site.opened before) full = false ∨ (before.findPackage? p.name).isSome = true →
      result.2.ending.code = 1 ∧ after = before ∧ Pool.Extends site.pool result.1.pool
  /-- Any other that comes to its command has its package at the end, whatever becomes of the
  indexing, when the configuration can be saved. -/
  added : ∀ path name glob ignore s, site.Comes su words (.add path name glob ignore) s →
    let full := Path.absolute "/tmp/pkgx".toList path
    let p := newPackage full name glob ignore
    isDirectory s.tree full = true → before.findPackage? p.name = none →
      ∀ tree, (withPackage before p).save s.tree su.home.configPath = .ok tree →
        after.packages = before.packages ++ [p]
  /-- Where the configuration cannot be saved, a registration fails, and all stays as it is. -/
  unsaved : ∀ path name glob ignore s, site.Comes su words (.add path name glob ignore) s →
    let full := Path.absolute "/tmp/pkgx".toList path
    let p := newPackage full name glob ignore
    isDirectory s.tree full = true → before.findPackage? p.name = none →
      ∀ e, (withPackage before p).save s.tree su.home.configPath = .error e →
        result.2.ending.code = 1 ∧ after = before ∧ Pool.Extends site.pool result.1.pool
  /-- The removal of a registered name takes out its package, and no other. -/
  removed : ∀ name s, site.Comes su words (.remove name) s →
    ∀ p ∈ before.packages, p.name = name →
      ∃ front back, before.packages = front ++ p :: back ∧ after.packages = front ++ back
  /-- Every other line leaves the packages as they are. -/
  others : (∀ path name glob ignore, ¬Asks words (.add path name glob ignore)) →
    (∀ name, Asks words (.remove name) → before.findPackage? name = none) →
      after.packages = before.packages
  /-- A line that does not come to its command leaves the configuration as it is. -/
  idle : (∀ command s, ¬site.Comes su words command s) → after = before

theorem Comes.unique {command' : Command} {s' : Session} (h : site.Comes su words command s)
    (h' : site.Comes su words command' s') : command = command' ∧ s = s' := by
  cases h with
  | intro called loaded opened level asked =>
    cases h' with
    | intro called' loaded' opened' level' asked' =>
      cases called.symm.trans called'
      cases loaded.symm.trans loaded'
      cases opened.symm.trans opened'
      cases level.symm.trans level'
      cases asked.symm.trans asked'
      exact ⟨rfl, rfl⟩

/-- A line does not come to its command. -/
theorem Holds.registers_of_not_comes (h : site.Holds su.home config)
    (hnot : ∀ command s, ¬site.Comes su words command s) :
    site.Registers su words config config (site.run su words) where
  refused _ _ _ _ hasks _ :=
    have hrun := Site.run_of_not_comes h.kept.load hnot
    ⟨hrun.2.2 _ hasks, rfl, hrun.2.1⟩
  added _ _ _ _ s hcomes := absurd hcomes (hnot _ s)
  unsaved _ _ _ _ s hcomes := absurd hcomes (hnot _ s)
  removed _ s hcomes := absurd hcomes (hnot _ s)
  others _ _ := rfl
  idle _ := rfl

/-- A command that stops and leaves its table. -/
theorem Comes.run_of_error {stop : Stop} {s' : Session} (hcomes : site.Comes su words command s)
    (hcourse : course (command.perform su) s = (.error stop, s')) (htable : s'.table = s.table) :
    (site.run su words).2.ending.code = 1 ∧ Pool.Extends site.pool (site.run su words).1.pool := by
  obtain ⟨-, hending, hextends⟩ := hcomes.run
  rw [hcourse] at hending hextends
  refine ⟨?_, hextends htable⟩
  rw [hending]
  cases stop <;> rfl

section Registration

variable {path glob : Text} {name : Option Text} {ignore : List Text}

/-- A registration that is refused. -/
theorem Holds.refused (h : site.Holds su.home config)
    (hcomes : site.Comes su words (.add path name glob ignore) s)
    (hsaves : (Command.add path name glob ignore).saves? s.tree config = none) :
    (site.run su words).2.ending.code = 1 ∧
      (Command.add path name glob ignore).next su.home s.tree config = config ∧
      Pool.Extends site.pool (site.run su words).1.pool := by
  obtain rfl := hcomes.config_eq h.kept.load
  obtain ⟨stop, s', hcourse, -, htable⟩ := course_addPackage_of_refused su hsaves
  obtain ⟨hcode, hextends⟩ := hcomes.run_of_error hcourse htable
  refine ⟨hcode, ?_, hextends⟩
  rw [Command.next, hsaves]

variable {p : PackageConfig}

/-- A registration that is not refused, and is saved. -/
theorem Holds.added (h : site.Holds su.home config)
    (hsaves : (Command.add path name glob ignore).saves? s.tree config =
      some (withPackage config p)) (hplain : p.readBack = p)
    (hfree : config.findPackage? p.name = none) {tree : FileTree}
    (hsave : (withPackage config p).save s.tree su.home.configPath = .ok tree) :
    ((Command.add path name glob ignore).next su.home s.tree config).packages =
      config.packages ++ [p] := by
  rw [Command.next, hsaves]
  dsimp only
  rw [hsave]
  exact (h.sound.withPackage hfree hplain).packages_readBack

/-- A registration that is not refused, and cannot be saved. -/
theorem Holds.unsaved (h : site.Holds su.home config)
    (hcomes : site.Comes su words (.add path name glob ignore) s)
    (hsaves : (Command.add path name glob ignore).saves? s.tree config =
      some (withPackage config p)) {e : FileError}
    (hsave : (withPackage config p).save s.tree su.home.configPath = .error e) :
    (site.run su words).2.ending.code = 1 ∧
      (Command.add path name glob ignore).next su.home s.tree config = config ∧
      Pool.Extends site.pool (site.run su words).1.pool := by
  obtain rfl := hcomes.config_eq h.kept.load
  obtain ⟨stop, s', hcourse, -, htable⟩ := course_addPackage_of_unsaved hsaves hsave
  obtain ⟨hcode, hextends⟩ := hcomes.run_of_error hcourse htable
  refine ⟨hcode, ?_, hextends⟩
  rw [Command.next, hsaves]
  dsimp only
  rw [hsave]

end Registration

/-- A registered package is removed. -/
theorem Holds.removed {name : Text} {p : PackageConfig} (h : site.Holds su.home config)
    (hfaithful : site.Faithful su words) (hcomes : site.Comes su words (.remove name) s)
    (hp : p ∈ config.packages) (hname : p.name = name) :
    ∃ front back, config.packages = front ++ p :: back ∧
      ((Command.remove name).next su.home s.tree config).packages = front ++ back := by
  have hconfig := hcomes.config_eq h.kept.load
  have hopened : s.tree = site.opened config := by rw [hcomes.tree_eq, hconfig]
  have hfound : (config.findPackage? name).isSome = true := by
    rw [AppConfig.findPackage?, List.find?_isSome]
    exact ⟨p, hp, by rw [hname]; exact BEq.rfl⟩
  have hsaves : (Command.remove name).saves? s.tree config = some (config.without name) := by
    rw [Command.saves?, if_pos hfound]
  -- a package is registered, so there is a file to write over
  obtain ⟨tree, hsave⟩ : ∃ tree, (config.without name).save s.tree su.home.configPath =
      .ok tree := by
    rw [hopened]
    cases h.keeps_opened hfaithful with
    | nothing _ => cases hp
    | file hstat _ _ => exact AppConfig.exists_save_of_stat h.stands_opened hstat _
  obtain ⟨front, back, hsplit, hrest⟩ := h.sound.exists_without hp
  refine ⟨front, back, hsplit, ?_⟩
  rw [Command.next, hsaves]
  dsimp only
  rw [hsave]
  dsimp only
  rw [(h.sound.without name).packages_readBack, ← hname, hrest]

/-- A line comes to its command. -/
theorem Holds.registers_of_comes (h : site.Holds su.home config)
    (hfaithful : site.Faithful su words) (hcomes : site.Comes su words command s) :
    site.Registers su words config (command.next su.home s.tree config) (site.run su words) := by
  have hconfig := hcomes.config_eq h.kept.load
  have hopened : s.tree = site.opened config := by rw [hcomes.tree_eq, hconfig]
  constructor
  · -- a package whose name is taken
    intro path name glob ignore hasks full p hrefused
    obtain rfl := hcomes.asks.unique hasks
    refine h.refused hcomes (saves?_add_eq_none_iff.mpr ?_)
    rw [hopened]
    exact hrefused
  · -- a new package, and its configuration is saved
    intro path name glob ignore s' hcomes' full p hfull hfree tree hsave
    obtain ⟨rfl, rfl⟩ := hcomes.unique hcomes'
    exact h.added (saves?_add_eq_some_iff.mpr ⟨hfull, hfree, rfl⟩)
      (hfaithful.readBack path name glob ignore hcomes.asks) hfree hsave
  · -- a new package, and its configuration cannot be saved
    intro path name glob ignore s' hcomes' full p hfull hfree e hsave
    obtain ⟨rfl, rfl⟩ := hcomes.unique hcomes'
    exact h.unsaved hcomes (saves?_add_eq_some_iff.mpr ⟨hfull, hfree, rfl⟩) hsave
  · -- a package that is removed
    intro name s' hcomes' p hp hname
    obtain ⟨rfl, rfl⟩ := hcomes.unique hcomes'
    exact h.removed hfaithful hcomes hp hname
  · -- a setting keeps the packages, and no other command saves a configuration
    intro hadd hremove
    rw [Command.next]
    cases command with
    | add path name glob ignore => exact absurd hcomes.asks (hadd path name glob ignore)
    | remove name =>
      rw [Command.saves?, hremove name hcomes.asks]
      rfl
    | setConfig key value =>
      rw [Command.saves?]
      cases hsaves : withSetting config key value with
      | none => rfl
      | some saved =>
        have hpackages := AppConfig.packages_withSetting hsaves
        have hsound : saved.Sound := ⟨hpackages ▸ h.sound.distinct, hpackages ▸ h.sound.plain⟩
        dsimp only
        split
        · rw [hsound.packages_readBack, hpackages]
        · rfl
    | _ => rfl
  · exact fun hnot => absurd hcomes (hnot _ _)

/-- **The registered packages along all lines**: after every line the configuration is loaded, with
packages of distinct names, and they are what the line makes of those that were there before. -/
theorem law_of_registering (h : site.Reached su.home) (hfaithful : site.Faithful su words) :
    let result := site.run su words
    ∃ before after, AppConfig.load su.home site.tree su.home.configPath = .ok before ∧
      AppConfig.load su.home result.1.tree su.home.configPath = .ok after ∧
      (before.packages.map (·.name)).Nodup ∧ (after.packages.map (·.name)).Nodup ∧
      site.Registers su words before after result := by
  obtain ⟨config, hholds⟩ := h.holds
  intro result
  by_cases hcomes : ∃ command s, site.Comes su words command s
  · obtain ⟨command, s, hcomes⟩ := hcomes
    have hafter := hholds.run_of_comes hfaithful hcomes
    exact ⟨config, _, hholds.kept.load, hafter.kept.load, hholds.sound.distinct,
      hafter.sound.distinct, hholds.registers_of_comes hfaithful hcomes⟩
  · have hnot : ∀ command s, ¬site.Comes su words command s :=
      fun command s h => hcomes ⟨command, s, h⟩
    have hafter := hholds.run_of_not_comes hfaithful hnot
    exact ⟨config, config, hholds.kept.load, hafter.kept.load, hholds.sound.distinct,
      hafter.sound.distinct, hholds.registers_of_not_comes hnot⟩

/-! ### Lines that are carried out -/

/-- The working directory stands in a tree that has more than it. -/
theorem stands_workingDirectory (more : List (RealPath × Entry)) :
    (⟨FileTree.empty.entries ++ more⟩ : FileTree).Stands FileTree.workingDirectory := by
  have htmp : FileTree.entry? ⟨FileTree.empty.entries ++ more⟩
      ([] ++ [Utf8.encode "tmp".toList]) = some (.directory recentTime) := by rfl
  have hworking : FileTree.entry? ⟨FileTree.empty.entries ++ more⟩
      ([Utf8.encode "tmp".toList] ++ [Utf8.encode "pkgx".toList]) =
        some (.directory recentTime) := by rfl
  exact (FileTree.stands_nil.child htmp).child hworking

/-- A registration whose package comes back is all right where no database is made in the place of
the configuration. -/
theorem faithful_of_asks {path glob : Text} {name : Option Text} {ignore : List Text}
    (hunmade : Unconfigured su.home site.tree →
      Unconfigured su.home (site.opened (.standard su.home)))
    (hasks : Asks words (.add path name glob ignore))
    (hplain : let p := newPackage (Path.absolute "/tmp/pkgx".toList path) name glob ignore
      p.readBack = p) : site.Faithful su words where
  unmade := hunmade
  readBack path' name' glob' ignore' hasks' := by
    cases hasks.unique hasks'
    exact hplain

/-- The names of the packages in a configuration that is loaded. -/
theorem names?_of_load (h : AppConfig.load home site.tree home.configPath = .ok config) :
    site.names? home = some (config.packages.map (·.name)) := by
  rw [names?, h]
  rfl

/-- A site with the directories `/p` and `/q`. -/
def bare : Site := { tree := twoDirectories }

/-- The words that register a directory. -/
def adding (path : String) : List Text := ["add".toList, path.toList]

/-- The words that remove the package `p`. -/
def removingP : List Text := ["remove".toList, "p".toList]

/-- The site at which `/p` is registered. -/
def withP : Site := (bare.run atTmp (adding "/p")).1

/-- The site at which `/p` is registered, and then `/q`. -/
def withBoth : Site := (withP.run atTmp (adding "/q")).1

/-- What the two registrations leave, and a removal after them. -/
theorem names?_withBoth :
    ¬Unconfigured atTmp.home withP.tree ∧ ¬Unconfigured atTmp.home withBoth.tree ∧
      withBoth.names? atTmp.home = some ["p".toList, "q".toList] ∧
      (withBoth.run atTmp removingP).1.names? atTmp.home = some ["q".toList] := by
  decide +kernel

theorem reached_withBoth : withBoth.Reached atTmp.home := by
  have hbare : bare.Reached atTmp.home := .fresh (by decide +kernel) (stands_workingDirectory _)
  have hp : bare.Faithful atTmp (adding "/p") :=
    faithful_of_asks (by decide +kernel) ⟨_, rfl, rfl⟩ (by decide +kernel)
  have hq : withP.Faithful atTmp (adding "/q") :=
    faithful_of_asks (fun h => absurd h names?_withBoth.1) ⟨_, rfl, rfl⟩ (by decide +kernel)
  exact (hbare.next hp).next hq

theorem faithful_removingP : withBoth.Faithful atTmp removingP where
  unmade h := absurd h names?_withBoth.2.1
  readBack _ _ _ _ h := by
    have hasks : Asks removingP (.remove "p".toList) := ⟨_, rfl, rfl⟩
    cases hasks.unique h

/-- Of two packages that were registered one after the other the first is removed. -/
theorem law_of_registering_removal :
    withBoth.Reached atTmp.home ∧ withBoth.Faithful atTmp removingP ∧
      ∃ before after, AppConfig.load atTmp.home withBoth.tree atTmp.home.configPath = .ok before ∧
        AppConfig.load atTmp.home (withBoth.run atTmp removingP).1.tree atTmp.home.configPath =
          .ok after ∧
        before.packages.map (·.name) = ["p".toList, "q".toList] ∧
        after.packages.map (·.name) = ["q".toList] ∧
        withBoth.Registers atTmp removingP before after (withBoth.run atTmp removingP) := by
  obtain ⟨before, after, hbefore, hafter, -, -, hregisters⟩ :=
    law_of_registering reached_withBoth faithful_removingP
  obtain ⟨-, -, hnames, hnames'⟩ := names?_withBoth
  refine ⟨reached_withBoth, faithful_removingP, before, after, hbefore, hafter, ?_, ?_, hregisters⟩
  · exact Option.some.inj ((names?_of_load hbefore).symm.trans hnames)
  · exact Option.some.inj ((names?_of_load hafter).symm.trans hnames')

/-! ### Lines that are not carried out -/

/-- The surroundings of a user who has chosen a directory for the program. -/
def atHome : Surroundings :=
  ⟨⟨some "/tmp/pkgx/home".toList, "/tmp/pkgx/user".toList⟩, Detector.constant none⟩

/-- A site with a directory `p`, where the configuration file is a link that leads nowhere. -/
def dangling : Site :=
  let below := fun names : List String =>
    FileTree.workingDirectory ++ names.map (fun name => Utf8.encode name.toList)
  { tree := ⟨FileTree.empty.entries ++
      [(below ["p"], .directory 0), (below ["home"], .directory 0),
        (below ["home", "config.yml"], .link (Utf8.encode "gone/config.yml".toList))]⟩ }

/-- The registration of `p` comes to its command. -/
theorem comes_dangling : ∃ s,
    dangling.Comes atHome (adding "p") (.add "p".toList none "**/*".toList []) s ∧
      s.config = .standard atHome.home := by
  have hload := (Keeps.nothing (show Unconfigured atHome.home dangling.tree by decide +kernel)).load
  obtain ⟨tree, pool, connection, hopened⟩ : ∃ tree pool connection,
      dangling.pool.openFile dangling.tree (AppConfig.standard atHome.home).dbPath =
        (tree, pool, .ok connection) := by
    have hok : (dangling.pool.openFile dangling.tree
        (AppConfig.standard atHome.home).dbPath).2.2.toBool = true := by decide +kernel
    obtain ⟨connection, hconnection⟩ := exists_of_toBool hok
    exact ⟨_, _, connection, by rw [← hconnection]⟩
  obtain ⟨threshold, hlevel⟩ : ∃ threshold,
      Level.rank (AppConfig.standard atHome.home).logLevel = .ok threshold := ⟨_, rfl⟩
  exact ⟨_, .intro rfl hload hopened hlevel rfl, rfl⟩

/-- The site at which `/p` is registered, and a directory is set in the place of the database. -/
def misplaced : Site :=
  afterLines { tree := twoDirectories } atTmp [["add", "/p"], ["config", "set", "db_path", "/q"]]

/-- **What is asked of the registered packages is not always done.**  A registration comes to its
command while there is no configuration, its path is a directory and no name is taken, but it adds
no package, as the configuration cannot be saved; and a registered package is not removed, as the
database cannot be opened. -/
theorem not_registered_as_asked :
    (Unconfigured atHome.home dangling.tree ∧ dangling.names? atHome.home = some [] ∧
      (∃ s, dangling.Comes atHome (adding "p") (.add "p".toList none "**/*".toList []) s ∧
        isDirectory s.tree (Path.absolute "/tmp/pkgx".toList "p".toList) = true) ∧
      (dangling.run atHome (adding "p")).2.ending.code = 1 ∧
      (dangling.run atHome (adding "p")).1.names? atHome.home = some []) ∧
    misplaced.names? atTmp.home = some ["p".toList] ∧
      (misplaced.run atTmp removingP).2.ending.code = 1 ∧
      (misplaced.run atTmp removingP).1.names? atTmp.home = some ["p".toList] := by
  have hdirectory : isDirectory (dangling.opened (.standard atHome.home))
      (Path.absolute "/tmp/pkgx".toList "p".toList) = true := by decide +kernel
  obtain ⟨s, hcomes, hconfig⟩ := comes_dangling
  refine ⟨⟨by decide +kernel, by decide +kernel, ⟨s, hcomes, ?_⟩, by decide +kernel,
    by decide +kernel⟩, by decide +kernel⟩
  rw [hcomes.tree_eq, hconfig]
  exact hdirectory

end Site

end PackageCatalog
