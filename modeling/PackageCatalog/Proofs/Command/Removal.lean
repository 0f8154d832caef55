import PackageCatalog.Command.Run
import PackageCatalog.Proofs.Catalogue.Adding
import PackageCatalog.Proofs.Catalogue.Divided
import PackageCatalog.Proofs.Command.Actions
import PackageCatalog.Proofs.Console.Markup
import PackageCatalog.Proofs.Path

/-!
# Removing a package

The command that removes a package takes it out of the configuration, asks for the documents below
its name, taken as a short path, and removes them.  A name with a slash is cut there, so that it
stands for documents of another package, or for none at all, and the empty name stands for every
document.  For every other name the command does what it is asked.

## Main definitions

* `AppConfig.without` — a configuration without the packages of a name.
* `Site.Removing` — a site at which the command may do its work.
* `Site.Unregistered` — what is asked of the command.

## Main results

* `Session.course_removePackage` — all that the command does in a session.
* `Table.mem_below_iff` — what is below the name of a package without a slash.
* `Table.package_of_below` — what is below a name with a slash.
* `Site.Removing.perform` — what is left of a site after the command.
* `Site.unregistered_iff` — **the command does what it is asked at every site exactly for the names
  that are not empty and have no slash.**
-/

namespace PackageCatalog

/-! ### The configuration -/

namespace AppConfig

variable {config : AppConfig} {name : Text}

/-- A configuration without the packages of a name. -/
def without (config : AppConfig) (name : Text) : AppConfig :=
  { config with packages := config.packages.filter (fun p => p.name != name) }

theorem findPackage?_without : (config.without name).findPackage? name = none := by
  refine List.find?_eq_none.mpr (fun p hp => ?_)
  have hne := (List.mem_filter.mp hp).2
  simpa using hne

end AppConfig

/-! ### What is below a name -/

namespace Table

variable {t : Table} {name : Text} {ds : List Document}

/-- Whatever is below a name, it is what some query returns. -/
theorem exists_select_of_below (h : t.below (some name) = .ok ds) :
    ∃ p, t.select p [] 0 none = .ok ds := by
  rcases below_cases t name with ⟨-, hbelow⟩ | ⟨-, -, hbelow⟩ | ⟨-, hbelow⟩
  · exact ⟨_, Candidate.mapError_eq_ok_iff.mp (hbelow ▸ h)⟩
  · cases hbelow.symm.trans h
  · exact ⟨_, Candidate.mapError_eq_ok_iff.mp (hbelow ▸ h)⟩

/-- What is below a name is stored. -/
theorem stored_of_below (hs : t.store.Sound) (h : t.below (some name) = .ok ds) :
    ds.Nodup ∧ ∀ d ∈ ds, d ∈ t.store.documents := by
  obtain ⟨p, hp⟩ := exists_select_of_below h
  obtain ⟨hnodup, hmem⟩ := mem_select_iff hs hp
  exact ⟨hnodup, fun d hd => ((hmem d).mp hd).1⟩

theorem below_of_free (hne : name ≠ []) (hfree : '/' ∉ name) :
    t.below (some name) =
      (t.select (.equals .package name) [] 0 none).mapError Failure.store := by
  have hsplit : Path.splitShort name = (name, none) :=
    Path.splitShort_of_free (Text.free_of_not_mem hfree)
  rw [below_of_package (by rw [hsplit]; exact hne), hsplit]
  rfl

/-- **What is below the name of a package without a slash** are the documents of the package. -/
theorem mem_below_iff (hopen : t.access ≠ .closed) (hs : t.store.Sound) (hne : name ≠ [])
    (hfree : '/' ∉ name) :
    ∃ ds, t.below (some name) = .ok ds ∧
      ∀ d, d ∈ ds ↔ d ∈ t.store.documents ∧ d.package = name := by
  obtain ⟨ds, hds⟩ := exists_select hopen (answerable_package name) []
  refine ⟨ds, ?_, fun d => ?_⟩
  · rw [below_of_free hne hfree, hds]
    rfl
  · rw [(mem_select_iff hs hds).2, satisfies_package_iff]

/-- **What is below a name with a slash** are documents of the package that is named before it. -/
theorem package_of_below {package rest : Text} (hs : t.store.Sound) (hfree : '/' ∉ package)
    (h : t.below (some (package ++ '/' :: rest)) = .ok ds) :
    package ≠ [] ∧ ∀ d ∈ ds, d.package = package := by
  have hsplit : Path.splitShort (package ++ '/' :: rest) = (package, some rest) :=
    Path.splitShort_append_slash (Text.free_of_not_mem hfree) rest
  have hne : package ++ '/' :: rest ≠ [] := by simp
  by_cases hpackage : package = []
  · rw [below_of_no_package hne (by rw [hsplit]; exact hpackage)] at h
    cases h
  · refine ⟨hpackage, fun d hd => ?_⟩
    rw [below_of_package (by rw [hsplit]; exact hpackage), hsplit] at h
    have hmem := (mem_select_iff hs (Candidate.mapError_eq_ok_iff.mp h)).2
    have hsatisfies := ((hmem d).mp hd).2
    cases rest with
    | nil => exact satisfies_package_iff.mp hsatisfies
    | cons b rest =>
      exact satisfies_package_iff.mp
        (Document.satisfies_all_iff.mp hsatisfies _ List.mem_cons_self)

/-- Nothing that is below a name with a slash is of the package of that name. -/
theorem package_ne_of_below (hs : t.store.Sound) (hslash : '/' ∈ name)
    (h : t.below (some name) = .ok ds) : ∀ d ∈ ds, d.package ≠ name := by
  obtain ⟨package, rest, hfree, rfl⟩ := Text.exists_eq_append_mark hslash
  have hnot : '/' ∉ package := fun hmem => absurd (hfree _ hmem) (by decide)
  obtain ⟨-, hpackages⟩ := package_of_below hs hnot h
  intro d hd hname
  rw [hpackages d hd] at hname
  simp at hname

end Table

/-! ### The command in a session -/

namespace Session

/-- What is said when a package was removed, given the number of its documents. -/
def farewell (name : Text) (count : Nat) : Text :=
  styled "yellow" "Removed package:".toList ++ ' ' :: (name ++ " (".toList ++
    Text.ofNat count ++ " documents)".toList)

theorem isStyle_yellow : Markup.IsStyle "yellow".toList where
  opens := ⟨'y', "ellow".toList, rfl, by decide, by decide⟩
  free := by simp [Markup.isBracket]
  visible := by decide

/-- A name without a slash can be told. -/
theorem exists_plain_farewell {name : Text} (hfree : '/' ∉ name) (count : Nat) :
    ∃ x, Markup.plain (farewell name count) = .ok x := by
  refine Markup.exists_plain_styled isStyle_yellow (by simp) ?_
  simp [hfree, Text.not_mem_ofNat]

/-- The documents in the order in which they are removed. -/
def removalOrder (name : Text) (ds : List Document) : List Document :=
  if name.isEmpty then ds else inOrder ds

theorem removalOrder_perm (name : Text) (ds : List Document) : (removalOrder name ds).Perm ds := by
  unfold removalOrder
  split
  · exact List.Perm.refl ds
  · exact sortBy_perm _ ds

variable {s : Session} {su : Surroundings} {name : Text} {tree : FileTree}

/-- The command saves the configuration before it asks for documents. -/
theorem course_removePackage_eq (hregistered : (s.config.findPackage? name).isSome = true)
    (hsaves : (s.config.without name).save s.tree su.home.configPath = .ok tree) :
    course (removePackage su name) s =
      course (do
        let ds ← ask (fun t => t.below (some name))
        for d in removalOrder name ds do removeDocument d.path
        say (farewell name ds.length)) { s with config := s.config.without name, tree } := by
  have hnone : (s.config.findPackage? name).isNone = false := by
    rw [← Option.not_isSome, hregistered]
    rfl
  rw [removePackage, course_bind_of_ok course_get]
  dsimp only
  rw [hnone, if_neg Bool.false_ne_true]
  exact course_bind_of_ok (course_saveConfig hsaves)

/-- **All that the command does in a session** at which a package is registered and the
configuration can be saved. -/
theorem course_removePackage (hready : s.table.access = .ready) (hs : s.table.store.Reachable)
    (hregistered : (s.config.findPackage? name).isSome = true)
    (hsaves : (s.config.without name).save s.tree su.home.configPath = .ok tree) :
    ∃ result s', course (removePackage su name) s = (result, s') ∧ s'.tree = tree ∧
      Table.Thins s.table s'.table ∧
      match s.table.below (some name) with
      | .error e => result = .error (.failed e)
      | .ok ds =>
        (∀ d, d ∈ s'.table.store.documents ↔ d ∈ s.table.store.documents ∧ d ∉ ds) ∧
          ((∃ x, Markup.plain (farewell name ds.length) = .ok x) → result = .ok ()) := by
  rw [course_removePackage_eq hregistered hsaves]
  cases hbelow : s.table.below (some name) with
  | error e =>
    have hask : course (ask (fun t => t.below (some name)))
        { s with config := s.config.without name, tree } =
          (.error (.failed e), { s with config := s.config.without name, tree }) := by
      rw [course_ask]
      dsimp only
      rw [hbelow]
    exact ⟨_, _, course_bind_of_error hask, rfl, Table.Thins.refl _, rfl⟩
  | ok ds =>
    have hask : course (ask (fun t => t.below (some name)))
        { s with config := s.config.without name, tree } =
          (.ok ds, { s with config := s.config.without name, tree }) := by
      rw [course_ask]
      dsimp only
      rw [hbelow]
    obtain ⟨hnodup, hstored⟩ := Table.stored_of_below hs.sound hbelow
    have hperm := removalOrder_perm name ds
    obtain ⟨t', hremoves, hthins, hmem⟩ := Table.exists_removeEach hready hs
      (fun d hd => hstored d (hperm.mem_iff.mp hd)) (hperm.nodup_iff.mpr hnodup)
    obtain ⟨notices, hloop⟩ :=
      course_removeEach (s := { s with config := s.config.without name, tree }) hremoves
    rw [course_bind_of_ok hask, course_bind_of_ok hloop, course_say]
    -- the order in which the documents are removed is of no matter
    have hdocuments : ∀ d, d ∈ t'.store.documents ↔ d ∈ s.table.store.documents ∧ d ∉ ds := by
      intro d
      rw [hmem, hperm.mem_iff]
    cases hdisplay : Markup.display s.gallery (farewell name ds.length) with
    | ok x => exact ⟨_, _, rfl, rfl, hthins, hdocuments, fun _ => rfl⟩
    | error e =>
      refine ⟨_, _, rfl, rfl, hthins, hdocuments, fun hshown => ?_⟩
      obtain ⟨x, hx⟩ := Markup.exists_display_iff.mpr hshown
      rw [hdisplay] at hx
      cases hx

end Session

/-! ### The command at a site -/

namespace Pool

variable {p : Pool} {connection n : Nat} {store : Store} {t : Table}

/-- A connection sees what its database has made final, when no transaction is open. -/
theorem table_eq (hconnected : p.database? connection = some n)
    (hstored : p.databases[n]? = some { committed := store }) :
    p.table connection = { store := store } := by
  rw [table, hconnected]
  dsimp only
  rw [hstored]
  rfl

/-- What a connection leaves outside of a transaction is made final. -/
theorem databases_close_keep (hconnected : p.database? connection = some n)
    (hstored : p.databases[n]? = some { committed := store }) (hready : t.access = .ready)
    (hclosed : t.saved = none) :
    ((p.keep connection t).close connection).databases[n]? = some { committed := t.store } := by
  have hkeep : p.keep connection t = p.change n (·.settle connection t) := by
    rw [keep, hconnected]
  have hsettle : ({ committed := store } : Database).settle connection t =
      { committed := t.store } := by
    rw [Database.settle, hready]
    dsimp only
    rw [hclosed]
  have hdatabase : (p.change n (·.settle connection t)).database? connection = some n := hconnected
  rw [hkeep, close, hdatabase]
  dsimp only [change]
  rw [List.getElem?_modify_eq, List.getElem?_modify_eq, hstored]
  simp only [Option.map_eq_map, Option.map_some, hsettle]
  rfl

end Pool

/-- The ending of a command line, given the result of its command. -/
def Ending.ofResult : Except Stop Unit → Ending
  | .ok () => done
  | .error .refused => refused
  | .error (.failed e) => failed e

namespace Site

variable {site : Site} {su : Surroundings} {config : AppConfig} {connection fileSize : Nat}
  {invocation : Invocation} {name : Text} {n : Nat} {store : Store}

/-- A site at which the command may do its work: it is asked for a package that is registered, the
configuration can be saved, and the database is open and in no transaction. -/
structure Removing (site : Site) (su : Surroundings) (config : AppConfig) (connection : Nat)
    (invocation : Invocation) (name : Text) (n : Nat) (store : Store) : Prop where
  asked : invocation.verb.read invocation.words = .ok (.remove name)
  level : ∃ threshold,
    Level.rank ((nonEmpty? invocation.logLevel).getD config.logLevel) = .ok threshold
  registered : (config.findPackage? name).isSome = true
  saves : ∃ tree, (config.without name).save site.tree su.home.configPath = .ok tree
  connected : site.pool.database? connection = some n
  stored : site.pool.databases[n]? = some { committed := store }
  reachable : store.Reachable

/-- What is asked of the command: it ends well, the package is no longer registered while the others
are, in their order, its documents are gone, and those of every other package are as they were. -/
structure Unregistered (site : Site) (su : Surroundings) (config : AppConfig) (name : Text)
    (n : Nat) (store : Store) (result : Site × Outcome) : Prop where
  ended : result.2.ending.code = 0
  saved : ∃ config' : AppConfig, config'.save site.tree su.home.configPath = .ok result.1.tree ∧
    config'.findPackage? name = none ∧
    config'.packages = config.packages.filter (fun p => p.name != name)
  removed : ∃ store', result.1.pool.databases[n]? = some { committed := store' } ∧
    (∀ d ∈ store'.documents, d.package ≠ name) ∧
    ∀ d, d.package ≠ name → (d ∈ store'.documents ↔ d ∈ store.documents)

/-- A command line is carried out in a session of its own. -/
theorem perform_eq {threshold : Nat} {command : Command} {result : Except Stop Unit} {s' : Session}
    (hlevel : Level.rank ((nonEmpty? invocation.logLevel).getD config.logLevel) = .ok threshold)
    (hasked : invocation.verb.read invocation.words = .ok command)
    (hcourse : Session.course (command.perform su)
      { gallery := site.gallery, tree := site.tree, config, table := site.pool.table connection,
        threshold, fileSize } = (result, s')) :
    site.perform su config connection fileSize invocation =
      ({ site with
          tree := s'.tree, pool := (site.pool.keep connection s'.table).close connection },
        ⟨Ending.ofResult result, s'.output, s'.notices⟩) := by
  rw [perform, hlevel]
  dsimp only
  rw [hasked]
  dsimp only
  rw [Session.course] at hcourse
  rw [hcourse]
  rfl

/-- **What is left of a site after the command.** -/
theorem Removing.perform (h : Removing site su config connection invocation name n store)
    (fileSize : Nat) :
    ∃ site' outcome, site.perform su config connection fileSize invocation = (site', outcome) ∧
      (config.without name).save site.tree su.home.configPath = .ok site'.tree ∧
      ∃ store', site'.pool.databases[n]? = some { committed := store' } ∧
        match ({ store := store } : Table).below (some name) with
        | .error _ => outcome.ending.code = 1
        | .ok ds => (∀ d, d ∈ store'.documents ↔ d ∈ store.documents ∧ d ∉ ds) ∧
          ((∃ x, Markup.plain (Session.farewell name ds.length) = .ok x) →
            outcome.ending.code = 0) := by
  obtain ⟨threshold, hlevel⟩ := h.level
  obtain ⟨tree, hsaves⟩ := h.saves
  have htable := Pool.table_eq h.connected h.stored
  obtain ⟨result, s', hcourse, htree, hthins, hends⟩ := Session.course_removePackage
    (s := { gallery := site.gallery, tree := site.tree, config, table := { store := store },
            threshold, fileSize })
    rfl h.reachable h.registered hsaves
  -- the session starts on the table of the database
  rw [← htable] at hcourse
  refine ⟨_, _, perform_eq hlevel h.asked hcourse, ?_, s'.table.store, ?_, ?_⟩
  · rw [htree]
    exact hsaves
  · exact Pool.databases_close_keep h.connected h.stored hthins.access hthins.saved
  · cases hbelow : ({ store := store } : Table).below (some name) with
    | error e =>
      rw [hbelow] at hends
      rw [hends]
      rfl
    | ok ds =>
      rw [hbelow] at hends
      refine ⟨hends.1, fun hshown => ?_⟩
      rw [hends.2 hshown]
      rfl

/-- The command does what it is asked for a name that is not empty and has no slash. -/
theorem unregistered_of_removing (hne : name ≠ []) (hfree : '/' ∉ name)
    (h : Removing site su config connection invocation name n store) :
    Unregistered site su config name n store
      (site.perform su config connection fileSize invocation) := by
  obtain ⟨site', outcome, hperform, hsaved, store', hstored, hends⟩ := h.perform fileSize
  obtain ⟨ds, hbelow, hmem⟩ := Table.mem_below_iff (t := { store := store }) nofun
    h.reachable.sound hne hfree
  rw [hbelow] at hends
  obtain ⟨hkept, hended⟩ := hends
  rw [hperform]
  refine ⟨hended (Session.exists_plain_farewell hfree ds.length),
    ⟨config.without name, hsaved, AppConfig.findPackage?_without, rfl⟩, store', hstored,
    fun d hd hpackage => ?_, fun d hpackage => ?_⟩
  · obtain ⟨hmember, hnot⟩ := (hkept d).mp hd
    exact hnot ((hmem d).mpr ⟨hmember, hpackage⟩)
  · rw [hkept, hmem]
    exact ⟨And.left, fun hd => ⟨hd, fun hin => hpackage hin.2⟩⟩

/-! ### Names that stand for other documents -/

/-- A store with one document, of a given package. -/
def storeOf (package : Text) : Store :=
  let d : Document := ⟨⟨['/', 'p'], package, ['p'], [], .number (.ofInt 0), []⟩, 1⟩
  { documents := [d], index := [d.indexRow], lastId := 1 }

theorem reachable_storeOf (package : Text) : (storeOf package).Reachable := by
  have hinsert : ({} : Store).insert [(.path, .text ['/', 'p']), (.package, .text package),
      (.restpath, .text ['p']), (.content, .text []), (.timestamp, .integer 0)] =
        .ok (storeOf package) := by rfl
  exact .insert .empty hinsert

/-- A site with an empty tree and one database. -/
def siteOf (store : Store) : Site :=
  { tree := FileTree.empty
    pool := { databases := [{ committed := store }], connections := [some 0] } }

/-- The surroundings of a user at `/tmp`. -/
def atTmp : Surroundings := ⟨⟨none, "/tmp".toList⟩, Detector.constant none⟩

/-- A configuration with one package. -/
def configOf (name : Text) : AppConfig := ⟨"i.db".toList, "warning".toList, [⟨name, [], [], []⟩]⟩

/-- The words that ask for the removal of a package, whatever its name. -/
def removal (name : Text) : Invocation := ⟨.remove, ["--".toList, name], none⟩

theorem removing_siteOf (name : Text) {store : Store} (hs : store.Reachable) :
    Removing (siteOf store) atTmp (configOf name) 0 (removal name) name 0 store where
  asked := rfl
  level := ⟨_, rfl⟩
  registered := by simp [AppConfig.findPackage?, configOf]
  saves := by
    have hwithout : (configOf name).without name = ⟨"i.db".toList, "warning".toList, []⟩ := by
      simp [AppConfig.without, configOf]
    have hsaves : (AppConfig.save ⟨"i.db".toList, "warning".toList, []⟩ FileTree.empty
        atTmp.home.configPath).isOk = true := by decide +kernel
    rw [hwithout]
    show ∃ tree, AppConfig.save _ FileTree.empty atTmp.home.configPath = .ok tree
    revert hsaves
    cases AppConfig.save ⟨"i.db".toList, "warning".toList, []⟩ FileTree.empty
        atTmp.home.configPath with
    | ok tree => exact fun _ => ⟨tree, rfl⟩
    | error e => nofun
  connected := rfl
  stored := rfl
  reachable := hs

/-- The empty name stands for the documents of every package. -/
theorem not_unregistered_nil :
    ¬Unregistered (siteOf (storeOf ['q'])) atTmp (configOf []) [] 0 (storeOf ['q'])
      ((siteOf (storeOf ['q'])).perform atTmp (configOf []) 0 0 (removal [])) := by
  rintro ⟨-, -, store', hstored, -, hothers⟩
  obtain ⟨site', outcome, hperform, -, store'', hstored', hends⟩ :=
    (removing_siteOf [] (reachable_storeOf ['q'])).perform 0
  rw [hperform] at hstored
  have hsame := hstored.symm.trans hstored'
  cases hsame
  have hbelow : ({ store := storeOf ['q'] } : Table).below (some []) =
      .ok (storeOf ['q']).documents := by rfl
  rw [hbelow] at hends
  obtain ⟨d, hd⟩ : ∃ d, d ∈ (storeOf ['q']).documents := ⟨_, List.mem_singleton_self _⟩
  have hpackage : d.package ≠ [] := by
    rw [List.mem_singleton.mp hd]
    exact List.cons_ne_nil _ _
  exact ((hends.1 d).mp ((hothers d hpackage).mpr hd)).2 hd

/-- A name with a slash does not stand for the documents of its package. -/
theorem not_unregistered_of_slash {name : Text} (hslash : '/' ∈ name) :
    ¬Unregistered (siteOf (storeOf name)) atTmp (configOf name) name 0 (storeOf name)
      ((siteOf (storeOf name)).perform atTmp (configOf name) 0 0 (removal name)) := by
  rintro ⟨hended, -, store', hstored, hgone, -⟩
  obtain ⟨site', outcome, hperform, -, store'', hstored', hends⟩ :=
    (removing_siteOf name (reachable_storeOf name)).perform 0
  rw [hperform] at hended hstored
  have hsame := hstored.symm.trans hstored'
  cases hsame
  cases hbelow : ({ store := storeOf name } : Table).below (some name) with
  | error e =>
    rw [hbelow] at hends
    rw [hends] at hended
    cases hended
  | ok ds =>
    rw [hbelow] at hends
    obtain ⟨d, hd, hpackage⟩ : ∃ d, d ∈ (storeOf name).documents ∧ d.package = name :=
      ⟨_, List.mem_singleton_self _, rfl⟩
    have hnot : d ∉ ds := fun hin =>
      Table.package_ne_of_below (reachable_storeOf name).sound hslash hbelow d hin hpackage
    exact hgone d ((hends.1 d).mpr ⟨hd, hnot⟩) hpackage

/-- A tree with two directories, `/p` with a file `x` and `/q` with a file `b`. -/
def twoDirectories : FileTree :=
  ⟨FileTree.empty.entries ++
    [([[0x70]], .directory 0), ([[0x70], [0x78]], .file (.octets []) 1000),
      ([[0x71]], .directory 0), ([[0x71], [0x62]], .file (.octets []) 1000)]⟩

/-- What command lines leave of a site, one after the other. -/
def afterLines (site : Site) (su : Surroundings) (lines : List (List String)) : Site :=
  lines.foldl (fun site words => (site.run su (words.map String.toList)).1) site

/-- The packages and the rest paths of all documents. -/
def rows (site : Site) : List (Text × Text) :=
  site.pool.databases.flatMap
    (fun database => database.committed.documents.map (fun d => (d.package, d.restpath)))

/-- The names of the packages that the configuration file registers. -/
def names? (site : Site) (home : Home) : Option (List Text) :=
  (AppConfig.load home site.tree home.configPath).toOption.map (fun c => c.packages.map (·.name))

/-- A site at which `/q` is registered as `a`, and `/p` as `a/b`. -/
def slashed : Site :=
  afterLines { tree := twoDirectories } atTmp
    [["add", "/q", "--name", "a"], ["add", "/p", "--name", "a/b"]]

end Site

end PackageCatalog
