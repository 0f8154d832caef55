import PackageCatalog.Proofs.Command.Printing
import PackageCatalog.Proofs.Command.Removal
import PackageCatalog.Proofs.Command.Stopping

/-!
# What gets out of a command

Failures of the catalogue and of the system are to be told.  Most commands tell all of them.  The
others let one out when the configuration cannot be saved, when a package is removed whose name
starts with a slash, when a listed date is beyond the calendar of the system, and when a cleanup
comes to a path that it may not look at; and only then.

## Main definitions

* `Session.Escapes` — a failure that is to be told gets out of an action.
* `Session.Unsavable`, `Session.Blocked` — why a configuration is not saved, why a cleanup stops.
* `Session.Sweeps` — a sweep that goes over documents and comes to an end.
* `Command.LetsOut` — when a command lets a failure out.
* `Outcome.Guarded` — what is asked of a command line.

## Main results

* `Session.escapes_saveConfig_bind` — what saving the configuration lets out.
* `Session.escapes_removal_iff` — what the removal of the documents of a name lets out.
* `Session.sweeps_course` — the run of a sweep, step by step.
* `Session.escapes_sweepEach_iff` — **a sweep lets a failure out when it is blocked.**
* `Session.escapes_perform_iff` — **when a failure gets out of a command.**
* `Site.guarded_iff` — **when a command line is as it is asked to be.**
-/

namespace PackageCatalog

namespace Session

variable {α β : Type} {s s' : Session} {su : Surroundings}

/-! ### Failures that get out -/

/-- A failure that is to be told gets out of an action. -/
def Escapes (a : Action α) (s : Session) : Prop :=
  ∃ e, (course a s).1 = .error (.failed e) ∧ e.isTold = true

theorem escapes_bind_of_ok {a : Action α} {f : α → Action β} {x : α}
    (h : course a s = (.ok x, s')) : Escapes (a >>= f) s ↔ Escapes (f x) s' := by
  rw [Escapes, Escapes, course_bind_of_ok h]

theorem escapes_bind_of_error {a : Action α} {f : α → Action β} {e : Failure}
    (h : course a s = (.error (.failed e), s')) : Escapes (a >>= f) s ↔ e.isTold = true := by
  rw [Escapes, course_bind_of_error h]
  constructor
  · rintro ⟨e', ⟨⟩, htold⟩
    exact htold
  · exact fun htold => ⟨e, rfl, htold⟩

theorem Stops.not_escapes {a : Action α} (ha : Stops Stop.Caught a)
    (hs : s.table.store.Reachable) : ¬Escapes a s := by
  rintro ⟨e, he, htold⟩
  have hcourse : course a s = (.error (.failed e), (course a s).2) := Prod.ext he rfl
  have hcaught : e.isTold = false := ha.stop hs hcourse
  rw [htold] at hcaught
  cases hcaught

/-! ### Actions that stop -/

/-- An action that stops, without letting out a failure that is to be told. -/
theorem not_escapes_bind {a : Action α} {f : α → Action β} (ha : ¬Escapes a s)
    (hstops : ∀ x, (course a s).1 ≠ .ok x) : ¬Escapes (a >>= f) s := by
  cases hcourse : course a s with
  | mk r s' =>
    cases r with
    | ok x => exact absurd (congrArg Prod.fst hcourse) (hstops x)
    | error stop =>
      rw [Escapes, course_bind_of_error hcourse]
      rintro ⟨e, ⟨⟩, htold⟩
      exact ha ⟨e, by rw [hcourse], htold⟩

theorem not_escapes_refuse (t : Text) : ¬Escapes (refuse t : Action α) s := by
  rw [Escapes, course_refuse]
  cases Markup.display s.gallery t with
  | ok x => exact nofun
  | error e =>
    rintro ⟨e', ⟨⟩, htold⟩
    cases htold

theorem not_escapes_refuse_bind (t : Text) (f : α → Action β) : ¬Escapes (refuse t >>= f) s := by
  refine not_escapes_bind (not_escapes_refuse t) (fun x => ?_)
  rw [course_refuse]
  cases Markup.display s.gallery t <;> exact nofun

theorem not_escapes_say (t : Text) : ¬Escapes (say t) s := by
  rw [Escapes, course_say]
  cases Markup.display s.gallery t with
  | ok x => exact nofun
  | error e =>
    rintro ⟨e', ⟨⟩, htold⟩
    cases htold

/-- What is done after an action and lets nothing out. -/
theorem escapes_bind_iff {a : Action α} {f : α → Action β} (hf : ∀ x s', ¬Escapes (f x) s') :
    Escapes (a >>= f) s ↔ Escapes a s := by
  cases hcourse : course a s with
  | mk r s' =>
    cases r with
    | ok x =>
      rw [escapes_bind_of_ok hcourse]
      refine iff_of_false (hf x s') ?_
      rintro ⟨e, he, -⟩
      rw [hcourse] at he
      cases he
    | error stop =>
      rw [Escapes, Escapes, course_bind_of_error hcourse, hcourse]
      constructor
      · rintro ⟨e, ⟨⟩, htold⟩
        exact ⟨e, rfl, htold⟩
      · rintro ⟨e, ⟨⟩, htold⟩
        exact ⟨e, rfl, htold⟩

/-! ### Saving the configuration -/

theorem course_saveConfig_of_error {home : Home} {config : AppConfig} {e : FileError}
    (h : config.save s.tree home.configPath = .error e) :
    course (saveConfig home config) s = (.error (.failed (.file e)), { s with config }) := by
  have hattempt : course (attempt ((config.save s.tree home.configPath).mapError .file))
      { s with config } = (.error (.failed (.file e)), { s with config }) := by
    rw [h]
    rfl
  rw [saveConfig, course_bind_of_ok (course_modify _), course_bind_of_ok course_get]
  exact course_bind_of_error hattempt

/-- The system does not let a configuration be saved. -/
def Unsavable (su : Surroundings) (tree : FileTree) (config : AppConfig) : Prop :=
  ∃ errno name, config.save tree su.home.configPath = .error (.system errno name)

theorem isTold_file_iff {e : FileError} :
    (Failure.file e).isTold = true ↔ ∃ errno name, e = .system errno name := by
  cases e with
  | system errno name => exact iff_of_true rfl ⟨errno, name, rfl⟩
  | embeddedNul => exact iff_of_false nofun (by rintro ⟨_, _, ⟨⟩⟩)
  | unencodable => exact iff_of_false nofun (by rintro ⟨_, _, ⟨⟩⟩)

/-- What is done after a configuration was saved lets something out, or the saving does. -/
theorem escapes_saveConfig_bind {config : AppConfig} {f : Unit → Action α} :
    Escapes (saveConfig su.home config >>= f) s ↔ Unsavable su s.tree config ∨
      ∃ tree, config.save s.tree su.home.configPath = .ok tree ∧
        Escapes (f ()) { s with config, tree } := by
  cases hsave : config.save s.tree su.home.configPath with
  | error e =>
    rw [escapes_bind_of_error (course_saveConfig_of_error hsave), isTold_file_iff]
    simp [Unsavable, hsave]
  | ok tree =>
    rw [escapes_bind_of_ok (course_saveConfig hsave)]
    simp [Unsavable, hsave]

/-! ### Commands that let failures out -/

/-- The package that the registration of a directory makes. -/
def newPackage (full : Text) (name : Option Text) (glob : Text) (ignore : List Text) :
    PackageConfig :=
  ⟨(nonEmpty? name).getD (Path.baseName (Path.collapse full)), full, glob, ignore⟩

/-- A configuration with one more package. -/
def withPackage (config : AppConfig) (p : PackageConfig) : AppConfig :=
  { config with packages := config.packages ++ [p] }

/-- The registration of a package lets a failure out when the configuration cannot be saved. -/
theorem escapes_addPackage_iff (hs : s.table.store.Reachable) {path glob : Text}
    {name : Option Text} {ignore : List Text} :
    Escapes (addPackage su path name glob ignore) s ↔
      let full := Path.absolute "/tmp/pkgx".toList path
      let p := newPackage full name glob ignore
      isDirectory s.tree full = true ∧ s.config.findPackage? p.name = none ∧
        Unsavable su s.tree (withPackage s.config p) := by
  rw [addPackage, escapes_bind_of_ok course_get]
  -- nothing depends on how the path is made absolute
  generalize Path.absolute "/tmp/pkgx".toList path = full
  dsimp only
  split
  · next hdirectory =>
    refine iff_of_false (not_escapes_refuse_bind _ _) (fun h => ?_)
    rw [h.1] at hdirectory
    cases hdirectory
  · next hdirectory =>
    have hfull : isDirectory s.tree full = true := by simpa using hdirectory
    split
    · next hsome =>
      refine iff_of_false (not_escapes_refuse_bind _ _) (fun h => ?_)
      rw [show s.config.findPackage? ((nonEmpty? name).getD _) = none from h.2.1] at hsome
      cases hsome
    · next hnone =>
      have hfree : s.config.findPackage? (newPackage full name glob ignore).name = none :=
        Option.not_isSome_iff_eq_none.mp hnone
      rw [escapes_saveConfig_bind]
      constructor
      · rintro (h | ⟨tree, -, h⟩)
        · exact ⟨hfull, hfree, h⟩
        · refine absurd h (Stops.not_escapes ((allows_caught.say _).bind fun _ =>
            allows_caught.index "" (by simp) (by decide) _) ?_)
          exact hs
      · exact fun h => Or.inl h.2.2

/-- The documents below a name are removed without letting a failure out, unless the name starts
with a slash. -/
theorem escapes_removal_iff (hready : s.table.access = .ready) (hs : s.table.store.Reachable)
    {name : Text} :
    Escapes (do
      let ds ← ask (fun t => t.below (some name))
      for d in removalOrder name ds do removeDocument d.path
      say (farewell name ds.length)) s ↔ ∃ rest, name = '/' :: rest := by
  have htold := Table.isTold_below_iff s.table (some name)
  simp only [Option.some.injEq] at htold
  rw [← htold]
  cases hbelow : s.table.below (some name) with
  | error e =>
    rw [escapes_bind_of_error (course_ask_of_error hbelow)]
    exact ⟨fun h => ⟨e, rfl, h⟩, fun ⟨e', he, h⟩ => Except.error.inj he ▸ h⟩
  | ok ds =>
    obtain ⟨hnodup, hstored⟩ := Table.stored_of_below hs.sound hbelow
    have hperm := removalOrder_perm name ds
    obtain ⟨t', hremoves, hthins, -⟩ := Table.exists_removeEach hready hs
      (fun d hd => hstored d (hperm.mem_iff.mp hd)) (hperm.nodup_iff.mpr hnodup)
    obtain ⟨notices, hloop⟩ := course_removeEach hremoves
    rw [escapes_bind_of_ok (course_ask_of_ok hbelow), escapes_bind_of_ok hloop]
    refine iff_of_false (not_escapes_say _) (fun ⟨_, he, _⟩ => nomatch he)

/-- The removal of a package lets a failure out when the configuration cannot be saved, or when the
name starts with a slash. -/
theorem escapes_removePackage_iff (hready : s.table.access = .ready)
    (hs : s.table.store.Reachable) {name : Text} :
    Escapes (removePackage su name) s ↔ (s.config.findPackage? name).isSome = true ∧
      (Unsavable su s.tree (s.config.without name) ∨
        (∃ tree, (s.config.without name).save s.tree su.home.configPath = .ok tree) ∧
          ∃ rest, name = '/' :: rest) := by
  rw [removePackage, escapes_bind_of_ok course_get]
  dsimp only
  cases s.config.findPackage? name with
  | none => exact iff_of_false (not_escapes_refuse_bind _ _) (by rintro ⟨⟨⟩, -⟩)
  | some p =>
    refine escapes_saveConfig_bind.trans ?_
    rw [and_iff_right Option.isSome_some]
    refine or_congr_right ?_
    rw [← exists_and_right]
    refine exists_congr (fun tree => and_congr_right fun _ => ?_)
    exact escapes_removal_iff (s := { s with config := s.config.without name, tree }) hready hs

theorem escapes_setConfiguration_iff {key value : Text} :
    Escapes (setConfiguration su key value) s ↔
      ∃ config, withSetting s.config key value = some config ∧ Unsavable su s.tree config := by
  rw [setConfiguration, escapes_bind_of_ok course_get]
  cases withSetting s.config key value with
  | none => exact iff_of_false (not_escapes_refuse _) (fun ⟨_, h, _⟩ => nomatch h)
  | some config =>
    refine escapes_saveConfig_bind.trans ?_
    constructor
    · rintro (h | ⟨tree, -, h⟩)
      · exact ⟨config, rfl, h⟩
      · exact absurd h (not_escapes_say _)
    · rintro ⟨_, ⟨⟩, h⟩
      exact Or.inl h

/-! ### Listings -/

theorem exists_of_mapM_eq_error {γ δ : Type} {f : γ → Except Failure δ} {e : Failure} :
    ∀ {l : List γ}, l.mapM f = .error e → ∃ x ∈ l, f x = .error e := by
  intro l
  induction l with
  | nil => intro h; cases h
  | cons x l ih =>
    intro h
    rw [List.mapM_cons] at h
    rcases Candidate.bind_eq_error_iff.mp h with h | ⟨y, -, h⟩
    · exact ⟨x, List.mem_cons_self, h⟩
    · rcases Candidate.bind_eq_error_iff.mp h with h | ⟨ys, -, h⟩
      · obtain ⟨x', hx', h'⟩ := ih h
        exact ⟨x', List.mem_cons_of_mem x hx', h'⟩
      · cases h

/-- What makes a listing of sizes and dates fail is told only when the calendar of the system does
not reach a date. -/
theorem isTold_of_sizeListing {ds : List Document} {e : Failure}
    (h : sizeListing ds = .error e) : e.isTold = true ↔ e = .clock .calendarOverflow := by
  refine ⟨fun htold => ?_, by rintro rfl; rfl⟩
  rcases Candidate.bind_eq_error_iff.mp h with h | ⟨rows, -, h⟩
  · obtain ⟨d, -, hd⟩ := exists_of_mapM_eq_error h
    rcases Candidate.bind_eq_error_iff.mp hd with h | ⟨size, -, h⟩
    · rw [isTold_of_sizeText h] at htold
      cases htold
    · rcases Candidate.bind_eq_error_iff.mp h with h | ⟨clock, -, h⟩
      · unfold Cell.clock at h
        split at h
        · next x _ =>
          cases hclock : clockText x with
          | ok t =>
            rw [hclock] at h
            cases h
          | error e' =>
            rw [hclock] at h
            cases h
            cases e' with
            | calendarOverflow => rfl
            | _ => cases htold
        · cases h
          cases htold
      · cases h
  · cases h

/-- The listing of documents lets a failure out when a time of change is beyond the calendar of the
system. -/
theorem escapes_listDocuments_iff (hs : s.table.store.Reachable) {shortpath : Option Text} :
    Escapes (listDocuments shortpath) s ↔ ∃ ds, s.table.below shortpath = .ok ds ∧
      sizeListing (inOrder ds) = .error (.clock .calendarOverflow) := by
  rw [listDocuments, escapes_bind_of_ok course_get]
  cases hbelow : s.table.below shortpath with
  | error e =>
    refine iff_of_false (not_escapes_bind ((allows_caught.orRefuse _).not_escapes hs)
      (fun ds => ?_))
      (fun ⟨_, h, _⟩ => nomatch h)
    unfold orRefuse
    dsimp only
    split
    · rw [course_refuse]
      cases Markup.display s.gallery (errorText e.message) <;> exact nofun
    · exact nofun
  | ok ds =>
    have hfound : course (orRefuse (Except.ok ds)) s = (.ok ds, s) := rfl
    rw [escapes_bind_of_ok hfound]
    cases ds with
    | nil => exact iff_of_false (not_escapes_say _) (by rintro ⟨_, ⟨⟩, ⟨⟩⟩)
    | cons d ds =>
      rw [List.isEmpty_cons, if_neg Bool.false_ne_true]
      -- of what is found only a time of change that is no date can stop the listing
      cases hlisting : sizeListing (inOrder (d :: ds)) with
      | ok g =>
        refine iff_of_false ((allows_caught.showGrid g).not_escapes hs) ?_
        rintro ⟨_, ⟨⟩, h⟩
        rw [hlisting] at h
        cases h
      | error e =>
        rw [escapes_bind_of_error (course_attempt (Except.error e)), isTold_of_sizeListing hlisting]
        constructor
        · rintro rfl
          exact ⟨_, rfl, hlisting⟩
        · rintro ⟨_, ⟨⟩, h⟩
          exact Except.error.inj (hlisting.symm.trans h)

/-! ### The cleanup -/

/-- What is said of a document that is removed. -/
def removalLine (d : Document) : Text :=
  "  ".toList ++ styled "dim" "removed".toList ++ ' ' :: d.shortpath

/-- A sweep comes to a document whose file the system does not let it look at. -/
inductive Blocked (tree : FileTree) : List Document → Prop
  | here {d : Document} {ds : List Document} {errno : Errno} {name : NativeName} :
    isGone tree d.path = .error (.file (.system errno name)) → Blocked tree (d :: ds)
  /-- The file of a document before it is there. -/
  | passed {d : Document} {ds : List Document} : d.Present tree → Blocked tree ds →
    Blocked tree (d :: ds)
  /-- A document before it is removed, and that can be said. -/
  | removed {d : Document} {ds : List Document} {x : Text} : d.gone tree = true →
    Markup.plain (removalLine d) = .ok x → Blocked tree ds → Blocked tree (d :: ds)

section Sweep

variable {tree : FileTree} {d : Document} {ds : List Document} {t' : Table}

/-- A sweep stops at a document at which the system does not let it look. -/
theorem course_sweepDocument_of_failure {e : Failure} (h : isGone s.tree d.path = .error e) :
    ∃ notices, course (sweepDocument d) s = (.error (.failed e), { s with notices }) := by
  have hsweep : s.table.sweep s.tree [d] = ⟨s.table, [], [], some e⟩ := by
    rw [Table.sweep, h]
  rw [sweepDocument, course_bind_of_ok course_get]
  dsimp only
  rw [hsweep]
  exact ⟨_, rfl⟩

/-- A sweep passes over a document whose file is there. -/
theorem course_sweepDocument_of_present (h : d.Present s.tree) :
    ∃ notices, course (sweepDocument d) s = (.ok 0, { s with notices }) := by
  have hsweep : s.table.sweep s.tree [d] = ⟨s.table, [], [], none⟩ := by
    rw [Table.sweep, isGone_eq_false_iff.mpr h]
    rfl
  rw [sweepDocument, course_bind_of_ok course_get]
  dsimp only
  rw [hsweep]
  exact ⟨_, rfl⟩

theorem course_sayRemoval : course (forIn [d] PUnit.unit (fun d _ => do
      say (removalLine d)
      pure (ForInStep.yield PUnit.unit))) s = course (say (removalLine d)) s := by
  rw [List.forIn_cons, course_bind, course_bind, course_say]
  cases Markup.display s.gallery (removalLine d) <;> rfl

/-- A document whose file is gone is removed when that could be said. -/
theorem course_sweepDocument_of_gone (h : d.gone s.tree = true)
    (hremove : s.table.remove d.path = .ok t') :
    match Markup.display s.gallery (removalLine d) with
    | .ok x => ∃ notices, course (sweepDocument d) s =
        (.ok 1, { s.printing [Layout.page x] with table := t', notices })
    | .error e => course (sweepDocument d) s = (.error (.failed (.badMarkup e)), s) := by
  have hsweep : s.table.sweep s.tree [d] = ⟨t', [d], [d], none⟩ := by
    rw [Table.sweep, isGone_eq_true_iff.mpr h, hremove]
    rfl
  have hloop := course_sayRemoval (s := s) (d := d)
  rw [course_say] at hloop
  rw [sweepDocument, course_bind_of_ok course_get]
  dsimp only
  rw [hsweep]
  cases hdisplay : Markup.display s.gallery (removalLine d) with
  | ok x =>
    rw [hdisplay] at hloop
    exact ⟨_, course_bind_of_ok hloop⟩
  | error e =>
    rw [hdisplay] at hloop
    exact course_bind_of_error hloop

/-- The rest of a sweep, with the number of documents that were removed before. -/
theorem course_sweepEach_counted (n : Nat) (ds : List Document) (s : Session) :
    course (do let m ← sweepEach ds; return n + m) s =
      ((course (sweepEach ds) s).1.map (n + ·), (course (sweepEach ds) s).2) := by
  rw [course_bind]
  cases course (sweepEach ds) s with
  | mk result s' => cases result <;> rfl

/-- The run of a sweep over documents.  It stops at a document when it is not known whether its file
is there, and when its removal cannot be told; a removal is not refused. -/
inductive Sweeps : Session → List Document → Except Stop Nat × Session → Prop
  | done (s : Session) : Sweeps s [] (.ok 0, s)
  | failed {s : Session} {d : Document} {e : Failure} (ds : List Document) (notices : List Notice)
      (hfailed : isGone s.tree d.path = .error e) :
      Sweeps s (d :: ds) (.error (.failed e), { s with notices })
  | passed {s : Session} {d : Document} {ds : List Document} {run : Except Stop Nat × Session}
      {notices : List Notice} (hpresent : d.Present s.tree)
      (hrest : Sweeps { s with notices } ds run) :
      Sweeps s (d :: ds) (run.1.map (0 + ·), run.2)
  | untold {s : Session} {d : Document} {f : Markup.Fault} (ds : List Document)
      (hgone : d.gone s.tree = true)
      (hdisplay : Markup.display s.gallery (removalLine d) = .error f) :
      Sweeps s (d :: ds) (.error (.failed (.badMarkup f)), s)
  | removed {s : Session} {d : Document} {ds : List Document} {run : Except Stop Nat × Session}
      {t' : Table} {x : Text} {notices : List Notice} (hgone : d.gone s.tree = true)
      (hleft : ∀ e, e ∈ t'.store.documents ↔ e ∈ s.table.store.documents ∧ e ≠ d)
      (hdisplay : Markup.display s.gallery (removalLine d) = .ok x)
      (hrest : Sweeps { s.printing [Layout.page x] with table := t', notices } ds run) :
      Sweeps s (d :: ds) (run.1.map (1 + ·), run.2)

/-- **The run of a sweep** over stored documents, on a database that takes changes. -/
theorem sweeps_course : ∀ {ds : List Document} {s : Session}, s.table.access = .ready →
    s.table.store.Reachable → (∀ d ∈ ds, d ∈ s.table.store.documents) → ds.Nodup →
      Sweeps s ds (course (sweepEach ds) s) := by
  intro ds
  induction ds with
  | nil => exact fun _ _ _ _ => .done _
  | cons d ds ih =>
    intro s hready hs hstored hnodup
    have hd := hstored d List.mem_cons_self
    have hnodup' := (List.nodup_cons.mp hnodup).2
    rw [sweepEach]
    cases hgone : isGone s.tree d.path with
    | error e =>
      obtain ⟨notices, hcourse⟩ := course_sweepDocument_of_failure hgone
      rw [course_bind_of_error hcourse]
      exact .failed ds notices hgone
    | ok gone =>
      cases gone with
      | false =>
        have hpresent := isGone_eq_false_iff.mp hgone
        obtain ⟨notices, hcourse⟩ := course_sweepDocument_of_present hpresent
        rw [course_bind_of_ok hcourse, course_sweepEach_counted]
        exact .passed hpresent (ih (s := { s with notices }) hready hs
          (fun e he => hstored e (List.mem_cons_of_mem d he)) hnodup')
      | true =>
        -- the removal is not refused, so that only the line that tells it can stop the sweep
        have htrue := isGone_eq_true_iff.mp hgone
        obtain ⟨t', hremove, -⟩ := Table.remove_path hready hs.sound hd
        have hthins := Table.thins_remove hremove
        have hcourse := course_sweepDocument_of_gone htrue hremove
        cases hdisplay : Markup.display s.gallery (removalLine d) with
        | error f =>
          rw [hdisplay] at hcourse
          rw [course_bind_of_error hcourse]
          exact .untold ds htrue hdisplay
        | ok x =>
          rw [hdisplay] at hcourse
          obtain ⟨notices, hcourse⟩ := hcourse
          rw [course_bind_of_ok hcourse, course_sweepEach_counted]
          exact .removed htrue (Table.mem_of_remove hs.sound hd hremove).1 hdisplay
            (ih (s := { s.printing [Layout.page x] with table := t', notices })
              (hthins.access.trans hready) (hthins.reachable hs)
              (Table.stored_of_remove hs.sound hstored hnodup hremove) hnodup')

/-- A document of which it is not known whether its file is there blocks a sweep at once. -/
theorem blocked_of_error_iff {e : Failure} (h : isGone tree d.path = .error e) :
    e.isTold = true ↔ Blocked tree (d :: ds) := by
  obtain ⟨e', -, rfl, -⟩ := isGone_eq_error h
  rw [isTold_file_iff]
  constructor
  · rintro ⟨errno, name, rfl⟩
    exact .here h
  · intro hblocked
    cases hblocked with
    | here h' =>
      cases h.symm.trans h'
      exact ⟨_, _, rfl⟩
    | passed hpresent => cases h.symm.trans (isGone_eq_false_iff.mpr hpresent)
    | removed hgone => cases h.symm.trans (isGone_eq_true_iff.mpr hgone)

theorem blocked_of_present_iff (h : d.Present tree) :
    Blocked tree (d :: ds) ↔ Blocked tree ds := by
  have hfalse := isGone_eq_false_iff.mpr h
  refine ⟨fun hblocked => ?_, .passed h⟩
  cases hblocked with
  | here h' => cases hfalse.symm.trans h'
  | passed _ hrest => exact hrest
  | removed hgone => cases hfalse.symm.trans (isGone_eq_true_iff.mpr hgone)

theorem blocked_of_gone_iff (h : d.gone tree = true) :
    Blocked tree (d :: ds) ↔ (∃ x, Markup.plain (removalLine d) = .ok x) ∧ Blocked tree ds := by
  have htrue := isGone_eq_true_iff.mpr h
  constructor
  · intro hblocked
    cases hblocked with
    | here h' => cases htrue.symm.trans h'
    | passed hpresent => cases htrue.symm.trans (isGone_eq_false_iff.mpr hpresent)
    | removed _ hplain hrest => exact ⟨⟨_, hplain⟩, hrest⟩
  · rintro ⟨⟨x, hplain⟩, hrest⟩
    exact .removed h hplain hrest

/-- A sweep ends with a failure that is to be told when it is blocked. -/
theorem Sweeps.isTold_iff {run : Except Stop Nat × Session} (h : Sweeps s ds run) :
    (∃ e, run.1 = .error (.failed e) ∧ e.isTold = true) ↔ Blocked s.tree ds := by
  have hcounted : ∀ (n : Nat) (result : Except Stop Nat) (stop : Stop),
      result.map (n + ·) = .error stop ↔ result = .error stop := by
    intro n result stop
    cases result <;> simp [Except.map]
  induction h with
  | done s => exact iff_of_false nofun nofun
  | failed ds notices hfailed =>
    rw [← blocked_of_error_iff hfailed]
    constructor
    · rintro ⟨e, ⟨⟩, htold⟩
      exact htold
    · exact fun htold => ⟨_, rfl, htold⟩
  | @passed s d ds run notices hpresent hrest ih =>
    have hends : (∃ e, run.1 = .error (.failed e) ∧ e.isTold = true) ↔ Blocked s.tree ds := ih
    rw [blocked_of_present_iff hpresent, ← hends]
    simp only [hcounted]
  | @untold s d f ds hgone hdisplay =>
    rw [blocked_of_gone_iff hgone, ← Markup.exists_display_iff (g := s.gallery), hdisplay]
    refine iff_of_false ?_ (fun ⟨⟨_, h⟩, _⟩ => nomatch h)
    rintro ⟨e, ⟨⟩, ⟨⟩⟩
  | @removed s d ds run t' x notices hgone hleft hdisplay hrest ih =>
    have hends : (∃ e, run.1 = .error (.failed e) ∧ e.isTold = true) ↔ Blocked s.tree ds := ih
    rw [blocked_of_gone_iff hgone, ← Markup.exists_display_iff (g := s.gallery),
      and_iff_right ⟨x, hdisplay⟩, ← hends]
    simp only [hcounted]

/-- **A sweep over stored documents lets a failure out when it is blocked.** -/
theorem escapes_sweepEach_iff (hready : s.table.access = .ready) (hs : s.table.store.Reachable)
    (hstored : ∀ d ∈ ds, d ∈ s.table.store.documents) (hnodup : ds.Nodup) :
    Escapes (sweepEach ds) s ↔ Blocked s.tree ds :=
  (sweeps_course hready hs hstored hnodup).isTold_iff

/-- The documents over which a cleanup goes. -/
def cleanedUp (package : Option Text) (t : Table) : Except Failure (List Document) :=
  match nonEmpty? package with
  | some p => (t.packageDocuments p).mapError .store
  | none => t.documents.mapError .store

theorem isTold_of_cleanedUp {package : Option Text} {t : Table} {e : Failure}
    (h : cleanedUp package t = .error e) : e.isTold = false := by
  unfold cleanedUp at h
  split at h
  · exact Table.isTold_of_packageDocuments h
  · exact Table.isTold_of_documents h

/-- A cleanup goes over stored documents, over each of them once. -/
theorem stored_of_cleanedUp {package : Option Text} {t : Table} (hopen : t.access ≠ .closed)
    (hs : t.store.Sound) (h : cleanedUp package t = .ok ds) :
    (∀ d ∈ ds, d ∈ t.store.documents) ∧ ds.Nodup := by
  unfold cleanedUp at h
  split at h
  · next p _ =>
    cases hds : t.packageDocuments p with
    | error e =>
      rw [hds] at h
      cases h
    | ok ds' =>
      rw [hds] at h
      cases h
      obtain ⟨hnodup, hmem⟩ := Table.mem_packageDocuments_iff hs hds
      exact ⟨fun d hd => ((hmem d).mp hd).1, hnodup⟩
  · rw [Table.documents, Table.view_eq_ok hopen] at h
    cases h
    exact ⟨fun _ => id, hs.nodup⟩

/-- The cleanup lets a failure out when it is blocked. -/
theorem escapes_cleanupDocuments_iff (hready : s.table.access = .ready)
    (hs : s.table.store.Reachable) {package : Option Text} :
    Escapes (cleanupDocuments package) s ↔
      ∃ ds, cleanedUp package s.table = .ok ds ∧ Blocked s.tree ds := by
  show Escapes (ask (cleanedUp package) >>= _) s ↔ _
  cases hds : cleanedUp package s.table with
  | error e =>
    rw [escapes_bind_of_error (course_ask_of_error hds), isTold_of_cleanedUp hds]
    exact iff_of_false nofun (fun ⟨_, h, _⟩ => nomatch h)
  | ok ds =>
    obtain ⟨hstored, hnodup⟩ := stored_of_cleanedUp (by rw [hready]; nofun) hs.sound hds
    rw [escapes_bind_of_ok (course_ask_of_ok hds), escapes_bind_iff (fun _ _ => not_escapes_say _),
      escapes_sweepEach_iff hready hs hstored hnodup]
    constructor
    · exact fun h => ⟨ds, rfl, h⟩
    · rintro ⟨_, ⟨⟩, h⟩
      exact h

end Sweep

end Session

open Session in
/-- When a command lets a failure out: the configuration cannot be saved, a package is removed whose
name starts with a slash, a listed document has a time of change that is beyond the calendar of the
system, or a cleanup is blocked. -/
def Command.LetsOut (su : Surroundings) (tree : FileTree) (config : AppConfig) (t : Table) :
    Command → Prop
  | setConfig key value =>
    ∃ config', withSetting config key value = some config' ∧ Unsavable su tree config'
  | add path name glob ignore =>
    let full := Path.absolute "/tmp/pkgx".toList path
    let p := newPackage full name glob ignore
    isDirectory tree full = true ∧ config.findPackage? p.name = none ∧
      Unsavable su tree (withPackage config p)
  | remove name => (config.findPackage? name).isSome = true ∧
    (Unsavable su tree (config.without name) ∨
      (∃ tree', (config.without name).save tree su.home.configPath = .ok tree') ∧
        ∃ rest, name = '/' :: rest)
  | ls shortpath => ∃ ds, t.below shortpath = .ok ds ∧
    sizeListing (inOrder ds) = .error (.clock .calendarOverflow)
  | cleanup package => ∃ ds, cleanedUp package t = .ok ds ∧ Blocked tree ds
  | _ => False

/-- **When a failure that is to be told gets out of a command.** -/
theorem Session.escapes_perform_iff {s : Session} (su : Surroundings)
    (hready : s.table.access = .ready) (hs : s.table.store.Reachable) (command : Command) :
    Escapes (command.perform su) s ↔ command.LetsOut su s.tree s.config s.table := by
  cases command with
  | setConfig key value => exact escapes_setConfiguration_iff
  | add path name glob ignore => exact escapes_addPackage_iff hs
  | remove name => exact escapes_removePackage_iff hready hs
  | ls shortpath => exact escapes_listDocuments_iff hs
  | cleanup package => exact escapes_cleanupDocuments_iff hready hs
  | showConfig => exact iff_of_false (allows_caught.showConfiguration.not_escapes hs) id
  | update name => exact iff_of_false ((allows_caught.updatePackages name).not_escapes hs) id
  | list => exact iff_of_false (allows_caught.listPackages.not_escapes hs) id
  | search request => exact iff_of_false ((allows_caught.searchDocuments request).not_escapes hs) id
  | get shortpath numbered =>
    exact iff_of_false ((allows_caught.showDocument shortpath numbered).not_escapes hs) id
  | dump => exact iff_of_false (allows_caught.dumpDocuments.not_escapes hs) id
  | status => exact iff_of_false (allows_caught.showStatus.not_escapes hs) id

/-! ### Command lines -/

/-- What is asked of a command line: no failure that is to be told gets out, and unless another one
does, the exit code is 0, or it is 1 and the last that was printed says why. -/
structure Outcome.Guarded (o : Outcome) : Prop where
  contained : ∀ e, o.ending = .failed e → e.isTold = false
  ended : (∀ e, o.ending ≠ .failed e) → o.ending.code = 0 ∨ o.ending.code = 1 ∧
    ∃ before x, o.output = before ++ Layout.page x ∧ Session.IsComplaint x

/-- Whether a failure that is to be told gets out. -/
def Ending.letsOut : Ending → Bool
  | .failed e => e.isTold
  | _ => false

theorem Outcome.Guarded.letsOut_eq_false {o : Outcome} (h : o.Guarded) :
    o.ending.letsOut = false := by
  unfold Ending.letsOut
  split
  · next e he => exact h.contained e he
  · rfl

namespace Site

variable {site : Site} {su : Surroundings} {config : AppConfig} {connection fileSize : Nat}
  {invocation : Invocation} {command : Command} {n : Nat} {store : Store}

/-- A site at which a command line is carried out: its words are those of a command, and the
database is open and in no transaction. -/
structure Working (site : Site) (config : AppConfig) (connection : Nat) (invocation : Invocation)
    (command : Command) (n : Nat) (store : Store) : Prop where
  asked : invocation.verb.read invocation.words = .ok command
  level : ∃ threshold,
    Level.rank ((nonEmpty? invocation.logLevel).getD config.logLevel) = .ok threshold
  connected : site.pool.database? connection = some n
  stored : site.pool.databases[n]? = some { committed := store }
  reachable : store.Reachable

/-- A site at which `/p` is registered as `/x`. -/
def slashFirst : Site :=
  afterLines { tree := twoDirectories } atTmp [["add", "/p", "--name", "/x"]]

end Site

end PackageCatalog
