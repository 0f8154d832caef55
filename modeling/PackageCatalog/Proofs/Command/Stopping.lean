import PackageCatalog.Command.Run
import PackageCatalog.Proofs.Catalogue.Failures
import PackageCatalog.Proofs.Command.Actions
import PackageCatalog.Proofs.Console.Markup

/-!
# How commands stop

A command that does not go on has said why, or a failure gets out of it.  Most commands let no
failure out that is to be told, whatever they are given.

## Main definitions

* `Session.IsComplaint`, `Session.Complaining` — a text that says why a command does not go on, and
  a session in which such a text was printed last.
* `Session.Stops` — actions that stop in an allowed way only.
* `Stop.Told`, `Stop.Caught` — two such ways.

## Main results

* `Session.Stops.bind`, `Session.Stops.forIn` — actions one after the other.
* `Session.Allows.index`, `Session.Allows.updatePackages` — **what stops an indexing run is told.**
* `Session.stops_perform` — **a command that refuses to go on has said why.**
-/

namespace PackageCatalog

/-! ### Complaints -/

namespace Session

/-- How the texts begin that say why a command does not go on. -/
def complaints : List String := ["Error:", "  Error:", "Document not found:"]

/-- A text that says why a command does not go on. -/
def IsComplaint (x : Text) : Prop := ∃ lead ∈ complaints, lead.toList <+: x

/-- The last that was printed says why the command does not go on. -/
def Complaining (s : Session) : Prop :=
  ∃ x rest, s.printed = Layout.page x :: rest ∧ IsComplaint x

theorem isStyle_red : Markup.IsStyle "red".toList where
  opens := ⟨'r', ['e', 'd'], rfl, by decide, by decide⟩
  free := by simp [Markup.isBracket]
  visible := by decide

/-- What is shown of a red lead and the text behind it is a complaint. -/
theorem isComplaint_of_display {g : Gallery} (blanks lead : String) {t x : Text}
    (hblanks : ∀ c ∈ blanks.toList, c = ' ') (hlead : ∀ c ∈ lead.toList, c ≠ '[' ∧ c ≠ '\\')
    (hcolons : lead.toList.count ':' ≤ 1) (hmem : blanks ++ lead ∈ complaints)
    (h : Markup.display g (blanks.toList ++ styled "red" lead.toList ++ t) = .ok x) :
    IsComplaint x := by
  have hunmarked : ∀ c ∈ blanks.toList, Emoji.isMark c = false := by
    intro c hc
    rw [hblanks c hc]
    rfl
  obtain ⟨place, hdisplay⟩ := Markup.display_styled_behind (g := g) isStyle_red
    (fun c hc => Emoji.ne_of_isMark_eq_false (hunmarked c hc)) hlead t
  rw [hdisplay, g.drawn_of_unmarked hunmarked, g.drawn_of_count_le hcolons] at h
  obtain ⟨y, -, rfl⟩ := exists_of_map_eq_ok h
  refine ⟨blanks ++ lead, hmem, ?_⟩
  rw [String.toList_append]
  exact List.prefix_append _ y

theorem isComplaint_notFound {g : Gallery} {t x : Text}
    (h : Markup.display g (styled "red" "Document not found:".toList ++ t) = .ok x) :
    IsComplaint x :=
  isComplaint_of_display "" "Document not found:" (by simp) (by simp) (by decide) (by decide) h

theorem isComplaint_errorText {g : Gallery} {t x : Text}
    (h : Markup.display g (errorText t) = .ok x) : IsComplaint x :=
  isComplaint_of_display "" "Error:" (by simp) (by simp) (by decide) (by decide) h

end Session

/-! ### Ways to stop -/

/-- A stop of which the user is told, unless it is a failure. -/
def Stop.Told : Stop → Session → Prop
  | .refused, s => s.Complaining
  | .failed _, _ => True

/-- A stop of which the user is told, or a failure of which he is not to be told. -/
def Stop.Caught : Stop → Session → Prop
  | .refused, s => s.Complaining
  | .failed e, _ => e.isTold = false

namespace Session

variable {α β : Type} {s s' : Session} {su : Surroundings} {R : Stop → Session → Prop}

/-- A course that leaves a session with a sound table, or stops as is allowed. -/
def Ends (R : Stop → Session → Prop) : Except Stop α × Session → Prop
  | (.ok _, s) => s.table.store.Reachable
  | (.error stop, s) => R stop s

/-- An action that, given a session with a sound table, leaves one or stops as is allowed. -/
structure Stops (R : Stop → Session → Prop) (a : Action α) : Prop where
  ends : ∀ s, s.table.store.Reachable → Ends R (course a s)

/-- What commands have in common is allowed: to complain, and to fail where nothing is to be
told. -/
structure Allows (R : Stop → Session → Prop) : Prop where
  refused : ∀ {s}, s.Complaining → R .refused s
  untold : ∀ {e s}, e.isTold = false → R (.failed e) s

theorem allows_told : Allows Stop.Told := ⟨id, fun _ => trivial⟩

theorem allows_caught : Allows Stop.Caught := ⟨id, id⟩

/-! ### Actions one after the other -/

theorem Stops.reachable {a : Action α} {x : α} (ha : Stops R a) (hs : s.table.store.Reachable)
    (h : course a s = (.ok x, s')) : s'.table.store.Reachable := by
  have hends := ha.ends s hs
  rw [h] at hends
  exact hends

theorem Stops.stop {a : Action α} {stop : Stop} (ha : Stops R a) (hs : s.table.store.Reachable)
    (h : course a s = (.error stop, s')) : R stop s' := by
  have hends := ha.ends s hs
  rw [h] at hends
  exact hends

theorem Stops.bind {a : Action α} {f : α → Action β} (ha : Stops R a) (hf : ∀ x, Stops R (f x)) :
    Stops R (a >>= f) := by
  refine ⟨fun s hs => ?_⟩
  cases hcourse : course a s with
  | mk r s' =>
    cases r with
    | ok x =>
      rw [course_bind_of_ok hcourse]
      exact (hf x).ends s' (ha.reachable hs hcourse)
    | error stop =>
      rw [course_bind_of_error hcourse]
      exact ha.stop hs hcourse

theorem stops_pure (x : α) : Stops R (pure x : Action α) := ⟨fun _ hs => hs⟩

theorem stops_get : Stops R (get : Action Session) := ⟨fun _ hs => hs⟩

theorem Stops.forIn {γ : Type} {f : α → γ → Action (ForInStep γ)} (hf : ∀ x c, Stops R (f x c)) :
    ∀ (l : List α) (c : γ), Stops R (forIn l c f) := by
  intro l
  induction l with
  | nil => exact fun c => stops_pure c
  | cons x l ih =>
    intro c
    rw [List.forIn_cons]
    refine (hf x c).bind (fun step => ?_)
    cases step with
    | done c => exact stops_pure c
    | yield c => exact ih c

/-! ### Single steps -/

/-- A change of the session that keeps the table sound. -/
theorem stops_modify {f : Session → Session}
    (hf : ∀ s, s.table.store.Reachable → (f s).table.store.Reachable) :
    Stops R (modify f : Action Unit) :=
  ⟨hf⟩

theorem stops_attempt {r : Except Failure α} (hr : ∀ e, r = .error e → ∀ s, R (.failed e) s) :
    Stops R (attempt r) := by
  refine ⟨fun s hs => ?_⟩
  rw [course_attempt]
  cases r with
  | ok x => exact hs
  | error e => exact hr e rfl s

theorem stops_ask {f : Table → Except Failure α}
    (hf : ∀ t e, f t = .error e → ∀ s, R (.failed e) s) : Stops R (ask f) :=
  stops_get.bind (fun _ => stops_attempt (hf _))

theorem stops_echo (t : Text) : Stops R (echo t) := stops_modify (fun _ => id)

theorem stops_note (ns : List Notice) : Stops R (note ns) := stops_modify (fun _ => id)

theorem stops_sayPlain (t : Text) : Stops R (sayPlain t) := stops_get.bind (fun _ => stops_echo _)

theorem course_refuse (t : Text) : course (refuse t : Action α) s =
    match Markup.display s.gallery t with
    | .ok x => (.error .refused, { s with printed := Layout.page x :: s.printed })
    | .error e => (.error (.failed (.badMarkup e)), s) := by
  rw [refuse, course_bind, course_say]
  cases Markup.display s.gallery t <;> rfl

theorem isTold_of_sizeText {n : Int} {e : Failure} (h : sizeText n = .error e) :
    e.isTold = false := by
  have hsize : ∀ {unit : Nat} {name : String} {m : Nat}, sizeIn unit name m = .error e →
      e.isTold = false := by
    intro unit name m h
    unfold sizeIn at h
    split at h
    · cases h
    · cases h
      rfl
  unfold sizeText at h
  split at h
  · cases h
  · split at h
    · exact hsize h
    · exact hsize h

/-! ### Steps that commands have in common -/

namespace Allows

variable (hR : Allows R)

include hR

theorem attempt {r : Except Failure α} (hr : ∀ e, r = .error e → e.isTold = false) :
    Stops R (attempt r) :=
  stops_attempt (fun e he _ => hR.untold (hr e he))

theorem ask {f : Table → Except Failure α} (hf : ∀ t e, f t = .error e → e.isTold = false) :
    Stops R (ask f) :=
  stops_ask (fun t e he _ => hR.untold (hf t e he))

/-- A styled text has tags that fit together, or a failure is met of which nobody is to be told. -/
theorem markup (r : Except Markup.Fault α) : Stops R (Session.attempt (r.mapError .badMarkup)) := by
  refine hR.attempt (fun e he => ?_)
  cases r with
  | ok x => cases he
  | error e' =>
    cases he
    rfl

theorem plain (t : Text) : Stops R (plain t) := stops_get.bind (fun _ => hR.markup _)

theorem say (t : Text) : Stops R (say t) := (hR.plain t).bind (fun _ => stops_echo _)

theorem sayRow (t : Text) : Stops R (sayRow t) := (hR.plain t).bind (fun _ => stops_echo _)

theorem showGrid (g : Grid) : Stops R (showGrid g) :=
  stops_get.bind (fun _ => (hR.markup _).bind (fun _ => stops_echo _))

theorem refuse {t : Text} (ht : ∀ g x, Markup.display g t = .ok x → IsComplaint x) :
    Stops R (refuse t : Action α) := by
  refine ⟨fun s hs => ?_⟩
  rw [course_refuse]
  cases hdisplay : Markup.display s.gallery t with
  | ok x => exact hR.refused ⟨x, s.printed, rfl, ht s.gallery x hdisplay⟩
  | error e => exact hR.untold rfl

theorem refuseError (t : Text) : Stops R (Session.refuse (errorText t) : Action α) :=
  hR.refuse (fun _ _ => isComplaint_errorText)

theorem failed {e : Failure} (h : e.isTold = false) :
    Stops R (throw (.failed e) : Action α) :=
  hR.attempt (r := .error e) (fun _ he => Except.error.inj he ▸ h)

theorem orRefuse (r : Except Failure α) : Stops R (orRefuse r) := by
  cases r with
  | ok x => exact stops_pure x
  | error e =>
    unfold Session.orRefuse
    dsimp only
    split
    · exact hR.refuseError _
    · next h => exact hR.failed (Bool.eq_false_iff.mpr h)

/-! ### Commands that read -/

theorem listPackages : Stops R listPackages := by
  refine stops_get.bind (fun s => ?_)
  dsimp only
  split
  · exact hR.say _
  · exact (hR.ask fun t e => Table.isTold_of_packageCounts).bind (fun _ => hR.showGrid _)

theorem showHit (needles : List Text) (d : Document) : Stops R (showHit needles d) := by
  refine (hR.say _).bind (fun _ => ?_)
  refine (Stops.forIn (fun line _ => ?_) _ _).bind (fun _ => stops_pure _)
  refine (hR.sayRow _).bind (fun _ => ?_)
  exact (stops_sayPlain _).bind (fun _ => stops_pure _)

theorem searchDocuments (r : SearchRequest) : Stops R (searchDocuments r) := by
  unfold Session.searchDocuments
  rcases r.options with cs | o
  on_goal 1 => refine (hR.refuseError _).bind (fun o => ?_)
  on_goal 2 => refine (stops_pure o).bind (fun o => ?_)
  -- whether the options are refused or not, the same is to come
  all_goals
    refine (hR.ask fun _ _ => Table.isTold_of_search).bind (fun ds => ?_)
    split
    · exact hR.say _
    · split
      · exact stops_echo _
      · exact stops_echo _
      · refine (Stops.forIn (fun d _ => ?_) _ _).bind (fun _ => hR.say _)
        exact (hR.showHit _ d).bind (fun _ => stops_pure _)

theorem showDocument (shortpath : Text) (numbered : Bool) :
    Stops R (showDocument shortpath numbered) := by
  refine stops_get.bind (fun s => (hR.orRefuse _).bind (fun found => ?_))
  cases found with
  | none => exact hR.refuse (fun _ _ => isComplaint_notFound)
  | some d =>
    refine (hR.say _).bind (fun _ => (hR.say _).bind (fun _ => ?_))
    refine (Stops.forIn (fun line _ => ?_) _ _).bind (fun _ => stops_pure _)
    dsimp only
    split
    · refine (hR.sayRow _).bind (fun _ => ?_)
      exact (stops_sayPlain _).bind (fun _ => stops_pure _)
    · exact (stops_sayPlain _).bind (fun _ => stops_pure _)

theorem dumpDocuments : Stops R dumpDocuments := by
  refine (hR.ask fun _ _ => Table.isTold_of_documents).bind (fun ds => ?_)
  refine (stops_note _).bind (fun _ => ?_)
  refine (Stops.forIn (fun d _ => ?_) _ _).bind (fun _ => stops_pure _)
  exact (stops_sayPlain _).bind (fun _ => stops_pure _)

theorem showStatus : Stops R showStatus := by
  refine stops_get.bind (fun s => stops_get.bind (fun s' => ?_))
  have hsize : Stops R (Session.attempt (sizeText s'.fileSize)) :=
    hR.attempt (fun e => isTold_of_sizeText)
  refine hsize.bind (fun _ => ?_)
  refine (hR.ask fun _ _ he => Table.isTold_of_size he).bind (fun _ => ?_)
  refine (hR.showGrid _).bind (fun _ => ?_)
  refine (hR.ask fun _ _ => Table.isTold_of_packageCounts).bind (fun counts => ?_)
  split
  · exact hR.showGrid _
  · exact stops_pure _

theorem showConfiguration : Stops R (showConfiguration su) :=
  stops_get.bind (fun _ => (hR.say _).bind (fun _ => hR.showGrid _))

/-! ### Indexing -/

/-- **What stops an indexing run is told**, or it is none that is to be told. -/
theorem index (lead : String) (hlead : ∀ c ∈ lead.toList, c = ' ')
    (hmem : lead ++ "Error:" ∈ complaints) (p : PackageConfig) : Stops R (index su lead p) := by
  refine ⟨fun s hs => ?_⟩
  obtain ⟨hkept, hcaught⟩ := Table.isCaught_of_indexPackage su.detect s.tree p hs
  rw [Session.index, course_bind_of_ok course_get]
  dsimp only
  rw [setTable, course_bind_of_ok (course_modify _)]
  split
  on_goal 1 => refine Stops.ends ((stops_note _).bind (fun _ => ?_)) _ hkept
  on_goal 2 => refine Stops.ends ?_ _ hkept
  all_goals
    split
    · exact hR.say _
    · next e he =>
      split
      · refine hR.refuse (fun g x hx => ?_)
        rw [errorText, ← List.append_assoc] at hx
        exact isComplaint_of_display lead "Error:" hlead (by simp) (by decide) hmem hx
      · next hnot => exact hR.failed (Bool.eq_false_iff.mpr fun htold => hnot (hcaught e he htold))

theorem updateEach (count : Nat) : ∀ (ps : List PackageConfig) (i : Nat),
    Stops R (updateEach su count i ps) := by
  intro ps
  induction ps with
  | nil => exact fun _ => stops_pure _
  | cons p ps ih =>
    intro i
    refine (hR.say _).bind (fun _ => ?_)
    exact (hR.index "  " (by simp) (by decide) p).bind (fun _ => ih (i + 1))

theorem updatePackages (name : Option Text) : Stops R (updatePackages su name) := by
  have hupdate : ∀ packages : List PackageConfig, Stops R (do
      if packages.isEmpty then Session.say (styled "yellow" "No packages to update.".toList)
      else Session.updateEach su packages.length 1 packages) := by
    intro packages
    split
    · exact hR.say _
    · exact hR.updateEach _ packages 1
  refine stops_get.bind (fun s => ?_)
  dsimp only
  cases nonEmpty? name with
  | none => exact (stops_pure _).bind hupdate
  | some name =>
    dsimp only
    cases s.config.findPackage? name with
    | none => exact (hR.refuseError _).bind hupdate
    | some p => exact (stops_pure _).bind hupdate

end Allows

/-! ### Refusals -/

/-- A result, or any failure. -/
theorem told_attempt (r : Except Failure α) : Stops Stop.Told (attempt r) :=
  stops_attempt (fun _ _ _ => trivial)

theorem told_ask (f : Table → Except Failure α) : Stops Stop.Told (ask f) :=
  stops_ask (fun _ _ _ _ => trivial)

theorem told_saveConfig (home : Home) (config : AppConfig) :
    Stops Stop.Told (saveConfig home config) := by
  have hset : ∀ f : Session → Session, (∀ s, (f s).table = s.table) →
      Stops Stop.Told (modify f : Action Unit) :=
    fun f hf => stops_modify (fun s hs => by rw [hf]; exact hs)
  refine (hset (fun s => { s with config }) (fun _ => rfl)).bind (fun _ => stops_get.bind ?_)
  refine fun s => (told_attempt _).bind (fun tree => ?_)
  exact hset (fun s => { s with tree }) (fun _ => rfl)

theorem told_addPackage (path : Text) (name : Option Text) (glob : Text) (ignore : List Text) :
    Stops Stop.Told (addPackage su path name glob ignore) := by
  have hadd : ∀ (s : Session) (p : PackageConfig) (t : Text), Stops Stop.Told (do
      saveConfig su.home { s.config with packages := s.config.packages ++ [p] }
      say t
      index su "" p) := fun s p t =>
    (told_saveConfig _ _).bind (fun _ => (allows_told.say _).bind (fun _ =>
      allows_told.index "" (by simp) (by decide) p))
  refine stops_get.bind (fun s => ?_)
  -- nothing depends on how the path is made absolute
  generalize Path.absolute "/tmp/pkgx".toList path = full
  dsimp only
  split
  · refine (allows_told.refuseError _).bind (fun _ => ?_)
    split
    · exact (allows_told.refuseError _).bind (fun _ => hadd s _ _)
    · exact hadd s _ _
  · split
    · exact (allows_told.refuseError _).bind (fun _ => hadd s _ _)
    · exact hadd s _ _

theorem told_removeDocument (path : Text) : Stops Stop.Told (removeDocument path) := by
  refine ⟨fun s hs => ?_⟩
  cases hremove : s.table.remove path with
  | ok t =>
    obtain ⟨notices, hcourse⟩ := course_removeDocument hremove
    rw [hcourse]
    exact (Table.thins_remove hremove).reachable hs
  | error e =>
    rw [removeDocument, course_bind_of_error (course_ask_of_error hremove)]
    exact trivial

theorem told_removePackage (name : Text) : Stops Stop.Told (removePackage su name) := by
  have hremove : ∀ s : Session, Stops Stop.Told (do
      saveConfig su.home
        { s.config with packages := s.config.packages.filter (fun p => p.name != name) }
      let ds ← ask (fun t => t.below (some name))
      for d in if name.isEmpty then ds else inOrder ds do removeDocument d.path
      say (styled "yellow" "Removed package:".toList ++ ' ' :: (name ++ " (".toList ++
        Text.ofNat ds.length ++ " documents)".toList))) := by
    intro s
    refine (told_saveConfig _ _).bind (fun _ => (told_ask _).bind (fun ds => ?_))
    refine (Stops.forIn (fun d _ => ?_) _ _).bind (fun _ => allows_told.say _)
    exact (told_removeDocument _).bind (fun _ => stops_pure _)
  refine stops_get.bind (fun s => ?_)
  dsimp only
  split
  · exact (allows_told.refuseError _).bind (fun _ => hremove s)
  · exact hremove s

theorem told_listDocuments (shortpath : Option Text) :
    Stops Stop.Told (listDocuments shortpath) := by
  refine stops_get.bind (fun s => (allows_told.orRefuse _).bind (fun ds => ?_))
  split
  · exact allows_told.say _
  · exact (told_attempt _).bind (fun _ => allows_told.showGrid _)

theorem told_setConfiguration (key value : Text) :
    Stops Stop.Told (setConfiguration su key value) := by
  refine stops_get.bind (fun s => ?_)
  cases withSetting s.config key value with
  | none => exact allows_told.refuseError _
  | some config => exact (told_saveConfig _ _).bind (fun _ => allows_told.say _)

theorem told_sweepDocument (d : Document) : Stops Stop.Told (sweepDocument d) := by
  refine ⟨fun s hs => ?_⟩
  have hkept := (Table.gradual_thins.sweep s.tree [d] s.table).reachable hs
  have hset : Stops Stop.Told (setTable (s.table.sweep s.tree [d]).table) :=
    stops_modify (fun _ _ => hkept)
  have hsay : ∀ ds : List Document, Stops Stop.Told (forIn ds PUnit.unit (fun d _ => do
      say ("  ".toList ++ styled "dim" "removed".toList ++ ' ' :: d.shortpath)
      pure (ForInStep.yield PUnit.unit))) := fun ds =>
    Stops.forIn (fun d _ => (allows_told.say _).bind (fun _ => stops_pure _)) ds _
  rw [sweepDocument, course_bind_of_ok course_get]
  refine Stops.ends ((hsay _).bind fun _ => hset.bind fun _ => (stops_note _).bind fun _ => ?_) s hs
  split
  · exact told_attempt (.error _)
  · exact stops_pure _

theorem told_sweepEach : ∀ ds : List Document, Stops Stop.Told (sweepEach ds)
  | [] => stops_pure 0
  | d :: ds => (told_sweepDocument d).bind (fun _ =>
      (told_sweepEach ds).bind (fun _ => stops_pure _))

theorem told_cleanupDocuments (package : Option Text) :
    Stops Stop.Told (cleanupDocuments package) :=
  (told_ask _).bind (fun ds => (told_sweepEach ds).bind (fun _ => allows_told.say _))

/-- **A command that refuses to go on has said why.** -/
theorem stops_perform (su : Surroundings) : ∀ command : Command,
    Stops Stop.Told (command.perform su)
  | .showConfig => allows_told.showConfiguration
  | .setConfig key value => told_setConfiguration key value
  | .add path name glob ignore => told_addPackage path name glob ignore
  | .update name => allows_told.updatePackages name
  | .remove name => told_removePackage name
  | .list => allows_told.listPackages
  | .search request => allows_told.searchDocuments request
  | .ls shortpath => told_listDocuments shortpath
  | .get shortpath numbered => allows_told.showDocument shortpath numbered
  | .dump => allows_told.dumpDocuments
  | .cleanup package => told_cleanupDocuments package
  | .status => allows_told.showStatus

end Session

end PackageCatalog
