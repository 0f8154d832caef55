import PackageCatalog.Command.Session
import PackageCatalog.Proofs.Catalogue.Sweeping

/-!
# Runs of actions

What the steps of a command do to the session in which they are run.

## Main definitions

* `Session.course` — the result of an action, and the session that it leaves.

## Main results

* `Session.course_bind` — one action after another.
* `Session.course_say`, `Session.course_ask`, `Session.course_saveConfig` — single steps.
* `Session.course_removeEach` — documents that are removed one after the other.
-/

namespace PackageCatalog.Session

variable {α β : Type} {s s' : Session}

/-- The result of an action in a session, and the session that it leaves. -/
def course (a : Action α) (s : Session) : Except Stop α × Session := a.run.run s

/-! ### Actions one after the other -/

theorem course_pure (x : α) : course (pure x) s = (.ok x, s) := rfl

theorem course_bind (a : Action α) (f : α → Action β) :
    course (a >>= f) s =
      match course a s with
      | (.ok x, s') => course (f x) s'
      | (.error e, s') => (.error e, s') := by
  show ExceptT.bindCont f (course a s).1 (course a s).2 = _
  cases course a s with
  | mk r s' => cases r <;> rfl

theorem course_bind_of_ok {a : Action α} {f : α → Action β} {x : α}
    (h : course a s = (.ok x, s')) : course (a >>= f) s = course (f x) s' := by
  rw [course_bind, h]

theorem course_bind_of_error {a : Action α} {f : α → Action β} {e : Stop}
    (h : course a s = (.error e, s')) : course (a >>= f) s = (.error e, s') := by
  rw [course_bind, h]

/-! ### Single steps -/

theorem course_get : course get s = (.ok s, s) := rfl

theorem course_modify (f : Session → Session) :
    course (modify f : Action Unit) s = (.ok (), f s) := rfl

theorem course_attempt (r : Except Failure α) :
    course (attempt r) s =
      match r with
      | .ok x => (.ok x, s)
      | .error e => (.error (.failed e), s) := by
  cases r <;> rfl

/-- A question to the table leaves the session as it was. -/
theorem course_ask (f : Table → Except Failure α) :
    course (ask f) s =
      match f s.table with
      | .ok x => (.ok x, s)
      | .error e => (.error (.failed e), s) := by
  rw [ask, course_bind_of_ok course_get, course_attempt]

theorem course_ask_of_ok {f : Table → Except Failure α} {x : α} (h : f s.table = .ok x) :
    course (ask f) s = (.ok x, s) := by
  rw [course_ask, h]

theorem course_ask_of_error {f : Table → Except Failure α} {e : Failure}
    (h : f s.table = .error e) : course (ask f) s = (.error (.failed e), s) := by
  rw [course_ask, h]

/-- The characters of a styled text that are shown, unless its tags do not fit together. -/
theorem course_plain (t : Text) :
    course (plain t) s =
      match Markup.display s.gallery t with
      | .ok x => (.ok x, s)
      | .error e => (.error (.failed (.badMarkup e)), s) := by
  rw [plain, course_bind_of_ok course_get, course_attempt]
  cases Markup.display s.gallery t <;> rfl

/-- A styled text is printed, or its tags do not fit together. -/
theorem course_say (t : Text) :
    course (say t) s =
      match Markup.display s.gallery t with
      | .ok x => (.ok (), { s with printed := Layout.page x :: s.printed })
      | .error e => (.error (.failed (.badMarkup e)), s) := by
  rw [say, course_bind, course_plain]
  cases Markup.display s.gallery t <;> rfl

/-- A configuration that can be saved is. -/
theorem course_saveConfig {home : Home} {config : AppConfig} {tree : FileTree}
    (h : config.save s.tree home.configPath = .ok tree) :
    course (saveConfig home config) s = (.ok (), { s with config, tree }) := by
  have hattempt : course (attempt ((config.save s.tree home.configPath).mapError .file))
      { s with config } = (.ok tree, { s with config }) := by
    rw [h]
    rfl
  rw [saveConfig, course_bind_of_ok (course_modify _), course_bind_of_ok course_get,
    course_bind_of_ok hattempt, course_modify]

/-- A document that the table can do without is removed. -/
theorem course_removeDocument {path : Text} {t : Table} (h : s.table.remove path = .ok t) :
    ∃ notices, course (removeDocument path) s = (.ok (), { s with table := t, notices }) := by
  refine ⟨s.notices ++ keptNotices s.threshold [.removed path], ?_⟩
  rw [removeDocument, course_bind_of_ok (course_ask_of_ok h), setTable,
    course_bind_of_ok (course_modify _), note,
    course_modify]

/-! ### Documents one after the other -/

/-- Documents that the table can do without are removed one after the other. -/
theorem course_removeEach : ∀ {ds : List Document} {s : Session} {t : Table},
    s.table.removeEach ds = .ok t →
      ∃ notices, course (forIn ds PUnit.unit (fun d _ => do
        removeDocument d.path
        pure (ForInStep.yield PUnit.unit))) s =
          (.ok PUnit.unit, { s with table := t, notices }) := by
  intro ds
  induction ds with
  | nil =>
    rintro s t ⟨⟩
    exact ⟨s.notices, rfl⟩
  | cons d ds ih =>
    intro s t h
    rw [Table.removeEach] at h
    split at h
    · cases h
    · next t₁ hremove =>
      obtain ⟨notices₁, hdocument⟩ := course_removeDocument hremove
      obtain ⟨notices, hdocuments⟩ := ih (s := { s with table := t₁, notices := notices₁ }) h
      refine ⟨notices, ?_⟩
      have hbody : course (do
          removeDocument d.path
          pure (ForInStep.yield PUnit.unit)) s =
            (.ok (ForInStep.yield PUnit.unit), { s with table := t₁, notices := notices₁ }) := by
        rw [course_bind_of_ok hdocument, course_pure]
      rw [List.forIn_cons, course_bind_of_ok hbody]
      exact hdocuments

end PackageCatalog.Session
