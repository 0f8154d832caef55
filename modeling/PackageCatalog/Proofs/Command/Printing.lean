import PackageCatalog.Command.Run
import PackageCatalog.Proofs.Command.Actions

/-!
# What is printed

A command that only prints leaves a session in which some texts were added to the output.  A loop
prints what its steps print, one after the other, up to the first step that stops.

## Main definitions

* `Session.printing` — the session after texts were printed.
* `Session.onTable` — a session with a table, before anything was printed.

## Main results

* `Session.output_printing` — the output is what it was, and the texts behind it.
* `Session.course_say_of_ok`, `Session.course_sayPlain` — single texts.
* `Session.course_forIn`, `Session.course_forIn_of_error` — **a loop that prints.**
-/

namespace PackageCatalog.Session

variable {α : Type} {s : Session} {t x : Text} {ts us : List Text}

/-- The session after texts were printed. -/
def printing (s : Session) (ts : List Text) : Session :=
  { s with printed := ts.reverse ++ s.printed }

/-- A session with a table, before anything was printed. -/
def onTable (t : Table) : Session :=
  { gallery := Gallery.standard, tree := FileTree.empty, config := ⟨[], [], []⟩, table := t,
    threshold := 0, fileSize := 0 }

theorem printing_printing (s : Session) (ts us : List Text) :
    (s.printing ts).printing us = s.printing (ts ++ us) := by
  simp [printing]

/-- The output is what it was, and the texts behind it. -/
theorem output_printing (s : Session) (ts : List Text) :
    (s.printing ts).output = s.output ++ ts.flatten := by
  simp [output, printing]

/-! ### Single texts -/

theorem course_echo (t : Text) : course (echo t) s = (.ok (), s.printing [t]) := rfl

theorem course_plain_of_ok (h : Markup.display s.gallery t = .ok x) :
    course (plain t) s = (.ok x, s) := by
  rw [course_plain, h]

theorem course_say_of_ok (h : Markup.display s.gallery t = .ok x) :
    course (say t) s = (.ok (), s.printing [Layout.page x]) := by
  rw [say, course_bind_of_ok (course_plain_of_ok h), course_echo]

/-- A text whose tags do not fit together is not printed. -/
theorem course_say_of_error {e : Markup.Fault} (h : Markup.display s.gallery t = .error e) :
    course (say t) s = (.error (.failed (.badMarkup e)), s) := by
  rw [course_say, h]

theorem course_sayRow_of_ok (h : Markup.display s.gallery t = .ok x) :
    course (sayRow t) s = (.ok (), s.printing [Layout.row x]) := by
  rw [sayRow, course_bind_of_ok (course_plain_of_ok h), course_echo]

theorem course_sayPlain (t : Text) :
    course (sayPlain t) s = (.ok (), s.printing [Layout.page (s.gallery.drawn t)]) := by
  rw [sayPlain, course_bind_of_ok course_get, course_echo]

/-! ### Loops -/

section Loop

variable {xs l : List α} {f : α → PUnit → Action (ForInStep PUnit)} {p : α → List Text}

/-- The steps that print are taken, and the loop goes on behind them. -/
theorem course_forIn_append : ∀ {xs : List α} {s : Session},
    (∀ x ∈ xs, ∀ ts, course (f x ⟨⟩) (s.printing ts) =
      (.ok (.yield ⟨⟩), s.printing (ts ++ p x))) →
    course (forIn (xs ++ l) PUnit.unit f) s =
      course (forIn l PUnit.unit f) (s.printing (xs.flatMap p)) := by
  intro xs
  induction xs with
  | nil => intro s _; rfl
  | cons x xs ih =>
    intro s h
    obtain ⟨hx, hxs⟩ := List.forall_mem_cons.mp h
    have hstep : course (f x ⟨⟩) s = (.ok (.yield ⟨⟩), s.printing (p x)) := hx []
    have hrest : ∀ y ∈ xs, ∀ ts, course (f y ⟨⟩) ((s.printing (p x)).printing ts) =
        (.ok (.yield ⟨⟩), (s.printing (p x)).printing (ts ++ p y)) := by
      intro y hy ts
      rw [printing_printing, printing_printing, ← List.append_assoc]
      exact hxs y hy (p x ++ ts)
    rw [List.cons_append, List.forIn_cons, course_bind_of_ok hstep]
    dsimp only
    rw [ih hrest, printing_printing, List.flatMap_cons]

/-- **A loop prints what its steps print.** -/
theorem course_forIn (h : ∀ x ∈ xs, ∀ ts, course (f x ⟨⟩) (s.printing ts) =
    (.ok (.yield ⟨⟩), s.printing (ts ++ p x))) :
    course (forIn xs PUnit.unit f) s = (.ok ⟨⟩, s.printing (xs.flatMap p)) := by
  have happend := course_forIn_append (l := []) h
  rw [List.append_nil] at happend
  rw [happend]
  rfl

/-- A loop prints what the steps before the first one that stops print. -/
theorem course_forIn_of_error {x : α} {e : Stop} (h : ∀ x ∈ xs, ∀ ts,
      course (f x ⟨⟩) (s.printing ts) = (.ok (.yield ⟨⟩), s.printing (ts ++ p x)))
    (hx : course (f x ⟨⟩) (s.printing (xs.flatMap p)) = (.error e, s.printing (xs.flatMap p))) :
    course (forIn (xs ++ x :: l) PUnit.unit f) s = (.error e, s.printing (xs.flatMap p)) := by
  rw [course_forIn_append h, List.forIn_cons, course_bind_of_error hx]

end Loop

end PackageCatalog.Session
