import PackageCatalog.Proofs.Catalogue.Runs
import PackageCatalog.Proofs.Catalogue.Steps
import PackageCatalog.Store.Pool

/-!
# Many handles and one file

Handles of one database add the same file, while a writer replaces its content; between any two
steps of one call there may be steps of others and a replacement of the file.  A call that was
overtaken may have put a content under a time of change that is older than it.  It can never be
the other way around: what is recorded under the time of change of now is the content of now,
since a content that was read after the file was asked for that time is no older.

## Main definitions

* `Moment`, `Event` — the files, the database and every call at a moment, and what can happen next.
* `Moment.Allows`, `Moment.Leads` — what may happen at a moment, and a run of such events.
* `Trails` — a time of change and a content that are recorded of a file: the time is no later than
  that of the file, and when it is the same, so is the content.
* `Moment.Sound` — **the invariant**: whatever is recorded, remembered or about to be recorded of
  the file trails it.
* `Follows` — a store that may be made final after another.

## Main results

* `Phase.Fits.nextOn` — what one step of one call does.
* `Moment.Sound.after` — every event keeps the invariant, and no time of change goes back.
* `Moment.law_of_interleaving` — **no interleaving loses an update.**
-/

namespace PackageCatalog

/-! ### The view that a handle has -/

namespace Database

variable {d : Database} {i w : Nat} {s : Store}

theorem view_of_free (h : d.pending = none) : d.view i = { store := d.committed } := by
  rw [view, h]

theorem view_of_own (h : d.pending = some (i, s)) :
    d.view i = { store := s, saved := some d.committed } := by
  rw [view, h]
  exact if_pos rfl

theorem view_of_other (h : d.pending = some (w, s)) (hw : w ≠ i) :
    d.view i = { store := d.committed, access := .busy } := by
  rw [view, h]
  exact if_neg hw

/-- A handle that leaves the table as it saw it leaves the database as it is. -/
theorem settle_view (d : Database) (i : Nat) : d.settle i (d.view i) = d := by
  obtain ⟨committed, pending⟩ := d
  match pending with
  | none => rfl
  | some (w, s) =>
    by_cases hw : w = i
    · subst hw
      rw [view_of_own rfl]
      rfl
    · rw [view_of_other rfl hw]
      rfl

end Database

/-- The next step of the call of a handle, on the database. -/
def Phase.nextOn (detect : Detector) (tree : FileTree) (d : Database) (i : Nat) (p : Phase) :
    Database × Phase :=
  let s := p.next detect tree (d.view i)
  (d.settle i s.1, s.2)

/-- A step that leaves the table as it is leaves the database as it is. -/
theorem Phase.nextOn_of_view {detect : Detector} {tree : FileTree} {d : Database} {i : Nat}
    {p q : Phase} (h : p.next detect tree (d.view i) = (d.view i, q)) :
    p.nextOn detect tree d i = (d, q) := by
  rw [nextOn, h]
  exact congrArg (·, q) (d.settle_view i)

/-! ### Moments and events -/

/-- The files, the database, and how far the call of each handle is. -/
structure Moment where
  tree : FileTree
  database : Database
  phase : Nat → Phase

/-- What can happen. -/
inductive Event
  /-- The writer replaces the file. -/
  | write (tree : FileTree)
  /-- A handle begins a call. -/
  | start (handle : Nat) (directory rest : NativeName) (name : Option NativeName)
  /-- The call of a handle takes its next step.  One that waits for the transaction of another
  takes none; one that has waited for too long takes it and fails. -/
  | step (handle : Nat)
  /-- Something else fails in the transaction of a handle. -/
  | interrupt (handle : Nat) (e : Failure)

/-- The file is replaced, with a later time of change; whatever else changes with it. -/
def Replaces (tree tree' : FileTree) (file : NativeName) : Prop :=
  ∃ e e', tree.stat file = .ok e ∧ tree'.stat file = .ok e' ∧ Double.lt e.stamp e'.stamp = true

namespace Moment

/-- The moment after a call has changed the database and got to a phase. -/
def move (m : Moment) (i : Nat) (d : Database) (p : Phase) : Moment :=
  { m with database := d, phase := fun j => if j = i then p else m.phase j }

/-- The moment after an event. -/
def after (detect : Detector) (m : Moment) : Event → Moment
  | .write tree => { m with tree }
  | .start i directory rest name =>
    m.move i m.database (Phase.start detect m.tree directory rest name)
  | .step i =>
    let s := (m.phase i).nextOn detect m.tree m.database i
    m.move i s.1 s.2
  | .interrupt i e => m.move i m.database (.failing e)

/-- What may happen to a file: it is replaced with a later time of change, a handle without a call
begins one on the file, a call goes on, or it fails in its transaction. -/
def Allows (m : Moment) (file : NativeName) : Event → Prop
  | .write tree => Replaces m.tree tree file
  | .start i directory rest _ =>
    absoluteName (Path.join directory rest) = file ∧ (m.phase i).isAtRest = true
  | .step _ => True
  | .interrupt i _ => (m.phase i).isInside = true

/-- A run of events leads from one moment to another. -/
inductive Leads (detect : Detector) (file : NativeName) : Moment → List Event → Moment → Prop
  | refl (m : Moment) : Leads detect file m [] m
  | step {m m' : Moment} {event : Event} {events : List Event} : m.Allows file event →
    Leads detect file (m.after detect event) events m' →
      Leads detect file m (event :: events) m'

variable {m : Moment} {i j : Nat} {d : Database} {p : Phase}

@[simp] theorem move_phase_self : (m.move i d p).phase i = p := if_pos rfl

@[simp] theorem move_phase_of_ne (h : j ≠ i) : (m.move i d p).phase j = m.phase j := if_neg h

end Moment

/-! ### What is recorded of a file -/

section Recorded

variable {detect : Detector} {tree tree' : FileTree} {file : NativeName} {key content : Text}
  {stamp : Double} {c : Candidate} {s s' s'' : Store}

/-- A time of change and a content that are recorded of a file: the time is no later than that of
the file, and when it is the same, so is the content. -/
def Trails (detect : Detector) (tree : FileTree) (file : NativeName) (stamp : Double)
    (content : Text) : Prop :=
  ∃ e, tree.stat file = .ok e ∧ Double.lt e.stamp stamp = false ∧
    (stamp = e.stamp → readContent detect tree file = .ok content)

/-- A file is remembered under its key, with a time of change that is no later than its own. -/
structure Candidate.Remembers (c : Candidate) (tree : FileTree) (file : NativeName) (key : Text) :
    Prop where
  filename : c.filename = file
  path : c.path = key
  stamp : ∃ e, tree.stat file = .ok e ∧ Double.lt e.stamp c.stamp = false

/-- A store whose row of the file trails it. -/
structure Records (detect : Detector) (tree : FileTree) (file : NativeName) (key : Text)
    (s : Store) : Prop where
  reachable : s.Reachable
  row : ∀ d, s.get? key = some d →
    ∃ x, d.timestamp = .number x ∧ Trails detect tree file x d.content

/-- The row of a key stays, and its time of change does not go back. -/
def Advances (key : Text) (s s' : Store) : Prop :=
  ∀ d, s.get? key = some d → ∃ d', s'.get? key = some d' ∧ NotEarlier d d'

/-- A store that may be made final after another. -/
structure Follows (detect : Detector) (tree : FileTree) (file : NativeName) (key : Text)
    (s s' : Store) : Prop where
  records : Records detect tree file key s'
  advances : Advances key s s'

theorem Advances.trans (h : Advances key s s') (h' : Advances key s' s'') :
    Advances key s s'' := by
  intro d hd
  obtain ⟨d', hd', hle⟩ := h d hd
  obtain ⟨d'', hd'', hle'⟩ := h' d' hd'
  exact ⟨d'', hd'', hle.trans hle'⟩

theorem Records.follows_refl (h : Records detect tree file key s) :
    Follows detect tree file key s s := by
  refine ⟨h, fun d hd => ⟨d, hd, ?_⟩⟩
  obtain ⟨x, hx, -⟩ := h.row d hd
  exact ⟨x, x, hx, hx, Double.lt_irrefl x⟩

/-- A row that is not older than a file stays so. -/
theorem Advances.current (h : Advances key s s')
    (hrow : AddResult.unchanged.Answers (s.get? key) stamp) :
    AddResult.unchanged.Answers (s'.get? key) stamp := by
  obtain ⟨d, x, hd, hx, hlt⟩ := hrow
  obtain ⟨d', hd', y, y', hy, hy', hle⟩ := h d hd
  cases hx.symm.trans hy
  exact ⟨d', y', hd', hy', Double.not_lt_trans hlt hle⟩

/-- What was read of a file trails it, when the file was asked for its time of change before. -/
theorem Candidate.Remembers.trails (h : c.Remembers tree file key)
    (hread : readContent detect tree c.filename = .ok content) :
    Trails detect tree file c.stamp content := by
  obtain ⟨e, he, hle⟩ := h.stamp
  exact ⟨e, he, hle, fun _ => h.filename ▸ hread⟩

/-! ### A replacement of the file -/

/-- What was no later than the file is earlier after a replacement. -/
theorem Replaces.lt (h : Replaces tree tree' file)
    (hstamp : ∃ e, tree.stat file = .ok e ∧ Double.lt e.stamp stamp = false) :
    ∃ e', tree'.stat file = .ok e' ∧ Double.lt stamp e'.stamp = true := by
  obtain ⟨e, e', he, he', hlt⟩ := h
  obtain ⟨_, he₂, hle⟩ := hstamp
  cases he.symm.trans he₂
  refine ⟨e', he', ?_⟩
  by_contra hnot
  rw [Double.not_lt_trans (Bool.eq_false_iff.mpr hnot) hle] at hlt
  cases hlt

/-- What was recorded of a file trails it also after a replacement, whatever the content is: under
the new time of change nothing was recorded. -/
theorem Trails.replace (h : Trails detect tree file stamp content)
    (hreplaces : Replaces tree tree' file) : Trails detect tree' file stamp content := by
  obtain ⟨e, he, hle, -⟩ := h
  obtain ⟨e', he', hlt⟩ := hreplaces.lt ⟨e, he, hle⟩
  refine ⟨e', he', Double.lt_asymm hlt, ?_⟩
  rintro rfl
  rw [Double.lt_irrefl] at hlt
  cases hlt

theorem Candidate.Remembers.replace (h : c.Remembers tree file key)
    (hreplaces : Replaces tree tree' file) : c.Remembers tree' file key := by
  obtain ⟨e', he', hlt⟩ := hreplaces.lt h.stamp
  exact ⟨h.filename, h.path, e', he', Double.lt_asymm hlt⟩

theorem Records.replace (h : Records detect tree file key s)
    (hreplaces : Replaces tree tree' file) : Records detect tree' file key s := by
  refine ⟨h.reachable, fun d hd => ?_⟩
  obtain ⟨x, hx, htrails⟩ := h.row d hd
  exact ⟨x, hx, htrails.replace hreplaces⟩

/-! ### A row is put -/

/-- A row that is put where there is none, or an older one, leads to a store that may be made
final. -/
theorem follows_of_puts {d : Document} {r : AddResult} (hc : c.path = key)
    (htrails : Trails detect tree file c.stamp content) (hrow : r.Answers (s.get? key) c.stamp)
    (hr : r ≠ .unchanged) (hd : d.toContents = c.contents content) (hputs : s.Puts s' d)
    (hs' : s'.Reachable) :
    Follows detect tree file key s s' ∧
      AddResult.unchanged.Answers (s'.get? key) c.stamp := by
  have hpath : d.path = key := (congrArg Contents.path hd).trans hc
  have hstamp : d.timestamp = .number c.stamp := congrArg Contents.timestamp hd
  have hnew : s'.get? key = some d := hpath ▸ hputs.get?_eq_some hs'.sound
  refine ⟨⟨⟨hs', ?_⟩, ?_⟩, d, c.stamp, hnew, hstamp, Double.lt_irrefl _⟩
  · intro d' hd'
    cases hnew.symm.trans hd'
    rw [show d.content = content from congrArg Contents.content hd]
    exact ⟨c.stamp, hstamp, htrails⟩
  · intro old hold
    rw [hold] at hrow
    cases r with
    | new => cases hrow
    | updated =>
      obtain ⟨_, x, ⟨⟩, hx, hlt⟩ := hrow
      exact ⟨d, hnew, x, c.stamp, hx, hstamp, Double.lt_asymm hlt⟩
    | unchanged => exact absurd rfl hr

end Recorded

/-! ### One step of one call -/

/-- What is so of a call in each phase: what it remembers of the file trails it, only a call in
its transaction has a store of its own, and a call that has returned has left a row that is not
older than what it remembers. -/
def Phase.Fits (detect : Detector) (tree : FileTree) (file : NativeName) (key : Text)
    (d : Database) (i : Nat) : Phase → Prop
  | .idle => True
  | .prepared c => c.Remembers tree file key
  | .begun c => c.Remembers tree file key ∧ d.pending = some (i, d.committed)
  | .found c row => c.Remembers tree file key ∧ d.pending = some (i, d.committed) ∧
      row = d.committed.get? key
  | .filled c r content => c.path = key ∧ Trails detect tree file c.stamp content ∧
      d.pending = some (i, d.committed) ∧ r.Answers (d.committed.get? key) c.stamp ∧
      r ≠ .unchanged
  | .written c _ => ∃ s, d.pending = some (i, s) ∧ Follows detect tree file key d.committed s ∧
      AddResult.unchanged.Answers (s.get? key) c.stamp
  | .failing _ => ∃ s, d.pending = some (i, s)
  | .returned c _ => AddResult.unchanged.Answers (d.committed.get? key) c.stamp
  | .failed _ => True

/-- What the call of a handle does when it gets to a phase: the database stays as it is, or the
handle alone is in a transaction, before and after, and what is made final follows what was. -/
structure Moves (detect : Detector) (tree : FileTree) (file : NativeName) (key : Text) (i : Nat)
    (d : Database) (s : Database × Phase) : Prop where
  fits : s.2.Fits detect tree file key s.1 i
  inside : ∀ own, s.1.pending = some (i, own) → s.2.isInside = true
  database : s.1 = d ∨ (Follows detect tree file key d.committed s.1.committed ∧
    (∀ w own, d.pending = some (w, own) → w = i) ∧ ∀ w own, s.1.pending = some (w, own) → w = i)

namespace Phase

variable {detect : Detector} {tree tree' : FileTree} {file : NativeName} {key : Text}
  {d d' : Database} {i : Nat} {p : Phase}

/-- A call in its transaction has a store of its own. -/
theorem Fits.exists_pending (h : p.Fits detect tree file key d i) (hp : p.isInside = true) :
    ∃ s, d.pending = some (i, s) := by
  cases p with
  | begun c => exact ⟨_, h.2⟩
  | found c row => exact ⟨_, h.2.1⟩
  | filled c r content => exact ⟨_, h.2.2.1⟩
  | written c r =>
    obtain ⟨s, hs, -⟩ := h
    exact ⟨s, hs⟩
  | failing e => exact h
  | _ => cases hp

/-- Outside its transaction a call does not mind what others make final. -/
theorem Fits.advance (h : p.Fits detect tree file key d i) (hp : p.isInside = false)
    (hadvances : Advances key d.committed d'.committed) : p.Fits detect tree file key d' i := by
  cases p with
  | idle => trivial
  | prepared c => exact h
  | returned c r => exact hadvances.current h
  | failed e => trivial
  | _ => cases hp

/-- A replacement of the file changes nothing of what is so of a call. -/
theorem Fits.replace (h : p.Fits detect tree file key d i)
    (hreplaces : Replaces tree tree' file) : p.Fits detect tree' file key d i := by
  cases p with
  | idle => trivial
  | prepared c => exact h.replace hreplaces
  | begun c => exact ⟨h.1.replace hreplaces, h.2⟩
  | found c row => exact ⟨h.1.replace hreplaces, h.2⟩
  | filled c r content => exact ⟨h.1, h.2.1.replace hreplaces, h.2.2⟩
  | written c r =>
    obtain ⟨s, hs, hfollows, hrow⟩ := h
    exact ⟨s, hs, ⟨hfollows.records.replace hreplaces, hfollows.advances⟩, hrow⟩
  | failing e => exact h
  | returned c r => exact h
  | failed e => trivial

/-- A call that gets to a phase and leaves the database as it is. -/
theorem Fits.moves (h : p.Fits detect tree file key d i)
    (hinside : ∀ s, d.pending = some (i, s) → p.isInside = true) :
    Moves detect tree file key i d (d, p) := ⟨h, hinside, .inl rfl⟩

/-- The handle in the transaction that is open is the only one in it. -/
theorem eq_of_pending {s : Store} (h : d.pending = some (i, s)) (w : Nat) (own : Store)
    (hw : d.pending = some (w, own)) : w = i := by
  cases h.symm.trans hw
  rfl

/-- A call begins its transaction, unless another handle is in one. -/
theorem Fits.moves_prepared {c : Candidate} (h : (prepared c).Fits detect tree file key d i)
    (hrecords : Records detect tree file key d.committed)
    (hinside : ∀ s, d.pending = some (i, s) → (prepared c).isInside = true) :
    Moves detect tree file key i d ((prepared c).nextOn detect tree d i) := by
  rcases hpending : d.pending with _ | ⟨w, s⟩
  · rw [Phase.nextOn, Database.view_of_free hpending]
    refine ⟨⟨h, rfl⟩, fun _ _ => rfl, .inr ⟨hrecords.follows_refl, ?_, eq_of_pending rfl⟩⟩
    intro w s hw
    rw [hpending] at hw
    cases hw
  · have hw : w ≠ i := by
      rintro rfl
      cases hinside s hpending
    have hview := Database.view_of_other hpending hw
    rw [nextOn_of_view (q := .failed (.store .locked)) (by rw [hview]; rfl)]
    exact Fits.moves trivial (fun s' hs' => absurd (eq_of_pending hs' w s hpending) hw)

/-- A call that has read the file puts its row into the store of its own, or fails. -/
theorem Fits.moves_filled {c : Candidate} {r : AddResult} {content : Text}
    (h : (filled c r content).Fits detect tree file key d i)
    (hrecords : Records detect tree file key d.committed) :
    Moves detect tree file key i d ((filled c r content).nextOn detect tree d i) := by
  obtain ⟨hc, htrails, hpending, hrow, hr⟩ := h
  have hview := Database.view_of_own hpending
  cases hput : c.put content (d.view i) r with
  | error e =>
    rw [nextOn_of_view (q := .failing (.store e)) (by simp only [next, hput])]
    exact Fits.moves ⟨_, hpending⟩ (fun _ _ => rfl)
  | ok t' =>
    rw [hview] at hput
    obtain ⟨s', row, rfl, hrow', hputs, hs'⟩ :=
      Candidate.put_eq_ok rfl hrecords.reachable (hc ▸ hrow) hr hput
    rw [Phase.nextOn, hview]
    simp only [next, hput]
    obtain ⟨hfollows, hcurrent⟩ := follows_of_puts hc htrails hrow hr hrow' hputs hs'
    exact ⟨⟨s', rfl, hfollows, hcurrent⟩, fun _ _ => rfl,
      .inr ⟨hrecords.follows_refl, eq_of_pending hpending, eq_of_pending rfl⟩⟩

/-- A transaction that ends leaves nobody in one. -/
theorem eq_of_none (w : Nat) (s : Store) (h : (none : Option (Nat × Store)) = some (w, s)) :
    w = i := by cases h

/-- What one step of one call does. -/
theorem Fits.nextOn (h : p.Fits detect tree file key d i)
    (hrecords : Records detect tree file key d.committed)
    (hinside : ∀ s, d.pending = some (i, s) → p.isInside = true) :
    Moves detect tree file key i d (p.nextOn detect tree d i) := by
  cases p with
  | idle => rw [nextOn_of_view rfl]; exact Fits.moves h hinside
  | prepared c => exact Fits.moves_prepared h hrecords hinside
  -- the row is looked up in the view of its own transaction, which is what is committed
  | begun c =>
    obtain ⟨hc, hpending⟩ := h
    have hview := Database.view_of_own hpending
    rw [nextOn_of_view (q := .found c (d.committed.get? c.path)) (by rw [hview]; rfl)]
    exact Fits.moves ⟨hc, hpending, by rw [hc.path]⟩ (fun _ _ => rfl)
  | found c row =>
    obtain ⟨hc, hpending, rfl⟩ := h
    obtain ⟨q, hq, hcases⟩ := next_found (d.view i) c (d.committed.get? key)
    rw [nextOn_of_view hq]
    rcases hcases with ⟨e, rfl⟩ | ⟨rfl, hrow⟩ | ⟨r, content, rfl, hrow, hr, hread⟩
    · exact Fits.moves ⟨_, hpending⟩ (fun _ _ => rfl)
    · exact Fits.moves ⟨_, hpending, hrecords.follows_refl, hrow⟩ (fun _ _ => rfl)
    · exact Fits.moves ⟨hc.path, hc.trails hread, hpending, hrow, hr⟩ (fun _ _ => rfl)
  | filled c r content => exact Fits.moves_filled h hrecords
  -- the transaction ends: what was pending is committed
  | written c r =>
    obtain ⟨s, hpending, hfollows, hrow⟩ := h
    rw [Phase.nextOn, Database.view_of_own hpending]
    refine ⟨hrow, ?_, .inr ⟨hfollows, eq_of_pending hpending, eq_of_none⟩⟩
    rintro s ⟨⟩
  -- the transaction ends: what was pending is forgotten
  | failing e =>
    obtain ⟨s, hpending⟩ := h
    rw [Phase.nextOn, Database.view_of_own hpending]
    refine ⟨trivial, ?_, .inr ⟨hrecords.follows_refl, eq_of_pending hpending, eq_of_none⟩⟩
    rintro s ⟨⟩
  | returned c r => rw [nextOn_of_view rfl]; exact Fits.moves h hinside
  | failed e => rw [nextOn_of_view rfl]; exact Fits.moves h hinside

end Phase

/-- What a call makes final follows what was. -/
theorem Moves.follows {detect : Detector} {tree : FileTree} {file : NativeName} {key : Text}
    {i : Nat} {d : Database} {s : Database × Phase} (h : Moves detect tree file key i d s)
    (hrecords : Records detect tree file key d.committed) :
    Follows detect tree file key d.committed s.1.committed := by
  rcases h.database with hsame | ⟨hfollows, -, -⟩
  · rw [hsame]
    exact hrecords.follows_refl
  · exact hfollows

/-! ### Every moment of a run -/

namespace Moment

/-- Whatever is recorded, remembered or about to be recorded of the file trails it, and a
transaction belongs to a handle that is in it. -/
structure Sound (detect : Detector) (file : NativeName) (key : Text) (m : Moment) : Prop where
  present : ∃ e, m.tree.stat file = .ok e
  records : Records detect m.tree file key m.database.committed
  fits : ∀ i, (m.phase i).Fits detect m.tree file key m.database i
  inside : ∀ i s, m.database.pending = some (i, s) → (m.phase i).isInside = true

/-- A moment at which no call was made yet, and what is recorded of the file trails it. -/
structure Begins (detect : Detector) (file : NativeName) (key : Text) (m : Moment) : Prop where
  present : ∃ e, m.tree.stat file = .ok e
  records : Records detect m.tree file key m.database.committed
  free : m.database.pending = none
  idle : ∀ i, m.phase i = .idle

variable {detect : Detector} {file : NativeName} {key : Text} {m m' : Moment} {i j : Nat}
  {event : Event} {events : List Event}

theorem Begins.sound (h : m.Begins detect file key) : m.Sound detect file key where
  present := h.present
  records := h.records
  fits := fun i => by
    rw [h.idle i]
    trivial
  inside := fun i s hs => nomatch h.free.symm.trans hs

/-- At most one handle is in its transaction. -/
theorem Sound.eq_of_isInside (h : m.Sound detect file key) (hi : (m.phase i).isInside = true)
    (hj : (m.phase j).isInside = true) : i = j := by
  obtain ⟨s, hs⟩ := (h.fits i).exists_pending hi
  obtain ⟨s', hs'⟩ := (h.fits j).exists_pending hj
  exact Phase.eq_of_pending hs' i s hs

/-- One call goes on, and the others do not mind. -/
theorem Sound.move (h : m.Sound detect file key) {s : Database × Phase}
    (hmoves : Moves detect m.tree file key i m.database s) :
    (m.move i s.1 s.2).Sound detect file key := by
  have hfollows := hmoves.follows h.records
  refine ⟨h.present, hfollows.records, ?_, ?_⟩
  · intro j
    by_cases hj : j = i
    · subst hj
      rw [move_phase_self]
      exact hmoves.fits
    · rw [move_phase_of_ne hj]
      rcases hmoves.database with hsame | ⟨-, hbefore, -⟩
      · show (m.phase j).Fits detect m.tree file key s.1 j
        rw [hsame]
        exact h.fits j
      · -- another handle is outside its transaction
        refine (h.fits j).advance (Bool.eq_false_iff.mpr fun hinside => hj ?_) hfollows.advances
        obtain ⟨own, hown⟩ := (h.fits j).exists_pending hinside
        exact hbefore j own hown
  · intro j own hown
    by_cases hj : j = i
    · subst hj
      rw [move_phase_self]
      exact hmoves.inside own hown
    · rw [move_phase_of_ne hj]
      rcases hmoves.database with hsame | ⟨-, -, hafter⟩
      · exact h.inside j own (hsame ▸ hown)
      · exact absurd (hafter j own hown) hj

/-- A call that begins remembers the file as it is. -/
theorem fits_start {tree : FileTree} {d : Database} {directory rest : NativeName}
    {name : Option NativeName} (hkey : keyOf detect file = .ok key)
    (hfile : absoluteName (Path.join directory rest) = file) :
    (Phase.start detect tree directory rest name).Fits detect tree file key d i := by
  unfold Phase.start
  split
  · trivial
  · next c hc =>
    have hdescribes := Candidate.prepare_eq_ok_iff.mp hc
    have hfilename := hdescribes.filename.trans hfile
    obtain ⟨e, he, hstamp⟩ := hdescribes.stamp
    refine ⟨hfilename, Except.ok.inj (hdescribes.path.symm.trans (hfilename ▸ hkey)), e,
      hfilename ▸ he, ?_⟩
    rw [hstamp]
    exact Double.lt_irrefl _

/-- Every event that is not a replacement of the file is a move of one handle. -/
theorem Sound.exists_moves (h : m.Sound detect file key) (hkey : keyOf detect file = .ok key)
    (hallows : m.Allows file event) (hwrite : ∀ tree, event ≠ .write tree) :
    ∃ i s, Moves detect m.tree file key i m.database s ∧
      m.after detect event = m.move i s.1 s.2 := by
  cases event with
  | write tree => exact absurd rfl (hwrite tree)
  | start i directory rest name =>
    refine ⟨i, (m.database, Phase.start detect m.tree directory rest name), ?_, rfl⟩
    refine (fits_start hkey hallows.1).moves (fun s hs => ?_)
    have hinside := h.inside i s hs
    rw [Phase.isInside_of_isAtRest hallows.2] at hinside
    cases hinside
  | step i => exact ⟨i, _, (h.fits i).nextOn h.records (h.inside i), rfl⟩
  | interrupt i e =>
    refine ⟨i, (m.database, .failing e), ?_, rfl⟩
    exact Phase.Fits.moves ((h.fits i).exists_pending hallows) (fun _ _ => rfl)

/-- **Every event keeps the invariant**, and no time of change goes back. -/
theorem Sound.after (h : m.Sound detect file key) (hkey : keyOf detect file = .ok key)
    (hallows : m.Allows file event) :
    (m.after detect event).Sound detect file key ∧
      Advances key m.database.committed (m.after detect event).database.committed := by
  by_cases hwrite : ∃ tree, event = .write tree
  · obtain ⟨tree, rfl⟩ := hwrite
    have hreplaces : Replaces m.tree tree file := hallows
    obtain ⟨-, e', -, he', -⟩ := id hreplaces
    refine ⟨⟨⟨e', he'⟩, h.records.replace hreplaces, fun i => (h.fits i).replace hreplaces,
      h.inside⟩, h.records.follows_refl.advances⟩
  · obtain ⟨i, s, hmoves, heq⟩ := h.exists_moves hkey hallows (fun tree ht => hwrite ⟨tree, ht⟩)
    rw [heq]
    exact ⟨h.move hmoves, (hmoves.follows h.records).advances⟩

/-- A whole run keeps the invariant, and no time of change goes back in it. -/
theorem Leads.sound (hrun : Leads detect file m events m') (hkey : keyOf detect file = .ok key) :
    m.Sound detect file key → m'.Sound detect file key ∧
      Advances key m.database.committed m'.database.committed := by
  induction hrun with
  | refl m => exact fun h => ⟨h, h.records.follows_refl.advances⟩
  | step hallows _ ih =>
    intro h
    obtain ⟨hnext, hadvances⟩ := h.after hkey hallows
    obtain ⟨hsound, hadvances'⟩ := ih hnext
    exact ⟨hsound, hadvances.trans hadvances'⟩

/-! ### Calls that begin after the last replacement -/

/-- What a call remembers is the time of change of now. -/
def Punctual (tree : FileTree) (file : NativeName) (p : Phase) : Prop :=
  ∀ c, p.candidate? = some c → ∃ e, tree.stat file = .ok e ∧ c.stamp = e.stamp

theorem punctual_start {tree : FileTree} {directory rest : NativeName} {name : Option NativeName}
    (hfile : absoluteName (Path.join directory rest) = file) :
    Punctual tree file (Phase.start detect tree directory rest name) := by
  intro c hc
  unfold Phase.start at hc
  split at hc
  · cases hc
  · next hprepare =>
    cases hc
    have hdescribes := Candidate.prepare_eq_ok_iff.mp hprepare
    obtain ⟨e, he, hstamp⟩ := hdescribes.stamp
    rw [hdescribes.filename.trans hfile] at he
    exact ⟨e, he, hstamp⟩

/-- As long as the file is not replaced, a call that is punctual stays so. -/
theorem Punctual.after (h : Punctual m.tree file (m.phase i)) (hallows : m.Allows file event)
    (hwrite : ∀ tree, event ≠ .write tree) :
    (m.after detect event).tree = m.tree ∧
      Punctual m.tree file ((m.after detect event).phase i) := by
  have hmove : ∀ {j : Nat} {d : Database} {p : Phase}, (j = i → Punctual m.tree file p) →
      Punctual m.tree file ((m.move j d p).phase i) := by
    intro j d p hp
    by_cases hj : i = j
    · subst hj
      rw [move_phase_self]
      exact hp rfl
    · rw [move_phase_of_ne hj]
      exact h
  cases event with
  | write tree => exact absurd rfl (hwrite tree)
  | start j directory rest name => exact ⟨rfl, hmove fun _ => punctual_start hallows.1⟩
  | step j =>
    refine ⟨rfl, hmove fun hj c hc => h c ?_⟩
    subst hj
    exact Phase.candidate?_next hc
  | interrupt j e => exact ⟨rfl, hmove fun _ c hc => nomatch hc⟩

theorem Punctual.leads (hrun : Leads detect file m events m') :
    (∀ tree, Event.write tree ∉ events) → Punctual m.tree file (m.phase i) →
      Punctual m'.tree file (m'.phase i) := by
  induction hrun with
  | refl m => exact fun _ h => h
  | step hallows _ ih =>
    intro hwrite h
    obtain ⟨htree, hnext⟩ :=
      h.after hallows (fun tree ht => hwrite tree (ht ▸ List.mem_cons_self))
    refine ih (fun tree ht => hwrite tree (List.mem_cons_of_mem _ ht)) ?_
    rw [htree]
    exact hnext

/-- A call that is punctual and has returned has left the content of now. -/
theorem Sound.exists_current (h : m.Sound detect file key)
    (hpunctual : Punctual m.tree file (m.phase i)) {r : AddResult}
    (hanswer : (m.phase i).answer? = some r) :
    ∃ d e, m.database.committed.get? key = some d ∧ m.tree.stat file = .ok e ∧
      d.timestamp = .number e.stamp ∧ readContent detect m.tree file = .ok d.content := by
  have hfits := h.fits i
  cases hphase : m.phase i with
  | returned c r' =>
    rw [hphase] at hfits hpunctual
    obtain ⟨e, he, hstamp⟩ := hpunctual c rfl
    obtain ⟨d, x, hd, hx, hlt⟩ := hfits
    obtain ⟨y, hy, _, he', hle, hcontent⟩ := h.records.row d hd
    cases hx.symm.trans hy
    cases he.symm.trans he'
    -- the time of change of the row is neither later nor earlier than that of the file
    have hx' : x = e.stamp := Double.eq_of_not_lt (hstamp ▸ hlt) hle
    exact ⟨d, e, hd, he, hx' ▸ hx, hcontent hx'⟩
  | _ =>
    rw [hphase] at hanswer
    cases hanswer

/-- **However the calls of any number of handles and the replacements of the file follow each
other, step by step**, from a moment at which the row of the file is missing, older than the file,
or current:

* at most one handle is in its transaction, and at most one row is made final under the key;
* the row that is made final stays from then on, and its time of change never goes back;
* when its time of change is that of the file, its content is that of the file;
* a call that begins after the last replacement, and returns, leaves the content of the file, and
  it stays until the next replacement. -/
theorem law_of_interleaving (hkey : keyOf detect file = .ok key) (hm : m.Begins detect file key)
    (hrun : Leads detect file m events m') :
    (∀ i j, (m'.phase i).isInside = true → (m'.phase j).isInside = true → i = j) ∧
    (∀ d ∈ m'.database.committed.documents, ∀ d' ∈ m'.database.committed.documents,
      d.path = key → d'.path = key → d = d') ∧
    (∀ later m'' d, Leads detect file m' later m'' → m'.database.committed.get? key = some d →
      ∃ d', m''.database.committed.get? key = some d' ∧ NotEarlier d d') ∧
    (∀ d e, m'.database.committed.get? key = some d → m'.tree.stat file = .ok e →
      d.timestamp = .number e.stamp → readContent detect m'.tree file = .ok d.content) ∧
    (∀ i directory rest name later m'' r,
      Leads detect file m' (.start i directory rest name :: later) m'' →
      (∀ tree, Event.write tree ∉ later) → (m''.phase i).answer? = some r →
      ∃ d e, m''.database.committed.get? key = some d ∧ m''.tree.stat file = .ok e ∧
        d.timestamp = .number e.stamp ∧ readContent detect m''.tree file = .ok d.content) := by
  have hsound := (hrun.sound hkey hm.sound).1
  refine ⟨fun _ _ => hsound.eq_of_isInside, ?_, ?_, ?_, ?_⟩
  · intro d hd d' hd' hpath hpath'
    exact hsound.records.reachable.sound.eq_of_path hd hd' (hpath.trans hpath'.symm)
  · exact fun later m'' d hlater hd => (hlater.sound hkey hsound).2 d hd
  · intro d e hd he hstamp
    obtain ⟨x, hx, _, he', -, hcontent⟩ := hsound.records.row d hd
    cases he.symm.trans he'
    cases hstamp.symm.trans hx
    exact hcontent rfl
  · intro i directory rest name later m'' r hlater hwrite hanswer
    have hlast := (hlater.sound hkey hsound).1
    obtain - | ⟨hallows, hlater⟩ := hlater
    refine hlast.exists_current (Punctual.leads hlater hwrite ?_) hanswer
    rw [after, move_phase_self]
    exact punctual_start hallows.1

/-- No call was made yet, and the file of the tree with one file was changed at a time. -/
def opening (changed : Int) : Moment := ⟨Table.lone changed, {}, fun _ => .idle⟩

/-- The tree after its file got another content. -/
def rewritten (changed : Int) : FileTree :=
  ⟨[([[0x70]], .directory 0), ([[0x70], [0x61]], .file (.octets [0x79]) changed)]⟩

/-- A handle begins a call on the file of such a tree. -/
def starting (i : Nat) : Event :=
  .start i (NativeName.ofText ['/', 'p']) (NativeName.ofText ['a']) none

/-- A call goes on until it has ended. -/
def finishing (i : Nat) : List Event := [.step i, .step i, .step i, .step i, .step i]

theorem leads_finishing (m : Moment) (i : Nat) :
    Leads detect file m (finishing i) ((finishing i).foldl (Moment.after detect) m) :=
  .step trivial <| .step trivial <| .step trivial <| .step trivial <| .step trivial <| .refl _

theorem leads_starting (m : Moment) (i : Nat) (h : (m.phase i).isAtRest = true) :
    Leads detect (NativeName.ofText "/p/a".toList) m (starting i :: finishing i)
      ((starting i :: finishing i).foldl (Moment.after detect) m) :=
  .step ⟨by decide +kernel, h⟩ (leads_finishing _ i)

/-- A call is overtaken by a replacement of its file. -/
def overtaken : Moment :=
  (starting 0 :: .write (rewritten 2000) :: finishing 0).foldl
    (Moment.after (Detector.constant none)) (opening 1000)

/-- Another call follows it. -/
def caughtUp : Moment :=
  (starting 1 :: finishing 1).foldl (Moment.after (Detector.constant none)) overtaken

/-- A call that is overtaken by a replacement records the new content under the old time of change;
a call that begins after it brings the row up to date. -/
theorem law_of_interleaving_overtaken :
    (overtaken.database.committed.get? "/p/a".toList).map (fun d => (d.timestamp, d.content)) =
      some (.number (.ofNanoseconds 1000), ['y']) ∧
    ∃ d e, caughtUp.database.committed.get? "/p/a".toList = some d ∧
      caughtUp.tree.stat (NativeName.ofText "/p/a".toList) = .ok e ∧
      d.timestamp = .number e.stamp ∧ readContent (Detector.constant none) caughtUp.tree
        (NativeName.ofText "/p/a".toList) = .ok d.content := by
  have hbegins : (opening 1000).Begins (Detector.constant none)
      (NativeName.ofText "/p/a".toList) "/p/a".toList :=
    ⟨⟨.file (.octets [0x78]) 1000, by decide +kernel⟩, ⟨.empty, nofun⟩, rfl, fun _ => rfl⟩
  have hreplaces : Replaces (Table.lone 1000) (rewritten 2000) (NativeName.ofText "/p/a".toList) :=
    ⟨.file (.octets [0x78]) 1000, .file (.octets [0x79]) 2000, by decide +kernel,
      by decide +kernel, by decide +kernel⟩
  have hrun : Leads (Detector.constant none) (NativeName.ofText "/p/a".toList) (opening 1000)
      (starting 0 :: .write (rewritten 2000) :: finishing 0) overtaken :=
    .step ⟨by decide +kernel, rfl⟩ <| .step hreplaces <| leads_finishing _ 0
  have hlater : Leads (Detector.constant none) (NativeName.ofText "/p/a".toList) overtaken
      (starting 1 :: finishing 1) caughtUp := leads_starting overtaken 1 (by decide +kernel)
  obtain ⟨-, -, -, -, hlast⟩ := law_of_interleaving (by decide +kernel) hbegins hrun
  refine ⟨by decide +kernel, hlast 1 _ _ none _ _ .updated hlater ?_ (by decide +kernel)⟩
  simp [finishing]

end Moment

end PackageCatalog
