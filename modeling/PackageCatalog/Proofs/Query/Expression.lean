import PackageCatalog.Store.Truth

/-!
# Reading a condition

A condition in SQL is a text, and what it says is settled by the grammar of SQL.  Characters make up
tokens, tokens make up comparisons, constants, connectives and parentheses, and from these a
condition is put together: AND binds tighter than OR, both go from left to right, and parentheses
come first.  Only the comparisons of a column with a parameter mark are read, by equality on the
document table and by pattern on the text index, each by the alias of its table.

## Main definitions

* `Expression` — a condition with marks, and `Expression.truth`, its value on a row when the marks
  are bound from left to right.
* `Reader` — a machine that gathers what it reads into larger pieces.
* `tokens`, `phrases` — the tokens of a text, and the pieces that they make up.
* `Grammar` — how pieces make up a condition.
* `Reads` — what a text says.

## Main results

* `Reader.run_delimited` — what stands before a delimiter is read by itself.
* `Grammar.unique` — **pieces make up one condition at most.**
* `Reads.unique` — a text says one thing at most.
-/

namespace PackageCatalog.Sql

/-! ### Conditions with marks -/

/-- The words that join conditions. -/
inductive Connective
  | and
  | or
  deriving DecidableEq, Repr

namespace Connective

/-- A connective as it is written. -/
def name : Connective → Text
  | and => "AND".toList
  | or => "OR".toList

/-- A connective between two conditions. -/
def text : Connective → Text
  | and => " AND ".toList
  | or => " OR ".toList

/-- A connective as a word. -/
def word : Connective → Text
  | and => "and".toList
  | or => "or".toList

/-- What a connective makes of two truth values. -/
def apply : Connective → Bool → Bool → Bool
  | and => Bool.and
  | or => Bool.or

end Connective

/-- A condition.  Each comparison has one mark. -/
inductive Expression
  | constant (b : Bool)
  /-- A column of the document table is the parameter. -/
  | equal (column : Field)
  /-- A column of the text index matches the parameter, with or without an escape character. -/
  | like (column : Field) (escape : Option Char)
  | join (w : Connective) (a b : Expression)
  deriving DecidableEq, Repr

namespace Expression

/-- The value of a condition on a row, and the parameters that are left: the marks take them from
left to right.  There is no value when there are too few. -/
def eval (row : Row) : Expression → List Text → Option (Bool × List Text)
  | constant b, values => some (b, values)
  | equal _, [] => none
  | equal f, v :: values => some (exactHolds f v row.1, values)
  | like _ _, [] => none
  | like f escape, v :: values => some (Like.accepts escape v (row.2.get f), values)
  | join w a b, values =>
    match eval row a values with
    | none => none
    | some (x, values) => (eval row b values).map (fun r => (w.apply x r.1, r.2))

/-- The value of a condition with as many parameters as it has marks. -/
def truth (e : Expression) (row : Row) (values : List Text) : Option Bool :=
  match e.eval row values with
  | some (b, []) => some b
  | _ => none

end Expression

/-! ### Gathering -/

/-- A machine that gathers what it reads into larger pieces.  What has begun either goes on with the
next sign, or ends before it, and that sign begins anew. -/
structure Reader (σ α β : Type) where
  start : σ
  continues : σ → α → Option σ
  flush : σ → Option (List β)
  fresh : α → Option (List β × σ)

namespace Reader

variable {σ α β : Type} (m : Reader σ α β)

/-- What one more sign completes. -/
def step (s : σ) (a : α) : Option (List β × σ) :=
  match m.continues s a with
  | some s' => some ([], s')
  | none =>
    match m.flush s, m.fresh a with
    | some done, some (new, s') => some (done ++ new, s')
    | _, _ => none

/-- The pieces of what is read, if all of it makes up pieces. -/
def run : σ → List α → Option (List β)
  | s, [] => m.flush s
  | s, a :: as =>
    match m.step s a with
    | none => none
    | some (done, s') => (run s' as).map (done ++ ·)

/-- A sign before which everything ends that can end, and after which nothing has begun. -/
structure Delimits (a : α) (new : List β) : Prop where
  fresh : m.fresh a = some (new, m.start)
  ends : ∀ s done, m.flush s = some done → m.continues s a = none

variable {m} {s : σ} {a : α} {as rest : List α} {done new more : List β}

/-- **What stands before a delimiter is read by itself.** -/
theorem run_delimited (ha : m.Delimits a new) (h : m.run s as = some done)
    (hrest : m.run m.start rest = some more) :
    m.run s (as ++ a :: rest) = some (done ++ (new ++ more)) := by
  induction as generalizing s done with
  | nil =>
    rw [run] at h
    rw [List.nil_append, run, step, ha.ends s done h, h, ha.fresh]
    simp [hrest]
  | cons b as ih =>
    rw [run] at h
    rw [List.cons_append, run]
    cases hstep : m.step s b with
    | none => simp [hstep] at h
    | some r =>
      obtain ⟨first, s'⟩ := r
      simp only [hstep, Option.map_eq_some_iff] at h
      obtain ⟨later, hlater, rfl⟩ := h
      simp [ih hlater]

/-- Where nothing has begun, a delimiter is read by itself. -/
theorem run_delimiter (ha : m.Delimits a new) (hstart : m.flush m.start = some [])
    (hrest : m.run m.start rest = some more) : m.run m.start (a :: rest) = some (new ++ more) := by
  have hnil : m.run m.start [] = some [] := hstart
  exact run_delimited ha hnil hrest

end Reader

/-! ### Tokens -/

/-- The tokens of a condition.  Words are told apart up to the case of letters. -/
inductive Token
  | word (w : Text)
  | literal (t : Text)
  | mark
  | dot
  | equals
  | opening
  | closing
  deriving DecidableEq, Repr

/-- The token that a character is by itself. -/
def Token.ofChar? (c : Char) : Option Token :=
  if c = '?' then some mark
  else if c = '.' then some dot
  else if c = '=' then some equals
  else if c = '(' then some opening
  else if c = ')' then some closing
  else none

/-- The characters of names, keywords and numbers. -/
def isWordChar (c : Char) : Bool := c.isAlphanum || c == '_'

/-- What has begun among the characters. -/
inductive Spelling
  | blank
  | word (w : Text)
  /-- A literal in single quotes. -/
  | quoted (t : Text)
  /-- A quote in a literal: its end, or the first half of a quote in it. -/
  | quote (t : Text)

/-- The reader of tokens. -/
def tokenizer : Reader Spelling Char Token where
  start := .blank
  continues
    | .blank, _ => none
    | .word w, c => if isWordChar c then some (.word (w ++ [c])) else none
    | .quoted t, c => some (if c = '\'' then .quote t else .quoted (t ++ [c]))
    | .quote t, c => if c = '\'' then some (.quoted (t ++ [c])) else none
  flush
    | .blank => some []
    | .word w => some [.word (w.map Text.asciiLower)]
    | .quoted _ => none
    | .quote t => some [.literal t]
  fresh c :=
    if c = ' ' then some ([], .blank)
    else if isWordChar c then some ([], .word [c])
    else if c = '\'' then some ([], .quoted [])
    else (Token.ofChar? c).map (fun token => ([token], .blank))

/-- The tokens of a text. -/
def tokens (sql : Text) : Option (List Token) := tokenizer.run .blank sql

/-- A character that stands for itself ends what has begun: a name does not go on with it, and a
literal that goes on with it has no end yet. -/
theorem delimits_of_fresh {c : Char} {new : List Token}
    (hfresh : tokenizer.fresh c = some (new, .blank))
    (hword : isWordChar c = false) (hquote : c ≠ '\'') : tokenizer.Delimits c new where
  fresh := hfresh
  ends := by
    intro s done h
    cases s with
    | blank => rfl
    | word w => exact if_neg (by rw [hword]; exact Bool.false_ne_true)
    | quoted t => cases h
    | quote t => exact if_neg hquote

theorem delimits_opening : tokenizer.Delimits '(' [.opening] :=
  delimits_of_fresh rfl rfl (by decide)

theorem delimits_closing : tokenizer.Delimits ')' [.closing] :=
  delimits_of_fresh rfl rfl (by decide)

/-- A blank ends what has begun, and is nothing itself. -/
theorem delimits_blank : tokenizer.Delimits ' ' [] := delimits_of_fresh rfl rfl (by decide)

/-- The tokens of a text in parentheses. -/
theorem tokens_parens {sql : Text} {ts : List Token} (h : tokens sql = some ts) :
    tokens ('(' :: (sql ++ [')'])) = some (.opening :: (ts ++ [.closing])) := by
  apply Reader.run_delimiter delimits_opening rfl
  exact Reader.run_delimited delimits_closing h rfl

/-- The tokens of a text that joins two others by a connective. -/
theorem tokens_join {w : Connective} {sql sql' : Text} {ts ts' : List Token}
    (h : tokens sql = some ts) (h' : tokens sql' = some ts') :
    tokens (sql ++ (w.text ++ sql')) = some (ts ++ .word w.word :: ts') := by
  -- the word stands between two blanks
  have hword : tokenizer.run .blank (w.name ++ ' ' :: sql') = some (.word w.word :: ts') := by
    have hname : tokenizer.run .blank w.name = some [.word w.word] := by
      cases w <;> rfl
    exact Reader.run_delimited delimits_blank hname h'
  have htext : sql ++ (w.text ++ sql') = sql ++ ' ' :: (w.name ++ ' ' :: sql') := by
    cases w <;> rfl
  rw [htext]
  exact Reader.run_delimited delimits_blank h hword

/-! ### Phrases -/

/-- The pieces that a condition is put together from. -/
inductive Phrase
  | leaf (e : Expression)
  | word (w : Connective)
  | opening
  | closing
  deriving DecidableEq, Repr

/-- What has begun among the tokens: a comparison on the document table, or on the text index. -/
inductive Term
  | clear
  | table (whole : Bool)
  | dotted (whole : Bool)
  | column (whole : Bool) (f : Field)
  | compared (whole : Bool) (f : Field)
  /-- A comparison by pattern that may still get its escape character. -/
  | matched (f : Field)
  | escaped (f : Field)
  | complete (e : Expression)

/-- The reader of phrases. -/
def phraser : Reader Term Token Phrase where
  start := .clear
  continues
    | .table whole, .dot => some (.dotted whole)
    | .dotted true, .word w => (Field.ofName? w).map (.column true)
    | .dotted false, .word w => (Field.textOfName? w).map (.column false)
    | .column true f, .equals => some (.compared true f)
    | .column false f, .word w => if w = "like".toList then some (.compared false f) else none
    | .compared true f, .mark => some (.complete (.equal f))
    | .compared false f, .mark => some (.matched f)
    | .matched f, .word w => if w = "escape".toList then some (.escaped f) else none
    | .escaped f, .literal [c] => some (.complete (.like f (some c)))
    | _, _ => none
  flush
    | .clear => some []
    | .matched f => some [.leaf (.like f none)]
    | .complete e => some [.leaf e]
    | _ => none
  fresh
    | .word w =>
      if w = "and".toList then some ([.word .and], .clear)
      else if w = "or".toList then some ([.word .or], .clear)
      else if w = "0".toList then some ([], .complete (.constant false))
      else if w = "1".toList then some ([], .complete (.constant true))
      else if w = "d".toList then some ([], .table true)
      else if w = "f".toList then some ([], .table false)
      else none
    | .opening => some ([.opening], .clear)
    | .closing => some ([.closing], .clear)
    | _ => none

/-- The phrases of tokens. -/
def phrases (ts : List Token) : Option (List Phrase) := phraser.run .clear ts

/-- A token that is a phrase by itself ends what has begun: only an escape character goes on with a
term that could have ended. -/
theorem delimits_of_fresh_token {token : Token} {new : List Phrase}
    (hfresh : phraser.fresh token = some (new, .clear)) (hescape : token ≠ .word "escape".toList) :
    phraser.Delimits token new where
  fresh := hfresh
  ends := by
    intro s done h
    cases s with
    | clear => rfl
    | complete e => rfl
    | matched f =>
      cases token with
      | word w => exact if_neg (fun hw => hescape (congrArg Token.word hw))
      | _ => rfl
    | _ => cases h

theorem delimits_opening_token : phraser.Delimits .opening [.opening] :=
  delimits_of_fresh_token rfl nofun

theorem delimits_closing_token : phraser.Delimits .closing [.closing] :=
  delimits_of_fresh_token rfl nofun

theorem delimits_word (w : Connective) : phraser.Delimits (.word w.word) [.word w] := by
  cases w with
  | and => exact delimits_of_fresh_token rfl (by decide)
  | or => exact delimits_of_fresh_token rfl (by decide)

/-! ### The grammar -/

/-- How tightly a condition holds together. -/
inductive Level
  | operand
  | conjunction
  | disjunction

/-- The conditions that a connective makes, and the left ones that it joins. -/
def Connective.level : Connective → Level
  | and => .conjunction
  | or => .disjunction

/-- The right conditions that a connective joins. -/
def Connective.under : Connective → Level
  | and => .operand
  | or => .conjunction

/-- How phrases make up a condition. -/
inductive Grammar : Level → List Phrase → Expression → Prop
  | leaf (e : Expression) : Grammar .operand [.leaf e] e
  | parens {ps : List Phrase} {e : Expression} :
    Grammar .disjunction ps e → Grammar .operand (.opening :: (ps ++ [.closing])) e
  | clause {ps : List Phrase} {e : Expression} :
    Grammar .operand ps e → Grammar .conjunction ps e
  | alternative {ps : List Phrase} {e : Expression} :
    Grammar .conjunction ps e → Grammar .disjunction ps e
  | join {w : Connective} {ps qs : List Phrase} {a b : Expression} :
    Grammar w.level ps a → Grammar w.under qs b →
      Grammar w.level (ps ++ .word w :: qs) (.join w a b)

/-! ### One condition at most -/

/-- What stands before an operand within the same parentheses: the disjunction that is complete, and
the conjunction that has begun. -/
structure Frame where
  alternatives : Option Expression := none
  clauses : Option Expression := none

/-- A condition joined to what stands before it. -/
def Expression.after (w : Connective) (e : Expression) : Option Expression → Expression
  | none => e
  | some a => .join w a e

namespace Frame

/-- The conjunction that ends with an operand. -/
def clause (frame : Frame) (e : Expression) : Expression := e.after .and frame.clauses

/-- The disjunction that ends with an operand. -/
def alternative (frame : Frame) (e : Expression) : Expression :=
  (frame.clause e).after .or frame.alternatives

end Frame

/-- How far phrases were read, with the frames of the parentheses that are open: an operand is
wanted, or one was read. -/
inductive Progress
  | wants (outer : List Frame) (frame : Frame)
  | has (outer : List Frame) (frame : Frame) (e : Expression)

namespace Progress

/-- One more phrase is read. -/
def step : Progress → Phrase → Option Progress
  | wants outer frame, .leaf e => some (has outer frame e)
  | wants outer frame, .opening => some (wants (frame :: outer) {})
  | has outer frame e, .word .and =>
    some (wants outer { frame with clauses := some (frame.clause e) })
  | has outer frame e, .word .or =>
    some (wants outer { alternatives := some (frame.alternative e) })
  | has (around :: outer) frame e, .closing => some (has outer around (frame.alternative e))
  | _, _ => none

/-- Phrases are read one after the other. -/
def run : Progress → List Phrase → Option Progress
  | s, [] => some s
  | s, p :: ps => (s.step p).bind (fun s => run s ps)

theorem run_append (s : Progress) (ps qs : List Phrase) :
    s.run (ps ++ qs) = (s.run ps).bind (fun s => s.run qs) := by
  induction ps generalizing s with
  | nil => rfl
  | cons p ps ih =>
    rw [List.cons_append, run, run, Option.bind_assoc]
    exact congrArg _ (funext ih)

end Progress

/-- What reading phrases of a level comes to. -/
def Level.Reaches (ps : List Phrase) (e : Expression) : Level → Prop
  | operand => ∀ outer frame, (Progress.wants outer frame).run ps = some (.has outer frame e)
  | conjunction => ∀ outer frame, frame.clauses = none → ∃ frame' last,
    (Progress.wants outer frame).run ps = some (.has outer frame' last) ∧
      frame'.clause last = e ∧ frame'.alternatives = frame.alternatives
  | disjunction => ∀ outer, ∃ frame last,
    (Progress.wants outer {}).run ps = some (.has outer frame last) ∧ frame.alternative last = e

namespace Grammar

variable {n : Level} {ps : List Phrase} {e e' : Expression}

/-- Phrases that make up a condition are read as that condition. -/
theorem reaches (h : Grammar n ps e) : n.Reaches ps e := by
  induction h with
  | leaf e =>
    intro outer frame
    rfl
  -- the frame that is open waits below that of the parentheses
  | parens _ ih =>
    intro outer frame
    obtain ⟨frame', last, hrun, hlast⟩ := ih (frame :: outer)
    rw [Progress.run, Progress.step, Option.bind_some, Progress.run_append, hrun]
    simp [Progress.run, Progress.step, hlast]
  | clause _ ih =>
    intro outer frame hframe
    exact ⟨frame, _, ih outer frame, by rw [Frame.clause, hframe]; rfl, rfl⟩
  | alternative _ ih =>
    intro outer
    obtain ⟨frame', last, hrun, hlast, halternatives⟩ := ih outer {} rfl
    exact ⟨frame', last, hrun, by rw [Frame.alternative, hlast, halternatives]; rfl⟩
  | @join w ps qs a b _ _ iha ihb =>
    cases w with
    | and =>
      intro outer frame hframe
      obtain ⟨frame', last, hrun, hlast, halternatives⟩ := iha outer frame hframe
      refine ⟨{ frame' with clauses := some a }, b, ?_, rfl, halternatives⟩
      rw [Progress.run_append, hrun, Option.bind_some, Progress.run, Progress.step, hlast]
      exact ihb outer _
    | or =>
      intro outer
      obtain ⟨frame', last, hrun, hlast⟩ := iha outer
      obtain ⟨frame, last', hrun', hlast', halternatives⟩ :=
        ihb outer { alternatives := some a } rfl
      refine ⟨frame, last', ?_, ?_⟩
      · rw [Progress.run_append, hrun, Option.bind_some, Progress.run, Progress.step, hlast]
        exact hrun'
      · rw [Frame.alternative, hlast', halternatives]
        rfl

/-- **Phrases make up one condition at most.** -/
theorem unique (h : Grammar .disjunction ps e) (h' : Grammar .disjunction ps e') : e = e' := by
  obtain ⟨frame, last, hrun, rfl⟩ := h.reaches []
  obtain ⟨frame', last', hrun', rfl⟩ := h'.reaches []
  cases hrun.symm.trans hrun'
  rfl

end Grammar

/-! ### What a text says -/

/-- A text says a condition, that holds together as tightly as a level tells. -/
def Reads (n : Level) (sql : Text) (e : Expression) : Prop :=
  ∃ ts ps, tokens sql = some ts ∧ phrases ts = some ps ∧ Grammar n ps e

namespace Reads

variable {sql sql' : Text} {e e' : Expression}

/-- **A text says one thing at most.** -/
theorem unique (h : Reads .disjunction sql e) (h' : Reads .disjunction sql e') : e = e' := by
  obtain ⟨ts, ps, hts, hps, hgrammar⟩ := h
  obtain ⟨ts', ps', hts', hps', hgrammar'⟩ := h'
  cases hts.symm.trans hts'
  cases hps.symm.trans hps'
  exact hgrammar.unique hgrammar'

/-- In parentheses a text says the same, and holds together. -/
theorem parens (h : Reads .disjunction sql e) : Reads .operand ('(' :: (sql ++ [')'])) e := by
  obtain ⟨ts, ps, hts, hps, hgrammar⟩ := h
  refine ⟨.opening :: (ts ++ [.closing]), .opening :: (ps ++ [.closing]), tokens_parens hts, ?_,
    .parens hgrammar⟩
  apply Reader.run_delimiter delimits_opening_token rfl
  exact Reader.run_delimited delimits_closing_token hps rfl

/-- A text that joins two others by a connective. -/
theorem join {w : Connective} (h : Reads w.level sql e) (h' : Reads w.under sql' e') :
    Reads w.level (sql ++ (w.text ++ sql')) (.join w e e') := by
  obtain ⟨ts, ps, hts, hps, hgrammar⟩ := h
  obtain ⟨ts', ps', hts', hps', hgrammar'⟩ := h'
  exact ⟨ts ++ .word w.word :: ts', ps ++ .word w :: ps', tokens_join hts hts',
    Reader.run_delimited (delimits_word w) hps hps', .join hgrammar hgrammar'⟩

end Reads

/-- AND binds tighter than OR. -/
example : Reads .disjunction "1 OR 1 AND 0".toList
    (.join .or (.constant true) (.join .and (.constant true) (.constant false))) :=
  ⟨_, _, rfl, rfl, .join (w := .or) (.alternative (.clause (.leaf _)))
    (.join (w := .and) (.clause (.leaf _)) (.leaf _))⟩

end PackageCatalog.Sql
