import PackageCatalog.Proofs.Query.Triable
import Mathlib.Data.List.Basic

/-!
# What the filters of a search mean

The filters of a search are compiled to one predicate: a conjunction in which every pattern,
keyword, path and restpath has a clause of its own, while all packages share one and so do all
suffixes.  A category without terms contributes no clause.  Here the meaning of that predicate is
read off the categories, and compared for filters with more terms and with fewer.

## Main definitions

* `SearchOptions.Accepts` — what the filters ask of a document.
* `SearchOptions.WithinLimits` — filters whose predicate keeps within the limits.
* `SearchOptions.SameTerms`, `SearchOptions.Narrows`, `SearchOptions.Widens` — filters beside
  others.

## Main results

* `SearchOptions.satisfies_compile_iff` — **the predicate of the filters means what they ask.**
* `SearchOptions.answerable_compile` — filters within the limits can be answered.
-/

namespace PackageCatalog

/-! ### The meaning of a single term -/

theorem Field.textOfName?_name {f : Field} (hf : f.isText = true) :
    Field.textOfName? f.name.toList = some f := by
  cases f <;> first
    | exact absurd hf (by decide)
    | rfl

namespace Document

variable {d : Document}

/-- A document satisfies a term on a text field if the value occurs in that field. -/
theorem satisfies_token_iff {f : Field} {value text : Text} (hf : f.isText = true)
    (htext : d.get f = .text text) :
    d.Satisfies (.token f value) ↔ TokenMatches value text := by
  constructor
  · intro h
    cases h with
    | token hg ht hmatch =>
      cases (Field.textOfName?_name hf).symm.trans hg
      cases htext.symm.trans ht
      exact hmatch
  · exact fun h => .token (Field.textOfName?_name hf) htext h

theorem satisfies_anyOf_iff {f : Field} {values : List Text} {text : Text} (hf : f.isText = true)
    (htext : d.get f = .text text) :
    d.Satisfies (.anyOf f values) ↔ ∃ v ∈ values, TokenMatches v text := by
  rw [Predicate.anyOf, satisfies_any_iff]
  simp only [List.mem_map, exists_exists_and_eq_and, satisfies_token_iff hf htext]

/-- A list of terms contributes a clause if it is not empty. -/
theorem satisfies_clause_iff {f : Field} {values : List Text} {text : Text} (hf : f.isText = true)
    (htext : d.get f = .text text) :
    (∀ p ∈ (if values.isEmpty then [] else [Predicate.anyOf f values]), d.Satisfies p) ↔
      values = [] ∨ ∃ v ∈ values, TokenMatches v text := by
  cases values with
  | nil => simp
  | cons v vs =>
    rw [List.isEmpty_cons, if_neg Bool.false_ne_true, List.forall_mem_singleton,
      satisfies_anyOf_iff hf htext]
    simp

theorem satisfies_keyword_iff {value : Text} :
    d.Satisfies (.anyField [.content, .restpath, .package] value) ↔
      TokenMatches value d.content ∨ TokenMatches value d.restpath ∨
        TokenMatches value d.package := by
  rw [Predicate.anyField, satisfies_any_iff, List.map_cons, List.map_cons, List.map_cons,
    List.map_nil]
  simp only [List.exists_mem_cons_iff, List.not_mem_nil, false_and, exists_false, or_false]
  rw [satisfies_token_iff (f := .content) rfl rfl, satisfies_token_iff (f := .restpath) rfl rfl,
    satisfies_token_iff (f := .package) rfl rfl]

end Document

namespace SearchOptions

/-! ### The meaning of all filters -/

/-- What the filters of a search ask of a document. -/
structure Accepts (o : SearchOptions) (d : Document) : Prop where
  patterns : ∀ v ∈ o.patterns, TokenMatches v d.content
  keywords : ∀ v ∈ o.keywords,
    TokenMatches v d.content ∨ TokenMatches v d.restpath ∨ TokenMatches v d.package
  packages : o.packages = [] ∨ ∃ v ∈ o.packages, TokenMatches v d.package
  paths : ∀ v ∈ o.paths, TokenMatches v d.path
  restpaths : ∀ v ∈ o.restpaths, TokenMatches v d.restpath
  suffixes : o.suffixes = [] ∨ ∃ v ∈ o.suffixes, TokenMatches v d.suffix

variable {o o' : SearchOptions} {d : Document}

/-- **The predicate of the filters means what they ask.** -/
theorem satisfies_compile_iff : d.Satisfies o.compile ↔ o.Accepts d := by
  rw [compile, Document.satisfies_all_iff]
  simp only [List.forall_mem_append, List.forall_mem_map, Document.satisfies_keyword_iff]
  rw [Document.satisfies_clause_iff (f := .package) rfl rfl,
    Document.satisfies_clause_iff (f := .suffix) rfl rfl]
  simp only [Document.satisfies_token_iff (f := .content) rfl rfl,
    Document.satisfies_token_iff (f := .path) rfl rfl,
    Document.satisfies_token_iff (f := .restpath) rfl rfl]
  constructor
  · rintro ⟨⟨⟨⟨⟨h₁, h₂⟩, h₃⟩, h₄⟩, h₅⟩, h₆⟩
    exact ⟨h₁, h₂, h₃, h₄, h₅, h₆⟩
  · rintro ⟨h₁, h₂, h₃, h₄, h₅, h₆⟩
    exact ⟨⟨⟨⟨⟨h₁, h₂⟩, h₃⟩, h₄⟩, h₅⟩, h₆⟩

/-! ### Limits -/

/-- All terms of all categories. -/
def terms (o : SearchOptions) : List Text :=
  o.patterns ++ o.keywords ++ o.packages ++ o.paths ++ o.restpaths ++ o.suffixes

/-- What holds of every term on a text field, and of a connective when it holds of the children,
holds of the predicate of the filters. -/
theorem compile_of_tokens {P : Predicate → Prop}
    (htoken : ∀ v ∈ o.terms, ∀ f : Field, f.isText = true → P (.token f v))
    (hall : ∀ ps : List Predicate, (∀ p ∈ ps, P p) → P (.all ps))
    (hany : ∀ ps : List Predicate, (∀ p ∈ ps, P p) → P (.any ps)) : P o.compile := by
  have hanyOf : ∀ (f : Field) (values : List Text), f.isText = true → (∀ v ∈ values, v ∈ o.terms) →
      ∀ p ∈ (if values.isEmpty then [] else [Predicate.anyOf f values]), P p := by
    intro f values hf hvalues p hp
    split at hp
    · exact absurd hp List.not_mem_nil
    · rw [List.mem_singleton.mp hp]
      refine hany _ ?_
      simp only [List.forall_mem_map]
      exact fun v hv => htoken v (hvalues v hv) f hf
  -- one goal for each category, in the order of the clauses
  refine hall _ ?_
  simp only [List.forall_mem_append, List.forall_mem_map]
  refine ⟨⟨⟨⟨⟨?_, ?_⟩, ?_⟩, ?_⟩, ?_⟩, ?_⟩
  · exact fun v hv => htoken v (by simp [terms, hv]) .content rfl
  · intro v hv
    have hterm : v ∈ o.terms := by simp [terms, hv]
    refine hany _ ?_
    simp only [List.forall_mem_map, List.forall_mem_cons]
    exact ⟨htoken v hterm _ rfl, htoken v hterm _ rfl, htoken v hterm _ rfl,
      fun _ h => absurd h List.not_mem_nil⟩
  · exact hanyOf .package o.packages rfl (fun v hv => by simp [terms, hv])
  · exact fun v hv => htoken v (by simp [terms, hv]) .path rfl
  · exact fun v hv => htoken v (by simp [terms, hv]) .restpath rfl
  · exact hanyOf .suffix o.suffixes rfl (fun v hv => by simp [terms, hv])

/-- The predicate of the filters can be written as a query. -/
theorem writable_compile (o : SearchOptions) : o.compile.Writable := by
  refine compile_of_tokens ?_ (fun _ => Predicate.writable_all_iff.mpr)
    (fun _ => Predicate.writable_any_iff.mpr)
  exact fun v _ f hf => Predicate.writable_token_iff.mpr ⟨f, Field.textOfName?_name hf⟩

theorem isTriable_compile (h : ∀ v ∈ o.terms, tooLong v = false) : o.compile.isTriable = true := by
  refine compile_of_tokens ?_ (fun _ => Predicate.isTriable_all_iff.mpr)
    (fun _ => Predicate.isTriable_any_iff.mpr)
  intro v hv f _
  rw [Predicate.token, Predicate.isTriable, h v hv]
  rfl

/-- Filters whose predicate is not too deep, and none of whose terms is too long. -/
structure WithinLimits (o : SearchOptions) : Prop where
  fits : Sql.fits o.compile = true
  short : ∀ v ∈ o.terms, tooLong v = false

/-- Filters within the limits can be answered. -/
theorem answerable_compile (h : o.WithinLimits) : o.compile.Answerable where
  writable := writable_compile o
  fits := h.fits
  triable := isTriable_compile h.short

/-! ### Filters beside others -/

/-- Two lists of terms with the same terms, in whatever order and however often. -/
def SameMembers (ts ts' : List Text) : Prop := ∀ v, v ∈ ts ↔ v ∈ ts'

theorem SameMembers.refl (ts : List Text) : SameMembers ts ts := fun _ => Iff.rfl

theorem SameMembers.symm {ts ts' : List Text} (h : SameMembers ts ts') : SameMembers ts' ts :=
  fun v => (h v).symm

/-- More terms in a category of which one is enough.  Where there were none, there are none. -/
structure Alternatives (ts ts' : List Text) : Prop where
  more : ∀ v ∈ ts, v ∈ ts'
  none : ts = [] → ts' = []

theorem SameMembers.alternatives {ts ts' : List Text} (h : SameMembers ts ts') :
    Alternatives ts ts' where
  more := fun v hv => (h v).mp hv
  none := by
    rintro rfl
    exact List.eq_nil_iff_forall_not_mem.mpr (fun v hv => List.not_mem_nil ((h v).mpr hv))

/-- A category of which one term is enough asks no more when it has more terms. -/
theorem Alternatives.accepts {ts ts' : List Text} {text : Text} (h : Alternatives ts ts')
    (hts : ts = [] ∨ ∃ v ∈ ts, TokenMatches v text) :
    ts' = [] ∨ ∃ v ∈ ts', TokenMatches v text := by
  rcases hts with hts | ⟨v, hv, hmatch⟩
  · exact Or.inl (h.none hts)
  · exact Or.inr ⟨v, h.more v hv, hmatch⟩

/-- Every category has the same terms, in whatever order and however often. -/
structure SameTerms (o o' : SearchOptions) : Prop where
  patterns : SameMembers o.patterns o'.patterns
  keywords : SameMembers o.keywords o'.keywords
  packages : SameMembers o.packages o'.packages
  paths : SameMembers o.paths o'.paths
  restpaths : SameMembers o.restpaths o'.restpaths
  suffixes : SameMembers o.suffixes o'.suffixes

/-- `o'` has more patterns, keywords, paths or restpaths than `o`. -/
structure Narrows (o o' : SearchOptions) : Prop where
  patterns : ∀ v ∈ o.patterns, v ∈ o'.patterns
  keywords : ∀ v ∈ o.keywords, v ∈ o'.keywords
  packages : SameMembers o.packages o'.packages
  paths : ∀ v ∈ o.paths, v ∈ o'.paths
  restpaths : ∀ v ∈ o.restpaths, v ∈ o'.restpaths
  suffixes : SameMembers o.suffixes o'.suffixes

/-- `o'` has more packages or suffixes than `o`, in a category that has some. -/
structure Widens (o o' : SearchOptions) : Prop where
  patterns : SameMembers o.patterns o'.patterns
  keywords : SameMembers o.keywords o'.keywords
  packages : Alternatives o.packages o'.packages
  paths : SameMembers o.paths o'.paths
  restpaths : SameMembers o.restpaths o'.restpaths
  suffixes : Alternatives o.suffixes o'.suffixes

theorem SameTerms.symm (h : o.SameTerms o') : o'.SameTerms o :=
  ⟨h.patterns.symm, h.keywords.symm, h.packages.symm, h.paths.symm, h.restpaths.symm,
    h.suffixes.symm⟩

/-- Filters with more patterns, keywords, paths and restpaths ask no less. -/
theorem Narrows.accepts (h : o.Narrows o') (hd : o'.Accepts d) : o.Accepts d where
  patterns := fun v hv => hd.patterns v (h.patterns v hv)
  keywords := fun v hv => hd.keywords v (h.keywords v hv)
  packages := h.packages.symm.alternatives.accepts hd.packages
  paths := fun v hv => hd.paths v (h.paths v hv)
  restpaths := fun v hv => hd.restpaths v (h.restpaths v hv)
  suffixes := h.suffixes.symm.alternatives.accepts hd.suffixes

/-- Filters with more packages and suffixes ask no more. -/
theorem Widens.accepts (h : o.Widens o') (hd : o.Accepts d) : o'.Accepts d where
  patterns := fun v hv => hd.patterns v ((h.patterns v).mpr hv)
  keywords := fun v hv => hd.keywords v ((h.keywords v).mpr hv)
  packages := h.packages.accepts hd.packages
  paths := fun v hv => hd.paths v ((h.paths v).mpr hv)
  restpaths := fun v hv => hd.restpaths v ((h.restpaths v).mpr hv)
  suffixes := h.suffixes.accepts hd.suffixes

theorem SameTerms.widens (h : o.SameTerms o') : o.Widens o' :=
  ⟨h.patterns, h.keywords, h.packages.alternatives, h.paths, h.restpaths,
    h.suffixes.alternatives⟩

/-- Neither the order of the terms of a category nor their number of times matters. -/
theorem SameTerms.accepts_iff (h : o.SameTerms o') : o.Accepts d ↔ o'.Accepts d :=
  ⟨h.widens.accepts, h.symm.widens.accepts⟩

end SearchOptions

end PackageCatalog
