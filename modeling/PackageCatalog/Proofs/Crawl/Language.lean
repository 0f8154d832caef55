import PackageCatalog.Proofs.Crawl.Scanning
import PackageCatalog.Proofs.Crawl.Sets

/-!
# The language of a pattern

A pattern stands for the names that are made as it says: any run of characters for a star, any one
for a question mark, one that is listed for a set, and every other character for itself.  The
matcher takes each chunk between two stars where it first matches, and never comes back.  Nothing is
lost by that: of two places for a chunk the first leaves the longer rest, and what a star can skip
in a rest it can skip in a longer one.

## Main definitions

* `Denotes` — the names that a pattern stands for.
* `Fits` — the same for the tests of a pattern.

## Main results

* `fits_testsWith_iff` — the tests of a pattern fit the names that it stands for.
* `suffix_of_skipTo` — the first place of a chunk leaves the longest rest.
* `acceptsChunks_chunksOf_iff` — **the matcher finds every way in which tests fit.**
* `Crawler.law_of_ignoring` — **a path is ignored exactly when a pattern stands for it or for its
  last segment.**
* `Crawler.reversed_range_negates` — a mark behind a reversed range negates a set.
-/

namespace PackageCatalog.Wildcard

variable {read : Text → Bool × List Item} {c : Char} {t : Text} {n m : NativeName} {u : NameUnit}
  {chunk next : Chunk} {more : List Chunk}

/-- The names that a pattern stands for, where `read` tells what a set lists.  An opening bracket
that starts no set stands for itself. -/
inductive Denotes (read : Text → Bool × List Item) : Text → NativeName → Prop
  | nil : Denotes read [] []
  | star {t : Text} {n : NativeName} (skipped : NativeName) :
    Denotes read t n → Denotes read ('*' :: t) (skipped ++ n)
  | any {t : Text} {n : NativeName} (u : NameUnit) :
    Denotes read t n → Denotes read ('?' :: t) (u :: n)
  | set {body t : Text} {n : NativeName} {u : NameUnit} :
    IsBody body → Lists u (read body) → Denotes read t n →
    Denotes read ('[' :: (body ++ ']' :: t)) (u :: n)
  | bracket {t : Text} {n : NativeName} :
    (∀ body rest, IsBody body → t ≠ body ++ ']' :: rest) → Denotes read t n →
    Denotes read ('[' :: t) (.char '[' :: n)
  | letter {c : Char} {t : Text} {n : NativeName} :
    c ≠ '*' → c ≠ '?' → c ≠ '[' → Denotes read t n → Denotes read (c :: t) (.char c :: n)

/-- How the first character of a pattern is used. -/
theorem Denotes.cases_cons (h : Denotes read (c :: t) n) :
    (c = '*' ∧ ∃ m, m <:+ n ∧ Denotes read t m) ∨
    (c = '?' ∧ ∃ u m, n = u :: m ∧ Denotes read t m) ∨
    (c = '[' ∧ ∃ body rest u m, IsBody body ∧ t = body ++ ']' :: rest ∧ Lists u (read body) ∧
      n = u :: m ∧ Denotes read rest m) ∨
    (c = '[' ∧ (∀ body rest, IsBody body → t ≠ body ++ ']' :: rest) ∧
      ∃ m, n = .char '[' :: m ∧ Denotes read t m) ∨
    (c ≠ '*' ∧ c ≠ '?' ∧ c ≠ '[') ∧ ∃ m, n = .char c :: m ∧ Denotes read t m := by
  cases h with
  | star skipped h => exact Or.inl ⟨rfl, _, List.suffix_append _ _, h⟩
  | any u h => exact Or.inr (Or.inl ⟨rfl, u, _, rfl, h⟩)
  | set hbody hlists h =>
    exact Or.inr (Or.inr (Or.inl ⟨rfl, _, _, _, _, hbody, rfl, hlists, rfl, h⟩))
  | bracket hopen h => exact Or.inr (Or.inr (Or.inr (Or.inl ⟨rfl, hopen, _, rfl, h⟩)))
  | letter hstar hany hset h =>
    exact Or.inr (Or.inr (Or.inr (Or.inr ⟨⟨hstar, hany, hset⟩, _, rfl, h⟩)))

/-! ### Tests -/

/-- Tests fit a name, where `none` skips any run of characters. -/
def Fits : List (Option Test) → NativeName → Prop
  | [], n => n = []
  | none :: ts, n => ∃ m, m <:+ n ∧ Fits ts m
  | some test :: ts, n => ∃ u m, n = u :: m ∧ test.passes u = true ∧ Fits ts m

theorem passes_exactly_iff : (Test.exactly c.toNat).passes u = true ↔ u = .char c := by
  rw [Test.passes, beq_iff_eq]
  exact NameUnit.code_injective.eq_iff (b := .char c)

theorem denotes_nil_iff : Denotes read [] n ↔ n = [] := by
  constructor
  · rintro ⟨⟩
    rfl
  · rintro rfl
    exact .nil

theorem denotes_star_iff : Denotes read ('*' :: t) n ↔ ∃ m, m <:+ n ∧ Denotes read t m := by
  constructor
  · intro h
    rcases h.cases_cons with ⟨-, h⟩ | ⟨hc, -⟩ | ⟨hc, -⟩ | ⟨hc, -⟩ | ⟨⟨hc, -⟩, -⟩
    · exact h
    · exact absurd hc (by decide)
    · exact absurd hc (by decide)
    · exact absurd hc (by decide)
    · exact absurd rfl hc
  · rintro ⟨m, ⟨skipped, rfl⟩, h⟩
    exact .star skipped h

theorem denotes_any_iff :
    Denotes read ('?' :: t) n ↔ ∃ u m, n = u :: m ∧ Denotes read t m := by
  constructor
  · intro h
    rcases h.cases_cons with ⟨hc, -⟩ | ⟨-, h⟩ | ⟨hc, -⟩ | ⟨hc, -⟩ | ⟨⟨-, hc, -⟩, -⟩
    · exact absurd hc (by decide)
    · exact h
    · exact absurd hc (by decide)
    · exact absurd hc (by decide)
    · exact absurd rfl hc
  · rintro ⟨u, m, rfl, h⟩
    exact .any u h

theorem denotes_set_iff {body rest : Text} (hset : setBody? t = some (body, rest)) :
    Denotes read ('[' :: t) n ↔
      ∃ u m, n = u :: m ∧ Lists u (read body) ∧ Denotes read rest m := by
  obtain ⟨hbody, ht⟩ := setBody?_eq_some_iff.mp hset
  constructor
  · intro h
    rcases h.cases_cons with ⟨hc, -⟩ | ⟨hc, -⟩ | ⟨-, body', rest', u, m, hbody', ht', h⟩ |
      ⟨-, hopen, -⟩ | ⟨⟨-, -, hc⟩, -⟩
    · exact absurd hc (by decide)
    · exact absurd hc (by decide)
    · -- the set ends in one place only
      rw [setBody?_eq_some_iff.mpr ⟨hbody', ht'⟩] at hset
      cases hset
      exact ⟨u, m, h.2.1, h.1, h.2.2⟩
    · exact absurd ht (hopen body rest hbody)
    · exact absurd rfl hc
  · rintro ⟨u, m, rfl, hlists, h⟩
    rw [ht]
    exact .set hbody hlists h

theorem denotes_bracket_iff (hset : setBody? t = none) :
    Denotes read ('[' :: t) n ↔ ∃ m, n = .char '[' :: m ∧ Denotes read t m := by
  have hopen := setBody?_eq_none_iff.mp hset
  constructor
  · intro h
    rcases h.cases_cons with ⟨hc, -⟩ | ⟨hc, -⟩ | ⟨-, body, rest, -, -, hbody, ht, -⟩ |
      ⟨-, -, h⟩ | ⟨⟨-, -, hc⟩, -⟩
    · exact absurd hc (by decide)
    · exact absurd hc (by decide)
    · exact absurd ht (hopen body rest hbody)
    · exact h
    · exact absurd rfl hc
  · rintro ⟨m, rfl, h⟩
    exact .bracket hopen h

theorem denotes_letter_iff (hstar : c ≠ '*') (hany : c ≠ '?') (hset : c ≠ '[') :
    Denotes read (c :: t) n ↔ ∃ m, n = .char c :: m ∧ Denotes read t m := by
  constructor
  · intro h
    rcases h.cases_cons with ⟨hc, -⟩ | ⟨hc, -⟩ | ⟨hc, -⟩ | ⟨hc, -⟩ | ⟨-, h⟩
    · exact absurd hc hstar
    · exact absurd hc hany
    · exact absurd hc hset
    · exact absurd hc hset
    · exact h
  · rintro ⟨m, rfl, h⟩
    exact .letter hstar hany hset h

/-- The test of a character that stands for itself. -/
theorem fits_exactly_iff {ts : List (Option Test)} :
    Fits (some (.exactly c.toNat) :: ts) n ↔ ∃ m, n = .char c :: m ∧ Fits ts m := by
  constructor
  · rintro ⟨u, m, rfl, hu, h⟩
    rw [passes_exactly_iff.mp hu]
    exact ⟨m, rfl, h⟩
  · rintro ⟨m, rfl, h⟩
    exact ⟨_, m, rfl, passes_exactly_iff.mpr rfl, h⟩

/-- **The tests of a pattern fit the names that it stands for.** -/
theorem fits_testsWith_iff : ∀ {fuel : Nat} {t : Text} {n : NativeName}, t.length ≤ fuel →
    (Fits (testsWith fuel t) n ↔ Denotes reading t n) := by
  -- the induction is on the fuel, of which each character takes some
  intro fuel
  induction fuel with
  | zero =>
    intro t n ht
    rw [List.length_eq_zero_iff.mp (Nat.le_zero.mp ht)]
    exact denotes_nil_iff.symm
  | succ fuel ih =>
    intro t n ht
    cases t with
    | nil => exact denotes_nil_iff.symm
    | cons c t =>
      have htail : t.length ≤ fuel := Nat.le_of_succ_le_succ ht
      rw [testsWith]
      split
      · next hc =>
        subst hc
        simp only [Fits, ih htail, denotes_star_iff]
      split
      · next hc =>
        subst hc
        simp only [Fits, ih htail, denotes_any_iff, Test.passes, true_and]
      split
      · next hc =>
        subst hc
        split
        · next hset =>
          rw [fits_exactly_iff, denotes_bracket_iff hset]
          simp only [ih htail]
        · next body rest hset =>
          obtain ⟨hbody, rfl⟩ := setBody?_eq_some_iff.mp hset
          have hrest : rest.length ≤ fuel := by
            rw [List.length_append, List.length_cons] at htail
            omega
          simp only [Fits, ih hrest, denotes_set_iff hset, passes_testOfSet_iff hbody]
      · next hstar hany hset =>
        rw [fits_exactly_iff, denotes_letter_iff hstar hany hset]
        simp only [ih htail]

/-! ### Chunks -/

theorem chunksOf_ne_nil (ts : List (Option Test)) : chunksOf ts ≠ [] := by
  cases ts with
  | nil => exact List.cons_ne_nil _ _
  | cons test ts =>
    cases test with
    | none => exact List.cons_ne_nil _ _
    | some test =>
      rw [chunksOf]
      split <;> exact List.cons_ne_nil _ _

/-- Chunks fit a name, where any run of characters is skipped between two of them. -/
def FitsChunks : List Chunk → NativeName → Prop
  | [], n => n = []
  | [last], n => dropChunk last n = some []
  | chunk :: next :: more, n =>
    ∃ rest, dropChunk chunk n = some rest ∧ ∃ m, m <:+ rest ∧ FitsChunks (next :: more) m

theorem dropChunk_cons_eq_some_iff {test : Test} {rest : NativeName} :
    dropChunk (test :: chunk) n = some rest ↔
      ∃ u m, n = u :: m ∧ test.passes u = true ∧ dropChunk chunk m = some rest := by
  cases n with
  | nil => simp [dropChunk]
  | cons u n =>
    rw [dropChunk]
    split
    · next hu => simp [hu]
    · next hu => simp [hu]

theorem fitsChunks_cons_iff {test : Test} :
    FitsChunks ((test :: chunk) :: more) n ↔
      ∃ u m, n = u :: m ∧ test.passes u = true ∧ FitsChunks (chunk :: more) m := by
  cases more with
  | nil => exact dropChunk_cons_eq_some_iff
  | cons next more =>
    simp only [FitsChunks, dropChunk_cons_eq_some_iff]
    constructor
    · rintro ⟨rest, ⟨u, m, hn, hu, hdrop⟩, hrest⟩
      exact ⟨u, m, hn, hu, rest, hdrop, hrest⟩
    · rintro ⟨u, m, hn, hu, rest, hdrop, hrest⟩
      exact ⟨rest, ⟨u, m, hn, hu, hdrop⟩, hrest⟩

/-- The chunks of tests fit what the tests fit. -/
theorem fitsChunks_chunksOf_iff : ∀ {ts : List (Option Test)} {n : NativeName},
    FitsChunks (chunksOf ts) n ↔ Fits ts n := by
  intro ts
  induction ts with
  | nil => intro n; simp [chunksOf, FitsChunks, dropChunk, Fits]
  | cons test ts ih =>
    intro n
    obtain ⟨chunk, more, hchunks⟩ := List.exists_cons_of_ne_nil (chunksOf_ne_nil ts)
    rw [hchunks] at ih
    cases test with
    | none => simp [chunksOf, hchunks, FitsChunks, dropChunk, Fits, ih]
    | some test =>
      rw [chunksOf, hchunks]
      dsimp only
      rw [fitsChunks_cons_iff]
      simp only [ih, Fits]

/-! ### Places of chunks -/

/-- A chunk takes as many characters as it has tests. -/
theorem eq_drop_of_dropChunk : ∀ {chunk : Chunk} {n rest : NativeName},
    dropChunk chunk n = some rest → chunk.length ≤ n.length ∧ rest = n.drop chunk.length := by
  intro chunk
  induction chunk with
  | nil =>
    intro n rest h
    cases h
    exact ⟨Nat.zero_le _, rfl⟩
  | cons test chunk ih =>
    intro n rest h
    obtain ⟨u, m, rfl, -, hdrop⟩ := dropChunk_cons_eq_some_iff.mp h
    obtain ⟨hlength, hrest⟩ := ih hdrop
    exact ⟨Nat.succ_le_succ hlength, hrest⟩

theorem exists_of_skipTo : ∀ {n rest : NativeName}, skipTo chunk n = some rest →
    ∃ m, m <:+ n ∧ dropChunk chunk m = some rest := by
  intro n
  induction n with
  | nil => exact fun h => ⟨[], List.suffix_refl _, h⟩
  | cons u n ih =>
    intro rest h
    rw [skipTo] at h
    split at h
    · next hdrop =>
      cases h
      exact ⟨u :: n, List.suffix_refl _, hdrop⟩
    · obtain ⟨m, hm, hdrop⟩ := ih h
      exact ⟨m, hm.trans (List.suffix_cons u n), hdrop⟩

/-- **The first place of a chunk leaves the longest rest**: whatever is left behind another place is
at the end of it. -/
theorem suffix_of_skipTo : ∀ {n m rest : NativeName}, m <:+ n → dropChunk chunk m = some rest →
    ∃ rest', skipTo chunk n = some rest' ∧ rest <:+ rest' := by
  intro n
  induction n with
  | nil =>
    intro m rest hm h
    rw [List.suffix_nil.mp hm] at h
    exact ⟨rest, h, List.suffix_refl rest⟩
  | cons u n ih =>
    intro m rest hm h
    rw [skipTo]
    cases hdrop : dropChunk chunk (u :: n) with
    | none =>
      rcases List.suffix_cons_iff.mp hm with rfl | hm
      · rw [h] at hdrop
        cases hdrop
      · exact ih hm h
    | some rest' =>
      refine ⟨rest', rfl, ?_⟩
      obtain ⟨front, hfront⟩ := hm
      rw [(eq_drop_of_dropChunk h).2, (eq_drop_of_dropChunk hdrop).2, ← hfront, List.drop_append]
      exact (List.drop_suffix_drop_left m (Nat.sub_le _ _)).trans (List.suffix_append _ _)

theorem endsWith_iff : endsWith chunk n = true ↔ ∃ m, m <:+ n ∧ dropChunk chunk m = some [] := by
  rw [endsWith, Bool.and_eq_true, decide_eq_true_iff, beq_iff_eq]
  constructor
  · rintro ⟨-, h⟩
    exact ⟨_, List.drop_suffix _ _, h⟩
  · rintro ⟨m, ⟨front, rfl⟩, h⟩
    obtain ⟨hlength, hnil⟩ := eq_drop_of_dropChunk h
    have hle : m.length ≤ chunk.length := List.drop_eq_nil_iff.mp hnil.symm
    have hsame : m.length = chunk.length := Nat.le_antisymm hle hlength
    rw [List.length_append, hsame, Nat.add_sub_cancel, List.drop_left]
    exact ⟨by omega, h⟩

/-- What stands behind a star is found wherever it fits. -/
theorem acceptsAfterStar_iff : ∀ {more : List Chunk} {chunk : Chunk} {n : NativeName},
    acceptsAfterStar (chunk :: more) n = true ↔
      ∃ m, m <:+ n ∧ FitsChunks (chunk :: more) m := by
  intro more
  induction more with
  | nil => intro chunk n; exact endsWith_iff
  | cons next more ih =>
    intro chunk n
    rw [acceptsAfterStar]
    constructor
    · intro h
      split at h
      · next rest hskip =>
        obtain ⟨m, hm, hdrop⟩ := exists_of_skipTo hskip
        exact ⟨m, hm, rest, hdrop, ih.mp h⟩
      · cases h
    · rintro ⟨m, hm, rest, hdrop, m', hm', hfits⟩
      obtain ⟨rest', hskip, hrest⟩ := suffix_of_skipTo hm hdrop
      rw [hskip]
      exact ih.mpr ⟨m', hm'.trans hrest, hfits⟩

/-- **The matcher finds every way in which tests fit**, though each chunk is tried in one place
only. -/
theorem acceptsChunks_chunksOf_iff {ts : List (Option Test)} :
    acceptsChunks (chunksOf ts) n = true ↔ Fits ts n := by
  rw [← fitsChunks_chunksOf_iff]
  obtain ⟨chunk, more, hchunks⟩ := List.exists_cons_of_ne_nil (chunksOf_ne_nil ts)
  rw [hchunks]
  cases more with
  | nil => exact beq_iff_eq
  | cons next more =>
    rw [acceptsChunks, FitsChunks]
    split
    · next rest hdrop => simp [hdrop, acceptsAfterStar_iff]
    · next hdrop => simp [hdrop]

/-- **The matcher accepts the names that a pattern stands for.** -/
theorem accepts_iff (pattern : Text) (n : NativeName) :
    accepts pattern n = true ↔ Denotes reading pattern n :=
  acceptsChunks_chunksOf_iff.trans (fits_testsWith_iff (Nat.le_refl _))

/-! ### Sets as they are written -/

/-- The first character of an item. -/
def Item.first : Item → Char
  | .single c => c
  | .range a _ => a

/-- A set that does not start with an exclamation mark, but would without its reversed ranges. -/
def IsMisread (body : Text) : Prop :=
  body.head? ≠ some '!' ∧ ∃ i ∈ (kept (items body)).head?, i.first = '!'

theorem marked_of_first {i : Item} {is : List Item} (hi : i.first ≠ '!') :
    marked (i :: is) = (false, i :: is) := by
  cases i with
  | single c => exact marked_single hi is
  | range a b => exact marked_range hi b is

/-- **Every other set is read as it is written.** -/
theorem lists_reading_iff {body : Text} (h : ¬ IsMisread body) :
    Lists u (reading body) ↔ Lists u (plainReading body) := by
  by_cases hbang : body.head? = some '!'
  · obtain ⟨t, rfl⟩ := List.head?_eq_some_iff.mp hbang
    rfl
  · have hplain : plainReading body = (false, items body) := by
      unfold plainReading
      split
      · exact absurd rfl hbang
      · rfl
    have hreading : reading body = marked (kept (items body)) := by
      unfold reading
      split
      · exact absurd rfl hbang
      · rfl
    have hmarked : marked (kept (items body)) = (false, kept (items body)) := by
      cases hkept : kept (items body) with
      | nil => rfl
      | cons i is =>
        refine marked_of_first (fun hi => h ⟨hbang, i, ?_, hi⟩)
        rw [hkept]
        rfl
    rw [hplain, hreading, hmarked, lists_kept_iff]

end PackageCatalog.Wildcard

namespace PackageCatalog.Crawler

open PackageCatalog.Path Wildcard

variable {c : Crawler} {rest : NativeName}

theorem isIgnored_iff : c.isIgnored rest = true ↔ ∃ pattern ∈ c.ignore,
    Denotes reading pattern rest ∨
      ∃ last, (segments rest).getLast? = some last ∧ Denotes reading pattern last := by
  obtain ⟨front, last, hlast⟩ :=
    (List.eq_nil_or_concat (segments rest)).resolve_left (Text.pieces_ne_nil _ _)
  have hget : (segments rest).getLast? = some last := by rw [hlast]; simp
  have hbase : baseName rest = last := by rw [baseName, hget]; rfl
  simp only [isIgnored, List.any_eq_true, Bool.or_eq_true, accepts_iff, hbase, hget,
    Option.some.injEq, exists_eq_left']

/-- **A path is ignored exactly when a pattern stands for it, or for its last segment.**

* What a pattern stands for is what the matcher accepts, for every pattern and every name.
* A set lists what it says, and the others when it starts with an exclamation mark.  But reversed
  ranges, which have no characters, do not keep a mark behind them from being the first; and if that
  mark starts a range, then the hyphen and the end of the range stand for themselves. -/
theorem law_of_ignoring :
    (∀ (pattern : Text) (n : NativeName), accepts pattern n = true ↔ Denotes reading pattern n) ∧
    (∀ (c : Crawler) (rest : NativeName), c.isIgnored rest = true ↔ ∃ pattern ∈ c.ignore,
      Denotes reading pattern rest ∨
        ∃ last, (segments rest).getLast? = some last ∧ Denotes reading pattern last) ∧
    ∀ (body : Text) (u : NameUnit), ¬ IsMisread body →
      (Lists u (reading body) ↔ Lists u (plainReading body)) :=
  ⟨accepts_iff, fun _ _ => isIgnored_iff, fun _ _ h => lists_reading_iff h⟩

/-- A path is ignored whose last character is not `c`: the reversed range before it lists nothing.
-/
theorem law_of_ignoring_object :
    let c : Crawler := { root := NativeName.ofText ['p'], ignore := ["*.[!b-ac]".toList] }
    ¬ IsMisread "!b-ac".toList ∧ Lists (.char 'o') (plainReading "!b-ac".toList) ∧
      c.isIgnored (NativeName.ofText "d/f.o".toList) = true := by
  intro c
  have hread : ¬ IsMisread "!b-ac".toList := fun h => h.1 rfl
  have hlists : Lists (.char 'o') (plainReading "!b-ac".toList) := by decide
  obtain ⟨-, hignored, hsets⟩ := law_of_ignoring
  have hbody : IsBody "!b-ac".toList := ⟨'b', "-ac".toList, by decide, Or.inr rfl⟩
  have hset : Denotes reading "[!b-ac]".toList [.char 'o'] :=
    .set hbody ((hsets _ _ hread).mpr hlists) .nil
  refine ⟨hread, hlists, (hignored c _).mpr ⟨_, List.mem_singleton_self _, Or.inl ?_⟩⟩
  exact .star (NativeName.ofText "d/f".toList)
    (.letter (by decide) (by decide) (by decide) hset)

/-- **A mark behind a reversed range negates a set**: `a` is ignored, though neither `!` nor `x`. -/
theorem reversed_range_negates :
    let c : Crawler := { root := NativeName.ofText ['p'], ignore := ["[b-a!x]".toList] }
    c.isIgnored (NativeName.ofText ['a']) = true ∧
      ¬ ∃ pattern ∈ c.ignore, Denotes plainReading pattern (NativeName.ofText ['a']) ∨
        ∃ last, (segments (NativeName.ofText ['a'])).getLast? = some last ∧
          Denotes plainReading pattern last := by
  have hplain : ¬ Denotes plainReading "[b-a!x]".toList (NativeName.ofText ['a']) := by
    intro h
    obtain ⟨u, m, hn, hlists, -⟩ :=
      (denotes_set_iff (show setBody? "b-a!x]".toList = some ("b-a!x".toList, []) by decide)).mp h
    obtain ⟨rfl, -⟩ := List.cons.inj hn
    revert hlists
    decide
  refine ⟨by decide, ?_⟩
  rintro ⟨pattern, hpattern, h⟩
  rw [List.mem_singleton.mp hpattern] at h
  rcases h with h | ⟨last, hlast, h⟩
  · exact hplain h
  · cases hlast
    exact hplain h

end PackageCatalog.Crawler
