import PackageCatalog.Proofs.Text.Utf8
import PackageCatalog.Yaml.Source

/-!
# Reading a text in pieces

However a file is cut into blocks, its pieces are those of its text: a character that a block cuts
in two is left for the next one.

## Main definitions

* `Yaml.isClean` — the characters that are read as they stand.
* `Yaml.Blocks.Holds` — the text that is left of a file.

## Main results

* `Yaml.Blocks.decode?_prefix` — **a block is decoded up to the last complete character.**
* `Yaml.Blocks.next_holds`, `Yaml.Blocks.piece_holds` — a block and a piece.
* `Yaml.Source.ofBytes_encode` — **the source of a file that holds a text.**
-/

namespace PackageCatalog.Yaml

open Utf8

/-- A character that may stand in a document and that is read as it stands. -/
def isClean (c : Char) : Bool := isAllowed c && c != '\r'

variable {t u v : Text} {bs rest tail : Bytes}

theorem withLineFeeds_of_clean (h : '\r' ∉ t) : withLineFeeds t = t := by
  induction t with
  | nil => rfl
  | cons c t ih =>
    rw [List.mem_cons, not_or] at h
    have hc : c ≠ '\r' := Ne.symm h.1
    have hstep : withLineFeeds (c :: t) = c :: withLineFeeds t := by
      rw [withLineFeeds.eq_3 c t (fun _ hcr => absurd hcr hc), if_neg hc]
    rw [hstep, ih h.2]

namespace Blocks

/-! ### Characters cut in two -/

/-- The number of octets of a character, as its first octet tells. -/
def leadLength (a : UInt8) : Nat :=
  if a < 0xC2 then 0 else if a < 0xE0 then 2 else if a < 0xF0 then 3 else if a < 0xF5 then 4 else 0

theorem leadLength_eq {a : UInt8} {n : Nat} (ha : a.toNat = n) : leadLength a =
    if n < 0xC2 then 0 else if n < 0xE0 then 2 else if n < 0xF0 then 3 else if n < 0xF5 then 4
      else 0 := by
  subst ha
  simp only [leadLength, UInt8.lt_iff_toNat_lt]
  rfl

/-- The octets of a character that has several: the first one tells their number, and the others
are continuations. -/
theorem exists_lead (c : Char) : (∃ a, encodeChar c = [a]) ∨ ∃ a conts, encodeChar c = a :: conts ∧
    leadLength a = conts.length + 1 ∧ ∀ b ∈ conts, (continuation? b).isSome = true := by
  have hlt := toNat_lt c
  have hsome : ∀ {x : Nat}, x < 64 → (continuation? (UInt8.ofNat (0x80 + x))).isSome = true := by
    intro x hx
    rw [continuation?_octet hx]
    rfl
  have hlead : ∀ {n m : Nat}, n < 256 → (if n < 0xC2 then 0 else if n < 0xE0 then 2
      else if n < 0xF0 then 3 else if n < 0xF5 then 4 else 0) = m →
      leadLength (UInt8.ofNat n) = m := fun hn hm => (leadLength_eq (toNat_octet hn)).trans hm
  unfold encodeChar
  by_cases h1 : c.toNat < 0x80
  · exact Or.inl ⟨_, by simp only [h1, ↓reduceIte]; rfl⟩
  by_cases h2 : c.toNat < 0x800
  · refine Or.inr ⟨_, _, by simp only [h1, h2, ↓reduceIte]; rfl, hlead (by omega) ?_, ?_⟩
    · rw [if_neg (by omega), if_pos (by omega)]
      rfl
    · simp only [List.forall_mem_singleton]
      exact hsome (by omega)
  by_cases h3 : c.toNat < 0x10000
  · refine Or.inr ⟨_, _, by simp only [h1, h2, h3, ↓reduceIte]; rfl, hlead (by omega) ?_, ?_⟩
    · rw [if_neg (by omega), if_neg (by omega), if_pos (by omega)]
      rfl
    · simp only [List.forall_mem_cons, List.not_mem_nil, false_imp_iff, implies_true, and_true]
      exact ⟨hsome (by omega), hsome (by omega)⟩
  · refine Or.inr ⟨_, _, by simp only [h1, h2, h3, ↓reduceIte]; rfl, hlead (by omega) ?_, ?_⟩
    · rw [if_neg (by omega), if_neg (by omega), if_neg (by omega), if_pos (by omega)]
      rfl
    · simp only [List.forall_mem_cons, List.not_mem_nil, false_imp_iff, implies_true, and_true]
      exact ⟨hsome (by omega), hsome (by omega), hsome (by omega)⟩

theorem leadLength_le (a : UInt8) : leadLength a ≤ 4 := by
  unfold leadLength
  split_ifs <;> decide

/-- The start of a character is known as one. -/
theorem isStart_of_prefix {c : Char} {more : Bytes} (h : encodeChar c = tail ++ more)
    (htail : tail ≠ []) (hmore : more ≠ []) : isStart tail = true ∧ tail.length < 4 := by
  obtain ⟨a, tail, rfl⟩ := List.exists_cons_of_ne_nil htail
  have hpos := List.length_pos_iff.mpr hmore
  rcases exists_lead c with ⟨b, hc⟩ | ⟨b, conts, hc, hlead, hconts⟩
  · rw [hc, List.cons_append] at h
    exact absurd (List.append_eq_nil_iff.mp (List.cons.inj h).2.symm).2 hmore
  · rw [hc, List.cons_append] at h
    obtain ⟨rfl, rfl⟩ := List.cons.inj h
    rw [List.length_append] at hlead
    have hall : tail.all (fun b => (continuation? b).isSome) = true :=
      List.all_eq_true.mpr (fun b hb => hconts b (List.mem_append_left more hb))
    have hle := leadLength_le b
    refine ⟨?_, by rw [List.length_cons]; omega⟩
    have hshort : (b :: tail).length < leadLength b := by
      rw [List.length_cons]
      omega
    rw [isStart, hall, Bool.and_true]
    exact decide_eq_true hshort

/-- The octets of a text, cut somewhere: some characters, and the start of one more. -/
theorem exists_cut (t : Text) : ∀ {bs rest : Bytes}, encode t = bs ++ rest →
    ∃ s tail, bs = encode s ++ tail ∧ (tail = [] ∨ ∃ c more, encodeChar c = tail ++ more ∧
      tail ≠ [] ∧ more ≠ []) := by
  induction t with
  | nil =>
    intro bs rest h
    exact ⟨[], bs, rfl, Or.inl (List.append_eq_nil_iff.mp h.symm).1⟩
  | cons c t ih =>
    intro bs rest h
    rw [encode_cons] at h
    rcases List.append_eq_append_iff.mp h with ⟨more, hbs, hmore⟩ | ⟨more, hc, hrest⟩
    · obtain ⟨s, tail, rfl, htail⟩ := ih hmore
      exact ⟨c :: s, tail, by rw [hbs, encode_cons, List.append_assoc], htail⟩
    · by_cases hne : bs = [] ∨ more = []
      · rcases hne with rfl | rfl
        · exact ⟨[], [], rfl, Or.inl rfl⟩
        · refine ⟨[c], [], ?_, Or.inl rfl⟩
          rw [List.append_nil] at hc ⊢
          rw [encode_cons, encode_nil, List.append_nil, hc]
      · rw [not_or] at hne
        exact ⟨[], bs, rfl, Or.inr ⟨c, more, hc, hne.1, hne.2⟩⟩

/-- What is decoded is right. -/
theorem decode?_eq_some {final : Bool} {s : Text} (h : decode? final bs = some (s, tail)) :
    bs = encode s ++ tail ∧ (final = true → tail = []) := by
  obtain ⟨n, hn, hread⟩ := List.exists_of_findSome?_eq_some h
  dsimp only at hread
  split at hread
  · simp only [Option.map_eq_some_iff, Prod.mk.injEq] at hread
    obtain ⟨s', hs, rfl, rfl⟩ := hread
    rw [encode_of_decode hs, List.take_append_drop]
    refine ⟨rfl, fun hfinal => ?_⟩
    rw [hfinal, if_pos rfl, List.mem_singleton] at hn
    rw [hn, Nat.sub_zero, List.drop_length]
  · cases hread

/-- Some characters and the start of one more are decoded, at the end without it. -/
theorem exists_decode? {final : Bool} (h : encode t = bs ++ rest)
    (hfinal : final = true → rest = []) : ∃ s tail, decode? final bs = some (s, tail) := by
  -- the cut in front of `tail` is one of those that are tried, and it decodes
  have hread : ∀ {s : Text} {tail : Bytes}, bs = encode s ++ tail →
      (tail = [] ∨ isStart tail = true) →
      tail.length ∈ (if final then [0] else [0, 1, 2, 3]) →
        ∃ s tail, decode? final bs = some (s, tail) := by
    intro s tail hbs htail hmem
    cases hdecode : decode? final bs with
    | some read => exact ⟨read.1, read.2, rfl⟩
    | none =>
      have hnone := List.findSome?_eq_none_iff.mp hdecode tail.length hmem
      have htake : bs.length - tail.length = (encode s).length := by
        rw [hbs, List.length_append]
        omega
      dsimp only at hnone
      rw [htake, hbs, List.drop_left, List.take_left, decode_encode, if_pos] at hnone
      · cases hnone
      · rcases htail with rfl | htail
        · rfl
        · rw [htail, Bool.or_true]
  obtain ⟨s, tail, hbs, hcut⟩ := exists_cut t h
  rcases hcut with rfl | ⟨c, more, hc, htail, hmore⟩
  · exact hread hbs (Or.inl rfl) (by cases final <;> decide)
  · obtain ⟨hstart, hlength⟩ := isStart_of_prefix hc htail hmore
    cases final with
    | false =>
      have hpos := List.length_pos_iff.mpr htail
      refine hread hbs (Or.inr hstart) ?_
      simp only [Bool.false_eq_true, if_false, List.mem_cons, List.not_mem_nil, or_false]
      omega
    -- at the end of the file nothing is cut
    | true =>
      rw [hfinal rfl, List.append_nil] at h
      exact hread (s := t) (by rw [h, List.append_nil]) (Or.inl rfl) List.mem_cons_self

/-- **A block is decoded up to its last complete character.** -/
theorem decode?_prefix {final : Bool} (h : encode t = bs ++ rest)
    (hfinal : final = true → rest = []) : ∃ s u tail, decode? final bs = some (s, tail) ∧
      t = s ++ u ∧ encode u = tail ++ rest ∧ (final = true → tail = []) := by
  obtain ⟨s, tail, hdecode⟩ := exists_decode? h hfinal
  obtain ⟨hbs, hend⟩ := decode?_eq_some hdecode
  rw [hbs, List.append_assoc] at h
  obtain ⟨u, rfl, hu⟩ := exists_append_of_encode h
  exact ⟨s, u, tail, hdecode, rfl, hu, hend⟩

/-! ### Pieces -/

/-- The text that is left of a file: what was decoded ahead, and what the octets hold. -/
def Holds (b : Blocks) (u : Text) : Prop :=
  ∃ v, u = b.ahead ++ v ∧ encode v = b.started ++ b.rest ∧ b.carriage = false

/-- A bound on the number of blocks until nothing is left to be decoded. -/
def left (b : Blocks) : Nat := b.rest.length + if b.started ++ b.rest = [] then 0 else 1

/-- A block is empty at the end of the octets alone. -/
theorem eq_nil_of_take {rest : Bytes} {n : Nat} (hn : 0 < n)
    (h : (rest.take n).isEmpty = true) : rest = [] :=
  (List.take_eq_nil_iff.mp (List.isEmpty_iff.mp h)).resolve_left (Nat.ne_of_gt hn)

/-- A block that is decoded leaves the octets behind it, and its last ones when they are the start
of a character. -/
theorem exists_block {started rest : Bytes} {v : Text} {n : Nat}
    (h : encode v = started ++ rest) (hn : 0 < n) : ∃ s u tail,
      decode? (rest.take n).isEmpty (started ++ rest.take n) = some (s, tail) ∧ v = s ++ u ∧
        encode u = tail ++ rest.drop n ∧ ((rest.take n).isEmpty = true → tail = [] ∧ u = []) := by
  rw [← List.take_append_drop n rest, ← List.append_assoc] at h
  have hlast : (rest.take n).isEmpty = true → rest.drop n = [] := by
    intro hlast
    rw [eq_nil_of_take hn hlast, List.drop_nil]
  obtain ⟨s, u, tail, hdecode, hv, hu, hend⟩ := decode?_prefix h hlast
  refine ⟨s, u, tail, hdecode, hv, hu, fun hempty => ⟨hend hempty, ?_⟩⟩
  rw [hend hempty, hlast hempty] at hu
  exact encode_injective hu

/-- **One more block.**  The file has ended when nothing was left. -/
theorem next_holds {b : Blocks} {wanted : Nat} (h : b.Holds u) (hu : '\r' ∉ u) :
    ∃ b' ended, b.next wanted = .ok (b', ended) ∧ b'.Holds u ∧
      b'.rest.length ≤ b.rest.length ∧ (ended = true → b'.ahead = u ∧ b.ahead = u ∧
        b'.started ++ b'.rest = [] ∧ b'.carriage = false) ∧
      (ended = false → b'.left < b.left) := by
  obtain ⟨v, rfl, hv, hcarriage⟩ := h
  have hclean : '\r' ∉ v := fun hmem => hu (List.mem_append_right _ hmem)
  unfold next
  dsimp only
  generalize hn : max size (if b.ratio.2 = 0 then wanted
    else max wanted (wanted * b.ratio.1 / b.ratio.2)) = n
  have hpos : 0 < n := Nat.lt_of_lt_of_le (by decide) (hn ▸ Nat.le_max_left size _)
  have hrest : b.rest.drop (b.rest.take n).length = b.rest.drop n := by
    conv => enter [1, 2]; rw [← List.take_append_drop n b.rest]
    rw [List.drop_left]
  obtain ⟨s, u, tail, hdecode, rfl, hu, hend⟩ := exists_block hv hpos
  have hcleans : '\r' ∉ s := fun hmem => hclean (List.mem_append_left _ hmem)
  have hlast : (s.getLast? == some '\r') = false :=
    beq_eq_false_iff_ne.mpr (fun hlast => hcleans (List.mem_of_getLast? hlast))
  rw [hdecode]
  simp only [hcarriage, Bool.false_and, Bool.false_eq_true, if_false, hlast, Bool.and_false,
    Bool.or_false, withLineFeeds_of_clean hcleans, hrest]
  refine ⟨_, _, rfl, ⟨u, ?_, hu, rfl⟩, ?_, fun hended => ?_, fun hended => ?_⟩
  · rw [List.append_assoc]
  · rw [List.length_drop]
    exact Nat.sub_le _ _
  · -- the file has ended: nothing was read, and nothing is left
    rw [Bool.and_eq_true] at hended
    obtain ⟨hlast, hs⟩ := hended
    obtain ⟨htail, hnil⟩ := hend hlast
    rw [List.isEmpty_iff.mp hs, hnil]
    refine ⟨rfl, (List.append_nil _).symm, ?_, rfl⟩
    rw [htail, eq_nil_of_take hpos hlast, List.drop_nil, List.append_nil]
  · cases hlast : (b.rest.take n).isEmpty with
    | true =>
      -- at the end, a character was left that had been started
      obtain ⟨htail, rfl⟩ := hend hlast
      have hnil := eq_nil_of_take hpos hlast
      rw [hlast, Bool.true_and] at hended
      rw [hnil, List.append_nil, List.append_nil] at hv
      have hne : b.started ≠ [] := by
        intro hstarted
        rw [hstarted] at hv
        have hs : s = [] := encode_injective (t := []) hv
        rw [hs] at hended
        cases hended
      simp [left, hnil, htail, hne]
    | false =>
      have hne : b.rest ≠ [] := by
        intro hnil
        rw [hnil, List.take_nil] at hlast
        cases hlast
      have hlength := List.length_pos_iff.mpr hne
      rw [left, left, if_neg (show ¬b.started ++ b.rest = [] by simp [hne]), List.length_drop]
      split_ifs <;> omega

/-- **The next piece.** -/
theorem piece_holds {fuel : Nat} : ∀ {b : Blocks}, b.Holds u → '\r' ∉ u → b.left < fuel →
    ∃ b', b.piece fuel = .ok (u.take pieceLength, b') ∧ b'.Holds (u.drop pieceLength) ∧
      b'.rest.length ≤ b.rest.length := by
  induction fuel with
  | zero => exact fun _ _ hfuel => absurd hfuel (Nat.not_lt_zero _)
  | succ fuel ih =>
    intro b h hu hfuel
    by_cases hwanted : pieceLength - (b.ahead.take pieceLength).length = 0
    · -- enough was decoded ahead
      obtain ⟨v, rfl, hv, hcarriage⟩ := h
      have hle : pieceLength ≤ b.ahead.length := by
        rw [List.length_take] at hwanted
        omega
      refine ⟨{ b with ahead := b.ahead.drop pieceLength }, ?_, ⟨v, ?_, hv, hcarriage⟩,
        Nat.le_refl _⟩
      · rw [piece, List.take_append_of_le_length hle]
        exact if_pos hwanted
      · rw [List.drop_append_of_le_length hle]
    · -- one more block, after which as much is wanted, or the file has ended
      obtain ⟨b', ended, hnext, h', hrest, hended, hleft⟩ := next_holds h hu
      have hpiece : b.piece (fuel + 1) =
          if ended then .ok (b'.ahead, { b' with ahead := [] }) else piece fuel b' := by
        rw [piece, if_neg hwanted, hnext]
      cases ended with
      | true =>
        obtain ⟨hahead', hahead, hnone, hcarriage⟩ := hended rfl
        have hshort : u.length ≤ pieceLength := by
          rw [hahead, List.length_take] at hwanted
          omega
        refine ⟨{ b' with ahead := [] }, ?_, ⟨[], ?_, hnone.symm, hcarriage⟩, hrest⟩
        · rw [hpiece, if_pos rfl, hahead', List.take_of_length_le hshort]
        · rw [List.drop_eq_nil_of_le hshort]
          rfl
      | false =>
        obtain ⟨b'', hpiece', hholds, hrest'⟩ := ih h' hu (by have hleft := hleft rfl; omega)
        refine ⟨b'', ?_, hholds, Nat.le_trans hrest' hrest⟩
        rw [hpiece, if_neg Bool.false_ne_true]
        exact hpiece'

theorem left_lt (b : Blocks) : b.left < b.rest.length + 2 := by
  rw [left]
  split_ifs <;> omega

end Blocks

/-! ### Sources -/

namespace Source

open Blocks

theorem clean_of_all (h : t.all isClean = true) : t.all isAllowed = true ∧ '\r' ∉ t := by
  rw [List.all_eq_true] at h
  refine ⟨List.all_eq_true.mpr (fun c hc => (Bool.and_eq_true_iff.mp (h c hc)).1), fun hc => ?_⟩
  exact absurd (h '\r' hc) (by decide)

/-- The pieces of a text, from a place on. -/
theorem ofPieces_holds {fuel : Nat} : ∀ {b : Blocks} {u : Text} (done : List Text), b.Holds u →
    u.all isAllowed = true → '\r' ∉ u → u.length < fuel →
    ofPieces fuel b done = ⟨done.reverse.flatten ++ u, none⟩ := by
  induction fuel with
  | zero => exact fun _ _ _ _ hfuel => absurd hfuel (Nat.not_lt_zero _)
  | succ fuel ih =>
    intro b u done h hall hcarriage hfuel
    obtain ⟨b', hpiece, h', -⟩ := piece_holds h hcarriage b.left_lt
    rw [ofPieces, hpiece]
    dsimp only
    have hsplit := List.take_append_drop pieceLength u
    have hall' := hall
    rw [← hsplit, List.all_append, Bool.and_eq_true] at hall'
    cases u with
    | nil => simp
    | cons c u =>
      have hshorter : ((c :: u).drop pieceLength).length < fuel := by
        rw [List.length_drop, List.length_cons, pieceLength]
        rw [List.length_cons] at hfuel
        omega
      have hrest := ih ((c :: u).take pieceLength :: done) h' hall'.2
        (fun hmem => hcarriage (List.mem_of_mem_drop hmem)) hshorter
      have hne : ((c :: u).take pieceLength).isEmpty = false := rfl
      rw [hne, if_neg Bool.false_ne_true, if_pos hall'.1, hrest, List.reverse_cons,
        List.flatten_append, List.append_assoc, List.flatten_singleton, hsplit]

end Source

theorem length_le_encode (t : Text) : t.length ≤ (encode t).length := by
  induction t with
  | nil => exact Nat.le_refl _
  | cons c t ih =>
    have hpos := List.length_pos_iff.mpr (encodeChar_ne_nil c)
    rw [encode_cons, List.length_append, List.length_cons]
    omega

/-- **The source of a file that holds a text.** -/
theorem Source.ofBytes_encode (h : t.all isClean = true) :
    Source.ofBytes (encode t) = ⟨t, none⟩ := by
  obtain ⟨hall, hcarriage⟩ := Source.clean_of_all h
  have hstart : ({ rest := encode t } : Blocks).Holds t := ⟨t, rfl, rfl, rfl⟩
  obtain ⟨b₁, hfirst, h₁, hrest⟩ := Blocks.piece_holds hstart hcarriage (Blocks.left_lt _)
  have hleft := b₁.left_lt
  have hfuel : b₁.left < (encode t).length + 2 := by
    have hrest : b₁.rest.length ≤ (encode t).length := hrest
    omega
  obtain ⟨b₂, hsecond, h₂, -⟩ := Blocks.piece_holds h₁
    (fun hmem => hcarriage (List.mem_of_mem_drop hmem)) hfuel
  have hsplit : t.take Blocks.pieceLength ++ (t.drop Blocks.pieceLength).take Blocks.pieceLength ++
      (t.drop Blocks.pieceLength).drop Blocks.pieceLength = t := by
    rw [List.append_assoc, List.take_append_drop, List.take_append_drop]
  have hall' := hall
  rw [← hsplit, List.all_append, Bool.and_eq_true] at hall'
  have hlength := length_le_encode t
  have hrest := Source.ofPieces_holds
    [t.take Blocks.pieceLength ++ (t.drop Blocks.pieceLength).take Blocks.pieceLength]
    h₂ hall'.2 (fun hmem => hcarriage (List.mem_of_mem_drop (List.mem_of_mem_drop hmem)))
    (show _ < (encode t).length + 2 by simp only [List.length_drop]; omega)
  unfold Source.ofBytes
  dsimp only
  rw [hfirst]
  dsimp only
  rw [hsecond]
  dsimp only
  rw [if_pos hall'.1, hrest, List.reverse_singleton, List.flatten_singleton, hsplit]

end PackageCatalog.Yaml
