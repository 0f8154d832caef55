import PackageCatalog.Crawl.Glob
import PackageCatalog.Proofs.Names
import PackageCatalog.Proofs.Path

/-!
# Names below a directory

The system is asked for an entry by the octets of a name, and an entry below a directory has a name
that is written from the name of the directory and the names on the way.  Whatever octets these
names are, they come back from the name that is written of them, behind the parts of the directory.

## Main definitions

* `Path.IsPart` — a segment that a walk follows.

## Main results

* `Path.segments_of_toBytes?` — the segments of octets are the octets of the segments.
* `Glob.parts_nameBelow` — the parts of a name below a directory.
* `Glob.exists_octets` — **the octets of a name below a directory lead along the octets on the
  way.**
-/

namespace PackageCatalog

/-! ### Parts -/

namespace Path

open PathAlphabet

/-- A segment that a walk follows. -/
structure IsPart {α : Type} [PathAlphabet α] (s : List α) : Prop where
  idle : isIdle s = false
  free : Text.Free slash s

section Parts

variable {α : Type} [PathAlphabet α] {p r s : List α} {ss : List (List α)}

theorem mem_parts (h : s ∈ parts p) : IsPart s := by
  obtain ⟨hs, hidle⟩ := List.mem_filter.mp h
  exact ⟨by simpa using hidle, Text.free_of_mem_pieces hs⟩

theorem Plain.isPart (h : Plain s) : IsPart s := ⟨h.idle, h.free⟩

theorem IsPart.ne_nil (h : IsPart s) : s ≠ [] := by
  rintro rfl
  cases h.idle

theorem filter_of_parts (h : ∀ s ∈ ss, IsPart s) : ss.filter (!isIdle ·) = ss := by
  rw [List.filter_eq_self]
  intro s hs
  simp [(h s hs).idle]

/-- Idle segments are passed over. -/
theorem filter_of_idle (h : ∀ s ∈ ss, isIdle s = true) : ss.filter (!isIdle ·) = [] := by
  rw [List.filter_eq_nil_iff]
  intro s hs
  simp [h s hs]

theorem segments_ofSegments_of_parts [ReflBEq α] (hne : ss ≠ []) (h : ∀ s ∈ ss, IsPart s) :
    segments (ofSegments ss) = ss :=
  Text.pieces_joined hne (fun s hs => (h s hs).free)

theorem parts_ofSegments [ReflBEq α] (h : ∀ s ∈ ss, IsPart s) : parts (ofSegments ss) = ss := by
  by_cases hne : ss = []
  · rw [hne]
    rfl
  · rw [parts, segments_ofSegments_of_parts hne h, filter_of_parts h]

/-- A path that is written from parts is relative. -/
theorem isAbsolute_ofSegments (h : ∀ s ∈ ss, IsPart s) : isAbsolute (ofSegments ss) = false := by
  cases ss with
  | nil => rfl
  | cons s ss =>
    have hs := h s List.mem_cons_self
    obtain ⟨a, s', rfl⟩ := List.exists_cons_of_ne_nil hs.ne_nil
    have ha := hs.free a List.mem_cons_self
    cases ss with
    | nil => exact ha
    | cons q qs => exact ha

/-- A tidy path has its parts behind idle segments. -/
theorem segments_tidy [ReflBEq α] (p : List α) :
    ∃ idles, (∀ s ∈ idles, isIdle s = true) ∧ segments (tidy p) = idles ++ parts p := by
  have hempty : ∀ k, ∀ s ∈ List.replicate k ([] : List α), isIdle s = true := by
    intro k s hs
    rw [(List.mem_replicate.mp hs).2]
    rfl
  by_cases hparts : parts p = []
  · rw [tidy, hparts]
    by_cases hwritten : (List.replicate (rootSlashes p) (slash : α) ++ ofSegments []).isEmpty = true
    · -- there is nothing to write but a dot
      refine ⟨segments [dot], ?_, by rw [if_pos hwritten, List.append_nil]⟩
      intro s hs
      rw [segments, Text.pieces, Text.pieces] at hs
      split at hs
      · exact hempty 2 s hs
      · rw [List.mem_singleton.mp hs]
        simp [isIdle]
    · refine ⟨List.replicate (rootSlashes p) [] ++ [[]], ?_, ?_⟩
      · intro s hs
        rcases List.mem_append.mp hs with hs | hs
        · exact hempty _ s hs
        · exact hempty 1 s hs
      · rw [if_neg hwritten, segments_replicate_append, List.append_nil]
        rfl
  · refine ⟨List.replicate (rootSlashes p) [], hempty _, ?_⟩
    have hall : ∀ s ∈ parts p, IsPart s := fun s hs => mem_parts hs
    have hwritten : (List.replicate (rootSlashes p) slash ++ ofSegments (parts p)).isEmpty =
        false := by
      rw [List.isEmpty_eq_false_iff]
      intro h
      have hsegments := segments_ofSegments_of_parts hparts hall
      rw [(List.append_eq_nil_iff.mp h).2] at hsegments
      exact (hall [] (hsegments ▸ List.mem_singleton_self [])).ne_nil rfl
    rw [tidy, hwritten, if_neg Bool.false_ne_true, segments_replicate_append,
      segments_ofSegments_of_parts hparts hall]

theorem parts_tidy [ReflBEq α] (p : List α) : parts (tidy p) = parts p := by
  obtain ⟨idles, hidles, hsegments⟩ := segments_tidy p
  rw [parts, hsegments, List.filter_append, filter_of_idle hidles, List.nil_append]
  exact filter_of_parts (fun s hs => mem_parts hs)

theorem tidy_ne_nil (p : List α) : tidy p ≠ [] := by
  rw [tidy]
  split
  · exact List.cons_ne_nil _ _
  · next h => exact fun hnil => h (by rw [hnil]; rfl)

theorem rootSlashes_eq_zero (h : isAbsolute p = false) : rootSlashes p = 0 := by
  match p, h with
  | [], _ => rfl
  | [a], h => exact if_neg (by rw [show (a == slash) = false from h]; exact Bool.false_ne_true)
  | [a, b], h => exact if_neg (by rw [show (a == slash) = false from h]; exact Bool.false_ne_true)
  | a :: b :: c :: _, h =>
    exact if_neg (by rw [show (a == slash) = false from h]; exact Bool.false_ne_true)

/-- A tidy path is absolute as the path is. -/
theorem isAbsolute_tidy [ReflBEq α] (hdot : ((dot : α) == slash) = false) (p : List α) :
    isAbsolute (tidy p) = isAbsolute p := by
  cases hp : isAbsolute p with
  | true =>
    rw [tidy]
    rcases rootSlashes_of_isAbsolute hp with h | h
    · rw [h]
      exact BEq.rfl
    · rw [h]
      exact BEq.rfl
  | false =>
    rw [tidy, rootSlashes_eq_zero hp, List.replicate_zero, List.nil_append]
    split
    · exact hdot
    · exact isAbsolute_ofSegments (fun s hs => mem_parts hs)

/-- The units of a tidy path. -/
theorem mem_of_mem_tidy {a : α} (h : a ∈ tidy p) : a = slash ∨ a = dot ∨ a ∈ p := by
  rw [tidy] at h
  split at h
  · exact Or.inr (Or.inl (List.mem_singleton.mp h))
  · rcases List.mem_append.mp h with h | h
    · exact Or.inl (List.mem_replicate.mp h).2
    · rcases Text.mem_of_mem_joined h with h | ⟨s, hs, h⟩
      · exact Or.inl h
      · exact Or.inr (Or.inr (Text.mem_of_mem_pieces (List.mem_filter.mp hs).1 h))

/-! ### A relative path behind another -/

theorem parts_append_slash [ReflBEq α] (r p : List α) :
    parts (r ++ slash :: p) = parts r ++ parts p := by
  rw [parts, segments, Text.pieces_append, List.filter_append]
  rfl

/-- A relative path is seen from a directory behind the parts of that. -/
theorem parts_join [LawfulBEq α] (hr : r ≠ []) (hp : isAbsolute p = false) :
    parts (join r p) = parts r ++ parts p := by
  obtain ⟨r', a, rfl⟩ := (List.eq_nil_or_concat r).resolve_left hr
  rw [join, hp, if_neg Bool.false_ne_true, List.concat_eq_append, List.getLast?_concat]
  dsimp only
  split
  · next ha =>
    obtain rfl : a = slash := eq_of_beq ha
    have hlast : parts (r' ++ [slash]) = parts r' := by
      rw [parts_append_slash, show parts ([] : List α) = [] from rfl, List.append_nil]
    rw [hlast, List.append_assoc, List.singleton_append, parts_append_slash]
  · exact parts_append_slash _ _

theorem isAbsolute_join_of_relative (hr : r ≠ []) (hp : isAbsolute p = false) :
    isAbsolute (join r p) = isAbsolute r := by
  obtain ⟨a, r', rfl⟩ := List.exists_cons_of_ne_nil hr
  rw [join, hp, if_neg Bool.false_ne_true]
  split
  · next h => exact absurd (List.getLast?_eq_none_iff.mp h) (List.cons_ne_nil _ _)
  · split <;> rfl

theorem mem_of_mem_join {a : α} (h : a ∈ join r p) : a = slash ∨ a ∈ r ∨ a ∈ p := by
  rw [join] at h
  split at h
  · exact Or.inr (Or.inr h)
  · split at h
    · exact Or.inr (Or.inr h)
    · split at h
      · exact Or.inr (List.mem_append.mp h)
      · rcases List.mem_append.mp h with h | h
        · exact Or.inr (Or.inl h)
        · rcases List.mem_cons.mp h with h | h
          · exact Or.inl h
          · exact Or.inr (Or.inr h)

end Parts

/-! ### Segments of octets -/

section Octets

variable {n : NativeName} {b : Bytes}

/-- **The segments of octets are the octets of the segments.** -/
theorem segments_of_toBytes? (h : n.toBytes? = some b) :
    (segments b).map some = (segments n).map NativeName.toBytes? := by
  have hspells := spells_segments NativeName.keepsMarks_toBytes? (NativeName.spells_iff.mpr h)
  rw [← List.forall₂_eq_eq_eq, List.forall₂_map_left_iff, List.forall₂_map_right_iff]
  exact hspells.imp (fun _ _ hs => (NativeName.spells_iff.mp hs).symm)

theorem isAbsolute_of_toBytes? (h : n.toBytes? = some b) : isAbsolute b = isAbsolute n :=
  isAbsolute_of_spells NativeName.keepsMarks_toBytes? (NativeName.spells_iff.mpr h)

/-- Octets are idle when the name is. -/
theorem isIdle_of_toBytes? (h : n.toBytes? = some b) : isIdle b = isIdle n :=
  (sameKind_of_spells NativeName.keepsMarks_toBytes? (NativeName.spells_iff.mpr h)).idle

/-- A part of octets is a part by the name that stands for it. -/
theorem isPart_ofBytes (h : IsPart b) : IsPart (NativeName.ofBytes b) where
  idle := (isIdle_of_toBytes? (NativeName.toBytes?_ofBytes b)).symm.trans h.idle
  free := by
    intro u hu
    rw [beq_eq_false_iff_ne]
    rintro rfl
    have hmem : (slash : UInt8) ∈ b :=
      (NativeName.mem_of_toBytes? (NativeName.toBytes?_ofBytes b)).mpr
        ⟨slash, hu, [slash], rfl, List.mem_singleton_self _⟩
    have hfree := h.free slash hmem
    rw [BEq.rfl] at hfree
    cases hfree

theorem forall_isPart_ofBytes {ns : List Bytes} (h : ∀ name ∈ ns, IsPart name) :
    ∀ s ∈ ns.map NativeName.ofBytes, IsPart s := by
  intro s hs
  obtain ⟨name, hname, rfl⟩ := List.mem_map.mp hs
  exact isPart_ofBytes (h name hname)

end Octets

end Path

/-! ### Names below a directory -/

namespace Glob

open PackageCatalog.Path PathAlphabet

variable {r : NativeName} {rest : RestPath}

theorem parts_nameBelow (hr : r ≠ []) (hrest : ∀ s ∈ rest, IsPart s) :
    parts (nameBelow r rest) = parts r ++ rest := by
  rw [nameBelow, parts_tidy, parts_join hr (isAbsolute_ofSegments hrest), parts_ofSegments hrest]

theorem isAbsolute_nameBelow (hr : r ≠ []) (hrest : ∀ s ∈ rest, IsPart s) :
    isAbsolute (nameBelow r rest) = isAbsolute r := by
  rw [nameBelow, isAbsolute_tidy rfl, isAbsolute_join_of_relative hr (isAbsolute_ofSegments hrest)]

theorem mem_of_mem_nameBelow {u : NameUnit} (h : u ∈ nameBelow r rest) :
    u = slash ∨ u = dot ∨ u ∈ r ∨ ∃ s ∈ rest, u ∈ s := by
  rcases mem_of_mem_tidy h with h | h | h
  · exact Or.inl h
  · exact Or.inr (Or.inl h)
  · rcases mem_of_mem_join h with h | h | h
    · exact Or.inl h
    · exact Or.inr (Or.inr (Or.inl h))
    · rcases Text.mem_of_mem_joined h with h | h
      · exact Or.inl h
      · exact Or.inr (Or.inr (Or.inr h))

/-- Octets lead along parts, from the directory where they start: idle segments stand before the
parts only. -/
def Along (bytes : Bytes) (way : List Bytes) : Prop :=
  ∃ idles, (∀ s ∈ idles, isIdle s = true) ∧ segments bytes = idles ++ way

/-- The octets of a tidy name lead along the octets of its parts. -/
theorem exists_along {p : NativeName} {bytes : Bytes}
    (h : NativeName.toBytes? (tidy p) = some bytes) :
    ∃ way, Along bytes way ∧ way.map some = (parts p).map NativeName.toBytes? := by
  obtain ⟨idles, hidles, hsegments⟩ := segments_tidy p
  have hoctets := segments_of_toBytes? h
  rw [hsegments, List.map_append] at hoctets
  obtain ⟨front, way, hsplit, hfront, hway⟩ := List.map_eq_append_iff.mp hoctets
  refine ⟨way, ⟨front, ?_, hsplit⟩, hway⟩
  intro s hs
  have hmem : some s ∈ idles.map NativeName.toBytes? := hfront ▸ List.mem_map_of_mem hs
  obtain ⟨n, hn, hnoctets⟩ := List.mem_map.mp hmem
  exact (isIdle_of_toBytes? hnoctets).trans (hidles n hn)

section Octets

variable {q : NativeName} {root bytes : Bytes} {ns way : List Bytes}

/-- Every unit of a name below a directory comes from the directory or from a name on the way. -/
theorem mem_of_mem_nameBelow_ofBytes {u : NameUnit}
    (h : u ∈ nameBelow (tidy q) (ns.map NativeName.ofBytes)) :
    u = slash ∨ u = dot ∨ u ∈ tidy q ∨ ∃ name ∈ ns, u ∈ NativeName.ofBytes name := by
  rcases mem_of_mem_nameBelow h with h | h | h | ⟨s, hs, h⟩
  · exact Or.inl h
  · exact Or.inr (Or.inl h)
  · exact Or.inr (Or.inr (Or.inl h))
  · obtain ⟨name, hname, rfl⟩ := List.mem_map.mp hs
    exact Or.inr (Or.inr (Or.inr ⟨name, hname, h⟩))

/-- A name below a directory has octets when the directory has. -/
theorem exists_toBytes?_nameBelow (hroot : NativeName.toBytes? (tidy q) = some root)
    (ns : List Bytes) :
    ∃ bytes, (nameBelow (tidy q) (ns.map NativeName.ofBytes)).toBytes? = some bytes := by
  refine NativeName.exists_toBytes?_iff.mpr (fun u hu => ?_)
  rcases mem_of_mem_nameBelow_ofBytes hu with rfl | rfl | h | ⟨name, -, h⟩
  · exact ⟨_, rfl⟩
  · exact ⟨_, rfl⟩
  · exact NativeName.exists_toBytes?_iff.mp ⟨root, hroot⟩ u h
  · exact NativeName.exists_toBytes?_iff.mp ⟨name, NativeName.toBytes?_ofBytes name⟩ u h

/-- There is no zero in them that was not there before. -/
theorem zero_not_mem_nameBelow (hroot : NativeName.toBytes? (tidy q) = some root)
    (hbytes : (nameBelow (tidy q) (ns.map NativeName.ofBytes)).toBytes? = some bytes)
    (hzero : 0 ∉ root) (hnames : ∀ name ∈ ns, 0 ∉ name) : 0 ∉ bytes := by
  intro hmem
  obtain ⟨u, hu, os, hos, hin⟩ := (NativeName.mem_of_toBytes? hbytes).mp hmem
  have hnul : u = .char '\x00' := NameUnit.eq_char_of_mem hos (by decide) hin
  rcases mem_of_mem_nameBelow_ofBytes hu with rfl | rfl | h | ⟨name, hname, h⟩
  · exact absurd hnul (by decide)
  · exact absurd hnul (by decide)
  · exact hzero ((NativeName.mem_of_toBytes? hroot).mpr ⟨u, h, os, hos, hin⟩)
  · exact hnames name hname ((NativeName.mem_of_toBytes? (NativeName.toBytes?_ofBytes name)).mpr
      ⟨u, h, os, hos, hin⟩)

/-- They lead along the octets of the parts of the directory, and then along the names. -/
theorem along_nameBelow (hway : way.map some = (parts q).map NativeName.toBytes?)
    (hns : ∀ name ∈ ns, IsPart name)
    (hbytes : (nameBelow (tidy q) (ns.map NativeName.ofBytes)).toBytes? = some bytes) :
    Along bytes (way ++ ns) := by
  obtain ⟨way', halong, hway'⟩ := exists_along hbytes
  have hparts : parts (join (tidy q) (ofSegments (ns.map NativeName.ofBytes))) =
      parts q ++ ns.map NativeName.ofBytes := by
    rw [← parts_tidy, ← nameBelow, parts_nameBelow (tidy_ne_nil q) (forall_isPart_ofBytes hns),
      parts_tidy]
  have hnames : (ns.map NativeName.ofBytes).map NativeName.toBytes? = ns.map some := by
    rw [List.map_map]
    exact List.map_congr_left (fun name _ => NativeName.toBytes?_ofBytes name)
  rw [hparts, List.map_append, ← hway, hnames, ← List.map_append] at hway'
  have hinj : Function.Injective (some : Bytes → Option Bytes) := fun _ _ h => Option.some.inj h
  rwa [List.map_injective_iff.mpr hinj hway'] at halong

/-- **The octets of a name below a directory lead along the octets on the way**: behind the parts of
the directory, from where that starts; and there is no zero in them that was not there before. -/
theorem exists_octets (hroot : NativeName.toBytes? (tidy q) = some root) :
    ∃ way, Along root way ∧ ∀ ns : List Bytes, (∀ name ∈ ns, IsPart name) →
      ∃ bytes, (nameBelow (tidy q) (ns.map NativeName.ofBytes)).toBytes? = some bytes ∧
        bytes ≠ [] ∧ isAbsolute bytes = isAbsolute root ∧ Along bytes (way ++ ns) ∧
        (0 ∉ root → (∀ name ∈ ns, 0 ∉ name) → 0 ∉ bytes) := by
  obtain ⟨way, halong, hway⟩ := exists_along hroot
  refine ⟨way, halong, fun ns hns => ?_⟩
  obtain ⟨bytes, hbytes⟩ := exists_toBytes?_nameBelow hroot ns
  refine ⟨bytes, hbytes, ?_, ?_, along_nameBelow hway hns hbytes,
    zero_not_mem_nameBelow hroot hbytes⟩
  · rintro rfl
    obtain ⟨u, n, hn⟩ := List.exists_cons_of_ne_nil
      (show nameBelow (tidy q) (ns.map NativeName.ofBytes) ≠ [] from tidy_ne_nil _)
    rw [hn] at hbytes
    obtain ⟨front, back, hfront, -, hnil⟩ := NativeName.toBytes?_cons_eq_some_iff.mp hbytes
    exact NameUnit.ne_nil_of_toBytes? hfront (List.append_eq_nil_iff.mp hnil.symm).1
  · rw [isAbsolute_of_toBytes? hbytes,
      isAbsolute_nameBelow (tidy_ne_nil q) (forall_isPart_ofBytes hns),
      isAbsolute_of_toBytes? hroot]

end Octets

end Glob

end PackageCatalog
