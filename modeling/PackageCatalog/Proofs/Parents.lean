import PackageCatalog.Proofs.Growth
import Mathlib.Data.List.TakeWhile

/-!
# The directory above a file

Before a file is written the directories above it are made.  Where the file is found already they
all stand, whatever links lead to it: the way to a name passes the directory that is written before
the name.  So nothing has to be made.

## Main definitions

* `FileTree.Stands` — a directory that stands, with all that are above it.

## Main results

* `Path.parts_directory`, `Path.length_tidy_le` — the directory before the last name of a path.
* `FileTree.Leads.front` — **the way to a name passes the directory before it.**
* `FileTree.makeParents_of_stat` — **the directories above a file that is found need not be made.**
-/

namespace PackageCatalog

/-! ### The directory of a path -/

namespace Text

variable {α : Type} [BEq α] {mark : α}

omit [BEq α] in
theorem joined_append_singleton {ps : List (List α)} (hne : ps ≠ []) (p : List α) :
    joined mark (ps ++ [p]) = joined mark ps ++ mark :: p := by
  induction ps with
  | nil => exact absurd rfl hne
  | cons q qs ih =>
    cases qs with
    | nil => rfl
    | cons r rs =>
      have hrest := ih (List.cons_ne_nil r rs)
      rw [List.cons_append] at hrest
      rw [List.cons_append, List.cons_append, joined, hrest, joined, List.append_assoc,
        List.cons_append]

omit [BEq α] in
/-- Fewer pieces make a part of what all make. -/
theorem joined_filter_sublist (f : List α → Bool) : ∀ ps : List (List α),
    (joined mark (ps.filter f)).Sublist (joined mark ps) := by
  intro ps
  induction ps with
  | nil => exact List.Sublist.refl _
  | cons p ps ih =>
    have htail : (joined mark ps).Sublist (joined mark (p :: ps)) := by
      cases ps with
      | nil => exact List.nil_sublist _
      | cons q qs => exact (List.sublist_cons_self _ _).trans (List.sublist_append_right p _)
    rw [List.filter_cons]
    split
    · cases hrest : ps.filter f with
      | nil =>
        cases ps with
        | nil => exact List.Sublist.refl _
        | cons q qs => exact List.sublist_append_left p _
      | cons q qs =>
        rw [hrest] at ih
        cases ps with
        | nil => cases hrest
        | cons r rs => exact (List.Sublist.refl p).append (ih.cons_cons mark)
    · exact ih.trans htail

end Text

namespace Path

open PathAlphabet

variable {α : Type} [PathAlphabet α] [LawfulBEq α] {p b : List α} {segs : List (List α)}

theorem parts_append_replicate (p : List α) (k : Nat) :
    parts (p ++ List.replicate k slash) = parts p := by
  induction k generalizing p with
  | zero => rw [List.replicate_zero, List.append_nil]
  | succ k ih =>
    have hempty := ih ([] : List α)
    rw [List.nil_append] at hempty
    rw [List.replicate_succ, parts_append_slash, hempty]
    exact List.append_nil _

/-- A path is its last name, or a path to the directory, which it names without slashes at the end,
and its last name. -/
theorem directory_cases (h : segments p = segs ++ [b]) :
    (segs = [] ∧ p = b ∧ directory p = []) ∨
      ∃ r k, segments r = segs ∧ p = r ++ slash :: b ∧ directory p ≠ [] ∧
        r ++ [slash] = directory p ++ List.replicate k slash := by
  have hbase : baseName p = b := by
    rw [baseName, h, List.getLast?_concat]
    rfl
  have hp := ofSegments_segments p
  rw [h] at hp
  by_cases hsegs : segs = []
  · left
    rw [hsegs] at hp
    have hpb : p = b := hp.symm
    refine ⟨hsegs, hpb, ?_⟩
    rw [directory, hbase, hpb, Nat.sub_self, List.take_zero]
    rfl
  · right
    rw [ofSegments, Text.joined_append_singleton hsegs] at hp
    have hhead : p.take (p.length - (baseName p).length) = Text.joined slash segs ++ [slash] := by
      have hlength : p.length - b.length = (Text.joined slash segs ++ [slash]).length := by
        rw [← hp, List.append_cons, List.length_append, Nat.add_sub_cancel]
      rw [hbase, hlength, ← hp, List.append_cons (Text.joined slash segs) slash b, List.take_left]
    refine ⟨Text.joined slash segs, ?_⟩
    have hread : segments (Text.joined slash segs) = segs := by
      refine Text.pieces_joined hsegs (fun s hs => ?_)
      exact Text.free_of_mem_pieces (s := p) (by
        show s ∈ segments p
        rw [h]
        exact List.mem_append_left _ hs)
    rw [directory, hhead]
    split
    · exact ⟨0, hread, hp.symm, by simp, by simp⟩
    · next hall =>
      -- what is taken away at the end are slashes, and something is left
      obtain ⟨k, hsplit⟩ :=
        Text.exists_eq_replicate_append slash (Text.joined slash segs ++ [slash]).reverse
      refine ⟨k, hread, hp.symm, fun hnil => ?_, ?_⟩
      · refine hall ?_
        rw [List.reverse_eq_nil_iff, List.dropWhile_eq_nil_iff] at hnil
        rw [List.all_eq_true]
        exact fun a ha => hnil a (List.mem_reverse.mpr ha)
      · have hrev := (List.reverse_eq_iff.mp hsplit).trans List.reverse_append
        rw [List.reverse_replicate] at hrev
        exact hrev

/-- The parts of the directory are the parts before the last name. -/
theorem parts_directory (h : segments p = segs ++ [b]) :
    parts (directory p) = segs.filter (!isIdle ·) := by
  rcases directory_cases h with ⟨rfl, -, hdirectory⟩ | ⟨r, k, rfl, -, -, hr⟩
  · rw [hdirectory]
    rfl
  · rw [← parts_append_replicate (directory p) k, ← hr, parts_append_slash]
    exact List.append_nil _

theorem isAbsolute_directory (h : segments p = segs ++ [b]) :
    isAbsolute (directory p) = isAbsolute p := by
  rcases directory_cases h with ⟨hsegs, hp, hdirectory⟩ | ⟨r, k, -, hp, hne, hr⟩
  · rw [hdirectory, hp]
    rw [hsegs, List.nil_append] at h
    cases b with
    | nil => rfl
    | cons a b =>
      have hfree : Text.Free slash (a :: b) :=
        Text.free_of_mem_pieces (s := p)
          (show a :: b ∈ segments p from h ▸ List.mem_singleton_self _)
      exact (hfree a List.mem_cons_self).symm
  · obtain ⟨a, d, hd⟩ := List.exists_cons_of_ne_nil hne
    have hfront : p = a :: d ++ List.replicate k slash ++ b := by
      rw [← hd, ← hr, ← List.append_cons, ← hp]
    rw [hd]
    conv_rhs => rw [hfront]
    rfl

theorem directory_sublist (h : segments p = segs ++ [b]) : (directory p).Sublist p := by
  rcases directory_cases h with ⟨-, -, hdirectory⟩ | ⟨r, k, -, hp, -, hr⟩
  · rw [hdirectory]
    exact List.nil_sublist _
  · have hfront : (directory p).Sublist (r ++ [slash] ++ b) := by
      rw [hr, List.append_assoc]
      exact List.sublist_append_left _ _
    rw [← List.append_cons, ← hp] at hfront
    exact hfront

/-- A tidy path is a part of the path, or a dot. -/
theorem tidy_sublist (p : List α) : (tidy p).Sublist p ∨ tidy p = [dot] := by
  have hrest : ∀ q : List α, (ofSegments (parts q)).Sublist q := by
    intro q
    have h : (Text.joined slash ((segments q).filter (!isIdle ·))).Sublist
        (Text.joined slash (segments q)) := Text.joined_filter_sublist _ _
    have hq := ofSegments_segments q
    rw [ofSegments] at hq
    rw [hq] at h
    exact h
  have hslash : ∀ q : List α, parts (slash :: q) = parts q := by
    intro q
    have h := parts_append_slash ([] : List α) q
    exact h
  have hwritten : (List.replicate (rootSlashes p) slash ++ ofSegments (parts p)).Sublist p := by
    -- a path starts with as many slashes as it had, of which two are kept
    cases hp : isAbsolute p with
    | false =>
      rw [rootSlashes_eq_zero hp]
      exact hrest p
    | true =>
      cases p with
      | nil => cases hp
      | cons a q =>
        obtain rfl : a = slash := eq_of_beq hp
        rcases rootSlashes_of_isAbsolute (p := slash :: q) BEq.rfl with h | h
        · rw [h, hslash]
          exact (hrest q).cons_cons slash
        · cases q with
          | nil => simp [rootSlashes] at h
          | cons b q =>
            have hb : b = slash := by
              by_contra hne
              have hfalse : (b == slash) = false := beq_false_of_ne hne
              cases q with
              | nil => simp [rootSlashes, hfalse] at h
              | cons c q => simp [rootSlashes, hfalse] at h
            rw [h, hslash, hb, hslash]
            exact ((hrest q).cons_cons slash).cons_cons slash
  rw [tidy]
  split
  · exact Or.inr rfl
  · exact Or.inl hwritten

end Path

namespace NativeName

/-- Part of a name has part of its octets. -/
theorem exists_sublist_octets {n n' : NativeName} (h : n'.Sublist n) :
    ∀ {b : Bytes}, n.toBytes? = some b → ∃ b', n'.toBytes? = some b' ∧ b'.Sublist b := by
  induction h with
  | slnil => exact fun hb => ⟨_, hb, List.Sublist.refl _⟩
  | cons u _ ih =>
    intro b hb
    obtain ⟨front, back, -, hback, rfl⟩ := toBytes?_cons_eq_some_iff.mp hb
    obtain ⟨b', hb', hsub⟩ := ih hback
    exact ⟨b', hb', hsub.trans (List.sublist_append_right _ _)⟩
  | cons_cons u _ ih =>
    intro b hb
    obtain ⟨front, back, hfront, hback, rfl⟩ := toBytes?_cons_eq_some_iff.mp hb
    obtain ⟨b', hb', hsub⟩ := ih hback
    exact ⟨front ++ b', toBytes?_cons_eq_some_iff.mpr ⟨_, _, hfront, hb', rfl⟩,
      (List.Sublist.refl front).append hsub⟩

theorem octets_ne_nil {n : NativeName} {b : Bytes} (hne : n ≠ []) (h : n.toBytes? = some b) :
    b ≠ [] := by
  obtain ⟨u, rest, rfl⟩ := List.exists_cons_of_ne_nil hne
  obtain ⟨front, back, hfront, -, rfl⟩ := toBytes?_cons_eq_some_iff.mp h
  exact fun hnil => NameUnit.ne_nil_of_toBytes? hfront (List.append_eq_nil_iff.mp hnil).1

end NativeName

/-! ### Ways to a directory -/

namespace FileTree

open PackageCatalog.Path

variable {tree tree' : FileTree} {dir p q : RealPath} {todo : List Bytes} {last : Bytes}
  {entry : Entry} {spot : Spot} {n : Nat} {t : Int} {nm : NativeName}

/-- A directory that stands, with all that are above it. -/
def Stands (tree : FileTree) (dir : RealPath) : Prop :=
  ∀ q, q <+: dir → ∃ t, tree.entry? q = some (.directory t)

theorem stands_nil : Stands tree [] := by
  intro q hq
  rw [List.prefix_nil.mp hq]
  exact ⟨recentTime, rfl⟩

theorem Stands.of_prefix (h : Stands tree dir) (hq : q <+: dir) : Stands tree q :=
  fun front hfront => h front (hfront.trans hq)

theorem Stands.child {name : Bytes} (h : Stands tree dir)
    (hentry : tree.entry? (dir ++ [name]) = some (.directory t)) : Stands tree (dir ++ [name]) := by
  intro q hq
  rcases List.prefix_concat_iff.mp hq with rfl | hq
  · exact ⟨t, hentry⟩
  · exact h q hq

theorem Stands.grow (h : Stands tree dir) (hgrows : Grows tree tree') : Stands tree' dir := by
  intro q hq
  obtain ⟨t, ht⟩ := h q hq
  exact hgrows.directory ht

/-- What is put in the place of something else than a directory lets directories stand. -/
theorem Stands.put (h : Stands tree dir) (hplace : ∀ t, tree.entry? p ≠ some (.directory t)) :
    Stands (tree.put p entry) dir := by
  intro q hq
  obtain ⟨t, ht⟩ := h q hq
  refine entry?_put_directory ?_ ht
  rintro rfl
  exact hplace t ht

/-- Where nothing is left of a way, it has come to a directory that stands. -/
theorem Stands.leads (h : Stands tree dir) :
    ∃ p t, Leads tree n dir [] (.present p (.directory t)) := by
  obtain ⟨t, ht⟩ := h dir (List.prefix_refl _)
  have hway : Leads tree n dir [] _ := .stop
  rw [ht] at hway
  exact ⟨dir, t, hway⟩

/-- **The way to a name passes the directory before it.** -/
theorem Leads.front (hidle : isIdle last = false) (hparent : isParent last = false)
    (h : Leads tree n dir (todo ++ [last]) spot) (hstands : Stands tree dir) :
    ∃ p t, Leads tree n dir todo (.present p (.directory t)) := by
  -- the induction is on the way, which is followed up to the last name
  generalize hall : todo ++ [last] = all at h
  induction h generalizing todo with
  | stop => simp at hall
  | @idle n dir name rest spot hname _ ih =>
    cases todo with
    | nil =>
      cases hall
      rw [hname] at hidle
      cases hidle
    | cons first todo =>
      cases hall
      obtain ⟨p, t, hway⟩ := ih hstands rfl
      exact ⟨p, t, .idle hname hway⟩
  | @parent n dir name rest spot hnotIdle hname _ ih =>
    cases todo with
    | nil =>
      cases hall
      rw [hname] at hparent
      cases hparent
    | cons first todo =>
      cases hall
      obtain ⟨p, t, hway⟩ := ih (hstands.of_prefix (List.dropLast_prefix _)) rfl
      exact ⟨p, t, .parent hnotIdle hname hway⟩
  | absent _ _ =>
    cases todo with
    | nil => exact hstands.leads
    | cons first todo => simp at hall
  | file _ _ =>
    cases todo with
    | nil => exact hstands.leads
    | cons first todo => simp at hall
  | @directory n dir name rest spot t hname hentry _ ih =>
    cases todo with
    | nil => exact hstands.leads
    | cons first todo =>
      cases hall
      obtain ⟨p, t, hway⟩ := ih (hstands.child hentry) rfl
      exact ⟨p, t, .directory hname hentry hway⟩
  | @link n dir name target rest spot hname hentry _ ih =>
    cases todo with
    | nil => exact hstands.leads
    | cons first todo =>
      cases hall
      have hfrom : Stands tree (if isAbsolute target then [] else dir) := by
        split
        · exact stands_nil
        · exact hstands
      obtain ⟨p, t, hway⟩ := ih hfrom (List.append_assoc _ _ _)
      exact ⟨p, t, .link hname hentry hway⟩

/-- The way to a directory passes over idle names. -/
theorem Leads.of_filter_eq {other : List Bytes}
    (h : Leads tree n dir todo (.present p (.directory t)))
    (hother : other.filter (!isIdle ·) = todo.filter (!isIdle ·)) :
    Leads tree n dir other (.present p (.directory t)) := by
  -- a name that is not idle stands behind idle ones
  have hsplit : ∀ {name : Bytes} {rest other : List Bytes}, isIdle name = false →
      other.filter (!isIdle ·) = (name :: rest).filter (!isIdle ·) →
      ∃ idles rest', (∀ s ∈ idles, isIdle s = true) ∧ other = idles ++ name :: rest' ∧
        rest'.filter (!isIdle ·) = rest.filter (!isIdle ·) := by
    intro name rest other hname h
    rw [List.filter_cons_of_pos (by rw [hname]; rfl)] at h
    obtain ⟨idles, rest', hall, hidles, -, hrest⟩ := List.filter_eq_cons_iff.mp h
    exact ⟨idles, rest', fun s hs => by simpa using hidles s hs, hall, hrest⟩
  generalize hend : Spot.present p (.directory t) = goal at h ⊢
  induction h generalizing other with
  | @stop n dir =>
    rw [List.filter_nil, List.filter_eq_nil_iff] at hother
    rw [← List.append_nil other, leads_idle_append_iff (fun s hs => by simpa using hother s hs)]
    exact .stop
  | idle hname _ ih =>
    rw [List.filter_cons_of_neg (by rw [hname]; exact Bool.false_ne_true)] at hother
    exact ih hother hend
  | parent hidle hname _ ih =>
    obtain ⟨idles, rest', hidles, rfl, hrest⟩ := hsplit hidle hother
    rw [leads_idle_append_iff hidles]
    exact .parent hidle hname (ih hrest hend)
  | absent _ _ => cases hend
  | file _ _ => cases (Spot.present.inj hend).2
  | directory hname hentry _ ih =>
    obtain ⟨idles, rest', hidles, rfl, hrest⟩ := hsplit hname.1 hother
    rw [leads_idle_append_iff hidles]
    exact .directory hname hentry (ih hrest hend)
  | link hname hentry _ ih =>
    obtain ⟨idles, rest', hidles, rfl, hrest⟩ := hsplit hname.1 hother
    rw [leads_idle_append_iff hidles]
    refine .link hname hentry (ih ?_ hend)
    rw [List.filter_append, List.filter_append, hrest]

/-- What is found when links are followed is found when the last one is not. -/
theorem Leads.exists_followLinks (h : Leads tree n dir todo (.present p entry)) :
    ∃ p' e', tree.followLinks false n dir todo = .ok (.present p' e') := by
  have hfollow : ∀ n, ∃ again, tree.followLinks false n = tree.follow false again := by
    intro n
    cases n with
    | zero => exact ⟨none, rfl⟩
    | succ n => exact ⟨some (tree.followLinks false n), rfl⟩
  generalize hend : Spot.present p entry = goal at h
  -- one case for each step of the way; the last name may be that of a link
  induction h with
  | @stop n dir =>
    obtain ⟨again, hagain⟩ := hfollow n
    exact ⟨_, _, by rw [hagain, follow]⟩
  | @idle n dir name rest spot hname _ ih =>
    obtain ⟨again, hagain⟩ := hfollow n
    rw [hagain] at ih ⊢
    rw [follow, if_pos hname]
    exact ih hend
  | @parent n dir name rest spot hidle hname _ ih =>
    obtain ⟨again, hagain⟩ := hfollow n
    rw [hagain] at ih ⊢
    rw [follow, hidle, if_neg Bool.false_ne_true, if_pos hname]
    exact ih hend
  | absent _ _ => cases hend
  | @file n dir name body changed hname hentry =>
    obtain ⟨again, hagain⟩ := hfollow n
    obtain ⟨hidle, hparent, hlength⟩ := hname
    refine ⟨dir ++ [name], .file body changed, ?_⟩
    rw [hagain, follow, hidle, hparent]
    simp [hlength, hentry]
  | @directory n dir name rest spot changed hname hentry _ ih =>
    obtain ⟨again, hagain⟩ := hfollow n
    obtain ⟨hidle, hparent, hlength⟩ := hname
    rw [hagain] at ih ⊢
    rw [follow, hidle, hparent]
    simpa [hlength, hentry] using ih hend
  | @link n dir name target rest spot hname hentry _ ih =>
    obtain ⟨hidle, hparent, hlength⟩ := hname
    rw [followLinks, follow, hidle, hparent]
    cases rest with
    | nil => simp [hlength, hentry]
    | cons next rest => simpa [hlength, hentry] using ih hend

/-! ### Directories that are there already -/

theorem exists_locate_last (h : tree.locate true nm = .ok (.present p entry)) :
    ∃ p' e', tree.locate false nm = .ok (.present p' e') := by
  obtain ⟨bytes, hoctets, hresolve⟩ := locate_eq_ok_iff.mp h
  obtain ⟨hne, hlength, hway⟩ := resolve_eq_ok_iff_leads.mp hresolve
  obtain ⟨p', e', hfound⟩ := hway.exists_followLinks
  exact ⟨p', e', locate_eq_ok_iff.mpr ⟨bytes, hoctets,
    resolve_eq_ok_iff.mpr ⟨hne, hlength, hfound⟩⟩⟩

/-- A directory that is found need not be made. -/
theorem makeParents_of_directory (h : tree.stat nm = .ok (.directory t)) :
    tree.makeParents nm = .ok tree := by
  obtain ⟨p, hlocate⟩ := stat_eq_ok_iff.mp h
  obtain ⟨p', e', hlast⟩ := exists_locate_last hlocate
  have hmake : tree.makeDirectory nm = .error (.system .alreadyThere nm) := by
    rw [makeDirectory, create, hlast]
  have htest : tree.testEntry nm isDirectoryEntry = .ok true := testEntry_of_stat h
  rw [makeParents]
  unfold makeParentsWith
  rw [hmake]
  dsimp only
  rw [htest]

/-- The octets of the parts of a name are the parts of its octets. -/
theorem parts_of_toBytes? {bytes : Bytes} (h : nm.toBytes? = some bytes) :
    (parts bytes).map some = (parts nm).map NativeName.toBytes? := by
  have hparts : ∀ {bs : List Bytes} {ss : List NativeName},
      bs.map some = ss.map NativeName.toBytes? →
      (bs.filter (!isIdle ·)).map some = (ss.filter (!isIdle ·)).map NativeName.toBytes? := by
    intro bs
    induction bs with
    | nil =>
      intro ss h
      rw [List.map_eq_nil_iff.mp h.symm]
      rfl
    | cons b bs ih =>
      intro ss h
      cases ss with
      | nil => cases h
      | cons s ss =>
        obtain ⟨hs, hss⟩ := List.cons.inj h
        have hidle := isIdle_of_toBytes? hs.symm
        rw [List.filter_cons, List.filter_cons, hidle]
        split
        · rw [List.map_cons, List.map_cons, ih hss, hs]
        · exact ih hss
  exact hparts (segments_of_toBytes? h)

section Directory

variable {segs : List NativeName} {b : NativeName} {bytes : Bytes}

/-- The octets of the directory are no more than those of the name, but for a dot. -/
theorem exists_octets_directory (hsegments : segments nm = segs ++ [b])
    (hbytes : nm.toBytes? = some bytes) :
    ∃ above : Bytes, NativeName.toBytes? (tidy (directory nm)) = some above ∧
      above.length ≤ max 1 bytes.length ∧ (0 ∉ bytes → 0 ∉ above) := by
  rcases tidy_sublist (directory nm) with hsub | hdot
  · obtain ⟨above, habove, hsub⟩ :=
      NativeName.exists_sublist_octets (hsub.trans (directory_sublist hsegments)) hbytes
    exact ⟨above, habove, hsub.length_le.trans (le_max_right _ _), fun h hzero =>
      h (hsub.subset hzero)⟩
  · rw [hdot]
    exact ⟨[0x2E], rfl, le_max_left _ _, fun _ => by decide⟩

/-- The octets of a name end with those of its last segment, and those of the directory have the
parts before them. -/
theorem exists_segments_octets {above : Bytes} (hsegments : segments nm = segs ++ [b])
    (hidle : isIdle b = false) (hparent : isParent b = false) (hbytes : nm.toBytes? = some bytes)
    (habove : NativeName.toBytes? (tidy (directory nm)) = some above) :
    ∃ front last, segments bytes = front ++ [last] ∧ isIdle last = false ∧
      isParent last = false ∧ parts above = front.filter (!isIdle ·) := by
  have hmap := segments_of_toBytes? hbytes
  rw [hsegments, List.map_append] at hmap
  obtain ⟨front, lasts, hsplit, hfront, hlasts⟩ := List.map_eq_append_iff.mp hmap
  obtain ⟨last, rfl, hlast⟩ := List.map_eq_singleton_iff.mp hlasts
  have hkind := sameKind_of_spells NativeName.keepsMarks_toBytes?
    (NativeName.spells_iff.mpr hlast.symm)
  have hlastIdle := hkind.idle.trans hidle
  refine ⟨front, last, hsplit, hlastIdle, hkind.parent.trans hparent, ?_⟩
  -- of the octets and of the name, the last part is no other than the last segment
  have hparts := parts_of_toBytes? hbytes
  have hdirectory := parts_of_toBytes? habove
  have hlastPart : parts bytes = front.filter (!isIdle ·) ++ [last] := by
    rw [parts, hsplit, List.filter_append, List.filter_cons_of_pos (by rw [hlastIdle]; rfl)]
    rfl
  have hnamePart : parts nm = parts (directory nm) ++ [b] := by
    rw [parts_directory hsegments, parts, hsegments, List.filter_append,
      List.filter_cons_of_pos (by rw [hidle]; rfl)]
    rfl
  rw [hlastPart, hnamePart, List.map_append, List.map_append, ← parts_tidy (directory nm),
    ← hdirectory] at hparts
  have hfronts := (List.append_inj' hparts rfl).1
  exact (List.map_injective_iff.mpr (fun _ _ => Option.some.inj) hfronts).symm

/-- The directory above what is found is found. -/
theorem exists_stat_directory (hstands : Stands tree workingDirectory)
    (hsegments : segments nm = segs ++ [b]) (hidle : isIdle b = false)
    (hparent : isParent b = false) (h : tree.stat nm = .ok entry) :
    ∃ t, tree.stat (tidy (directory nm)) = .ok (.directory t) := by
  obtain ⟨p, hlocate⟩ := stat_eq_ok_iff.mp h
  obtain ⟨bytes, hoctets, hresolve⟩ := locate_eq_ok_iff.mp hlocate
  obtain ⟨hbytes, hzero⟩ := octets_eq_ok_iff.mp hoctets
  obtain ⟨above, habove, hlength, hfree⟩ := exists_octets_directory hsegments hbytes
  obtain ⟨front, last, hsplit, hidle', hparent', hparts⟩ :=
    exists_segments_octets hsegments hidle hparent hbytes habove
  -- the way to the name passes the directory
  obtain ⟨-, hbound, hway⟩ := resolve_eq_ok_iff_leads.mp hresolve
  rw [hsplit] at hway
  have hstart : startOf above = startOf bytes := by
    rw [startOf, startOf, isAbsolute_of_toBytes? habove, isAbsolute_of_toBytes? hbytes,
      isAbsolute_tidy rfl, isAbsolute_directory hsegments]
  have hstandsStart : Stands tree (startOf bytes) := by
    rw [startOf]
    split
    · exact stands_nil
    · exact hstands
  obtain ⟨q, t, hfront⟩ := hway.front hidle' hparent' hstandsStart
  have hleads : Leads tree linkLimit (startOf above) (segments above)
      (.present q (.directory t)) := by
    rw [hstart]
    exact hfront.of_filter_eq hparts
  have hne : above ≠ [] := NativeName.octets_ne_nil (tidy_ne_nil _) habove
  have hshort : above.length < pathLimit := by
    have hone : 1 < pathLimit := by decide
    omega
  exact ⟨t, stat_eq_ok_iff.mpr ⟨q, locate_eq_ok_iff.mpr ⟨above,
    octets_eq_ok_iff.mpr ⟨habove, hfree hzero⟩,
    resolve_eq_ok_iff_leads.mpr ⟨hne, hshort, hleads⟩⟩⟩⟩

/-- **The directories above a file that is found need not be made.** -/
theorem makeParents_of_stat (hstands : Stands tree workingDirectory)
    (hsegments : segments nm = segs ++ [b]) (hidle : isIdle b = false)
    (hparent : isParent b = false) (h : tree.stat nm = .ok entry) :
    tree.makeParents (tidy (directory nm)) = .ok tree := by
  obtain ⟨t, ht⟩ := exists_stat_directory hstands hsegments hidle hparent h
  exact makeParents_of_directory ht

end Directory

end FileTree

end PackageCatalog
