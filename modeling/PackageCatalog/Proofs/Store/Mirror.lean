import PackageCatalog.Store.Basic
import Mathlib.Data.List.Nodup

/-!
# The text index mirrors the documents

Documents are numbered upwards, no two of them have the same path, and the text index holds one
row for each document, with its number and its text fields as they are.  Every change of the
store keeps this up, whichever fields it assigns.

## Main definitions

* `Store.Sound` — the state of a store in which all this holds.
* `Store.Reachable` — the stores that changes lead to.

## Main results

* `Store.insert_eq_ok`, `Store.update_eq_ok`, `Store.delete_eq_ok` — all that a change does.
* `Store.Reachable.sound` — **whatever the changes, the index mirrors the documents.**
-/

namespace PackageCatalog

namespace Store

/-! ### Looking a path up -/

theorem mem_of_get?_eq_some {s : Store} {path : Text} {d : Document} (h : s.get? path = some d) :
    d ∈ s.documents := List.mem_of_find?_eq_some h

theorem path_of_get?_eq_some {s : Store} {path : Text} {d : Document} (h : s.get? path = some d) :
    d.path = path := by simpa using List.find?_some h

theorem get?_eq_none_iff {s : Store} {path : Text} :
    s.get? path = none ↔ ∀ d ∈ s.documents, d.path ≠ path := by
  simp [get?, List.find?_eq_none]

/-! ### What changes do -/

/-- The documents with `new` in the place of the one that has its number. -/
def replaced (new : Document) (ds : List Document) : List Document :=
  ds.map (fun d => if d.id == new.id then new else d)

/-- The documents without the one of a number. -/
def without (id : Nat) (ds : List Document) : List Document := ds.filter (fun d => d.id != id)

theorem mem_replaced {new d : Document} {ds : List Document} (h : d ∈ replaced new ds) :
    d = new ∨ (d ∈ ds ∧ d.id ≠ new.id) := by
  obtain ⟨e, he, hd⟩ := List.mem_map.mp h
  by_cases hid : e.id = new.id
  · left
    simpa [hid] using hd.symm
  · right
    have hde : e = d := by simpa [hid] using hd
    exact ⟨hde ▸ he, hde ▸ hid⟩

theorem mem_replaced_of_ne {new d : Document} {ds : List Document} (h : d ∈ ds)
    (hid : d.id ≠ new.id) : d ∈ replaced new ds :=
  List.mem_map.mpr ⟨d, h, by simp [hid]⟩

theorem mem_replaced_self {new old : Document} {ds : List Document} (h : old ∈ ds)
    (hid : old.id = new.id) : new ∈ replaced new ds :=
  List.mem_map.mpr ⟨old, h, by simp [hid]⟩

@[simp] theorem mem_without {id : Nat} {d : Document} {ds : List Document} :
    d ∈ without id ds ↔ d ∈ ds ∧ d.id ≠ id := by
  simp [without]

theorem insert_eq_ok {s s' : Store} {values : List (Field × Datum)} (h : s.insert values = .ok s') :
    ∃ c, newContents values = .ok c ∧ s.get? c.path = none ∧
      s' = { documents := s.documents ++ [{ c with id := s.lastId + 1 }]
             index := insertIndex (Document.indexRow { c with id := s.lastId + 1 }) s.index
             lastId := s.lastId + 1 } := by
  unfold insert at h
  split at h
  · cases h
  · next c hc =>
    split at h
    · cases h
    · next hfree =>
      refine ⟨c, hc, by simpa using hfree, ?_⟩
      exact (Except.ok.inj h).symm

theorem update_eq_ok {s s' : Store} {path : Text} {values : List (Field × Datum)}
    (h : s.update path values = .ok s') :
    ∃ old c, s.get? path = some old ∧ changedContents old.toContents values = .ok c ∧
      (∀ d ∈ s.documents, d.path = c.path → d.id = old.id) ∧
      s' = { documents := replaced { c with id := old.id } s.documents
             index := insertIndex (Document.indexRow { c with id := old.id })
               (s.index.filter (fun r => r.id != old.id))
             lastId := s.lastId } := by
  unfold update at h
  split at h
  · cases h
  · next old hold =>
    split at h
    · cases h
    · next c hc =>
      split at h
      · cases h
      · next hfree =>
        refine ⟨old, c, hold, hc, ?_, (Except.ok.inj h).symm⟩
        intro d hd hpath
        by_contra hid
        exact hfree (List.any_eq_true.mpr ⟨d, hd, by simp [hid, hpath]⟩)

theorem delete_eq_ok {s s' : Store} {path : Text} (h : s.delete path = .ok s') :
    ∃ old, s.get? path = some old ∧
      s' = { documents := without old.id s.documents
             index := s.index.filter (fun r => r.id != old.id)
             lastId := s.lastId } := by
  unfold delete at h
  split at h
  · cases h
  · next old hold => exact ⟨old, hold, (Except.ok.inj h).symm⟩

/-! ### The mirror -/

/-- The documents ascend by number, each path is that of one document, no number is above the
last one that was given, and the index holds the rows of the documents. -/
structure Sound (s : Store) : Prop where
  mirrored : s.index = s.documents.map Document.indexRow
  ascending : s.documents.Pairwise (fun d e => d.id < e.id)
  distinct : s.documents.Pairwise (fun d e => d.path ≠ e.path)
  bounded : ∀ d ∈ s.documents, d.id ≤ s.lastId

namespace Sound

variable {s s' : Store}

theorem eq_of_id {d e : Document} (h : s.Sound) (hd : d ∈ s.documents) (he : e ∈ s.documents)
    (hid : d.id = e.id) : d = e := by
  have hnodup : (s.documents.map (·.id)).Nodup :=
    List.pairwise_map.mpr (h.ascending.imp (fun hlt => Nat.ne_of_lt hlt))
  exact List.inj_on_of_nodup_map hnodup hd he hid

theorem eq_of_path {d e : Document} (h : s.Sound) (hd : d ∈ s.documents) (he : e ∈ s.documents)
    (hpath : d.path = e.path) : d = e :=
  List.inj_on_of_nodup_map (f := (·.path)) (List.pairwise_map.mpr h.distinct) hd he hpath

/-- A document is the one that its path leads to. -/
theorem get?_path {d : Document} (h : s.Sound) (hd : d ∈ s.documents) :
    s.get? d.path = some d := by
  cases hget : s.get? d.path with
  | none => exact absurd rfl (get?_eq_none_iff.mp hget d hd)
  | some e => rw [h.eq_of_path (mem_of_get?_eq_some hget) hd (path_of_get?_eq_some hget)]

theorem get?_eq_some_iff {path : Text} {d : Document} (h : s.Sound) :
    s.get? path = some d ↔ d ∈ s.documents ∧ d.path = path := by
  constructor
  · exact fun hget => ⟨mem_of_get?_eq_some hget, path_of_get?_eq_some hget⟩
  · rintro ⟨hd, rfl⟩
    exact h.get?_path hd

theorem nodup (h : s.Sound) : s.documents.Nodup := by
  refine h.ascending.imp ?_
  rintro d e hlt rfl
  exact Nat.lt_irrefl _ hlt

/-- The index rows of a document's number are its own row. -/
theorem filter_index {d : Document} (h : s.Sound) (hd : d ∈ s.documents) :
    s.index.filter (fun r => r.id == d.id) = [d.indexRow] := by
  rw [h.mirrored, List.filter_map]
  have hone : s.documents.filter ((fun r => r.id == d.id) ∘ Document.indexRow) = [d] := by
    refine List.Perm.eq_singleton ?_
    refine (List.perm_ext_iff_of_nodup (h.nodup.filter _) (List.nodup_singleton d)).mpr ?_
    intro e
    rw [List.mem_filter, List.mem_singleton]
    constructor
    · rintro ⟨he, hid⟩
      exact h.eq_of_id he hd (by simpa [Document.indexRow] using hid)
    · rintro rfl
      exact ⟨hd, by simp [Document.indexRow]⟩
  rw [hone]
  rfl

end Sound

/-! ### Changes keep the mirror -/

/-- A row with a number above all others is put at the end. -/
theorem insertIndex_eq_append {r : IndexRow} : ∀ {rows : List IndexRow},
    (∀ q ∈ rows, q.id < r.id) → insertIndex r rows = rows ++ [r] := by
  intro rows
  induction rows with
  | nil => intro _; rfl
  | cons q rows ih =>
    intro h
    have hq : ¬r.id < q.id := Nat.not_lt.mpr (Nat.le_of_lt (h q List.mem_cons_self))
    rw [insertIndex, if_neg hq, ih (fun p hp => h p (List.mem_cons_of_mem q hp)),
      List.cons_append]

/-- A row with a number below all others is put at the front. -/
theorem insertIndex_eq_cons {r : IndexRow} {rows : List IndexRow} (h : ∀ q ∈ rows, r.id < q.id) :
    insertIndex r rows = r :: rows := by
  cases rows with
  | nil => rfl
  | cons q rows => rw [insertIndex, if_pos (h q List.mem_cons_self)]

/-- No row of documents with greater numbers is the one of a number. -/
theorem filter_indexRow_of_lt {n : Nat} {ds : List Document} (h : ∀ e ∈ ds, n < e.id) :
    (ds.map Document.indexRow).filter (fun r => r.id != n) = ds.map Document.indexRow := by
  refine List.filter_eq_self.mpr ?_
  intro r hr
  obtain ⟨e, he, rfl⟩ := List.mem_map.mp hr
  exact bne_iff_ne.mpr (Nat.ne_of_gt (h e he))

/-- Nor is one of these documents replaced. -/
theorem replaced_of_lt {new : Document} {ds : List Document} (h : ∀ e ∈ ds, new.id < e.id) :
    replaced new ds = ds := by
  refine (List.map_congr_left (fun e he => ?_)).trans (List.map_id ds)
  rw [if_neg (by simpa using Nat.ne_of_gt (h e he))]
  rfl

/-- Taking the row of a number out of the index and putting a new one in is replacing the
document and indexing all. -/
theorem insertIndex_filter_map (new old : Document) (hid : new.id = old.id) :
    ∀ {ds : List Document}, ds.Pairwise (fun d e => d.id < e.id) → old ∈ ds →
      insertIndex new.indexRow ((ds.map Document.indexRow).filter (fun r => r.id != old.id)) =
        (replaced new ds).map Document.indexRow := by
  intro ds
  induction ds with
  | nil => intro _ h; exact absurd h List.not_mem_nil
  | cons d ds ih =>
    intro hds hold
    obtain ⟨hd, hds'⟩ := List.pairwise_cons.mp hds
    by_cases h : d.id = old.id
    · -- the row is taken from the front, and all that follow have greater numbers
      have hlt : ∀ e ∈ ds, new.id < e.id := fun e he => by rw [hid, ← h]; exact hd e he
      have hfront : ∀ q ∈ ds.map Document.indexRow, new.indexRow.id < q.id := by
        intro q hq
        obtain ⟨e, he, rfl⟩ := List.mem_map.mp hq
        exact hlt e he
      have hreplaced : replaced new (d :: ds) = new :: replaced new ds := by
        simp [replaced, h, hid]
      rw [hreplaced, replaced_of_lt hlt, List.map_cons, List.map_cons,
        List.filter_cons_of_neg (by simp [Document.indexRow, h]), ← hid,
        filter_indexRow_of_lt hlt, insertIndex_eq_cons hfront]
    · have hold' : old ∈ ds := by
        rcases List.mem_cons.mp hold with rfl | hold'
        · exact absurd rfl h
        · exact hold'
      have hlt : ¬new.indexRow.id < d.indexRow.id := by
        have hless := hd old hold'
        simp only [Document.indexRow]
        omega
      have hreplaced : replaced new (d :: ds) = d :: replaced new ds := by
        simp [replaced, h, hid]
      rw [hreplaced, List.map_cons, List.map_cons,
        List.filter_cons_of_pos (by simp [Document.indexRow, h]), insertIndex, if_neg hlt,
        ih hds' hold']

theorem sound_empty : Sound {} where
  mirrored := rfl
  ascending := List.Pairwise.nil
  distinct := List.Pairwise.nil
  bounded := fun _ h => absurd h List.not_mem_nil

theorem Sound.insert {s s' : Store} {values : List (Field × Datum)} (hs : s.Sound)
    (h : s.insert values = .ok s') : s'.Sound := by
  obtain ⟨c, -, hfree, rfl⟩ := insert_eq_ok h
  constructor
  · show insertIndex _ s.index = List.map _ (s.documents ++ [_])
    rw [List.map_append, hs.mirrored]
    refine insertIndex_eq_append ?_
    intro q hq
    obtain ⟨d, hd, rfl⟩ := List.mem_map.mp hq
    exact Nat.lt_succ_of_le (hs.bounded d hd)
  · refine List.pairwise_append.mpr ⟨hs.ascending, List.pairwise_singleton _ _, ?_⟩
    intro d hd e he
    rw [List.mem_singleton.mp he]
    exact Nat.lt_succ_of_le (hs.bounded d hd)
  · refine List.pairwise_append.mpr ⟨hs.distinct, List.pairwise_singleton _ _, ?_⟩
    intro d hd e he
    rw [List.mem_singleton.mp he]
    exact get?_eq_none_iff.mp hfree d hd
  · intro d hd
    rcases List.mem_append.mp hd with hd | hd
    · exact Nat.le_succ_of_le (hs.bounded d hd)
    · exact Nat.le_of_eq (congrArg Document.id (List.mem_singleton.mp hd))

theorem Sound.update {s s' : Store} {path : Text} {values : List (Field × Datum)} (hs : s.Sound)
    (h : s.update path values = .ok s') : s'.Sound := by
  obtain ⟨old, c, hold, -, hfree, rfl⟩ := update_eq_ok h
  have hmem := mem_of_get?_eq_some hold
  -- a document that is not replaced keeps off the number and the path of the new one
  have hpath : ∀ d ∈ s.documents, d.id ≠ old.id → d.path ≠ c.path :=
    fun d hd hid hp => hid (hfree d hd hp)
  constructor
  · show insertIndex _ (s.index.filter _) = List.map _ (replaced _ _)
    rw [hs.mirrored]
    exact insertIndex_filter_map { c with id := old.id } old rfl hs.ascending hmem
  · refine List.pairwise_map.mpr (hs.ascending.imp ?_)
    intro d e hlt
    by_cases hd : d.id = old.id <;> by_cases he : e.id = old.id <;> simp [hd, he] <;> omega
  · refine List.pairwise_map.mpr ?_
    refine List.Pairwise.imp_of_mem ?_ (hs.ascending.and hs.distinct)
    rintro d e hd he ⟨hlt, hne⟩
    by_cases hdo : d.id = old.id <;> by_cases heo : e.id = old.id <;> simp [hdo, heo]
    · omega
    · exact fun heq => hpath e he heo heq.symm
    · exact hpath d hd hdo
    · exact hne
  · intro d hd
    rcases mem_replaced hd with rfl | ⟨hd, -⟩
    · exact hs.bounded old hmem
    · exact hs.bounded d hd

/-- Taking rows out of the index by number is taking documents out. -/
theorem filter_map_indexRow (id : Nat) (ds : List Document) :
    (ds.map Document.indexRow).filter (fun r => r.id != id) =
      (without id ds).map Document.indexRow := by
  rw [List.filter_map]
  rfl

theorem Sound.delete {s s' : Store} {path : Text} (hs : s.Sound) (h : s.delete path = .ok s') :
    s'.Sound := by
  obtain ⟨old, -, rfl⟩ := delete_eq_ok h
  constructor
  · show s.index.filter _ = List.map _ (without _ _)
    rw [hs.mirrored, filter_map_indexRow]
  · exact hs.ascending.sublist List.filter_sublist
  · exact hs.distinct.sublist List.filter_sublist
  · exact fun d hd => hs.bounded d (mem_without.mp hd).1

/-- The rule for deletions, followed for some documents, leaves the rows of no other number. -/
theorem mem_index_foldl_afterDelete : ∀ {ds : List Document} {s : Store} {r : IndexRow},
    r ∈ (ds.foldl afterDelete s).index → r ∈ s.index ∧ ∀ d ∈ ds, r.id ≠ d.id := by
  intro ds
  induction ds with
  | nil => intro s r h; exact ⟨h, fun _ hd => absurd hd List.not_mem_nil⟩
  | cons d ds ih =>
    intro s r h
    obtain ⟨hr, hds⟩ := ih h
    obtain ⟨hr, hd⟩ := List.mem_filter.mp hr
    refine ⟨hr, ?_⟩
    intro e he
    rcases List.mem_cons.mp he with rfl | he
    · simpa using hd
    · exact hds e he

theorem foldl_afterDelete_documents : ∀ (ds : List Document) (s : Store),
    (ds.foldl afterDelete s).documents = s.documents ∧
      (ds.foldl afterDelete s).lastId = s.lastId := by
  intro ds
  induction ds with
  | nil => intro s; exact ⟨rfl, rfl⟩
  | cons d ds ih => intro s; exact ih (s.afterDelete d)

theorem Sound.deleteAll_eq {s : Store} (hs : s.Sound) :
    s.deleteAll = ({ documents := [], index := [], lastId := s.lastId }, s.documents.length) := by
  unfold deleteAll
  obtain ⟨hdocs, hlast⟩ := foldl_afterDelete_documents s.documents { s with documents := [] }
  have hindex : (s.documents.foldl afterDelete { s with documents := [] }).index = [] := by
    refine List.eq_nil_iff_forall_not_mem.mpr ?_
    intro r hr
    obtain ⟨hr, hgone⟩ := mem_index_foldl_afterDelete hr
    rw [show ({ s with documents := [] } : Store).index = s.index from rfl, hs.mirrored] at hr
    obtain ⟨d, hd, rfl⟩ := List.mem_map.mp hr
    exact hgone d hd rfl
  generalize s.documents.foldl afterDelete { s with documents := [] } = t at *
  cases t
  simp_all

theorem Sound.deleteAll {s : Store} (hs : s.Sound) : s.deleteAll.1.Sound := by
  rw [hs.deleteAll_eq]
  exact ⟨rfl, List.Pairwise.nil, List.Pairwise.nil, fun _ h => absurd h List.not_mem_nil⟩

/-! ### Stores that changes lead to -/

/-- A store that changes lead to from the empty one. -/
inductive Reachable : Store → Prop
  | empty : Reachable {}
  | insert {s s' : Store} {values : List (Field × Datum)} :
    Reachable s → s.insert values = .ok s' → Reachable s'
  | update {s s' : Store} {path : Text} {values : List (Field × Datum)} :
    Reachable s → s.update path values = .ok s' → Reachable s'
  | delete {s s' : Store} {path : Text} : Reachable s → s.delete path = .ok s' → Reachable s'
  | deleteAll {s : Store} : Reachable s → Reachable s.deleteAll.1

/-- **Whatever the changes, the index mirrors the documents.** -/
theorem Reachable.sound {s : Store} (h : s.Reachable) : s.Sound := by
  induction h with
  | empty => exact sound_empty
  | insert _ hchange ih => exact ih.insert hchange
  | update _ hchange ih => exact ih.update hchange
  | delete _ hchange ih => exact ih.delete hchange
  | deleteAll _ ih => exact ih.deleteAll

end Store

end PackageCatalog
