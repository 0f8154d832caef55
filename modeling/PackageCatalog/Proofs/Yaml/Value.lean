import PackageCatalog.Proofs.Yaml.Node

/-!
# Taking up nodes

Nodes that stand for data are taken up without a fault.  What waits after a round of filling has a
greater number than what waited before it, so that nothing waits at the end; and then all that is
below the root was taken up.

## Main definitions

* `Yaml.Graph.Known`, `Yaml.Graph.IsPart` — a node that stands for data, and the parts of one.
* `Yaml.Build.Sound` — the nodes on the way to their values, with the collections to be filled.

## Main results

* `Yaml.Build.take_known`, `Yaml.Build.fill_known` — **one step.**
* `Yaml.Build.run_known` — **the whole run.**
* `Yaml.Build.datum_eq` — the data of a node is what it stands for.
-/

namespace PackageCatalog.Yaml

variable {g : Graph} {id j height : Nat} {d : Datum}

/-! ### Parts -/

namespace Graph

/-- A node that stands for data. -/
def Known (g : Graph) (id : NodeId) : Prop := ∃ height d, g.Means height id d

/-- A part of a list or of a mapping. -/
def IsPart (g : Graph) (id j : NodeId) : Prop :=
  (∃ items, g[id]? = some (.list .list items) ∧ j ∈ items) ∨
    ∃ entries, g[id]? = some (.mapping .mapping entries) ∧ ∃ e ∈ entries, j = e.1 ∨ j = e.2

/-- What a node is that stands for data. -/
theorem Means.cases (h : g.Means height id d) : (∃ t, d = .text t ∧ g.IsText id t) ∨
    (∃ n ids ds, n < height ∧ d = .list ds ∧ g[id]? = some (.list .list ids) ∧
      List.Forall₂ (fun j d => id < j ∧ g.Means n j d) ids ds) ∨
    (∃ n entries fields, n < height ∧ d = .record fields ∧
      g[id]? = some (.mapping .mapping entries) ∧
      List.Forall₂ (fun e f => (id < e.1 ∧ g.IsText e.1 f.1) ∧ id < e.2 ∧ g.Means n e.2 f.2)
        entries fields) := by
  induction height with
  | zero => exact Or.inl h
  | succ height ih =>
    rcases h with h | ⟨ids, ds, hd, hnode, hitems⟩ | ⟨entries, fields, hd, hnode, hparts⟩
    · rcases ih h with h | ⟨n, ids, ds, hn, h⟩ | ⟨n, entries, fields, hn, h⟩
      · exact Or.inl h
      · exact Or.inr (Or.inl ⟨n, ids, ds, Nat.lt_succ_of_lt hn, h⟩)
      · exact Or.inr (Or.inr ⟨n, entries, fields, Nat.lt_succ_of_lt hn, h⟩)
    · exact Or.inr (Or.inl ⟨height, ids, ds, Nat.lt_succ_self _, hd, hnode, hitems⟩)
    · exact Or.inr (Or.inr ⟨height, entries, fields, Nat.lt_succ_self _, hd, hnode, hparts⟩)

theorem IsText.known {t : Text} (h : g.IsText id t) : g.Known id := ⟨0, .text t, t, rfl, h⟩

/-- A node that stands for data is a text, a list or a mapping whose keys are texts, and its parts
have greater numbers and stand for data too. -/
theorem Known.cases (h : g.Known id) : (∃ t, g.IsText id t) ∨
    (∃ ids, g[id]? = some (.list .list ids) ∧ ∀ j ∈ ids, id < j ∧ g.Known j) ∨
    (∃ entries, g[id]? = some (.mapping .mapping entries) ∧ ∀ e ∈ entries,
      (id < e.1 ∧ ∃ t, g.IsText e.1 t) ∧ id < e.2 ∧ g.Known e.2) := by
  obtain ⟨height, d, h⟩ := h
  rcases h.cases with ⟨t, -, h⟩ | ⟨n, ids, ds, -, -, hnode, hitems⟩ |
    ⟨n, entries, fields, -, -, hnode, hparts⟩
  · exact Or.inl ⟨t, h⟩
  · have hsplit := (List.forall₂_and_left ids ds).mp (hitems.imp
      (fun j d hj => ⟨(⟨hj.1, n, d, hj.2⟩ : id < j ∧ g.Known j), hj⟩))
    exact Or.inr (Or.inl ⟨ids, hnode, hsplit.1⟩)
  · have hsplit := (List.forall₂_and_left entries fields).mp (hparts.imp (fun e f he =>
      ⟨(⟨⟨he.1.1, f.1, he.1.2⟩, he.2.1, n, f.2, he.2.2⟩ :
        (id < e.1 ∧ ∃ t, g.IsText e.1 t) ∧ id < e.2 ∧ g.Known e.2), he⟩))
    exact Or.inr (Or.inr ⟨entries, hnode, hsplit.1⟩)

theorem IsPart.lt_size (h : g.IsPart id j) : id < g.size := by
  rcases h with ⟨items, hnode, -⟩ | ⟨entries, hnode, -⟩
  · exact (Array.getElem?_eq_some_iff.mp hnode).1
  · exact (Array.getElem?_eq_some_iff.mp hnode).1

theorem Known.lt_size (h : g.Known id) : id < g.size := by
  rcases h.cases with ⟨t, h⟩ | ⟨ids, hnode, -⟩ | ⟨entries, hnode, -⟩
  · exact h.lt_size
  · exact (Array.getElem?_eq_some_iff.mp hnode).1
  · exact (Array.getElem?_eq_some_iff.mp hnode).1

theorem IsText.not_part {t : Text} (h : g.IsText id t) : ¬g.IsPart id j := by
  rw [IsText] at h
  rintro (⟨items, hnode, -⟩ | ⟨entries, hnode, -⟩)
  · rw [h] at hnode
    cases hnode
  · rw [h] at hnode
    cases hnode

theorem isPart_list {ids : List NodeId} (hnode : g[id]? = some (.list .list ids)) :
    g.IsPart id j ↔ j ∈ ids := by
  constructor
  · rintro (⟨items, hnode', hj⟩ | ⟨entries, hnode', -⟩)
    · rw [hnode] at hnode'
      cases hnode'
      exact hj
    · rw [hnode] at hnode'
      cases hnode'
  · exact fun hj => Or.inl ⟨ids, hnode, hj⟩

theorem isPart_mapping {entries : List (NodeId × NodeId)}
    (hnode : g[id]? = some (.mapping .mapping entries)) :
    g.IsPart id j ↔ ∃ e ∈ entries, j = e.1 ∨ j = e.2 := by
  constructor
  · rintro (⟨items, hnode', -⟩ | ⟨entries, hnode', hj⟩)
    · rw [hnode] at hnode'
      cases hnode'
    · rw [hnode] at hnode'
      cases hnode'
      exact hj
  · exact fun hj => Or.inr ⟨entries, hnode, hj⟩

end Graph

/-! ### One node -/

namespace Build

variable {b : Build} {todo : List NodeId}

/-- A node that was taken up. -/
def Taken (b : Build) (id : NodeId) : Prop := b.taken.getD id true = true

/-- The nodes of a document on the way to their values: texts have theirs as soon as they are taken
up, and the parts of a collection are taken up unless it waits or is still to be filled. -/
structure Sound (g : Graph) (todo : List NodeId) (b : Build) : Prop where
  graph : b.graph = g
  size : b.atoms.size = g.size
  text : ∀ id t, g.IsText id t → b.Taken id →
    b.atoms.getD id none = some (.text (NativeName.ofText t))
  atom : ∀ id a, b.atoms.getD id none = some a → ∃ t, g.IsText id t
  parts : ∀ id j, g.IsPart id j → b.Taken id → b.Taken j ∨ id ∈ todo ∨ id ∈ b.waiting
  known : ∀ id ∈ b.waiting, g.Known id ∧ ∀ t, ¬g.IsText id t

theorem taken_set (b : Build) (id j : NodeId) :
    ({ b with taken := b.taken.setIfInBounds id true } : Build).Taken j ↔ j = id ∨ b.Taken j := by
  simp only [Taken, Array.getD_eq_getD_getElem?, Array.getElem?_setIfInBounds]
  by_cases hj : id = j
  · subst hj
    by_cases hlt : id < b.taken.size <;> simp [hlt]
  · simp [hj, Ne.symm hj]

theorem getD_setAtom (atoms : Array (Option Atom)) (id j : NodeId) (a : Option Atom) :
    (atoms.setIfInBounds id a).getD j none =
      if id = j ∧ id < atoms.size then a else atoms.getD j none := by
  simp only [Array.getD_eq_getD_getElem?, Array.getElem?_setIfInBounds]
  by_cases hj : id = j
  · subst hj
    by_cases hlt : id < atoms.size <;> simp [hlt]
  · simp [hj]

theorem kind_of_isText {t : Text} (h : g.IsText id t) : g.kind id = .text := by
  rw [Graph.kind, h]

theorem atomOf_of_isText {t : Text} (h : g.IsText id t) :
    atomOf g id = .ok (.text (NativeName.ofText t)) := by
  have hget : g[id]? = some (.scalar .text (NativeName.ofText t)) := h
  rw [atomOf, Graph.scalarText]
  simp only [hget, kind_of_isText h]
  rfl

/-- A text is taken up with its value. -/
theorem take_text {t : Text} (h : b.Sound g todo) (hid : g.IsText id t)
    (htaken : b.taken.getD id true = false) :
    b.take id = .ok { b with
      taken := b.taken.setIfInBounds id true
      atoms := b.atoms.setIfInBounds id (some (.text (NativeName.ofText t))) } := by
  rw [take, htaken]
  simp only [Bool.false_eq_true, if_false, h.graph, kind_of_isText hid, atomOf_of_isText hid]
  rfl

/-- A collection is taken up and waits. -/
theorem take_collection (h : b.Sound g todo) (hkind : g.kind id = .list ∨ g.kind id = .mapping)
    (htaken : b.taken.getD id true = false) : b.take id = .ok { b with
      taken := b.taken.setIfInBounds id true, waiting := id :: b.waiting } := by
  rw [take, htaken]
  rcases hkind with hkind | hkind
  · simp only [Bool.false_eq_true, if_false, h.graph, hkind]
    rfl
  · simp only [Bool.false_eq_true, if_false, h.graph, hkind]
    rfl

/-- What is so behind a node that was taken up: nothing is lost, and at most the node waits
besides. -/
structure TakenUp (g : Graph) (todo : List NodeId) (b : Build) (id : NodeId) (b' : Build) :
    Prop where
  sound : b'.Sound g todo
  self : b'.Taken id
  kept : ∀ j, b.Taken j → b'.Taken j
  waiting : ∀ j ∈ b'.waiting, j ∈ b.waiting ∨ j = id

theorem takenUp_of_text {t : Text} (h : b.Sound g todo) (hid : g.IsText id t) :
    TakenUp g todo b id { b with
      taken := b.taken.setIfInBounds id true
      atoms := b.atoms.setIfInBounds id (some (.text (NativeName.ofText t))) } := by
  have hset := taken_set b id
  refine ⟨{ h with size := ?_, text := ?_, atom := ?_, parts := ?_ }, (hset id).mpr (Or.inl rfl),
    fun j hj => (hset j).mpr (Or.inr hj), fun _ hj => Or.inl hj⟩
  · rw [Array.size_setIfInBounds]
    exact h.size
  · intro j u hu hj
    rw [getD_setAtom]
    split
    · next hij =>
      have htu := (hij.1 ▸ hid).symm.trans hu
      simp only [Option.some.injEq, Node.scalar.injEq, true_and] at htu
      rw [htu]
    · next hij =>
      rcases (hset j).mp hj with rfl | hj
      · exact absurd ⟨rfl, h.size ▸ hid.lt_size⟩ hij
      · exact h.text j u hu hj
  · intro j a ha
    rw [getD_setAtom] at ha
    split at ha
    · next hij => exact ⟨t, hij.1 ▸ hid⟩
    · exact h.atom j a ha
  · intro k j hj hk
    rcases (hset k).mp hk with rfl | hk
    · exact absurd hj hid.not_part
    · exact (h.parts k j hj hk).imp_left (fun hj => (hset j).mpr (Or.inr hj))

theorem takenUp_of_collection (h : b.Sound g todo) (hid : g.Known id)
    (hnot : ∀ t, ¬g.IsText id t) : TakenUp g todo b id { b with
      taken := b.taken.setIfInBounds id true, waiting := id :: b.waiting } := by
  have hset := taken_set b id
  have hkeep := fun j hj => (hset j).mpr (Or.inr hj)
  refine ⟨{ h with text := ?_, parts := ?_, known := ?_ }, (hset id).mpr (Or.inl rfl), hkeep,
    fun j hj => (List.mem_cons.mp hj).symm⟩
  · intro j t ht hj
    rcases (hset j).mp hj with rfl | hj
    · exact absurd ht (hnot t)
    · exact h.text j t ht hj
  · intro k j hj hk
    rcases (hset k).mp hk with rfl | hk
    · exact Or.inr (Or.inr List.mem_cons_self)
    · exact (h.parts k j hj hk).imp (hkeep j) (Or.imp_right (List.mem_cons_of_mem id))
  · exact List.forall_mem_cons.mpr ⟨⟨hid, hnot⟩, h.known⟩

/-- **A node that stands for data is taken up.** -/
theorem take_known (h : b.Sound g todo) (hid : g.Known id) :
    ∃ b', b.take id = .ok b' ∧ TakenUp g todo b id b' := by
  by_cases htaken : b.Taken id
  · refine ⟨b, ?_, h, htaken, fun _ hj => hj, fun _ hj => Or.inl hj⟩
    rw [take]
    exact if_pos htaken
  · have htaken : b.taken.getD id true = false := by simpa [Taken] using htaken
    rcases hid.cases with ⟨t, ht⟩ | ⟨ids, hnode, -⟩ | ⟨entries, hnode, -⟩
    · exact ⟨_, take_text h ht htaken, takenUp_of_text h ht⟩
    · refine ⟨_, take_collection h (Or.inl ?_) htaken, takenUp_of_collection h hid (fun t ht => ?_)⟩
      · rw [Graph.kind, hnode]
      · rw [Graph.IsText, hnode] at ht
        cases ht
    · refine ⟨_, take_collection h (Or.inr ?_) htaken, takenUp_of_collection h hid (fun t ht => ?_)⟩
      · rw [Graph.kind, hnode]
      · rw [Graph.IsText, hnode] at ht
        cases ht

/-! ### One collection -/

theorem foldlM_ok {α β : Type} {f : β → α → Except Fault β} {P : List α → β → Prop}
    (hstep : ∀ x xs b, P (x :: xs) b → ∃ b', f b x = .ok b' ∧ P xs b') :
    ∀ {l : List α} {b : β}, P l b → ∃ b', l.foldlM f b = .ok b' ∧ P [] b' := by
  intro l
  induction l with
  | nil => exact fun {b} h => ⟨b, rfl, h⟩
  | cons x xs ih =>
    intro b h
    obtain ⟨b', hf, h'⟩ := hstep x xs b h
    obtain ⟨b'', hfold, h''⟩ := ih h'
    refine ⟨b'', ?_, h''⟩
    rw [List.foldlM_cons, hf]
    exact hfold

theorem entries_eq {entries : List (NodeId × NodeId)}
    (hnode : g[id]? = some (.mapping .mapping entries)) : g.entries id = entries := by
  rw [Graph.entries, Graph.entries?, hnode]
  rfl

/-- Nothing is merged into a mapping whose keys are texts. -/
theorem flatten_eq {entries : List (NodeId × NodeId)}
    (hnode : g[id]? = some (.mapping .mapping entries))
    (hkeys : ∀ e ∈ entries, g.kind e.1 = .text) : g.flatten id = .ok g := by
  have hentries := entries_eq hnode
  have hnext : ∀ (flatten : NodeId → Graph → Except Fault Graph) (place : Nat), ∃ place',
      Graph.mergeNext flatten id { graph := g, place } = .ok { graph := g, place := place' } := by
    intro flatten place
    rw [Graph.mergeNext]
    simp only [hentries]
    cases hentry : entries[place]? with
    | none => exact ⟨place, rfl⟩
    | some e =>
      have hkind := hkeys e (List.mem_of_getElem? hentry)
      exact ⟨place + 1, by simp only [hkind]⟩
  have hset : g.setEntries id entries = g := by
    refine Array.ext_getElem? (fun j => ?_)
    rw [Graph.setEntries, Array.getElem?_modify]
    split
    · next hj => rw [← hj, hnode, Option.map_some]
    · rfl
  obtain ⟨m, hfold, place, rfl⟩ := foldlM_ok (P := fun _ m => ∃ place, m = { graph := g, place })
    (f := fun m _ => Graph.mergeNext (Graph.flattenWith g.entryCount) id m)
    (l := List.range (g.entries id).length) (b := { graph := g }) (by
      rintro _ _ _ ⟨place, rfl⟩
      obtain ⟨place', h⟩ := hnext (Graph.flattenWith g.entryCount) place
      exact ⟨_, h, place', rfl⟩) ⟨0, rfl⟩
  rw [hentries] at hfold
  rw [Graph.flatten, Graph.flattenWith]
  simp only [hentries, hfold, List.nil_append, hset]

/-- The parts of a collection on the way: those for which `left` holds are still to be taken
up. -/
structure Filling (g : Graph) (id : NodeId) (todo : List NodeId) (b₀ : Build)
    (left : NodeId → Prop) (b : Build) : Prop where
  sound : b.Sound g (id :: todo)
  kept : ∀ j, b₀.Taken j → b.Taken j
  waiting : ∀ j ∈ b.waiting, j ∈ b₀.waiting ∨ id < j
  parts : ∀ j, g.IsPart id j → left j ∨ b.Taken j

variable {b₀ : Build} {left left' : NodeId → Prop}

/-- One more part is taken up. -/
theorem Filling.take (h : Filling g id todo b₀ left b) (hlt : id < j) (hj : g.Known j) :
    ∃ b', b.take j = .ok b' ∧ Filling g id todo b₀ left b' ∧ b'.Taken j ∧
      ∀ k, b.Taken k → b'.Taken k := by
  obtain ⟨b', htake, hsound, hself, hkept, hwaiting⟩ := take_known h.sound hj
  refine ⟨b', htake, ⟨hsound, fun k hk => hkept k (h.kept k hk), fun k hk => ?_,
    fun k hk => (h.parts k hk).imp_right (hkept k)⟩, hself, hkept⟩
  rcases hwaiting k hk with hk | rfl
  · exact h.waiting k hk
  · exact Or.inr hlt

theorem Filling.weaken (h : Filling g id todo b₀ left b)
    (hleft : ∀ j, left j → left' j ∨ b.Taken j) :
    Filling g id todo b₀ left' b :=
  { h with parts := fun j hj => (h.parts j hj).elim (hleft j) Or.inr }

/-- All parts were taken up. -/
theorem Filling.done (h : Filling g id todo b₀ (fun _ => False) b) : b.Sound g todo := by
  refine { h.sound with parts := fun k j hj hk => ?_ }
  rcases h.sound.parts k j hj hk with htaken | htodo | hwaits
  · exact Or.inl htaken
  · rcases List.mem_cons.mp htodo with rfl | htodo
    · exact Or.inl ((h.parts j hj).resolve_left id)
    · exact Or.inr (Or.inl htodo)
  · exact Or.inr (Or.inr hwaits)

/-- A collection of which nothing was taken up yet. -/
theorem Filling.start (h : b.Sound g (id :: todo)) (hleft : ∀ j, g.IsPart id j → left j) :
    Filling g id todo b left b :=
  ⟨h, fun _ hj => hj, fun _ hj => Or.inl hj, fun j hj => Or.inl (hleft j hj)⟩

/-- What is so behind a collection that was filled: nothing is lost, and what waits besides has a
greater number. -/
structure Filled (g : Graph) (todo : List NodeId) (b : Build) (id : NodeId) (b' : Build) :
    Prop where
  sound : b'.Sound g todo
  kept : ∀ j, b.Taken j → b'.Taken j
  waiting : ∀ j ∈ b'.waiting, j ∈ b.waiting ∨ id < j

theorem Filling.filled (h : Filling g id todo b₀ left b) (hleft : ∀ j, ¬left j) :
    Filled g todo b₀ id b :=
  ⟨(h.weaken (fun j hj => absurd hj (hleft j))).done, h.kept, h.waiting⟩

/-- A list is filled item by item. -/
theorem fill_list {ids : List NodeId} (h : b.Sound g (id :: todo))
    (hnode : g[id]? = some (.list .list ids)) (hids : ∀ j ∈ ids, id < j ∧ g.Known j) :
    ∃ b', b.fill id = .ok b' ∧ Filled g todo b id b' := by
  obtain ⟨b', hfold, -, hfill⟩ := foldlM_ok (f := Build.take)
    (P := fun xs b' => (∀ j ∈ xs, id < j ∧ g.Known j) ∧ Filling g id todo b (· ∈ xs) b')
    (by
      rintro x xs b' ⟨hxs, hfill⟩
      obtain ⟨hx, hxs⟩ := List.forall_mem_cons.mp hxs
      obtain ⟨b'', htake, hfill', hself, -⟩ := hfill.take hx.1 hx.2
      refine ⟨b'', htake, hxs, hfill'.weaken (fun j hj => ?_)⟩
      rcases List.mem_cons.mp hj with rfl | hj
      · exact Or.inr hself
      · exact Or.inl hj)
    ⟨hids, Filling.start h (fun j hj => (Graph.isPart_list hnode).mp hj)⟩
  refine ⟨b', ?_, hfill.filled (fun _ => List.not_mem_nil)⟩
  rw [fill, h.graph]
  simp only [hnode]
  exact hfold

/-- One more entry is taken up, its key first. -/
theorem Filling.takeEntry {e : NodeId × NodeId} {t : Text} (h : Filling g id todo b₀ left b)
    (hkey : id < e.1) (ht : g.IsText e.1 t) (hlt : id < e.2) (hvalue : g.Known e.2) :
    ∃ b', (do (← b.takeKey e.1).take e.2) = .ok b' ∧ Filling g id todo b₀ left b' ∧
      b'.Taken e.1 ∧ b'.Taken e.2 := by
  obtain ⟨b₁, hfirst, hfill₁, hself₁, -⟩ := h.take hkey ht.known
  obtain ⟨b₂, hsecond, hfill₂, hself₂, hkept⟩ := hfill₁.take hlt hvalue
  refine ⟨b₂, ?_, hfill₂, hkept _ hself₁, hself₂⟩
  rw [takeKey, h.sound.graph, kind_of_isText ht]
  simp only [Kind.isCollection, Bool.false_eq_true, if_false, hfirst]
  exact hsecond

/-- A mapping is filled entry by entry; nothing is merged into it. -/
theorem fill_mapping {entries : List (NodeId × NodeId)} (h : b.Sound g (id :: todo))
    (hnode : g[id]? = some (.mapping .mapping entries)) (hentries : ∀ e ∈ entries,
      (id < e.1 ∧ ∃ t, g.IsText e.1 t) ∧ id < e.2 ∧ g.Known e.2) :
    ∃ b', b.fill id = .ok b' ∧ Filled g todo b id b' := by
  obtain ⟨b', hfold, -, hfill⟩ := foldlM_ok
    (f := fun (b : Build) (e : NodeId × NodeId) => do (← b.takeKey e.1).take e.2)
    (P := fun xs b' => (∀ e ∈ xs, (id < e.1 ∧ ∃ t, g.IsText e.1 t) ∧ id < e.2 ∧ g.Known e.2) ∧
      Filling g id todo b (fun j => ∃ e ∈ xs, j = e.1 ∨ j = e.2) b')
    (by
      rintro e xs b' ⟨hxs, hfill⟩
      obtain ⟨⟨⟨hkey, t, ht⟩, hlt, hvalue⟩, hxs⟩ := List.forall_mem_cons.mp hxs
      obtain ⟨b₂, htake, hfill₂, hself₁, hself₂⟩ := hfill.takeEntry hkey ht hlt hvalue
      refine ⟨b₂, htake, hxs, hfill₂.weaken ?_⟩
      rintro j ⟨e', he', hj⟩
      rcases List.mem_cons.mp he' with rfl | he'
      · rcases hj with rfl | rfl
        · exact Or.inr hself₁
        · exact Or.inr hself₂
      · exact Or.inl ⟨e', he', hj⟩)
    ⟨hentries, Filling.start h (fun j hj => (Graph.isPart_mapping hnode).mp hj)⟩
  have hkeys : ∀ e ∈ entries, g.kind e.1 = .text := by
    intro e he
    obtain ⟨⟨-, t, ht⟩, -⟩ := hentries e he
    exact kind_of_isText ht
  refine ⟨b', ?_, hfill.filled (fun j ⟨e, he, _⟩ => absurd he List.not_mem_nil)⟩
  rw [fill, h.graph]
  have hsame : ({ b with graph := g } : Build) = b := by rw [← h.graph]
  simp only [hnode, flatten_eq hnode hkeys, true_or, if_true]
  rw [← entries_eq hnode, ← hsame] at hfold
  exact hfold

/-- **A collection is filled.** -/
theorem fill_known (h : b.Sound g (id :: todo)) (hid : g.Known id)
    (hnot : ∀ t, ¬g.IsText id t) : ∃ b', b.fill id = .ok b' ∧ Filled g todo b id b' := by
  rcases hid.cases with ⟨t, ht⟩ | ⟨ids, hnode, hids⟩ | ⟨entries, hnode, hentries⟩
  · exact absurd ht (hnot t)
  · exact fill_list h hnode hids
  · exact fill_mapping h hnode hentries

/-! ### All collections -/

/-- One round: what waits after it has a greater number. -/
theorem round_known {n : Nat} (h : b.Sound g []) (hn : ∀ j ∈ b.waiting, n ≤ j) :
    ∃ b', b.waiting.reverse.foldlM fill { b with waiting := [] } = .ok b' ∧ b'.Sound g [] ∧
      (∀ j, b.Taken j → b'.Taken j) ∧ ∀ j ∈ b'.waiting, n + 1 ≤ j := by
  have hstart : ({ b with waiting := [] } : Build).Sound g b.waiting.reverse := by
    refine { h with parts := fun k j hj hk => ?_, known := fun j hj => absurd hj List.not_mem_nil }
    rcases h.parts k j hj hk with htaken | htodo | hwaits
    · exact Or.inl htaken
    · exact absurd htodo List.not_mem_nil
    · exact Or.inr (Or.inl (List.mem_reverse.mpr hwaits))
  have htodo : ∀ j ∈ b.waiting.reverse, n ≤ j ∧ g.Known j ∧ ∀ t, ¬g.IsText j t :=
    fun j hj => ⟨hn j (List.mem_reverse.mp hj), h.known j (List.mem_reverse.mp hj)⟩
  obtain ⟨b', hfold, hsound, -, hkept, hwaiting⟩ := foldlM_ok (f := fill)
    (P := fun todo b' => b'.Sound g todo ∧
      (∀ j ∈ todo, n ≤ j ∧ g.Known j ∧ ∀ t, ¬g.IsText j t) ∧
      (∀ j, b.Taken j → b'.Taken j) ∧ ∀ j ∈ b'.waiting, n + 1 ≤ j)
    (by
      rintro id todo b' ⟨hsound, htodo, hkept, hwaiting⟩
      obtain ⟨⟨hn, hid, hnot⟩, htodo⟩ := List.forall_mem_cons.mp htodo
      obtain ⟨b'', hfill, hsound', hkept', hwaiting'⟩ := fill_known hsound hid hnot
      refine ⟨b'', hfill, hsound', htodo, fun j hj => hkept' j (hkept j hj), fun j hj => ?_⟩
      rcases hwaiting' j hj with hj | hj
      · exact hwaiting j hj
      · exact Nat.lt_of_le_of_lt hn hj)
    ⟨hstart, htodo, fun _ hj => hj, fun j hj => absurd hj List.not_mem_nil⟩
  exact ⟨b', hfold, hsound, hkept, hwaiting⟩

/-- **Everything is taken up, and nothing waits at the end.** -/
theorem run_known {fuel : Nat} : ∀ {n : Nat} {b : Build}, b.Sound g [] →
    (∀ j ∈ b.waiting, n ≤ j) → g.size ≤ n + fuel → ∃ b', run fuel b = .ok b' ∧
      b'.Sound g [] ∧ b'.waiting = [] ∧ ∀ j, b.Taken j → b'.Taken j := by
  induction fuel with
  | zero =>
    intro n b h hn hsize
    refine ⟨b, rfl, h, List.eq_nil_iff_forall_not_mem.mpr (fun j hj => ?_), fun _ hj => hj⟩
    have hlt := (h.known j hj).1.lt_size
    have hle := hn j hj
    omega
  | succ fuel ih =>
    intro n b h hn hsize
    cases hwaiting : b.waiting.isEmpty with
    | true =>
      refine ⟨b, ?_, h, List.isEmpty_iff.mp hwaiting, fun _ hj => hj⟩
      rw [run, hwaiting]
      rfl
    | false =>
      obtain ⟨b₁, hround, hsound, hkept, hn'⟩ := round_known h hn
      obtain ⟨b', hrun, hsound', hempty, hkept'⟩ := ih hsound hn' (by omega)
      refine ⟨b', ?_, hsound', hempty, fun j hj => hkept' j (hkept j hj)⟩
      rw [run, hwaiting]
      simp only [Bool.false_eq_true, if_false, hround]
      exact hrun

/-- The nodes of a document, none of them taken up. -/
def untouched (g : Graph) : Build where
  graph := g
  taken := Array.replicate g.size false
  atoms := Array.replicate g.size none

theorem sound_untouched (g : Graph) : (untouched g).Sound g [] := by
  have hnone : ∀ j, j < g.size → ¬(untouched g).Taken j := by
    intro j hj
    simp [Taken, untouched, Array.getD_eq_getD_getElem?, hj]
  refine ⟨rfl, Array.size_replicate, fun j t ht hj => ?_, fun j a ha => ?_, fun k j hj hk => ?_,
    fun j hj => absurd hj List.not_mem_nil⟩
  · exact absurd hj (hnone j ht.lt_size)
  · simp only [untouched, Array.getD_eq_getD_getElem?, Array.getElem?_replicate] at ha
    split at ha
    · cases ha
    · cases ha
  · exact absurd hk (hnone k hj.lt_size)

/-- **A document whose root stands for data is taken up as a whole.** -/
theorem ofGraph_known {root : NodeId} (h : g.Known root) : ∃ b, ofGraph root g = .ok b ∧
    b.Sound g [] ∧ b.waiting = [] ∧ b.Taken root := by
  obtain ⟨b₁, htake, hsound, hroot, -, -⟩ := take_known (sound_untouched g) h
  obtain ⟨b, hrun, hsound', hempty, hkept⟩ := run_known hsound (fun j _ => Nat.zero_le j)
    (show g.size ≤ 0 + (g.size + 1) by omega)
  refine ⟨b, ?_, hsound', hempty, hkept root hroot⟩
  have hbegin : ofGraph root g = (do run (g.size + 1) (← (untouched g).take root)) := rfl
  rw [hbegin, htake]
  exact hrun

/-! ### Data -/

theorem filterMap_eq {α β : Type} {f : α → Option β} {l : List α} {r : List β}
    (h : List.Forall₂ (fun a b => f a = some b) l r) : l.filterMap f = r := by
  induction h with
  | nil => rfl
  | cons h _ ih => rw [List.filterMap_cons_some h, ih]

theorem map_eq {α β : Type} {f : α → β} {l : List α} {r : List β}
    (h : List.Forall₂ (fun a b => f a = b) l r) : l.map f = r := by
  induction h with
  | nil => rfl
  | cons h _ ih => rw [List.map_cons, h, ih]

theorem datum_text {depth : Nat} {t : Text} (h : b.Sound g todo) (ht : g.IsText id t)
    (hid : b.Taken id) : b.datum depth id = .text t := by
  have hatom := h.text id t ht hid
  cases depth with
  | zero =>
    rw [datum, hatom]
    simp only [Option.map_some, Option.getD_some, Atom.toDatum, toText?_ofText]
  | succ depth =>
    rw [datum, hatom]
    simp only [Atom.toDatum, toText?_ofText]

/-- Once nothing waits any more, the parts of what was taken up were taken up too. -/
theorem Sound.taken_part (h : b.Sound g []) (hempty : b.waiting = []) (hj : g.IsPart id j)
    (hid : b.Taken id) : b.Taken j := by
  rcases h.parts id j hj hid with htaken | htodo | hwaits
  · exact htaken
  · exact absurd htodo List.not_mem_nil
  · exact absurd (hempty ▸ hwaits) List.not_mem_nil

/-- Only texts have values of their own. -/
theorem Sound.atom_eq_none (h : b.Sound g todo) (hid : ∀ t, ¬g.IsText id t) :
    b.atoms.getD id none = none := by
  cases ha : b.atoms.getD id none with
  | none => rfl
  | some a =>
    obtain ⟨t, ht⟩ := h.atom id a ha
    exact absurd ht (hid t)

theorem datum_list {depth : Nat} {ids : List NodeId} (h : b.Sound g todo)
    (hnode : g[id]? = some (.list .list ids)) :
    b.datum (depth + 1) id = .list (ids.map (b.datum depth)) := by
  have hatom : b.atoms.getD id none = none := h.atom_eq_none (fun t ht => by
    rw [Graph.IsText, hnode] at ht
    cases ht)
  rw [datum, hatom, h.graph]
  simp only [hnode]

theorem datum_mapping {depth : Nat} {entries : List (NodeId × NodeId)} (h : b.Sound g todo)
    (hnode : g[id]? = some (.mapping .mapping entries)) :
    b.datum (depth + 1) id = .record (entries.filterMap
      (fun e => (b.keyText? e.1).map (·, b.datum depth e.2))) := by
  have hatom : b.atoms.getD id none = none := h.atom_eq_none (fun t ht => by
    rw [Graph.IsText, hnode] at ht
    cases ht)
  rw [datum, hatom, h.graph]
  simp only [hnode]

/-- **The data of a node is what it stands for.** -/
theorem datum_eq {depth : Nat} (h : b.Sound g []) (hempty : b.waiting = []) :
    ∀ {height : Nat} {id : NodeId} {d : Datum}, height ≤ depth → g.Means height id d →
      b.Taken id → b.datum depth id = d := by
  induction depth with
  | zero =>
    intro height id d hle hmeans hid
    rcases hmeans.cases with ⟨t, rfl, ht⟩ | ⟨n, ids, ds, hn, -⟩ | ⟨n, entries, fields, hn, -⟩
    · exact datum_text h ht hid
    · omega
    · omega
  | succ depth ih =>
    intro height id d hle hmeans hid
    rcases hmeans.cases with ⟨t, rfl, ht⟩ | ⟨n, ids, ds, hn, rfl, hnode, hitems⟩ |
      ⟨n, entries, fields, hn, rfl, hnode, hparts⟩
    · exact datum_text h ht hid
    · have htaken : ∀ j ∈ ids, b.Taken j :=
        fun j hj => h.taken_part hempty ((Graph.isPart_list hnode).mpr hj) hid
      have hdata : ids.map (b.datum depth) = ds :=
        map_eq (((List.forall₂_and_left ids ds).mpr ⟨htaken, hitems⟩).imp
          (fun j d hj => ih (by omega) hj.2.2 hj.1))
      rw [datum_list h hnode, hdata]
    · have htaken : ∀ e ∈ entries, b.Taken e.1 ∧ b.Taken e.2 := fun e he =>
        ⟨h.taken_part hempty ((Graph.isPart_mapping hnode).mpr ⟨e, he, Or.inl rfl⟩) hid,
          h.taken_part hempty ((Graph.isPart_mapping hnode).mpr ⟨e, he, Or.inr rfl⟩) hid⟩
      have hdata : entries.filterMap
          (fun e => (b.keyText? e.1).map (·, b.datum depth e.2)) = fields :=
        filterMap_eq (((List.forall₂_and_left entries fields).mpr ⟨htaken, hparts⟩).imp
          (fun e f he => by
            obtain ⟨⟨hkey, hvalue⟩, ⟨-, ht⟩, -, hmeans⟩ := he
            rw [keyText?, h.text e.1 f.1 ht hkey]
            simp only [toText?_ofText, Option.map_some, ih (by omega) hmeans hvalue]))
      rw [datum_mapping h hnode, hdata]

end Build

end PackageCatalog.Yaml
