import PackageCatalog.Yaml.Atom
import PackageCatalog.Yaml.Node
import PackageCatalog.Yaml.Source

/-!
# Values of documents

The data that the nodes of a document stand for.  Nodes are taken up one after the other: a
scalar gets its value at once, and a collection waits for its turn, oldest first.  At its turn a
mapping takes over the entries of the mappings merged into it, in front of its own so that its own
count, and its parts are taken up from first to last.  The first fault on this way is the fault of
the document.

## Main definitions

* `Yaml.Graph.flatten` - a mapping with the entries that are merged into it.
* `Yaml.Build` - the nodes with the values known so far, and the collections that wait.
* `Yaml.Build.take`, `Yaml.Build.fill`, `Yaml.Build.run` - taking up a node, the parts of a
  collection, and everything.
* `Yaml.Build.datum` - the data of a node.
* `Yaml.read` - the data of a file.
-/

namespace PackageCatalog.Yaml

/-! ### Merging -/

namespace Graph

/-- The kind of a node. -/
def kind (g : Graph) (id : NodeId) : Kind :=
  match g[id]? with
  | some (.scalar k _) => k
  | some (.list k _) => k
  | some (.mapping k _) => k
  | none => .unknown

/-- The entries of a mapping; any other node has none. -/
def entries? (g : Graph) (id : NodeId) : Option (List (NodeId × NodeId)) :=
  match g[id]? with
  | some (.mapping _ entries) => some entries
  | _ => none

/-- The entries of a mapping. -/
def entries (g : Graph) (id : NodeId) : List (NodeId × NodeId) := (g.entries? id).getD []

/-- A mapping with other entries. -/
def setEntries (g : Graph) (id : NodeId) (entries : List (NodeId × NodeId)) : Graph :=
  g.modify id (fun n => match n with
    | .mapping k _ => .mapping k entries
    | n => n)

/-- A node of another kind. -/
def setKind (g : Graph) (id : NodeId) (k : Kind) : Graph :=
  g.modify id (fun n => match n with
    | .scalar _ t => .scalar k t
    | .list _ items => .list k items
    | .mapping _ entries => .mapping k entries)

/-- The number of entries of all mappings. -/
def entryCount (g : Graph) : Nat :=
  g.foldl (fun n node => match node with
    | .mapping _ entries => n + entries.length
    | _ => n) 0

/-- The merging of a mapping: the nodes, the entries merged so far, and the place in the mapping
before which all entries are its own. -/
structure Merging where
  graph : Graph
  merged : List (NodeId × NodeId) := []
  place : Nat := 0

/-- The entries that several mappings give, the last one first.  Each is flattened on the way. -/
def mergeItems (flatten : NodeId → Graph → Except Fault Graph) :
    Graph → List NodeId → List (NodeId × NodeId) → Except Fault (Graph × List (NodeId × NodeId))
  | g, [], done => .ok (g, done)
  | g, id :: ids, done =>
    if (g.entries? id).isNone then .error .malformed
    else match flatten id g with
      | .error e => .error e
      | .ok g => mergeItems flatten g ids (g.entries id ++ done)

/-- One entry of a mapping passed.  A merge mark goes, and the entries of what it stands before
are collected; the mark of a default value is from now on a text. -/
def mergeNext (flatten : NodeId → Graph → Except Fault Graph) (id : NodeId) (m : Merging) :
    Except Fault Merging :=
  let entries := m.graph.entries id
  match entries[m.place]? with
  | none => .ok m
  | some (k, v) =>
    match m.graph.kind k with
    | .merge =>
      let g := m.graph.setEntries id (entries.eraseIdx m.place)
      match g[v]? with
      | some (.mapping _ _) =>
        match flatten v g with
        | .error e => .error e
        | .ok g => .ok { m with graph := g, merged := m.merged ++ g.entries v }
      | some (.list _ items) =>
        match mergeItems flatten g items [] with
        | .error e => .error e
        | .ok (g, more) => .ok { m with graph := g, merged := m.merged ++ more }
      | _ => .error .malformed
    | .default => .ok { m with graph := m.graph.setKind k .text, place := m.place + 1 }
    | _ => .ok { m with place := m.place + 1 }

/-- A mapping with the entries that are merged into it.  Every mapping on the way down loses a
merge mark first, so that the number of entries bounds the way. -/
def flattenWith : Nat → NodeId → Graph → Except Fault Graph
  | 0, _, _ => .error .malformed
  | fuel + 1, id, g =>
    let passed := (List.range (g.entries id).length).foldlM
      (fun m _ => mergeNext (flattenWith fuel) id m) { graph := g }
    match passed with
    | .error e => .error e
    | .ok m => .ok (m.graph.setEntries id (m.merged ++ m.graph.entries id))

/-- A mapping with the entries that are merged into it. -/
def flatten (g : Graph) (id : NodeId) : Except Fault Graph := flattenWith (g.entryCount + 1) id g

/-- The text that stands for a node as a scalar: its own, or in a mapping the one behind the mark
of a default value. -/
def scalarText (g : Graph) : Nat → NodeId → Except Fault NativeName
  | 0, _ => .error .malformed
  | fuel + 1, id =>
    match g[id]? with
    | some (.scalar _ t) => .ok t
    | some (.mapping _ entries) =>
      match entries.find? (fun e => g.kind e.1 == .default) with
      | some (_, v) => g.scalarText fuel v
      | none => .error .malformed
    | _ => .error .malformed

end Graph

/-! ### Taking up -/

/-- Whether a kind is one of collections. -/
def Kind.isCollection : Kind → Bool
  | list => true
  | mapping => true
  | set => true
  | ordered => true
  | pairs => true
  | _ => false

/-- The nodes of a document on the way to their values. -/
structure Build where
  graph : Graph
  /-- The nodes that were taken up. -/
  taken : Array Bool
  /-- The values of the scalars among them. -/
  atoms : Array (Option Atom)
  /-- The collections that wait for their turn, latest first. -/
  waiting : List NodeId := []

namespace Build

/-- The value of a node that stands for a scalar. -/
def atomOf (g : Graph) (id : NodeId) : Except Fault Atom :=
  match g.scalarText (g.size + 1) id with
  | .error e => .error e
  | .ok t =>
    match g[id]?, g.kind id with
    | some (.mapping _ _), .moment => .error .noMoment
    | _, k => Atom.ofName k t

/-- A node taken up, unless it was before.  What has no kind that is known is refused. -/
def take (b : Build) (id : NodeId) : Except Fault Build :=
  if b.taken.getD id true then .ok b
  else
    let b := { b with taken := b.taken.setIfInBounds id true }
    match b.graph.kind id with
    | .merge => .error .malformed
    | .default => .error .malformed
    | .mark => .error .malformed
    | .unknown => .error .malformed
    | k =>
      if k.isCollection then .ok { b with waiting := id :: b.waiting }
      else match atomOf b.graph id with
        | .error e => .error e
        | .ok a => .ok { b with atoms := b.atoms.setIfInBounds id (some a) }

/-- A key taken up.  A collection is none. -/
def takeKey (b : Build) (id : NodeId) : Except Fault Build :=
  if (b.graph.kind id).isCollection then .error .malformed else b.take id

/-- The only entry of a mapping taken up, as a pair; its key may be anything. -/
def takePair (b : Build) (id : NodeId) : Except Fault Build :=
  match b.graph.entries? id with
  | some [(k, v)] => do (← b.take k).take v
  | _ => .error .malformed

/-- The parts of a collection taken up. -/
def fill (b : Build) (id : NodeId) : Except Fault Build :=
  match b.graph[id]? with
  | some (.list .list items) => items.foldlM take b
  | some (.list .ordered items) => items.foldlM takePair b
  | some (.list .pairs items) => items.foldlM takePair b
  | some (.mapping k _) =>
    if k = .mapping ∨ k = .set then do
      let graph ← b.graph.flatten id
      (graph.entries id).foldlM (fun b e => do (← b.takeKey e.1).take e.2) { b with graph }
    else .error .malformed
  | _ => .error .malformed

/-- All collections filled, those that wait now before those that come to wait meanwhile. -/
def run : Nat → Build → Except Fault Build
  | 0, b => .ok b
  | fuel + 1, b =>
    if b.waiting.isEmpty then .ok b
    else do run fuel (← b.waiting.reverse.foldlM fill { b with waiting := [] })

/-- The document of a node, taken up as a whole. -/
def ofGraph (root : NodeId) (g : Graph) : Except Fault Build := do
  let b : Build :=
    { graph := g, taken := Array.replicate g.size false, atoms := Array.replicate g.size none }
  run (g.size + 1) (← b.take root)

/-! ### Data -/

/-- Whether two nodes are the same key. -/
def sameKey (b : Build) (x y : NodeId) : Bool :=
  x == y || match b.atoms.getD x none, b.atoms.getD y none with
    | some a, some a' => a.same a'
    | _, _ => false

/-- The first of each kind of same keys, behind `done` (latest first). -/
def distinct (b : Build) : List NodeId → List NodeId → List NodeId
  | done, [] => done.reverse
  | done, id :: ids =>
    b.distinct (if done.any (b.sameKey id) then done else id :: done) ids

/-- The text that a key is. -/
def keyText? (b : Build) (id : NodeId) : Option Text :=
  match b.atoms.getD id none with
  | some (.text n) => n.toText?
  | _ => none

/-- The data of a node, with collections down to a depth; deeper ones are left empty.  A pair of
an ordered mapping is no record, and stands as an empty list. -/
def datum (b : Build) : Nat → NodeId → Datum
  | 0, id => (((b.atoms.getD id none).map Atom.toDatum).getD (.list []))
  | depth + 1, id =>
    match b.atoms.getD id none with
    | some a => a.toDatum
    | none =>
      match b.graph[id]? with
      | some (.list .list items) => .list (items.map (b.datum depth))
      | some (.list _ items) => .list (items.map (fun _ => .list []))
      | some (.mapping .set entries) =>
        .set ((b.distinct [] (entries.map Prod.fst)).map (b.datum depth))
      | some (.mapping _ entries) =>
        .record (entries.filterMap (fun e => (b.keyText? e.1).map (·, b.datum depth e.2)))
      | _ => .list []

end Build

/-! ### Files -/

/-- The depth of collections to which a document is looked at: the patterns that a package of the
configuration ignores are the deepest lists. -/
def dataDepth : Nat := 5

/-- The data of a file; none when it holds no document. -/
def read (bs : Bytes) : Except Fault (Option Datum) :=
  let source := Source.ofBytes bs
  match Graph.ofTokens? (tokens source.text source.broken) with
  | .error e => .error e
  | .ok none => .ok none
  | .ok (some (root, g)) => (Build.ofGraph root g).map (fun b => some (b.datum dataDepth root))

end PackageCatalog.Yaml
