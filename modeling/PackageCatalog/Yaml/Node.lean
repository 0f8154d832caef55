import PackageCatalog.Yaml.Plain
import PackageCatalog.Yaml.Token

/-!
# Nodes of documents

The nodes of a document, each under its number.  A collection refers to its parts by number, so
that an alias is one more reference to the node that was marked, also when that node is still
being read.

## Main definitions

* `Yaml.Node`, `Yaml.Graph` - nodes, and all nodes of a document.
* `Yaml.Kind.ofTag` - the kind that a tag asks for.
* `Yaml.readNode` - a node at the start of tokens.
* `Yaml.Graph.ofTokens?` - the nodes of the only document among tokens.
-/

namespace PackageCatalog.Yaml

/-- The number of a node. -/
abbrev NodeId := Nat

/-- A node. -/
inductive Node
  | scalar (kind : Kind) (text : NativeName)
  | list (kind : Kind) (items : List NodeId)
  | mapping (kind : Kind) (entries : List (NodeId × NodeId))
  deriving DecidableEq, Repr

/-- An empty scalar. -/
def Node.empty : Node := .scalar .null []

/-- The nodes of a document in the order of their numbers. -/
abbrev Graph := Array Node

/-! ### Tags -/

/-- What tags of the format itself start with. -/
def standardStem : Text := "tag:yaml.org,2002:".toList

/-- The names of the kinds that have one. -/
def kindNames : List (String × Kind) :=
  [("null", .null), ("bool", .bool), ("int", .integer), ("float", .number),
    ("timestamp", .moment), ("merge", .merge), ("value", .default), ("yaml", .mark),
    ("str", .text), ("binary", .binary), ("seq", .list), ("map", .mapping), ("set", .set),
    ("omap", .ordered), ("pairs", .pairs)]

/-- The kind that a complete tag asks for. -/
def Kind.ofTag (tag : Text) : Kind :=
  if Text.startsWith tag standardStem then
    let name := tag.drop standardStem.length
    ((kindNames.find? (fun k => k.1.toList == name)).map Prod.snd).getD .unknown
  else .unknown

/-- The tag that asks for nothing. -/
def openTag : Text := ['!']

/-- The handles that are known without a directive. -/
def standardHandles : List (Text × Text) :=
  [(['!'], ['!']), (['!', '!'], standardStem)]

/-! ### Reading -/

/-- What is read of a document: the tokens that follow, the numbers of the nodes that were marked
(latest first), and the nodes. -/
structure Reading where
  tokens : List Token
  anchors : List (Text × NodeId) := []
  nodes : Graph := #[]

/-- What a reader of nodes gives back. -/
abbrev Got (α : Type) := Except Fault (α × Reading)

namespace Reading

/-- The next token. -/
def head? (r : Reading) : Option Token := r.tokens.head?

/-- What follows the next token. -/
def tail (r : Reading) : Reading := { r with tokens := r.tokens.tail }

/-- The fault at the next token: its own, if the tokens break off there. -/
def fault (r : Reading) : Fault :=
  match r.head? with
  | some (.broken e) => e
  | _ => .malformed

/-- Whether the tokens break off. -/
def isBroken (r : Reading) : Bool :=
  match r.head? with
  | some (.broken _) => true
  | _ => false

/-- Whether the next token is one of some. -/
def at_ (r : Reading) (ts : List Token) : Bool := r.head?.any ts.contains

/-- What was read once a node is known under a name. -/
def mark (r : Reading) (name : Option Text) (id : NodeId) : Reading :=
  match name with
  | none => r
  | some name => { r with anchors := (name, id) :: r.anchors }

/-- The node that is known under a name. -/
def marked? (r : Reading) (name : Text) : Option NodeId :=
  (r.anchors.find? (fun a => a.1 == name)).map Prod.snd

/-- One more node, with its number. -/
def add (r : Reading) (n : Node) : NodeId × Reading :=
  (r.nodes.size, { r with nodes := r.nodes.push n })

/-- What was read once a node is complete. -/
def complete (r : Reading) (id : NodeId) (n : Node) : Reading :=
  { r with nodes := r.nodes.setIfInBounds id n }

end Reading

/-- What stands before the content of a node: a name and a tag, in either order. -/
structure Properties where
  anchor : Option Text := none
  tag : Option (Option Text × Text) := none

/-- The properties at the start of a node. -/
def readProperties (r : Reading) : Properties × Reading :=
  match r.tokens with
  | .anchor a :: .tag h t :: rest => (⟨some a, some (h, t)⟩, { r with tokens := rest })
  | .anchor a :: rest => (⟨some a, none⟩, { r with tokens := rest })
  | .tag h t :: .anchor a :: rest => (⟨some a, some (h, t)⟩, { r with tokens := rest })
  | .tag h t :: rest => (⟨none, some (h, t)⟩, { r with tokens := rest })
  | _ => ({}, r)

/-- The complete tag of properties; a handle must be known. -/
def Properties.fullTag (p : Properties) (handles : List (Text × Text)) :
    Except Fault (Option Text) :=
  match p.tag with
  | none => .ok none
  | some (none, t) => .ok (some t)
  | some (some h, t) =>
    match handles.find? (fun e => e.1 == h) with
    | some (_, stem) => .ok (some (stem ++ t))
    | none => .error .malformed

/-- The kind of a collection with a tag. -/
def collectionKind (tag : Option Text) (usual : Kind) : Kind :=
  match tag with
  | none => usual
  | some t => if t == openTag then usual else .ofTag t

/-- The kind of a scalar with a tag. -/
def scalarKind (tag : Option Text) (text : NativeName) (plain : Bool) : Kind :=
  match tag with
  | none => if plain then .ofName text else .text
  | some t => if t == openTag then .ofName text else .ofTag t

mutual

/-- A node.  `block` says whether it may be a block collection, and `flat` whether it may be a
list that is not indented. -/
def readNode (handles : List (Text × Text)) : Nat → Bool → Bool → Reading → Got NodeId
  | 0, _, _, _ => .error .malformed
  | fuel + 1, block, flat, r =>
    match r.head? with
    | some (.alias name) =>
      match r.marked? name with
      | none => .error .malformed
      | some id => .ok (id, r.tail)
    | _ =>
      let (p, r) := readProperties r
      match r.head?, p.anchor with
      | some (.broken e), none => .error e
      | head, anchor =>
        match p.fullTag handles with
        | .error e => .error e
        | .ok tag =>
          if r.isBroken || anchor.any (fun a => (r.marked? a).isSome) then .error r.fault
          else
            let (id, inner) := r.add .empty
            let inner := inner.mark anchor id
            let scalar := fun kind text (r : Reading) =>
              Except.ok (id, r.complete id (.scalar kind text))
            let list := fun (got : Got (List NodeId)) =>
              match got with
              | .error e => .error e
              | .ok (items, r) => .ok (id, r.complete id (.list (collectionKind tag .list) items))
            let mapping := fun (got : Got (List (NodeId × NodeId))) =>
              match got with
              | .error e => .error e
              | .ok (entries, r) =>
                .ok (id, r.complete id (.mapping (collectionKind tag .mapping) entries))
            match head with
            | some (.scalar text plain) => scalar (scalarKind tag text plain) text inner.tail
            | some .flowSequence => list (readFlowItems handles fuel true inner.tail [])
            | some .flowMapping => mapping (readFlowEntries handles fuel true inner.tail [])
            | head =>
              if flat && head == some .item then list (readItems handles fuel false inner [])
              else if block && head == some .blockSequence then
                list (readItems handles fuel true inner.tail [])
              else if block && head == some .blockMapping then
                mapping (readEntries handles fuel inner.tail [])
              else if anchor.isSome || tag.isSome then
                scalar (if tag.isNone then .null else scalarKind tag [] false) [] inner
              else .error .malformed

/-- The items of a block list behind `done` (latest first); an indented one has an end of its
own. -/
def readItems (handles : List (Text × Text)) :
    Nat → Bool → Reading → List NodeId → Got (List NodeId)
  | 0, _, _, _ => .error .malformed
  | fuel + 1, indented, r, done =>
    if r.at_ [.item] then
      let r := r.tail
      if r.at_ ([.item, .blockEnd] ++ if indented then [] else [.key, .value]) then
        let (id, r) := r.add .empty
        readItems handles fuel indented r (id :: done)
      else match readNode handles fuel true false r with
        | .error e => .error e
        | .ok (id, r) => readItems handles fuel indented r (id :: done)
    else if !indented then .ok (done.reverse, r)
    else if r.at_ [.blockEnd] then .ok (done.reverse, r.tail)
    else .error r.fault

/-- A key or value of a block mapping, after its indicator. -/
def readPart (handles : List (Text × Text)) : Nat → Reading → Got NodeId
  | 0, _ => .error .malformed
  | fuel + 1, r =>
    if r.at_ [.key, .value, .blockEnd] then .ok (r.add .empty) else readNode handles fuel true true r

/-- The entries of a block mapping behind `done` (latest first). -/
def readEntries (handles : List (Text × Text)) :
    Nat → Reading → List (NodeId × NodeId) → Got (List (NodeId × NodeId))
  | 0, _, _ => .error .malformed
  | fuel + 1, r, done =>
    if r.at_ [.blockEnd] then .ok (done.reverse, r.tail)
    else if r.at_ [.key] then
      match readPart handles fuel r.tail with
      | .error e => .error e
      | .ok (k, r) =>
        if r.at_ [.value] then
          match readPart handles fuel r.tail with
          | .error e => .error e
          | .ok (v, r) => readEntries handles fuel r ((k, v) :: done)
        else
          let (v, r) := r.add .empty
          readEntries handles fuel r ((k, v) :: done)
    else .error r.fault

/-- The value of an entry in brackets that end with a token; nothing is an empty scalar. -/
def readFlowValue (handles : List (Text × Text)) : Nat → Token → Reading → Got NodeId
  | 0, _, _ => .error .malformed
  | fuel + 1, closing, r =>
    if r.at_ [.value] then
      if r.tail.at_ [.comma, closing] then .ok (r.tail.add .empty)
      else readNode handles fuel false false r.tail
    else .ok (r.add .empty)

/-- The key of an entry in brackets that end with a token, after its indicator. -/
def readFlowKey (handles : List (Text × Text)) : Nat → Token → Reading → Got NodeId
  | 0, _, _ => .error .malformed
  | fuel + 1, closing, r =>
    if r.at_ [.value, .comma, closing] then .ok (r.add .empty)
    else readNode handles fuel false false r

/-- The items of a list in brackets behind `done` (latest first); a key makes an item a mapping
of one entry. -/
def readFlowItems (handles : List (Text × Text)) :
    Nat → Bool → Reading → List NodeId → Got (List NodeId)
  | 0, _, _, _ => .error .malformed
  | fuel + 1, first, r, done =>
    if r.at_ [.flowSequenceEnd] then .ok (done.reverse, r.tail)
    else if !first && !r.at_ [.comma] then .error r.fault
    else
      let r := if first then r else r.tail
      if r.at_ [.flowSequenceEnd] then .ok (done.reverse, r.tail)
      else if r.at_ [.key] then
        match readFlowKey handles fuel .flowSequenceEnd r.tail with
        | .error e => .error e
        | .ok (k, r) =>
          match readFlowValue handles fuel .flowSequenceEnd r with
          | .error e => .error e
          | .ok (v, r) =>
            let (id, r) := r.add (.mapping .mapping [(k, v)])
            readFlowItems handles fuel false r (id :: done)
      else match readNode handles fuel false false r with
        | .error e => .error e
        | .ok (id, r) => readFlowItems handles fuel false r (id :: done)

/-- The entries of a mapping in brackets behind `done` (latest first); an item without a key is a
key without a value. -/
def readFlowEntries (handles : List (Text × Text)) :
    Nat → Bool → Reading → List (NodeId × NodeId) → Got (List (NodeId × NodeId))
  | 0, _, _, _ => .error .malformed
  | fuel + 1, first, r, done =>
    if r.at_ [.flowMappingEnd] then .ok (done.reverse, r.tail)
    else if !first && !r.at_ [.comma] then .error r.fault
    else
      let r := if first then r else r.tail
      if r.at_ [.flowMappingEnd] then .ok (done.reverse, r.tail)
      else if r.at_ [.key] then
        match readFlowKey handles fuel .flowMappingEnd r.tail with
        | .error e => .error e
        | .ok (k, r) =>
          match readFlowValue handles fuel .flowMappingEnd r with
          | .error e => .error e
          | .ok (v, r) => readFlowEntries handles fuel false r ((k, v) :: done)
      else match readNode handles fuel false false r with
        | .error e => .error e
        | .ok (k, r) =>
          let (v, r) := r.add .empty
          readFlowEntries handles fuel false r ((k, v) :: done)

end

/-! ### Documents -/

/-- The directives at the start of tokens: the handles they make known. -/
def readDirectives :
    Bool → List (Text × Text) → List Token → Except Fault (List (Text × Text) × List Token)
  | versioned, handles, .version major :: ts =>
    if versioned || major != 1 then .error .malformed else readDirectives true handles ts
  | versioned, handles, .tagHandle handle stem :: ts =>
    if handles.any (fun h => h.1 == handle) then .error .malformed
    else readDirectives versioned (handles ++ [(handle, stem)]) ts
  | versioned, handles, .directive :: ts => readDirectives versioned handles ts
  | _, handles, ts => .ok (handles, ts)

/-- Whether a token is a directive. -/
def Token.isDirective : Token → Bool
  | .version _ => true
  | .tagHandle _ _ => true
  | .directive => true
  | _ => false

/-- The content of a document, its nodes, and the tokens after it and its end mark.  `explicit`
says whether a start mark stands before it, after which the content may be missing. -/
def readDocument (handles : List (Text × Text)) (explicit : Bool) (ts : List Token) :
    Except Fault ((NodeId × Graph) × List Token) :=
  let missing := match ts with
    | [] => true
    | t :: _ => t.isDirective || t == .documentStart || t == .documentEnd
  let r : Reading := { tokens := ts }
  let got : Got NodeId :=
    if explicit && missing then .ok (r.add .empty)
    else readNode (handles ++ standardHandles) (3 * ts.length + 3) true false r
  match got with
  | .error e => .error e
  | .ok (id, r) =>
    .ok ((id, r.nodes), if r.at_ [.documentEnd] then r.tail.tokens else r.tokens)

/-- Refuses tokens after a document and its end mark, unless they are end marks too.  The
directives of another document are read before it is refused. -/
def readNothing (ts : List Token) : Except Fault Unit :=
  let ts := ts.dropWhile (· == .documentEnd)
  if ts.isEmpty then .ok ()
  else match readDirectives false [] ts with
    | .error e => .error e
    | .ok (_, ts) => .error (Reading.fault { tokens := ts })

/-- The nodes of the only document among tokens, with the number of its content; none when there
is no document. -/
def Graph.ofTokens? (ts : List Token) : Except Fault (Option (NodeId × Graph)) :=
  let finish := fun (got : Except Fault ((NodeId × Graph) × List Token)) =>
    match got with
    | .error e => .error e
    | .ok (content, ts) =>
      match readNothing ts with
      | .error e => .error e
      | .ok () => .ok (some content)
  match ts with
  | [] => .ok none
  | t :: _ =>
    if t.isDirective || t == .documentStart then
      match readDirectives false [] ts with
      | .error e => .error e
      | .ok (handles, .documentStart :: ts) => finish (readDocument handles true ts)
      | .ok (_, ts) => .error (Reading.fault { tokens := ts })
    else finish (readDocument [] false ts)

end PackageCatalog.Yaml
