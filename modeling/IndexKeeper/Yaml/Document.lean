import IndexKeeper.Yaml.Lexer

/-!
# The first document of a YAML text

A document as the nodes that a reader of a list of texts looks at: its root, and, if that is a
sequence, the items of the sequence up to the first that is a collection.  What such a collection
holds is not read.
-/

namespace IndexKeeper.Yaml

/-- What a node holds. -/
inductive Content
  | alias_ (name : String)
  | scalar (text : String) (isPlain : Bool) (tag? : Option String)
  | sequence
  | mapping
  deriving DecidableEq, Repr

/-- A node of a document and the place where it starts. -/
structure Node where
  mark : Mark
  anchor? : Option String
  content : Content
  deriving DecidableEq, Repr

namespace Node

/-- A node that is left out. -/
def empty (mark : Mark) : Node := ⟨mark, none, .scalar "" true none⟩

/-- Whether a node is a collection. -/
def isCollection (n : Node) : Bool := n.content = .sequence || n.content = .mapping

end Node

/-- The first document of a text. -/
structure Document where
  /-- Its root and the items of the root, in order; nothing if the text holds no document. -/
  nodes : List Node
  /-- Whether something follows the document, or the fault that ends it. -/
  ending : Except Fault Bool

/-! ## Directives -/

/-- The handles of tags and what each stands for, the first of several of one name counting. -/
abbrev Handles := List (String × String)

/-- The handles that every document knows. -/
def Handles.standard : Handles := [("!", "!"), ("!!", "tag:yaml.org,2002:")]

/-- The handles that the directives ahead name, and what follows the directives.  It is given
whether a version was named before, and which handles were. -/
def readDirectives (isVersioned : Bool) (handles : Handles) :
    List Token → Except Fault (Handles × List Token)
  | [] => .ok (handles, [])
  | t :: rest =>
    match t.kind with
    | .versionDirective major minor =>
      if isVersioned then t.fail .twoVersions none
      else if major = 1 ∧ (minor = 1 ∨ minor = 2) then readDirectives true handles rest
      else t.fail .unknownVersion none
    | .tagDirective handle meaning =>
      if (handles.lookup handle).isSome then t.fail .twoTagDirectives none
      else readDirectives isVersioned (handles ++ [(handle, meaning)]) rest
    | _ => .ok (handles, t :: rest)

/-! ## Nodes -/

/-- The anchor and the tag in front of a node. -/
structure Properties where
  anchor? : Option String := none
  tag? : Option (String × String × Mark) := none

/-- Read an anchor and a tag, in either order. -/
def readProperties (ts : Tokens) : Except Fault (Properties × Tokens) := do
  let t ← ts.peek
  match t.kind with
  | .anchor name =>
    let second ← ts.tail.peek
    match second.kind with
    | .tag handle ending => return (⟨some name, some (handle, ending, second.mark)⟩, ts.tail.tail)
    | _ => return (⟨some name, none⟩, ts.tail)
  | .tag handle ending =>
    let second ← ts.tail.peek
    match second.kind with
    | .anchor name => return (⟨some name, some (handle, ending, t.mark)⟩, ts.tail.tail)
    | _ => return (⟨none, some (handle, ending, t.mark)⟩, ts.tail)
  | _ => return ({}, ts)

/-- The tag of a node in full.  A lone exclamation mark is kept as it is. -/
def Properties.fullTag? (p : Properties) (handles : Handles) (began : Mark) :
    Except Fault (Option String) :=
  match p.tag? with
  | none => .ok none
  | some ("", ending, _) => .ok (some ending)
  | some (handle, ending, mark) =>
    match handles.lookup handle with
    | some meaning => .ok (some (meaning ++ ending))
    | none => .error (.within .node began .unknownHandle mark)

/-- Read a node as far as its kind shows: an alias, a scalar, or the start of a collection.  Block
collections can't stand in a flow collection. -/
def readNode (handles : Handles) (inFlow : Bool) (ts : Tokens) : Except Fault (Node × Tokens) := do
  let first ← ts.peek
  match first.kind with
  | .alias_ name => return (⟨first.mark, none, .alias_ name⟩, ts.tail)
  | _ =>
    let (properties, ts) ← readProperties ts
    let tag? ← properties.fullTag? handles first.mark
    let t ← ts.peek
    let node (content : Content) : Node := ⟨first.mark, properties.anchor?, content⟩
    match t.kind with
    | .scalar text isPlain =>
      return (node (.scalar text isPlain (tag?.filter (· != "!"))), ts.tail)
    | .flowSequenceStart => return (node .sequence, ts)
    | .flowMappingStart => return (node .mapping, ts)
    | _ =>
      if t.kind = .blockSequenceStart ∧ !inFlow then return (node .sequence, ts)
      else if t.kind = .blockMappingStart ∧ !inFlow then return (node .mapping, ts)
      else if properties.anchor?.isSome || tag?.isSome then
        return (node (.scalar "" true tag?), ts)
      else t.fail .noContent (some (if inFlow then .flowNode else .blockNode, first.mark))

/-! ## Sequences -/

/-- Read an item of a block sequence, or nothing at its end. -/
def readBlockItem (handles : Handles) (began : Mark) (ts : Tokens) :
    Except Fault (Option Node × Tokens) := do
  let t ← ts.peek
  if t.kind = .blockEnd then return (none, ts.tail)
  if t.kind ≠ .blockEntry then t.fail .noEntry (some (.blockSequence, began))
  let next ← ts.tail.peek
  if next.kind = .blockEntry ∨ next.kind = .blockEnd then return (some (.empty next.mark), ts.tail)
  let (node, after) ← readNode handles false ts.tail
  return (some node, after)

/-- Read an item of a flow sequence, or nothing at its end.  A comma stands in front of every item
but the first, and may stand behind the last. -/
def readFlowItem (handles : Handles) (began : Mark) (isFirst : Bool) (ts : Tokens) :
    Except Fault (Option Node × Tokens) := do
  let t ← ts.peek
  if t.kind = .flowSequenceEnd then return (none, ts.tail)
  if !isFirst && t.kind != .flowEntry then t.fail .noSequenceEnd (some (.flowSequence, began))
  let ts := if isFirst then ts else ts.tail
  let next ← ts.peek
  if next.kind = .flowSequenceEnd then return (none, ts.tail)
  if next.kind = .key then return (some ⟨next.mark, none, .mapping⟩, ts.tail)
  let (node, after) ← readNode handles true ts
  return (some node, after)

/-- Whether something follows the document that ends ahead. -/
def readDocumentEnd (ts : Tokens) : Except Fault Bool := do
  let _ ← ts.peek
  match { ts with list := ts.list.dropWhile (·.kind = .documentEnd) : Tokens }.peek with
  | .ok t => return t.kind != .textEnd
  | .error _ => return true

/-- The items of a sequence that is the root of a document, and the ending of the document.  Each of
the given number of rounds reads an item. -/
def readItems (read : Bool → Tokens → Except Fault (Option Node × Tokens)) :
    Nat → Bool → Tokens → Document
  | 0, _, ts => ⟨[], readDocumentEnd ts⟩
  | rounds + 1, isFirst, ts =>
    match read isFirst ts with
    | .error fault => ⟨[], .error fault⟩
    | .ok (none, after) => ⟨[], readDocumentEnd after⟩
    | .ok (some node, after) =>
      if node.isCollection then ⟨[node], .ok false⟩
      else
        let more := readItems read rounds false after
        { more with nodes := node :: more.nodes }

/-! ## Documents -/

/-- The document of a root node and what follows the node. -/
def Document.ofRoot (handles : Handles) (root : Node) (after : Tokens) : Document :=
  match root.content with
  | .mapping => ⟨[root], .ok false⟩
  | .sequence =>
    match after.list with
    | [] => ⟨[root], after.ending.map fun _ => false⟩
    | t :: _ =>
      let read (isFirst : Bool) (ts : Tokens) :=
        if t.kind = .flowSequenceStart then readFlowItem handles t.mark isFirst ts
        else readBlockItem handles t.mark ts
      let items := readItems read after.list.length true after.tail
      { items with nodes := root :: items.nodes }
  | _ => ⟨[root], readDocumentEnd after⟩

/-- Whether a token stands at the start or the end of a document and not in it. -/
def TokenKind.isOutside : TokenKind → Bool
  | versionDirective .. | tagDirective .. | documentStart | documentEnd | textEnd => true
  | _ => false

/-- The root node of the first document, the handles that count in it, and what follows the root.
Nothing if there is no document. -/
def readRoot (ts : Tokens) : Except Fault (Option (Handles × Node × Tokens)) := do
  let first ← ts.peek
  if first.kind = .textEnd then return none
  if !first.kind.isOutside || first.kind = .documentEnd then
    let (root, after) ← readNode .standard false ts
    return some (.standard, root, after)
  let (named, rest) ← readDirectives false [] ts.list
  let ts := { ts with list := rest }
  let start ← ts.peek
  if start.kind ≠ .documentStart then start.fail .noDocumentStart none
  let handles := named ++ .standard
  let next ← ts.tail.peek
  if next.kind.isOutside then return some (handles, .empty next.mark, ts.tail)
  let (root, after) ← readNode handles false ts.tail
  return some (handles, root, after)

/-- The first document of a text. -/
def Document.ofText (s : String) : Document :=
  match readRoot (.ofText s) with
  | .error fault => ⟨[], .error fault⟩
  | .ok none => ⟨[], .ok false⟩
  | .ok (some (handles, root, after)) => .ofRoot handles root after

end IndexKeeper.Yaml
