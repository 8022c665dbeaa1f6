import IndexKeeper.Text.Described
import IndexKeeper.Yaml.Document
import IndexKeeper.Yaml.Scalar

/-!
# Reading YAML as a list of texts

The texts that the items of a document's root stand for, or why the document is no list of texts.
Every scalar can stand for a text; a document that is left out, or empty, is an empty list.
-/

namespace IndexKeeper.Yaml

/-- What stands where something else is expected. -/
inductive Found
  | sequence
  | mapping
  | scalar (value : Scalar)
  deriving DecidableEq, Repr

/-- Why a text is no list of texts. -/
inductive NotTexts
  /-- The root is something else than a sequence. -/
  | root (found : Found) (mark : Mark)
  /-- The root is a scalar that its tag does not fit. -/
  | misfit (text : String) (kind : Scalar.Kind) (mark : Mark)
  /-- An item, by its position, is a collection. -/
  | item (index : Nat) (found : Found) (mark : Mark)
  | unknownAnchor (mark : Mark)
  | fault (cause : Fault)
  | severalDocuments
  deriving DecidableEq, Repr

/-! ## Wording -/

/-- What stands where something else is expected, in words. -/
def Found.describe : Found → String
  | sequence => "sequence"
  | mapping => "map"
  | scalar .null => "unit value"
  | scalar (.bool b) => "boolean `" ++ toString b ++ "`"
  | scalar (.integer i) =>
    if -Int.pow 2 63 ≤ i ∧ i < Int.pow 2 64 then "integer `" ++ toString i ++ "`"
    else "integer `" ++ toString i ++ "` as " ++ if i < 0 then "i128" else "u128"
  | scalar (.real x) =>
    "floating point `" ++ x.plainText ++ (if x.toInt?.isSome then ".0" else "") ++ "`"
  | scalar (.unbounded text) => "floating point `" ++ text ++ "`"
  | scalar (.text s) => describeText s

/-- The wording of why a text is no list of texts. -/
def NotTexts.message : NotTexts → String
  | root found mark => "invalid type: " ++ found.describe ++ ", expected a sequence" ++ mark.suffix
  | misfit text kind mark =>
    "invalid value: " ++ describeText text ++ ", expected " ++ kind.text ++ mark.suffix
  | item index found mark =>
    ".[" ++ toString index ++ "]: invalid type: " ++ found.describe ++ ", expected a string" ++
      mark.suffix
  | unknownAnchor mark => "unknown anchor" ++ mark.suffix
  | fault cause => cause.message
  | severalDocuments =>
    "deserializing from YAML containing more than one document is not supported"

/-! ## Anchors -/

/-- The anchors of a document.  Each has a number, how many different names there were before it; a
number that is given twice belongs to the later node. -/
structure Anchors where
  numbers : List (String × Nat) := []
  nodes : List (Nat × Node) := []

namespace Anchors

/-- Note the anchor of a node. -/
def note (a : Anchors) (node : Node) : Anchors :=
  match node.anchor? with
  | none => a
  | some name =>
    let number := a.numbers.length
    ⟨(name, number) :: a.numbers.filter (·.1 != name), (number, node) :: a.nodes⟩

/-- The anchors of some nodes, and for each node the number that it refers to if it is an alias.  An
alias without an anchor before it ends them; its place is told. -/
def ofNodes (a : Anchors) : List Node → List (Node × Option Nat) × Anchors × Option Mark
  | [] => ([], a, none)
  | node :: rest =>
    match node.content with
    | .alias_ name =>
      match a.numbers.lookup name with
      | none => ([], a, some node.mark)
      | some number =>
        let (more, ending) := a.ofNodes rest
        ((node, some number) :: more, ending)
    | _ =>
      let (more, ending) := (a.note node).ofNodes rest
      ((node, none) :: more, ending)

end Anchors

/-! ## Reading -/

/-- The text that an item of a list stands for. -/
def itemText (index : Nat) (node : Node) : Except NotTexts String :=
  match node.content with
  | .scalar text .. => .ok text
  | .sequence => .error (.item index .sequence node.mark)
  | _ => .error (.item index .mapping node.mark)

/-- The texts that a document's nodes stand for, the root first. -/
def textsOf (anchors : Anchors) : List (Node × Option Nat) → Except NotTexts (List String)
  | [] => .ok []
  | (root, _) :: items =>
    match root.content with
    | .scalar text isPlain tag? =>
      if text.isEmpty && isPlain then .ok []
      else match Scalar.ofTagged text isPlain tag? with
        | .ok value => .error (.root (.scalar value) root.mark)
        | .error kind => .error (.misfit text kind root.mark)
    | .sequence =>
      items.zipIdx.mapM fun ((node, number?), index) =>
        itemText index ((number?.bind fun n => anchors.nodes.lookup n).getD node)
    | _ => .error (.root .mapping root.mark)

/-- The list of texts that a document is. -/
def Document.texts (d : Document) : Except NotTexts (List String) := do
  let (nodes, anchors, unknown?) := Anchors.ofNodes {} d.nodes
  let texts ← textsOf anchors nodes
  match unknown?, d.ending with
  | some mark, _ => .error (.unknownAnchor mark)
  | none, .error cause => .error (.fault cause)
  | none, .ok true => .error .severalDocuments
  | none, .ok false => return texts

/-- The list of texts that a YAML text is. -/
def textsOfYaml (s : String) : Except NotTexts (List String) := (Document.ofText s).texts

end IndexKeeper.Yaml
