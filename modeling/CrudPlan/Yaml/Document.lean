import CrudPlan.Data.Document
import CrudPlan.Yaml.Node
import CrudPlan.Yaml.Written

namespace CrudPlan.Yaml

/-- A node in a document, with the nodes that aliases may stand for. -/
structure NodeRef where
  targets : List (Nat × Node Nat)
  node : Node Nat

namespace NodeRef

/-- The document of a text. -/
def parse? (s : String) : Option NodeRef := do
  let (root, _) ← (← WrittenNode.parse? s).number? []
  return ⟨root.anchored.reverse, root⟩

/-- The node itself, or the one that it stands for. -/
def resolve? (r : NodeRef) : Option (Node Nat) :=
  match r.node with
  | .alias slot => r.targets.lookup slot
  | n => some n

def isNullWord (s : String) : Bool := ["null", "Null", "NULL", "~"].contains s

/-- Nothing or a word for nothing is written. -/
def isNullText (style : ScalarStyle) (text : String) : Bool :=
  style == .plain && (text.isEmpty || isNullWord text)

def truth? (s : String) : Option Bool :=
  if ["true", "True", "TRUE"].contains s then some true
  else if ["false", "False", "FALSE"].contains s then some false
  else none

/-- Whether a scalar stands for a value. The tag of null asks for a word for nothing. -/
def isPresent? (tag : Option Tag) (style : ScalarStyle) (text : String) : Option Bool :=
  if style ≠ .plain then some true
  else
    match tag with
    | none => some (!isNullText style text)
    | some tag =>
      if tag = Tag.null then (if isNullWord text then some false else none) else some true

/-- A name is either a text, or a tag of the kind `!name` before nothing. -/
def choiceOfScalar? (tag : Option Tag) (style : ScalarStyle) (text : String) : Option String :=
  match tag.bind Tag.localName? with
  | none => some text
  | some name => if isNullText style text then some name else none

def text? (r : NodeRef) : Option String :=
  match r.resolve? with
  | some (.scalar _ _ text) => some text
  | _ => none

/-- The pairs of a mapping; nothing is an empty one. -/
def pairs? (r : NodeRef) : Option (List (NodeRef × NodeRef)) :=
  match r.resolve? with
  | some (.mapping _ pairs) => some (pairs.map fun p => (⟨r.targets, p.1⟩, ⟨r.targets, p.2⟩))
  | some (.scalar _ .plain "") => some []
  | _ => none

/-- The pairs of a mapping whose keys are scalars. -/
def named? (r : NodeRef) : Option (List (String × NodeRef)) := do
  (← r.pairs?).mapM fun p => return (← p.1.text?, p.2)

end NodeRef

instance : Document NodeRef where
  text? := NodeRef.text?
  bool? r :=
    match r.resolve? with
    | some (.scalar _ .plain text) => NodeRef.truth? text
    | some (.scalar props .literal text) =>
      if props.tag = some Tag.bool then NodeRef.truth? text else none
    | _ => none
  choice? r :=
    match r.resolve? with
    | some (.scalar props style text) => NodeRef.choiceOfScalar? props.tag style text
    | _ => none
  presence? r :=
    match r.resolve? with
    | some (.scalar props style text) => do
      return if ← NodeRef.isPresent? props.tag style text then some r else none
    | some _ => some (some r)
    | none => none
  items? r :=
    match r.resolve? with
    | some (.sequence _ items) => some (items.map fun n => ⟨r.targets, n⟩)
    | some (.scalar _ .plain "") => some []
    | _ => none
  members? := NodeRef.named?
  fields? names r := do Document.selectFields? names (← r.named?)

end CrudPlan.Yaml
