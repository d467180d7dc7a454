import CrudPlan.Yaml.Token

namespace CrudPlan.Yaml

/-- What may stand before a node. -/
structure Properties (ι : Type) where
  anchor : Option ι := none
  tag : Option Tag := none
deriving Inhabited

inductive Node (ι : Type)
  | scalar (props : Properties ι) (style : ScalarStyle) (text : String)
  | sequence (props : Properties ι) (items : List (Node ι))
  | mapping (props : Properties ι) (pairs : List (Node ι × Node ι))
  | alias (target : ι)
deriving Inhabited

namespace Node

variable {ι : Type}

/-- The node where nothing is written. -/
def empty : Node ι := .scalar {} .plain ""

/-- A scalar; the tag that asks for no type does not count. -/
def ofScalar (props : Properties ι) (style : ScalarStyle) (text : String) : Node ι :=
  let tag := props.tag.filter (· ≠ Tag.nonSpecific)
  .scalar { props with tag } style text

end Node

/-- The names of anchors so far with their slots, each name once. -/
abbrev AnchorSlots := List (String × Nat)

namespace AnchorSlots

/-- Gives a name the next slot. -/
def assign (slots : AnchorSlots) (name : String) : AnchorSlots :=
  (name, slots.length) :: slots.filter (·.1 != name)

end AnchorSlots

namespace Node

/-- Properties with the slot of their anchor, and the slots behind them. -/
def numberProperties (slots : AnchorSlots) (props : Properties String) :
    Properties Nat × AnchorSlots :=
  match props.anchor with
  | none => ({ tag := props.tag }, slots)
  | some name => ({ anchor := some slots.length, tag := props.tag }, slots.assign name)

/-- A node with slots in place of names, and the slots behind it. An alias has to follow an anchor
of its name. -/
def number? (slots : AnchorSlots) : Node String → Option (Node Nat × AnchorSlots)
  | .scalar props style text =>
    let (props, slots) := numberProperties slots props
    some (.scalar props style text, slots)
  | .sequence props items => do
    let (props, slots) := numberProperties slots props
    let (items, slots) ← numberItems? slots items
    return (.sequence props items, slots)
  | .mapping props pairs => do
    let (props, slots) := numberProperties slots props
    let (pairs, slots) ← numberPairs? slots pairs
    return (.mapping props pairs, slots)
  | .alias name => do return (.alias (← slots.lookup name), slots)
where
  numberItems? (slots : AnchorSlots) : List (Node String) → Option (List (Node Nat) × AnchorSlots)
    | [] => some ([], slots)
    | item :: rest => do
      let (item, slots) ← number? slots item
      let (rest, slots) ← numberItems? slots rest
      return (item :: rest, slots)
  numberPairs? (slots : AnchorSlots) :
      List (Node String × Node String) → Option (List (Node Nat × Node Nat) × AnchorSlots)
    | [] => some ([], slots)
    | (key, value) :: rest => do
      let (key, slots) ← number? slots key
      let (value, slots) ← number? slots value
      let (rest, slots) ← numberPairs? slots rest
      return ((key, value) :: rest, slots)

/-- A node under its slot, if it has an anchor. -/
def ownSlot (props : Properties Nat) (n : Node Nat) : List (Nat × Node Nat) :=
  props.anchor.toList.map fun slot => (slot, n)

/-- The nodes with anchors under their slots, in the order in which they start. -/
def anchored : Node Nat → List (Nat × Node Nat)
  | .scalar props style text => ownSlot props (.scalar props style text)
  | .sequence props items => ownSlot props (.sequence props items) ++ anchoredItems items
  | .mapping props pairs => ownSlot props (.mapping props pairs) ++ anchoredPairs pairs
  | .alias _ => []
where
  anchoredItems : List (Node Nat) → List (Nat × Node Nat)
    | [] => []
    | item :: rest => item.anchored ++ anchoredItems rest
  anchoredPairs : List (Node Nat × Node Nat) → List (Nat × Node Nat)
    | [] => []
    | (key, value) :: rest => key.anchored ++ value.anchored ++ anchoredPairs rest

end Node

end CrudPlan.Yaml
