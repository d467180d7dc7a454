import CrudPlan.Data.NameMap
import CrudPlan.Number.Binary64

namespace CrudPlan

/-- A number is an integer or a binary fraction, and `1` differs from `1.0`. -/
inductive Json.Number
  | int (n : Int)
  | real (x : Binary64)
deriving DecidableEq, Inhabited

/-- A value that was read has the members of its objects sorted by name, one for each name. -/
inductive Json
  | null
  | bool (b : Bool)
  | num (n : Json.Number)
  | str (s : String)
  | arr (items : List Json)
  | obj (members : List (String × Json))
deriving Inhabited

namespace Json

def ofNat (n : Nat) : Json := .num (.int n)

def ofInt (n : Int) : Json := .num (.int n)

def ofUInt64 (n : UInt64) : Json := .num (.int n.toNat)

/-- A value, or `null` in its place if there is none. -/
def ofOption {α : Type} (f : α → Json) : Option α → Json
  | none => .null
  | some x => f x

/-- A member that is left out if it has no value. -/
def optional {α : Type} (name : String) (f : α → Json) : Option α → List (String × Json)
  | none => []
  | some x => [(name, f x)]

def isNull : Json → Bool
  | .null => true
  | _ => false

/-- Neither a list nor an object. -/
def isScalar : Json → Bool
  | .arr _ | .obj _ => false
  | _ => true

/-- The kind of a value as messages name it. -/
def kind : Json → String
  | .null => "null"
  | .bool _ => "a boolean"
  | .num _ => "a number"
  | .str _ => "a string"
  | .arr _ => "a list"
  | .obj _ => "an object"

/-- An unsigned 64-bit count, if the value is one. -/
def toUInt64? : Json → Option UInt64
  | .num (.int (.ofNat n)) => if n < UInt64.size then some (.ofNat n) else none
  | _ => none

/-- A value with the members of all objects sorted, the last one of each name. -/
def canonical : Json → Json
  | .arr items => .arr (canonicalItems items)
  | .obj members => .obj (Entries.sort (canonicalMembers members))
  | v => v
where
  canonicalItems : List Json → List Json
    | [] => []
    | v :: rest => v.canonical :: canonicalItems rest
  canonicalMembers : List (String × Json) → List (String × Json)
    | [] => []
    | (name, v) :: rest => (name, v.canonical) :: canonicalMembers rest

end Json

end CrudPlan
