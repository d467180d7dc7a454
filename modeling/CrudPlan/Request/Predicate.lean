import CrudPlan.Json.Value

namespace CrudPlan

inductive Operator
  | equals
  | not
  | in
  | lt
  | lte
  | gt
  | gte
  | isNull
  | includes
deriving DecidableEq, Repr

namespace Operator

def all : List Operator := [.equals, .not, .in, .lt, .lte, .gt, .gte, .isNull, .includes]

def name : Operator → String
  | .equals => "equals"
  | .not => "not"
  | .in => "in"
  | .lt => "lt"
  | .lte => "lte"
  | .gt => "gt"
  | .gte => "gte"
  | .isNull => "isNull"
  | .includes => "includes"

def ofName? (s : String) : Option Operator := all.find? (·.name == s)

theorem ofName?_name (o : Operator) : ofName? o.name = some o := by
  cases o <;> decide

end Operator

/-- A boolean expression over the fields of a model. -/
inductive Predicate
  | compare (field : String) (operator : Operator) (value : Json)
  | and (children : List Predicate)
  | or (children : List Predicate)
  | not (child : Predicate)
deriving Inhabited

namespace Predicate

/-- The conjunction of conditions: none of no condition, and a single one as it is. -/
def all : List Predicate → Option Predicate
  | [] => none
  | [p] => some p
  | ps => some (.and ps)

def toJson : Predicate → Json
  | .compare field operator value =>
    .obj [("field", .str field), ("kind", .str "compare"), ("operator", .str operator.name),
      ("value", value)]
  | .and children => .obj [("children", .arr (listToJson children)), ("kind", .str "and")]
  | .or children => .obj [("children", .arr (listToJson children)), ("kind", .str "or")]
  | .not child => .obj [("child", child.toJson), ("kind", .str "not")]
where
  listToJson : List Predicate → List Json
    | [] => []
    | p :: rest => p.toJson :: listToJson rest

end Predicate

end CrudPlan
