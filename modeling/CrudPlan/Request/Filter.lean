import CrudPlan.Request.Error
import CrudPlan.Schema.Model

namespace CrudPlan

namespace Filter

/-- The conditions that members give, by ascending name, up to the first that is in error. -/
def collect : List (String × Except FilterError (Option Predicate)) →
    Except FilterError (List Predicate)
  | [] => .ok []
  | (_, condition) :: rest => do
    let condition ← condition
    return condition.toList ++ (← collect rest)

/-- The conjunction of members in any order. -/
def conjunction (members : List (String × Except FilterError (Option Predicate))) :
    Except FilterError (Option Predicate) := do
  return Predicate.all (← collect (Entries.sort members))

/-- What an operator wants, unless the operand is that. -/
def operandProblem? : Operator → Json → Option OperandKind
  | .in, .arr items => if items.all Json.isScalar then none else some .scalarList
  | .in, _ => some .list
  | .isNull, .bool _ => none
  | .isNull, _ => some .boolean
  | .includes, .str _ => none
  | .includes, _ => some .string
  | _, operand => if operand.isScalar then none else some .scalar

/-- The condition of one operator on a field; a null operand gives none. -/
def operation (model : Model) (field name : String) (operand : Json) :
    Except FilterError (Option Predicate) :=
  match Operator.ofName? name with
  | none => .error (.unknownOperator model.name field name)
  | some operator =>
    if operand.isNull then .ok none
    else
      match operandProblem? operator operand with
      | some expected => .error (.invalidOperand field operator expected operand.kind)
      | none => .ok (some (.compare field operator operand))

/-- The condition under the name of a field. -/
def fieldCondition (model : Model) (field : String) (value : Json) :
    Except FilterError (Option Predicate) :=
  if !model.hasField field then .error (.unknownField model.name field)
  else
    match value with
    | .null => .ok none
    | .obj operations =>
      conjunction (operations.map fun e => (e.1, operation model field e.1 e.2))
    | other => .error (.malformed (.notOperators field other.kind))

/-- A combination of conditions, unless there are none. -/
def combine (f : List Predicate → Predicate) (ps : List Predicate) : Option Predicate :=
  if ps.isEmpty then none else some (f ps)

/-- The predicate of a filter, none if it says nothing. -/
def predicate (model : Model) : Json → Except FilterError (Option Predicate)
  | .null => .ok none
  | .obj members => conjunction (memberConditions members)
  | other => .error (.malformed (.notObject other.kind))
where
  memberConditions : List (String × Json) →
      List (String × Except FilterError (Option Predicate))
    | [] => []
    | (key, value) :: rest =>
      let condition :=
        if key = "and" then (operands key value).map (combine .and)
        else if key = "or" then (operands key value).map (combine .or)
        else if key = "not" then (predicate model value).map (·.map .not)
        else fieldCondition model key value
      (key, condition) :: memberConditions rest
  /-- The conditions under `and` or `or`; a single object counts as a list of one. -/
  operands (key : String) : Json → Except FilterError (List Predicate)
    | .null => .ok []
    | .arr items => listPredicates items
    | .obj members => (conjunction (memberConditions members)).map Option.toList
    | other => .error (.malformed (.notFilters key other.kind))
  listPredicates : List Json → Except FilterError (List Predicate)
    | [] => .ok []
    | item :: rest => do
      let first ← predicate model item
      return first.toList ++ (← listPredicates rest)

/-- The predicate of a filter that may be absent. -/
def optionalPredicate (model : Model) : Option Json → Except FilterError (Option Predicate)
  | none => .ok none
  | some filter => predicate model filter

end Filter

end CrudPlan
