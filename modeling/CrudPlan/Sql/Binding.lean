import CrudPlan.Request.Error
import CrudPlan.Schema.Model
import CrudPlan.Sql.Query

namespace CrudPlan.Sql

inductive Value
  | text (s : String)
  | int (n : Int)
  | real (x : Binary64)
  | bool (b : Bool)
  | null
deriving DecidableEq, Inhabited

namespace Value

/-- An integer if it fits into 64 bits with a sign, and the nearest binary number otherwise. -/
def ofInt (n : Int) : Value :=
  if -0x8000000000000000 ≤ n ∧ n < 0x8000000000000000 then .int n else .real (Binary64.ofInt n)

/-- Lists and objects have no counterpart in a column and are bound as their JSON text. -/
def ofJson : Json → Value
  | .null => .null
  | .bool b => .bool b
  | .num (.int n) => ofInt n
  | .num (.real x) => .real x
  | .str s => .text s
  | other => .text other.compact

def toJson : Value → Json
  | .text s => .str s
  | .int n => .ofInt n
  | .real x => .num (.real x)
  | .bool b => .bool b
  | .null => .null

/-- The kind of a value. -/
def kind : Value → String
  | .text _ => "String"
  | .int _ => "Int"
  | .real _ => "Float"
  | .bool _ => "Bool"
  | .null => "Null"

end Value

/-- A statement with the values of its parameters `?1`, `?2` and so on. -/
structure Statement where
  sql : String
  values : List Value
deriving DecidableEq

namespace Statement

def members (s : Statement) : List (String × Json) :=
  [("sql", .str s.sql), ("values", .arr (s.values.map Value.toJson))]

def toJson (s : Statement) : Json := .obj s.members

end Statement

/-- A condition with the values of its parameters, which are numbered from one place on. -/
structure Bound where
  condition : Condition Nat
  values : List Value
deriving Inhabited

namespace Bound

/-- A condition without parameters. -/
def plain (c : Condition Nat) : Bound := ⟨c, []⟩

/-- A column among values; nothing is among no values. `taken` parameters are in use already. -/
def among (taken : Nat) (column : String) (values : List Value) : Bound :=
  if values.isEmpty then plain (.always false)
  else ⟨.among column (List.range' (taken + 1) values.length), values⟩

end Bound

/-- Takes the special meaning from the characters of a text that is searched for. -/
def escapeLike (needle : List Char) : List Char :=
  needle.flatMap fun c => if c = '\\' ∨ c = '%' ∨ c = '_' then ['\\', c] else [c]

/-- The pattern of all texts that contain the given one. -/
def containsPattern (needle : String) : String :=
  String.ofList ('%' :: escapeLike needle.toList ++ ['%'])

/-- The condition of an operator and its operand on a column. -/
def bindOperator (taken : Nat) (column : String) (operator : Operator) (operand : Json) : Bound :=
  let compare (c : Comparison) : Bound :=
    ⟨.compare column c (taken + 1), [Value.ofJson operand]⟩
  match operator with
  | .equals => compare .equal
  | .not => compare .unequal
  | .lt => compare .less
  | .lte => compare .lessOrEqual
  | .gt => compare .greater
  | .gte => compare .greaterOrEqual
  | .in =>
    match operand with
    | .arr items => Bound.among taken column (items.map Value.ofJson)
    | single => Bound.among taken column [Value.ofJson single]
  | .isNull =>
    match operand with
    | .bool false => Bound.plain (.isNotNull column)
    | _ => Bound.plain (.isNull column)
  | .includes =>
    let needle :=
      match operand with
      | .str s => s
      | other => other.compact
    ⟨.like column (taken + 1), [.text (containsPattern needle)]⟩

/-- The condition of a predicate on a model. A conjunction of nothing always holds, a disjunction
of nothing never. -/
def bindPredicate (model : Model) (taken : Nat) : Predicate → Except FilterError Bound
  | .compare field operator operand =>
    match model.field? field with
    | none => .error (.unknownField model.name field)
    | some f => .ok (bindOperator taken f.columnName operator operand)
  | .and children =>
    if children.isEmpty then .ok (.plain (.always true))
    else do
      let (conditions, values) ← bindAll taken children
      return ⟨.and conditions, values⟩
  | .or children =>
    if children.isEmpty then .ok (.plain (.always false))
    else do
      let (conditions, values) ← bindAll taken children
      return ⟨.or conditions, values⟩
  | .not child => do
    let bound ← bindPredicate model taken child
    return { bound with condition := .not bound.condition }
where
  bindAll (taken : Nat) :
      List Predicate → Except FilterError (List (Condition Nat) × List Value)
    | [] => .ok ([], [])
    | p :: rest => do
      let bound ← bindPredicate model taken p
      let (conditions, values) ← bindAll (taken + bound.values.length) rest
      return (bound.condition :: conditions, bound.values ++ values)

/-- The conditions that a predicate adds to those of a statement. -/
def bindOptional (model : Model) (taken : Nat) :
    Option Predicate → Except PlanError (List (Condition Nat) × List Value)
  | none => .ok ([], [])
  | some p =>
    match bindPredicate model taken p with
    | .error e => .error (.filter e)
    | .ok bound => .ok ([bound.condition], bound.values)

end CrudPlan.Sql
