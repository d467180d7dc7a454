import CrudPlan.Json.Printer
import CrudPlan.Request.Predicate
import CrudPlan.Text.Quoted

namespace CrudPlan

open Text

/-- What an operator wants as its operand. -/
inductive OperandKind
  | list
  | scalarList
  | boolean
  | string
  | scalar
deriving DecidableEq, Repr

namespace OperandKind

def message : OperandKind → String
  | .list => "a list"
  | .scalarList => "a list of scalars"
  | .boolean => "a boolean"
  | .string => "a string"
  | .scalar => "a scalar"

end OperandKind

/-- A part of a filter that is not of the kind its place wants. The kind found is given as messages
name it. -/
inductive Malformation
  | notObject (found : String)
  | notFilters (key found : String)
  | notOperators (field found : String)
deriving DecidableEq, Repr

namespace Malformation

def message : Malformation → String
  | .notObject found => s!"expected an object, found {found}"
  | .notFilters key found => s!"{key} expects a list of filters, found {found}"
  | .notOperators field found => s!"{field} expects an operator object, found {found}"

end Malformation

inductive FilterError
  | unknownField (model field : String)
  | unknownOperator (model field operator : String)
  | invalidOperand (field : String) (operator : Operator) (expected : OperandKind) (found : String)
  | malformed (problem : Malformation)
deriving DecidableEq, Repr

namespace FilterError

def message : FilterError → String
  | .unknownField model field => s!"unknown field {quoted field} in filter on {model}"
  | .unknownOperator model field operator =>
    s!"unknown filter operator {quoted operator} on {model}.{field}"
  | .invalidOperand field operator expected found =>
    s!"invalid operand for {field}.{operator.name}: expected {expected.message}, found {found}"
  | .malformed problem => s!"malformed filter: {problem.message}"

end FilterError

inductive ArgumentProblem
  | notObject (value : Json)
  | notCount (value : Json)
  | undefinedVariable (name : String)
  | missingKey (operation : String)

namespace ArgumentProblem

def message : ArgumentProblem → String
  | .notObject value => s!"expected an object, got {value.compact}"
  | .notCount value => s!"expected a non-negative integer, got {value.compact}"
  | .undefinedVariable name => s!"Variable {name} is not defined."
  | .missingKey operation => s!"{operation} requires a primary key value"

end ArgumentProblem

inductive PlanError
  | modelNotFound (name : String)
  | unknownField (model field : String)
  | unknownRelation (model field : String)
  | filter (e : FilterError)
  | invalidArgument (argument : String) (problem : ArgumentProblem)
  | unsupported (operation : String)
  | rejected (operation reason : String)

namespace PlanError

def message : PlanError → String
  | .modelNotFound name => s!"model {quoted name} is not registered"
  | .unknownField model field => s!"{model} has no field or relation {quoted field}"
  | .unknownRelation model field => s!"{model} has no relation {quoted field}"
  | .filter e => e.message
  | .invalidArgument argument problem =>
    s!"invalid argument {quoted argument}: {problem.message}"
  | .unsupported operation => s!"operation {operation} is not supported"
  | .rejected operation reason => s!"operation {operation} rejected: {reason}"

end PlanError

end CrudPlan
