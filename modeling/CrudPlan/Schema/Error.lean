import CrudPlan.Text.Quoted

namespace CrudPlan

/-- What mentions a model. -/
inductive Mention
  | declarationKey
  | relation (model field : String)
deriving DecidableEq, Repr

/-- Why the join of a relation cannot be found. -/
inductive JoinProblem
  /-- A declaration has different numbers of join columns on its two sides. -/
  | uneven (fields references : Nat)
  | noRelations (foreign : String)
  | noCandidate (foreign owner : String)
  /-- Several relations refer back, and none has the relation's name. -/
  | noSharedName (candidates : Nat) (foreign owner : String) (relationName : Option String)
  | ambiguous (names : List String) (foreign : String)
  | inverseWithoutJoin (foreign inverse : String)
deriving DecidableEq, Repr

inductive SchemaError
  | missingPrimaryKey (model table : String) (found : Nat)
  | duplicateField (model field : String)
  | unknownModel (name : String) (mention : Mention)
  | unknownJoinColumn (model relation table column : String)
  | compositeJoin (model relation : String)
  | unresolvable (model relation : String) (problem : JoinProblem)
deriving DecidableEq, Repr

open Text

namespace Mention

def message : Mention → String
  | .declarationKey => "relation declarations"
  | .relation model field => s!"{model}.{field}"

end Mention

namespace JoinProblem

def message : JoinProblem → String
  | .uneven fields references =>
    s!"it declares {fields} join field(s) but {references} reference(s)"
  | .noRelations foreign =>
    s!"it declares no join columns and {foreign} declares no relations"
  | .noCandidate foreign owner =>
    s!"it declares no join columns and no relation on {foreign} references {owner}"
  | .noSharedName candidates foreign owner relationName =>
    let shown := (relationName.map quoted).getD "(none declared)"
    s!"{candidates} relations on {foreign} reference {owner} and none shares " ++
      s!"the relation name {shown}"
  | .ambiguous names foreign =>
    let shown := ", ".intercalate (names.map fun name => s!"'{name}'")
    s!"relations {shown} on {foreign} all match"
  | .inverseWithoutJoin foreign inverse =>
    s!"neither it nor its inverse {foreign}.{inverse} declares join columns"

end JoinProblem

namespace SchemaError

def message : SchemaError → String
  | .missingPrimaryKey model table found =>
    s!"table {quoted table} ({model}) must have exactly one primary key column, found {found}"
  | .duplicateField model field => s!"model {model} has a duplicated field {quoted field}"
  | .unknownModel name mention =>
    s!"model {quoted name} referenced by {mention.message} is not declared"
  | .unknownJoinColumn model relation table column =>
    s!"relation {model}.{relation} joins on column {quoted column}, which {table} does not have"
  | .compositeJoin model relation =>
    s!"relation {model}.{relation} declares a composite join, " ++
      "only single-column joins are supported"
  | .unresolvable model relation problem =>
    s!"cannot resolve relation {model}.{relation}: {problem.message}"

end SchemaError

end CrudPlan
