import CrudPlan.Text.CamelCase

namespace CrudPlan

inductive OperationKind
  | getOne
  | getMany
  | createOne
  | updateOne
  | deleteOne
deriving DecidableEq, Repr

namespace OperationKind

def all : List OperationKind := [.getOne, .getMany, .createOne, .updateOne, .deleteOne]

def name : OperationKind → String
  | .getOne => "getOne"
  | .getMany => "getMany"
  | .createOne => "createOne"
  | .updateOne => "updateOne"
  | .deleteOne => "deleteOne"

def ofName? (s : String) : Option OperationKind := all.find? (·.name == s)

/-- The name of a kind as descriptions of a service show it. -/
def title : OperationKind → String
  | .getOne => "GetOne"
  | .getMany => "GetMany"
  | .createOne => "CreateOne"
  | .updateOne => "UpdateOne"
  | .deleteOne => "DeleteOne"

/-- Whether the operation only reads. -/
def isQuery : OperationKind → Bool
  | .getOne | .getMany => true
  | _ => false

/-- The name of an operation on a model, such as `usersGetMany`. -/
def operationName (k : OperationKind) (model : String) : String :=
  Text.camelCase [model, k.name]

/-- The name of a type that belongs to an operation, such as `usersGetManyOutputType`. -/
def typeName (k : OperationKind) (model ending : String) : String :=
  Text.camelCase [model, k.name, ending]

end OperationKind

end CrudPlan
