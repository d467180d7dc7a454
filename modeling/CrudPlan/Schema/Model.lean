import CrudPlan.Schema.Declaration
import CrudPlan.Schema.Error

namespace CrudPlan

structure Field where
  name : String
  dataType : DataType
  columnName : String
  isPrimaryKey : Bool
  nullable : Bool
  hasDefault : Bool
deriving DecidableEq, Repr

/-- A way from the rows of one model to rows of another, those whose foreign field equals the local
one. Models are given by their position. -/
structure Relation where
  owner : Nat
  fieldName : String
  foreignModel : Nat
  kind : RelationKind
  nullable : Bool
  localField : String
  foreignField : String
deriving DecidableEq, Repr

structure Model where
  id : Nat
  name : String
  tableName : String
  fields : List Field
  primaryKey : Field
  relations : List Relation
deriving DecidableEq, Repr

namespace Model

def field? (m : Model) (name : String) : Option Field := m.fields.find? (·.name == name)

/-- The first field that is stored under a column name. -/
def fieldByColumn? (m : Model) (column : String) : Option Field :=
  m.fields.find? (·.columnName == column)

def hasField (m : Model) (name : String) : Bool := (m.field? name).isSome

def relation? (m : Model) (name : String) : Option Relation :=
  m.relations.find? (·.fieldName == name)

end Model

namespace Relation

def isMany (r : Relation) : Bool := r.kind = .many

end Relation

/-- The first name that stands among the earlier ones. -/
def firstRepeat? (earlier : List String) : List String → Option String
  | [] => none
  | name :: rest =>
    if name ∈ earlier then some name else firstRepeat? (name :: earlier) rest

namespace ColumnDecl

def field (c : ColumnDecl) : Field where
  name := c.name
  dataType := c.dataType
  columnName := c.storageName
  isPrimaryKey := c.primaryKey
  nullable := c.nullable
  hasDefault := c.hasDefault

end ColumnDecl

namespace TableDecl

/-- The model of a table. Repeated columns count before missing keys. -/
def model (t : TableDecl) (id : Nat) (name : String) : Except SchemaError Model :=
  match firstRepeat? [] (t.columns.map (·.name)) with
  | some field => .error (.duplicateField name field)
  | none =>
    let fields := t.columns.map ColumnDecl.field
    match fields.filter (·.isPrimaryKey) with
    | [primaryKey] => .ok { id, name, tableName := t.tableName, fields, primaryKey, relations := [] }
    | keys => .error (.missingPrimaryKey name t.tableName keys.length)

end TableDecl

/-- The models of named tables, numbered from a position on. -/
def extractFrom (position : Nat) : List (String × TableDecl) → Except SchemaError (List Model)
  | [] => .ok []
  | (name, table) :: rest => do
    let model ← table.model position name
    return model :: (← extractFrom (position + 1) rest)

/-- The models of tables, by ascending name. -/
def extractModels (tables : NameMap TableDecl) : Except SchemaError (List Model) :=
  extractFrom 0 tables.entries

end CrudPlan
