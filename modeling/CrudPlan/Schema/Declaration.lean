import CrudPlan.Data.NameMap

namespace CrudPlan

inductive DataType
  | integer
  | text
  | timestamp
  | number
  | boolean
  | serial
  | string
  | bigint
  | json
deriving DecidableEq, Repr

/-- What a column looks like to a client. -/
inductive Scalar
  | int
  | string
  | boolean
deriving DecidableEq, Repr

namespace Scalar

def name : Scalar → String
  | .int => "Int"
  | .string => "String"
  | .boolean => "Boolean"

/-- The input type that filters on such columns take. -/
def filterInput : Scalar → String
  | .int => "IntFilter"
  | .string => "StringFilter"
  | .boolean => "BooleanFilter"

end Scalar

namespace DataType

def all : List DataType :=
  [.integer, .text, .timestamp, .number, .boolean, .serial, .string, .bigint, .json]

def name : DataType → String
  | .integer => "integer"
  | .text => "text"
  | .timestamp => "timestamp"
  | .number => "number"
  | .boolean => "boolean"
  | .serial => "serial"
  | .string => "string"
  | .bigint => "bigint"
  | .json => "json"

def ofName? (s : String) : Option DataType := all.find? (·.name == s)

/-- Timestamps and documents travel as strings. -/
def scalar : DataType → Scalar
  | .integer | .number | .serial | .bigint => .int
  | .boolean => .boolean
  | .text | .timestamp | .string | .json => .string

def filterInput (t : DataType) : String := t.scalar.filterInput

theorem ofName?_name (t : DataType) : ofName? t.name = some t := by
  cases t <;> decide

end DataType

/-- How many rows a relation leads to from one row of its owner. -/
inductive RelationKind
  | one
  | many
deriving DecidableEq, Repr

namespace RelationKind

def name : RelationKind → String
  | .one => "one"
  | .many => "many"

def ofName? (s : String) : Option RelationKind := [one, many].find? (·.name == s)

theorem ofName?_name (k : RelationKind) : ofName? k.name = some k := by
  cases k <;> decide

end RelationKind

structure ColumnDecl where
  name : String
  dataType : DataType
  columnName : Option String := none
  primaryKey : Bool := false
  nullable : Bool := false
  hasDefault : Bool := false
deriving DecidableEq, Repr

namespace ColumnDecl

/-- The column's name in storage: its own one unless another is declared. -/
def storageName (c : ColumnDecl) : String := c.columnName.getD c.name

end ColumnDecl

structure TableDecl where
  tableName : String
  columns : List ColumnDecl
deriving DecidableEq, Repr

/-- A relation of a model. `fields` are columns of its own table and `references` the matching
columns of the other one; both are empty where the other side declares the join. -/
structure RelationDecl where
  kind : RelationKind
  /-- The other model, by its name or by the name of its table. -/
  table : String
  fields : List String := []
  references : List String := []
  /-- A name shared with the declaration of the other direction. -/
  relationName : Option String := none
  optional : Bool := false
deriving DecidableEq, Repr

namespace RelationDecl

/-- Adds a column of the own table that refers to a column of the other one. -/
def join (r : RelationDecl) (field reference : String) : RelationDecl :=
  { r with fields := r.fields ++ [field], references := r.references ++ [reference] }

def hasJoinColumns (r : RelationDecl) : Bool := !r.fields.isEmpty || !r.references.isEmpty

end RelationDecl

/-- Tables and relations of one schema. -/
structure Declaration where
  tables : NameMap TableDecl := .empty
  relations : NameMap (NameMap RelationDecl) := .empty
deriving DecidableEq

namespace Declaration

def addTable (d : Declaration) (model : String) (table : TableDecl) : Declaration :=
  { d with tables := d.tables.insert model table }

def addRelation (d : Declaration) (model field : String) (relation : RelationDecl) : Declaration :=
  let own := (d.relations.get? model).getD .empty
  { d with relations := d.relations.insert model (own.insert field relation) }

end Declaration

end CrudPlan
