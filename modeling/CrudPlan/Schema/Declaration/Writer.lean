import CrudPlan.Data.Document
import CrudPlan.Json.Value
import CrudPlan.Schema.Declaration

namespace CrudPlan

def NameMap.toJson {α : Type} (f : α → Json) (m : NameMap α) : Json :=
  .obj (m.mapValues f).entries

def DataType.toJson (t : DataType) : Json := .str t.name

def RelationKind.toJson (k : RelationKind) : Json := .str k.name

def ColumnDecl.toJson (c : ColumnDecl) : Json :=
  .obj (Json.optional "columnName" Json.str c.columnName ++
    [("hasDefault", .bool c.hasDefault), ("name", .str c.name), ("nullable", .bool c.nullable),
      ("primaryKey", .bool c.primaryKey), ("type", c.dataType.toJson)])

def TableDecl.toJson (t : TableDecl) : Json :=
  .obj [("columns", .arr (t.columns.map ColumnDecl.toJson)), ("tableName", .str t.tableName)]

/-- A list of texts that is left out if it is empty. -/
def Json.textList (name : String) (texts : List String) : List (String × Json) :=
  if texts.isEmpty then [] else [(name, .arr (texts.map Json.str))]

/-- Names and lists that are absent or empty are left out, truth values never are. -/
def RelationDecl.toJson (r : RelationDecl) : Json :=
  .obj (Json.textList "fields" r.fields ++
    [("kind", r.kind.toJson), ("optional", .bool r.optional)] ++
    Json.textList "references" r.references ++
    Json.optional "relationName" Json.str r.relationName ++
    [("table", .str r.table)])

def Declaration.toJson (d : Declaration) : Json :=
  .obj [("relations", d.relations.toJson (NameMap.toJson RelationDecl.toJson)),
    ("tables", d.tables.toJson TableDecl.toJson)]

open Document

variable {δ : Type} [Document δ]

def DataType.read? (d : δ) : Option DataType := do DataType.ofName? (← choice? d)

def RelationKind.read? (d : δ) : Option RelationKind := do RelationKind.ofName? (← choice? d)

def ColumnDecl.read? (d : δ) : Option ColumnDecl := do
  let fields ← fields? ["name", "type", "columnName", "primaryKey", "nullable", "hasDefault"] d
  return {
    name := ← required? fields "name" text?
    dataType := ← required? fields "type" DataType.read?
    columnName := ← orElse? fields "columnName" (optional? text?) none
    primaryKey := ← orElse? fields "primaryKey" bool? false
    nullable := ← orElse? fields "nullable" bool? false
    hasDefault := ← orElse? fields "hasDefault" bool? false }

def TableDecl.read? (d : δ) : Option TableDecl := do
  let fields ← fields? ["tableName", "columns"] d
  return {
    tableName := ← required? fields "tableName" text?
    columns := ← required? fields "columns" (list? ColumnDecl.read?) }

def RelationDecl.read? (d : δ) : Option RelationDecl := do
  let fields ← fields?
    ["kind", "table", "fields", "references", "relationName", "optional"] d
  return {
    kind := ← required? fields "kind" RelationKind.read?
    table := ← required? fields "table" text?
    fields := ← orElse? fields "fields" (list? text?) []
    references := ← orElse? fields "references" (list? text?) []
    relationName := ← orElse? fields "relationName" (optional? text?) none
    optional := ← orElse? fields "optional" bool? false }

def Declaration.read? (d : δ) : Option Declaration := do
  let fields ← fields? ["tables", "relations"] d
  return {
    tables := ← orElse? fields "tables" (map? TableDecl.read?) .empty
    relations := ← orElse? fields "relations" (map? (map? RelationDecl.read?)) .empty }

end CrudPlan
