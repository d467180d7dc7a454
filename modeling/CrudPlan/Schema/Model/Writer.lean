import CrudPlan.Schema.Declaration.Writer
import CrudPlan.Schema.Registry
import CrudPlan.Service.Operation

namespace CrudPlan

def Field.toJson (f : Field) : Json :=
  .obj [("columnName", .str f.columnName), ("dataType", f.dataType.toJson),
    ("hasDefault", .bool f.hasDefault), ("isPrimaryKey", .bool f.isPrimaryKey),
    ("name", .str f.name), ("nullable", .bool f.nullable)]

def Relation.toJson (r : Relation) : Json :=
  .obj [("fieldName", .str r.fieldName), ("foreignField", .str r.foreignField),
    ("foreignModel", .ofNat r.foreignModel), ("kind", r.kind.toJson),
    ("localField", .str r.localField), ("nullable", .bool r.nullable), ("owner", .ofNat r.owner)]

def Model.toJson (m : Model) : Json :=
  .obj [("fields", .arr (m.fields.map Field.toJson)), ("id", .ofNat m.id), ("name", .str m.name),
    ("relations", .arr (m.relations.map Relation.toJson)), ("tableName", .str m.tableName)]

def Field.description (f : Field) : Json :=
  .obj [("column", .str f.columnName), ("filter", .str f.dataType.filterInput),
    ("graphql", .str f.dataType.scalar.name), ("name", .str f.name),
    ("nullable", .bool f.nullable), ("primaryKey", .bool f.isPrimaryKey),
    ("type", .str f.dataType.name)]

namespace Registry

def relationDescription (r : Registry) (relation : Relation) : Json :=
  .obj [("foreignField", .str relation.foreignField), ("kind", relation.kind.toJson),
    ("localField", .str relation.localField),
    ("model", .ofOption (fun m : Model => .str m.name) (r.foreignModel? relation)),
    ("name", .str relation.fieldName), ("nullable", .bool relation.nullable)]

def modelDescription (r : Registry) (m : Model) : Json :=
  .obj [("fields", .arr (m.fields.map Field.description)), ("name", .str m.name),
    ("operations", .arr (OperationKind.all.map fun k => .str (k.operationName m.name))),
    ("outputType", .str (OperationKind.getMany.typeName m.name "OutputType")),
    ("relations", .arr (m.relations.map r.relationDescription)), ("table", .str m.tableName)]

/-- The description of all models. -/
def description (r : Registry) : Json := .obj [("models", .arr (r.models.map r.modelDescription))]

end Registry

end CrudPlan
