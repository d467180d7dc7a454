import CrudPlan.Schema.Model

namespace CrudPlan

/-- A model by its name, or else by the name of its table. -/
def findModel? (models : List Model) (name : String) : Option Model :=
  (models.find? (·.name == name)).or (models.find? (·.tableName == name))

/-- The declarations of one model's relations, from all keys that name the model. -/
abbrev OwnDecls := NameMap RelationDecl

/-- Adds declarations of a model to those it has; a name that is taken already is an error. -/
def addDecls (owner : Model) (own : OwnDecls) :
    List (String × RelationDecl) → Except SchemaError OwnDecls
  | [] => .ok own
  | (field, decl) :: rest =>
    if owner.hasField field || own.contains field then .error (.duplicateField owner.name field)
    else addDecls owner (own.insert field decl) rest

/-- What is gathered for one model so far. -/
def declsOf (gathered : List OwnDecls) (m : Model) : OwnDecls := gathered[m.id]?.getD .empty

/-- The declarations of each model, in the order of the models. -/
def gatherDecls (models : List Model) (gathered : List OwnDecls) :
    List (String × OwnDecls) → Except SchemaError (List OwnDecls)
  | [] => .ok gathered
  | (key, decls) :: rest =>
    match findModel? models key with
    | none => .error (.unknownModel key .declarationKey)
    | some owner => do
      let own ← addDecls owner (declsOf gathered owner) decls.entries
      gatherDecls models (gathered.set owner.id own) rest

/-- A column of the declaring table and the column of the other table that it joins with. -/
structure JoinColumns where
  field : String
  reference : String
deriving DecidableEq, Repr

namespace JoinColumns

def swap (j : JoinColumns) : JoinColumns := ⟨j.reference, j.field⟩

end JoinColumns

namespace RelationDecl

/-- The join columns that a declaration gives, if any; it may give one pair. -/
def joinColumns? (d : RelationDecl) (model name : String) :
    Except SchemaError (Option JoinColumns) :=
  match d.fields, d.references with
  | [], [] => .ok none
  | [field], [reference] => .ok (some ⟨field, reference⟩)
  | fields, references =>
    if fields.length = references.length then .error (.compositeJoin model name)
    else .error (.unresolvable model name (.uneven fields.length references.length))

/-- Both declarations carry a relation name, and it is the same. -/
def sharesName (d e : RelationDecl) : Bool :=
  match d.relationName, e.relationName with
  | some ours, some theirs => ours == theirs
  | _, _ => false

end RelationDecl

/-- The declarations of a foreign model that refer back to the owner of a relation, except that
relation itself. -/
def backReferences (models : List Model) (owner foreign : Model) (name : String)
    (decls : OwnDecls) : List (String × RelationDecl) :=
  decls.entries.filter fun e =>
    !(foreign.id == owner.id && e.1 == name) &&
      (findModel? models e.2.table).any (·.id == owner.id)

/-- Where several declarations refer back, only those that share the relation's name remain. -/
def narrow (decl : RelationDecl) (candidates : List (String × RelationDecl)) :
    List (String × RelationDecl) :=
  if candidates.length ≤ 1 then candidates else candidates.filter fun e => decl.sharesName e.2

/-- The one declaration of the other direction. -/
def findInverse (models : List Model) (owner foreign : Model) (name : String)
    (decl : RelationDecl) (decls : OwnDecls) : Except JoinProblem (String × RelationDecl) :=
  if decls.isEmpty then .error (.noRelations foreign.name)
  else
    let candidates := backReferences models owner foreign name decls
    match narrow decl candidates with
    | [inverse] => .ok inverse
    | [] =>
      if candidates.isEmpty then .error (.noCandidate foreign.name owner.name)
      else
        .error (.noSharedName candidates.length foreign.name owner.name decl.relationName)
    | several => .error (.ambiguous (several.map (·.1)) foreign.name)

/-- The join columns of a relation as seen from its owner. -/
def findJoin (models : List Model) (gathered : List OwnDecls) (owner foreign : Model)
    (name : String) (decl : RelationDecl) : Except SchemaError JoinColumns := do
  match ← decl.joinColumns? owner.name name with
  | some columns => return columns
  | none =>
    match findInverse models owner foreign name decl (declsOf gathered foreign) with
    | .error problem => .error (.unresolvable owner.name name problem)
    | .ok (inverse, inverseDecl) =>
      match ← inverseDecl.joinColumns? foreign.name inverse with
      | some columns => return columns.swap
      | none =>
        .error (.unresolvable owner.name name (.inverseWithoutJoin foreign.name inverse))

/-- The name of the field that is stored in a column of a table. -/
def joinField (owner table : Model) (relation column : String) : Except SchemaError String :=
  match table.fieldByColumn? column with
  | some field => .ok field.name
  | none => .error (.unknownJoinColumn owner.name relation table.tableName column)

def resolveDecl (models : List Model) (gathered : List OwnDecls) (owner : Model) (name : String)
    (decl : RelationDecl) : Except SchemaError Relation :=
  match findModel? models decl.table with
  | none => .error (.unknownModel decl.table (.relation owner.name name))
  | some foreign => do
    let columns ← findJoin models gathered owner foreign name decl
    let localField ← joinField owner owner name columns.field
    let foreignField ← joinField owner foreign name columns.reference
    return {
      owner := owner.id
      fieldName := name
      foreignModel := foreign.id
      kind := decl.kind
      nullable := decl.kind = .one && decl.optional
      localField
      foreignField }

/-- The relations of all models, those of one model by ascending name. -/
def resolveRelations (models : List Model) (declarations : NameMap OwnDecls) :
    Except SchemaError (List Relation) := do
  let gathered ← gatherDecls models (models.map fun _ => .empty) declarations.entries
  let relations ← (models.zip gathered).mapM fun (owner, decls) =>
    decls.entries.mapM fun e => resolveDecl models gathered owner e.1 e.2
  return relations.flatten

/-- Adds each relation behind those that its owner has. -/
def attachRelations (relations : List Relation) (models : List Model) : List Model :=
  models.map fun m => { m with relations := m.relations ++ relations.filter (·.owner == m.id) }

/-- Resolves declarations on models in place. The models keep the relations that they have, and
gain none unless every declaration resolves. -/
def resolveInPlace (declarations : NameMap OwnDecls) :
    ExceptT SchemaError (StateM (List Model)) Unit := do
  match resolveRelations (← get) declarations with
  | .error e => throw e
  | .ok relations => modify (attachRelations relations)

structure Registry where
  models : List Model
deriving DecidableEq, Repr

namespace Registry

/-- The registry of a declaration in which every table and every relation is in order. -/
def build (d : Declaration) : Except SchemaError Registry := do
  let models ← extractModels d.tables
  let relations ← resolveRelations models d.relations
  return ⟨attachRelations relations models⟩

def get? (r : Registry) (name : String) : Option Model := r.models.find? (·.name == name)

def getByTable? (r : Registry) (tableName : String) : Option Model :=
  r.models.find? (·.tableName == tableName)

def model? (r : Registry) (id : Nat) : Option Model := r.models[id]?

def size (r : Registry) : Nat := r.models.length

/-- The model that a relation leads to. -/
def foreignModel? (r : Registry) (relation : Relation) : Option Model :=
  r.model? relation.foreignModel

/-- The fields that a relation joins, the owner's one first. -/
def joinFields? (r : Registry) (relation : Relation) : Option (Field × Field) := do
  let ownField ← (← r.model? relation.owner).field? relation.localField
  let foreignField ← (← r.foreignModel? relation).field? relation.foreignField
  return (ownField, foreignField)

end Registry

end CrudPlan
