import CrudPlan.Request.Page

namespace CrudPlan

/-- One level of a request. The names of children ascend, and each occurs once. -/
structure Selection where
  args : Args := {}
  children : List (String × Selection) := []

namespace Selection

/-- Selects a field or a relation; an earlier child of that name gives way. -/
def addChild (s : Selection) (name : String) (child : Selection) : Selection :=
  { s with children := Entries.insert name child s.children }

def addField (s : Selection) (name : String) : Selection := s.addChild name {}

def withArgs (s : Selection) (args : Args) : Selection := { s with args }

def withLimit (s : Selection) (limit : UInt64) : Selection :=
  { s with args := { s.args with limit := some limit } }

def withOffset (s : Selection) (offset : UInt64) : Selection :=
  { s with args := { s.args with offset := some offset } }

def withFilter (s : Selection) (filter : Json) : Selection :=
  { s with args := { s.args with filter := some filter } }

/-- A selection as JSON, without empty arguments and without an empty list of children. -/
def toJson : Selection → Json
  | ⟨args, children⟩ =>
    let fields := childrenToJson children
    .obj ((if args.isEmpty then [] else [("args", args.toJson)]) ++
      (if fields.isEmpty then [] else [("children", .obj fields)]))
where
  childrenToJson : List (String × Selection) → List (String × Json)
    | [] => []
    | (name, child) :: rest => (name, child.toJson) :: childrenToJson rest

/-- The first member that holds arguments. -/
def argsAmong? (members : List (String × Json)) : Option Args :=
  match members.lookup "args" with
  | none => some {}
  | some v => Args.ofJson? v

/-- A selection from a record. -/
def ofJson? : Json → Option Selection
  | .obj members => do
    let _ ← Document.selectFields? ["args", "children"] members
    return ⟨← argsAmong? members, ← childrenAmong? members⟩
  | .arr [] => some {}
  | .arr [args] => do return ⟨← Args.ofJson? args, []⟩
  | .arr [args, .obj children] => do
    return ⟨← Args.ofJson? args, Entries.sort (← named? children)⟩
  | _ => none
where
  /-- The children in the first member that holds any. -/
  childrenAmong? : List (String × Json) → Option (List (String × Selection))
    | [] => some []
    | (name, .obj children) :: rest =>
      if name = "children" then do return Entries.sort (← named? children)
      else childrenAmong? rest
    | (name, _) :: rest => if name = "children" then none else childrenAmong? rest
  named? : List (String × Json) → Option (List (String × Selection))
    | [] => some []
    | (name, v) :: rest => do return (name, ← ofJson? v) :: (← named? rest)

end Selection

structure RequestFile where
  key : Option Json
  selection : Selection

namespace RequestFile

/-- A request from an object; a null key is none. -/
def ofJson? : Json → Option RequestFile
  | .obj members => do
    let fields ← Document.selectFields? ["key", "args", "children"] members
    let key := (fields.lookup "key").filter (!·.isNull)
    return ⟨key.map Json.canonical, ← Selection.ofJson? (.obj fields)⟩
  | _ => none

def parse? (text : String) : Option RequestFile := do ofJson? (← Json.parseWritten? text)

end RequestFile

end CrudPlan
