import CrudPlan.Json.Document
import CrudPlan.Schema.Declaration.Writer
import CrudPlan.Yaml.Document

namespace CrudPlan

inductive SchemaFormat
  | json
  | yaml
deriving DecidableEq, Repr

namespace SchemaFormat

def title : SchemaFormat → String
  | .json => "JSON"
  | .yaml => "YAML"

/-- The parts of a path between slashes, those that lead nowhere left out. -/
def pathParts (path : List Char) : List (List Char) :=
  (path.splitOn '/').filter fun part => part ≠ [] ∧ part ≠ ['.']

/-- The ending of a name behind its last dot. A dot at the start of a name begins no ending. -/
def ending? (name : List Char) : Option (List Char) :=
  let (reversed, rest) := name.reverse.span (· ≠ '.')
  match rest with
  | [] | ['.'] => none
  | _ => some reversed.reverse

def ofPath (path : String) : SchemaFormat :=
  match (pathParts path.toList).getLast?.bind ending? with
  | some ending => if ending.map Char.toLower = "json".toList then .json else .yaml
  | none => .yaml

end SchemaFormat

/-- Why a schema file cannot be used. -/
inductive SchemaFileError
  | unreadable (path : String)
  | invalid (format : SchemaFormat) (path : String)
deriving DecidableEq, Repr

namespace SchemaFileError

def message : SchemaFileError → String
  | .unreadable path => s!"Failed to read schema file {path}"
  | .invalid format path => s!"Invalid {format.title} schema in {path}"

end SchemaFileError

namespace Declaration

/-- The declaration in a text of the given format. -/
def parse? (format : SchemaFormat) (text : String) : Option Declaration := do
  match format with
  | .json => Declaration.read? (← Json.Tree.parse? text)
  | .yaml => Declaration.read? (← Yaml.NodeRef.parse? text)

/-- The declaration in the file at a path, whose text is given if the file can be read. -/
def ofFile (path : String) : Option String → Except SchemaFileError Declaration
  | none => .error (.unreadable path)
  | some text =>
    match Declaration.parse? (.ofPath path) text with
    | some d => .ok d
    | none => .error (.invalid (.ofPath path) path)

end Declaration

end CrudPlan
