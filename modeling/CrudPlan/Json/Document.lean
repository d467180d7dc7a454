import CrudPlan.Data.Document
import CrudPlan.Json.Reader

namespace CrudPlan.Json

namespace Tree

def name? : Tree → Option String
  | .string parts => Json.text? parts
  | _ => none

/-- The members with their names read. -/
def named? (members : List (List StringPart × Tree)) : Option (List (String × Tree)) :=
  members.mapM fun m => return (← Json.text? m.1, m.2)

/-- A record is an object or a list of its fields in order. The name of an enumeration's member is a
string, or the only member of an object, with `null` under it. -/
instance : Document Tree where
  text? := name?
  bool?
    | .bool b => some b
    | _ => none
  choice?
    | .string parts => Json.text? parts
    | .object [(parts, .null)] => Json.text? parts
    | _ => none
  presence?
    | .null => some none
    | t => some (some t)
  items?
    | .list items => some items
    | _ => none
  members?
    | .object members => named? members
    | _ => none
  fields? names
    | .object members => do Document.selectFields? names (← named? members)
    | .list items => Document.positionalFields? names items
    | _ => none

end Tree

instance : Document Json where
  text?
    | .str s => some s
    | _ => none
  bool?
    | .bool b => some b
    | _ => none
  choice?
    | .str s => some s
    | .obj [(name, .null)] => some name
    | _ => none
  presence?
    | .null => some none
    | v => some (some v)
  items?
    | .arr items => some items
    | _ => none
  members?
    | .obj members => some members
    | _ => none
  fields? names
    | .obj members => Document.selectFields? names members
    | .arr items => Document.positionalFields? names items
    | _ => none

end CrudPlan.Json
