import CrudPlan.Data.NameMap

namespace CrudPlan

/-- The questions that a reader may ask of a value in a document. An answer is none where the value
is not of the wanted kind. -/
class Document (δ : Type) where
  text? : δ → Option String
  bool? : δ → Option Bool
  /-- The name of an enumeration's member. -/
  choice? : δ → Option String
  /-- Whether there is a value at all, where it may be absent. -/
  presence? : δ → Option (Option δ)
  items? : δ → Option (List δ)
  /-- The members of a map, as written. -/
  members? : δ → Option (List (String × δ))
  /-- The fields of a record with the given field names; other fields are dropped, and a field
  that occurs twice makes it no record. -/
  fields? : List String → δ → Option (List (String × δ))

namespace Document

variable {δ : Type} [Document δ] {α : Type}

/-- All names differ. -/
def distinctNames {β : Type} : List (String × β) → Bool
  | [] => true
  | (name, _) :: rest => (rest.lookup name).isNone && distinctNames rest

/-- The named fields among members, if none of them is repeated. -/
def selectFields? {β : Type} (names : List String) (members : List (String × β)) :
    Option (List (String × β)) :=
  let fields := members.filter fun m => names.contains m.1
  if distinctNames fields then some fields else none

/-- A record given as a list: its fields in the order of their names, the last ones left out. -/
def positionalFields? {β : Type} (names : List String) (items : List β) :
    Option (List (String × β)) :=
  if items.length ≤ names.length then some (names.zip items) else none

def list? (read : δ → Option α) (d : δ) : Option (List α) := do (← items? d).mapM read

/-- A map; of several members of one name, all of which have to be readable, the last counts. -/
def map? (read : δ → Option α) (d : δ) : Option (NameMap α) := do
  let entries ← (← members? d).mapM fun m => return (m.1, ← read m.2)
  return .ofList entries

def optional? (read : δ → Option α) (d : δ) : Option (Option α) := do
  match ← presence? d with
  | none => return none
  | some d => return some (← read d)

/-- A field that has to be there. -/
def required? (fields : List (String × δ)) (name : String) (read : δ → Option α) : Option α := do
  read (← fields.lookup name)

/-- A field that may be left out, with the value it has then. -/
def orElse? (fields : List (String × δ)) (name : String) (read : δ → Option α) (value : α) :
    Option α :=
  match fields.lookup name with
  | none => some value
  | some d => read d

end Document

end CrudPlan
