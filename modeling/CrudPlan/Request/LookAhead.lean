import CrudPlan.Request.Selection

namespace CrudPlan

/-- An argument as written in a query. -/
inductive Literal
  | null
  | bool (b : Bool)
  | num (n : Json.Number)
  | str (s : String)
  | enum (name : String)
  | list (items : List Literal)
  | object (members : List (String × Literal))
  | variable (name : String)
deriving Inhabited

/-- The variables that a query declares, with their default values, and the values supplied. -/
structure Variables where
  declared : List (String × Option Json) := []
  supplied : List (String × Json) := []

namespace Variables

/-- The value of a declared variable: the supplied one, or else its default, or else null. -/
def value? (vs : Variables) (name : String) : Option Json := do
  let default ← vs.declared.lookup name
  return ((vs.supplied.lookup name).or default).getD .null

end Variables

namespace Literal

/-- The value of an argument, or the first variable in it that is not declared. -/
def value (vs : Variables) : Literal → Except String Json
  | .null => .ok .null
  | .bool b => .ok (.bool b)
  | .num n => .ok (.num n)
  | .str s => .ok (.str s)
  | .enum name => .ok (.str name)
  | .list items => do return .arr (← itemValues items)
  | .object members => do return .obj (Entries.sort (← memberValues members))
  | .variable name =>
    match vs.value? name with
    | some v => .ok v
    | none => .error name
where
  itemValues : List Literal → Except String (List Json)
    | [] => .ok []
    | item :: rest => do return (← value vs item) :: (← itemValues rest)
  memberValues : List (String × Literal) → Except String (List (String × Json))
    | [] => .ok []
    | (name, item) :: rest => do return (name, ← value vs item) :: (← memberValues rest)

end Literal

/-- A field of a query with its arguments and the fields below it. -/
structure QueryField where
  name : String
  args : List (String × Literal)
  children : List QueryField

/-- An entry of a selection set as written. -/
inductive QueryEntry
  | field (name : String) (args : List (String × Literal)) (children : List QueryEntry)
  | inline (children : List QueryEntry)
  | spread (fragment : String)
deriving Inhabited

/-- Fragments of a query under their names. -/
abbrev Fragments := List (String × List QueryEntry)

namespace Fragments

/-- The fragments of all other names. -/
def without (fs : Fragments) (name : String) : Fragments := fs.filter fun f => f.1 != name

theorem length_without_lt {fs : Fragments} {name : String} {f : String × List QueryEntry}
    (h : fs.find? (fun f => f.1 == name) = some f) : (fs.without name).length < fs.length := by
  have hname := List.find?_some h
  exact List.length_filter_lt_length_iff_exists.2
    ⟨f, List.mem_of_find?_eq_some h, by simpa using hname⟩

end Fragments

namespace QueryEntry

/-- The fields of a selection set, those of fragments in place of their uses. An unknown fragment
has none, and no fragment is part of itself. -/
def fields (fragments : Fragments) : List QueryEntry → List QueryField
  | [] => []
  | .field name args children :: rest =>
    ⟨name, args, fields fragments children⟩ :: fields fragments rest
  | .inline children :: rest => fields fragments children ++ fields fragments rest
  | .spread name :: rest =>
    (match _h : fragments.find? (fun f => f.1 == name) with
      | none => []
      | some (_, body) => fields (fragments.without name) body) ++
      fields fragments rest
termination_by entries => (fragments.length, sizeOf entries)
decreasing_by
  · right; simp only [List.cons.sizeOf_spec, QueryEntry.field.sizeOf_spec]; omega
  · right; simp only [List.cons.sizeOf_spec, QueryEntry.field.sizeOf_spec]; omega
  · right; simp only [List.cons.sizeOf_spec, QueryEntry.inline.sizeOf_spec]; omega
  · right; simp only [List.cons.sizeOf_spec, QueryEntry.inline.sizeOf_spec]; omega
  · left; exact Fragments.length_without_lt _h
  · right; simp only [List.cons.sizeOf_spec, QueryEntry.spread.sizeOf_spec]; omega

end QueryEntry

namespace Selection

/-- The selection below a field, with the field's arguments at its root. Of several children of one
name the last one counts, but the arguments of all of them have to be in order. -/
def ofField (vs : Variables) : QueryField → Except PlanError Selection
  | ⟨name, args, children⟩ => do
    let pairs ← (Literal.value.memberValues vs args).mapError fun x =>
      .invalidArgument name (.undefinedVariable x)
    let args ← Args.ofPairs pairs
    let children ← named children
    return { args, children := Entries.sort children }
where
  named : List QueryField → Except PlanError (List (String × Selection))
    | [] => .ok []
    | ⟨name, args, children⟩ :: rest => do
      let child ← ofField vs ⟨name, args, children⟩
      return (name, child) :: (← named rest)

end Selection

end CrudPlan
