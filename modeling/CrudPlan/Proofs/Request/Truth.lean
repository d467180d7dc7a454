import CrudPlan.Request.Filter
import Mathlib.Data.List.Forall2

namespace CrudPlan

inductive Truth
  | no
  | unknown
  | yes
deriving DecidableEq, Repr

namespace Truth

def ofBool (b : Bool) : Truth := if b then yes else no

def not : Truth → Truth
  | no => yes
  | unknown => unknown
  | yes => no

def and : Truth → Truth → Truth
  | no, _ => no
  | _, no => no
  | yes, yes => yes
  | _, _ => unknown

def or : Truth → Truth → Truth
  | yes, _ => yes
  | _, yes => yes
  | no, no => no
  | _, _ => unknown

def all (ts : List Truth) : Truth := ts.foldr and yes

def any (ts : List Truth) : Truth := ts.foldr or no

@[simp]
theorem all_singleton (t : Truth) : all [t] = t := by
  cases t <;> rfl

@[simp]
theorem any_singleton (t : Truth) : any [t] = t := by
  cases t <;> rfl

theorem and_eq_yes_iff {t u : Truth} : t.and u = yes ↔ t = yes ∧ u = yes := by
  cases t <;> cases u <;> decide

theorem or_eq_yes_iff {t u : Truth} : t.or u = yes ↔ t = yes ∨ u = yes := by
  cases t <;> cases u <;> decide

theorem any_eq_yes_iff {ts : List Truth} : any ts = yes ↔ yes ∈ ts := by
  induction ts with
  | nil => simp [any]
  | cons t ts ih =>
    rw [List.mem_cons, ← ih, eq_comm (a := yes)]
    exact or_eq_yes_iff

end Truth

structure Leaf where
  field : String
  operator : Operator
  operand : Json

namespace Predicate

def leaves : Predicate → List Leaf
  | .compare field operator operand => [⟨field, operator, operand⟩]
  | .and children => leavesOfAll children
  | .or children => leavesOfAll children
  | .not child => child.leaves
where
  leavesOfAll : List Predicate → List Leaf
    | [] => []
    | p :: rest => p.leaves ++ leavesOfAll rest

/-- What a predicate says, where `v` gives the value of each test and its first test has number
`n`. -/
def value (v : Nat → Leaf → Truth) (n : Nat) : Predicate → Truth
  | .compare field operator operand => v n ⟨field, operator, operand⟩
  | .and children => .all (values v n children)
  | .or children => .any (values v n children)
  | .not child => (value v n child).not
where
  values (v : Nat → Leaf → Truth) (n : Nat) : List Predicate → List Truth
    | [] => []
    | p :: rest => value v n p :: values v (n + p.leaves.length) rest

@[elab_as_elim]
theorem induction {motive : Predicate → Prop}
    (compare : ∀ field operator operand, motive (.compare field operator operand))
    (and : ∀ children, (∀ c ∈ children, motive c) → motive (.and children))
    (or : ∀ children, (∀ c ∈ children, motive c) → motive (.or children))
    (not : ∀ child, motive child → motive (.not child)) (p : Predicate) : motive p :=
  @Predicate.rec motive (fun children => ∀ c ∈ children, motive c) compare and or not
    (List.forall_mem_nil _) (fun _ _ h ih => List.forall_mem_cons.2 ⟨h, ih⟩) p

end Predicate

inductive Reading
  | leaf (l : Leaf)
  | all (parts : List Reading)
  | any (parts : List Reading)
  | not (part : Reading)

namespace Reading

def leaves : Reading → List Leaf
  | .leaf l => [l]
  | .all parts => leavesOfAll parts
  | .any parts => leavesOfAll parts
  | .not part => part.leaves
where
  leavesOfAll : List Reading → List Leaf
    | [] => []
    | r :: rest => r.leaves ++ leavesOfAll rest

/-- What a reading says, where `v` gives the value of each operator and its first one has number
`n`. -/
def value (v : Nat → Leaf → Truth) (n : Nat) : Reading → Truth
  | .leaf l => v n l
  | .all parts => .all (values v n parts)
  | .any parts => .any (values v n parts)
  | .not part => (value v n part).not
where
  /-- The values of the parts that say anything. -/
  values (v : Nat → Leaf → Truth) (n : Nat) : List Reading → List Truth
    | [] => []
    | r :: rest =>
      if r.leaves.isEmpty then values v n rest
      else value v n r :: values v (n + r.leaves.length) rest

end Reading

namespace Filter

def readOperation (field name : String) (operand : Json) : Reading :=
  match Operator.ofName? name with
  | none => .all []
  | some operator => if operand.isNull then .all [] else .leaf ⟨field, operator, operand⟩

def readField (field : String) : Json → Reading
  | .obj operations =>
    .all ((Entries.sort (operations.map fun e => (e.1, readOperation field e.1 e.2))).map (·.2))
  | _ => .all []

/-- The reading of a filter: the conjunction of its members by name. -/
def reading : Json → Reading
  | .obj members => .all ((Entries.sort (memberReadings members)).map (·.2))
  | _ => .all []
where
  memberReadings : List (String × Json) → List (String × Reading)
    | [] => []
    | (key, value) :: rest =>
      let part :=
        if key = "and" then .all (itemReadings value)
        else if key = "or" then .any (itemReadings value)
        else if key = "not" then .not (reading value)
        else readField key value
      (key, part) :: memberReadings rest
  /-- The readings of the filters under `and` or `or`; a single object counts as one. -/
  itemReadings : Json → List Reading
    | .arr items => listReadings items
    | .obj members => [.all ((Entries.sort (memberReadings members)).map (·.2))]
    | _ => []
  listReadings : List Json → List Reading
    | [] => []
    | item :: rest => reading item :: listReadings rest

end Filter

end CrudPlan
