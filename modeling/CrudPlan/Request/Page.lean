import CrudPlan.Json.Document
import CrudPlan.Request.Error

namespace CrudPlan

/-- A sum that stops at the largest number of 64 bits. -/
def saturatingAdd (a b : UInt64) : UInt64 :=
  if a.toNat + b.toNat < UInt64.size then a + b else .ofNat (UInt64.size - 1)

theorem toNat_saturatingAdd (a b : UInt64) :
    (saturatingAdd a b).toNat = min (a.toNat + b.toNat) (UInt64.size - 1) := by
  unfold saturatingAdd UInt64.size
  split
  · next h => rw [UInt64.toNat_add]; omega
  · simp; omega

structure Args where
  limit : Option UInt64 := none
  offset : Option UInt64 := none
  filter : Option Json := none

namespace Args

def isEmpty (a : Args) : Bool := a.limit.isNone && a.offset.isNone && a.filter.isNone

/-- The arguments that are present. -/
def members (a : Args) : List (String × Json) :=
  Json.optional "filter" id a.filter ++ Json.optional "limit" Json.ofUInt64 a.limit ++
    Json.optional "offset" Json.ofUInt64 a.offset

def toJson (a : Args) : Json := .obj a.members

/-- Arguments from a record; a null argument is absent. -/
def ofJson? (v : Json) : Option Args := do
  let fields ← Document.fields? ["limit", "offset", "filter"] v
  return {
    limit := ← Document.orElse? fields "limit" (Document.optional? Json.toUInt64?) none
    offset := ← Document.orElse? fields "offset" (Document.optional? Json.toUInt64?) none
    filter := ← Document.orElse? fields "filter"
      (Document.optional? fun v => some v.canonical) none }

/-- A count among given arguments; null counts as absent. -/
def count (source : Entries Json) (argument : String) : Except PlanError (Option UInt64) :=
  match source.lookup argument with
  | none | some .null => .ok none
  | some value =>
    match value.toUInt64? with
    | some n => .ok (some n)
    | none => .error (.invalidArgument argument (.notCount value))

/-- The arguments in a list of named values without repetitions. -/
def ofSource (source : Entries Json) : Except PlanError Args := do
  let limit ← count source "limit"
  let offset ← count source "offset"
  return { limit, offset, filter := (source.lookup "filter").filter (!·.isNull) }

/-- The arguments given by pairs, the last pair of a name deciding. An object under `input` holds
all arguments, and the other pairs do not count then. -/
def ofPairs (pairs : List (String × Json)) : Except PlanError Args :=
  let source := Entries.sort pairs
  match source.lookup "input" with
  | some (.obj input) => ofSource input
  | some .null | none => ofSource source
  | some other => .error (.invalidArgument "input" (.notObject other))

end Args

structure PageInfo where
  offset : UInt64
  limit : Option UInt64
  total : UInt64
deriving DecidableEq

namespace PageInfo

def ofArgs (args : Args) (total : UInt64) : PageInfo := ⟨args.offset.getD 0, args.limit, total⟩

/-- Whether rows lie behind the page. -/
def hasMore (p : PageInfo) : Bool :=
  match p.limit with
  | none => false
  | some limit => saturatingAdd p.offset limit < p.total

def toJson (p : PageInfo) : Json :=
  .obj [("limit", .ofOption .ofUInt64 p.limit), ("offset", .ofUInt64 p.offset),
    ("total", .ofUInt64 p.total)]

end PageInfo

end CrudPlan
