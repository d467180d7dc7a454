namespace CrudPlan.Sql

inductive Comparison
  | equal
  | unequal
  | less
  | lessOrEqual
  | greater
  | greaterOrEqual
deriving DecidableEq, Repr

namespace Comparison

def symbol : Comparison → String
  | .equal => "="
  | .unequal => "<>"
  | .less => "<"
  | .lessOrEqual => "<="
  | .greater => ">"
  | .greaterOrEqual => ">="

end Comparison

/-- A condition on a row. In a statement its operands are numbers of parameters. -/
inductive Condition (α : Type)
  | always (b : Bool)
  | compare (column : String) (comparison : Comparison) (operand : α)
  | among (column : String) (operands : List α)
  | isNull (column : String)
  | isNotNull (column : String)
  | like (column : String) (pattern : α)
  | and (children : List (Condition α))
  | or (children : List (Condition α))
  | not (child : Condition α)
deriving Repr, Inhabited

/-- A quote inside a name is written twice. -/
def quoteChar (c : Char) : List Char := if c = '"' then ['"', '"'] else [c]

/-- A name between double quotes. -/
def quoteName (name : String) : String :=
  String.ofList ('"' :: name.toList.flatMap quoteChar ++ ['"'])

def parameterText (n : Nat) : String := "?" ++ n.repr

namespace Condition

def text : Condition Nat → String
  | .always b => if b then "1 = 1" else "1 = 0"
  | .compare column comparison parameter =>
    quoteName column ++ " " ++ comparison.symbol ++ " " ++ parameterText parameter
  | .among column parameters =>
    quoteName column ++ " IN (" ++ ", ".intercalate (parameters.map parameterText) ++ ")"
  | .isNull column => quoteName column ++ " IS NULL"
  | .isNotNull column => quoteName column ++ " IS NOT NULL"
  | .like column parameter =>
    quoteName column ++ " LIKE " ++ parameterText parameter ++ " ESCAPE '\\'"
  | .and children => "(" ++ " AND ".intercalate (texts children) ++ ")"
  | .or children => "(" ++ " OR ".intercalate (texts children) ++ ")"
  | .not child => "NOT (" ++ child.text ++ ")"
where
  texts : List (Condition Nat) → List String
    | [] => []
    | c :: rest => c.text :: texts rest

end Condition

/-- A column and the name under which its values come out. -/
structure Output where
  column : String
  name : String
deriving DecidableEq, Repr

/-- The name under which rows are numbered. -/
def rowNumber : String := "__row"

inductive Query
  /-- Rows of a table in an order, from an offset on and up to a limit. -/
  | rows (outputs : List Output) (table : String) (conditions : List (Condition Nat))
    (order : List String) (limit offset : Option UInt64)
  /-- How many rows of a table there are. -/
  | count (table : String) (conditions : List (Condition Nat))
  /-- Rows of a table whose number lies behind `after` and up to `upTo`, where rows that agree in
  the column `group` are numbered together, by the column `key`. -/
  | numbered (outputs : List Output) (table : String) (conditions : List (Condition Nat))
    (group key : String) (after : UInt64) (upTo : Option UInt64) (order : List String)
deriving Repr

namespace Output

def text (o : Output) : String :=
  if o.column = o.name then quoteName o.name
  else quoteName o.column ++ " AS " ++ quoteName o.name

end Output

def listText (items : List String) : String := ", ".intercalate items

def whereText (conditions : List (Condition Nat)) : String :=
  if conditions.isEmpty then "" else " WHERE " ++ " AND ".intercalate (conditions.map Condition.text)

def orderText (order : List String) : String := " ORDER BY " ++ listText (order.map quoteName)

/-- A limit of -1 stands for none, where there is an offset. -/
def limitText : Option UInt64 → Option UInt64 → String
  | some limit, some offset =>
    if 0 < offset then " LIMIT " ++ limit.toNat.repr ++ " OFFSET " ++ offset.toNat.repr
    else " LIMIT " ++ limit.toNat.repr
  | some limit, none => " LIMIT " ++ limit.toNat.repr
  | none, some offset => if 0 < offset then " LIMIT -1 OFFSET " ++ offset.toNat.repr else ""
  | none, none => ""

/-- The condition on row numbers. -/
def windowText (after : UInt64) (upTo : Option UInt64) : String :=
  let row := quoteName rowNumber
  row ++ " > " ++ after.toNat.repr ++
    match upTo with
    | none => ""
    | some last => " AND " ++ row ++ " <= " ++ last.toNat.repr

namespace Query

def text : Query → String
  | .rows outputs table conditions order limit offset =>
    "SELECT " ++ listText (outputs.map Output.text) ++ " FROM " ++ quoteName table ++
      whereText conditions ++ orderText order ++ limitText limit offset
  | .count table conditions =>
    "SELECT COUNT(*) FROM " ++ quoteName table ++ whereText conditions
  | .numbered outputs table conditions group key after upTo order =>
    let inner := "SELECT " ++ listText (outputs.map Output.text) ++
      ", ROW_NUMBER() OVER (PARTITION BY " ++ quoteName group ++ " ORDER BY " ++ quoteName key ++
      ") AS " ++ quoteName rowNumber ++ " FROM " ++ quoteName table ++ whereText conditions
    "SELECT " ++ listText (outputs.map fun o => quoteName o.name) ++ " FROM (" ++ inner ++
      ") WHERE " ++ windowText after upTo ++ orderText order

end Query

end CrudPlan.Sql
