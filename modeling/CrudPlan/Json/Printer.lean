import CrudPlan.Json.Value

namespace CrudPlan.Json

/-- Numbers are written positionally from `0.00001` up to below ten to the sixteenth. -/
def positional : PositionalRange := ⟨-5, 15⟩

namespace Number

def render : Number → String
  | .int n => toString n
  | .real x => (if x.isNegative then "-" else "") ++ x.shortest.render positional

end Number

/-- Two hexadecimal digits of a control character. -/
def controlDigits (c : Char) : List Char :=
  [Nat.digitChar (c.toNat / 16), Nat.digitChar (c.toNat % 16)]

/-- A character inside quotes: quotes, backslashes and control characters are escaped. -/
def escape (c : Char) : List Char :=
  match c with
  | '"' => ['\\', '"']
  | '\\' => ['\\', '\\']
  | '\n' => ['\\', 'n']
  | '\r' => ['\\', 'r']
  | '\t' => ['\\', 't']
  | '\x08' => ['\\', 'b']
  | '\x0c' => ['\\', 'f']
  | c => if c.toNat < 32 then '\\' :: 'u' :: '0' :: '0' :: controlDigits c else [c]

def quote (s : String) : String :=
  String.ofList ('"' :: s.toList.flatMap escape ++ ['"'])

/-- The text of a value without blanks. -/
def compact : Json → String
  | .null => "null"
  | .bool b => if b then "true" else "false"
  | .num n => n.render
  | .str s => quote s
  | .arr items => "[" ++ ",".intercalate (compactItems items) ++ "]"
  | .obj members => "\x7b" ++ ",".intercalate (compactMembers members) ++ "\x7d"
where
  compactItems : List Json → List String
    | [] => []
    | v :: rest => compact v :: compactItems rest
  compactMembers : List (String × Json) → List String
    | [] => []
    | (name, v) :: rest => (quote name ++ ":" ++ compact v) :: compactMembers rest

/-- A line break and the indentation of a nesting depth. -/
def lineBreak (depth : Nat) : String := "\n" ++ String.ofList (List.replicate (2 * depth) ' ')

/-- Bracketed parts, each on a line of its own. -/
def block (opening closing : String) (depth : Nat) : List String → String
  | [] => opening ++ closing
  | parts =>
    opening ++ ",".intercalate (parts.map (lineBreak (depth + 1) ++ ·)) ++ lineBreak depth ++ closing

/-- The text of a value over several lines. -/
def pretty (v : Json) (depth : Nat := 0) : String :=
  match v with
  | .null => "null"
  | .bool b => if b then "true" else "false"
  | .num n => n.render
  | .str s => quote s
  | .arr items => block "[" "]" depth (prettyItems items (depth + 1))
  | .obj members => block "\x7b" "\x7d" depth (prettyMembers members (depth + 1))
where
  prettyItems : List Json → Nat → List String
    | [], _ => []
    | v :: rest, depth => pretty v depth :: prettyItems rest depth
  prettyMembers : List (String × Json) → Nat → List String
    | [], _ => []
    | (name, v) :: rest, depth => (quote name ++ ": " ++ pretty v depth) :: prettyMembers rest depth

end CrudPlan.Json
