import CrudPlan.Text.Character

namespace CrudPlan

/-- A part of a value as written. -/
inductive ValuePart
  | char (c : Char)
  | reference (name : String)
deriving DecidableEq, Repr

structure VariableDef where
  name : String
  value : List ValuePart
deriving DecidableEq, Repr

namespace DotEnv

/-- What is open at a place in a file. -/
inductive Opening
  | nothing
  | blank
  | escape
  | single
  | singleEscape
  | double
  | doubleEscape
deriving DecidableEq, Repr

namespace Opening

def afterPlain (c : Char) : Opening :=
  if c = '\\' then .escape else if c = '"' then .double else if c = '\'' then .single else .nothing

/-- What is open behind a character. -/
def next : Opening → Char → Opening
  | .nothing, c => if Text.isBlank c && c ≠ '\n' && c ≠ '\r' then .blank else afterPlain c
  | .blank, c => afterPlain c
  | .escape, _ => .nothing
  | .single, c => if c = '\\' then .singleEscape else if c = '\'' then .nothing else .single
  | .singleEscape, _ => .single
  | .double, c => if c = '\\' then .doubleEscape else if c = '"' then .nothing else .double
  | .doubleEscape, _ => .double

end Opening

/-- The text of a line before a comment, which starts behind a blank, and what is open at the end. -/
def uncommented (o : Opening) : List Char → List Char × Opening
  | [] => ([], o)
  | c :: rest =>
    if o = .blank ∧ c = '#' then ([], .nothing)
    else
      let (cs, o) := uncommented (o.next c) rest
      (c :: cs, o)

/-- The lines of a text with their line breaks. -/
def breakLines : List Char → List (List Char)
  | [] => []
  | c :: rest =>
    if c = '\n' then [c] :: breakLines rest
    else
      match breakLines rest with
      | [] => [[c]]
      | line :: lines => (c :: line) :: lines

/-- Joins each line at whose end something is open with the next one, and leaves comments out. What
is open at the end of the text is no line. -/
def joinLines (o : Opening) (start : List Char) : List (List Char) → List (Option (List Char))
  | [] => if o = .nothing then [] else [none]
  | line :: rest =>
    if (Text.trimStart (start ++ line)).head? = some '#' then some [] :: joinLines .nothing [] rest
    else
      let (text, o) := uncommented o line
      if o = .nothing then some (start ++ text) :: joinLines .nothing [] rest
      else joinLines o (start ++ text) rest

/-- Where in a value. `quoted` tells whether the place is within double quotes. -/
inductive ValuePlace
  | text (quoted : Bool)
  | single
  | escape (quoted : Bool)
  /-- In the name of a variable behind a dollar sign, or between braces. -/
  | reference (quoted : Bool) (name : List Char)
  | braced (quoted : Bool) (name : List Char)
  /-- Behind the value, where a comment may start. -/
  | ended
  | comment

namespace ValuePlace

def unescape? (c : Char) : Option Char :=
  if c = 'n' then some '\n'
  else if ['\\', '\'', '"', '$', ' '].contains c then some c
  else none

/-- The place behind a character, and what the character adds to the value. -/
def next? : ValuePlace → Char → Option (ValuePlace × List ValuePart)
  | .text quoted, c =>
    if c = '$' then some (.reference quoted [], [])
    else if c = '\\' then some (.escape quoted, [])
    else if c = '"' then some (.text !quoted, [])
    else if quoted then some (.text true, [.char c])
    else if c = '\'' then some (.single, [])
    else if c = ' ' ∨ c = '\t' then some (.ended, [])
    else some (.text false, [.char c])
  | .single, c => if c = '\'' then some (.text false, []) else some (.single, [.char c])
  | .escape quoted, c => (unescape? c).map fun c => (.text quoted, [.char c])
  | .reference quoted name, c =>
    if Text.isAlphanumeric c then some (.reference quoted (name ++ [c]), [])
    else if c = '\x7b' ∧ name.isEmpty then some (.braced quoted [], [])
    else
      let reference := ValuePart.reference (String.ofList name)
      if c = '$' then some (.reference quoted [], [reference])
      else some (.text quoted, [reference, .char c])
  | .braced quoted name, c =>
    if c = '\x7d' then some (.text quoted, [.reference (String.ofList name)])
    else some (.braced quoted (name ++ [c]), [])
  | .ended, c =>
    if c = ' ' ∨ c = '\t' then some (.ended, [])
    else if c = '#' then some (.comment, [])
    else none
  | .comment, _ => some (.comment, [])

/-- What the end adds to the value, if nothing is open. -/
def finish? : ValuePlace → Option (List ValuePart)
  | .text false | .escape false | .ended | .comment => some []
  | .reference false name => some [.reference (String.ofList name)]
  | _ => none

end ValuePlace

/-- The parts of a value from a place on. -/
def valueParts? (p : ValuePlace) : List Char → Option (List ValuePart)
  | [] => p.finish?
  | c :: rest => do
    let (p, parts) ← p.next? c
    return parts ++ (← valueParts? p rest)

def isNameStart (c : Char) : Bool := c.isAlpha || c == '_'

def isNameChar (c : Char) : Bool := c.isAlphanum || c == '_' || c == '.'

/-- A name, and the text behind it and the blanks that follow. -/
def name? (cs : List Char) : Option (String × List Char) :=
  if cs.head?.any isNameStart then
    some (String.ofList (cs.takeWhile isNameChar), Text.trimStart (cs.dropWhile isNameChar))
  else none

/-- A name and the equals sign; the word `export` may stand before the name. -/
def assignedName? (cs : List Char) : Option (String × List Char) := do
  match ← name? cs with
  | (name, '=' :: rest) => return (name, rest)
  | (name, rest) =>
    if name = "export" then
      match ← name? rest with
      | (name, '=' :: rest) => return (name, rest)
      | _ => none
    else none

/-- The definition in a line that is neither empty nor a comment. -/
def definition? (cs : List Char) : Option VariableDef := do
  let (name, rest) ← assignedName? cs
  let rest := Text.trimStart rest
  if rest.head? = some '#' then return ⟨name, []⟩
  else return ⟨name, ← valueParts? (.text false) rest⟩

/-- The definitions in lines, up to the first line that is in error. -/
def definitions : List (Option (List Char)) → List VariableDef
  | [] | none :: _ => []
  | some line :: rest =>
    let line := Text.trimStart (Text.trimEnd line)
    if line.isEmpty ∨ line.head? = some '#' then definitions rest
    else
      match definition? line with
      | none => []
      | some d => d :: definitions rest

/-- The definitions in a text, which a byte order mark may precede. -/
def parse (text : String) : List VariableDef :=
  let cs := text.toList
  let cs := if cs.head? = some '\ufeff' then cs.tail else cs
  definitions (joinLines .nothing [] (breakLines cs))

variable {m : Type → Type} [Monad m]

/-- Looks a name up where it counts first, and among the defined ones if it is not there. -/
def lookupWith (lookup : String → m (Option String)) (defined : List (String × String))
    (name : String) : m (Option String) := do
  return (← lookup name).or (defined.lookup name)

/-- The text of a value; a variable that has no value stands for nothing. -/
def expand (lookup : String → m (Option String)) : List ValuePart → m String
  | [] => return ""
  | .char c :: rest => do return String.singleton c ++ (← expand lookup rest)
  | .reference name :: rest => do
    let value := (← lookup name).getD ""
    return value ++ (← expand lookup rest)

/-- The defined variables with their values. Values may refer to earlier variables, and of several
definitions of one name the first one counts. -/
def evaluate (lookup : String → m (Option String)) (defined : List (String × String)) :
    List VariableDef → m (List (String × String))
  | [] => return defined
  | d :: rest => do
    let value ← expand (lookupWith lookup defined) d.value
    evaluate lookup (defined ++ [(d.name, value)]) rest

end DotEnv

end CrudPlan
