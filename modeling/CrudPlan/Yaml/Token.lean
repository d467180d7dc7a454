import CrudPlan.Text.Character
import CrudPlan.Yaml.Glyph

namespace CrudPlan.Yaml

/-- A tag by its octets. -/
abbrev Tag := List UInt8

/-- A tag as written. The handle is empty if the suffix is the whole tag. -/
structure TagText where
  handle : String
  suffix : Tag
deriving DecidableEq, Repr

namespace Tag

def ofString (s : String) : Tag := s.toUTF8.toList

def null : Tag := ofString "tag:yaml.org,2002:null"

def bool : Tag := ofString "tag:yaml.org,2002:bool"

/-- The tag that asks for no type. -/
def nonSpecific : Tag := ofString "!"

/-- The name in a tag of the kind `!name`. -/
def localName? (t : Tag) : Option String :=
  match t with
  | 33 :: name =>
    String.fromUTF8? ⟨(if name.isEmpty then t else name).toArray⟩
  | _ => none

def isUriChar (flow : Bool) (c : Char) : Bool :=
  isWordChar c || ";/?:@&=+$.!~*'()".toList.contains c || flow && [',', '[', ']'].contains c

/-- How many octets have to follow an octet of a character, of which `missing` were expected. -/
def following? (missing : Nat) (octet : Nat) : Option Nat :=
  if missing = 0 then
    if octet < 0x80 then some 0
    else if octet / 0x20 = 6 then some 1
    else if octet / 0x10 = 14 then some 2
    else if octet / 0x08 = 30 then some 3
    else none
  else if octet / 0x40 = 2 then some (missing - 1)
  else none

/-- The octets at the head of a text. A character that is escaped has all its octets escaped. -/
def octets (flow : Bool) (missing : Nat) : List Glyph → Option (Tag × List Glyph)
  | [] => if missing = 0 then some ([], []) else none
  | g :: rest =>
    if g.char == '%' then
      match rest with
      | a :: b :: rest => do
        let octet := (← Text.hexDigit? a.char) * 16 + (← Text.hexDigit? b.char)
        let missing ← following? missing octet
        let (more, rest) ← octets flow missing rest
        return (.ofNat octet :: more, rest)
      | _ => none
    else if missing ≠ 0 then none
    else if isUriChar flow g.char then do
      let (more, rest) ← octets flow 0 rest
      return (.ofNat g.char.toNat :: more, rest)
    else some ([], g :: rest)

/-- The octets before the first zero; nothing behind it counts. -/
def untilZero (t : Tag) : Tag := t.takeWhile (· ≠ 0)

/-- Octets, one at least. -/
def someOctets? (flow : Bool) (gs : List Glyph) : Option (Tag × List Glyph) := do
  let (t, rest) ← octets flow 0 gs
  if t.isEmpty then none else some (untilZero t, rest)

end Tag

/-- The word at the head of a text, and the text behind it. -/
def word (gs : List Glyph) : String × List Glyph :=
  (String.ofList ((gs.takeWhile fun g => isWordChar g.char).map (·.char)),
    gs.dropWhile fun g => isWordChar g.char)

namespace TagText

/-- A tag between `!<` and `>`. -/
def verbatim? (gs : List Glyph) : Option (TagText × List Glyph) := do
  let (suffix, rest) ← Tag.someOctets? true gs
  if startsWith '>' rest then some (⟨"", suffix⟩, rest.tail) else none

/-- A tag with a handle, whose name stands between exclamation marks or is empty. -/
def shorthand? (gs : List Glyph) : Option (TagText × List Glyph) := do
  let (name, rest) := word gs
  if startsWith '!' rest then
    let (suffix, rest) ← Tag.someOctets? false rest.tail
    return (⟨"!" ++ name ++ "!", suffix⟩, rest)
  else
    let (more, rest) ← Tag.octets false 0 rest
    let suffix := Tag.untilZero (Tag.ofString name ++ more)
    return (if suffix.isEmpty then ⟨"", Tag.nonSpecific⟩ else ⟨"!", suffix⟩, rest)

/-- The tag behind an exclamation mark, and the text behind it. -/
def scan (flow : Bool) (gs : List Glyph) : Option (TagText × List Glyph) := do
  let (tag, rest) ← if startsWith '<' gs then verbatim? gs.tail else shorthand? gs
  if atSpacing rest || flow && startsWith ',' rest then some (tag, rest) else none

end TagText

/-- What the handles of a document stand for. -/
abbrev TagHandles := List (String × Tag)

namespace TagHandles

/-- The handles that need no declaration. -/
def predefined : TagHandles := [("!", Tag.ofString "!"), ("!!", Tag.ofString "tag:yaml.org,2002:")]

/-- The tag that is written in a document. -/
def resolve? (handles : TagHandles) (t : TagText) : Option Tag :=
  if t.handle.isEmpty then some t.suffix
  else ((handles ++ predefined).lookup t.handle).map (· ++ t.suffix)

end TagHandles

inductive Directive
  | version (major minor : Nat)
  | handle (name : String) (beginning : Tag)
deriving DecidableEq, Repr

namespace Directive

def skipBlanks (gs : List Glyph) : List Glyph := gs.dropWhile fun g => isBlank g.char

/-- A number of at most nine digits. -/
def number? (gs : List Glyph) : Option (Nat × List Glyph) :=
  let digits := gs.takeWhile fun g => g.char.isDigit
  if digits.isEmpty || 9 < digits.length then none
  else
    some ((digits.filterMap fun g => Text.digit? g.char).foldl (fun n d => n * 10 + d) 0,
      gs.drop digits.length)

def version? (gs : List Glyph) : Option (Directive × List Glyph) := do
  let (major, rest) ← number? (skipBlanks gs)
  if startsWith '.' rest then
    let (minor, rest) ← number? rest.tail
    return (.version major minor, rest)
  else none

/-- A handle: one exclamation mark, or a word between two. -/
def handleName? (gs : List Glyph) : Option (String × List Glyph) :=
  if startsWith '!' gs then
    let (name, rest) := word gs.tail
    if startsWith '!' rest then some ("!" ++ name ++ "!", rest.tail)
    else if name.isEmpty then some ("!", rest)
    else none
  else none

def handle? (gs : List Glyph) : Option (Directive × List Glyph) := do
  let (name, rest) ← handleName? (skipBlanks gs)
  if startsWith ' ' rest || startsWith '\t' rest then
    let (beginning, rest) ← Tag.someOctets? true (skipBlanks rest)
    if atSpacing rest then some (.handle name beginning, rest) else none
  else none

/-- The directive behind a percent sign, and the text of the next line. -/
def scan (gs : List Glyph) : Option (Directive × List Glyph) := do
  let (name, rest) := word gs
  if atSpacing rest then
    let (directive, rest) ←
      if name = "YAML" then version? rest
      else if name = "TAG" then handle? rest
      else none
    return (directive, ← nextLine? rest)
  else none

end Directive

/-- How a scalar is written. -/
inductive ScalarStyle
  | plain
  | quoted
  | literal
  | folded
deriving DecidableEq, Repr

/-- Indented collections have a token where they start and one where they end, although no character
stands for these. -/
inductive Token
  | directive (d : Directive)
  | documentStart
  | documentEnd
  | streamEnd
  | blockSequence
  | blockMapping
  | blockEnd
  | flowSequence
  | flowSequenceEnd
  | flowMapping
  | flowMappingEnd
  /-- The dash before an item of an indented sequence. -/
  | item
  | comma
  | key
  | value
  | anchor (name : String)
  | alias (name : String)
  | tag (t : TagText)
  | scalar (style : ScalarStyle) (text : String)
deriving DecidableEq, Repr

end CrudPlan.Yaml
