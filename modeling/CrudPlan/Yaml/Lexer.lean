import CrudPlan.Yaml.Scalar
import CrudPlan.Yaml.Token

namespace CrudPlan.Yaml

/-- A place where a key may have started. -/
structure PossibleKey where
  /-- Nothing but a key can stand there. -/
  required : Bool
  /-- How many tokens come before it. -/
  position : Nat
  glyph : Glyph
deriving Repr

namespace PossibleKey

/-- A key without its own token ends on its line and after 1024 characters at the latest. -/
def isStale (k : PossibleKey) (now : Glyph) : Bool :=
  k.glyph.line < now.line || k.glyph.index + 1024 < now.index

end PossibleKey

/-- What is known at a place between two tokens. -/
structure Lexer where
  tokens : Array Token := #[]
  /-- The columns of the indented collections around the place, innermost first. -/
  indents : List Nat := []
  /-- A key may start here. -/
  keyAllowed : Bool := true
  /-- The key that may have started within the innermost brackets, and those outside of them. -/
  key : Option PossibleKey := none
  outerKeys : List (Option PossibleKey) := []

namespace Lexer

/-- The place is between brackets. -/
def inFlow (l : Lexer) : Bool := !l.outerKeys.isEmpty

def emit (l : Lexer) (t : Token) : Lexer := { l with tokens := l.tokens.push t }

/-- Gives up the innermost possible key, unless it is required. -/
def removeKey (l : Lexer) : Option Lexer :=
  if l.key.any (·.required) then none else some { l with key := none }

/-- Remembers that a key may start with a character. -/
def saveKey (l : Lexer) (g : Glyph) : Option Lexer :=
  if l.keyAllowed then do
    let required := !l.inFlow && l.indents.head? == some g.column
    return { ← l.removeKey with key := some ⟨required, l.tokens.size, g⟩ }
  else some l

def dropStaleKey (now : Glyph) : Option PossibleKey → Option (Option PossibleKey)
  | none => some none
  | some k => if k.isStale now then (if k.required then none else some none) else some (some k)

/-- Gives up the keys that would have ended by now. -/
def dropStaleKeys (l : Lexer) (now : Glyph) : Option Lexer := do
  return { l with
    key := ← dropStaleKey now l.key
    outerKeys := ← l.outerKeys.mapM (dropStaleKey now) }

/-- Ends the indented collections that a condition on their columns selects. -/
def unrollWhile (l : Lexer) (deeper : Nat → Bool) : Lexer :=
  if l.inFlow then l
  else
    let closed := (l.indents.takeWhile deeper).length
    { l with
      tokens := l.tokens ++ Array.replicate closed Token.blockEnd
      indents := l.indents.drop closed }

/-- Ends the collections that are indented deeper than a column. -/
def unroll (l : Lexer) (column : Nat) : Lexer := l.unrollWhile (column < ·)

def unrollAll (l : Lexer) : Lexer := l.unrollWhile fun _ => true

/-- Starts a collection at a column, unless there is one already. Its token goes to a position. -/
def roll (l : Lexer) (column position : Nat) (t : Token) : Lexer :=
  if !l.inFlow && l.indents.head?.all (· < column) then
    { l with
      indents := column :: l.indents
      tokens := l.tokens.insertIdxIfInBounds position t }
  else l

/-- Starts a collection at a character, where keys and items may start. -/
def rollHere (l : Lexer) (g : Glyph) (t : Token) : Option Lexer :=
  if l.inFlow then some l
  else if l.keyAllowed then some (l.roll g.column l.tokens.size t)
  else none

/-- A token that neither is a key nor may be followed by one on its line. -/
def separateDocuments (l : Lexer) (t : Token) : Option Lexer := do
  let l ← l.unrollAll.removeKey
  return { l.emit t with keyAllowed := false }

def openFlow (l : Lexer) (g : Glyph) (t : Token) : Option Lexer := do
  let l ← l.saveKey g
  return { l.emit t with key := none, outerKeys := l.key :: l.outerKeys, keyAllowed := true }

def closeFlow (l : Lexer) (t : Token) : Option Lexer := do
  let l ← l.removeKey
  let l :=
    match l.outerKeys with
    | [] => l
    | key :: outerKeys => { l with key, outerKeys }
  return { l.emit t with keyAllowed := false }

def comma (l : Lexer) : Option Lexer := do
  return { (← l.removeKey).emit .comma with keyAllowed := true }

def item (l : Lexer) (g : Glyph) : Option Lexer := do
  let l ← (← l.rollHere g .blockSequence).removeKey
  return { l.emit .item with keyAllowed := true }

/-- A key that is announced by a question mark. -/
def explicitKey (l : Lexer) (g : Glyph) : Option Lexer := do
  let l ← (← l.rollHere g .blockMapping).removeKey
  return { l.emit .key with keyAllowed := !l.inFlow }

/-- The colon behind a key, which turns a possible key into one. -/
def value (l : Lexer) (g : Glyph) : Option Lexer :=
  match l.key with
  | some k =>
    let l := { l with tokens := l.tokens.insertIdxIfInBounds k.position .key }
    let l := l.roll k.glyph.column k.position .blockMapping
    some { l.emit .value with key := none, keyAllowed := false }
  | none => do
    let l ← l.rollHere g .blockMapping
    return { l.emit .value with keyAllowed := !l.inFlow }

/-- A token that may be the start of a key. -/
def content (l : Lexer) (g : Glyph) (t : Token) : Option Lexer := do
  return { (← l.saveKey g).emit t with keyAllowed := false }

/-- The name of an anchor or an alias, and the text behind it. -/
def anchorName? (gs : List Glyph) : Option (String × List Glyph) :=
  let (name, rest) := word gs
  let follows := atSpacing rest || startsWithAny ['?', ':', ',', ']', '\x7d', '%', '@', '`'] rest
  if !name.isEmpty && follows then some (name, rest) else none

def block (l : Lexer) (style : ScalarStyle) (rest : List Glyph) : Option (Lexer × List Glyph) := do
  let l ← l.removeKey
  let (cs, rest) ← blockScalar (style == .folded) l.indents.head? rest
  return ({ l.emit (.scalar style (String.ofList cs)) with keyAllowed := true }, rest)

def plain (l : Lexer) (g : Glyph) (rest : List Glyph) : Option (Lexer × List Glyph) := do
  let indent := l.indents.head?.elim 0 (· + 1)
  let s ← PlainScalar.scan l.inFlow indent {} (g :: rest)
  let l ← l.content g (.scalar .plain (String.ofList s.text))
  return ({ l with keyAllowed := s.endsLine }, s.rest)

/-- The characters that start no scalar without quotes, or only before another character. -/
def indicators : List Char := "-?:,[]\x7b\x7d#&*!|>'\"%@`".toList

def startsPlain (l : Lexer) (g : Glyph) (rest : List Glyph) : Bool :=
  !isSpacing g.char && !indicators.contains g.char ||
    g.char == '-' && !(startsWith ' ' rest || startsWith '\t' rest) ||
    !l.inFlow && (g.char == '?' || g.char == ':') && !atSpacing rest

/-- The token that starts with a character, and the text behind it. -/
def token (l : Lexer) (g : Glyph) (rest : List Glyph) : Option (Lexer × List Glyph) := do
  let only (l : Option Lexer) : Option (Lexer × List Glyph) := l.map fun l => (l, rest)
  if g.char == '%' && g.column == 0 then
    let (directive, rest) ← Directive.scan rest
    return (← l.separateDocuments (.directive directive), rest)
  else if isIndicatorLine '-' (g :: rest) then
    return (← l.separateDocuments .documentStart, rest.drop 2)
  else if isIndicatorLine '.' (g :: rest) then
    return (← l.separateDocuments .documentEnd, rest.drop 2)
  else if g.char == '[' then only (l.openFlow g .flowSequence)
  else if g.char == '\x7b' then only (l.openFlow g .flowMapping)
  else if g.char == ']' then only (l.closeFlow .flowSequenceEnd)
  else if g.char == '\x7d' then only (l.closeFlow .flowMappingEnd)
  else if g.char == ',' then only l.comma
  else if g.char == '-' && atSpacing rest then only (l.item g)
  else if g.char == '?' && (l.inFlow || atSpacing rest) then only (l.explicitKey g)
  else if g.char == ':' && (l.inFlow || atSpacing rest) then only (l.value g)
  else if g.char == '*' then
    let (name, rest) ← anchorName? rest
    return (← l.content g (.alias name), rest)
  else if g.char == '&' then
    let (name, rest) ← anchorName? rest
    return (← l.content g (.anchor name), rest)
  else if g.char == '!' then
    let (tag, rest) ← TagText.scan l.inFlow rest
    return (← l.content g (.tag tag), rest)
  else if g.char == '|' && !l.inFlow then l.block .literal rest
  else if g.char == '>' && !l.inFlow then l.block .folded rest
  else if g.char == '\'' then
    let (cs, rest) ← singleQuoted {} rest
    return (← l.content g (.scalar .quoted (String.ofList cs)), rest)
  else if g.char == '"' then
    let (cs, rest) ← doubleQuoted (.text {}) rest
    return (← l.content g (.scalar .quoted (String.ofList cs)), rest)
  else if l.startsPlain g rest then l.plain g rest
  else none

/-- The text behind blanks, comments and line breaks. A key may start on a new line that is not
between brackets. -/
def skip (l : Lexer) (inComment : Bool) : List Glyph → Lexer × List Glyph
  | [] => (l, [])
  | g :: rest =>
    if isBreak g.char then { l with keyAllowed := l.keyAllowed || !l.inFlow }.skip false rest
    else if inComment || g.char == '#' then l.skip true rest
    else if g.char == ' ' || g.char == '\t' && (l.inFlow || !l.keyAllowed) ||
        g.char == '\ufeff' && g.column == 0 then l.skip false rest
    else (l, g :: rest)

def finish (l : Lexer) : Option (Array Token) := do
  return (← l.separateDocuments .streamEnd).tokens

/-- The tokens of a text from a place on. Every token takes a character at least. -/
def scan (l : Lexer) (gs : List Glyph) : Option (Array Token) :=
  match l.skip false gs with
  | (l, []) => l.finish
  | (l, g :: rest) => do
    let l ← l.dropStaleKeys g
    let (l, rest) ← (l.unroll g.column).token g rest
    if rest.length < gs.length then l.scan rest else none
termination_by gs.length

end Lexer

/-- The tokens of a text, if it is made of tokens. -/
def tokens? (s : String) : Option (List Token) := do
  return (← Lexer.scan {} (← Glyph.ofText? s)).toList

end CrudPlan.Yaml
