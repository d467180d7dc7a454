import CrudPlan.Text.Character
import CrudPlan.Yaml.Glyph

namespace CrudPlan.Yaml

/-- A scalar without quotes and the text behind it. -/
structure PlainScalar where
  text : List Char
  /-- The text behind the scalar is on another line. -/
  endsLine : Bool
  rest : List Glyph

namespace PlainScalar

def prepend (cs : List Char) (s : PlainScalar) : PlainScalar := { s with text := cs ++ s.text }

/-- Between brackets the scalar ends before these. -/
def isFlowEnd (c : Char) : Bool := [',', '[', ']', '\x7b', '\x7d'].contains c

/-- A colon that is followed by one of these between brackets is out of place. -/
def colonEnds : List Char := [',', '?', '[', ']', '\x7b', '\x7d']

/-- The rest of a scalar behind a gap, on lines that are indented by `indent` columns at least. -/
def scan (flow : Bool) (indent : Nat) (gap : Gap) : List Glyph → Option PlainScalar
  | [] => some ⟨[], !gap.breaks.isEmpty, []⟩
  | g :: rest =>
    let ending : PlainScalar := ⟨[], !gap.breaks.isEmpty, g :: rest⟩
    if isSpacing g.char then
      if g.char == '\t' && !gap.breaks.isEmpty && g.column < indent then none
      else scan flow indent (gap.push g.char) rest
    else if !gap.breaks.isEmpty && !flow && g.column < indent then some ending
    else if !gap.isEmpty && (g.char == '#' || atDocumentIndicator (g :: rest)) then some ending
    else if g.char == ':' && flow && startsWithAny colonEnds rest then none
    else if g.char == ':' && atSpacing rest then some ending
    else if flow && isFlowEnd g.char then some ending
    else (scan flow indent {} rest).map (prepend (gap.text ++ [g.char]))

end PlainScalar

/-- The rest of a scalar in single quotes behind a gap; a quote inside is written twice. -/
def singleQuoted (gap : Gap) : List Glyph → Option (List Char × List Glyph)
  | [] => none
  | g :: rest =>
    if atDocumentIndicator (g :: rest) then none
    else if isSpacing g.char then singleQuoted (gap.push g.char) rest
    else if g.char == '\'' then
      match rest with
      | [] => some (gap.text, [])
      | h :: rest' =>
        if h.char == '\'' then do
          let (cs, rest) ← singleQuoted {} rest'
          return (gap.text ++ '\'' :: cs, rest)
        else some (gap.text, h :: rest')
    else do
      let (cs, rest) ← singleQuoted {} rest
      return (gap.text ++ g.char :: cs, rest)

/-- The character that an escape of one letter stands for. -/
def unescape? : Char → Option Char
  | '0' => some '\x00'
  | 'a' => some '\x07'
  | 'b' => some '\x08'
  | 't' | '\t' => some '\t'
  | 'n' => some '\n'
  | 'v' => some '\x0b'
  | 'f' => some '\x0c'
  | 'r' => some '\x0d'
  | 'e' => some '\x1b'
  | ' ' => some ' '
  | '"' => some '"'
  | '/' => some '/'
  | '\\' => some '\\'
  | 'N' => some '\u0085'
  | '_' => some '\u00a0'
  | 'L' => some '\u2028'
  | 'P' => some '\u2029'
  | _ => none

/-- How many hexadecimal digits follow the letter of an escape. -/
def codeLength? : Char → Option Nat
  | 'x' => some 2
  | 'u' => some 4
  | 'U' => some 8
  | _ => none

/-- A character by its code point. -/
def character? (n : Nat) : Option Char := if n.isValidChar then some (Char.ofNat n) else none

/-- Where in a scalar in double quotes. -/
inductive QuotePlace
  | text (gap : Gap)
  /-- Behind a backslash. -/
  | escape
  /-- Inside a code, with the number of missing digits. -/
  | code (missing value : Nat)

/-- The rest of a scalar in double quotes. -/
def doubleQuoted : QuotePlace → List Glyph → Option (List Char × List Glyph)
  | _, [] => none
  | .text gap, g :: rest =>
    if atDocumentIndicator (g :: rest) then none
    else if isSpacing g.char then doubleQuoted (.text (gap.push g.char)) rest
    else if g.char == '"' then some (gap.text, rest)
    else if g.char == '\\' then do
      let (cs, rest) ← doubleQuoted .escape rest
      return (gap.text ++ cs, rest)
    else do
      let (cs, rest) ← doubleQuoted (.text {}) rest
      return (gap.text ++ g.char :: cs, rest)
  | .escape, g :: rest =>
    if isBreak g.char then doubleQuoted (.text { joined := true }) rest
    else
      match codeLength? g.char with
      | some n => doubleQuoted (.code n 0) rest
      | none => do
        let c ← unescape? g.char
        let (cs, rest) ← doubleQuoted (.text {}) rest
        return (c :: cs, rest)
  | .code missing value, g :: rest => do
    let value := value * 16 + (← Text.hexDigit? g.char)
    if missing ≤ 1 then
      let c ← character? value
      let (cs, rest) ← doubleQuoted (.text {}) rest
      return (c :: cs, rest)
    else doubleQuoted (.code (missing - 1) value) rest

/-- What happens to the line breaks at the end of a block. -/
inductive Chomping
  | strip
  | clip
  | keep
deriving DecidableEq, Repr

/-- What stands behind the indicator of a block. -/
structure BlockHeader where
  chomping : Chomping := .clip
  /-- How much deeper than its surroundings the block is indented. -/
  increment : Option Nat := none
deriving DecidableEq, Repr

namespace BlockHeader

def chomping? (gs : List Glyph) : Option (Chomping × List Glyph) :=
  match gs with
  | [] => none
  | g :: rest =>
    if g.char == '+' then some (.keep, rest)
    else if g.char == '-' then some (.strip, rest)
    else none

/-- A digit, which must not be zero. -/
def increment? (gs : List Glyph) : Option (Option Nat × List Glyph) :=
  match gs with
  | [] => some (none, [])
  | g :: rest =>
    match Text.digit? g.char with
    | some 0 => none
    | some n => some (some n, rest)
    | none => some (none, g :: rest)

/-- The header at the head of a text, with its two parts in any order, and the text behind it. -/
def scan (gs : List Glyph) : Option (BlockHeader × List Glyph) := do
  match chomping? gs with
  | some (chomping, rest) =>
    let (increment, rest) ← increment? rest
    return (⟨chomping, increment⟩, rest)
  | none =>
    let (increment, rest) ← increment? gs
    match increment, chomping? rest with
    | some _, some (chomping, rest) => return (⟨chomping, increment⟩, rest)
    | _, _ => return (⟨.clip, increment⟩, rest)

end BlockHeader

/-- The empty lines before the first line with text. -/
structure LeadingLines where
  breaks : List Char
  /-- The greatest number of spaces at the start of a line. -/
  depth : Nat
  rest : List Glyph

namespace LeadingLines

def scan (depth : Nat) : List Glyph → Option LeadingLines
  | [] => some ⟨[], depth, []⟩
  | g :: rest =>
    if g.char == ' ' then scan (max depth (g.column + 1)) rest
    else if g.char == '\t' then none
    else if isBreak g.char then
      (scan depth rest).map fun lines => { lines with breaks := g.char :: lines.breaks }
    else some ⟨[], depth, g :: rest⟩

end LeadingLines

/-- The text of a block up to some place, last character first. -/
structure BlockText where
  text : List Char := []
  /-- The line break that ended the last line with text. -/
  lastBreak : List Char := []
  /-- Those of the empty lines after it, last one first. -/
  emptyLines : List Char := []
  /-- The last line with text starts with a blank. -/
  startsBlank : Bool := false

namespace BlockText

/-- Starts another line with its first character. Where lines are folded, the break between two lines
that start with no blank becomes a space, or goes if empty lines follow it. -/
def startLine (folded : Bool) (b : BlockText) (c : Char) : BlockText :=
  let folds := folded && b.lastBreak == ['\n'] && !b.startsBlank && !isBlank c
  let between :=
    if folds then (if b.emptyLines.isEmpty then [' '] else b.emptyLines)
    else b.emptyLines ++ b.lastBreak
  { text := c :: (between ++ b.text), startsBlank := isBlank c }

def finish (chomping : Chomping) (b : BlockText) : List Char :=
  match chomping with
  | .strip => b.text.reverse
  | .clip => (b.lastBreak ++ b.text).reverse
  | .keep => (b.emptyLines ++ b.lastBreak ++ b.text).reverse

/-- The lines of a block that are indented by a number of columns, from a place inside a line or
before one. -/
def scan (folded : Bool) (indent : Nat) (inLine : Bool) (b : BlockText) :
    List Glyph → Option (BlockText × List Glyph)
  | [] => some (b, [])
  | g :: rest =>
    if inLine then
      if isBreak g.char then scan folded indent false { b with lastBreak := [g.char] } rest
      else scan folded indent true { b with text := g.char :: b.text } rest
    else if g.column < indent && g.char == ' ' then scan folded indent false b rest
    else if g.column < indent && g.char == '\t' then none
    else if isBreak g.char then
      scan folded indent false { b with emptyLines := g.char :: b.emptyLines } rest
    else if g.column == indent then scan folded indent true (b.startLine folded g.char) rest
    else some (b, g :: rest)

end BlockText

/-- The scalar behind the indicator of a block, and the text behind it. `enclosing` is the column of
the collection around it, if there is one. -/
def blockScalar (folded : Bool) (enclosing : Option Nat) (gs : List Glyph) :
    Option (List Char × List Glyph) := do
  let (header, rest) ← BlockHeader.scan gs
  let rest ← nextLine? rest
  let (block, rest) ←
    match header.increment with
    | some n => BlockText.scan folded (enclosing.getD 0 + n) false {} rest
    | none => do
      let lines ← LeadingLines.scan 0 rest
      let indent := max lines.depth (max (enclosing.elim 0 (· + 1)) 1)
      BlockText.scan folded indent false { emptyLines := lines.breaks.reverse } lines.rest
  return (block.finish header.chomping, rest)

end CrudPlan.Yaml
