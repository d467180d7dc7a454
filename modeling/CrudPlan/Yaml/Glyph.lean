import CrudPlan.Text.Character

namespace CrudPlan.Yaml

structure Glyph where
  char : Char
  line : Nat
  column : Nat
  /-- How many characters stand before it in the whole text. -/
  index : Nat
deriving DecidableEq, Repr

/-- The characters that may occur in a text. -/
def permitted : Text.Ranges :=
  [(0x9, 0xa), (0xd, 0xd), (0x20, 0x7e), (0x85, 0x85), (0xa0, 0xd7ff), (0xe000, 0xfffd),
    (0x10000, 0x10ffff)]

/-- Line breaks within a text whose breaks are all written as `\n`, except those that separate lines
or paragraphs without ending them. -/
def isBreak (c : Char) : Bool := c == '\n' || c == '\u2028' || c == '\u2029'

def isBlank (c : Char) : Bool := c == ' ' || c == '\t'

def isSpacing (c : Char) : Bool := isBlank c || isBreak c

/-- The characters of anchors, handles and the names of directives. -/
def isWordChar (c : Char) : Bool := c.isAlphanum || c == '_' || c == '-'

namespace Glyph

/-- The characters from a place on, with every way to end a line written as `\n`. -/
def place (line column index : Nat) : List Char → List Glyph
  | [] => []
  | '\r' :: '\n' :: rest => ⟨'\n', line, column, index⟩ :: place (line + 1) 0 (index + 2) rest
  | c :: rest =>
    let c := if c = '\r' ∨ c = '\u0085' then '\n' else c
    ⟨c, line, column, index⟩ ::
      if isBreak c then place (line + 1) 0 (index + 1) rest
      else place line (column + 1) (index + 1) rest

/-- The characters of a text, if all of them may occur in one. -/
def ofText? (s : String) : Option (List Glyph) :=
  if s.toList.all permitted.contains then some (place 0 0 0 s.toList) else none

end Glyph

/-- The next character is the given one. -/
def startsWith (c : Char) : List Glyph → Bool
  | [] => false
  | g :: _ => g.char == c

/-- The next character is one of the given ones. -/
def startsWithAny (cs : List Char) : List Glyph → Bool
  | [] => false
  | g :: _ => cs.contains g.char

/-- A blank, a line break or the end of the text comes next. -/
def atSpacing : List Glyph → Bool
  | [] => true
  | g :: _ => isSpacing g.char

/-- A line starts with three times one character and nothing else in the same word. -/
def isIndicatorLine (c : Char) : List Glyph → Bool
  | g :: h :: i :: rest =>
    g.column == 0 && g.char == c && h.char == c && i.char == c && atSpacing rest
  | _ => false

/-- A line that starts or ends a document comes next. -/
def atDocumentIndicator (gs : List Glyph) : Bool := isIndicatorLine '-' gs || isIndicatorLine '.' gs

/-- The text behind blanks and a comment. -/
def skipToLineEnd (gs : List Glyph) : List Glyph :=
  let rest := gs.dropWhile fun g => isBlank g.char
  if startsWith '#' rest then rest.dropWhile fun g => !isBreak g.char else rest

/-- The text of the next line, where nothing but blanks and a comment are left on this one. -/
def nextLine? (gs : List Glyph) : Option (List Glyph) :=
  match skipToLineEnd gs with
  | [] => some []
  | g :: rest => if isBreak g.char then some rest else none

/-- What stands between two words. -/
structure Gap where
  /-- The blanks before the first line break. -/
  blanks : List Char := []
  breaks : List Char := []
  /-- A line break that does not count stands before all this. -/
  joined : Bool := false
deriving Repr

namespace Gap

/-- Blanks at the start of a line do not count. -/
def push (gap : Gap) (c : Char) : Gap :=
  if isBreak c then { gap with breaks := gap.breaks ++ [c] }
  else if gap.breaks.isEmpty && !gap.joined then { gap with blanks := gap.blanks ++ [c] }
  else gap

def isEmpty (gap : Gap) : Bool := gap.blanks.isEmpty && gap.breaks.isEmpty && !gap.joined

/-- The text that takes the place of a gap. -/
def text (gap : Gap) : List Char :=
  if gap.joined then gap.breaks
  else
    match gap.breaks with
    | [] => gap.blanks
    | ['\n'] => [' ']
    | '\n' :: more => more
    | breaks => breaks

end Gap

end CrudPlan.Yaml
