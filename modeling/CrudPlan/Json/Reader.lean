import CrudPlan.Json.Token
import CrudPlan.Json.Value

namespace CrudPlan.Json

/-- A JSON text as written; members keep their order and may repeat a name. -/
inductive Tree
  | null
  | bool (b : Bool)
  | number (n : NumberText)
  | string (parts : List StringPart)
  | list (items : List Tree)
  | object (members : List (List StringPart × Tree))
deriving Inhabited

namespace Tree

/-- A list or an object around the current place, its latest part first. -/
inductive Frame
  | list (items : List Tree)
  | object (members : List (List StringPart × Tree)) (name : List StringPart)

inductive Expected
  | value
  | itemOrEnd
  | nameOrEnd
  | name
  | colon
  | separator

/-- What has been parsed of a text. -/
inductive Progress
  | within (frames : List Frame) (next : Expected)
  | finished (t : Tree)

/-- Puts a finished value into the innermost frame. -/
def complete (t : Tree) : List Frame → Progress
  | [] => .finished t
  | .list items :: frames => .within (.list (t :: items) :: frames) .separator
  | .object members name :: frames => .within (.object ((name, t) :: members) [] :: frames) .separator

def begin (frames : List Frame) : Token → Option Progress
  | .null => some (complete .null frames)
  | .bool b => some (complete (.bool b) frames)
  | .number n => some (complete (.number n) frames)
  | .string parts => some (complete (.string parts) frames)
  | .openList => some (.within (.list [] :: frames) .itemOrEnd)
  | .openObject => some (.within (.object [] [] :: frames) .nameOrEnd)
  | _ => none

/-- Closes the innermost frame if the bracket fits. -/
def close : List Frame → Token → Option Progress
  | .list items :: frames, .closeList => some (complete (.list items.reverse) frames)
  | .object members _ :: frames, .closeObject =>
    some (complete (.object members.reverse) frames)
  | _, _ => none

def afterComma : List Frame → Option Progress
  | .list items :: frames => some (.within (.list items :: frames) .value)
  | .object members name :: frames => some (.within (.object members name :: frames) .name)
  | [] => none

def setName (name : List StringPart) : List Frame → Option Progress
  | .object members _ :: frames => some (.within (.object members name :: frames) .colon)
  | _ => none

def Progress.step : Progress → Token → Option Progress
  | .finished _, _ => none
  | .within frames .value, t => begin frames t
  | .within frames .itemOrEnd, .closeList => close frames .closeList
  | .within frames .itemOrEnd, t => begin frames t
  | .within frames .nameOrEnd, .closeObject => close frames .closeObject
  | .within frames .nameOrEnd, .string name => setName name frames
  | .within frames .name, .string name => setName name frames
  | .within frames .colon, .colon => some (.within frames .value)
  | .within frames .separator, .comma => afterComma frames
  | .within frames .separator, t => close frames t
  | .within _ _, _ => none

def Progress.tree? : Progress → Option Tree
  | .finished t => some t
  | .within _ _ => none

/-- The tree of a text that holds one value. -/
def parse? (s : String) : Option Tree := do
  let tokens ← tokens? s.toList
  let progress ← tokens.foldlM Progress.step (.within [] .value)
  progress.tree?

end Tree

/-- How many lists and objects may be inside one another. -/
def nestingLimit : Nat := 127

/-- The characters of a string; two units that form a surrogate pair are one character, and a unit
that is half a pair is none. -/
def characters? : List StringPart → Option (List Char)
  | [] => some []
  | .char c :: rest => (characters? rest).map (c :: ·)
  | .unit high :: .unit low :: rest =>
    if 0xd800 ≤ high ∧ high < 0xdc00 then
      if 0xdc00 ≤ low ∧ low < 0xe000 then
        (characters? rest).map
          (Char.ofNat ((high - 0xd800) * 0x400 + (low - 0xdc00) + 0x10000) :: ·)
      else none
    else if 0xdc00 ≤ high ∧ high < 0xe000 then none
    else (characters? (.unit low :: rest)).map (Char.ofNat high :: ·)
  | .unit n :: rest =>
    if 0xd800 ≤ n ∧ n < 0xe000 then none else (characters? rest).map (Char.ofNat n :: ·)

def text? (parts : List StringPart) : Option String := (characters? parts).map String.ofList

namespace NumberText

/-- Takes digits into a significand below `2 ^ 64`, up to the first one that does not fit, and
counts the digits left over. -/
def accumulate (significand : Nat) : List Nat → Nat × Nat
  | [] => (significand, 0)
  | d :: ds =>
    if significand * 10 + d < UInt64.size then accumulate (significand * 10 + d) ds
    else (significand, ds.length + 1)

def natOfDigits (ds : List Nat) : Nat := ds.foldl (fun n d => n * 10 + d) 0

/-- Divides several times by one number, until nothing is left. -/
def divideTimes (divisor x : Binary64) : Nat → Option Binary64
  | 0 => some x
  | k + 1 => if x.isZero then some x else do divideTimes divisor (← x.div? divisor) k

/-- Divides by a power of ten, in steps of at most 308 tens, the remaining ones last. -/
def divideByTens (x : Binary64) (e : Nat) : Option Binary64 := do
  let steps := (e - 1) / 308
  let y ← divideTimes (← Binary64.powerOfTen? 308) x steps
  y.div? (← Binary64.powerOfTen? (e - 308 * steps))

/-- The number nearest to a significand, moved by a power of ten. -/
def scaled? (significand : Nat) (e : Int) : Option Binary64 := do
  let x ← Binary64.ofNat? significand
  if e < 0 then divideByTens x e.natAbs
  else if x.isZero then some x
  else if e ≤ 308 then x.mul? (← Binary64.powerOfTen? e.natAbs)
  else none

/-- The value of a number: an integer if it is written as one and fits into 64 bits, and otherwise
the binary number that the first digits give, moved by the exponent. -/
def value? (n : NumberText) : Option Number :=
  let (whole, dropped) := accumulate 0 n.whole
  if n.fraction.isEmpty ∧ n.exponent.isNone ∧ dropped = 0 ∧
      (!n.negative ∨ 0 < whole ∧ whole ≤ Nat.pow 2 63) then
    some (.int (if n.negative then - (whole : Int) else whole))
  else do
    let (significand, unread) := accumulate whole n.fraction
    let point : Int := dropped - ((n.fraction.length - unread : Nat) : Int)
    let exponent : Int :=
      match n.exponent with
      | none => 0
      | some (negative, ds) => if negative then - (natOfDigits ds : Int) else natOfDigits ds
    let x ← scaled? significand (point + exponent)
    return .real (if n.negative then x.neg else x)

end NumberText

/-- The value of a tree as it is written, with room for lists and objects of a given nesting
depth. -/
def Tree.written? (room : Nat) : Tree → Option Json
  | .null => some .null
  | .bool b => some (.bool b)
  | .number n => n.value?.map .num
  | .string parts => (text? parts).map .str
  | .list items => if room = 0 then none else (items? (room - 1) items).map .arr
  | .object members => if room = 0 then none else (members? (room - 1) members).map .obj
where
  items? (room : Nat) : List Tree → Option (List Json)
    | [] => some []
    | t :: rest => do return (← written? room t) :: (← items? room rest)
  members? (room : Nat) : List (List StringPart × Tree) → Option (List (String × Json))
    | [] => some []
    | (name, t) :: rest => do
      return (← text? name, ← written? room t) :: (← members? room rest)

/-- The value of a JSON text with its members as written, repeated ones included. -/
def parseWritten? (s : String) : Option Json := do (← Tree.parse? s).written? nestingLimit

/-- The value of a JSON text. -/
def parse? (s : String) : Option Json := (parseWritten? s).map canonical

end CrudPlan.Json
