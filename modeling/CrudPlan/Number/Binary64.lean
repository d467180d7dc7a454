namespace CrudPlan

/-- A finite number of the 64-bit binary format, held as its bits. -/
structure Binary64 where
  bits : UInt64
deriving DecidableEq, Inhabited

namespace Binary64

/-- The bits of the smallest magnitude that is no finite number. -/
def overflowBits : Nat := 2047 * Nat.pow 2 52

def isNegative (x : Binary64) : Bool := Nat.pow 2 63 ≤ x.bits.toNat

def magnitudeBits (x : Binary64) : Nat := x.bits.toNat % Nat.pow 2 63

/-- The `m` of a magnitude `m * 2 ^ q`. -/
def significand (x : Binary64) : Nat :=
  let biased := x.magnitudeBits / Nat.pow 2 52
  let fraction := x.magnitudeBits % Nat.pow 2 52
  if biased = 0 then fraction else fraction + Nat.pow 2 52

/-- The `q` of a magnitude `m * 2 ^ q`, counted up from the smallest one, -1074. -/
def steps (x : Binary64) : Nat := x.magnitudeBits / Nat.pow 2 52 - 1

def isZero (x : Binary64) : Bool := x.magnitudeBits = 0

/-- The magnitude as a numerator and a denominator. -/
def ratio (x : Binary64) : Nat × Nat :=
  if x.steps < 1074 then (x.significand, Nat.pow 2 (1074 - x.steps))
  else (x.significand * Nat.pow 2 (x.steps - 1074), 1)

/-- The quotient of two naturals, rounded to the nearest and from halfway to the even one. -/
def roundedQuotient (num den : Nat) : Nat :=
  let q := num / den
  let r := num % den
  if 2 * r < den then q
  else if 2 * r = den then q + q % 2
  else q + 1

/-- How many steps above the smallest spacing the numbers near `num / den` lie apart. -/
def spacing (num den : Nat) : Nat :=
  let num := num * Nat.pow 2 1074
  let low := num.log2 - den.log2 - 53
  if num / (den * Nat.pow 2 low) < Nat.pow 2 53 then low else low + 1

/-- The number nearest to a ratio, or none if the ratio is beyond all finite numbers. -/
def ofRatio? (negative : Bool) (num den : Nat) : Option Binary64 :=
  let k := spacing num den
  let magnitude := k * Nat.pow 2 52 +
    roundedQuotient (num * Nat.pow 2 1074) (den * Nat.pow 2 k)
  if magnitude < overflowBits then
    some ⟨((if negative then Nat.pow 2 63 else 0) + magnitude).toUInt64⟩
  else none

/-- Zero with a sign. -/
def zero (negative : Bool) : Binary64 := ⟨if negative then 0x8000000000000000 else 0⟩

def ofNat? (n : Nat) : Option Binary64 := ofRatio? false n 1

/-- The integer nearest number; magnitudes below `2 ^ 64` all have one. -/
def ofInt (n : Int) : Binary64 := (ofRatio? (n < 0) n.natAbs 1).getD (zero (n < 0))

def neg (x : Binary64) : Binary64 := ⟨x.bits ^^^ 0x8000000000000000⟩

def mul? (x y : Binary64) : Option Binary64 :=
  let (a, b) := x.ratio
  let (c, d) := y.ratio
  ofRatio? (x.isNegative != y.isNegative) (a * c) (b * d)

/-- The quotient by a number that is not zero. -/
def div? (x y : Binary64) : Option Binary64 :=
  let (a, b) := x.ratio
  let (c, d) := y.ratio
  ofRatio? (x.isNegative != y.isNegative) (a * d) (b * c)

/-- The number nearest to a power of ten. -/
def powerOfTen? (e : Nat) : Option Binary64 := ofNat? (Nat.pow 10 e)

end Binary64

/-- A decimal number `digits * 10 ^ exponent`. -/
structure Decimal where
  digits : Nat
  exponent : Int
deriving DecidableEq, Repr

namespace Decimal

/-- How many digits the decimal notation of a positive natural has. -/
def digitCount (n : Nat) : Nat := (Nat.toDigits 10 n).length

/-- The power of ten of the first digit of a positive ratio. -/
def leadingPower (num den : Nat) : Int :=
  if den ≤ num then digitCount (num / den) - 1
  else - (digitCount ((den + num - 1) / num - 1) : Int)

end Decimal

namespace Binary64

/-- The decimals that round to a number, in quarters of the spacing at that number: all between
the two ends, and the ends themselves if the significand is even. -/
structure RoundingInterval where
  low : Nat
  value : Nat
  high : Nat
  closed : Bool
deriving Repr

def roundingInterval (x : Binary64) : RoundingInterval where
  low := if x.significand = Nat.pow 2 52 ∧ 0 < x.steps then 4 * x.significand - 1
    else 4 * x.significand - 2
  value := 4 * x.significand
  high := 4 * x.significand + 2
  closed := x.significand % 2 = 0

/-- The multiple of `10 ^ g` that rounds to the number, if one of the two neighbours does. -/
def onGrid? (x : Binary64) (g : Int) : Option Decimal :=
  let i := x.roundingInterval
  let quarter := Nat.pow 2 x.steps * Nat.pow 10 (-g).toNat
  let unit := 4 * Nat.pow 2 1074 * Nat.pow 10 g.toNat
  let value := i.value * quarter
  let inside (n : Nat) : Bool :=
    (i.low * quarter < n && n < i.high * quarter)
      || (i.closed && (n == i.low * quarter || n == i.high * quarter))
  let down := value / unit
  let up := down + 1
  match inside (down * unit), inside (up * unit) with
  | false, false => none
  | true, false => some ⟨down, g⟩
  | false, true => some ⟨up, g⟩
  | true, true =>
    let below := value - down * unit
    let above := up * unit - value
    if below < above ∨ (below = above ∧ down % 2 = 0) then some ⟨down, g⟩ else some ⟨up, g⟩

/-- The shortest decimal that reads back as the magnitude of a number; seventeen digits always
suffice. -/
def shortest (x : Binary64) : Decimal :=
  if x.isZero then ⟨0, 0⟩
  else
    let (num, den) := x.ratio
    let lead := Decimal.leadingPower num den
    ((List.range 18).findSome? fun (n : Nat) => x.onGrid? (lead - n)).getD ⟨0, 0⟩

end Binary64

/-- Where positional notation ends: the first digit of a decimal that is written positionally
stands at one of these powers of ten. -/
structure PositionalRange where
  least : Int
  most : Int

namespace Decimal

/-- The digits without trailing zeros. -/
def digitText (d : Decimal) : List Char :=
  let trimmed := ((Nat.toDigits 10 d.digits).reverse.dropWhile (· == '0')).reverse
  if trimmed.isEmpty then ['0'] else trimmed

/-- The power of ten of the first digit. -/
def power (d : Decimal) : Int := d.exponent + (digitCount d.digits - 1)

/-- A decimal with a point or an exponent, so that it never looks like an integer. -/
def render (range : PositionalRange) (d : Decimal) : String :=
  let ds := d.digitText
  let e := d.power
  if range.least ≤ e ∧ e ≤ range.most then
    if e < 0 then String.ofList ("0.".toList ++ List.replicate (-e - 1).toNat '0' ++ ds)
    else
      let whole := e.toNat + 1
      let fraction := ds.drop whole
      String.ofList (ds.take whole ++ List.replicate (whole - ds.length) '0' ++ ['.'] ++
        if fraction.isEmpty then ['0'] else fraction)
  else
    let tail := if ds.length ≤ 1 then [] else '.' :: ds.drop 1
    let sign := if e < 0 then "e-" else "e+"
    String.ofList (ds.take 1 ++ tail ++ sign.toList ++ Nat.toDigits 10 e.natAbs)

end Decimal

end CrudPlan
