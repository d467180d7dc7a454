import CrudPlan.Text.Character

namespace CrudPlan.Json

open Text (digit? hexDigit?)

/-- A number as written: digits before the point, digits after it, sign and digits of the exponent.
There is a point if and only if a digit follows it. -/
structure NumberText where
  negative : Bool
  whole : List Nat
  fraction : List Nat
  exponent : Option (Bool × List Nat)
deriving DecidableEq, Repr

/-- A part of a string: a character, or a 16-bit unit given by its hexadecimal digits. -/
inductive StringPart
  | char (c : Char)
  | unit (n : Nat)
deriving DecidableEq, Repr

inductive Token
  | openList
  | closeList
  | openObject
  | closeObject
  | comma
  | colon
  | null
  | bool (b : Bool)
  | number (n : NumberText)
  | string (parts : List StringPart)
deriving DecidableEq, Repr

def isBlank (c : Char) : Bool := c == ' ' || c == '\n' || c == '\t' || c == '\r'

/-- The unit that four hexadecimal digits stand for. -/
def unit? (a b c d : Char) : Option Nat := do
  return (((← hexDigit? a) * 16 + (← hexDigit? b)) * 16 + (← hexDigit? c)) * 16 + (← hexDigit? d)

/-- The character behind a backslash. -/
def unescape? : Char → Option Char
  | '"' => some '"'
  | '\\' => some '\\'
  | '/' => some '/'
  | 'b' => some '\x08'
  | 'f' => some '\x0c'
  | 'n' => some '\n'
  | 'r' => some '\r'
  | 't' => some '\t'
  | _ => none

/-- The parts of a string up to its closing quote, and the text behind that. -/
def stringParts : List Char → Option (List StringPart × List Char)
  | [] => none
  | '"' :: rest => some ([], rest)
  | '\\' :: 'u' :: a :: b :: c :: d :: rest => do
    let n ← unit? a b c d
    let (parts, rest) ← stringParts rest
    return (.unit n :: parts, rest)
  | '\\' :: e :: rest => do
    let c ← unescape? e
    let (parts, rest) ← stringParts rest
    return (.char c :: parts, rest)
  | c :: rest =>
    if c.toNat < 32 ∨ c = '\\' then none
    else do
      let (parts, rest) ← stringParts rest
      return (.char c :: parts, rest)

/-- The digits at the head of a text, and the text behind them. -/
def digits : List Char → List Nat × List Char
  | [] => ([], [])
  | c :: rest =>
    match digit? c with
    | none => ([], c :: rest)
    | some n =>
      let (ns, rest) := digits rest
      (n :: ns, rest)

/-- The digits before the point: a single zero, or digits of which the first is not zero. -/
def wholePart (cs : List Char) : Option (List Nat × List Char) :=
  match digits cs with
  | ([], _) => none
  | (0 :: _ :: _, _) => none
  | (ns, rest) => some (ns, rest)

/-- The digits after a point, none if there is no point. -/
def fractionPart : List Char → Option (List Nat × List Char)
  | '.' :: cs =>
    match digits cs with
    | ([], _) => none
    | (ns, rest) => some (ns, rest)
  | cs => some ([], cs)

/-- The digits of an exponent behind its letter. -/
def exponentDigits (negative : Bool) (cs : List Char) :
    Option (Option (Bool × List Nat) × List Char) :=
  match digits cs with
  | ([], _) => none
  | (ns, rest) => some (some (negative, ns), rest)

/-- The exponent with its sign, none if no letter announces it. -/
def exponentPart : List Char → Option (Option (Bool × List Nat) × List Char)
  | [] => some (none, [])
  | c :: cs =>
    if c = 'e' ∨ c = 'E' then
      match cs with
      | '+' :: cs => exponentDigits false cs
      | '-' :: cs => exponentDigits true cs
      | cs => exponentDigits false cs
    else some (none, c :: cs)

def numberText (negative : Bool) (cs : List Char) : Option (NumberText × List Char) := do
  let (whole, cs) ← wholePart cs
  let (fraction, cs) ← fractionPart cs
  let (exponent, cs) ← exponentPart cs
  return (⟨negative, whole, fraction, exponent⟩, cs)

/-- The token at the head of a text that starts with no blank, and the text behind it. -/
def Token.next? : List Char → Option (Token × List Char)
  | '[' :: cs => some (.openList, cs)
  | ']' :: cs => some (.closeList, cs)
  | '\x7b' :: cs => some (.openObject, cs)
  | '\x7d' :: cs => some (.closeObject, cs)
  | ',' :: cs => some (.comma, cs)
  | ':' :: cs => some (.colon, cs)
  | 'n' :: 'u' :: 'l' :: 'l' :: cs => some (.null, cs)
  | 't' :: 'r' :: 'u' :: 'e' :: cs => some (.bool true, cs)
  | 'f' :: 'a' :: 'l' :: 's' :: 'e' :: cs => some (.bool false, cs)
  | '"' :: cs => (stringParts cs).map fun (parts, cs) => (.string parts, cs)
  | '-' :: cs => (numberText true cs).map fun (n, cs) => (.number n, cs)
  | cs => (numberText false cs).map fun (n, cs) => (.number n, cs)

theorem length_stringParts {cs rest : List Char} {parts : List StringPart}
    (h : stringParts cs = some (parts, rest)) : rest.length < cs.length := by
  fun_induction stringParts cs generalizing parts rest with
  | case1 => simp at h
  | case2 => simp_all
  | case3 a b c d r ih =>
    simp only [Option.bind_eq_bind, Option.bind_eq_some_iff, Prod.exists] at h
    obtain ⟨n, -, ps, r', hr, h⟩ := h
    have := ih hr
    simp_all
    omega
  | case4 e r _ ih =>
    simp only [Option.bind_eq_bind, Option.bind_eq_some_iff, Prod.exists] at h
    obtain ⟨c, -, ps, r', hr, h⟩ := h
    have := ih hr
    simp_all
    omega
  | case5 => simp at h
  | case6 c r _ _ _ _ ih =>
    simp only [Option.bind_eq_bind, Option.bind_eq_some_iff, Prod.exists] at h
    obtain ⟨ps, r', hr, h⟩ := h
    have := ih hr
    simp_all
    omega

theorem length_digits (cs : List Char) :
    (digits cs).2.length + (digits cs).1.length = cs.length := by
  fun_induction digits cs <;> simp_all
  omega

theorem length_wholePart {cs rest : List Char} {ns : List Nat}
    (h : wholePart cs = some (ns, rest)) : rest.length < cs.length := by
  have hd := length_digits cs
  unfold wholePart at h
  split at h
  · simp at h
  · simp at h
  · next ns' _ hne _ he =>
    have := List.length_pos_iff.2 hne
    simp_all
    omega

theorem length_fractionPart {cs rest : List Char} {ns : List Nat}
    (h : fractionPart cs = some (ns, rest)) : rest.length ≤ cs.length := by
  unfold fractionPart at h
  split at h
  · next cs =>
    have := length_digits cs
    grind
  · simp_all

theorem length_exponentDigits {negative : Bool} {cs rest : List Char}
    {e : Option (Bool × List Nat)} (h : exponentDigits negative cs = some (e, rest)) :
    rest.length ≤ cs.length := by
  have := length_digits cs
  grind [exponentDigits]

theorem length_exponentPart {cs rest : List Char} {e : Option (Bool × List Nat)}
    (h : exponentPart cs = some (e, rest)) : rest.length ≤ cs.length := by
  unfold exponentPart at h
  split at h
  · simp_all
  · split at h
    · split at h <;> have := length_exponentDigits h <;> simp <;> omega
    · simp_all

theorem length_numberText {negative : Bool} {cs rest : List Char} {n : NumberText}
    (h : numberText negative cs = some (n, rest)) : rest.length < cs.length := by
  simp only [numberText, Option.bind_eq_bind, Option.bind_eq_some_iff, Prod.exists] at h
  obtain ⟨w, r₁, h₁, f, r₂, h₂, e, r₃, h₃, h⟩ := h
  have := length_wholePart h₁
  have := length_fractionPart h₂
  have := length_exponentPart h₃
  simp_all
  omega

theorem Token.length_next? {cs rest : List Char} {t : Token}
    (h : Token.next? cs = some (t, rest)) : rest.length < cs.length := by
  have hstring : ∀ {cs rest : List Char} {t : Token},
      (stringParts cs).map (fun (parts, cs) => (Token.string parts, cs)) = some (t, rest) →
        rest.length < cs.length := by
    intro cs rest t h
    obtain ⟨⟨ps, r⟩, hp, he⟩ := Option.map_eq_some_iff.1 h
    cases he
    exact length_stringParts hp
  have hnumber : ∀ {negative : Bool} {cs rest : List Char} {t : Token},
      (numberText negative cs).map (fun (n, cs) => (Token.number n, cs)) = some (t, rest) →
        rest.length < cs.length := by
    intro negative cs rest t h
    obtain ⟨⟨n, r⟩, hp, he⟩ := Option.map_eq_some_iff.1 h
    cases he
    exact length_numberText hp
  unfold Token.next? at h
  grind

/-- The tokens of a text, if it is made of tokens and blanks. -/
def tokens? : List Char → Option (List Token)
  | [] => some []
  | c :: cs =>
    if isBlank c then tokens? cs
    else
      match _h : Token.next? (c :: cs) with
      | none => none
      | some (t, rest) => (tokens? rest).map (t :: ·)
termination_by cs => cs.length
decreasing_by
  · simp
  · exact Token.length_next? _h

end CrudPlan.Json
