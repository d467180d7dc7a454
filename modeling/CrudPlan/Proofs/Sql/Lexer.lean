import CrudPlan.Proofs.Data.Outcome
import CrudPlan.Sql.Query

namespace CrudPlan.Sql

inductive Token
  | name (s : String)
  | literal (s : String)
  | word (s : String)
  | parameter (n : Nat)
  | number (n : Nat)
  | comparison (c : Comparison)
  | opening
  | closing
  | comma
  | star
  | minus
deriving DecidableEq, Repr

/-- What has been read of a token. Characters are kept backwards. -/
inductive Mode
  | between
  | name (read : List Char)
  | nameQuote (read : List Char)
  | literal (read : List Char)
  | literalQuote (read : List Char)
  | word (read : List Char)
  | question
  | parameter (n : Nat)
  | number (n : Nat)
  | less
  | greater
  | dash
deriving DecidableEq, Repr

namespace Mode

def isWordChar (c : Char) : Bool := c.isAlpha || c = '_'

def start (c : Char) : Option (List Token × Mode) :=
  if c.isDigit then some ([], number (Nat.ofDigitChars 10 [c] 0))
  else if isWordChar c then some ([], word [c])
  else if c = ' ' then some ([], between)
  else if c = '(' then some ([.opening], between)
  else if c = ')' then some ([.closing], between)
  else if c = ',' then some ([.comma], between)
  else if c = '*' then some ([.star], between)
  else if c = '-' then some ([], dash)
  else if c = '=' then some ([.comparison .equal], between)
  else if c = '<' then some ([], less)
  else if c = '>' then some ([], greater)
  else if c = '"' then some ([], name [])
  else if c = '\'' then some ([], literal [])
  else if c = '?' then some ([], question)
  else none

def restart (t : Token) (c : Char) : Option (List Token × Mode) :=
  (start c).map fun (ts, m) => (t :: ts, m)

/-- The tokens that one more character completes, and what is read of the next one. -/
def step (m : Mode) (c : Char) : Option (List Token × Mode) :=
  match m with
  | between => start c
  | name read => some ([], if c = '"' then nameQuote read else name (c :: read))
  | nameQuote read =>
    if c = '"' then some ([], name (c :: read))
    else restart (.name (String.ofList read.reverse)) c
  | literal read => some ([], if c = '\'' then literalQuote read else literal (c :: read))
  | literalQuote read =>
    if c = '\'' then some ([], literal (c :: read))
    else restart (.literal (String.ofList read.reverse)) c
  | word read =>
    if isWordChar c then some ([], word (c :: read))
    else restart (.word (String.ofList read.reverse)) c
  | question => if c.isDigit then some ([], parameter (Nat.ofDigitChars 10 [c] 0)) else none
  | parameter n =>
    if c.isDigit then some ([], parameter (Nat.ofDigitChars 10 [c] n)) else restart (.parameter n) c
  | number n =>
    if c.isDigit then some ([], number (Nat.ofDigitChars 10 [c] n))
    else if isWordChar c then none
    else restart (.number n) c
  | less =>
    if c = '=' then some ([.comparison .lessOrEqual], between)
    else if c = '>' then some ([.comparison .unequal], between)
    else restart (.comparison .less) c
  | greater =>
    if c = '=' then some ([.comparison .greaterOrEqual], between)
    else restart (.comparison .greater) c
  -- two of them start a comment
  | dash => if c = '-' then none else restart .minus c

def finish : Mode → Option (List Token)
  | between => some []
  | nameQuote read => some [.name (String.ofList read.reverse)]
  | literalQuote read => some [.literal (String.ofList read.reverse)]
  | word read => some [.word (String.ofList read.reverse)]
  | parameter n => some [.parameter n]
  | number n => some [.number n]
  | less => some [.comparison .less]
  | greater => some [.comparison .greater]
  | dash => some [.minus]
  | name _ | literal _ | question => none

/-- The tokens that characters complete, and what they leave incomplete. -/
def advance (m : Mode) : List Char → Option (List Token × Mode)
  | [] => some ([], m)
  | c :: cs => do
    let (ts, next) ← m.step c
    let (us, last) ← next.advance cs
    return (ts ++ us, last)

def tokens? (m : Mode) (cs : List Char) : Option (List Token) := do
  let (ts, last) ← m.advance cs
  return ts ++ (← last.finish)

end Mode

/-- A text consists of tokens. -/
def Lexes (cs : List Char) (ts : List Token) : Prop := Mode.between.tokens? cs = some ts

variable {m m' m'' : Mode} {a b : List Char} {ts us : List Token} {c : Char}

theorem Mode.advance_append (ha : m.advance a = some (ts, m'))
    (hb : m'.advance b = some (us, m'')) : m.advance (a ++ b) = some (ts ++ us, m'') := by
  induction a generalizing m ts with
  | nil =>
    cases ha
    simpa [advance] using hb
  | cons c a ih =>
    simp only [advance, Option.bind_eq_bind, Option.bind_eq_some_iff, Option.pure_def,
      Option.some.injEq, Prod.exists, Prod.mk.injEq] at ha
    obtain ⟨vs, next, hs, ws, last, hn, rfl, rfl⟩ := ha
    simp [advance, hs, ih hn]

theorem Mode.tokens?_eq_some_iff {cs : List Char} :
    m.tokens? cs = some ts ↔ ∃ us last vs, m.advance cs = some (us, last) ∧
      last.finish = some vs ∧ us ++ vs = ts := by
  simp only [tokens?, Option.bind_eq_bind, Option.bind_eq_some_iff, Option.pure_def,
    Option.some.injEq, Prod.exists]
  grind

theorem Mode.tokens?_append (ha : m.advance a = some (ts, m')) (hb : m'.tokens? b = some us) :
    m.tokens? (a ++ b) = some (ts ++ us) := by
  obtain ⟨vs, last, ws, hv, hw, rfl⟩ := Mode.tokens?_eq_some_iff.1 hb
  exact Mode.tokens?_eq_some_iff.2
    ⟨_, last, ws, Mode.advance_append ha hv, hw, List.append_assoc ..⟩

/-- A character that belongs to no name, literal, word or number. -/
def Separates (c : Char) : Prop := c = ' ' ∨ c = ',' ∨ c = ')'

theorem Separates.step (hc : Separates c) (hm : m.finish = some ts) :
    m.step c = (Mode.start c).map fun (us, next) => (ts ++ us, next) := by
  rcases hc with rfl | rfl | rfl <;> cases m <;> cases hm <;> rfl

/-- What follows starts apart from what stands before it. -/
def StandsApart (b : List Char) : Prop := ∀ c cs, b = c :: cs → Separates c

/-- What is complete stands before the tokens of a text at whose start a new token begins. -/
theorem Mode.tokens?_restart (hm : m.finish = some ts)
    (hstep : ∀ c cs, b = c :: cs → m.step c = (start c).map fun (us, next) => (ts ++ us, next))
    (hb : Lexes b us) : m.tokens? b = some (ts ++ us) := by
  cases b with
  | nil =>
    cases hb
    simp [Mode.tokens?, Mode.advance, hm]
  | cons c cs =>
    obtain ⟨vs, last, ws, hv, hw, rfl⟩ := Mode.tokens?_eq_some_iff.1 hb
    simp only [Mode.advance, Mode.step, Option.bind_eq_bind, Option.bind_eq_some_iff,
      Option.pure_def, Option.some.injEq, Prod.exists, Prod.mk.injEq] at hv
    obtain ⟨xs, next, hs, ys, last', hn, rfl, rfl⟩ := hv
    refine Mode.tokens?_eq_some_iff.2 ⟨ts ++ (xs ++ ys), last', ws, ?_, hw, by simp⟩
    simp [Mode.advance, hstep c cs rfl, hs, hn]

theorem StandsApart.tokens? (h : StandsApart b) (hm : m.finish = some ts) (hb : Lexes b us) :
    m.tokens? b = some (ts ++ us) :=
  Mode.tokens?_restart hm (fun c cs he => (h c cs he).step hm) hb

theorem Lexes.append (ha : Lexes a ts) (hb : Lexes b us) (h : StandsApart b) :
    Lexes (a ++ b) (ts ++ us) := by
  obtain ⟨vs, last, ws, hv, hw, rfl⟩ := Mode.tokens?_eq_some_iff.1 ha
  rw [List.append_assoc]
  exact Mode.tokens?_append hv (h.tokens? hw hb)

/-- The tokens of a text that leaves nothing incomplete, and of whatever follows it. -/
theorem Lexes.append_of_advance (ha : Mode.between.advance a = some (ts, .between))
    (hb : Lexes b us) : Lexes (a ++ b) (ts ++ us) :=
  Mode.tokens?_append ha hb

theorem Lexes.intercalate {sep : List Char} {st : List Token} {items : List (List Char)}
    {tokens : List (List Token)} (hs : Mode.between.advance sep = some (st, .between))
    (hne : sep ≠ []) (hsep : StandsApart sep) (h : List.Forall₂ Lexes items tokens) :
    Lexes (sep.intercalate items) (st.intercalate tokens) := by
  induction h with
  | nil => rfl
  | @cons a ts items tokens ha hrest ih =>
    cases hrest with
    | nil => simpa using ha
    | cons hb hrest' =>
      rw [List.intercalate_cons_cons, List.intercalate_cons_cons, List.append_assoc,
        List.append_assoc]
      apply ha.append (.append_of_advance hs ih)
      intro c cs he
      obtain ⟨d, ds, rfl⟩ := List.exists_cons_of_ne_nil hne
      rw [List.cons_append] at he
      cases he
      exact hsep _ _ rfl

theorem Mode.advance_name (read cs : List Char) :
    (Mode.name read).advance (cs.flatMap quoteChar) = some ([], .name (cs.reverse ++ read)) := by
  induction cs generalizing read with
  | nil => rfl
  | cons c cs ih =>
    by_cases hc : c = '"'
    · subst hc
      simp [quoteChar, advance, step, ih]
    · simp [quoteChar, advance, step, hc, ih]

theorem Mode.advance_quoteName (s : String) :
    Mode.between.advance (quoteName s).toList = some ([], .nameQuote s.toList.reverse) := by
  have hstart : Mode.between.advance ['"'] = some ([], .name []) := rfl
  have hname := Mode.advance_append hstart (Mode.advance_name [] s.toList)
  have hend : (Mode.name (s.toList.reverse ++ [])).advance ['"'] =
      some ([], .nameQuote s.toList.reverse) := by
    simp [Mode.advance, Mode.step]
  have htext : (quoteName s).toList = (['"'] ++ s.toList.flatMap quoteChar) ++ ['"'] := by
    simp [quoteName]
  rw [htext]
  exact Mode.advance_append hname hend

/-- A quoted name reads as the name, whatever characters it has. -/
theorem lexes_quoteName (s : String) : Lexes (quoteName s).toList [.name s] := by
  apply Mode.tokens?_eq_some_iff.2
  exact ⟨_, _, [.name s], Mode.advance_quoteName s, by simp [Mode.finish], rfl⟩

theorem Mode.advance_digits (mode : Nat → Mode)
    (hstep : ∀ n c, c.isDigit → (mode n).step c = some ([], mode (Nat.ofDigitChars 10 [c] n)))
    {cs : List Char} (h : ∀ c ∈ cs, c.isDigit) (n : Nat) :
    (mode n).advance cs = some ([], mode (Nat.ofDigitChars 10 cs n)) := by
  induction cs generalizing n with
  | nil => simp [advance]
  | cons c cs ih =>
    obtain ⟨hc, hcs⟩ := List.forall_mem_cons.1 h
    simp [advance, hstep n c hc, ih hcs, Nat.ofDigitChars_cons]

theorem Mode.advance_parameter {cs : List Char} (h : ∀ c ∈ cs, c.isDigit) (n : Nat) :
    (Mode.parameter n).advance cs = some ([], .parameter (Nat.ofDigitChars 10 cs n)) :=
  advance_digits parameter (fun _ _ hc => if_pos hc) h n

theorem Mode.advance_number {cs : List Char} (h : ∀ c ∈ cs, c.isDigit) (n : Nat) :
    (Mode.number n).advance cs = some ([], .number (Nat.ofDigitChars 10 cs n)) :=
  advance_digits number (fun _ _ hc => if_pos hc) h n

theorem exists_digits (n : Nat) : ∃ d ds, n.repr.toList = d :: ds ∧ d.isDigit ∧
    (∀ c ∈ ds, c.isDigit) ∧ Nat.ofDigitChars 10 ds (Nat.ofDigitChars 10 [d] 0) = n := by
  have hdigits : ∀ c ∈ Nat.toDigits 10 n, c.isDigit := fun c hc =>
    Nat.isDigit_of_mem_toDigits (by decide) (by decide) hc
  have hvalue : Nat.ofDigitChars 10 (Nat.toDigits 10 n) 0 = n := Nat.ofDigitChars_ten_toDigits
  obtain ⟨d, ds, he⟩ := List.exists_cons_of_ne_nil (Nat.toDigits_ne_nil (n := n) (b := 10))
  rw [he] at hdigits hvalue
  obtain ⟨hd, hds⟩ := List.forall_mem_cons.1 hdigits
  refine ⟨d, ds, by rw [Nat.toList_repr, he], hd, hds, ?_⟩
  simpa [Nat.ofDigitChars_cons] using hvalue

theorem lexes_parameterText (n : Nat) : Lexes (parameterText n).toList [.parameter n] := by
  obtain ⟨d, ds, htext, hd, hds, hvalue⟩ := exists_digits n
  have hfirst : Mode.between.advance ['?', d] =
      some ([], .parameter (Nat.ofDigitChars 10 [d] 0)) := by
    simp [Mode.advance, Mode.step, Mode.start, Mode.isWordChar, hd]
  have hparameter : (parameterText n).toList = ['?', d] ++ ds := by
    simp [parameterText, htext]
  rw [hparameter]
  apply Mode.tokens?_append hfirst
  simp [Mode.tokens?, Mode.advance_parameter hds, hvalue, Mode.finish]

theorem lexes_number (n : Nat) : Lexes n.repr.toList [.number n] := by
  obtain ⟨d, ds, htext, hd, hds, hvalue⟩ := exists_digits n
  have hfirst : Mode.between.advance [d] = some ([], .number (Nat.ofDigitChars 10 [d] 0)) := by
    simp [Mode.advance, Mode.step, Mode.start, hd]
  rw [htext, ← List.singleton_append]
  apply Mode.tokens?_append hfirst
  simp [Mode.tokens?, Mode.advance_number hds, hvalue, Mode.finish]

end CrudPlan.Sql
