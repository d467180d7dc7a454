import CrudPlan.Proofs.Sql.Grammar

namespace CrudPlan.Sql

namespace Condition

/-- No list in a condition is empty, so that it has a text that reads as a condition. -/
inductive Proper {α : Type} : Condition α → Prop
  | always (b : Bool) : Proper (.always b)
  | compare (column : String) (comparison : Comparison) (operand : α) :
      Proper (.compare column comparison operand)
  | among (column : String) {operands : List α} (h : operands ≠ []) :
      Proper (.among column operands)
  | isNull (column : String) : Proper (.isNull column)
  | isNotNull (column : String) : Proper (.isNotNull column)
  | like (column : String) (pattern : α) : Proper (.like column pattern)
  | and {children : List (Condition α)} (h : children ≠ []) (hc : ∀ c ∈ children, Proper c) :
      Proper (.and children)
  | or {children : List (Condition α)} (h : children ≠ []) (hc : ∀ c ∈ children, Proper c) :
      Proper (.or children)
  | not {child : Condition α} (h : Proper child) : Proper (.not child)

/-- A condition without conjunctions and disjunctions of a single condition or of none. -/
def flat {α : Type} : Condition α → Condition α
  | .and children => conjoin (flats children)
  | .or children => disjoin (flats children)
  | .not child => .not child.flat
  | c => c
where
  flats : List (Condition α) → List (Condition α)
    | [] => []
    | c :: rest => c.flat :: flats rest

def tokens : Condition Nat → List Token
  | .always b => [.number 1, .comparison .equal, .number b.toNat]
  | .compare column comparison p => [.name column, .comparison comparison, .parameter p]
  | .among column ps => .name column :: .word "IN" :: .opening :: (parameterList ps ++ [.closing])
  | .isNull column => [.name column, .word "IS", .word "NULL"]
  | .isNotNull column => [.name column, .word "IS", .word "NOT", .word "NULL"]
  | .like column p => [.name column, .word "LIKE", .parameter p, .word "ESCAPE", .literal "\\"]
  | .and children => .opening :: ([.word "AND"].intercalate (tokenLists children) ++ [.closing])
  | .or children => .opening :: ([.word "OR"].intercalate (tokenLists children) ++ [.closing])
  | .not child => .word "NOT" :: .opening :: (child.tokens ++ [.closing])
where
  tokenLists : List (Condition Nat) → List (List Token)
    | [] => []
    | c :: rest => c.tokens :: tokenLists rest

variable {α : Type} {c : Condition Nat} {cs : List (Condition Nat)}

theorem flats_eq_map (cs : List (Condition α)) : flat.flats cs = cs.map flat := by
  induction cs with
  | nil => rfl
  | cons c cs ih => rw [flat.flats, ih, List.map_cons]

theorem tokenLists_eq_map (cs : List (Condition Nat)) : tokens.tokenLists cs = cs.map tokens := by
  induction cs with
  | nil => rfl
  | cons c cs ih => rw [tokens.tokenLists, ih, List.map_cons]

theorem texts_eq_map (cs : List (Condition Nat)) : text.texts cs = cs.map text := by
  induction cs with
  | nil => rfl
  | cons c cs ih => rw [text.texts, ih, List.map_cons]

end Condition

variable {c : Condition Nat} {cs : List (Condition Nat)} {tss : List (List Token)}

theorem standsApart_cons {ch : Char} {b : List Char} (h : Separates ch) :
    StandsApart (ch :: b) := by
  intro d ds he
  cases he
  exact h

/-- A text without names and numbers, which starts apart and leaves nothing incomplete. -/
structure Fixed (s : String) (ts : List Token) : Prop where
  advance : Mode.between.advance s.toList = some (ts, .between)
  ne_nil : s.toList ≠ []
  apart : StandsApart s.toList

theorem Fixed.apart_append {s : String} {ts : List Token} (h : Fixed s ts) (b : List Char) :
    StandsApart (s.toList ++ b) := by
  obtain ⟨ch, rest, he⟩ := List.exists_cons_of_ne_nil h.ne_nil
  rw [he, List.cons_append]
  exact standsApart_cons (h.apart ch rest he)

theorem Lexes.join {a b : List Char} {s : String} {ts us vs : List Token} (ha : Lexes a ts)
    (hs : Fixed s us) (hb : Lexes b vs) : Lexes (a ++ (s.toList ++ b)) (ts ++ (us ++ vs)) :=
  ha.append (.append_of_advance hs.advance hb) (hs.apart_append b)

theorem fixed_of_blank {s : String} {ts : List Token} {rest : List Char}
    (hs : s.toList = ' ' :: rest) (h : Mode.between.advance s.toList = some (ts, .between)) :
    Fixed s ts :=
  ⟨h, by simp [hs], hs ▸ standsApart_cons (.inl rfl)⟩

theorem fixed_comma : Fixed ", " [.comma] :=
  ⟨rfl, by decide, standsApart_cons (.inr (.inl rfl))⟩

/-- Texts with a fixed one between each two of them. -/
theorem Fixed.intercalate {α : Type} {s : String} {st : List Token} {f : α → String}
    {g : α → List Token} {xs : List α} (hs : Fixed s st)
    (h : ∀ x ∈ xs, Lexes (f x).toList (g x)) :
    Lexes (s.intercalate (xs.map f)).toList (st.intercalate (xs.map g)) := by
  rw [String.toList_intercalate]
  apply Lexes.intercalate hs.advance hs.ne_nil hs.apart
  rw [List.map_map, List.forall₂_map_left_iff, List.forall₂_map_right_iff, List.forall₂_same]
  exact h

theorem lexes_parameterList (ps : List Nat) :
    Lexes (", ".intercalate (ps.map parameterText)).toList (parameterList ps) :=
  fixed_comma.intercalate fun p _ => lexes_parameterText p

theorem fixed_symbol (comparison : Comparison) :
    Fixed (" " ++ comparison.symbol ++ " ") [.comparison comparison] := by
  cases comparison <;> exact fixed_of_blank rfl rfl

theorem Lexes.bracket {s : String} {a : List Char} {start ts : List Token}
    (hs : Mode.between.advance s.toList = some (start, .between)) (ha : Lexes a ts) :
    Lexes (s.toList ++ (a ++ ")".toList)) (start ++ (ts ++ [.closing])) :=
  .append_of_advance hs (ha.append rfl (standsApart_cons (.inr (.inr rfl))))

theorem Condition.Proper.lexes (h : c.Proper) : Lexes c.text.toList c.tokens := by
  have hopen : Mode.between.advance "(".toList = some ([.opening], .between) := rfl
  induction h with
  | always b => cases b <;> rfl
  | compare column comparison p =>
    have htext := (lexes_quoteName column).join (fixed_symbol comparison) (lexes_parameterText p)
    simpa [text, tokens] using htext
  | @among column ps hne =>
    have hin : Mode.between.advance " IN (".toList = some ([.word "IN", .opening], .between) := rfl
    have hlist := Lexes.bracket hin (lexes_parameterList ps)
    have htext := (lexes_quoteName column).append hlist (standsApart_cons (.inl rfl))
    simpa [text, tokens] using htext
  | isNull column =>
    have hend : Lexes " IS NULL".toList [.word "IS", .word "NULL"] := rfl
    have htext := (lexes_quoteName column).append hend (standsApart_cons (.inl rfl))
    simpa [text, tokens] using htext
  | isNotNull column =>
    have hend : Lexes " IS NOT NULL".toList [.word "IS", .word "NOT", .word "NULL"] := rfl
    have htext := (lexes_quoteName column).append hend (standsApart_cons (.inl rfl))
    simpa [text, tokens] using htext
  | like column p =>
    have hlike : Fixed " LIKE " [.word "LIKE"] := fixed_of_blank rfl rfl
    have hend : Lexes " ESCAPE '\\'".toList [.word "ESCAPE", .literal "\\"] := rfl
    have hpattern := (lexes_parameterText p).append hend (standsApart_cons (.inl rfl))
    have htext := (lexes_quoteName column).join hlike hpattern
    simpa [text, tokens] using htext
  | @and children hne hc ih =>
    have hand : Fixed " AND " [.word "AND"] := fixed_of_blank rfl rfl
    have htext := Lexes.bracket hopen (hand.intercalate ih)
    simpa [text, tokens, texts_eq_map, tokenLists_eq_map] using htext
  | @or children hne hc ih =>
    have hor : Fixed " OR " [.word "OR"] := fixed_of_blank rfl rfl
    have htext := Lexes.bracket hopen (hor.intercalate ih)
    simpa [text, tokens, texts_eq_map, tokenLists_eq_map] using htext
  | not h ih =>
    have hopen : Mode.between.advance "NOT (".toList = some ([.word "NOT", .opening], .between) :=
      rfl
    have htext := Lexes.bracket hopen ih
    simpa [text, tokens] using htext

/-- Operands with a word between each two of them read as a list, if one of them does and if one
more may stand in front. -/
theorem reads_intercalate {R : List Token → List (Condition Nat) → Prop} {w : Token}
    (one : ∀ {c : Condition Nat}, Reads .factor c.tokens [c.flat] → R c.tokens [c.flat])
    (more : ∀ {c : Condition Nat} {us ds}, Reads .factor c.tokens [c.flat] → R us ds →
      R (c.tokens ++ w :: us) (c.flat :: ds))
    (hne : cs ≠ []) (h : ∀ c ∈ cs, Reads .factor c.tokens [c.flat]) :
    R ([w].intercalate (cs.map Condition.tokens)) (cs.map Condition.flat) := by
  induction cs with
  | nil => exact absurd rfl hne
  | cons c cs ih =>
    obtain ⟨hc, hcs⟩ := List.forall_mem_cons.1 h
    cases cs with
    | nil => simpa using one hc
    | cons d ds => simpa [List.intercalate_cons_cons] using more hc (ih (by simp) hcs)

theorem reads_conjunction (hne : cs ≠ []) (h : ∀ c ∈ cs, Reads .factor c.tokens [c.flat]) :
    Reads .conjunction ([.word "AND"].intercalate (cs.map Condition.tokens))
      (cs.map Condition.flat) :=
  reads_intercalate .factor .and hne h

theorem reads_disjunction (hne : cs ≠ []) (h : ∀ c ∈ cs, Reads .factor c.tokens [c.flat]) :
    Reads .disjunction ([.word "OR"].intercalate (cs.map Condition.tokens))
      (cs.map Condition.flat) :=
  reads_intercalate (fun hc => .conjunction (.factor hc)) (fun hc => .or (.factor hc)) hne h

theorem Condition.Proper.reads (h : c.Proper) : Reads .factor c.tokens [c.flat] := by
  induction h with
  | always b => cases b <;> exact .test (.always 1 _)
  | compare column comparison p => exact .test (.compare column comparison p)
  | among column hne => exact .test (.among column hne)
  | isNull column => exact .test (.isNull column)
  | isNotNull column => exact .test (.isNotNull column)
  | like column p => exact .test (.like column p)
  | and hne hc ih =>
    rw [tokens, flat, tokenLists_eq_map, flats_eq_map]
    exact .group (.conjunction (reads_conjunction hne ih))
  | or hne hc ih =>
    rw [tokens, flat, tokenLists_eq_map, flats_eq_map]
    exact .group (reads_disjunction hne ih)
  | not h ih => exact .not (.group (.conjunction (.factor ih)))

/-- Conditions between `AND`, without brackets around them, read as their conjunction. -/
theorem readsAs_conjoin (hne : cs ≠ []) (h : ∀ c ∈ cs, c.Proper) :
    ReadsAs ([.word "AND"].intercalate (cs.map Condition.tokens))
      (conjoin (cs.map Condition.flat)) :=
  ⟨_, .conjunction (reads_conjunction hne fun c hc => (h c hc).reads), rfl⟩

end CrudPlan.Sql
