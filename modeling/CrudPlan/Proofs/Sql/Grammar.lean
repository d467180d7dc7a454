import CrudPlan.Proofs.Sql.Lexer

namespace CrudPlan.Sql

/-- A conjunction: always true of no condition, and a single condition as it is. -/
def conjoin {α : Type} : List (Condition α) → Condition α
  | [] => .always true
  | [c] => c
  | cs => .and cs

def disjoin {α : Type} : List (Condition α) → Condition α
  | [] => .always false
  | [c] => c
  | cs => .or cs

def parameterList (ps : List Nat) : List Token :=
  [Token.comma].intercalate (ps.map fun p => [.parameter p])

/-- A condition that stands for itself. Numbers are compared as they are. -/
inductive Test : List Token → Condition Nat → Prop
  | always (m n : Nat) : Test [.number m, .comparison .equal, .number n] (.always (m = n))
  | compare (column : String) (comparison : Comparison) (p : Nat) :
      Test [.name column, .comparison comparison, .parameter p] (.compare column comparison p)
  | among (column : String) {ps : List Nat} (h : ps ≠ []) :
      Test (.name column :: .word "IN" :: .opening :: (parameterList ps ++ [.closing]))
        (.among column ps)
  | isNull (column : String) : Test [.name column, .word "IS", .word "NULL"] (.isNull column)
  | isNotNull (column : String) :
      Test [.name column, .word "IS", .word "NOT", .word "NULL"] (.isNotNull column)
  | like (column : String) (p : Nat) :
      Test [.name column, .word "LIKE", .parameter p, .word "ESCAPE", .literal "\\"]
        (.like column p)

inductive Level
  | factor
  | conjunction
  | disjunction

/-- Tokens read as the operands of a conjunction or of a disjunction, or as a single factor. -/
inductive Reads : Level → List Token → List (Condition Nat) → Prop
  | test {ts c} (h : Test ts c) : Reads .factor ts [c]
  | not {ts c} (h : Reads .factor ts [c]) : Reads .factor (.word "NOT" :: ts) [.not c]
  | group {ts cs} (h : Reads .disjunction ts cs) :
      Reads .factor (.opening :: (ts ++ [.closing])) [disjoin cs]
  | factor {ts c} (h : Reads .factor ts [c]) : Reads .conjunction ts [c]
  | and {ts us c cs} (h : Reads .factor ts [c]) (hrest : Reads .conjunction us cs) :
      Reads .conjunction (ts ++ .word "AND" :: us) (c :: cs)
  | conjunction {ts cs} (h : Reads .conjunction ts cs) : Reads .disjunction ts [conjoin cs]
  | or {ts us cs ds} (h : Reads .conjunction ts cs) (hrest : Reads .disjunction us ds) :
      Reads .disjunction (ts ++ .word "OR" :: us) (conjoin cs :: ds)

def ReadsAs (ts : List Token) (c : Condition Nat) : Prop :=
  ∃ cs, Reads .disjunction ts cs ∧ disjoin cs = c

variable {c d : Condition Nat} {cs ds : List (Condition Nat)} {ts us r s : List Token}

theorem parameterList_cons (p q : Nat) (ps : List Nat) :
    parameterList (p :: q :: ps) = .parameter p :: .comma :: parameterList (q :: ps) := by
  simp [parameterList, List.intercalate_cons_cons]

theorem parameterList_unique {ps qs : List Nat} (hp : ps ≠ []) (hq : qs ≠ [])
    (he : parameterList ps ++ .closing :: r = parameterList qs ++ .closing :: s) : ps = qs := by
  induction ps generalizing qs with
  | nil => exact absurd rfl hp
  | cons p ps ih =>
    obtain ⟨q, qs, rfl⟩ := List.exists_cons_of_ne_nil hq
    cases ps with
    | nil =>
      cases qs with
      | nil => simp_all [parameterList]
      | cons q' qs =>
        rw [parameterList_cons] at he
        simp [parameterList] at he
    | cons p' ps =>
      cases qs with
      | nil =>
        rw [parameterList_cons] at he
        simp [parameterList] at he
      | cons q' qs =>
        rw [parameterList_cons, parameterList_cons, List.cons_append, List.cons_append,
          List.cons_append, List.cons_append, List.cons.injEq, List.cons.injEq,
          Token.parameter.injEq] at he
        rw [he.1, ih (by simp) (by simp) he.2.2]

theorem Test.unique (h : Test ts c) (h' : Test us d) (he : ts ++ r = us ++ s) :
    ts = us ∧ c = d := by
  cases h with
  | among column hp =>
    cases h' with
    | among column' hq =>
      simp only [List.cons_append, List.cons.injEq, Token.name.injEq, true_and,
        List.append_assoc, List.nil_append] at he
      rw [he.1, parameterList_unique hp hq he.2]
      exact ⟨rfl, rfl⟩
    | _ => simp at he
  | _ => cases h' <;> simp_all

theorem Test.head (h : Test ts c) :
    (∀ us, ts ++ r ≠ .word "NOT" :: us) ∧ ∀ us, ts ++ r ≠ .opening :: us := by
  cases h <;> simp

/-- What can follow tokens of a level without being part of them. -/
def Level.Follows : Level → List Token → Prop
  | .factor, _ => True
  | .conjunction, r => ∀ us, r ≠ .word "AND" :: us
  | .disjunction, r => (∀ us, r ≠ .word "AND" :: us) ∧ ∀ us, r ≠ .word "OR" :: us

/-- Two readings of one text, up to what may follow, are the same. -/
theorem Reads.unique {l : Level} (h : Reads l ts cs) (h' : Reads l us ds)
    (he : ts ++ r = us ++ s) (hr : l.Follows r) (hs : l.Follows s) : ts = us ∧ cs = ds := by
  -- where one reading stops and the other goes on, the token in between cannot follow the first
  induction h generalizing us ds r s with
  | test ht =>
    cases h' with
    | test ht' =>
      obtain ⟨rfl, rfl⟩ := ht.unique ht' he
      exact ⟨rfl, rfl⟩
    | not _ => exact absurd he (ht.head.1 _)
    | group _ => exact absurd he (ht.head.2 _)
  | not _ ih =>
    cases h' with
    | test ht => exact absurd he.symm (ht.head.1 _)
    | not h' =>
      obtain ⟨rfl, hc⟩ := ih h' (List.cons.inj he).2 hr hs
      cases hc
      exact ⟨rfl, rfl⟩
    | group _ => cases he
  | group _ ih =>
    cases h' with
    | test ht => exact absurd he.symm (ht.head.2 _)
    | not _ => cases he
    | group h' =>
      simp only [List.cons_append, List.append_assoc, List.nil_append, List.cons.injEq,
        true_and] at he
      obtain ⟨rfl, rfl⟩ := ih h' he (by simp [Level.Follows]) (by simp [Level.Follows])
      exact ⟨rfl, rfl⟩
  | factor _ ih =>
    cases h' with
    | factor h' => exact ih h' he trivial trivial
    | and h' _ =>
      rw [List.append_assoc] at he
      obtain ⟨rfl, _⟩ := ih h' he trivial trivial
      exact absurd (List.append_cancel_left he) (hr _)
  | and _ _ ih ihrest =>
    cases h' with
    | factor h' =>
      rw [List.append_assoc] at he
      obtain ⟨rfl, _⟩ := ih h' he trivial trivial
      exact absurd (List.append_cancel_left he).symm (hs _)
    | and h' hrest' =>
      rw [List.append_assoc, List.append_assoc] at he
      obtain ⟨rfl, hc⟩ := ih h' he trivial trivial
      have hrest := (List.cons.inj (List.append_cancel_left he)).2
      obtain ⟨rfl, rfl⟩ := ihrest hrest' hrest hr hs
      cases hc
      exact ⟨rfl, rfl⟩
  | conjunction _ ih =>
    cases h' with
    | conjunction h' =>
      obtain ⟨rfl, rfl⟩ := ih h' he hr.1 hs.1
      exact ⟨rfl, rfl⟩
    | or h' _ =>
      rw [List.append_assoc] at he
      obtain ⟨rfl, _⟩ := ih h' he hr.1 (by simp [Level.Follows])
      exact absurd (List.append_cancel_left he) (hr.2 _)
  | or _ _ ih ihrest =>
    cases h' with
    | conjunction h' =>
      rw [List.append_assoc] at he
      obtain ⟨rfl, _⟩ := ih h' he (by simp [Level.Follows]) hs.1
      exact absurd (List.append_cancel_left he).symm (hs.2 _)
    | or h' hrest' =>
      rw [List.append_assoc, List.append_assoc] at he
      obtain ⟨rfl, rfl⟩ := ih h' he (by simp [Level.Follows]) (by simp [Level.Follows])
      have hrest := (List.cons.inj (List.append_cancel_left he)).2
      obtain ⟨rfl, rfl⟩ := ihrest hrest' hrest hr hs
      exact ⟨rfl, rfl⟩

theorem ReadsAs.unique (h : ReadsAs ts c) (h' : ReadsAs ts d) : c = d := by
  obtain ⟨cs, hc, rfl⟩ := h
  obtain ⟨ds, hd, rfl⟩ := h'
  obtain ⟨_, rfl⟩ := hc.unique hd (r := []) (s := []) rfl (by simp [Level.Follows])
    (by simp [Level.Follows])
  rfl

end CrudPlan.Sql
