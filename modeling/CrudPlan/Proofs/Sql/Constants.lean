import CrudPlan.Proofs.Sql.Parameters
import CrudPlan.Proofs.Sql.Statements
import Mathlib.Data.List.Chain

namespace CrudPlan

open Sql

namespace Sql

/-- The value that a scalar is bound as. Lists and objects have none. -/
def Value.ofScalar? : Json → Option Value
  | .null => some .null
  | .bool b => some (.bool b)
  | .num (.int n) => some (ofInt n)
  | .num (.real x) => some (.real x)
  | .str s => some (.text s)
  | .arr _ | .obj _ => none

theorem Value.ofScalar?_eq {x : Json} (h : x.isScalar) : ofScalar? x = some (ofJson x) := by
  cases x with
  | num n => cases n <;> rfl
  | arr items => cases h
  | obj members => cases h
  | _ => rfl

def Token.number? : Token → Option Nat
  | number n => some n
  | _ => none

/-- The numbers in a condition. Those of parameters are none of them. -/
def Condition.numbers (c : Condition Nat) : List Nat := c.tokens.filterMap Token.number?

end Sql

namespace Leaf

/-- The values that a test binds, if its operand has a counterpart in a column. -/
def plainValues? (l : Leaf) : Option (List Value) :=
  match l.operator, l.operand with
  | .in, .arr items => items.mapM Value.ofScalar?
  | .isNull, .bool _ => some []
  | .includes, .str s => some [.text (containsPattern s)]
  | .in, _ | .isNull, _ | .includes, _ => none
  | _, operand => (Value.ofScalar? operand).map fun v => [v]

/-- The numbers of the constant `1 = 0` for a test against an empty list. -/
def numbers (l : Leaf) : List Nat :=
  match l.operator, l.operand with
  | .in, .arr [] => [1, 0]
  | _, _ => []

end Leaf

variable {m : Model} {p : Predicate} {ps : List Predicate} {l : Leaf} {ls : List Leaf} {b : Bound}
  {cs : List (Condition Nat)} {vs : List Value} {taken : Nat}

theorem mapM_ofScalar? {items : List Json} (h : ∀ x ∈ items, x.isScalar) :
    items.mapM Value.ofScalar? = some (items.map Value.ofJson) := by
  induction items with
  | nil => rfl
  | cons x items ih =>
    obtain ⟨hx, hitems⟩ := List.forall_mem_cons.1 h
    rw [List.mapM_cons, Value.ofScalar?_eq hx, ih hitems]
    rfl

theorem Leaf.Fits.plainValues?_eq (h : l.Fits m) : l.plainValues? = some l.values := by
  obtain ⟨field, operator, operand⟩ := l
  have htakes := h.takes
  cases operator with
  | «in» =>
    obtain ⟨items, rfl, hitems⟩ := htakes
    exact mapM_ofScalar? hitems
  | isNull =>
    obtain ⟨b, rfl⟩ := htakes
    rfl
  | includes =>
    obtain ⟨s, rfl⟩ := htakes
    rfl
  | _ => exact congrArg (Option.map _) (Value.ofScalar?_eq htakes)

theorem mapM_plainValues? (h : ∀ l ∈ ls, l.Fits m) :
    ls.mapM Leaf.plainValues? = some (ls.map Leaf.values) := by
  induction ls with
  | nil => rfl
  | cons l ls ih =>
    obtain ⟨hl, hls⟩ := List.forall_mem_cons.1 h
    rw [List.mapM_cons, hl.plainValues?_eq, ih hls]
    rfl

theorem isChain_numbers (ls : List Leaf) : (0 :: ls.flatMap Leaf.numbers).IsChain (· ≠ ·) := by
  induction ls with
  | nil => exact .singleton 0
  | cons l ls ih =>
    rw [List.flatMap_cons, Leaf.numbers]
    split
    · exact .cons_cons (by decide) (.cons_cons (by decide) ih)
    · exact ih

namespace Sql

namespace Condition

theorem numbers_among (column : String) (ps : List Nat) : (among column ps).numbers = [] := by
  have hlist : (parameterList ps).filterMap Token.number? = [] := by
    rw [parameterList, filterMap_intercalate rfl, List.flatMap_map]
    exact List.flatMap_eq_nil_iff.2 fun _ _ => rfl
  simp [numbers, tokens, Token.number?, List.filterMap_cons, hlist]

theorem numbers_conditions (w : String) (cs : List (Condition Nat)) :
    ([.word w].intercalate (cs.map tokens)).filterMap Token.number? = cs.flatMap numbers := by
  rw [filterMap_intercalate rfl, List.flatMap_map]
  rfl

theorem numbers_condition (k : Connective) (cs : List (Condition Nat)) :
    (k.condition cs).numbers = cs.flatMap numbers := by
  cases k <;>
    simp [Connective.condition, numbers, tokens, tokenLists_eq_map, Token.number?,
      List.filterMap_cons, numbers_conditions]

theorem numbers_not (c : Condition Nat) : c.not.numbers = c.numbers := by
  simp [numbers, tokens, Token.number?, List.filterMap_cons]

end Condition

theorem numbers_bindOperator (taken : Nat) (column field : String) (operator : Operator)
    (operand : Json) : (bindOperator taken column operator operand).condition.numbers =
      Leaf.numbers ⟨field, operator, operand⟩ := by
  cases operator with
  | «in» =>
    cases operand with
    | arr items =>
      cases items with
      | nil => rfl
      | cons x items => exact Condition.numbers_among column _
    | _ => exact Condition.numbers_among column _
  | isNull =>
    cases operand with
    | bool b => cases b <;> rfl
    | _ => rfl
  | _ => rfl

def BindsNumbers (m : Model) (p : Predicate) : Prop :=
  ∀ {taken b}, bindPredicate m taken p = .ok b →
    b.condition.numbers = p.leaves.flatMap Leaf.numbers

theorem bindAll_numbers (h : ∀ p ∈ ps, BindsNumbers m p)
    (hb : bindPredicate.bindAll m taken ps = .ok (cs, vs)) :
    cs.flatMap Condition.numbers = (Predicate.leaves.leavesOfAll ps).flatMap Leaf.numbers := by
  induction ps generalizing taken cs vs with
  | nil =>
    cases hb
    rfl
  | cons p ps ih =>
    obtain ⟨hp, h⟩ := List.forall_mem_cons.1 h
    obtain ⟨b, hfirst, hb⟩ := bind_eq_ok_iff.1 hb
    obtain ⟨⟨cs', vs'⟩, hrest, he⟩ := bind_eq_ok_iff.1 hb
    cases he
    rw [List.flatMap_cons, Predicate.leaves.leavesOfAll, List.flatMap_append, hp hfirst,
      ih h hrest]

theorem bindsNumbers_predicate (k : Connective) (hne : ps ≠ [])
    (h : ∀ p ∈ ps, BindsNumbers m p) : BindsNumbers m (k.predicate ps) := by
  intro taken b hb
  rw [bindPredicate_predicate, if_neg (by simpa using hne)] at hb
  obtain ⟨⟨cs, vs⟩, hall, he⟩ := bind_eq_ok_iff.1 hb
  cases he
  rw [Condition.numbers_condition, k.leaves_predicate, bindAll_numbers h hall]

theorem bindPredicate_numbers (h : p.Tidy m) : BindsNumbers m p := by
  induction h with
  | @compare field operator operand hl =>
    intro taken b hb
    obtain ⟨f, hf⟩ := Model.hasField_iff.1 hl.field
    rw [bindPredicate, hf] at hb
    cases hb
    simpa [Predicate.leaves] using numbers_bindOperator taken f.columnName field operator operand
  | and hne _ ih => exact bindsNumbers_predicate .and hne ih
  | or hne _ ih => exact bindsNumbers_predicate .or hne ih
  | not _ ih =>
    intro taken b hb
    rw [bindPredicate] at hb
    obtain ⟨b', hb', he⟩ := bind_eq_ok_iff.1 hb
    cases he
    exact (Condition.numbers_not _).trans (ih hb')

theorem not_always {ts : List Token} (h : ts.filterMap Token.number? = ls.flatMap Leaf.numbers) :
    ¬ [.number 1, .comparison .equal, .number 1] <:+: ts := by
  rintro ⟨front, back, rfl⟩
  -- the constant would put two equal numbers next to each other
  have hsplit : 0 :: ls.flatMap Leaf.numbers =
      (0 :: front.filterMap Token.number?) ++ 1 :: 1 :: back.filterMap Token.number? := by
    rw [← h]
    simp [Token.number?, List.filterMap_cons]
  exact List.isChain_iff_forall_rel_of_append_cons_cons.1 (isChain_numbers ls) hsplit rfl

theorem tidy_renders (h : p.Tidy m) (taken : Nat) :
    ∃ b ts, bindPredicate m taken p = .ok b ∧ Lexes b.condition.text.toList ts ∧
      ts.filterMap Token.number? = p.leaves.flatMap Leaf.numbers ∧
      b.values = p.leaves.flatMap Leaf.values := by
  obtain ⟨b, hb⟩ := (hasCondition m p taken).2 fun l hl => (h.fits l hl).field
  obtain ⟨t, _, hmeans⟩ := bindPredicate_means m p hb
  exact ⟨b, _, hb, hmeans.proper.lexes, bindPredicate_numbers h hb,
    (bindPredicate_bindsValues m p hb).2⟩

end Sql

namespace Filter

/-- The predicate of a filter is tidy, and no operand in it is or contains an object. Its condition
has `1 = 0` for each test against an empty list and no constant besides, never `1 = 1`, and every
value that it binds is that of a scalar or the pattern of a text. -/
theorem optionalPredicate_renders (m : Model) (filter : Option Json) (p : Predicate)
    (h : optionalPredicate m filter = .ok (some p)) :
    p.Tidy m ∧ (∀ l ∈ p.leaves, ¬ l.operand.ContainsObject) ∧
      ∀ taken, ∃ b ts vss, bindPredicate m taken p = .ok b ∧ Lexes b.condition.text.toList ts ∧
        ts.filterMap Token.number? = p.leaves.flatMap Leaf.numbers ∧
        ¬ [.number 1, .comparison .equal, .number 1] <:+: ts ∧
        p.leaves.mapM Leaf.plainValues? = some vss ∧ b.values = vss.flatten := by
  have htidy := optionalPredicate_tidies m filter _ h p rfl
  refine ⟨htidy, fun l hl => (htidy.fits l hl).takes.not_containsObject, fun taken => ?_⟩
  obtain ⟨b, ts, hb, hts, hnumbers, hvalues⟩ := tidy_renders htidy taken
  exact ⟨b, ts, _, hb, hts, hnumbers, not_always hnumbers, mapM_plainValues? htidy.fits,
    hvalues.trans List.flatMap_def⟩

theorem optionalPredicate_renders_untitled : ∃ p b ts,
    optionalPredicate note (some untitled) = .ok (some p) ∧
      bindPredicate note 0 p = .ok b ∧ Lexes b.condition.text.toList ts ∧
      ts.filterMap Token.number? = [1, 0] ∧ b.values = [.int 1, .int 9] := by
  obtain ⟨_, _, h⟩ := optionalPredicate_renders note (some untitled) _ rfl
  obtain ⟨b, ts, vss, hb, hts, hnumbers, _, hvss, hvalues⟩ := h 0
  have hplain : some vss = some [[Value.int 1], [Value.int 9], [], []] := hvss.symm.trans rfl
  cases hplain
  exact ⟨_, b, ts, rfl, hb, hts, hnumbers, hvalues⟩

end Filter

end CrudPlan
