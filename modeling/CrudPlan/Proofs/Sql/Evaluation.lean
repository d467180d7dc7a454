import CrudPlan.Proofs.Request.Truth
import CrudPlan.Proofs.Sql.ConditionText
import CrudPlan.Sql.Binding
import Mathlib.Data.List.Infix

namespace CrudPlan.Sql

section

inductive LikeItem
  /-- Any characters, also none. -/
  | run
  /-- Any one character. -/
  | one
  | char (c : Char)
deriving DecidableEq, Repr

/-- The items of a pattern, unless it ends with an escape that escapes nothing. -/
def likeItems : List Char → Option (List LikeItem)
  | [] => some []
  | ['\\'] => none
  | '\\' :: c :: cs => (likeItems cs).map (.char c :: ·)
  | '%' :: cs => (likeItems cs).map (.run :: ·)
  | '_' :: cs => (likeItems cs).map (.one :: ·)
  | c :: cs => (likeItems cs).map (.char c :: ·)

variable (same : Char → Char → Bool)

/-- A text as a whole matches items, where `same` says which characters count as equal. -/
def itemsMatch : List LikeItem → List Char → Bool
  | [], cs => cs.isEmpty
  | .run :: items, cs => cs.tails.any (itemsMatch items)
  | .one :: _, [] => false
  | .one :: items, _ :: cs => itemsMatch items cs
  | .char _ :: _, [] => false
  | .char c :: items, d :: cs => same c d && itemsMatch items cs

def likeMatches (pattern text : String) : Bool :=
  match likeItems pattern.toList with
  | none => false
  | some items => itemsMatch same items text.toList

def startsWith : List Char → List Char → Bool
  | [], _ => true
  | _ :: _, [] => false
  | c :: cs, d :: ds => same c d && startsWith cs ds

def occursIn (needle text : String) : Bool := text.toList.tails.any (startsWith same needle.toList)

theorem likeItems_escapeLike (needle rest : List Char) :
    likeItems (escapeLike needle ++ rest) =
      (likeItems rest).map (needle.map LikeItem.char ++ ·) := by
  induction needle with
  | nil => simp [escapeLike]
  | cons c cs ih =>
    have hcons : escapeLike (c :: cs) ++ rest =
        (if c = '\\' ∨ c = '%' ∨ c = '_' then ['\\', c] else [c]) ++
          (escapeLike cs ++ rest) := by
      simp [escapeLike]
    rw [hcons]
    split
    · simp [likeItems, ih, Function.comp_def]
    · rename_i hc
      simp only [not_or] at hc
      simp [likeItems, hc, ih, Function.comp_def]

theorem likeItems_containsPattern (needle : String) :
    likeItems (containsPattern needle).toList =
      some (.run :: (needle.toList.map LikeItem.char ++ [.run])) := by
  simp [containsPattern, likeItems, likeItems_escapeLike]

theorem itemsMatch_run (cs : List Char) : itemsMatch same [.run] cs = true := by
  simp only [itemsMatch, List.any_eq_true, List.mem_tails]
  exact ⟨[], List.nil_suffix, rfl⟩

theorem itemsMatch_startsWith (needle cs : List Char) :
    itemsMatch same (needle.map LikeItem.char ++ [.run]) cs = startsWith same needle cs := by
  induction needle generalizing cs with
  | nil => exact itemsMatch_run same cs
  | cons c needle ih =>
    cases cs with
    | nil => rfl
    | cons d ds => exact congrArg (same c d && ·) (ih ds)

/-- The pattern for a text matches exactly the texts in which it occurs. -/
theorem likeMatches_containsPattern (needle text : String) :
    likeMatches same (containsPattern needle) text = occursIn same needle text := by
  simp only [likeMatches, likeItems_containsPattern, itemsMatch, occursIn]
  exact congrArg (text.toList.tails.any ·) (funext (itemsMatch_startsWith same needle.toList))

end

abbrev Row := String → Value

/-- What is left to a database: the comparison of the value in a column with another one, where
neither is null, the text of a value, and which characters `LIKE` takes for equal. -/
structure Dialect where
  holds : String → Comparison → Value → Value → Bool
  text : Value → String
  text_text : ∀ s, text (.text s) = s
  same : Char → Char → Bool

namespace Dialect

variable (d : Dialect) (row : Row)

def compare (column : String) (comparison : Comparison) (operand : Value) : Truth :=
  if row column = .null ∨ operand = .null then .unknown
  else .ofBool (d.holds column comparison (row column) operand)

def like (column : String) (pattern : Value) : Truth :=
  if row column = .null ∨ pattern = .null then .unknown
  else .ofBool (likeMatches d.same (d.text pattern) (d.text (row column)))

end Dialect

inductive Connective
  | and
  | or

namespace Connective

/-- What a combination of nothing says. -/
def unit : Connective → Bool
  | .and => true
  | .or => false

def predicate : Connective → List Predicate → Predicate
  | .and => .and
  | .or => .or

def condition {α : Type} : Connective → List (Condition α) → Condition α
  | .and => .and
  | .or => .or

/-- A combination without the brackets around a single condition. -/
def join {α : Type} : Connective → List (Condition α) → Condition α
  | .and => conjoin
  | .or => disjoin

def truth : Connective → List Truth → Truth
  | .and => .all
  | .or => .any

theorem leaves_predicate (k : Connective) (ps : List Predicate) :
    (k.predicate ps).leaves = Predicate.leaves.leavesOfAll ps := by
  cases k <;> rfl

theorem truth_singleton (k : Connective) (t : Truth) : k.truth [t] = t := by
  cases k with
  | and => exact Truth.all_singleton t
  | or => exact Truth.any_singleton t

end Connective

namespace Condition

def map {α β : Type} (f : α → β) : Condition α → Condition β
  | .always b => .always b
  | .compare column comparison operand => .compare column comparison (f operand)
  | .among column operands => .among column (operands.map f)
  | .isNull column => .isNull column
  | .isNotNull column => .isNotNull column
  | .like column pattern => .like column (f pattern)
  | .and children => .and (mapAll f children)
  | .or children => .or (mapAll f children)
  | .not child => .not (child.map f)
where
  mapAll {α β : Type} (f : α → β) : List (Condition α) → List (Condition β)
    | [] => []
    | c :: rest => c.map f :: mapAll f rest

def value (d : Dialect) (row : Row) : Condition Value → Truth
  | .always b => .ofBool b
  | .compare column comparison operand => d.compare row column comparison operand
  | .among column operands => .any (operands.map (d.compare row column .equal))
  | .isNull column => .ofBool (row column = .null)
  | .isNotNull column => .ofBool (row column ≠ .null)
  | .like column pattern => d.like row column pattern
  | .and children => .all (values d row children)
  | .or children => .any (values d row children)
  | .not child => (child.value d row).not
where
  values (d : Dialect) (row : Row) : List (Condition Value) → List Truth
    | [] => []
    | c :: rest => c.value d row :: values d row rest

variable {α β : Type} {d : Dialect} {row : Row}

theorem mapAll_eq_map (f : α → β) (cs : List (Condition α)) :
    map.mapAll f cs = cs.map (Condition.map f) := by
  induction cs with
  | nil => rfl
  | cons c cs ih => rw [map.mapAll, ih, List.map_cons]

theorem values_eq_map (cs : List (Condition Value)) :
    value.values d row cs = cs.map (Condition.value d row) := by
  induction cs with
  | nil => rfl
  | cons c cs ih => rw [value.values, ih, List.map_cons]

theorem map_join (k : Connective) (f : α → β) (cs : List (Condition α)) :
    (k.join cs).map f = k.join (cs.map (Condition.map f)) := by
  match cs with
  | [] => cases k <;> rfl
  | [_] => cases k <;> rfl
  | _ :: _ :: _ => cases k <;> simp [Connective.join, conjoin, disjoin, map, mapAll_eq_map]

theorem map_conjoin (f : α → β) (cs : List (Condition α)) :
    (conjoin cs).map f = conjoin (cs.map (Condition.map f)) :=
  map_join .and f cs

@[elab_as_elim]
theorem induction {motive : Condition α → Prop} (always : ∀ b, motive (.always b))
    (compare : ∀ column comparison operand, motive (.compare column comparison operand))
    (among : ∀ column operands, motive (.among column operands))
    (isNull : ∀ column, motive (.isNull column))
    (isNotNull : ∀ column, motive (.isNotNull column))
    (like : ∀ column pattern, motive (.like column pattern))
    (and : ∀ children, (∀ c ∈ children, motive c) → motive (.and children))
    (or : ∀ children, (∀ c ∈ children, motive c) → motive (.or children))
    (not : ∀ child, motive child → motive (.not child)) (c : Condition α) : motive c :=
  @Condition.rec α motive (fun children => ∀ c ∈ children, motive c) always compare among isNull
    isNotNull like and or not (List.forall_mem_nil _)
    (fun _ _ h ih => List.forall_mem_cons.2 ⟨h, ih⟩) c

theorem map_map {γ : Type} (f : α → β) (g : β → γ) (c : Condition α) :
    (c.map f).map g = c.map (g ∘ f) := by
  induction c using Condition.induction with
  | among column operands => simp [map]
  | and children ih | or children ih =>
    simp only [map, mapAll_eq_map, List.map_map]
    exact congrArg _ (List.map_congr_left ih)
  | not child ih => simp only [map, ih]
  | _ => rfl

theorem map_id (c : Condition α) : c.map id = c := by
  induction c using Condition.induction with
  | among column operands => simp [map]
  | and children ih | or children ih =>
    rw [map, mapAll_eq_map, List.map_congr_left ih, List.map_id']
  | not child ih => rw [map, ih]
  | _ => rfl

theorem value_join (k : Connective) (cs : List (Condition Value)) :
    (k.join cs).value d row = k.truth (cs.map (Condition.value d row)) := by
  match cs with
  | [] => cases k <;> rfl
  | [c] =>
    rw [List.map_singleton, k.truth_singleton]
    cases k <;> rfl
  | _ :: _ :: _ =>
    cases k <;>
      simp [Connective.join, Connective.truth, conjoin, disjoin, value, values_eq_map]

theorem value_conjoin (cs : List (Condition Value)) :
    (conjoin cs).value d row = .all (cs.map (Condition.value d row)) :=
  value_join .and cs

theorem flat_condition (k : Connective) (cs : List (Condition α)) :
    (k.condition cs).flat = k.join (cs.map Condition.flat) := by
  rw [← flats_eq_map]
  cases k <;> rfl

theorem Proper.condition (k : Connective) {cs : List (Condition α)} (hne : cs ≠ [])
    (h : ∀ c ∈ cs, c.Proper) : (k.condition cs).Proper := by
  cases k with
  | and => exact .and hne h
  | or => exact .or hne h

end Condition

end CrudPlan.Sql
