import CrudPlan.Proofs.Request.Translation

namespace CrudPlan

namespace Filter

/-- Operators with their operands, as they may stand under the name of a field. -/
inductive Operations : Json → Prop
  | null : Operations .null
  | obj {operations} (h : ∀ e ∈ Entries.sort operations,
      ∃ o : Operator, o.name = e.1 ∧ (e.2 = .null ∨ o.Takes e.2)) : Operations (.obj operations)

mutual

/-- The grammar of filters on a model. -/
inductive Accepted (m : Model) : Json → Prop
  | null : Accepted m .null
  | obj {members} (h : ∀ e ∈ Entries.sort members, AcceptedMember m e.1 e.2) :
      Accepted m (.obj members)

inductive AcceptedMember (m : Model) : String → Json → Prop
  | and {x} (h : AcceptedList m x) : AcceptedMember m "and" x
  | or {x} (h : AcceptedList m x) : AcceptedMember m "or" x
  | not {x} (h : Accepted m x) : AcceptedMember m "not" x
  | field {name x} (hname : name ∉ connectives) (hfield : m.hasField name) (h : Operations x) :
      AcceptedMember m name x

inductive AcceptedList (m : Model) : Json → Prop
  | null : AcceptedList m .null
  | arr {items} (h : ∀ x ∈ items, Accepted m x) : AcceptedList m (.arr items)
  | obj {members} (h : Accepted m (.obj members)) : AcceptedList m (.obj members)

end

/-- A place in a filter, with what stands there. -/
inductive Place
  | filter (x : Json)
  | operands (key : String) (x : Json)
  | field (name : String) (x : Json)
  | operation (field name : String) (operand : Json)

namespace Place

def ofMember (key : String) (x : Json) : Place :=
  if key = "and" ∨ key = "or" then .operands key x
  else if key = "not" then .filter x
  else .field key x

theorem ofMember_field {key : String} (h : key ∉ connectives) (x : Json) :
    ofMember key x = .field key x := by
  obtain ⟨hand, hor, hnot⟩ := not_mem_connectives_iff.1 h
  rw [ofMember, if_neg (not_or.2 ⟨hand, hor⟩), if_neg hnot]

/-- The places right below a place. An object under `and` or `or` is a list of itself. -/
def below : Place → List Place
  | .filter (.obj members) => (Entries.sort members).map fun e => ofMember e.1 e.2
  | .operands _ (.arr items) => items.map .filter
  | .operands _ (.obj members) => [.filter (.obj members)]
  | .field name (.obj operations) =>
    (Entries.sort operations).map fun e => .operation name e.1 e.2
  | _ => []

-- an object under `and` or `or` comes up twice, as the list and as its only filter
noncomputable def size : Place → Nat
  | .operands _ x => 2 * sizeOf x + 1
  | .filter x | .field _ x | .operation _ _ x => 2 * sizeOf x

theorem size_ofMember_le (key : String) (x : Json) : (ofMember key x).size ≤ 2 * sizeOf x + 1 := by
  unfold ofMember
  split
  · exact Nat.le_refl _
  · split
    · exact Nat.le_succ _
    · exact Nat.le_succ _

theorem sizeOf_lt_of_mem_sort {members : List (String × Json)} {e : String × Json}
    (h : e ∈ Entries.sort members) : sizeOf e.2 < sizeOf (Json.obj members) := by
  obtain ⟨key, x⟩ := e
  have hmem := List.sizeOf_lt_of_mem (Entries.mem_of_mem_sort h)
  rw [Prod.mk.sizeOf_spec] at hmem
  rw [Json.obj.sizeOf_spec]
  change sizeOf x < _
  omega

theorem size_lt_of_mem_below {p q : Place} (h : q ∈ p.below) : q.size < p.size := by
  unfold below at h
  split at h
  · obtain ⟨e, he, rfl⟩ := List.mem_map.1 h
    have hle := size_ofMember_le e.1 e.2
    have hlt := sizeOf_lt_of_mem_sort he
    change _ < 2 * _
    omega
  · obtain ⟨x, hx, rfl⟩ := List.mem_map.1 h
    have hlt := List.sizeOf_lt_of_mem hx
    simp only [size, Json.arr.sizeOf_spec]
    omega
  · cases List.mem_singleton.1 h
    exact Nat.lt_succ_self _
  · obtain ⟨e, he, rfl⟩ := List.mem_map.1 h
    have hlt := sizeOf_lt_of_mem_sort he
    simp only [size]
    omega
  · cases h

/-- A place and those below it, depth first. -/
def walk (p : Place) : List Place := p :: p.below.attach.flatMap fun q => q.1.walk
termination_by p.size
decreasing_by exact size_lt_of_mem_below q.2

theorem walk_eq (p : Place) : p.walk = p :: p.below.flatMap walk := by
  rw [walk]
  congr 1
  exact List.flatMap_subtype (fun _ _ => rfl) |>.trans (by rw [List.unattach_attach])

end Place

/-- What is wrong with a place itself, whatever stands below it. -/
inductive Violates (m : Model) : Place → FilterError → Prop
  | notObject {x} (hnull : x ≠ .null) (hobj : ∀ members, x ≠ .obj members) :
      Violates m (.filter x) (.malformed (.notObject x.kind))
  | notFilters {key x} (hnull : x ≠ .null) (harr : ∀ items, x ≠ .arr items)
      (hobj : ∀ members, x ≠ .obj members) :
      Violates m (.operands key x) (.malformed (.notFilters key x.kind))
  | unknownField {name x} (h : ¬ m.hasField name) :
      Violates m (.field name x) (.unknownField m.name name)
  | notOperators {name x} (hfield : m.hasField name) (hnull : x ≠ .null)
      (hobj : ∀ operations, x ≠ .obj operations) :
      Violates m (.field name x) (.malformed (.notOperators name x.kind))
  | unknownOperator {field name operand} (h : ∀ o : Operator, o.name ≠ name) :
      Violates m (.operation field name operand) (.unknownOperator m.name field name)
  | invalidOperand {field o operand} (hnull : operand ≠ .null) (h : ¬ Operator.Takes o operand) :
      Violates m (.operation field o.name operand)
        (.invalidOperand field o (o.wanted operand) operand.kind)

/-- The first place that is in error, with its own error. -/
inductive FirstOffence (m : Model) : List Place → FilterError → Prop
  | here {p ps e} (h : Violates m p e) : FirstOffence m (p :: ps) e
  | later {p ps e} (hp : ∀ e, ¬ Violates m p e) (h : FirstOffence m ps e) :
      FirstOffence m (p :: ps) e

variable {m : Model} {p : Place} {ps qs : List Place} {e e' : FilterError} {name key : String}
variable {x operand : Json}

theorem Violates.unique (h : Violates m p e) (h' : Violates m p e') : e = e' := by
  cases h with
  | notObject => cases h'; rfl
  | notFilters => cases h'; rfl
  | unknownField hfield =>
    cases h' with
    | unknownField => rfl
    | notOperators hfield' => exact absurd hfield' hfield
  | notOperators hfield =>
    cases h' with
    | unknownField hfield' => exact absurd hfield hfield'
    | notOperators => rfl
  | unknownOperator hname =>
    cases h' with
    | unknownOperator => rfl
    | invalidOperand => exact absurd rfl (hname _)
  | @invalidOperand _ o =>
    generalize hname : o.name = name at h'
    cases h' with
    | unknownOperator h => exact absurd hname (h o)
    | @invalidOperand _ o' =>
      cases Operator.name_injective hname
      rfl

/-- None of the places is in error. -/
def Clean (m : Model) (ps : List Place) : Prop := ∀ p ∈ ps, ∀ e, ¬ Violates m p e

theorem FirstOffence.unique (h : FirstOffence m ps e) (h' : FirstOffence m ps e') : e = e' := by
  induction h with
  | here h =>
    cases h' with
    | here h' => exact h.unique h'
    | later hp => exact absurd h (hp _)
  | later hp _ ih =>
    cases h' with
    | here h' => exact absurd h' (hp _)
    | later _ h' => exact ih h'

theorem FirstOffence.not_clean (h : FirstOffence m ps e) : ¬ Clean m ps := by
  induction h with
  | here h => exact fun hclean => hclean _ List.mem_cons_self _ h
  | later _ _ ih => exact fun hclean => ih fun p hp => hclean p (List.mem_cons_of_mem _ hp)

theorem FirstOffence.append_right (h : FirstOffence m ps e) (qs : List Place) :
    FirstOffence m (ps ++ qs) e := by
  induction h with
  | here h => exact .here h
  | later hp _ ih => exact .later hp ih

theorem FirstOffence.append_left (hps : Clean m ps) (h : FirstOffence m qs e) :
    FirstOffence m (ps ++ qs) e := by
  induction ps with
  | nil => exact h
  | cons p ps ih =>
    obtain ⟨hp, hps⟩ := List.forall_mem_cons.1 hps
    exact .later hp (ih hps)

theorem filter_fine_iff :
    (∀ e, ¬ Violates m (.filter x) e) ↔ x = .null ∨ ∃ members, x = .obj members := by
  constructor
  · intro h
    by_contra hx
    obtain ⟨hnull, hobj⟩ := not_or.1 hx
    exact h _ (.notObject hnull (not_exists.1 hobj))
  · rintro (rfl | ⟨members, rfl⟩) e (⟨hnull, hobj⟩)
    · exact hnull rfl
    · exact hobj members rfl

theorem operands_fine_iff : (∀ e, ¬ Violates m (.operands key x) e) ↔
    x = .null ∨ (∃ items, x = .arr items) ∨ ∃ members, x = .obj members := by
  constructor
  · intro h
    by_contra hx
    obtain ⟨hnull, hx⟩ := not_or.1 hx
    obtain ⟨harr, hobj⟩ := not_or.1 hx
    exact h _ (.notFilters hnull (not_exists.1 harr) (not_exists.1 hobj))
  · rintro (rfl | ⟨items, rfl⟩ | ⟨members, rfl⟩) e (_ | ⟨hnull, harr, hobj⟩)
    · exact hnull rfl
    · exact harr items rfl
    · exact hobj members rfl

theorem field_fine_iff : (∀ e, ¬ Violates m (.field name x) e) ↔
    m.hasField name ∧ (x = .null ∨ ∃ operations, x = .obj operations) := by
  constructor
  · intro h
    have hfield : m.hasField name := by
      by_contra hfield
      exact h _ (.unknownField hfield)
    refine ⟨hfield, ?_⟩
    by_contra hx
    obtain ⟨hnull, hobj⟩ := not_or.1 hx
    exact h _ (.notOperators hfield hnull (not_exists.1 hobj))
  · rintro ⟨hfield, hx⟩ e h
    cases h with
    | unknownField hfield' => exact hfield' hfield
    | notOperators _ hnull hobj =>
      rcases hx with rfl | ⟨operations, rfl⟩
      · exact hnull rfl
      · exact hobj operations rfl

theorem operation_fine_iff : (∀ e, ¬ Violates m (.operation key name operand) e) ↔
    ∃ o : Operator, o.name = name ∧ (operand = .null ∨ o.Takes operand) := by
  constructor
  · intro h
    rcases operator_cases name with hname | ⟨o, rfl⟩
    · exact absurd (.unknownOperator hname) (h _)
    · refine ⟨o, rfl, ?_⟩
      by_contra hx
      obtain ⟨hnull, htakes⟩ := not_or.1 hx
      exact h _ (.invalidOperand hnull htakes)
  · rintro ⟨o, hname, hx⟩ e h
    cases h with
    | unknownOperator h => exact h o hname
    | @invalidOperand _ o' _ hnull htakes =>
      cases Operator.name_injective hname
      exact hx.elim hnull htakes

/-- What stands at a place is as the grammar has it. -/
def Place.InOrder (m : Model) : Place → Prop
  | .filter x => Accepted m x
  | .operands _ x => AcceptedList m x
  | .field name x => m.hasField name ∧ Operations x
  | .operation _ name operand => ∃ o : Operator, o.name = name ∧ (operand = .null ∨ o.Takes operand)

theorem acceptedMember_iff : AcceptedMember m key x ↔ (Place.ofMember key x).InOrder m := by
  constructor
  · intro h
    cases h with
    | and h => exact h
    | or h => exact h
    | not h => exact h
    | field hname hfield h =>
      rw [Place.ofMember_field hname]
      exact ⟨hfield, h⟩
  · intro h
    induction key using key_cases with
    | and => exact .and h
    | or => exact .or h
    | not => exact .not h
    | field key hkey =>
      rw [Place.ofMember_field hkey] at h
      exact .field hkey h.1 h.2

/-- A place is in order exactly if it is not in error itself and the places right below it are in
order. -/
theorem Place.inOrder_iff :
    p.InOrder m ↔ (∀ e, ¬ Violates m p e) ∧ ∀ q ∈ p.below, q.InOrder m := by
  cases p with
  | filter x =>
    rw [filter_fine_iff]
    constructor
    · rintro (_ | h)
      · exact ⟨.inl rfl, nofun⟩
      · exact ⟨.inr ⟨_, rfl⟩, List.forall_mem_map.2 fun e he => acceptedMember_iff.1 (h e he)⟩
    · rintro ⟨rfl | ⟨members, rfl⟩, h⟩
      · exact .null
      · exact .obj fun e he => acceptedMember_iff.2 (List.forall_mem_map.1 h e he)
  | operands key x =>
    rw [operands_fine_iff]
    constructor
    · rintro (_ | h | h)
      · exact ⟨.inl rfl, nofun⟩
      · exact ⟨.inr (.inl ⟨_, rfl⟩), List.forall_mem_map.2 h⟩
      · exact ⟨.inr (.inr ⟨_, rfl⟩), List.forall_mem_singleton.2 h⟩
    · rintro ⟨rfl | ⟨items, rfl⟩ | ⟨members, rfl⟩, h⟩
      · exact .null
      · exact .arr fun x hx => h (.filter x) (List.mem_map_of_mem hx)
      · exact .obj (h (.filter _) List.mem_cons_self)
  | field name x =>
    rw [field_fine_iff]
    constructor
    · rintro ⟨hfield, _ | h⟩
      · exact ⟨⟨hfield, .inl rfl⟩, nofun⟩
      · exact ⟨⟨hfield, .inr ⟨_, rfl⟩⟩, List.forall_mem_map.2 h⟩
    · rintro ⟨⟨hfield, rfl | ⟨operations, rfl⟩⟩, h⟩
      · exact ⟨hfield, .null⟩
      · exact ⟨hfield, .obj fun e he => h (.operation name e.1 e.2) (List.mem_map_of_mem he)⟩
  | operation field name operand =>
    rw [operation_fine_iff]
    exact (and_iff_left nofun).symm

theorem Place.inOrder_iff_clean : p.InOrder m ↔ Clean m p.walk := by
  induction p using Place.walk.induct with
  | case1 p ih =>
    rw [inOrder_iff, walk_eq, Clean, List.forall_mem_cons, List.forall_mem_flatMap]
    exact and_congr_right fun _ => forall₂_congr fun q hq => ih ⟨q, hq⟩

end Filter

end CrudPlan
