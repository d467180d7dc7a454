import CrudPlan.Proofs.Request.Truth
import CrudPlan.Proofs.Request.Translation

namespace CrudPlan

/-- Predicates say what readings say: they have the same tests, each predicate has one, and the
readings that have any have the values of the predicates. -/
structure ExpressesAll (ps : List Predicate) (rs : List Reading) : Prop where
  leaves_eq : Predicate.leaves.leavesOfAll ps = Reading.leaves.leavesOfAll rs
  leaves_ne_nil : ∀ p ∈ ps, p.leaves ≠ []
  values_eq : ∀ v n, Predicate.value.values v n ps = Reading.value.values v n rs

/-- A predicate says what a reading says, none if the reading has no test. -/
def Expresses (o : Option Predicate) (r : Reading) : Prop := ExpressesAll o.toList [r]

variable {p : Predicate} {ps qs : List Predicate} {r : Reading} {rs ss : List Reading}
variable {o : Option Predicate} {v : Nat → Leaf → Truth} {n : Nat}

theorem Predicate.leavesOfAll_append (ps qs : List Predicate) :
    leaves.leavesOfAll (ps ++ qs) = leaves.leavesOfAll ps ++ leaves.leavesOfAll qs := by
  induction ps with
  | nil => rfl
  | cons p ps ih => simp [leaves.leavesOfAll, ih]

theorem Reading.leavesOfAll_append (rs ss : List Reading) :
    leaves.leavesOfAll (rs ++ ss) = leaves.leavesOfAll rs ++ leaves.leavesOfAll ss := by
  induction rs with
  | nil => rfl
  | cons r rs ih => simp [leaves.leavesOfAll, ih]

theorem Predicate.values_append (v : Nat → Leaf → Truth) (n : Nat) (ps qs : List Predicate) :
    value.values v n (ps ++ qs) =
      value.values v n ps ++ value.values v (n + (leaves.leavesOfAll ps).length) qs := by
  induction ps generalizing n with
  | nil => rfl
  | cons p ps ih => simp [value.values, leaves.leavesOfAll, ih, Nat.add_assoc]

theorem Reading.values_append (v : Nat → Leaf → Truth) (n : Nat) (rs ss : List Reading) :
    value.values v n (rs ++ ss) =
      value.values v n rs ++ value.values v (n + (leaves.leavesOfAll rs).length) ss := by
  induction rs generalizing n with
  | nil => rfl
  | cons r rs ih =>
    rw [List.cons_append, value.values, value.values]
    split
    · rename_i hr
      rw [ih, leaves.leavesOfAll, List.isEmpty_iff.1 hr, List.nil_append]
    · rw [ih, leaves.leavesOfAll, List.length_append, Nat.add_assoc, List.cons_append]

theorem ExpressesAll.nil : ExpressesAll [] [] := ⟨rfl, List.forall_mem_nil _, fun _ _ => rfl⟩

theorem ExpressesAll.append (h : ExpressesAll ps rs) (h' : ExpressesAll qs ss) :
    ExpressesAll (ps ++ qs) (rs ++ ss) := by
  constructor
  · rw [Predicate.leavesOfAll_append, Reading.leavesOfAll_append, h.leaves_eq, h'.leaves_eq]
  · intro p hp
    exact (List.mem_append.1 hp).elim (h.leaves_ne_nil p) (h'.leaves_ne_nil p)
  · intro v n
    rw [Predicate.values_append, Reading.values_append, h.values_eq, h.leaves_eq, h'.values_eq]

theorem Expresses.none (h : r.leaves = []) : Expresses none r := by
  refine ⟨?_, List.forall_mem_nil _, fun v n => ?_⟩
  · simp [Predicate.leaves.leavesOfAll, Reading.leaves.leavesOfAll, h]
  · simp [Predicate.value.values, Reading.value.values, h]

theorem Expresses.some (h : p.leaves = r.leaves) (hne : p.leaves ≠ [])
    (hv : ∀ v n, p.value v n = r.value v n) : Expresses (some p) r := by
  refine ⟨?_, List.forall_mem_singleton.2 hne, fun v n => ?_⟩
  · simp [Predicate.leaves.leavesOfAll, Reading.leaves.leavesOfAll, h]
  · simp [Predicate.value.values, Reading.value.values, hv, h ▸ hne]

theorem Expresses.leaves_eq (h : Expresses (.some p) r) : p.leaves = r.leaves := by
  simpa [Predicate.leaves.leavesOfAll, Reading.leaves.leavesOfAll] using ExpressesAll.leaves_eq h

theorem Expresses.leaves_ne_nil (h : Expresses (.some p) r) : p.leaves ≠ [] :=
  ExpressesAll.leaves_ne_nil h p (by simp)

theorem Expresses.value_eq (h : Expresses (.some p) r) (v : Nat → Leaf → Truth) (n : Nat) :
    p.value v n = r.value v n := by
  have hne : r.leaves ≠ [] := h.leaves_eq ▸ h.leaves_ne_nil
  simpa [Predicate.value.values, Reading.value.values, hne] using ExpressesAll.values_eq h v n

theorem Expresses.eq_none_iff (h : Expresses o r) : o = .none ↔ r.leaves = [] := by
  cases o with
  | none => simpa [Predicate.leaves.leavesOfAll, Reading.leaves.leavesOfAll] using h.1.symm
  | some p => simpa [← h.leaves_eq] using h.leaves_ne_nil

theorem ExpressesAll.leavesOfAll_ne_nil (h : ExpressesAll ps rs) (hne : ps ≠ []) :
    Predicate.leaves.leavesOfAll ps ≠ [] := by
  obtain ⟨p, ps, rfl⟩ := List.exists_cons_of_ne_nil hne
  have hp := h.leaves_ne_nil p (by simp)
  simp [Predicate.leaves.leavesOfAll, hp]

/-- Combinations of predicates and of readings that have the tests and the values of their parts. -/
theorem ExpressesAll.combine {f : List Predicate → Predicate} {g : List Reading → Reading}
    {combined : List Truth → Truth} (h : ExpressesAll ps rs)
    (hf : ∀ ps, (f ps).leaves = Predicate.leaves.leavesOfAll ps ∧
      ∀ v n, (f ps).value v n = combined (Predicate.value.values v n ps))
    (hg : ∀ rs, (g rs).leaves = Reading.leaves.leavesOfAll rs ∧
      ∀ v n, (g rs).value v n = combined (Reading.value.values v n rs)) :
    Expresses (Filter.combine f ps) (g rs) := by
  unfold Filter.combine
  split
  · rename_i hempty
    rw [List.isEmpty_iff.1 hempty] at h
    exact .none ((hg rs).1.trans h.leaves_eq.symm)
  · rename_i hne
    have hleaves := h.leavesOfAll_ne_nil (by simpa using hne)
    rw [← (hf ps).1] at hleaves
    refine .some ?_ hleaves fun v n => ?_
    · rw [(hf ps).1, (hg rs).1, h.leaves_eq]
    · rw [(hf ps).2, (hg rs).2, h.values_eq]

theorem ExpressesAll.and (h : ExpressesAll ps rs) :
    Expresses (Filter.combine .and ps) (.all rs) :=
  h.combine (fun _ => ⟨rfl, fun _ _ => rfl⟩) fun _ => ⟨rfl, fun _ _ => rfl⟩

theorem ExpressesAll.or (h : ExpressesAll ps rs) :
    Expresses (Filter.combine .or ps) (.any rs) :=
  h.combine (fun _ => ⟨rfl, fun _ _ => rfl⟩) fun _ => ⟨rfl, fun _ _ => rfl⟩

/-- A conjunction that is left out or collapsed says the same. -/
theorem ExpressesAll.all (h : ExpressesAll ps rs) : Expresses (Predicate.all ps) (.all rs) := by
  match ps, h with
  | [], h => exact .none h.leaves_eq.symm
  | [p], h =>
    have hleaves : p.leaves = Reading.leaves.leavesOfAll rs := by
      simpa [Predicate.leaves.leavesOfAll] using h.leaves_eq
    refine .some hleaves (h.leaves_ne_nil p (by simp)) fun v n => ?_
    exact (Truth.all_singleton _).symm.trans (congrArg Truth.all (h.values_eq v n))
  | p :: q :: ps, h =>
    refine .some h.leaves_eq (h.leavesOfAll_ne_nil (by simp)) fun v n => ?_
    exact congrArg Truth.all (h.values_eq v n)

theorem Expresses.not (h : Expresses o r) : Expresses (o.map .not) (.not r) := by
  cases o with
  | none => exact .none (h.eq_none_iff.1 rfl)
  | some p =>
    exact .some h.leaves_eq h.leaves_ne_nil fun v n => congrArg Truth.not (h.value_eq v n)

namespace Filter

/-- A step gives a predicate that says what a reading says, if it succeeds. -/
def Yields (x : Except FilterError (Option Predicate)) (r : Reading) : Prop :=
  ∀ o, x = .ok o → Expresses o r

variable {members : List (String × Except FilterError (Option Predicate))}
variable {readings : List (String × Reading)} {x : Except FilterError (Option Predicate)}

theorem collect_express (h : SameNames Yields members readings) (hps : collect members = .ok ps) :
    ExpressesAll ps (readings.map (·.2)) := by
  induction h generalizing ps with
  | nil =>
    cases hps
    exact .nil
  | @cons e f members readings he hrest ih =>
    obtain ⟨o, ho, hps⟩ := bind_eq_ok_iff.1 hps
    obtain ⟨qs, hqs, he'⟩ := bind_eq_ok_iff.1 hps
    cases he'
    exact ExpressesAll.append (he.2 o ho) (ih hqs)

theorem conjunction_yields (h : SameNames Yields members readings) :
    Yields (conjunction members) (.all ((Entries.sort readings).map (·.2))) := by
  intro o ho
  obtain ⟨ps, hps, he⟩ := bind_eq_ok_iff.1 ho
  cases he
  exact (collect_express h.sort hps).all

theorem operation_yields (model : Model) (field name : String) (operand : Json) :
    Yields (operation model field name operand) (readOperation field name operand) := by
  intro o ho
  cases hname : Operator.ofName? name with
  | none =>
    simp only [operation, hname] at ho
    cases ho
  | some operator =>
    simp only [operation, readOperation, hname] at ho ⊢
    by_cases hnull : operand.isNull
    · rw [if_pos hnull] at ho ⊢
      cases ho
      exact .none rfl
    · rw [if_neg hnull] at ho ⊢
      split at ho
      · cases ho
      · cases ho
        exact .some rfl (List.cons_ne_nil _ _) fun _ _ => rfl

theorem fieldCondition_yields (model : Model) (field : String) (value : Json) :
    Yields (fieldCondition model field value) (readField field value) := by
  intro o ho
  unfold fieldCondition at ho
  split at ho
  · cases ho
  · split at ho
    · cases ho
      exact .none rfl
    · rename_i operations
      refine conjunction_yields ?_ o ho
      rw [SameNames, List.forall₂_map_left_iff, List.forall₂_map_right_iff, List.forall₂_same]
      exact fun e _ => ⟨rfl, operation_yields model field e.1 e.2⟩
    · cases ho

/-- The predicate of a filter says what the filter does, and so do the predicates of the filters in
a list. -/
structure Translates (model : Model) (x : Json) : Prop where
  yields : Yields (predicate model x) (reading x)
  operands_express : ∀ {key ps}, predicate.operands model key x = .ok ps →
    ExpressesAll ps (reading.itemReadings x)

variable {model : Model}

/-- The reading of one member. -/
def memberReading (key : String) (value : Json) : Reading :=
  if key = "and" then .all (reading.itemReadings value)
  else if key = "or" then .any (reading.itemReadings value)
  else if key = "not" then .not (reading value)
  else readField key value

theorem memberReadings_eq_map (members : List (String × Json)) :
    reading.memberReadings members = members.map fun e => (e.1, memberReading e.1 e.2) := by
  induction members with
  | nil => rfl
  | cons e members ih =>
    rw [reading.memberReadings, ih]
    rfl

theorem memberReading_field {key : String} {value : Json} (h : key ∉ connectives) :
    memberReading key value = readField key value := by
  obtain ⟨hand, hor, hnot⟩ := not_mem_connectives_iff.1 h
  rw [memberReading, if_neg hand, if_neg hor, if_neg hnot]

theorem memberCondition_yields {value : Json} (h : Translates model value) (key : String) :
    Yields (memberCondition model key value) (memberReading key value) := by
  intro o ho
  cases key using key_cases with
  | and =>
    rw [memberCondition_and] at ho
    obtain ⟨ps, hps, rfl⟩ := map_eq_ok_iff.1 ho
    exact (h.operands_express hps).and
  | or =>
    rw [memberCondition_or] at ho
    obtain ⟨ps, hps, rfl⟩ := map_eq_ok_iff.1 ho
    exact (h.operands_express hps).or
  | not =>
    rw [memberCondition_not] at ho
    obtain ⟨q, hq, rfl⟩ := map_eq_ok_iff.1 ho
    exact (h.yields q hq).not
  | field key hkey =>
    rw [memberCondition_field hkey] at ho
    rw [memberReading_field hkey]
    exact fieldCondition_yields model key value o ho

theorem memberConditions_sameNames {members : List (String × Json)}
    (h : ∀ e ∈ members, Translates model e.2) :
    SameNames Yields (predicate.memberConditions model members)
      (reading.memberReadings members) := by
  rw [memberConditions_eq_map, memberReadings_eq_map, SameNames, List.forall₂_map_left_iff,
    List.forall₂_map_right_iff, List.forall₂_same]
  exact fun e he => ⟨rfl, memberCondition_yields (h e he) e.1⟩

theorem listPredicates_express {items : List Json} (h : ∀ x ∈ items, Translates model x)
    (hps : predicate.listPredicates model items = .ok ps) :
    ExpressesAll ps (reading.listReadings items) := by
  induction items generalizing ps with
  | nil =>
    cases hps
    exact .nil
  | cons x items ih =>
    obtain ⟨hx, hitems⟩ := List.forall_mem_cons.1 h
    obtain ⟨o, ho, hps⟩ := bind_eq_ok_iff.1 hps
    obtain ⟨qs, hqs, he⟩ := bind_eq_ok_iff.1 hps
    cases he
    exact ExpressesAll.append (hx.yields o ho) (ih hitems hqs)

theorem translates (model : Model) (x : Json) : Translates model x := by
  induction x using Json.induction with
  | scalar x hx =>
    cases x with
    | null =>
      refine ⟨fun o ho => ?_, fun hps => ?_⟩
      · cases ho
        exact .none rfl
      · cases hps
        exact .nil
    | arr _ | obj _ => cases hx
    | _ => exact ⟨fun _ ho => (nomatch ho), fun hps => (nomatch hps)⟩
  | arr items ih =>
    exact ⟨fun _ ho => (nomatch ho), fun hps => listPredicates_express ih hps⟩
  | obj members ih =>
    -- under `and` and `or` an object counts as the list of itself
    have hmembers := conjunction_yields (memberConditions_sameNames ih)
    refine ⟨hmembers, fun hps => ?_⟩
    obtain ⟨o, ho, rfl⟩ := map_eq_ok_iff.1 hps
    exact hmembers o ho

/-- A filter has no predicate exactly if it has no operator with an operand. Otherwise the tests of
the predicate are these operators, and whatever their values are, the predicate has the value of the
filter. -/
theorem optionalPredicate_reads (model : Model) (filter : Option Json) (o : Option Predicate)
    (h : optionalPredicate model filter = .ok o) :
    (o = none ↔ (reading (filter.getD .null)).leaves = []) ∧
      ∀ p, o = some p → p.leaves = (reading (filter.getD .null)).leaves ∧
        ∀ v, p.value v 0 = (reading (filter.getD .null)).value v 0 := by
  have hexpress : Expresses o (reading (filter.getD .null)) := by
    cases filter with
    | none =>
      cases h
      exact .none rfl
    | some x => exact (translates model x).yields o h
  refine ⟨hexpress.eq_none_iff, ?_⟩
  rintro p rfl
  exact ⟨Expresses.leaves_eq hexpress, fun v => Expresses.value_eq hexpress v 0⟩

def note : Model :=
  let key : Field := ⟨"id", .serial, "id", true, false, true⟩
  ⟨0, "note", "notes", [key, ⟨"title", .text, "title", false, true, false⟩], key, []⟩

/-- A filter with parts that say nothing, which are left out of the disjunction and the negation. -/
def untitled : Json :=
  .obj [
    ("or", .arr [.obj [], .obj [("title", .obj [("isNull", .bool true), ("equals", .null)])],
      .obj [("not", .obj [("id", .obj [("in", .arr [])]), ("title", .null)])], .null]),
    ("not", .obj [("and", .arr [])]),
    ("and", .obj [("id", .obj [("lt", .ofNat 9), ("gt", .ofNat 1)])])]

theorem optionalPredicate_reads_untitled : ∃ p,
    optionalPredicate note (some untitled) = .ok (some p) ∧
      p.leaves = [⟨"id", .gt, .ofNat 1⟩, ⟨"id", .lt, .ofNat 9⟩, ⟨"title", .isNull, .bool true⟩,
        ⟨"id", .in, .arr []⟩] ∧
      ∀ v, p.value v 0 = (reading untitled).value v 0 := by
  have h := (optionalPredicate_reads note (some untitled) _ rfl).2 _ rfl
  exact ⟨_, rfl, h.1, h.2⟩

end Filter

end CrudPlan
