import CrudPlan.Proofs.Request.Filter

namespace CrudPlan

namespace Json

mutual

/-- The same value with the members of its objects in another order, at any depth. No object has two
members of one name. -/
inductive Reordered : Json → Json → Prop
  | scalar {x} (h : x.isScalar) : Reordered x x
  | arr {xs ys} (h : List.Forall₂ Reordered xs ys) : Reordered (.arr xs) (.arr ys)
  | obj {es fs gs} (hnames : (es.map (·.1)).Nodup) (hperm : es.Perm fs)
      (h : ReorderedMembers fs gs) : Reordered (.obj es) (.obj gs)

/-- The same members in the same order, each the same value with reordered members. -/
inductive ReorderedMembers : List (String × Json) → List (String × Json) → Prop
  | nil : ReorderedMembers [] []
  | cons {name x y es fs} (h : Reordered x y) (hrest : ReorderedMembers es fs) :
      ReorderedMembers ((name, x) :: es) ((name, y) :: fs)

end

namespace Reordered

variable {x y : Json}

theorem containsObject (hx : x.ContainsObject) (h : x.Reordered y) : y.ContainsObject := by
  induction hx generalizing y with
  | obj members =>
    cases h with
    | scalar hs => cases hs
    | obj => exact .obj _
  | arr hx _ ih =>
    cases h with
    | scalar hs => cases hs
    | arr h =>
      obtain ⟨y, hy, hxy⟩ := exists_of_forall₂_left h hx
      exact .arr hy (ih hxy)

theorem eq_of_not_containsObject (h : x.Reordered y) (hx : ¬ x.ContainsObject) : x = y := by
  induction x using Json.induction generalizing y with
  | scalar x hs =>
    cases h with
    | scalar => rfl
    | arr => cases hs
    | obj => cases hs
  | arr items ih =>
    cases h with
    | scalar => rfl
    | arr h =>
      have hitems : ∀ z ∈ items, ∀ {y}, z.Reordered y → z = y := fun z hz _ hzy =>
        ih z hz hzy fun hobj => hx (.arr hz hobj)
      have heq := ((List.forall₂_and_left _ _).2 ⟨hitems, h⟩).imp fun _ _ ⟨hz, hzy⟩ => hz hzy
      rw [List.forall₂_eq_eq_eq] at heq
      rw [heq]
  | obj members _ => exact absurd (.obj members) hx

theorem kind_eq (h : x.Reordered y) : x.kind = y.kind := by
  cases h <;> rfl

theorem wanted_eq (h : x.Reordered y) (o : Operator) : o.wanted x = o.wanted y := by
  cases h with
  | scalar => rfl
  | arr => cases o <;> rfl
  | obj => cases o <;> rfl

end Reordered

end Json

namespace Filter

variable {m : Model} {x y : Json} {es fs gs : List (String × Json)}

theorem operation_reordered (h : x.Reordered y) (m : Model) (field name : String) :
    operation m field name x = operation m field name y := by
  by_cases hx : x.ContainsObject
  · have hy := h.containsObject hx
    rcases operator_cases name with hname | ⟨o, rfl⟩
    · rw [operation_unknown hname, operation_unknown hname]
    · have hnull : ∀ {z : Json}, z.ContainsObject → z ≠ .null := by
        rintro _ ⟨⟩ <;> exact nofun
      rw [operation_unfit (hnull hx) fun ht => ht.not_containsObject hx,
        operation_unfit (hnull hy) fun ht => ht.not_containsObject hy, h.kind_eq, h.wanted_eq]
  · rw [h.eq_of_not_containsObject hx]

theorem map_reordered {α : Type} {f : String × Json → α} (h : Json.ReorderedMembers es fs)
    (hf : ∀ e ∈ es, ∀ y, e.2.Reordered y → f e = f (e.1, y)) :
    es.map (fun e => (e.1, f e)) = fs.map fun e => (e.1, f e) := by
  induction es generalizing fs with
  | nil =>
    cases h
    rfl
  | cons e es ih =>
    obtain ⟨he, hes⟩ := List.forall_mem_cons.1 hf
    cases h with
    | cons h hrest => rw [List.map_cons, List.map_cons, he _ h, ih hrest hes]

/-- Members are taken in the order of their names, whatever order they come in. -/
theorem conjunction_reordered {f : String × Json → Except FilterError (Option Predicate)}
    (hnames : (es.map (·.1)).Nodup) (hperm : es.Perm fs) (h : Json.ReorderedMembers fs gs)
    (hf : ∀ e ∈ es, ∀ y, e.2.Reordered y → f e = f (e.1, y)) :
    conjunction (es.map fun e => (e.1, f e)) = conjunction (gs.map fun e => (e.1, f e)) := by
  have hsort : Entries.sort (es.map fun e => (e.1, f e)) =
      Entries.sort (fs.map fun e => (e.1, f e)) := by
    apply Entries.sort_eq_of_perm (hperm.map _)
    rwa [List.map_map]
  rw [conjunction, hsort, map_reordered h fun e he => hf e (hperm.mem_iff.2 he)]
  rfl

theorem fieldCondition_reordered (h : x.Reordered y) (m : Model) (field : String) :
    fieldCondition m field x = fieldCondition m field y := by
  cases h with
  | scalar => rfl
  | arr => rfl
  | obj hnames hperm h =>
    unfold fieldCondition
    split
    · rfl
    · exact conjunction_reordered hnames hperm h fun e _ _ he =>
        operation_reordered he m field e.1

/-- Two values give the same as a filter, and as what stands under `and` or `or`. -/
structure Agree (m : Model) (x y : Json) : Prop where
  filter : predicate m x = predicate m y
  list : ∀ key, predicate.operands m key x = predicate.operands m key y

theorem Agree.memberCondition (h : Agree m x y) (hxy : x.Reordered y) (key : String) :
    memberCondition m key x = memberCondition m key y := by
  cases key using key_cases with
  | and => rw [memberCondition_and, memberCondition_and, h.list]
  | or => rw [memberCondition_or, memberCondition_or, h.list]
  | not => rw [memberCondition_not, memberCondition_not, h.filter]
  | field key hkey =>
    rw [memberCondition_field hkey, memberCondition_field hkey]
    exact fieldCondition_reordered hxy m key

theorem listPredicates_agree {xs ys : List Json} (h : List.Forall₂ (Agree m) xs ys) :
    predicate.listPredicates m xs = predicate.listPredicates m ys := by
  induction h with
  | nil => rfl
  | cons hxy _ ih => rw [predicate.listPredicates, predicate.listPredicates, hxy.filter, ih]

theorem agree_of_reordered (h : x.Reordered y) : Agree m x y := by
  induction x using Json.induction generalizing y with
  | scalar x hs =>
    cases h with
    | scalar => exact ⟨rfl, fun _ => rfl⟩
    | arr => cases hs
    | obj => cases hs
  | arr items ih =>
    cases h with
    | scalar => exact ⟨rfl, fun _ => rfl⟩
    | arr h =>
      have hitems := ((List.forall₂_and_left _ _).2 ⟨ih, h⟩).imp fun _ _ ⟨hx, hxy⟩ => hx hxy
      exact ⟨rfl, fun _ => listPredicates_agree hitems⟩
  | obj members ih =>
    cases h with
    | scalar => exact ⟨rfl, fun _ => rfl⟩
    | @obj _ _ names hnames hperm h =>
      have hmembers : conjunction (predicate.memberConditions m members) =
          conjunction (predicate.memberConditions m names) := by
        rw [memberConditions_eq_map, memberConditions_eq_map]
        exact conjunction_reordered hnames hperm h fun e he _ hey =>
          (ih e he hey).memberCondition hey e.1
      refine ⟨hmembers, fun key => ?_⟩
      exact congrArg (Except.map Option.toList) hmembers

/-- Filters that differ only in the order of their members have the same predicate, with its tests
in the same order, or the same error. -/
theorem optionalPredicate_reordered (m : Model) (filter filter' : Option Json)
    (h : Option.Rel Json.Reordered filter filter') :
    optionalPredicate m filter = optionalPredicate m filter' := by
  cases h with
  | none => rfl
  | some h => exact (agree_of_reordered h).filter

theorem reordered_pair {name name' : String} {x x' y y' : Json} (hne : name ≠ name')
    (hx : x.Reordered x') (hy : y.Reordered y') :
    (Json.obj [(name, x), (name', y)]).Reordered (.obj [(name', y'), (name, x')]) :=
  .obj (List.nodup_cons.2 ⟨by simpa using hne, List.nodup_singleton _⟩) (.swap _ _ _)
    (.cons hy (.cons hx .nil))

def titleOr (x x' : Json) : Json :=
  .obj [("or", .arr [.null, .obj [("title", .obj [("not", x), ("in", x')])]]), ("id", .null)]

def idOr (x x' : Json) : Json :=
  .obj [("id", .null), ("or", .arr [.null, .obj [("title", .obj [("in", x'), ("not", x)])]])]

theorem reordered_titleOr {x x' : Json} (hx : x.Reordered x) (hx' : x'.Reordered x') :
    (titleOr x x').Reordered (idOr x x') := by
  have hone : ([("title", Json.obj [("not", x), ("in", x')])].map (·.1)).Nodup :=
    List.nodup_singleton _
  have htitle := Json.Reordered.obj hone (.refl _)
    (.cons (reordered_pair (by decide) hx hx') .nil)
  have hnull : Json.null.Reordered .null := .scalar rfl
  have hor := Json.Reordered.arr (.cons hnull (.cons htitle .nil))
  exact reordered_pair (by decide) hor hnull

/-- With two offences the reported one is that of `in`, in either order. -/
theorem optionalPredicate_reordered_note :
    (∃ p, optionalPredicate note (some (titleOr (.str "a") .null)) = .ok (some p) ∧
      optionalPredicate note (some (idOr (.str "a") .null)) = .ok (some p)) ∧
    optionalPredicate note (some (titleOr (.arr []) (.obj []))) =
      optionalPredicate note (some (idOr (.arr []) (.obj []))) ∧
    optionalPredicate note (some (titleOr (.arr []) (.obj []))) =
      .error (.invalidOperand "title" .in .list "an object") := by
  have ha : (Json.str "a").Reordered (.str "a") := .scalar rfl
  have hnull : Json.null.Reordered .null := .scalar rfl
  have hok := optionalPredicate_reordered note _ _ (.some (reordered_titleOr ha hnull))
  have hobj : (Json.obj []).Reordered (.obj []) := .obj List.nodup_nil .nil .nil
  have herror := optionalPredicate_reordered note _ _
    (.some (reordered_titleOr (.arr .nil) hobj))
  exact ⟨⟨_, rfl, hok.symm.trans rfl⟩, herror, rfl⟩

end Filter

end CrudPlan
