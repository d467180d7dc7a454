import CrudPlan.Proofs.Data.Outcome
import CrudPlan.Proofs.Request.Selection

namespace CrudPlan

namespace QueryField

/-- The arguments of a field alone. -/
def readArgs (vs : Variables) (f : QueryField) : Except PlanError Args :=
  (Literal.value.memberValues vs f.args).mapError
    (fun x => .invalidArgument f.name (.undefinedVariable x)) >>= Args.ofPairs

/-- A field and those below it, each before the ones below it, in the order of the query. -/
def nodes : QueryField → List QueryField
  | ⟨name, args, children⟩ => ⟨name, args, children⟩ :: nodesOf children
where
  nodesOf : List QueryField → List QueryField
    | [] => []
    | f :: rest => f.nodes ++ nodesOf rest

/-- The last child of a name. -/
def lastChild? (name : String) (f : QueryField) : Option QueryField :=
  Entries.last? name (f.children.map fun child => (child.name, child))

/-- The field that a path leads to through the last child of each name. -/
def at? : QueryField → List String → Option QueryField
  | f, [] => some f
  | f, name :: path => (f.lastChild? name).bind (·.at? path)

end QueryField

namespace Selection

variable {vs : Variables} {f : QueryField} {fields : List QueryField} {s : Selection}
  {es : List (String × Selection)} {name : String}

theorem ofField_mk (vs : Variables) (name : String) (args : List (String × Literal))
    (children : List QueryField) :
    ofField vs ⟨name, args, children⟩ = (do
      let read ← QueryField.readArgs vs ⟨name, args, children⟩
      let es ← ofField.named vs children
      return ⟨read, Entries.sort es⟩) := by
  rw [ofField, QueryField.readArgs, bind_assoc]

theorem named_cons (vs : Variables) (f : QueryField) (fields : List QueryField) :
    ofField.named vs (f :: fields) = (do
      let s ← ofField vs f
      let es ← ofField.named vs fields
      return (f.name, s) :: es) := by
  cases f
  rfl

/-- The children fail with the first error among all fields at and below them. -/
theorem named_outcome
    (h : ∀ f ∈ fields,
      SameOutcome (fun _ _ => True) (ofField vs f) (f.nodes.mapM (·.readArgs vs))) :
    SameOutcome (fun _ _ => True) (ofField.named vs fields)
      ((QueryField.nodes.nodesOf fields).mapM (·.readArgs vs)) := by
  induction fields with
  | nil => exact .ok trivial
  | cons f fields ih =>
    obtain ⟨hf, h⟩ := List.forall_mem_cons.1 h
    rw [named_cons, QueryField.nodes.nodesOf, List.mapM_append]
    apply hf.bind
    intro _ _ _
    apply (ih h).bind
    intro _ _ _
    exact .ok trivial

/-- A selection is made if the arguments of one field after the other are. -/
theorem ofField_outcome (vs : Variables) (f : QueryField) :
    SameOutcome (fun _ _ => True) (ofField vs f) (f.nodes.mapM (·.readArgs vs)) := by
  induction f using QueryField.induction with
  | intro name args children ih =>
    -- both sides read the field's own arguments first, and then those of the fields below it
    rw [ofField_mk, QueryField.nodes, List.mapM_cons]
    apply (SameOutcome.refl (R := fun _ _ => True) (fun _ => trivial) _).bind
    intro _ _ _
    apply (named_outcome ih).bind
    intro _ _ _
    exact .ok trivial

theorem named_sameNames (h : ofField.named vs fields = .ok es) :
    SameNames (fun s f => ofField vs f = .ok s) es
      (fields.map fun child => (child.name, child)) := by
  induction fields generalizing es with
  | nil =>
    cases h
    exact .nil
  | cons f fields ih =>
    rw [named_cons] at h
    obtain ⟨s, hs, h⟩ := bind_eq_ok_iff.1 h
    obtain ⟨rest, hrest, he⟩ := bind_eq_ok_iff.1 h
    cases he
    exact .cons ⟨rfl, hs⟩ (ih hrest)

theorem args_ofField (h : ofField vs f = .ok s) : f.readArgs vs = .ok s.args := by
  obtain ⟨name, args, children⟩ := f
  rw [ofField_mk] at h
  obtain ⟨read, hread, h⟩ := bind_eq_ok_iff.1 h
  obtain ⟨_, _, he⟩ := bind_eq_ok_iff.1 h
  cases he
  exact hread

/-- One step down: the child of a name is made from the last field of that name. -/
theorem lookup_ofField (h : ofField vs f = .ok s) (name : String) :
    Option.Rel (fun s' f' => ofField vs f' = .ok s') (s.children.lookup name)
      (f.lastChild? name) := by
  obtain ⟨name', args, children⟩ := f
  rw [ofField_mk] at h
  obtain ⟨_, _, h⟩ := bind_eq_ok_iff.1 h
  obtain ⟨es, hes, he⟩ := bind_eq_ok_iff.1 h
  cases he
  rw [Entries.lookup_sort]
  exact (named_sameNames hes).last? name

theorem at?_ofField (h : ofField vs f = .ok s) (path : List String) :
    Option.Rel (fun s' f' => ofField vs f' = .ok s') (s.at? path) (f.at? path) := by
  induction path generalizing s f with
  | nil => exact .some h
  | cons name path ih =>
    rw [at?, QueryField.at?]
    apply rel_bind (lookup_ofField h name)
    intro _ _ h'
    exact ih h'

/-- A selection is made exactly if the arguments of every field are in order, and else the first
field whose arguments are not is the one reported. Under every path it has a node exactly if the
last fields of the names lead to one, with the arguments of that field. -/
theorem ofField_exact (vs : Variables) (f : QueryField) :
    ((∃ s, ofField vs f = .ok s) ↔ ∀ g ∈ f.nodes, ∃ a, g.readArgs vs = .ok a) ∧
      (∀ e, ofField vs f = .error e ↔ ∃ before g after, f.nodes = before ++ g :: after ∧
        (∀ g' ∈ before, ∃ a, g'.readArgs vs = .ok a) ∧ g.readArgs vs = .error e) ∧
      ∀ s, ofField vs f = .ok s → ∀ path,
        Option.Rel (fun s' g => g.readArgs vs = .ok s'.args) (s.at? path) (f.at? path) := by
  have hsame := ofField_outcome vs f
  have hok := hsame.exists_ok_iff.trans exists_mapM_eq_ok_iff
  have herror (e : PlanError) := (hsame.error_iff (e := e)).trans mapM_eq_error_iff
  apply And.intro hok
  apply And.intro herror
  intro s hs path
  exact rel_imp (fun _ _ => args_ofField) (at?_ofField hs path)

/-- Two lists of posts under one name, the second of them with two lists of comments. -/
def aliased (limit : Int) : QueryField :=
  ⟨"users", [("input", .object [("limit", .num (.int 10))])], [
    ⟨"posts", [("limit", .num (.int limit))], [⟨"author", [], [⟨"name", [], []⟩]⟩]⟩,
    ⟨"posts", [("offset", .variable "from")], [
      ⟨"comments", [("limit", .num (.int 1))], [⟨"text", [], []⟩]⟩,
      ⟨"comments", [("limit", .num (.int 2))], []⟩]⟩,
    ⟨"name", [], []⟩]⟩

def ofAliased : Selection :=
  ⟨{ limit := some 10 }, [("name", {}),
    ("posts", ⟨{ offset := some 5 }, [("comments", { args := { limit := some 2 } })]⟩)]⟩

def fromFive : Variables where
  declared := [("from", none)]
  supplied := [("from", .num (.int 5))]

/-- The first list of posts is not part of the selection, but its limit has to be a count. -/
theorem ofField_exact_aliased :
    (ofField fromFive (aliased 3) = .ok ofAliased ∧
      Option.Rel (fun s g => g.readArgs fromFive = .ok s.args)
        (ofAliased.at? ["posts", "comments"]) ((aliased 3).at? ["posts", "comments"])) ∧
    ofField fromFive (aliased (-3)) =
        .error (.invalidArgument "limit" (.notCount (.num (.int (-3))))) ∧
      ¬ ∀ g ∈ (aliased (-3)).nodes, ∃ a, g.readArgs fromFive = .ok a := by
  have hok : ofField fromFive (aliased 3) = .ok ofAliased := rfl
  have herror : ofField fromFive (aliased (-3)) =
    .error (.invalidArgument "limit" (.notCount (.num (.int (-3))))) := rfl
  apply And.intro ⟨hok, (ofField_exact fromFive (aliased 3)).2.2 ofAliased hok _⟩
  apply And.intro herror
  intro hall
  obtain ⟨s, hs⟩ := (ofField_exact fromFive (aliased (-3))).1.2 hall
  cases herror.symm.trans hs

end Selection

end CrudPlan
