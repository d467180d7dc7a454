import CrudPlan.Proofs.Schema.Resolution
import CrudPlan.Schema.Registry

namespace CrudPlan

variable {tables : NameMap TableDecl} {models : List Model} {gathered : List OwnDecls}
  {owner foreign m : Model} {decls : NameMap OwnDecls} {name : String} {d : RelationDecl}

def Model.regain (g : Model → List Relation) (m : Model) : Model := { m with relations := g m }

/-- Calls on the same models, one after the other. One that fails does not end the run. -/
def resolveEach (calls : List (NameMap OwnDecls)) :
    StateM (List Model) (List (Except SchemaError Unit)) :=
  calls.mapM fun decls => (resolveInPlace decls).run

/-- What a call answers when it is the only one on these models. -/
def outcomeAlone (models : List Model) (decls : NameMap OwnDecls) : Except SchemaError Unit :=
  ((resolveInPlace decls).run.run models).1

/-- The relations that the model of a number has after a call that is the only one on these models,
and none after one that fails. -/
def attachedAlone (models : List Model) (id : Nat) (decls : NameMap OwnDecls) : List Relation :=
  match (resolveInPlace decls).run.run models with
  | (.error _, _) => []
  | (.ok _, after) => (after[id]?.map (·.relations)).getD []

section Independence

variable (g : Model → List Relation)

theorem findModel?_regain :
    findModel? (models.map (.regain g)) name = (findModel? models name).map (.regain g) := by
  simp only [findModel?, List.find?_map, Option.map_or]
  rfl

theorem addDecls_regain (own : OwnDecls) (es : List (String × RelationDecl)) :
    addDecls (owner.regain g) own es = addDecls owner own es := by
  induction es generalizing own with
  | nil => rfl
  | cons e es ih =>
    rw [addDecls, addDecls, ih]
    rfl

theorem gatherDecls_regain (gathered : List OwnDecls) (rest : List (String × OwnDecls)) :
    gatherDecls (models.map (.regain g)) gathered rest = gatherDecls models gathered rest := by
  induction rest generalizing gathered with
  | nil => rfl
  | cons e rest ih =>
    obtain ⟨key, own⟩ := e
    simp only [gatherDecls, findModel?_regain, ih]
    cases findModel? models key with
    | none => rfl
    | some owner =>
      simp only [Option.map_some, addDecls_regain]
      rfl

theorem backReferences_regain (own : OwnDecls) :
    backReferences (models.map (.regain g)) (owner.regain g) (foreign.regain g) name own =
      backReferences models owner foreign name own := by
  simp only [backReferences, findModel?_regain, Option.any_map]
  rfl

theorem findInverse_regain (own : OwnDecls) :
    findInverse (models.map (.regain g)) (owner.regain g) (foreign.regain g) name d own =
      findInverse models owner foreign name d own := by
  simp only [findInverse, backReferences_regain]
  rfl

theorem resolveDecl_regain :
    resolveDecl (models.map (.regain g)) gathered (owner.regain g) name d =
      resolveDecl models gathered owner name d := by
  simp only [resolveDecl, findModel?_regain]
  cases findModel? models d.table with
  | none => rfl
  | some foreign =>
    simp only [Option.map_some, findJoin, findInverse_regain]
    rfl

/-- The relations that models have already decide nothing. -/
theorem resolveRelations_regain :
    resolveRelations (models.map (.regain g)) decls = resolveRelations models decls := by
  have hempty : (models.map (Model.regain g)).map (fun _ => (.empty : OwnDecls)) =
      models.map fun _ => .empty := List.map_map
  simp only [resolveRelations, gatherDecls_regain, hempty, List.zip_map_left, List.mapM_map,
    Function.comp_def, Prod.map, resolveDecl_regain]
  rfl

end Independence

theorem run_resolveInPlace (models : List Model) (decls : NameMap OwnDecls) :
    (resolveInPlace decls).run.run models = match resolveRelations models decls with
      | .error e => (.error e, models)
      | .ok relations => (.ok (), attachRelations relations models) := by
  -- said of any resolver, so that checking it does not open this one
  have hrun (resolve : List Model → Except SchemaError (List Relation)) :
      (do match resolve (← get) with
        | .error e => throw e
        | .ok relations => modify (attachRelations relations) :
        ExceptT SchemaError (StateM (List Model)) Unit).run.run models =
      match resolve models with
      | .error e => (.error e, models)
      | .ok relations => (.ok (), attachRelations relations models) := by
    change (match resolve models with
      | .error e => throw e
      | .ok relations => modify (attachRelations relations) :
      ExceptT SchemaError (StateM (List Model)) Unit).run.run models = _
    cases resolve models <;> rfl
  exact hrun fun models => resolveRelations models decls

/-- A registry holds what one call leaves on the models of its tables. -/
theorem Registry.build_eq_resolveInPlace (d : Declaration) :
    Registry.build d = do
      let models ← extractModels d.tables
      match (resolveInPlace d.relations).run.run models with
      | (.error e, _) => .error e
      | (.ok _, after) => return ⟨after⟩ := by
  rw [Registry.build]
  refine congrArg (extractModels d.tables >>= ·) (funext fun models => ?_)
  rw [run_resolveInPlace]
  cases resolveRelations models d.relations <;> rfl

theorem attachRelations_regain (g : Model → List Relation) (relations : List Relation) :
    attachRelations relations (models.map (.regain g)) =
      models.map (.regain fun m => g m ++ relations.filter (·.owner == m.id)) := by
  simp only [attachRelations, List.map_map]
  rfl

/-- Models without relations, as tables give them. -/
structure Fresh (models : List Model) : Prop where
  ranked : Ranked models
  relations : ∀ m ∈ models, m.relations = []

theorem fresh_of_extractModels (h : extractModels tables = .ok models) : Fresh models :=
  ⟨ranked_of_extractModels h, fun _ => relations_of_extractModels h⟩

theorem Fresh.attachedAlone_eq (hf : Fresh models) {relations : List Relation}
    (h : resolveRelations models decls = .ok relations) (hm : m ∈ models) :
    attachedAlone models m.id decls = relations.filter (·.owner == m.id) := by
  simp [attachedAlone, run_resolveInPlace, h, attachRelations, hf.ranked.getElem?_id hm,
    hf.relations m hm]

/-- A call on models that have relations answers as it does alone, and attaches the same. -/
theorem Fresh.run_regain (hf : Fresh models) (g : Model → List Relation)
    (decls : NameMap OwnDecls) :
    (resolveInPlace decls).run.run (models.map (.regain g)) =
      (outcomeAlone models decls,
        models.map (.regain fun m => g m ++ attachedAlone models m.id decls)) := by
  rw [run_resolveInPlace, resolveRelations_regain]
  cases h : resolveRelations models decls with
  | error e => simp [outcomeAlone, attachedAlone, run_resolveInPlace, h]
  | ok relations =>
    have hafter : models.map (Model.regain fun m => g m ++ attachedAlone models m.id decls) =
        models.map (Model.regain fun m => g m ++ relations.filter (·.owner == m.id)) := by
      refine List.map_congr_left fun m hm => ?_
      simp only [Model.regain, hf.attachedAlone_eq h hm]
    rw [hafter, ← attachRelations_regain]
    simp [outcomeAlone, run_resolveInPlace, h]

theorem attachedAlone_of_error {e : SchemaError} (h : outcomeAlone models decls = .error e)
    (id : Nat) : attachedAlone models id decls = [] := by
  rw [outcomeAlone, run_resolveInPlace] at h
  rw [attachedAlone, run_resolveInPlace]
  cases hr : resolveRelations models decls with
  | error e => rfl
  | ok relations => simp [hr] at h

theorem run_resolveEach_cons (decls : NameMap OwnDecls) (calls : List (NameMap OwnDecls)) :
    (resolveEach (decls :: calls)).run models =
      let (outcome, after) := (resolveInPlace decls).run.run models
      let (outcomes, reached) := (resolveEach calls).run after
      (outcome :: outcomes, reached) := by
  rw [resolveEach, List.mapM_cons]
  rfl

theorem Fresh.run_resolveEach (hf : Fresh models) (g : Model → List Relation)
    (calls : List (NameMap OwnDecls)) :
    (resolveEach calls).run (models.map (.regain g)) =
      (calls.map (outcomeAlone models),
        models.map (.regain fun m => g m ++ calls.flatMap (attachedAlone models m.id))) := by
  induction calls generalizing g with
  | nil =>
    simp only [List.map_nil, List.flatMap_nil, List.append_nil]
    rfl
  | cons decls calls ih =>
    simp only [run_resolveEach_cons, hf.run_regain, ih, List.map_cons, List.flatMap_cons,
      List.append_assoc]

theorem Fresh.eq_regain (hf : Fresh models) : models = models.map (.regain fun _ => []) := by
  conv_lhs => rw [← List.map_id models]
  refine List.map_congr_left fun m hm => ?_
  rw [Model.regain, ← hf.relations m hm]
  rfl

/-- Whatever calls were made on the models of tables, and however many of them failed: each of them
answered as it does alone, the relations of a model are those that the calls attach alone, in the
order of the calls, and the next call either fails and changes nothing, or adds to the relations of
each model what it attaches alone and changes nothing else. -/
theorem resolveEach_appends (hm : extractModels tables = .ok models)
    (calls : List (NameMap OwnDecls)) (outcomes : List (Except SchemaError Unit))
    (reached : List Model) (h : (resolveEach calls).run models = (outcomes, reached)) :
    outcomes = calls.map (outcomeAlone models) ∧
    reached = models.map (fun m =>
      { m with relations := calls.flatMap (attachedAlone models m.id) }) ∧
    ∀ decls outcome after, (resolveInPlace decls).run.run reached = (outcome, after) →
      outcome = outcomeAlone models decls ∧
      (∀ e, outcome = .error e → after = reached) ∧
      (outcome = .ok () → after = reached.map fun m =>
        { m with relations := m.relations ++ attachedAlone models m.id decls }) := by
  have hf := fresh_of_extractModels hm
  rw [hf.eq_regain, hf.run_resolveEach, Prod.mk.injEq] at h
  obtain ⟨rfl, rfl⟩ := h
  refine ⟨rfl, rfl, fun decls outcome after hcall => ?_⟩
  rw [hf.run_regain, Prod.mk.injEq] at hcall
  obtain ⟨rfl, rfl⟩ := hcall
  refine ⟨rfl, fun e he => ?_, fun _ => ?_⟩
  · simp only [attachedAlone_of_error he, List.append_nil]
  · rw [List.map_map]
    rfl

/-- The relations of the blog, with one that leads nowhere. -/
def unresolved : NameMap OwnDecls :=
  (blog.addRelation "posts" "tags" { kind := .many, table := "tags" }).relations

theorem resolveEach_appends_blog : ∃ models outcomes reached,
    extractModels blog.tables = .ok models ∧
    (resolveEach [blog.relations, unresolved, blog.relations]).run models = (outcomes, reached) ∧
    outcomes = [.ok (), .error (.unknownModel "tags" (.relation "posts" "tags")), .ok ()] ∧
    reached.map (fun m => m.relations.map (·.fieldName)) =
      [["author", "author"], ["manager", "posts", "reports", "manager", "posts", "reports"]] := by
  have hm : extractModels blog.tables = .ok _ := rfl
  obtain ⟨houtcomes, hreached, _⟩ :=
    resolveEach_appends hm [blog.relations, unresolved, blog.relations] _ _ rfl
  refine ⟨_, _, _, hm, rfl, houtcomes.trans ?_, ?_⟩
  · rfl
  · rw [hreached]
    rfl

end CrudPlan
