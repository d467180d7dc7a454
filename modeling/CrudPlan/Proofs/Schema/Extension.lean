import CrudPlan.Proofs.Schema.Inverse

namespace CrudPlan

variable {d d' : Declaration} {r r' : Registry} {models : List Model}
  {decls decls' : NameMap OwnDecls} {owner foreign m : Model} {x y : Relation}
  {field name name' : String} {e inverse inverse' : RelationDecl} {j j' : JoinColumns}

/-- The tables of another declaration and all its relations, and perhaps more relations. -/
structure Declaration.Extends (d' d : Declaration) : Prop where
  tables_eq : d'.tables = d.tables
  keeps : ∀ key field e, Declares d.relations key field e → Declares d'.relations key field e

/-- The join of a declaration does not hang on being inferred from the only candidate there is: it
is declared, or the declaration has no relation name, or it shares the name with its inverse. -/
inductive Anchored (models : List Model) (decls : NameMap OwnDecls) (owner : Model)
    (field : String) (e : RelationDecl) : Prop
  | declared (h : e.hasJoinColumns)
  | unnamed (h : e.relationName = none)
  | correlated {foreign : Model} {name : String} {inverse : RelationDecl}
      (denotes : Denotes models e.table foreign)
      (selects : Selects models decls owner foreign field e name inverse)
      (correlates : e.Correlates inverse)

theorem Anchored.shares_name (ha : Anchored models decls owner field e) (hr : Ranked models)
    (hf : Denotes models e.table foreign) (he : e.hasJoinColumns = false)
    (h : Selects models decls owner foreign field e name inverse) :
    e.relationName = none ∨ e.Correlates inverse := by
  cases ha with
  | declared hdeclared => cases he.symm.trans hdeclared
  | unnamed hnone => exact .inl hnone
  | correlated denotes selects correlates =>
    cases denotes.unique hr hf
    cases (h _ _).1 ((selects _ _).2 rfl)
    exact .inr correlates

section More

variable (hsub : ∀ key field e, Declares decls key field e → Declares decls' key field e)
include hsub

theorem Owns.mono (h : Owns models decls m field e) : Owns models decls' m field e := by
  obtain ⟨key, hkey, hd⟩ := h
  exact ⟨key, hkey, hsub key field e hd⟩

theorem RefersBack.mono (h : RefersBack models decls owner foreign field name e) :
    RefersBack models decls' owner foreign field name e :=
  ⟨h.1.mono hsub, h.2⟩

/-- With more candidates than before, only one that shares the relation's name is selected; so the
inverse stays what it was, unless it does not share a name that the relation has. -/
theorem Selects.eq_of_mono (h : Selects models decls owner foreign field e name inverse)
    (h' : Selects models decls' owner foreign field e name' inverse')
    (hname : e.relationName = none ∨ e.Correlates inverse) :
    name' = name ∧ inverse' = inverse := by
  have hback := h.refersBack.mono hsub
  obtain ⟨_, hcorrelates'⟩ := (h' name' inverse').2 rfl
  by_contra hne
  have hother : (name, inverse) ≠ (name', inverse') := fun he => by cases he; exact hne ⟨rfl, rfl⟩
  obtain ⟨shared, hours, _⟩ := hcorrelates' ⟨name, inverse, hback, hother⟩
  rcases hname with hnone | hcorrelates
  · cases hnone.symm.trans hours
  · exact hother ((h' name inverse).1 ⟨hback, fun _ => hcorrelates⟩)

theorem JoinsOn.eq_of_mono (hr : Ranked models) (hf : Denotes models e.table foreign)
    (ha : Anchored models decls owner field e)
    (h : JoinsOn models decls owner foreign field e j)
    (h' : JoinsOn models decls' owner foreign field e j') : j' = j := by
  cases h with
  | declared fields references => exact h'.eq_of_declared fields references
  | @inferred name column reference inverse fields references selects fields' references' =>
    cases h' with
    | declared fields'' => cases fields.symm.trans fields''
    | @inferred name' column' reference' inverse' _ _ selects' fields'' references'' =>
      have he := RelationDecl.hasJoinColumns_eq_false_iff.2 ⟨fields, references⟩
      have hname := ha.shares_name hr hf he selects
      obtain ⟨rfl, rfl⟩ := selects.eq_of_mono hsub selects' hname
      cases fields'.symm.trans fields''
      cases references'.symm.trans references''
      rfl

theorem ResolvesTo.eq_of_mono (hr : Ranked models) (ha : Anchored models decls m field e)
    (h : ResolvesTo models decls m field e x) (h' : ResolvesTo models decls' m field e y) :
    y = x := by
  cases h with
  | @intro foreign j f g denotes joins stored foreign_stored =>
  cases h' with
  | @intro foreign' j' f' g' denotes' joins' stored' foreign_stored' =>
    cases denotes'.unique hr denotes
    cases joins.eq_of_mono hsub hr denotes ha joins'
    cases stored'.symm.trans stored
    cases foreign_stored'.symm.trans foreign_stored
    rfl

/-- A relation that is anchored resolves to the same in every extension that resolves at all. -/
theorem Ranked.mem_of_extends {relations relations' : List Relation} (hr : Ranked models)
    (h : resolveRelations models decls = .ok relations)
    (h' : resolveRelations models decls' = .ok relations') (hx : x ∈ relations)
    (ho : Owns models decls m x.fieldName e) (ha : Anchored models decls m x.fieldName e)
    (hm : x.owner = m.id) : x ∈ relations' := by
  obtain ⟨m', e', ho', hxe⟩ := (hr.mem_relations_iff h).1 hx
  cases hr.eq_of_id ho'.mem ho.mem (hxe.owner_eq.symm.trans hm)
  cases hr.owns_unique (hr.exists_resolveRelations_iff.1 ⟨_, h⟩).toGatherable ho ho'
  have hall := hr.exists_resolveRelations_iff.1 ⟨_, h'⟩
  obtain ⟨y, hy⟩ := exists_resolvesTo_iff.2 (hall.joined m x.fieldName e (ho.mono hsub))
  cases hxe.eq_of_mono hsub hr ha hy
  exact (hr.mem_relations_iff h').2 ⟨m, e, ho.mono hsub, hy⟩

end More

/-- Registries of the same tables differ in the relations of their models only. -/
theorem Registry.models_of_same_tables (h : Registry.build d = .ok r)
    (h' : Registry.build d' = .ok r') (ht : d'.tables = d.tables) :
    ∃ relations, resolveRelations r.models d'.relations = .ok relations ∧
      r'.models = r.models.map (.regain fun m => relations.filter (·.owner == m.id)) := by
  obtain ⟨models, _, hm, _, hmodels⟩ := Registry.models_of_build h
  obtain ⟨models', relations, hm', hres, hmodels'⟩ := Registry.models_of_build h'
  rw [ht, hm] at hm'
  cases hm'
  refine ⟨relations, ?_, ?_⟩
  · rw [hmodels, resolveRelations_regain, hres]
  · rw [hmodels, hmodels', List.map_map]
    rfl

/-- If a schema and an extension of it both build, then their models differ in relations only, and
every anchored relation of the schema is one of the extension. -/
theorem Registry.extension_keeps_relations (hext : d'.Extends d) (h : Registry.build d = .ok r)
    (h' : Registry.build d' = .ok r') :
    ∃ g : Model → List Relation, r'.models = r.models.map (.regain g) ∧
      ∀ m ∈ r.models, ∀ x ∈ m.relations, ∀ e, Owns r.models d.relations m x.fieldName e →
        Anchored r.models d.relations m x.fieldName e → x ∈ g m := by
  have hr := (Registry.coherent_of_build h).ranked
  obtain ⟨relations, hres, hrelations⟩ := Registry.resolves_of_build h
  obtain ⟨relations', hres', hmodels⟩ := Registry.models_of_same_tables h h' hext.tables_eq
  refine ⟨_, hmodels, fun m hm x hx e ho ha => ?_⟩
  rw [hrelations m hm, List.mem_filter, beq_iff_eq] at hx
  refine List.mem_filter.2 ⟨?_, by simp [hx.2]⟩
  exact hr.mem_of_extends hext.keeps hres hres' hx.1 ho ha hx.2

theorem Declaration.extends_addRelation {key : String}
    (hfree : (d.relations.get? key).bind (·.get? field) = none) :
    (d.addRelation key field e).Extends d := by
  refine ⟨rfl, ?_⟩
  rintro key' field' e' ⟨own, hown, hfield⟩
  rw [Declares, Declaration.addRelation]
  simp only [NameMap.get?_insert]
  split
  · next hkey =>
    subst hkey
    rw [hown, Option.bind_some] at hfree
    have hne : field' ≠ field := fun he => by simp [he, hfree] at hfield
    exact ⟨_, rfl, by rw [hown, Option.getD_some, NameMap.get?_insert, if_neg hne, hfield]⟩
  · exact ⟨own, hown, hfield⟩

/-- Posts with an author, and what the author's relation is named by the posts. -/
def bylines (name : Option String) : Declaration where
  tables := .ofList [
    ("users", ⟨"users", [{ name := "id", dataType := .serial, primaryKey := true }]⟩),
    ("posts", ⟨"posts", [
      { name := "id", dataType := .serial, primaryKey := true },
      { name := "authorId", dataType := .integer, columnName := some "author_id" },
      { name := "editorId", dataType := .integer, columnName := some "editor_id" }]⟩)]
  relations := .ofList [
    ("posts", .ofList [
      ("author", { kind := .one, table := "users", fields := ["author_id"],
                   references := ["id"], relationName := name })]),
    ("users", .ofList [
      ("posts", { kind := .many, table := "posts", relationName := some "byline" })])]

def edited (d : Declaration) (name : String) : Declaration :=
  d.addRelation "posts" "editor"
    { kind := .one, table := "users", fields := ["editor_id"], references := ["id"],
      relationName := some name }

theorem extension_keeps_relations_bylines : ∃ r r' m x,
    Registry.build (bylines (some "byline")) = .ok r ∧
    Registry.build (edited (bylines (some "byline")) "edits") = .ok r' ∧
    m ∈ r.models ∧ x ∈ m.relations ∧ x.fieldName = "posts" ∧
    ∃ g : Model → List Relation, r'.models = r.models.map (.regain g) ∧ x ∈ g m := by
  have h : Registry.build (bylines (some "byline")) = .ok _ := rfl
  have h' : Registry.build (edited (bylines (some "byline")) "edits") = .ok _ := rfl
  have hr := (Registry.coherent_of_build h).ranked
  obtain ⟨g, hmodels, hkeeps⟩ :=
    Registry.extension_keeps_relations (Declaration.extends_addRelation rfl) h h'
  have husers : Denotes _ "users" _ := hr.findModel?_eq_some_iff.1 rfl
  have hposts : Denotes _ "posts" _ := hr.findModel?_eq_some_iff.1 rfl
  have hselects : Selects _ (bylines (some "byline")).relations _ _ "posts"
      { kind := .many, table := "posts", relationName := some "byline" } "author" _ :=
    (hr.findInverse_eq_ok_iff rfl husers.mem hposts.mem).1 rfl
  have hx := hkeeps _ (List.mem_of_getElem? (i := 1) rfl) _ (List.mem_of_getElem? (i := 0) rfl)
    _ ⟨"users", husers, _, rfl, rfl⟩ (.correlated hposts hselects ⟨"byline", rfl, rfl⟩)
  exact ⟨_, _, _, _, h, h', List.mem_of_getElem? (i := 1) rfl, List.mem_of_getElem? (i := 0) rfl,
    rfl, g, hmodels, hx⟩

/-- The column of a post that the posts of a user are found by. -/
def bylineField (d : Declaration) : Option String := do
  let r ← (Registry.build d).toOption
  return (← (← r.get? "users").relation? "posts").foreignField

-- a name that the only candidate does not share selects another candidate as soon as one has it
example : bylineField (bylines none) = some "authorId" ∧
    bylineField (edited (bylines none) "byline") = some "editorId" := by
  decide

end CrudPlan
