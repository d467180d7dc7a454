import CrudPlan.Proofs.Schema.Table

namespace CrudPlan

/-- Why the other direction of a relation gives it no join columns: nothing is eligible, several
declarations are, or the only one has no columns either. -/
inductive Unjoined (models : List Model) (decls : NameMap OwnDecls) (owner foreign : Model)
    (field : String) (d : RelationDecl) : JoinProblem → Prop
  | noRelations (none : ∀ name e, ¬ Owns models decls foreign name e) :
      Unjoined models decls owner foreign field d (.noRelations foreign.name)
  | noCandidate (none : ∀ name e, ¬ RefersBack models decls owner foreign field name e) :
      Unjoined models decls owner foreign field d (.noCandidate foreign.name owner.name)
  | noSharedName {names : List String} (ascending : names.Pairwise (· < ·))
      (back : ∀ name, name ∈ names ↔ ∃ e, RefersBack models decls owner foreign field name e)
      (several : 2 ≤ names.length)
      (none : ∀ name e, ¬ Eligible models decls owner foreign field d name e) :
      Unjoined models decls owner foreign field d
        (.noSharedName names.length foreign.name owner.name d.relationName)
  | ambiguous {names : List String} (ascending : names.Pairwise (· < ·))
      (eligible : ∀ name, name ∈ names ↔ ∃ e, Eligible models decls owner foreign field d name e)
      (several : 2 ≤ names.length) :
      Unjoined models decls owner foreign field d (.ambiguous names foreign.name)
  | inverseWithoutJoin {name : String} {e : RelationDecl}
      (selects : Selects models decls owner foreign field d name e) (fields : e.fields = [])
      (references : e.references = []) :
      Unjoined models decls owner foreign field d (.inverseWithoutJoin foreign.name name)

/-- No model and no table has the name. -/
def Unknown (models : List Model) (name : String) : Prop :=
  ∀ m ∈ models, m.name ≠ name ∧ m.tableName ≠ name

/-- What is wrong with the relations that are declared for models. -/
inductive RelationFault (models : List Model) (decls : NameMap OwnDecls) : SchemaError → Prop
  | unknownKey {key own} (declared : decls.get? key = some own) (unknown : Unknown models key) :
      RelationFault models decls (.unknownModel key .declarationKey)
  | unknownTarget {m field e} (owns : Owns models decls m field e)
      (unknown : Unknown models e.table) :
      RelationFault models decls (.unknownModel e.table (.relation m.name field))
  | namedAsField {m field e f} (owns : Owns models decls m field e) (mem : f ∈ m.fields)
      (named : f.name = field) :
      RelationFault models decls (.duplicateField m.name field)
  | declaredTwice {m field key key' e e'} (denotes : Denotes models key m)
      (denotes' : Denotes models key' m) (different : key ≠ key')
      (declares : Declares decls key field e) (declares' : Declares decls key' field e') :
      RelationFault models decls (.duplicateField m.name field)
  | unknownColumn {m foreign field e j table column} (owns : Owns models decls m field e)
      (denotes : Denotes models e.table foreign) (joins : JoinsOn models decls m foreign field e j)
      (side : table = m ∧ column = j.field ∨ table = foreign ∧ column = j.reference)
      (missing : ∀ f ∈ table.fields, f.columnName ≠ column) :
      RelationFault models decls (.unknownJoinColumn m.name field table.tableName column)
  | composite {m field e} (owns : Owns models decls m field e)
      (even : e.fields.length = e.references.length) (several : 2 ≤ e.fields.length) :
      RelationFault models decls (.compositeJoin m.name field)
  | uneven {m field e} (owns : Owns models decls m field e)
      (uneven : e.fields.length ≠ e.references.length) :
      RelationFault models decls
        (.unresolvable m.name field (.uneven e.fields.length e.references.length))
  | unjoined {m foreign field e problem} (owns : Owns models decls m field e)
      (fields : e.fields = []) (references : e.references = [])
      (denotes : Denotes models e.table foreign)
      (unjoined : Unjoined models decls m foreign field e problem) :
      RelationFault models decls (.unresolvable m.name field problem)

/-- What is wrong with a declaration: one of its tables, or the relations of their models. -/
inductive Declaration.Fault (d : Declaration) : SchemaError → Prop
  | table {name t error} (declared : d.tables.get? name = some t) (fault : t.Fault name error) :
      Fault d error
  | relation {models error} (presented : Presented d.tables models)
      (fault : RelationFault models d.relations error) : Fault d error

variable {models : List Model} {decls : NameMap OwnDecls} {owner foreign m : Model}
  {field name : String} {e e' : RelationDecl} {j j' : JoinColumns} {problem : JoinProblem}
  {error : SchemaError} {d : Declaration} {t : TableDecl}

theorem Unknown.not_denotes (h : Unknown models name) : ¬ Denotes models name m := by
  rintro (⟨mem, named⟩ | ⟨mem, stored⟩)
  · exact (h m mem).1 named
  · exact (h m mem).2 stored

theorem JoinsOn.unique (h : JoinsOn models decls owner foreign field e j)
    (h' : JoinsOn models decls owner foreign field e j') : j = j' := by
  cases h with
  | declared fields references =>
    cases h' with
    | declared fields' references' =>
      cases fields.symm.trans fields'
      cases references.symm.trans references'
      rfl
    | inferred fields' => cases fields.symm.trans fields'
  | inferred fields _ selects inverse_fields inverse_references =>
    cases h' with
    | declared fields' => cases fields.symm.trans fields'
    | inferred _ _ selects' inverse_fields' inverse_references' =>
      cases (selects' _ _).1 selects.eligible
      cases inverse_fields.symm.trans inverse_fields'
      cases inverse_references.symm.trans inverse_references'
      rfl

theorem JoinsOn.length_eq (h : JoinsOn models decls owner foreign field e j) :
    e.fields.length = e.references.length ∧ e.fields.length ≤ 1 := by
  cases h with
  | declared fields references => simp [fields, references]
  | inferred fields references => simp [fields, references]

theorem Unjoined.not_joinsOn (h : Unjoined models decls owner foreign field e problem)
    (hf : e.fields = []) : ¬ JoinsOn models decls owner foreign field e j := by
  rintro (⟨fields⟩ | ⟨_, _, selects, fields⟩)
  · cases hf.symm.trans fields
  · have heligible := selects.eligible
    cases h with
    | noRelations none => exact none _ _ heligible.1.1
    | noCandidate none => exact none _ _ heligible.1
    | noSharedName _ _ _ none => exact none _ _ heligible
    | @ambiguous names ascending eligible several =>
      -- all names are that of the one declaration
      have hone : ∀ other ∈ names, other = _ := fun other ho => by
        obtain ⟨_, ho⟩ := (eligible other).1 ho
        exact congrArg Prod.fst ((selects _ _).1 ho)
      match names, several with
      | a :: b :: _, _ =>
        have hlt : a < b := (List.pairwise_cons.1 ascending).1 b List.mem_cons_self
        rw [hone a List.mem_cons_self, hone b (List.mem_cons_of_mem a List.mem_cons_self)] at hlt
        exact String.lt_irrefl _ hlt
    | inverseWithoutJoin selects' fields' =>
      cases (selects' _ _).1 heligible
      cases fields'.symm.trans fields

theorem RelationFault.not_resolvable (hr : Ranked models)
    (h : RelationFault models decls error) : ¬ Resolvable models decls := by
  intro hall
  have hjoined {m field e} (owns : Owns models decls m field e) := hall.joined m field e owns
  cases h with
  | unknownKey declared unknown =>
    obtain ⟨_, hdenotes⟩ := hall.keys _ _ declared
    exact unknown.not_denotes hdenotes
  | unknownTarget owns unknown =>
    obtain ⟨_, hdenotes, _⟩ := hjoined owns
    exact unknown.not_denotes hdenotes
  | namedAsField owns mem named => exact hall.fresh _ _ _ owns _ mem named
  | declaredTwice denotes denotes' different declares declares' =>
    exact different (hall.once _ _ _ _ _ _ denotes denotes' declares declares')
  | unknownColumn owns denotes joins side missing =>
    obtain ⟨_, hdenotes, _, hjoins, ⟨f, hf, hstored⟩, g, hg, hstored'⟩ := hjoined owns
    cases hdenotes.unique hr denotes
    cases hjoins.unique joins
    rcases side with ⟨rfl, rfl⟩ | ⟨rfl, rfl⟩
    · exact missing f hf hstored
    · exact missing g hg hstored'
  | composite owns _ several =>
    obtain ⟨_, _, _, hjoins, _⟩ := hjoined owns
    have hle := hjoins.length_eq.2
    omega
  | uneven owns uneven =>
    obtain ⟨_, _, _, hjoins, _⟩ := hjoined owns
    exact uneven hjoins.length_eq.1
  | unjoined owns fields _ denotes unjoined =>
    obtain ⟨_, hdenotes, _, hjoins, _⟩ := hjoined owns
    cases hdenotes.unique hr denotes
    exact unjoined.not_joinsOn fields hjoins

theorem TableDecl.Fault.not_orderly (h : t.Fault name error) : ¬ t.Orderly := by
  intro horderly
  obtain ⟨_, hm⟩ := TableDecl.exists_model_iff.2 horderly
  cases (h.model_eq 0).symm.trans hm

theorem Presented.unique {tables : NameMap TableDecl} {models models' : List Model}
    (h : Presented tables models) (h' : extractModels tables = .ok models') : models = models' := by
  have hall := exists_extractModels_iff.1 ⟨models', h'⟩
  have hok : extractModels tables = .ok models := by
    refine extractModels_eq_ok_iff.2 ?_
    refine List.Forall₂.imp ?_ ((List.forall₂_and_left _ _).2 ⟨fun _ he => he, h⟩)
    intro e m ⟨he, hpresents⟩
    exact TableDecl.model_eq_ok_iff_presents.2 ⟨hall _ (List.fst_mem_of_mem_zipIdx he), hpresents⟩
  exact Except.ok.inj (hok.symm.trans h')

end CrudPlan
