import CrudPlan.Proofs.Schema.Attachment
import CrudPlan.Proofs.Schema.Registry

namespace CrudPlan

variable {d : Declaration} {r : Registry} {models : List Model} {relations : List Relation}
  {decls : NameMap OwnDecls} {owner foreign m : Model} {x : Relation} {field : String}
  {e e' : RelationDecl} {j : JoinColumns}

theorem RelationDecl.hasJoinColumns_eq_false_iff :
    e.hasJoinColumns = false ↔ e.fields = [] ∧ e.references = [] := by
  simp [RelationDecl.hasJoinColumns]

theorem JoinsOn.eq_of_declared {column reference : String} (hf : e.fields = [column])
    (hr : e.references = [reference]) (h : JoinsOn models decls owner foreign field e j) :
    j = ⟨column, reference⟩ := by
  cases h with
  | declared fields references =>
    cases hf.symm.trans fields
    cases hr.symm.trans references
    rfl
  | inferred fields => cases hf.symm.trans fields

theorem Selects.refersBack {name : String}
    (h : Selects models decls owner foreign field e name e') :
    RefersBack models decls owner foreign field name e' :=
  h.eligible.1

theorem Ranked.owns_unique (hr : Ranked models) (h : Gatherable models decls)
    (ho : Owns models decls m field e) (ho' : Owns models decls m field e') : e' = e := by
  obtain ⟨gathered, hg⟩ := hr.exists_gatherAll_iff.2 h
  have hm := ho.mem
  have hget := (hr.get?_gatherAll hg hm field e).2 ho
  rw [(hr.get?_gatherAll hg hm field e').2 ho'] at hget
  exact Option.some.inj hget

theorem ResolvesTo.foreignModel_eq (h : ResolvesTo models decls m field e x) :
    ∃ foreign, Denotes models e.table foreign ∧ x.foreignModel = foreign.id := by
  cases h with
  | intro denotes => exact ⟨_, denotes, rfl⟩

theorem ResolvesTo.unique {gathered : List OwnDecls} {y : Relation} (hr : Ranked models)
    (hg : gatherAll models decls = .ok gathered) (hm : m ∈ models)
    (h : ResolvesTo models decls m field e x) (h' : ResolvesTo models decls m field e y) :
    x = y := by
  have hx := (hr.resolveDecl_eq_ok_iff hg hm).2 h
  rw [(hr.resolveDecl_eq_ok_iff hg hm).2 h'] at hx
  exact (Except.ok.inj hx).symm

theorem Ranked.mem_relations_iff (hr : Ranked models)
    (h : resolveRelations models decls = .ok relations) :
    x ∈ relations ↔ ∃ m e, Owns models decls m x.fieldName e ∧
      ResolvesTo models decls m x.fieldName e x := by
  obtain ⟨gathered, hg, groups, hgroups, rfl⟩ := hr.resolveRelations_eq_ok_iff.1 h
  rw [List.mem_flatten]
  constructor
  · rintro ⟨own, hown, hx⟩
    obtain ⟨m, hm, hres⟩ := exists_of_forall₂_right hgroups hown
    obtain ⟨e, he, hxe⟩ := exists_of_forall₂_right ((hr.resolveOwn_eq_ok_iff hg hm).1 hres) hx
    have ho := (hr.get?_gatherAll hg hm e.1 e.2).1 (NameMap.get?_eq_some_iff.2 he)
    rw [← hxe.fieldName_eq] at ho hxe
    exact ⟨m, e.2, ho, hxe⟩
  · rintro ⟨m, e, ho, hx⟩
    have hm := ho.mem
    obtain ⟨own, hown, hres⟩ := exists_of_forall₂_left hgroups hm
    have he := NameMap.get?_eq_some_iff.1 ((hr.get?_gatherAll hg hm _ _).2 ho)
    obtain ⟨y, hy, hye⟩ := exists_of_forall₂_left ((hr.resolveOwn_eq_ok_iff hg hm).1 hres) he
    rw [hx.unique hr hg hm hye]
    exact ⟨own, hown, hy⟩

/-- The models of a registry are those of its tables, each with the relations that it owns. -/
theorem Registry.models_of_build (h : Registry.build d = .ok r) :
    ∃ models relations, extractModels d.tables = .ok models ∧
      resolveRelations models d.relations = .ok relations ∧
      r.models = models.map (.regain fun m => relations.filter (·.owner == m.id)) := by
  obtain ⟨models, hm, relations, hres, rfl⟩ := Registry.build_eq_ok_iff.1 h
  refine ⟨models, relations, hm, hres, List.map_congr_left fun m hmem => ?_⟩
  rw [relations_of_extractModels hm hmem, List.nil_append]
  rfl

theorem Registry.resolves_of_build (h : Registry.build d = .ok r) :
    ∃ relations, resolveRelations r.models d.relations = .ok relations ∧
      ∀ m ∈ r.models, m.relations = relations.filter (·.owner == m.id) := by
  obtain ⟨models, relations, _, hres, hmodels⟩ := Registry.models_of_build h
  refine ⟨relations, ?_, fun m hm => ?_⟩
  · rw [hmodels, resolveRelations_regain, hres]
  · rw [hmodels] at hm
    obtain ⟨m, _, rfl⟩ := List.mem_map.1 hm
    rfl

theorem Registry.mem_relations_iff (h : Registry.build d = .ok r) (hm : m ∈ r.models) :
    x ∈ m.relations ↔ ∃ e, Owns r.models d.relations m x.fieldName e ∧
      ResolvesTo r.models d.relations m x.fieldName e x := by
  have hr := (Registry.coherent_of_build h).ranked
  obtain ⟨relations, hres, hrelations⟩ := Registry.resolves_of_build h
  rw [hrelations m hm, List.mem_filter, hr.mem_relations_iff hres, beq_iff_eq]
  constructor
  · rintro ⟨⟨m', e, ho, hx⟩, howner⟩
    have hid : m'.id = m.id := hx.owner_eq.symm.trans howner
    rw [← hr.eq_of_id ho.mem hm hid]
    exact ⟨e, ho, hx⟩
  · rintro ⟨e, ho, hx⟩
    exact ⟨⟨m, e, ho, hx⟩, hx.owner_eq⟩

/-- What a relation takes from its inverse, the inverse has from its own declaration. -/
theorem ResolvesTo.mirrored (hr : Ranked models) (hall : Resolvable models decls)
    (h : ResolvesTo models decls m field e x) (he : e.hasJoinColumns = false) :
    ∃ foreign name inverse y, Denotes models e.table foreign ∧
      RefersBack models decls m foreign field name inverse ∧
      (∃ column reference, inverse.fields = [column] ∧ inverse.references = [reference]) ∧
      ResolvesTo models decls foreign name inverse y ∧ y.foreignModel = m.id ∧
      y.localField = x.foreignField ∧ y.foreignField = x.localField := by
  obtain ⟨hfields, _⟩ := RelationDecl.hasJoinColumns_eq_false_iff.1 he
  cases h with
  | @intro foreign j f g denotes joins stored foreign_stored =>
  cases joins with
  | declared fields => cases hfields.symm.trans fields
  | @inferred name column reference inverse _ _ selects fields references =>
    have hback := selects.refersBack
    obtain ⟨y, hy⟩ := exists_resolvesTo_iff.2 (hall.joined foreign name inverse hback.1)
    refine ⟨foreign, name, inverse, y, denotes, hback, ⟨column, reference, fields, references⟩, hy,
      ?_⟩
    cases hy with
    | intro denotes' joins' stored' foreign_stored' =>
      -- the inverse looks its columns up in the same two models
      cases joins'.eq_of_declared fields references
      cases denotes'.unique hr hback.2.1
      cases stored'.symm.trans foreign_stored
      cases foreign_stored'.symm.trans stored
      exact ⟨rfl, rfl, rfl⟩

/-- Every relation has one declaration. If that gives no join columns, then the model that the
relation leads to has another relation, which has columns of its own, leads back, and joins the same
fields the other way around. -/
theorem Registry.inferred_relations_mirrored (h : Registry.build d = .ok r) (hm : m ∈ r.models)
    (hx : x ∈ m.relations) :
    ∃ e foreign, (∀ e', Owns r.models d.relations m x.fieldName e' ↔ e' = e) ∧
      r.foreignModel? x = some foreign ∧
      (e.hasJoinColumns = false → ∃ y ∈ foreign.relations, y ≠ x ∧
        (∃ inverse column reference, Owns r.models d.relations foreign y.fieldName inverse ∧
          inverse.fields = [column] ∧ inverse.references = [reference]) ∧
        r.foreignModel? y = some m ∧ y.localField = x.foreignField ∧
        y.foreignField = x.localField) := by
  have hr := (Registry.coherent_of_build h).ranked
  obtain ⟨relations, hres, _⟩ := Registry.resolves_of_build h
  have hall := hr.exists_resolveRelations_iff.1 ⟨relations, hres⟩
  obtain ⟨e, ho, hxe⟩ := (Registry.mem_relations_iff h hm).1 hx
  obtain ⟨foreign, hdenotes, hforeign⟩ := hxe.foreignModel_eq
  have hlead : r.foreignModel? x = some foreign := by
    rw [Registry.foreignModel?, Registry.model?, hforeign, hr.getElem?_id hdenotes.mem]
  refine ⟨e, foreign, fun e' => ⟨hr.owns_unique hall.toGatherable ho, fun he => he ▸ ho⟩, hlead,
    fun he => ?_⟩
  obtain ⟨foreign', name, inverse, y, hdenotes', ⟨hown, _, hother⟩, ⟨column, reference, hcolumns⟩,
    hy, hback, hlocal, hforeign'⟩ := hxe.mirrored hr hall he
  cases hdenotes'.unique hr hdenotes
  obtain rfl := hy.fieldName_eq
  refine ⟨y, (Registry.mem_relations_iff h hdenotes.mem).2 ⟨inverse, hown, hy⟩, ?_,
    ⟨inverse, column, reference, hown, hcolumns⟩, ?_, hlocal, hforeign'⟩
  · rintro rfl
    exact hother ⟨hr.eq_of_id hdenotes.mem hm (hy.owner_eq.symm.trans hxe.owner_eq), rfl⟩
  · rw [Registry.foreignModel?, Registry.model?, hback, hr.getElem?_id hm]

/-- Reports are found by the column that leads to the manager. Their declaration stands under the
name of the table and refers to the name of the model, that of the manager refers to the table. -/
theorem inferred_relations_mirrored_blog : ∃ r m x y, Registry.build blog = .ok r ∧ m ∈ r.models ∧
    x ∈ m.relations ∧ x.fieldName = "reports" ∧ y ∈ m.relations ∧ y ≠ x ∧
    r.foreignModel? y = some m ∧ y.localField = x.foreignField ∧ y.foreignField = x.localField := by
  have h : Registry.build blog = .ok _ := rfl
  have hr := (Registry.coherent_of_build h).ranked
  obtain ⟨e, foreign, howns, hforeign, hmirror⟩ := Registry.inferred_relations_mirrored h
    (List.mem_of_getElem? (i := 1) rfl) (List.mem_of_getElem? (i := 2) rfl)
  cases hforeign
  cases (howns { kind := .many, table := "users" }).1
    ⟨"app_users", hr.findModel?_eq_some_iff.1 rfl, _, rfl, rfl⟩
  obtain ⟨y, hy, hother, _, hback, hlocal, hforeign⟩ := hmirror rfl
  exact ⟨_, _, _, y, h, List.mem_of_getElem? (i := 1) rfl, List.mem_of_getElem? (i := 2) rfl, rfl,
    hy, hother, hback, hlocal, hforeign⟩

end CrudPlan
