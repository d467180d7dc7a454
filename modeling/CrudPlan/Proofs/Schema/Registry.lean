import CrudPlan.Proofs.Schema.Resolution
import CrudPlan.Schema.Registry

namespace CrudPlan

variable {d : Declaration} {r : Registry} {models : List Model} {relations : List Relation}
  {m m' : Model} {x : Relation} {decls : NameMap OwnDecls} {field : String} {e : RelationDecl}

/-- A relation belongs to its model and joins a field of it with a field of another model that is
there. -/
structure Registry.Joined (r : Registry) (m : Model) (x : Relation) : Prop where
  owner_eq : x.owner = m.id
  owner_found : r.model? x.owner = some m
  kind_eq : x.nullable → x.kind = .one
  join : ∃ foreign f g, r.foreignModel? x = some foreign ∧ f ∈ m.fields ∧ f.name = x.localField ∧
    g ∈ foreign.fields ∧ g.name = x.foreignField ∧ r.joinFields? x = some (f, g)

/-- The relations of a model have names of their own, and each is found under its name. -/
structure Registry.Related (r : Registry) (m : Model) : Prop where
  names : (m.relations.map (·.fieldName)).Nodup
  fresh : ∀ x ∈ m.relations, ∀ f ∈ m.fields, f.name ≠ x.fieldName
  found : ∀ x ∈ m.relations, m.relation? x.fieldName = some x
  joined : ∀ x ∈ m.relations, r.Joined m x

/-- Whatever a registry is asked for is there, and is the only one of its name. -/
structure Registry.Coherent (r : Registry) : Prop where
  ranked : Ranked r.models
  get?_eq_some_iff : ∀ name m, r.get? name = some m ↔ m ∈ r.models ∧ m.name = name
  sound : ∀ m ∈ r.models, m.Sound
  related : ∀ m ∈ r.models, r.Related m

theorem Ranked.attachRelations (hr : Ranked models) (relations : List Relation) :
    Ranked (attachRelations relations models) := by
  constructor
  · intro i m' hi
    rw [CrudPlan.attachRelations, List.getElem?_map, Option.map_eq_some_iff] at hi
    obtain ⟨m, hm, rfl⟩ := hi
    exact hr.id_eq i m hm
  · rw [CrudPlan.attachRelations, List.pairwise_map]
    exact hr.names

theorem Model.Sound.field?_eq_some_iff (hs : m.Sound) {name : String} {f : Field} :
    m.field? name = some f ↔ f ∈ m.fields ∧ f.name = name :=
  find?_key_eq_some_iff hs.names

theorem map_fieldName_eq {own : List (String × RelationDecl)} {gained : List Relation}
    (h : List.Forall₂ (fun e r => ResolvesTo models decls m e.1 e.2 r) own gained) :
    gained.map (·.fieldName) = own.map (·.1) := by
  induction h with
  | nil => rfl
  | cons hres _ ih => rw [List.map_cons, List.map_cons, hres.fieldName_eq, ih]

theorem Registry.build_eq_ok_iff :
    Registry.build d = .ok r ↔ ∃ models, extractModels d.tables = .ok models ∧
      ∃ relations, resolveRelations models d.relations = .ok relations ∧
        ⟨attachRelations relations models⟩ = r := by
  rw [Registry.build, bind_eq_ok_iff]
  simp only [bind_eq_ok_iff, pure, Except.pure, Except.ok.injEq]

/-- Every model of a registry is one of the schema's tables, with the relations that it owns. -/
theorem Registry.gains_of_build (h : Registry.build d = .ok r) :
    ∃ models, extractModels d.tables = .ok models ∧ Ranked r.models ∧
      Resolvable models d.relations ∧ List.Forall₂ (Gains models d.relations) models r.models := by
  obtain ⟨models, hm, relations, hres, rfl⟩ := Registry.build_eq_ok_iff.1 h
  have hr := ranked_of_extractModels hm
  exact ⟨models, hm, hr.attachRelations relations,
    hr.exists_resolveRelations_iff.1 ⟨relations, hres⟩, hr.attachRelations_gains hres⟩

theorem Gains.id_eq (h : Gains models decls m m') : m'.id = m.id := by
  obtain ⟨_, _, _, _, rfl⟩ := h
  rfl

theorem Gains.fields_eq (h : Gains models decls m m') : m'.fields = m.fields := by
  obtain ⟨_, _, _, _, rfl⟩ := h
  rfl

theorem Gains.sound (h : Gains models decls m m') (hs : m.Sound) : m'.Sound := by
  obtain ⟨_, _, _, _, rfl⟩ := h
  exact ⟨hs.names, hs.primary⟩

/-- A relation still joins what it was resolved to once all relations are attached. -/
theorem Registry.joined_of_resolvesTo (hr : Ranked r.models) (hs : ∀ m ∈ r.models, m.Sound)
    (hg : List.Forall₂ (Gains models decls) models r.models) (hm' : m' ∈ r.models)
    (hgain : Gains models decls m m') (h : ResolvesTo models decls m field e x) :
    r.Joined m' x := by
  cases h with
  | @intro foreign j f g denotes joins stored foreign_stored =>
    obtain ⟨foreign', hf', hgain'⟩ := exists_of_forall₂_left hg denotes.mem
    have howner : r.models[m.id]? = some m' := hgain.id_eq ▸ hr.getElem?_id hm'
    have hforeign : r.models[foreign.id]? = some foreign' := hgain'.id_eq ▸ hr.getElem?_id hf'
    have hf : f ∈ m'.fields := hgain.fields_eq ▸ List.mem_of_find?_eq_some stored
    have hg : g ∈ foreign'.fields := hgain'.fields_eq ▸ List.mem_of_find?_eq_some foreign_stored
    refine ⟨hgain.id_eq.symm, howner, fun hn => ?_, foreign', f, g, hforeign, hf, rfl, hg, rfl, ?_⟩
    · simpa using (Bool.and_eq_true_iff.1 hn).1
    · simp [Registry.joinFields?, Registry.foreignModel?, Registry.model?, howner, hforeign,
        (hs m' hm').field?_eq_some_iff.2 ⟨hf, rfl⟩,
        (hs foreign' hf').field?_eq_some_iff.2 ⟨hg, rfl⟩]

theorem Registry.coherent_of_build (h : Registry.build d = .ok r) : r.Coherent := by
  obtain ⟨models, hm, hr, hres, hg⟩ := Registry.gains_of_build h
  have hs : ∀ m ∈ r.models, m.Sound := by
    intro m' hm'
    obtain ⟨m, hmem, hgain⟩ := exists_of_forall₂_right hg hm'
    exact hgain.sound (sound_of_extractModels hm hmem)
  refine ⟨hr, fun name m => find?_key_eq_some_iff hr.nodup_names, hs, fun m' hm' => ?_⟩
  obtain ⟨m, hmem, hgain⟩ := exists_of_forall₂_right hg hm'
  obtain ⟨own, hown, gained, hgained, he⟩ := id hgain
  have hrelations : m'.relations = gained := by
    rw [he, relations_of_extractModels hm hmem, List.nil_append]
  have hdecl : ∀ x ∈ m'.relations, ∃ field e, Owns models d.relations m field e ∧
      ResolvesTo models d.relations m field e x := by
    intro x hx
    obtain ⟨e, hmem, hx⟩ := exists_of_forall₂_right hgained (hrelations ▸ hx)
    exact ⟨e.1, e.2, (hown _ _).1 (NameMap.get?_eq_some_iff.2 hmem), hx⟩
  have hnames : (m'.relations.map (·.fieldName)).Nodup := by
    rw [hrelations, map_fieldName_eq hgained]
    refine List.pairwise_map.2 (own.sorted.imp ?_)
    intro a b hlt he
    exact String.lt_irrefl b.1 (he ▸ hlt)
  refine ⟨hnames, fun x hx f hf => ?_, fun x hx => ?_, fun x hx => ?_⟩
  · obtain ⟨field, e, ho, hx⟩ := hdecl x hx
    rw [hx.fieldName_eq]
    exact hres.fresh m field e ho f (hgain.fields_eq ▸ hf)
  · exact (find?_key_eq_some_iff hnames).2 ⟨hx, rfl⟩
  · obtain ⟨field, e, _, hx⟩ := hdecl x hx
    exact Registry.joined_of_resolvesTo hr hs hg hm' hgain hx

/-- Looking up by id finds every model that a relation mentions, and looking up by name no other. -/
theorem Registry.coherent_blog :
    ∃ r, Registry.build blog = .ok r ∧ r.size = 2 ∧ r.Coherent := by
  have h : Registry.build blog = .ok _ := rfl
  exact ⟨_, h, rfl, Registry.coherent_of_build h⟩

end CrudPlan
