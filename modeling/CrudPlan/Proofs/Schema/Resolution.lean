import CrudPlan.Proofs.Schema.Join

namespace CrudPlan

variable {tables : NameMap TableDecl} {models : List Model} {gathered : List OwnDecls}
  {owner m m' : Model} {decls : NameMap OwnDecls} {field : String} {d : RelationDecl}
  {r : Relation} {relations : List Relation}

/-- A relation as its declaration says, joined on the fields that are stored in its join columns. -/
inductive ResolvesTo (models : List Model) (decls : NameMap OwnDecls) (owner : Model)
    (field : String) (d : RelationDecl) : Relation → Prop
  | intro {foreign : Model} {j : JoinColumns} {localField foreignField : Field}
      (denotes : Denotes models d.table foreign)
      (joins : JoinsOn models decls owner foreign field d j)
      (stored : owner.fieldByColumn? j.field = some localField)
      (foreign_stored : foreign.fieldByColumn? j.reference = some foreignField) :
      ResolvesTo models decls owner field d
        { owner := owner.id, fieldName := field, foreignModel := foreign.id, kind := d.kind,
          nullable := d.kind = .one && d.optional, localField := localField.name,
          foreignField := foreignField.name }

/-- Every declaration has its place, leads to a model and joins on columns that exist. -/
structure Resolvable (models : List Model) (decls : NameMap OwnDecls) : Prop
    extends Gatherable models decls where
  joined : ∀ m field d, Owns models decls m field d → ∃ foreign, Denotes models d.table foreign ∧
    ∃ j, JoinsOn models decls m foreign field d j ∧
      (∃ f ∈ m.fields, f.columnName = j.field) ∧
      ∃ f ∈ foreign.fields, f.columnName = j.reference

/-- A model with one relation more for each declaration that it owns, by ascending name. -/
def Gains (models : List Model) (decls : NameMap OwnDecls) (m m' : Model) : Prop :=
  ∃ own : OwnDecls, (∀ field d, own.get? field = some d ↔ Owns models decls m field d) ∧
    ∃ gained, List.Forall₂ (fun e r => ResolvesTo models decls m e.1 e.2 r) own.entries gained ∧
      m' = { m with relations := m.relations ++ gained }

theorem Model.exists_fieldByColumn?_iff {column : String} :
    (∃ f, m.fieldByColumn? column = some f) ↔ ∃ f ∈ m.fields, f.columnName = column := by
  rw [← Option.isSome_iff_exists, Model.fieldByColumn?, List.find?_isSome]
  simp

theorem joinField_eq_ok_iff {table : Model} {column name : String} :
    joinField owner table field column = .ok name ↔
      ∃ f, table.fieldByColumn? column = some f ∧ f.name = name := by
  rw [joinField]
  cases table.fieldByColumn? column <;> simp

theorem Ranked.resolveDecl_eq_ok_iff (hr : Ranked models)
    (h : gatherAll models decls = .ok gathered) (ho : owner ∈ models) :
    resolveDecl models gathered owner field d = .ok r ↔
      ResolvesTo models decls owner field d r := by
  constructor
  · intro hd
    rw [resolveDecl] at hd
    cases hf : findModel? models d.table with
    | none => simp [hf] at hd
    | some foreign =>
      have hforeign := hr.findModel?_eq_some_iff.1 hf
      simp only [hf, bind_eq_ok_iff, joinField_eq_ok_iff] at hd
      obtain ⟨j, hj, _, ⟨localField, hl, rfl⟩, _, ⟨foreignField, hg, rfl⟩, hok⟩ := hd
      cases hok
      exact .intro hforeign ((hr.findJoin_eq_ok_iff h ho hforeign.mem).1 hj) hl hg
  · rintro ⟨hforeign, hj, hl, hg⟩
    simp only [resolveDecl, hr.findModel?_eq_some_iff.2 hforeign, bind_eq_ok_iff,
      joinField_eq_ok_iff]
    exact ⟨_, (hr.findJoin_eq_ok_iff h ho hforeign.mem).2 hj, _, ⟨_, hl, rfl⟩, _,
      ⟨_, hg, rfl⟩, rfl⟩

/-- Resolves all declarations of one model. -/
def resolveOwn (models : List Model) (gathered : List OwnDecls) (owner : Model) :
    Except SchemaError (List Relation) :=
  (declsOf gathered owner).entries.mapM fun e => resolveDecl models gathered owner e.1 e.2

theorem Ranked.zip_eq_map (hr : Ranked models) (hl : gathered.length = models.length) :
    models.zip gathered = models.map fun m => (m, declsOf gathered m) := by
  apply List.ext_getElem (by simp [hl])
  intro i hi _
  have hlt : i < models.length := by simp at hi; omega
  have hid : models[i].id = i := hr.id_eq i _ (List.getElem?_eq_getElem hlt)
  have hget : declsOf gathered models[i] = gathered[i] := by
    rw [declsOf, hid, List.getElem?_eq_getElem (hl ▸ hlt)]
    rfl
  rw [List.getElem_zip, List.getElem_map, hget]

theorem Ranked.resolveRelations_eq_ok_iff (hr : Ranked models) :
    resolveRelations models decls = .ok relations ↔
      ∃ gathered, gatherAll models decls = .ok gathered ∧
        ∃ groups, List.Forall₂ (fun m own => resolveOwn models gathered m = .ok own) models groups ∧
          groups.flatten = relations := by
  rw [resolveRelations, bind_eq_ok_iff]
  refine exists_congr fun gathered => and_congr_right fun h => ?_
  have hl : gathered.length = models.length := by
    rw [length_gatherDecls hr h, List.length_map]
  rw [hr.zip_eq_map hl, List.mapM_map, bind_eq_ok_iff]
  simp only [mapM_eq_ok_iff, pure, Except.pure, Except.ok.injEq]
  rfl

theorem Ranked.resolveOwn_eq_ok_iff (hr : Ranked models) (h : gatherAll models decls = .ok gathered)
    (hm : m ∈ models) :
    resolveOwn models gathered m = .ok relations ↔
      List.Forall₂ (fun e r => ResolvesTo models decls m e.1 e.2 r)
        (declsOf gathered m).entries relations := by
  simp only [resolveOwn, mapM_eq_ok_iff, hr.resolveDecl_eq_ok_iff h hm]

theorem exists_resolvesTo_iff :
    (∃ r, ResolvesTo models decls m field d r) ↔ ∃ foreign, Denotes models d.table foreign ∧
      ∃ j, JoinsOn models decls m foreign field d j ∧
        (∃ f ∈ m.fields, f.columnName = j.field) ∧
        ∃ f ∈ foreign.fields, f.columnName = j.reference := by
  simp only [← Model.exists_fieldByColumn?_iff]
  constructor
  · rintro ⟨_, hd, hj, hl, hf⟩
    exact ⟨_, hd, _, hj, ⟨_, hl⟩, _, hf⟩
  · rintro ⟨_, hd, _, hj, ⟨_, hl⟩, _, hf⟩
    exact ⟨_, hd, hj, hl, hf⟩

theorem Ranked.exists_resolveRelations_iff (hr : Ranked models) :
    (∃ relations, resolveRelations models decls = .ok relations) ↔ Resolvable models decls := by
  have hown (gathered) (h : gatherAll models decls = .ok gathered) :
      (∃ groups, List.Forall₂ (fun m own => resolveOwn models gathered m = .ok own) models groups) ↔
        ∀ m field d, Owns models decls m field d → ∃ r, ResolvesTo models decls m field d r := by
    simp only [← mapM_eq_ok_iff, exists_mapM_eq_ok_iff, resolveOwn]
    constructor
    · intro hall m field d ho
      have hm := ho.mem
      have hmem := NameMap.get?_eq_some_iff.1 ((hr.get?_gatherAll h hm field d).2 ho)
      obtain ⟨r, he⟩ := hall m hm _ hmem
      exact ⟨r, (hr.resolveDecl_eq_ok_iff h hm).1 he⟩
    · intro hall m hm e he
      have ho := (hr.get?_gatherAll h hm e.1 e.2).1 (NameMap.get?_eq_some_iff.2 he)
      obtain ⟨r, hres⟩ := hall m e.1 e.2 ho
      exact ⟨r, (hr.resolveDecl_eq_ok_iff h hm).2 hres⟩
  simp only [hr.resolveRelations_eq_ok_iff]
  constructor
  · rintro ⟨_, gathered, h, groups, hgroups, _⟩
    refine ⟨hr.exists_gatherAll_iff.1 ⟨gathered, h⟩, fun m field d ho => ?_⟩
    exact exists_resolvesTo_iff.1 ((hown gathered h).1 ⟨groups, hgroups⟩ m field d ho)
  · rintro ⟨hgatherable, hjoined⟩
    obtain ⟨gathered, h⟩ := hr.exists_gatherAll_iff.2 hgatherable
    obtain ⟨groups, hgroups⟩ := (hown gathered h).2 fun m field d ho =>
      exists_resolvesTo_iff.2 (hjoined m field d ho)
    exact ⟨_, gathered, h, groups, hgroups, rfl⟩

theorem Ranked.map_id (hr : Ranked models) : models.map (·.id) = List.range models.length := by
  apply List.ext_getElem (by simp)
  intro i hi _
  rw [List.getElem_map, List.getElem_range]
  exact hr.id_eq i _ (List.getElem?_eq_getElem (by simpa using hi))

/-- Groups of relations, each of one owner, can be told apart by their owners. -/
theorem forall₂_filter_owner (before : List Relation) {groups : List (List Relation)}
    (hd : (models.map (·.id)).Nodup) (hb : ∀ r ∈ before, ∀ m ∈ models, r.owner ≠ m.id)
    (h : List.Forall₂ (fun m own => ∀ r ∈ own, r.owner = m.id) models groups) :
    List.Forall₂ (fun m own => (before ++ groups.flatten).filter (·.owner == m.id) = own)
      models groups := by
  induction h generalizing before with
  | nil => exact .nil
  | @cons m own ms gs hm hms ih =>
    obtain ⟨hnot, hd'⟩ := List.nodup_cons.1 hd
    have hne : ∀ m' ∈ ms, m.id ≠ m'.id :=
      fun m' hm' he => hnot (List.mem_map.2 ⟨m', hm', he.symm⟩)
    have hbefore : before.filter (·.owner == m.id) = [] := by
      rw [List.filter_eq_nil_iff]
      intro r hr
      simp [hb r hr m List.mem_cons_self]
    have hself : own.filter (·.owner == m.id) = own := by
      rw [List.filter_eq_self]
      intro r hr
      simp [hm r hr]
    have hrest : gs.flatten.filter (·.owner == m.id) = [] := by
      rw [List.filter_eq_nil_iff]
      intro r hr
      obtain ⟨g, hg, hrg⟩ := List.mem_flatten.1 hr
      obtain ⟨m', hm', howner⟩ := exists_of_forall₂_right hms hg
      simpa [howner r hrg] using (hne m' hm').symm
    refine .cons ?_ ?_
    · simp only [List.flatten_cons, List.filter_append, hbefore, hself, hrest, List.nil_append,
        List.append_nil]
    · simp only [List.flatten_cons, ← List.append_assoc]
      apply ih _ hd'
      intro r hr m' hm'
      rcases List.mem_append.1 hr with hr | hr
      · exact hb r hr m' (List.mem_cons_of_mem m hm')
      · rw [hm r hr]
        exact hne m' hm'

theorem ResolvesTo.owner_eq (h : ResolvesTo models decls m field d r) : r.owner = m.id := by
  cases h
  rfl

theorem ResolvesTo.fieldName_eq (h : ResolvesTo models decls m field d r) :
    r.fieldName = field := by
  cases h
  rfl

/-- Attaching what resolves gives every model its relations. -/
theorem Ranked.attachRelations_gains (hr : Ranked models)
    (h : resolveRelations models decls = .ok relations) :
    List.Forall₂ (Gains models decls) models (attachRelations relations models) := by
  obtain ⟨gathered, hg, groups, hgroups, rfl⟩ := hr.resolveRelations_eq_ok_iff.1 h
  have hres : List.Forall₂ (fun m own => List.Forall₂
      (fun e r => ResolvesTo models decls m e.1 e.2 r) (declsOf gathered m).entries own)
      models groups := by
    refine List.Forall₂.imp ?_ ((List.forall₂_and_left _ _).2 ⟨fun _ hm => hm, hgroups⟩)
    intro m own ⟨hm, ho⟩
    exact (hr.resolveOwn_eq_ok_iff hg hm).1 ho
  have howner : List.Forall₂ (fun m own => ∀ r ∈ own, r.owner = m.id) models groups := by
    refine hres.imp ?_
    intro m own ho r hrel
    obtain ⟨e, _, he⟩ := exists_of_forall₂_right ho hrel
    exact he.owner_eq
  have hfilter := forall₂_filter_owner [] (hr.map_id ▸ List.nodup_range)
    (by simp) howner
  rw [attachRelations, List.forall₂_map_right_iff, List.forall₂_same]
  intro m hm
  obtain ⟨own, _, ho, he⟩ := exists_of_forall₂_left
    (List.Forall₂.mp (fun _ _ => And.intro) hres hfilter) hm
  exact ⟨declsOf gathered m, hr.get?_gatherAll hg hm, own, ho, by rw [← he, List.nil_append]⟩

/-- Relations resolve exactly if every declaration has its place and its join, and then every model
gains one for each declaration that it owns. -/
theorem resolveRelations_exact (hm : extractModels tables = .ok models) (decls : NameMap OwnDecls) :
    ((∃ relations, resolveRelations models decls = .ok relations) ↔ Resolvable models decls) ∧
      ∀ relations, resolveRelations models decls = .ok relations →
        List.Forall₂ (Gains models decls) models (attachRelations relations models) := by
  have hr := ranked_of_extractModels hm
  exact ⟨hr.exists_resolveRelations_iff, fun relations h => hr.attachRelations_gains h⟩

/-- Posts with an author, and users with a manager, whose table has a name of its own. -/
def blog : Declaration where
  tables := .ofList [
    ("users", ⟨"app_users", [
      { name := "id", dataType := .serial, primaryKey := true },
      { name := "managerId", dataType := .integer, columnName := some "manager_id" }]⟩),
    ("posts", ⟨"posts", [
      { name := "id", dataType := .serial, primaryKey := true },
      { name := "authorId", dataType := .integer, columnName := some "author_id" }]⟩)]
  relations := .ofList [
    ("posts", .ofList [
      ("author", { kind := .one, table := "users", fields := ["author_id"],
                   references := ["id"] })]),
    ("users", .ofList [("posts", { kind := .many, table := "posts" })]),
    ("app_users", .ofList [
      ("manager", { kind := .one, table := "app_users", fields := ["manager_id"],
                    references := ["id"], optional := true }),
      ("reports", { kind := .many, table := "users" })])]

theorem resolveRelations_exact_blog :
    ∃ models relations, extractModels blog.tables = .ok models ∧
      resolveRelations models blog.relations = .ok relations ∧ relations.length = 4 ∧
      Resolvable models blog.relations ∧
      List.Forall₂ (Gains models blog.relations) models (attachRelations relations models) := by
  have hm : extractModels blog.tables = .ok _ := rfl
  refine ⟨_, _, hm, rfl, rfl, ?_, ?_⟩
  · exact (resolveRelations_exact hm blog.relations).1.1 ⟨_, rfl⟩
  · exact (resolveRelations_exact hm blog.relations).2 _ rfl

end CrudPlan
