import CrudPlan.Proofs.Schema.Resolution

namespace CrudPlan

/-- A field says what its column declares, and is stored under the column's own name unless another
is declared. -/
structure Field.Mirrors (f : Field) (c : ColumnDecl) : Prop where
  name_eq : f.name = c.name
  dataType_eq : f.dataType = c.dataType
  isPrimaryKey_eq : f.isPrimaryKey = c.primaryKey
  nullable_eq : f.nullable = c.nullable
  hasDefault_eq : f.hasDefault = c.hasDefault
  stored : c.columnName = some f.columnName ∨ c.columnName = none ∧ f.columnName = c.name

/-- A model has the columns of its table in their order, the flagged one as its key, and no relation
yet. -/
structure Model.Presents (m : Model) (id : Nat) (name : String) (t : TableDecl) : Prop where
  id_eq : m.id = id
  name_eq : m.name = name
  tableName_eq : m.tableName = t.tableName
  fields : List.Forall₂ (fun c f => f.Mirrors c) t.columns m.fields
  primary : m.fields.filter (·.isPrimaryKey) = [m.primaryKey]
  relations_eq : m.relations = []

/-- Models present tables one by one, each under the number of its place among the names. -/
def Presented (tables : NameMap TableDecl) (models : List Model) : Prop :=
  List.Forall₂ (fun e m => m.Presents e.2 e.1.1 e.1.2) tables.entries.zipIdx models

/-- Columns have names of their own, and exactly one is flagged as the primary key. -/
structure TableDecl.Orderly (t : TableDecl) : Prop where
  distinct : (t.columns.map (·.name)).Nodup
  keyed : t.columns.countP (·.primaryKey) = 1

/-- What is wrong with a table. The first column that repeats a name counts before the number of
keys. -/
inductive TableDecl.Fault (t : TableDecl) (name : String) : SchemaError → Prop
  | repeated {before after c} (columns : t.columns = before ++ c :: after)
      (distinct : (before.map (·.name)).Nodup) (again : c.name ∈ before.map (·.name)) :
      Fault t name (.duplicateField name c.name)
  | keys (distinct : (t.columns.map (·.name)).Nodup)
      (unkeyed : t.columns.countP (·.primaryKey) ≠ 1) :
      Fault t name (.missingPrimaryKey name t.tableName (t.columns.countP (·.primaryKey)))

/-- The fault of the first table that has one. -/
inductive FirstFault : List (String × TableDecl) → SchemaError → Prop
  | here {name t tables error} (h : TableDecl.Fault t name error) :
      FirstFault ((name, t) :: tables) error
  | later {name t tables error} (orderly : TableDecl.Orderly t) (h : FirstFault tables error) :
      FirstFault ((name, t) :: tables) error

variable {tables : NameMap TableDecl} {es : List (String × TableDecl)} {t : TableDecl}
  {c : ColumnDecl} {f : Field} {m : Model} {models : List Model} {id position : Nat}
  {name : String} {earlier names : List String} {error : SchemaError}

theorem Field.mirrors_iff : f.Mirrors c ↔ f = c.field := by
  constructor
  · intro h
    obtain ⟨_, _, _, _, _, _⟩ := f
    obtain ⟨rfl, rfl, rfl, rfl, rfl, hstored⟩ := h
    rcases hstored with hc | ⟨hc, rfl⟩ <;> simp [ColumnDecl.field, ColumnDecl.storageName, hc]
  · rintro rfl
    refine ⟨rfl, rfl, rfl, rfl, rfl, ?_⟩
    cases hc : c.columnName <;> simp [ColumnDecl.field, ColumnDecl.storageName, hc]

theorem Field.forall₂_mirrors_iff {columns : List ColumnDecl} {fields : List Field} :
    List.Forall₂ (fun c f => f.Mirrors c) columns fields ↔
      columns.map ColumnDecl.field = fields := by
  have hmap : List.Forall₂ (· = ·) (columns.map ColumnDecl.field) fields ↔
      columns.map ColumnDecl.field = fields := by rw [List.forall₂_eq_eq_eq]
  rw [← hmap, List.forall₂_map_left_iff]
  simp only [Field.mirrors_iff, eq_comm]

theorem exists_of_firstRepeat? (h : firstRepeat? earlier names = some name) :
    ∃ before after, names = before ++ name :: after ∧ before.Nodup ∧
      (∀ other ∈ before, other ∉ earlier) ∧ name ∈ before ++ earlier := by
  fun_induction firstRepeat? earlier names with
  | case1 => cases h
  | case2 earlier first names hfirst =>
    cases h
    exact ⟨[], names, rfl, .nil, List.forall_mem_nil _, hfirst⟩
  | case3 earlier first names hfirst ih =>
    obtain ⟨before, after, rfl, hd, hfresh, hname⟩ := ih h
    refine ⟨first :: before, after, rfl, ?_, ?_, ?_⟩
    · exact List.nodup_cons.2 ⟨fun h => hfresh first h List.mem_cons_self, hd⟩
    · exact List.forall_mem_cons.2
        ⟨hfirst, fun other h he => hfresh other h (List.mem_cons_of_mem _ he)⟩
    · simpa [or_left_comm] using hname

theorem firstRepeat?_append {before after : List String} (hd : before.Nodup)
    (hfresh : ∀ other ∈ before, other ∉ earlier) (hname : name ∈ before ++ earlier) :
    firstRepeat? earlier (before ++ name :: after) = some name := by
  induction before generalizing earlier with
  | nil => exact if_pos hname
  | cons first before ih =>
    obtain ⟨hnot, hd⟩ := List.nodup_cons.1 hd
    obtain ⟨hfirst, hfresh⟩ := List.forall_mem_cons.1 hfresh
    rw [List.cons_append, firstRepeat?, if_neg hfirst]
    refine ih hd (fun other h he => ?_) (by simpa [or_left_comm] using hname)
    rcases List.mem_cons.1 he with rfl | he
    · exact hnot h
    · exact hfresh other h he

theorem length_keys : ((t.columns.map ColumnDecl.field).filter (·.isPrimaryKey)).length =
    t.columns.countP (·.primaryKey) := by
  rw [← List.countP_eq_length_filter, List.countP_map]
  rfl

theorem TableDecl.model_eq_ok_iff_presents :
    t.model id name = .ok m ↔ t.Orderly ∧ m.Presents id name t := by
  rw [TableDecl.model_eq_ok_iff]
  constructor
  · rintro ⟨hd, key, hkey, rfl⟩
    refine ⟨⟨hd, ?_⟩, rfl, rfl, rfl, Field.forall₂_mirrors_iff.2 rfl, hkey, rfl⟩
    rw [← length_keys, hkey, List.length_singleton]
  · rintro ⟨horderly, h⟩
    obtain ⟨_, _, _, _, key, _⟩ := m
    obtain ⟨rfl, rfl, rfl, hfields, hkey, rfl⟩ := h
    cases Field.forall₂_mirrors_iff.1 hfields
    exact ⟨horderly.distinct, key, hkey, rfl⟩

theorem TableDecl.exists_model_iff : (∃ m, t.model id name = .ok m) ↔ t.Orderly := by
  constructor
  · rintro ⟨m, hm⟩
    exact (TableDecl.model_eq_ok_iff_presents.1 hm).1
  · rintro ⟨hd, hkeyed⟩
    rw [← length_keys, List.length_eq_one_iff] at hkeyed
    obtain ⟨key, hkey⟩ := hkeyed
    exact ⟨_, TableDecl.model_eq_ok_iff.2 ⟨hd, key, hkey, rfl⟩⟩

theorem TableDecl.fault_of_model (h : t.model id name = .error error) : t.Fault name error := by
  rw [TableDecl.model] at h
  split at h
  · rename_i field hfield
    cases h
    obtain ⟨_, _, hnames, hd, _, hagain⟩ := exists_of_firstRepeat? hfield
    obtain ⟨front, back, hcolumns, rfl, hback⟩ := List.map_eq_append_iff.1 hnames
    obtain ⟨c, after, rfl, rfl, _⟩ := List.map_eq_cons_iff.1 hback
    exact .repeated hcolumns hd (by simpa using hagain)
  · rename_i hnone
    dsimp only at h
    split at h
    · cases h
    · rename_i hkeys
      cases h
      rw [length_keys]
      refine .keys (firstRepeat?_eq_none_iff.1 hnone).1 fun hone => ?_
      rw [← length_keys, List.length_eq_one_iff] at hone
      obtain ⟨key, hkey⟩ := hone
      exact hkeys key hkey

theorem TableDecl.Fault.model_eq (h : t.Fault name error) (id : Nat) :
    t.model id name = .error error := by
  rw [TableDecl.model]
  cases h with
  | @repeated before after c columns distinct again =>
    have hfield : firstRepeat? [] (t.columns.map (·.name)) = some c.name := by
      rw [columns, List.map_append, List.map_cons]
      exact firstRepeat?_append distinct (fun _ _ => List.not_mem_nil) (by simpa using again)
    rw [hfield]
  | keys distinct unkeyed =>
    have hnone := firstRepeat?_eq_none_iff.2 ⟨distinct, fun _ _ => List.not_mem_nil⟩
    rw [← length_keys] at unkeyed ⊢
    rw [hnone]
    dsimp only
    split
    · rename_i hkey
      exact absurd (congrArg List.length hkey) unkeyed
    · rfl

theorem extractFrom_eq_error_iff :
    extractFrom position es = .error error ↔ FirstFault es error := by
  induction es generalizing position with
  | nil => exact ⟨nofun, nofun⟩
  | cons e es ih =>
    obtain ⟨name, t⟩ := e
    rw [extractFrom, bind_eq_error_iff]
    constructor
    · rintro (h | ⟨m, hm, h⟩)
      · exact .here (TableDecl.fault_of_model h)
      · have horderly : t.Orderly := TableDecl.exists_model_iff.1 ⟨m, hm⟩
        rcases bind_eq_error_iff.1 h with h | ⟨_, _, h⟩
        · exact .later horderly (ih.1 h)
        · cases h
    · intro h
      cases h with
      | here h => exact .inl (h.model_eq position)
      | later horderly h =>
        obtain ⟨m, hm⟩ := TableDecl.exists_model_iff.2 horderly
        exact .inr ⟨m, hm, bind_eq_error_iff.2 (.inl (ih.2 h))⟩

theorem FirstFault.exists_fault (h : FirstFault es error) : ∃ e ∈ es, e.2.Fault e.1 error := by
  induction h with
  | here h => exact ⟨_, List.mem_cons_self, h⟩
  | later _ _ ih =>
    obtain ⟨e, he, h⟩ := ih
    exact ⟨e, List.mem_cons_of_mem _ he, h⟩

theorem exists_extractModels_iff :
    (∃ models, extractModels tables = .ok models) ↔ ∀ e ∈ tables.entries, e.2.Orderly := by
  have hfst : (∀ e ∈ tables.entries.zipIdx.map Prod.fst, e.2.Orderly) ↔
      ∀ e ∈ tables.entries.zipIdx, e.1.2.Orderly := by
    simp only [List.forall_mem_map]
  rw [extractModels, extractFrom_eq_mapM, exists_mapM_eq_ok_iff]
  simp only [TableDecl.exists_model_iff]
  rw [← hfst, List.zipIdx_map_fst]

theorem presented_of_extractModels (h : extractModels tables = .ok models) :
    Presented tables models :=
  (extractModels_eq_ok_iff.1 h).imp fun _ _ hm => (TableDecl.model_eq_ok_iff_presents.1 hm).2

/-- Extraction succeeds exactly if all tables are in order, and then each model presents its table,
under the number of its place among the names. Otherwise it fails with the first fault. -/
theorem extractModels_exact (tables : NameMap TableDecl) :
    ((∃ models, extractModels tables = .ok models) ↔ ∀ e ∈ tables.entries, e.2.Orderly) ∧
    (∀ models, extractModels tables = .ok models → Ranked models ∧ Presented tables models) ∧
    ∀ error, extractModels tables = .error error ↔ FirstFault tables.entries error :=
  ⟨exists_extractModels_iff,
    fun _ h => ⟨ranked_of_extractModels h, presented_of_extractModels h⟩,
    fun _ => extractFrom_eq_error_iff⟩

/-- Tags have a column twice and two keys, and visits, which come later, have none. -/
def crowded : NameMap TableDecl := .ofList [
  ("visits", ⟨"visits", [{ name := "at", dataType := .timestamp }]⟩),
  ("tags", ⟨"tags", [
    { name := "id", dataType := .serial, primaryKey := true },
    { name := "label", dataType := .text, primaryKey := true },
    { name := "label", dataType := .text, columnName := some "caption" }]⟩),
  ("notes", ⟨"notes", [{ name := "id", dataType := .serial, primaryKey := true }]⟩)]

theorem extractModels_exact_crowded : (∃ models, extractModels blog.tables = .ok models ∧
    models.length = 2 ∧ Ranked models ∧ Presented blog.tables models) ∧
    extractModels crowded = .error (.duplicateField "tags" "label") ∧
    FirstFault crowded.entries (.duplicateField "tags" "label") := by
  have hblog : extractModels blog.tables = .ok _ := rfl
  have hcrowded : extractModels crowded = .error (.duplicateField "tags" "label") := rfl
  obtain ⟨hranked, hpresented⟩ := (extractModels_exact blog.tables).2.1 _ hblog
  exact ⟨⟨_, hblog, rfl, hranked, hpresented⟩, hcrowded,
    ((extractModels_exact crowded).2.2 _).1 hcrowded⟩

end CrudPlan
