import CrudPlan.Proofs.Data.Outcome
import CrudPlan.Schema.Registry
import Mathlib.Data.List.Nodup

namespace CrudPlan

variable {models : List Model} {name : String} {m m' : Model}

theorem firstRepeat?_eq_none_iff {earlier names : List String} :
    firstRepeat? earlier names = none ↔ names.Nodup ∧ ∀ name ∈ names, name ∉ earlier := by
  induction names generalizing earlier with
  | nil => simp [firstRepeat?]
  | cons name rest ih =>
    by_cases hm : name ∈ earlier
    · simp [firstRepeat?, hm]
    · simp only [firstRepeat?, if_neg hm, ih, List.nodup_cons, List.mem_cons, not_or]
      grind

/-- The fields of a model as its table declares them. -/
structure Model.Sound (m : Model) : Prop where
  names : (m.fields.map (·.name)).Nodup
  primary : m.fields.filter (·.isPrimaryKey) = [m.primaryKey]

theorem Model.Sound.primaryKey_mem (h : m.Sound) : m.primaryKey ∈ m.fields := by
  have hkey : m.primaryKey ∈ m.fields.filter (·.isPrimaryKey) := by simp [h.primary]
  exact List.mem_of_mem_filter hkey

theorem TableDecl.model_eq_ok_iff {t : TableDecl} {id : Nat} {name : String} :
    t.model id name = .ok m ↔ (t.columns.map (·.name)).Nodup ∧
      ∃ key, (t.columns.map ColumnDecl.field).filter (·.isPrimaryKey) = [key] ∧
        m = ⟨id, name, t.tableName, t.columns.map ColumnDecl.field, key, []⟩ := by
  have hnone : firstRepeat? [] (t.columns.map (·.name)) = none ↔
      (t.columns.map (·.name)).Nodup := by
    simp [firstRepeat?_eq_none_iff]
  rw [TableDecl.model]
  cases hr : firstRepeat? [] (t.columns.map (·.name)) with
  | some field =>
    have hd : ¬ (t.columns.map (·.name)).Nodup := fun h => by simp [hnone.2 h] at hr
    simp [hd]
  | none =>
    simp only [hnone.1 hr, true_and]
    split
    · next key hk => simp [hk, eq_comm]
    · next hk => simpa using fun key he => (hk key he).elim

theorem TableDecl.model_sound {t : TableDecl} {id : Nat} {name : String}
    (h : t.model id name = .ok m) : m.Sound := by
  obtain ⟨hd, key, hk, rfl⟩ := TableDecl.model_eq_ok_iff.1 h
  refine ⟨?_, hk⟩
  rw [List.map_map]
  exact hd

theorem extractFrom_eq_mapM (position : Nat) (tables : List (String × TableDecl)) :
    extractFrom position tables =
      (tables.zipIdx position).mapM fun e => e.1.2.model e.2 e.1.1 := by
  induction tables generalizing position with
  | nil => rfl
  | cons e rest ih => rw [extractFrom, ih, List.zipIdx_cons, List.mapM_cons]

/-- Models stand at the positions that are their numbers, by ascending name. -/
structure Ranked (models : List Model) : Prop where
  id_eq : ∀ (i : Nat) (m : Model), models[i]? = some m → m.id = i
  names : models.Pairwise (·.name < ·.name)

theorem extractModels_eq_ok_iff {tables : NameMap TableDecl} :
    extractModels tables = .ok models ↔
      List.Forall₂ (fun e m => e.1.2.model e.2 e.1.1 = .ok m) tables.entries.zipIdx models := by
  rw [extractModels, extractFrom_eq_mapM, mapM_eq_ok_iff]

theorem mem_of_extractModels {tables : NameMap TableDecl} (h : extractModels tables = .ok models)
    (hm : m ∈ models) : ∃ t id name, TableDecl.model t id name = .ok m := by
  obtain ⟨e, _, he⟩ := exists_of_forall₂_right (extractModels_eq_ok_iff.1 h) hm
  exact ⟨_, _, _, he⟩

theorem ranked_of_extractModels {tables : NameMap TableDecl}
    (h : extractModels tables = .ok models) : Ranked models := by
  have hf := extractModels_eq_ok_iff.1 h
  constructor
  · intro i m hi
    obtain ⟨hlt, rfl⟩ := List.getElem?_eq_some_iff.1 hi
    have hi' : i < tables.entries.zipIdx.length := hf.length_eq ▸ hlt
    obtain ⟨_, key, _, hm⟩ := TableDecl.model_eq_ok_iff.1 (hf.get hi' hlt)
    simpa using congrArg Model.id hm
  · have hnames : tables.entries.map (·.1) = models.map (·.name) := by
      rw [← List.zipIdx_map_fst 0 tables.entries, List.map_map]
      apply List.forall₂_eq_eq_eq ▸ List.forall₂_map_left_iff.2 (List.forall₂_map_right_iff.2 _)
      exact hf.imp fun e m he => by
        obtain ⟨_, key, _, rfl⟩ := TableDecl.model_eq_ok_iff.1 he
        rfl
    have hs : (tables.entries.map (·.1)).Pairwise (· < ·) := List.pairwise_map.2 tables.sorted
    exact List.pairwise_map.1 (hnames ▸ hs)

theorem relations_of_extractModels {tables : NameMap TableDecl}
    (h : extractModels tables = .ok models) (hm : m ∈ models) : m.relations = [] := by
  obtain ⟨t, id, name, ht⟩ := mem_of_extractModels h hm
  obtain ⟨_, key, _, rfl⟩ := TableDecl.model_eq_ok_iff.1 ht
  rfl

theorem sound_of_extractModels {tables : NameMap TableDecl}
    (h : extractModels tables = .ok models) (hm : m ∈ models) : m.Sound := by
  obtain ⟨t, id, name, ht⟩ := mem_of_extractModels h hm
  exact TableDecl.model_sound ht

/-- A model under its own name, or under the name of its table where that is no model's name. Of
several tables of one name the first counts. -/
inductive Denotes (models : List Model) (name : String) (m : Model) : Prop
  | byName (mem : m ∈ models) (named : m.name = name)
  | byTable (mem : m ∈ models) (stored : m.tableName = name)
      (unnamed : ∀ other ∈ models, other.name ≠ name)
      (first : ∀ other ∈ models, other.tableName = name → m.id ≤ other.id)

theorem Denotes.mem (h : Denotes models name m) : m ∈ models := by
  cases h with
  | byName mem => exact mem
  | byTable mem => exact mem

/-- A look-up finds what has the key, where no two elements share one. -/
theorem find?_key_eq_some_iff {α : Type} {key : α → String} {xs : List α}
    (hd : (xs.map key).Nodup) {x : α} :
    xs.find? (key · == name) = some x ↔ x ∈ xs ∧ key x = name := by
  constructor
  · intro h
    exact ⟨List.mem_of_find?_eq_some h, by simpa using List.find?_some h⟩
  · rintro ⟨hx, rfl⟩
    cases hf : xs.find? (key · == key x) with
    | none => simpa using List.find?_eq_none.1 hf x hx
    | some y =>
      have hy := List.mem_of_find?_eq_some hf
      have hkey : key y = key x := by simpa using List.find?_some hf
      rw [List.inj_on_of_nodup_map hd hy hx hkey]

theorem Ranked.getElem?_id (hr : Ranked models) (hm : m ∈ models) : models[m.id]? = some m := by
  obtain ⟨i, hi⟩ := List.getElem?_of_mem hm
  rw [hr.id_eq i m hi]
  exact hi

theorem Ranked.id_lt (hr : Ranked models) (hm : m ∈ models) : m.id < models.length :=
  (List.getElem?_eq_some_iff.1 (hr.getElem?_id hm)).1

theorem Ranked.eq_of_id (hr : Ranked models) (hm : m ∈ models) (hm' : m' ∈ models)
    (h : m.id = m'.id) : m = m' := by
  have he := hr.getElem?_id hm
  rw [h, hr.getElem?_id hm'] at he
  exact (Option.some.inj he).symm

theorem Ranked.nodup_names (hr : Ranked models) : (models.map (·.name)).Nodup := by
  refine List.pairwise_map.2 (hr.names.imp ?_)
  intro a b hlt he
  exact String.lt_irrefl b.name (he ▸ hlt)

theorem Ranked.eq_of_name (hr : Ranked models) (hm : m ∈ models) (hm' : m' ∈ models)
    (h : m.name = m'.name) : m = m' :=
  List.inj_on_of_nodup_map hr.nodup_names hm hm' h

theorem Ranked.id_le_of_find? (hr : Ranked models) {p : Model → Bool}
    (h : models.find? p = some m) (hm : m' ∈ models) (hp : p m') : m.id ≤ m'.id := by
  obtain ⟨_, i, hi, he, hbefore⟩ := List.find?_eq_some_iff_getElem.1 h
  have hid : m.id = i := hr.id_eq i m (List.getElem?_eq_some_iff.2 ⟨hi, he⟩)
  obtain ⟨hlt, he'⟩ := List.getElem?_eq_some_iff.1 (hr.getElem?_id hm)
  by_contra hle
  have hn := hbefore m'.id (by omega)
  simp [he', hp] at hn

theorem Ranked.find?_eq_some_iff (hr : Ranked models) {p : Model → Bool} :
    models.find? p = some m ↔ m ∈ models ∧ p m ∧ ∀ other ∈ models, p other → m.id ≤ other.id := by
  constructor
  · intro h
    exact ⟨List.mem_of_find?_eq_some h, List.find?_some h, fun _ => hr.id_le_of_find? h⟩
  · rintro ⟨hm, hp, hfirst⟩
    cases hf : models.find? p with
    | none => exact absurd hp (List.find?_eq_none.1 hf m hm)
    | some other =>
      have ho := List.mem_of_find?_eq_some hf
      have hle := hfirst other ho (List.find?_some hf)
      have hge := hr.id_le_of_find? hf hm hp
      rw [hr.eq_of_id ho hm (Nat.le_antisymm hge hle)]

theorem Ranked.findModel?_eq_some_iff (hr : Ranked models) :
    findModel? models name = some m ↔ Denotes models name m := by
  rw [findModel?, Option.or_eq_some_iff, hr.find?_eq_some_iff, hr.find?_eq_some_iff,
    List.find?_eq_none]
  simp only [beq_iff_eq]
  constructor
  · rintro (⟨hm, hn, _⟩ | ⟨hnone, hm, ht, hfirst⟩)
    · exact .byName hm hn
    · exact .byTable hm ht hnone hfirst
  · rintro (⟨hm, hn⟩ | ⟨hm, ht, hnone, hfirst⟩)
    · refine .inl ⟨hm, hn, fun other ho hother => ?_⟩
      exact Nat.le_of_eq (congrArg Model.id (hr.eq_of_name hm ho (hn.trans hother.symm)))
    · exact .inr ⟨hnone, hm, ht, hfirst⟩

theorem Denotes.unique (hr : Ranked models) (h : Denotes models name m)
    (h' : Denotes models name m') : m = m' := by
  have he := hr.findModel?_eq_some_iff.2 h
  rw [hr.findModel?_eq_some_iff.2 h'] at he
  exact (Option.some.inj he).symm

end CrudPlan
