import CrudPlan.Proofs.Schema.Naming
import Mathlib.Data.List.Pairwise

namespace CrudPlan

variable {models : List Model} {gathered out : List OwnDecls} {m owner : Model}
  {own result : OwnDecls} {decls : NameMap OwnDecls} {key field : String} {d : RelationDecl}
  {es : List (String × RelationDecl)} {rest : List (String × OwnDecls)}

/-- A declaration stands under a key and the name of its relation. -/
def Declares (decls : NameMap OwnDecls) (key field : String) (d : RelationDecl) : Prop :=
  ∃ own, decls.get? key = some own ∧ own.get? field = some d

/-- A declaration stands under a key that denotes the model. -/
def Owns (models : List Model) (decls : NameMap OwnDecls) (m : Model) (field : String)
    (d : RelationDecl) : Prop :=
  ∃ key, Denotes models key m ∧ Declares decls key field d

theorem Owns.mem (h : Owns models decls m field d) : m ∈ models := by
  obtain ⟨_, hkey, _⟩ := h
  exact hkey.mem

theorem Model.hasField_eq_false_iff :
    m.hasField field = false ↔ ∀ f ∈ m.fields, f.name ≠ field := by
  simp [Model.hasField, Model.field?]

theorem addDecls_cons {name : String} {decl : RelationDecl} :
    addDecls owner own ((name, decl) :: es) = .ok result ↔
      (owner.hasField name = false ∧ own.get? name = none) ∧
        addDecls owner (own.insert name decl) es = .ok result := by
  have hfree : (owner.hasField name = false ∧ own.get? name = none) ↔
      (owner.hasField name || own.contains name) = false := by
    simp [NameMap.contains]
  rw [addDecls, hfree]
  cases owner.hasField name || own.contains name <;> simp

theorem addDecls_get? (h : addDecls owner own es = .ok result) (field : String)
    (d : RelationDecl) :
    result.get? field = some d ↔ own.get? field = some d ∨ (field, d) ∈ es := by
  induction es generalizing own with
  | nil =>
    cases h
    simp
  | cons e es ih =>
    obtain ⟨name, decl⟩ := e
    obtain ⟨⟨_, hnone⟩, hrest⟩ := addDecls_cons.1 h
    rw [ih hrest, NameMap.get?_insert]
    by_cases hn : field = name
    · subst hn
      simp [hnone, eq_comm]
    · simp [hn]

theorem addDecls_fresh (h : addDecls owner own es = .ok result) :
    ∀ e ∈ es, owner.hasField e.1 = false ∧ own.get? e.1 = none := by
  induction es generalizing own with
  | nil => simp
  | cons e es ih =>
    obtain ⟨name, decl⟩ := e
    obtain ⟨hfresh, hrest⟩ := addDecls_cons.1 h
    intro e' he
    rcases List.mem_cons.1 he with rfl | he
    · exact hfresh
    · obtain ⟨hfield, hget⟩ := ih hrest e' he
      refine ⟨hfield, ?_⟩
      rw [NameMap.get?_insert] at hget
      split at hget
      · cases hget
      · exact hget

theorem exists_addDecls (hs : Entries.Sorted es)
    (h : ∀ e ∈ es, owner.hasField e.1 = false ∧ own.get? e.1 = none) :
    ∃ result, addDecls owner own es = .ok result := by
  induction es generalizing own with
  | nil => exact ⟨own, rfl⟩
  | cons e es ih =>
    obtain ⟨name, decl⟩ := e
    obtain ⟨hlt, hs'⟩ := List.pairwise_cons.1 hs
    simp only [addDecls_cons, h _ List.mem_cons_self, and_self, true_and]
    apply ih hs'
    intro e' he
    obtain ⟨hfield, hget⟩ := h e' (List.mem_cons_of_mem _ he)
    have hne : e'.1 ≠ name := fun heq => String.lt_irrefl name (heq ▸ hlt e' he)
    rw [NameMap.get?_insert, if_neg hne]
    exact ⟨hfield, hget⟩

/-- Adding declarations to a model adds them to what it owns, and to no other model. -/
theorem Ranked.declsOf_set (hr : Ranked models) (hl : gathered.length = models.length)
    (ho : owner ∈ models) (hm : m ∈ models)
    (h : addDecls owner (declsOf gathered owner) es = .ok result) (field : String)
    (d : RelationDecl) :
    (declsOf (gathered.set owner.id result) m).get? field = some d ↔
      (declsOf gathered m).get? field = some d ∨ m = owner ∧ (field, d) ∈ es := by
  have hlt : owner.id < gathered.length := hl ▸ hr.id_lt ho
  by_cases he : m = owner
  · subst he
    have hset : declsOf (gathered.set m.id result) m = result := by
      simp [declsOf, hlt]
    simp only [hset, addDecls_get? h, true_and]
  · have hid : owner.id ≠ m.id := fun hid => he (hr.eq_of_id ho hm hid).symm
    simp [declsOf, List.getElem?_set_ne hid, he]

theorem gatherDecls_cons (hr : Ranked models) :
    gatherDecls models gathered ((key, own) :: rest) = .ok out ↔
      ∃ owner, Denotes models key owner ∧
        ∃ result, addDecls owner (declsOf gathered owner) own.entries = .ok result ∧
          gatherDecls models (gathered.set owner.id result) rest = .ok out := by
  simp only [gatherDecls, ← hr.findModel?_eq_some_iff]
  cases findModel? models key with
  | none => simp
  | some owner => simp [bind_eq_ok_iff]

theorem Ranked.declsOf_gatherDecls (hr : Ranked models) (hl : gathered.length = models.length)
    (h : gatherDecls models gathered rest = .ok out) (hm : m ∈ models) (field : String)
    (d : RelationDecl) :
    (declsOf out m).get? field = some d ↔ (declsOf gathered m).get? field = some d ∨
      ∃ e ∈ rest, Denotes models e.1 m ∧ e.2.get? field = some d := by
  induction rest generalizing gathered with
  | nil =>
    cases h
    simp
  | cons e rest ih =>
    obtain ⟨key, own⟩ := e
    obtain ⟨owner, hd, result, hadd, hrest⟩ := (gatherDecls_cons hr).1 h
    have hown : m = owner ↔ Denotes models key m :=
      ⟨fun he => he ▸ hd, fun hm' => hm'.unique hr hd⟩
    rw [ih (by simpa using hl) hrest, hr.declsOf_set hl hd.mem hm hadd, hown,
      ← NameMap.get?_eq_some_iff]
    simp [or_assoc]

theorem length_gatherDecls (hr : Ranked models) (h : gatherDecls models gathered rest = .ok out) :
    out.length = gathered.length := by
  induction rest generalizing gathered with
  | nil =>
    cases h
    rfl
  | cons e rest ih =>
    obtain ⟨owner, _, result, _, hrest⟩ := (gatherDecls_cons hr).1 h
    rw [ih hrest, List.length_set]

/-- No model that both keys denote has a relation of one name from each. -/
def Apart (models : List Model) (e e' : String × OwnDecls) : Prop :=
  ∀ m, Denotes models e.1 m → Denotes models e'.1 m →
    ∀ field d d', e.2.get? field = some d → e'.2.get? field ≠ some d'

instance : Std.Symm (Apart models) where
  symm _ _ h m hm hm' field d d' hd hd' := h m hm' hm field d' d hd' hd

/-- The names under a key are free: they name no field of its model and nothing gathered yet. -/
def Free (models : List Model) (gathered : List OwnDecls) (e : String × OwnDecls) : Prop :=
  ∃ owner, Denotes models e.1 owner ∧ ∀ field d, e.2.get? field = some d →
    owner.hasField field = false ∧ (declsOf gathered owner).get? field = none

/-- What is free behind a key was free before it, and stands apart from what is under that key. -/
theorem Ranked.free_set_iff (hr : Ranked models) (hl : gathered.length = models.length)
    (hd : Denotes models key owner)
    (h : addDecls owner (declsOf gathered owner) own.entries = .ok result)
    (e : String × OwnDecls) :
    Free models (gathered.set owner.id result) e ↔
      Free models gathered e ∧ Apart models (key, own) e := by
  constructor
  · rintro ⟨other, ho, hother⟩
    have hset := hr.declsOf_set hl hd.mem ho.mem h
    refine ⟨⟨other, ho, fun field d hf => ⟨(hother field d hf).1, ?_⟩⟩, ?_⟩
    · rw [Option.eq_none_iff_forall_ne_some]
      intro d' hd'
      have hsome := (hset field d').2 (.inl hd')
      simp [(hother field d hf).2] at hsome
    · intro m hm hm' field d d' hf hf'
      have he : other = owner := (ho.unique hr hm').trans (hm.unique hr hd)
      have hsome := (hset field d).2 (.inr ⟨he, NameMap.get?_eq_some_iff.1 hf⟩)
      simp [(hother field d' hf').2] at hsome
  · rintro ⟨⟨other, ho, hother⟩, hapart⟩
    refine ⟨other, ho, fun field d hf => ⟨(hother field d hf).1, ?_⟩⟩
    rw [Option.eq_none_iff_forall_ne_some]
    intro d' hd'
    rcases (hr.declsOf_set hl hd.mem ho.mem h field d').1 hd' with hold | ⟨rfl, hnew⟩
    · simp [(hother field d hf).2] at hold
    · exact hapart other hd ho field d' d (NameMap.get?_eq_some_iff.2 hnew) hf

theorem Ranked.exists_gatherDecls_iff (hr : Ranked models)
    (hl : gathered.length = models.length) :
    (∃ out, gatherDecls models gathered rest = .ok out) ↔
      (∀ e ∈ rest, Free models gathered e) ∧ rest.Pairwise (Apart models) := by
  induction rest generalizing gathered with
  | nil => simp [gatherDecls]
  | cons e rest ih =>
    obtain ⟨key, own⟩ := e
    simp only [gatherDecls_cons hr, List.forall_mem_cons, List.pairwise_cons]
    constructor
    · rintro ⟨out, owner, hd, result, hadd, hrest⟩
      obtain ⟨hfree, hapart⟩ := (ih (by simpa using hl)).1 ⟨out, hrest⟩
      have hset := hr.free_set_iff hl hd hadd
      have hown : Free models gathered (key, own) :=
        ⟨owner, hd, fun field d hf => addDecls_fresh hadd _ (NameMap.get?_eq_some_iff.1 hf)⟩
      exact ⟨⟨hown, fun e he => ((hset e).1 (hfree e he)).1⟩,
        fun e he => ((hset e).1 (hfree e he)).2, hapart⟩
    · rintro ⟨⟨⟨owner, hd, hfresh⟩, hfree⟩, hfirst, hapart⟩
      obtain ⟨result, hadd⟩ := exists_addDecls own.sorted fun e he =>
        hfresh e.1 e.2 (NameMap.get?_eq_some_iff.2 he)
      have hset := hr.free_set_iff hl hd hadd
      obtain ⟨out, hrest⟩ := (ih (by simpa using hl)).2
        ⟨fun e he => (hset e).2 ⟨hfree e he, hfirst e he⟩, hapart⟩
      exact ⟨out, owner, hd, result, hadd, hrest⟩

/-- Every key denotes a model, and no model gets a relation that has the name of a field or that is
declared under two keys. -/
structure Gatherable (models : List Model) (decls : NameMap OwnDecls) : Prop where
  keys : ∀ key own, decls.get? key = some own → ∃ m, Denotes models key m
  fresh : ∀ m field d, Owns models decls m field d → ∀ f ∈ m.fields, f.name ≠ field
  once : ∀ m field key key' d d', Denotes models key m → Denotes models key' m →
    Declares decls key field d → Declares decls key' field d' → key = key'

/-- What each model owns, gathered from all keys. -/
def gatherAll (models : List Model) (decls : NameMap OwnDecls) :
    Except SchemaError (List OwnDecls) :=
  gatherDecls models (models.map fun _ => .empty) decls.entries

theorem declsOf_map_empty : declsOf (models.map fun _ => .empty) m = .empty := by
  rw [declsOf, List.getElem?_map]
  cases models[m.id]? <;> rfl

theorem Ranked.get?_gatherAll (hr : Ranked models) (h : gatherAll models decls = .ok out)
    (hm : m ∈ models) (field : String) (d : RelationDecl) :
    (declsOf out m).get? field = some d ↔ Owns models decls m field d := by
  rw [hr.declsOf_gatherDecls (by simp) h hm, declsOf_map_empty]
  constructor
  · rintro (he | ⟨⟨key, own⟩, hmem, hd, hf⟩)
    · cases he
    · exact ⟨key, hd, own, NameMap.get?_eq_some_iff.2 hmem, hf⟩
  · rintro ⟨key, hd, own, hmem, hf⟩
    exact .inr ⟨(key, own), NameMap.get?_eq_some_iff.1 hmem, hd, hf⟩

theorem Ranked.exists_gatherAll_iff (hr : Ranked models) :
    (∃ out, gatherAll models decls = .ok out) ↔ Gatherable models decls := by
  rw [gatherAll, hr.exists_gatherDecls_iff (by simp)]
  constructor
  · rintro ⟨hfree, hapart⟩
    refine ⟨fun key own hk => ?_, fun m field d ⟨key, hd, own, hk, hf⟩ => ?_, ?_⟩
    · obtain ⟨owner, hd, _⟩ := hfree _ (NameMap.get?_eq_some_iff.1 hk)
      exact ⟨owner, hd⟩
    · obtain ⟨owner, hd', hfresh⟩ := hfree _ (NameMap.get?_eq_some_iff.1 hk)
      rw [hd.unique hr hd']
      exact Model.hasField_eq_false_iff.1 (hfresh field d hf).1
    · rintro m field key key' d d' hd hd' ⟨own, hk, hf⟩ ⟨own', hk', hf'⟩
      by_contra hne
      have hap : Apart models (key, own) (key', own') :=
        hapart.forall (NameMap.get?_eq_some_iff.1 hk) (NameMap.get?_eq_some_iff.1 hk')
          fun he => hne (congrArg Prod.fst he)
      exact hap m hd hd' field d d' hf hf'
  · intro h
    refine ⟨fun ⟨key, own⟩ he => ?_, decls.sorted.imp_of_mem ?_⟩
    · have hk := NameMap.get?_eq_some_iff.2 he
      obtain ⟨owner, hd⟩ := h.keys key own hk
      refine ⟨owner, hd, fun field d hf => ⟨?_, by rw [declsOf_map_empty]; rfl⟩⟩
      exact Model.hasField_eq_false_iff.2 (h.fresh owner field d ⟨key, hd, own, hk, hf⟩)
    · rintro ⟨key, own⟩ ⟨key', own'⟩ he he' hlt m hd hd' field d d' hf hf'
      have heq := h.once m field key key' d d' hd hd' ⟨own, NameMap.get?_eq_some_iff.2 he, hf⟩
        ⟨own', NameMap.get?_eq_some_iff.2 he', hf'⟩
      exact String.lt_irrefl key' (heq ▸ hlt)

end CrudPlan
