import CrudPlan.Proofs.Schema.Gathering
import Mathlib.Tactic.Push
import Mathlib.Tactic.Tauto

namespace CrudPlan

variable {models : List Model} {gathered : List OwnDecls} {owner foreign : Model}
  {decls : NameMap OwnDecls} {field name : String} {d e : RelationDecl} {j : JoinColumns}
  {candidates : List (String × RelationDecl)} {inverse : String × RelationDecl}

/-- Both declarations carry one and the same relation name. -/
def RelationDecl.Correlates (d e : RelationDecl) : Prop :=
  ∃ name, d.relationName = some name ∧ e.relationName = some name

/-- A declaration of the foreign model leads back to the owner, and is not the relation itself. -/
def RefersBack (models : List Model) (decls : NameMap OwnDecls) (owner foreign : Model)
    (field name : String) (e : RelationDecl) : Prop :=
  Owns models decls foreign name e ∧ Denotes models e.table owner ∧
    ¬ (foreign = owner ∧ name = field)

/-- A declaration that refers back, and correlates with the relation unless it is the only one. -/
def Eligible (models : List Model) (decls : NameMap OwnDecls) (owner foreign : Model)
    (field : String) (d : RelationDecl) (name : String) (e : RelationDecl) : Prop :=
  RefersBack models decls owner foreign field name e ∧
    ((∃ name' e', RefersBack models decls owner foreign field name' e' ∧ (name', e') ≠ (name, e)) →
      d.Correlates e)

/-- Exactly one declaration is eligible as the other direction of a relation. -/
def Selects (models : List Model) (decls : NameMap OwnDecls) (owner foreign : Model)
    (field : String) (d : RelationDecl) (name : String) (e : RelationDecl) : Prop :=
  ∀ name' e', Eligible models decls owner foreign field d name' e' ↔ (name', e') = (name, e)

/-- The join columns of a relation, its owner's first: its own, or exchanged those of the other
direction. -/
inductive JoinsOn (models : List Model) (decls : NameMap OwnDecls) (owner foreign : Model)
    (field : String) (d : RelationDecl) : JoinColumns → Prop
  | declared {column reference : String} (fields : d.fields = [column])
      (references : d.references = [reference]) :
      JoinsOn models decls owner foreign field d ⟨column, reference⟩
  | inferred {name column reference : String} {e : RelationDecl} (fields : d.fields = [])
      (references : d.references = [])
      (selects : Selects models decls owner foreign field d name e)
      (inverse_fields : e.fields = [column]) (inverse_references : e.references = [reference]) :
      JoinsOn models decls owner foreign field d ⟨reference, column⟩

theorem Selects.eligible (h : Selects models decls owner foreign field d name e) :
    Eligible models decls owner foreign field d name e :=
  (h name e).2 rfl

theorem RelationDecl.sharesName_iff : d.sharesName e ↔ d.Correlates e := by
  rw [RelationDecl.sharesName, RelationDecl.Correlates]
  split
  · next ours theirs ho ht =>
    simp only [ho, ht, beq_iff_eq, Option.some.injEq, exists_eq_left']
    exact eq_comm
  · next h =>
    simp only [Bool.false_eq_true, false_iff, not_exists]
    rintro name ⟨hd, he⟩
    exact h name name hd he

theorem RelationDecl.joinColumns?_eq_none_iff :
    d.joinColumns? owner.name name = .ok none ↔ d.fields = [] ∧ d.references = [] := by
  rw [RelationDecl.joinColumns?]
  split
  · next hf hr => simp [hf, hr]
  · next hf hr => simp [hf, hr]
  · next h _ =>
    have hne : ¬ (d.fields = [] ∧ d.references = []) := fun ⟨hf, hr⟩ => h hf hr
    split <;> simp [hne]

theorem RelationDecl.joinColumns?_eq_some_iff :
    d.joinColumns? owner.name name = .ok (some j) ↔
      d.fields = [j.field] ∧ d.references = [j.reference] := by
  rw [RelationDecl.joinColumns?]
  split
  · next hf hr => simp [hf]
  · next column reference hf hr =>
    obtain ⟨a, b⟩ := j
    simp [hf, hr]
  · next h =>
    have hne : ¬ (d.fields = [j.field] ∧ d.references = [j.reference]) :=
      fun ⟨hf, hr⟩ => h _ _ hf hr
    split <;> simp [hne]

theorem nodup_backReferences {own : OwnDecls} :
    (backReferences models owner foreign name own).Nodup := by
  refine List.Nodup.filter _ (own.sorted.imp ?_)
  intro a b hlt he
  exact String.lt_irrefl b.1 (he ▸ hlt)

theorem Ranked.mem_backReferences (hr : Ranked models) (h : gatherAll models decls = .ok gathered)
    (ho : owner ∈ models) (hf : foreign ∈ models) :
    (name, e) ∈ backReferences models owner foreign field (declsOf gathered foreign) ↔
      RefersBack models decls owner foreign field name e := by
  have hid : foreign.id = owner.id ↔ foreign = owner :=
    ⟨hr.eq_of_id hf ho, fun he => he ▸ rfl⟩
  have hany : (findModel? models e.table).any (·.id == owner.id) ↔
      Denotes models e.table owner := by
    rw [Option.any_eq_true, ← hr.findModel?_eq_some_iff]
    constructor
    · rintro ⟨m, hm, hi⟩
      rw [← hr.eq_of_id (hr.findModel?_eq_some_iff.1 hm).mem ho (by simpa using hi)]
      exact hm
    · intro hm
      exact ⟨owner, hm, by simp⟩
  rw [RefersBack, ← hr.get?_gatherAll h hf, NameMap.get?_eq_some_iff, ← hany, ← hid,
    backReferences, List.mem_filter]
  simp only [Bool.and_eq_true, Bool.not_eq_true', Bool.and_eq_false_iff, beq_eq_false_iff_ne]
  tauto

theorem mem_narrow_iff (hd : candidates.Nodup) :
    inverse ∈ narrow d candidates ↔ inverse ∈ candidates ∧
      ((∃ other ∈ candidates, other ≠ inverse) → d.Correlates inverse.2) := by
  rw [narrow]
  split
  · next hle =>
    refine ⟨fun hi => ⟨hi, ?_⟩, fun h => h.1⟩
    rintro ⟨other, ho, hne⟩
    match candidates, hle with
    | [only], _ => simp_all
  · next hlt =>
    rw [List.mem_filter, RelationDecl.sharesName_iff]
    refine and_congr_right fun hi => ⟨fun h _ => h, fun h => h ?_⟩
    by_contra hall
    push Not at hall
    have hone : candidates = [inverse] :=
      List.perm_singleton.1 ((List.perm_ext_iff_of_nodup hd (List.nodup_singleton _)).2
        fun other => ⟨fun ho => List.mem_singleton.2 (hall other ho),
          fun ho => List.mem_singleton.1 ho ▸ hi⟩)
    simp [hone] at hlt

theorem findInverse_eq_ok_iff {own : OwnDecls} :
    findInverse models owner foreign name d own = .ok inverse ↔
      narrow d (backReferences models owner foreign name own) = [inverse] := by
  rw [findInverse]
  split
  · next hempty =>
    have hnil : backReferences models owner foreign name own = [] := by
      simp [backReferences, List.isEmpty_iff.1 hempty]
    simp [hnil, narrow]
  · dsimp only
    split
    · next hone => simp [hone]
    · next hnone => split <;> simp [hnone]
    · next hone _ => simpa using fun he => hone _ he

theorem narrow_sublist : (narrow d candidates).Sublist candidates := by
  rw [narrow]
  split
  · exact .refl candidates
  · exact List.filter_sublist

theorem Ranked.mem_narrow_iff (hr : Ranked models) (h : gatherAll models decls = .ok gathered)
    (ho : owner ∈ models) (hf : foreign ∈ models) :
    (name, e) ∈ narrow d (backReferences models owner foreign field (declsOf gathered foreign)) ↔
      Eligible models decls owner foreign field d name e := by
  simp only [CrudPlan.mem_narrow_iff nodup_backReferences, hr.mem_backReferences h ho hf,
    Prod.exists, Eligible]

theorem Ranked.findInverse_eq_ok_iff (hr : Ranked models)
    (h : gatherAll models decls = .ok gathered) (ho : owner ∈ models) (hf : foreign ∈ models) :
    findInverse models owner foreign field d (declsOf gathered foreign) = .ok (name, e) ↔
      Selects models decls owner foreign field d name e := by
  have hnodup : (narrow d (backReferences models owner foreign field
      (declsOf gathered foreign))).Nodup := nodup_backReferences.sublist narrow_sublist
  rw [CrudPlan.findInverse_eq_ok_iff, ← List.perm_singleton,
    List.perm_ext_iff_of_nodup hnodup (List.nodup_singleton _), Prod.forall]
  simp only [hr.mem_narrow_iff h ho hf, List.mem_singleton, Selects]

theorem Ranked.findJoin_eq_ok_iff (hr : Ranked models)
    (h : gatherAll models decls = .ok gathered) (ho : owner ∈ models) (hf : foreign ∈ models) :
    findJoin models gathered owner foreign field d = .ok j ↔
      JoinsOn models decls owner foreign field d j := by
  rw [findJoin, bind_eq_ok_iff]
  constructor
  · rintro ⟨own, hown, hj⟩
    cases own with
    | some columns =>
      obtain ⟨hfields, hreferences⟩ := RelationDecl.joinColumns?_eq_some_iff.1 hown
      cases hj
      exact .declared hfields hreferences
    | none =>
      obtain ⟨hfields, hreferences⟩ := RelationDecl.joinColumns?_eq_none_iff.1 hown
      cases hi : findInverse models owner foreign field d (declsOf gathered foreign) with
      | error problem => simp [hi] at hj
      | ok inverse =>
        obtain ⟨name, e⟩ := inverse
        simp only [hi, bind_eq_ok_iff] at hj
        obtain ⟨columns, hcolumns, hj⟩ := hj
        cases columns with
        | none => cases hj
        | some columns =>
          cases hj
          obtain ⟨hf', hr'⟩ := RelationDecl.joinColumns?_eq_some_iff.1 hcolumns
          exact .inferred hfields hreferences ((hr.findInverse_eq_ok_iff h ho hf).1 hi) hf' hr'
  · rintro (⟨hfields, hreferences⟩ | ⟨hfields, hreferences, hselects, hf', hr'⟩)
    · exact ⟨_, RelationDecl.joinColumns?_eq_some_iff.2 ⟨hfields, hreferences⟩, rfl⟩
    · refine ⟨none, RelationDecl.joinColumns?_eq_none_iff.2 ⟨hfields, hreferences⟩, ?_⟩
      simp only [(hr.findInverse_eq_ok_iff h ho hf).2 hselects, bind_eq_ok_iff]
      exact ⟨some ⟨_, _⟩, RelationDecl.joinColumns?_eq_some_iff.2 ⟨hf', hr'⟩, rfl⟩

end CrudPlan
