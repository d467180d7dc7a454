import CrudPlan.Proofs.Data.Entries
import CrudPlan.Proofs.Schema.Fault
import CrudPlan.Proofs.Schema.Registry

namespace CrudPlan

variable {models : List Model} {gathered : List OwnDecls} {decls : NameMap OwnDecls}
  {owner foreign m : Model} {field model column name : String} {e : RelationDecl} {own : OwnDecls}
  {es : List (String × RelationDecl)} {rest : List (String × OwnDecls)} {problem : JoinProblem}
  {error : SchemaError} {d : Declaration}

section Gathering

/-- Adding stops at the first name that is taken. -/
theorem exists_of_addDecls_eq_error (h : addDecls owner own es = .error error) :
    ∃ before e after result, es = before ++ e :: after ∧ addDecls owner own before = .ok result ∧
      (owner.hasField e.1 ∨ result.contains e.1) ∧ error = .duplicateField owner.name e.1 := by
  induction es generalizing own with
  | nil => cases h
  | cons e es ih =>
    obtain ⟨name, decl⟩ := e
    rw [addDecls] at h
    split at h
    · rename_i htaken
      cases h
      exact ⟨[], (name, decl), es, own, rfl, rfl, by simpa using htaken, rfl⟩
    · rename_i hfree
      obtain ⟨before, e, after, result, rfl, hbefore, htaken, herror⟩ := ih h
      refine ⟨(name, decl) :: before, e, after, result, rfl, ?_, htaken, herror⟩
      rw [addDecls, if_neg hfree, hbefore]

/-- Gathering stops at the first key that stands for no model, or whose declarations cannot be
added to those from the keys before it. -/
theorem Ranked.exists_of_gatherDecls_eq_error (hr : Ranked models)
    (h : gatherDecls models gathered rest = .error error) :
    ∃ before key own after out, rest = before ++ (key, own) :: after ∧
      gatherDecls models gathered before = .ok out ∧
      (findModel? models key = none ∧ error = .unknownModel key .declarationKey ∨
        ∃ owner, Denotes models key owner ∧
          addDecls owner (declsOf out owner) own.entries = .error error) := by
  induction rest generalizing gathered with
  | nil => cases h
  | cons e rest ih =>
    obtain ⟨key, own⟩ := e
    rw [gatherDecls] at h
    split at h
    · rename_i hnone
      cases h
      exact ⟨[], key, own, rest, gathered, rfl, rfl, .inl ⟨hnone, rfl⟩⟩
    · rename_i owner howner
      have hdenotes := hr.findModel?_eq_some_iff.1 howner
      rcases bind_eq_error_iff.1 h with hadd | ⟨result, hadd, hrest⟩
      · exact ⟨[], key, own, rest, gathered, rfl, rfl, .inr ⟨owner, hdenotes, hadd⟩⟩
      · obtain ⟨before, key', own', after, out, rfl, hbefore, hwrong⟩ := ih hrest
        refine ⟨(key, own) :: before, key', own', after, out, rfl, ?_, hwrong⟩
        exact (gatherDecls_cons hr).2 ⟨owner, hdenotes, result, hadd, hbefore⟩

theorem findModel?_eq_none_iff : findModel? models name = none ↔ Unknown models name := by
  simp only [findModel?, Option.or_eq_none_iff, List.find?_eq_none, beq_iff_eq, Unknown]
  constructor
  · rintro ⟨hname, htable⟩ m hm
    exact ⟨hname m hm, htable m hm⟩
  · intro h
    exact ⟨fun m hm => (h m hm).1, fun m hm => (h m hm).2⟩

/-- What is taken already is a field, or it comes from a key before this one. -/
theorem Ranked.fault_of_addDecls (hr : Ranked models) {before after : List (String × OwnDecls)}
    {key : String} {out : List OwnDecls} (hentries : decls.entries = before ++ (key, own) :: after)
    (hbefore : gatherDecls models (models.map fun _ => .empty) before = .ok out)
    (hdenotes : Denotes models key owner)
    (hadd : addDecls owner (declsOf out owner) own.entries = .error error) :
    RelationFault models decls error := by
  have hdeclared {e} (he : e ∈ before ++ (key, own) :: after) : decls.get? e.1 = some e.2 :=
    NameMap.get?_eq_some_iff.2 (hentries ▸ he)
  have hkey := hdeclared (List.mem_append_right before List.mem_cons_self)
  obtain ⟨front, ⟨field, e⟩, back, result, hown, hfront, htaken, rfl⟩ :=
    exists_of_addDecls_eq_error hadd
  have hmem : (field, e) ∈ own.entries := hown ▸ List.mem_append_right front List.mem_cons_self
  have hdeclares : Declares decls key field e := ⟨own, hkey, NameMap.get?_eq_some_iff.2 hmem⟩
  rcases htaken with hfield | hcontains
  · obtain ⟨f, hf⟩ := Option.isSome_iff_exists.1 hfield
    exact .namedAsField ⟨key, hdenotes, hdeclares⟩ (List.mem_of_find?_eq_some hf)
      (by simpa using List.find?_some hf)
  · obtain ⟨e', he'⟩ := Option.isSome_iff_exists.1 hcontains
    rcases (addDecls_get? hfront field e').1 he' with he' | he'
    · rw [hr.declsOf_gatherDecls (by simp) hbefore hdenotes.mem, declsOf_map_empty] at he'
      rcases he' with he' | ⟨⟨key', own'⟩, hkey', hdenotes', he'⟩
      · cases he'
      · have hlt : key' < key := (hentries ▸ decls.sorted).lt_of_mem_front hkey'
        refine .declaredTwice hdenotes hdenotes' (fun heq => ?_) hdeclares
          ⟨own', hdeclared (List.mem_append_left _ hkey'), he'⟩
        exact String.lt_irrefl key (heq ▸ hlt)
    · -- one key declares a name once
      have hlt : field < field := (hown ▸ own.sorted).lt_of_mem_front he'
      exact (String.lt_irrefl field hlt).elim

theorem Ranked.fault_of_gatherAll (hr : Ranked models) (h : gatherAll models decls = .error error) :
    RelationFault models decls error := by
  obtain ⟨before, key, own, after, out, hentries, hbefore, hwrong⟩ :=
    hr.exists_of_gatherDecls_eq_error h
  rcases hwrong with ⟨hnone, rfl⟩ | ⟨owner, hdenotes, hadd⟩
  · have hmem : (key, own) ∈ decls.entries :=
      hentries ▸ List.mem_append_right before List.mem_cons_self
    exact .unknownKey (NameMap.get?_eq_some_iff.2 hmem) (findModel?_eq_none_iff.1 hnone)
  · exact hr.fault_of_addDecls hentries hbefore hdenotes hadd

end Gathering

section Joining

theorem RelationDecl.of_joinColumns?_eq_error (h : e.joinColumns? model name = .error error) :
    e.fields.length = e.references.length ∧ 2 ≤ e.fields.length ∧
        error = .compositeJoin model name ∨
      e.fields.length ≠ e.references.length ∧
        error = .unresolvable model name (.uneven e.fields.length e.references.length) := by
  rw [RelationDecl.joinColumns?] at h
  split at h
  · cases h
  · cases h
  · rename_i hnone hone
    split at h
    · rename_i heven
      cases h
      refine .inl ⟨heven, ?_, rfl⟩
      have hzero : e.fields.length ≠ 0 := fun hzero =>
        hnone (List.length_eq_zero_iff.1 hzero) (List.length_eq_zero_iff.1 (heven.symm.trans hzero))
      have hsingle : e.fields.length ≠ 1 := fun hsingle => by
        obtain ⟨column, hf⟩ := List.length_eq_one_iff.1 hsingle
        obtain ⟨reference, hr⟩ := List.length_eq_one_iff.1 (heven.symm.trans hsingle)
        exact hone column reference hf hr
      omega
    · rename_i huneven
      cases h
      exact .inr ⟨huneven, rfl⟩

theorem Owns.fault_of_joinColumns? (ho : Owns models decls m field e)
    (h : e.joinColumns? m.name field = .error error) : RelationFault models decls error := by
  rcases RelationDecl.of_joinColumns?_eq_error h with ⟨heven, hseveral, rfl⟩ | ⟨huneven, rfl⟩
  · exact .composite ho heven hseveral
  · exact .uneven ho huneven

theorem mem_names_iff : name ∈ es.map (·.1) ↔ ∃ e, (name, e) ∈ es := by
  simp

theorem ascending_of_sublist (h : es.Sublist own.entries) : (es.map (·.1)).Pairwise (· < ·) :=
  List.pairwise_map.2 (own.sorted.sublist h)

theorem two_le_length_of_ne (hnil : es ≠ []) (hone : ∀ e, es ≠ [e]) : 2 ≤ es.length := by
  have hzero : es.length ≠ 0 := mt List.length_eq_zero_iff.1 hnil
  have hsingle : es.length ≠ 1 := fun hsingle => by
    obtain ⟨e, he⟩ := List.length_eq_one_iff.1 hsingle
    exact hone e he
  omega

theorem two_le_length_of_narrow_eq_nil (h : narrow e es = []) (hne : es ≠ []) :
    2 ≤ es.length := by
  by_contra hlt
  rw [narrow, if_pos (by omega)] at h
  exact hne h

theorem Ranked.unjoined_of_findInverse (hr : Ranked models)
    (h : gatherAll models decls = .ok gathered) (ho : owner ∈ models) (hf : foreign ∈ models)
    (hi : findInverse models owner foreign field e (declsOf gathered foreign) = .error problem) :
    Unjoined models decls owner foreign field e problem := by
  rw [findInverse] at hi
  split at hi
  · rename_i hempty
    cases hi
    refine .noRelations fun name e' howns => ?_
    rw [← hr.get?_gatherAll h hf, NameMap.get?_eq_some_iff, List.isEmpty_iff.1 hempty] at howns
    cases howns
  · dsimp only at hi
    split at hi
    · cases hi
    · rename_i hnil
      split at hi
      · rename_i hempty
        cases hi
        refine .noCandidate fun name e' hback => ?_
        rw [← hr.mem_backReferences h ho hf, List.isEmpty_iff.1 hempty] at hback
        cases hback
      · rename_i hsome
        cases hi
        rw [← List.length_map Prod.fst]
        refine .noSharedName (ascending_of_sublist List.filter_sublist) (fun name => ?_) ?_
          fun name e' heligible => ?_
        · simp only [mem_names_iff, hr.mem_backReferences h ho hf]
        · rw [List.length_map]
          exact two_le_length_of_narrow_eq_nil hnil (by simpa using hsome)
        · rw [← hr.mem_narrow_iff h ho hf, hnil] at heligible
          cases heligible
    · rename_i hone hnil
      cases hi
      refine .ambiguous (ascending_of_sublist (narrow_sublist.trans List.filter_sublist))
        (fun name => ?_) ?_
      · simp only [mem_names_iff, hr.mem_narrow_iff h ho hf]
      · rw [List.length_map]
        exact two_le_length_of_ne hnil hone

theorem Ranked.fault_of_findJoin (hr : Ranked models) (h : gatherAll models decls = .ok gathered)
    (ho : Owns models decls owner field e) (hd : Denotes models e.table foreign)
    (hj : findJoin models gathered owner foreign field e = .error error) :
    RelationFault models decls error := by
  rw [findJoin] at hj
  rcases bind_eq_error_iff.1 hj with hown | ⟨columns, hcolumns, hj⟩
  · exact ho.fault_of_joinColumns? hown
  · cases columns with
    | some columns => cases hj
    | none =>
      obtain ⟨hfields, hreferences⟩ := RelationDecl.joinColumns?_eq_none_iff.1 hcolumns
      cases hi : findInverse models owner foreign field e (declsOf gathered foreign) with
      | error problem =>
        simp only [hi] at hj
        cases hj
        exact .unjoined ho hfields hreferences hd (hr.unjoined_of_findInverse h ho.mem hd.mem hi)
      | ok inverse =>
        obtain ⟨name, e'⟩ := inverse
        have hselects := (hr.findInverse_eq_ok_iff h ho.mem hd.mem).1 hi
        simp only [hi] at hj
        -- from here on it is the inverse that may be at fault
        rcases bind_eq_error_iff.1 hj with hinverse | ⟨columns, hcolumns, hj⟩
        · exact hselects.eligible.1.1.fault_of_joinColumns? hinverse
        · cases columns with
          | some columns => cases hj
          | none =>
            cases hj
            obtain ⟨hfields', hreferences'⟩ := RelationDecl.joinColumns?_eq_none_iff.1 hcolumns
            exact .unjoined ho hfields hreferences hd
              (.inverseWithoutJoin hselects hfields' hreferences')

end Joining

theorem joinField_eq_error_iff {table : Model} :
    joinField owner table field column = .error error ↔
      (∀ f ∈ table.fields, f.columnName ≠ column) ∧
        error = .unknownJoinColumn owner.name field table.tableName column := by
  have hmissing : table.fieldByColumn? column = none ↔
      ∀ f ∈ table.fields, f.columnName ≠ column := by
    simp [Model.fieldByColumn?]
  rw [joinField, ← hmissing]
  cases table.fieldByColumn? column <;> simp [eq_comm]

theorem Ranked.fault_of_resolveDecl (hr : Ranked models)
    (h : gatherAll models decls = .ok gathered) (ho : Owns models decls owner field e)
    (he : resolveDecl models gathered owner field e = .error error) :
    RelationFault models decls error := by
  rw [resolveDecl] at he
  split at he
  · rename_i hnone
    cases he
    exact .unknownTarget ho (findModel?_eq_none_iff.1 hnone)
  · rename_i foreign hforeign
    have hdenotes := hr.findModel?_eq_some_iff.1 hforeign
    rcases bind_eq_error_iff.1 he with hjoin | ⟨j, hj, he⟩
    · exact hr.fault_of_findJoin h ho hdenotes hjoin
    · have hjoins := (hr.findJoin_eq_ok_iff h ho.mem hdenotes.mem).1 hj
      rcases bind_eq_error_iff.1 he with hlocal | ⟨_, _, he⟩
      · obtain ⟨hmissing, rfl⟩ := joinField_eq_error_iff.1 hlocal
        exact .unknownColumn ho hdenotes hjoins (.inl ⟨rfl, rfl⟩) hmissing
      · rcases bind_eq_error_iff.1 he with hother | ⟨_, _, he⟩
        · obtain ⟨hmissing, rfl⟩ := joinField_eq_error_iff.1 hother
          exact .unknownColumn ho hdenotes hjoins (.inr ⟨rfl, rfl⟩) hmissing
        · cases he

theorem Ranked.fault_of_resolveRelations (hr : Ranked models)
    (h : resolveRelations models decls = .error error) : RelationFault models decls error := by
  rw [resolveRelations] at h
  rcases bind_eq_error_iff.1 h with hgather | ⟨gathered, hg, h⟩
  · exact hr.fault_of_gatherAll hgather
  · have hl : gathered.length = models.length := by
      rw [length_gatherDecls hr hg, List.length_map]
    rw [hr.zip_eq_map hl, List.mapM_map] at h
    rcases bind_eq_error_iff.1 h with hall | ⟨_, _, h⟩
    · obtain ⟨m, hm, hown⟩ := exists_of_mapM_eq_error hall
      obtain ⟨e, he, hres⟩ := exists_of_mapM_eq_error hown
      have ho := (hr.get?_gatherAll hg hm e.1 e.2).1 (NameMap.get?_eq_some_iff.2 he)
      exact hr.fault_of_resolveDecl hg ho hres
    · cases h

/-- A declaration that has a fault has no registry. -/
theorem Declaration.Fault.not_built (h : d.Fault error) (r : Registry) :
    Registry.build d ≠ .ok r := by
  intro hbuild
  obtain ⟨models, hm, relations, hres, _⟩ := Registry.build_eq_ok_iff.1 hbuild
  cases h with
  | table declared fault =>
    have hall := exists_extractModels_iff.1 ⟨models, hm⟩
    exact fault.not_orderly (hall _ (NameMap.get?_eq_some_iff.1 declared))
  | relation presented fault =>
    cases presented.unique hm
    have hr := ranked_of_extractModels hm
    exact fault.not_resolvable hr (hr.exists_resolveRelations_iff.1 ⟨relations, hres⟩)

/-- The error that a declaration is refused with names a fault that the declaration has. -/
theorem Registry.build_error_truthful (h : Registry.build d = .error error) : d.Fault error := by
  rw [Registry.build] at h
  rcases bind_eq_error_iff.1 h with hextract | ⟨models, hm, h⟩
  · obtain ⟨e, he, hfault⟩ := (extractFrom_eq_error_iff.1 hextract).exists_fault
    exact .table (NameMap.get?_eq_some_iff.2 he) hfault
  · rcases bind_eq_error_iff.1 h with hres | ⟨_, _, h⟩
    · exact .relation (presented_of_extractModels hm)
        ((ranked_of_extractModels hm).fault_of_resolveRelations hres)
    · cases h

/-- The books of an author are found by a column that books do not have. -/
def shelves : Declaration where
  tables := .ofList [
    ("authors", ⟨"authors", [{ name := "id", dataType := .serial, primaryKey := true }]⟩),
    ("books", ⟨"books", [
      { name := "id", dataType := .serial, primaryKey := true },
      { name := "authorId", dataType := .integer, columnName := some "author_id" }]⟩)]
  relations := .ofList [
    ("authors", .ofList [("books", { kind := .many, table := "books" })]),
    ("books", .ofList [
      ("author", { kind := .one, table := "authors", fields := ["writer_id"],
                   references := ["id"] })])]

/-- The error is raised for the relation of authors, whose own declaration names no column. -/
theorem Registry.build_error_truthful_shelves :
    Registry.build shelves = .error (.unknownJoinColumn "authors" "books" "books" "writer_id") ∧
      shelves.Fault (.unknownJoinColumn "authors" "books" "books" "writer_id") := by
  have h : Registry.build shelves =
      .error (.unknownJoinColumn "authors" "books" "books" "writer_id") := rfl
  exact ⟨h, Registry.build_error_truthful h⟩

end CrudPlan
