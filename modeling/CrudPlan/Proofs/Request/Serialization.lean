import CrudPlan.Proofs.Request.Args
import CrudPlan.Proofs.Request.Selection
import CrudPlan.Proofs.Schema.Serialization

namespace CrudPlan

namespace Args

/-- Arguments without a filter of null. -/
def withoutNullFilter (a : Args) : Args := { a with filter := a.filter.filter (!·.isNull) }

/-- A filter that has the members of its objects in order, each once. -/
def Canonical (a : Args) : Prop := ∀ v ∈ a.filter, v.canonical = v

end Args

namespace Selection

/-- Without filters of null at any level. -/
def withoutNullFilters : Selection → Selection
  | ⟨args, children⟩ => ⟨args.withoutNullFilter, withoutAmong children⟩
where
  withoutAmong : List (String × Selection) → List (String × Selection)
    | [] => []
    | (name, child) :: rest => (name, child.withoutNullFilters) :: withoutAmong rest

/-- The names of children, and of members in filters, ascend at every level. -/
inductive Canonical : Selection → Prop
  | intro {args children} (args_canonical : args.Canonical) (names : Entries.Sorted children)
      (below : ∀ e ∈ children, Canonical e.2) : Canonical ⟨args, children⟩

end Selection

variable {a : Args} {s : Selection} {children : List (String × Selection)} {r : Registry}
  {m : Model} {n : UInt64} {v : Json}

namespace Json

theorem canonicalItems_eq (items : List Json) :
    canonical.canonicalItems items = items.map canonical := by
  induction items with
  | nil => rfl
  | cons v items ih => rw [canonical.canonicalItems, ih, List.map_cons]

theorem canonicalMembers_eq (members : List (String × Json)) :
    canonical.canonicalMembers members = Entries.mapValues canonical members := by
  induction members with
  | nil => rfl
  | cons e members ih =>
    rw [canonical.canonicalMembers, ih]
    rfl

theorem canonical_canonical (v : Json) : v.canonical.canonical = v.canonical := by
  induction v using Json.induction with
  | scalar v hv =>
    cases v with
    | arr _ | obj _ => cases hv
    | _ => rfl
  | arr items ih =>
    simp only [canonical, canonicalItems_eq, List.map_map]
    exact congrArg Json.arr (List.map_congr_left ih)
  | obj members ih =>
    have hvalues :
        Entries.mapValues canonical (Entries.sort (Entries.mapValues canonical members)) =
          Entries.sort (Entries.mapValues canonical members) := by
      refine (List.map_congr_left fun e he => ?_).trans (List.map_id _)
      obtain ⟨e, hmem, rfl⟩ := List.mem_map.1 (Entries.mem_of_mem_sort he)
      exact Prod.ext rfl (ih e hmem)
    rw [canonical, canonicalMembers_eq, canonical, canonicalMembers_eq, hvalues,
      (Entries.sorted_sort _).sort_eq]

end Json

namespace Args

theorem Readable.canonical (h : a.Readable) : a.Canonical := by
  cases h with
  | empty =>
    rintro _ ⟨⟩
  | read h =>
    simp only [ofJson?, Option.bind_eq_bind, Option.bind_eq_some_iff, Option.pure_def,
      Option.some.injEq] at h
    obtain ⟨fields, _, limit, _, offset, _, filter, hfilter, rfl⟩ := h
    intro v hv
    unfold Document.orElse? at hfilter
    split at hfilter
    · cases hfilter
      cases hv
    · rename_i w _
      cases hv
      cases w <;> cases hfilter <;> exact Json.canonical_canonical _

theorem read?_count (n : UInt64) :
    Document.optional? Json.toUInt64? (Json.ofUInt64 n) = some (some n) := by
  have hcount : (Json.ofUInt64 n).toUInt64? = some n := Json.toUInt64?_eq_some_iff.2 rfl
  change (Json.ofUInt64 n).toUInt64?.bind (fun n => some (some n)) = some (some n)
  rw [hcount]
  rfl

theorem read?_filter (h : v.canonical = v) :
    Document.optional? (fun v : Json => some v.canonical) v =
      some ((some v).filter (!·.isNull)) := by
  cases v with
  | null => rfl
  | _ => exact congrArg (some ∘ some) h

theorem ofJson?_toJson (h : a.Canonical) : ofJson? a.toJson = some a.withoutNullFilter := by
  obtain ⟨limit, offset, filter⟩ := a
  have hfields (names : List String) (es : List (String × Json)) :
      Document.fields? names (Json.obj es) = Document.selectFields? names es := rfl
  have hfilter : ∀ v ∈ filter, Document.optional? (fun v : Json => some v.canonical) v =
      some ((some v).filter (!·.isNull)) := fun v hv => read?_filter (h v hv)
  cases limit <;> cases offset <;> cases filter <;>
    simp_all [ofJson?, toJson, members, Document.selectFields?, Document.distinctNames,
      Json.optional, Document.orElse?, List.lookup_cons, read?_count, withoutNullFilter]

end Args

namespace Filter

theorem optionalPredicate_withoutNull (m : Model) (o : Option Json) :
    optionalPredicate m (o.filter (!·.isNull)) = optionalPredicate m o := by
  cases o with
  | none => rfl
  | some v => cases v <;> rfl

end Filter

namespace Selection

theorem canonical_ofJson? (h : ofJson? v = some s) : s.Canonical := by
  refine (reads ?_ v).selection s h
  intro args es hargs hes
  refine .intro hargs.canonical (Entries.sorted_sort es) ?_
  exact fun e he => hes e (Entries.mem_of_mem_sort he)

theorem withoutAmong_eq (children : List (String × Selection)) :
    withoutNullFilters.withoutAmong children =
      Entries.mapValues withoutNullFilters children := by
  induction children with
  | nil => rfl
  | cons e children ih =>
    rw [withoutNullFilters.withoutAmong, ih]
    rfl

theorem named?_childrenToJson
    (h : ∀ e ∈ children, ofJson? e.2.toJson = some e.2.withoutNullFilters) :
    ofJson?.named? (toJson.childrenToJson children) =
      some (withoutNullFilters.withoutAmong children) := by
  induction children with
  | nil => rfl
  | cons e children ih =>
    obtain ⟨he, h⟩ := List.forall_mem_cons.1 h
    simp [toJson.childrenToJson, ofJson?.named?, he, ih h, withoutNullFilters.withoutAmong]

theorem childrenAmong?_args (v : Json) (rest : List (String × Json)) :
    ofJson?.childrenAmong? (("args", v) :: rest) = ofJson?.childrenAmong? rest := by
  cases v <;> simp [ofJson?.childrenAmong?]

theorem ofJson?_toJson (h : s.Canonical) : ofJson? s.toJson = some s.withoutNullFilters := by
  induction s using Selection.induction with
  | intro args children ih =>
    obtain ⟨hargs, names, below⟩ := h
    have hnamed := named?_childrenToJson fun e he => ih e he (below e he)
    have hsort : Entries.sort (withoutNullFilters.withoutAmong children) =
        withoutNullFilters.withoutAmong children := by
      rw [withoutAmong_eq]
      exact (names.mapValues _).sort_eq
    have hread := Args.ofJson?_toJson hargs
    have hempty : args.isEmpty → args.withoutNullFilter = {} := by
      obtain ⟨limit, offset, filter⟩ := args
      simp +contextual [Args.isEmpty, Args.withoutNullFilter]
    rw [toJson, withoutNullFilters]
    by_cases hnone : args.isEmpty <;> cases children <;>
      simp_all [ofJson?, argsAmong?, childrenAmong?_args, ofJson?.childrenAmong?,
        Document.selectFields?, Document.distinctNames, List.lookup_cons, toJson.childrenToJson,
        withoutNullFilters.withoutAmong]

theorem planOn_withoutNullFilters (r : Registry) (m : Model) (s : Selection) :
    r.planOn m s.withoutNullFilters = r.planOn m s := by
  induction s using Selection.induction generalizing m with
  | intro args children ih =>
    have hchildren : Registry.planOn.planChildren r m (withoutNullFilters.withoutAmong children) =
        Registry.planOn.planChildren r m children := by
      induction children with
      | nil => rfl
      | cons e children ihrest =>
        obtain ⟨name, child⟩ := e
        obtain ⟨hchild, h⟩ := List.forall_mem_cons.1 ih
        have hleaf : child.withoutNullFilters.children.isEmpty = child.children.isEmpty := by
          obtain ⟨_, children⟩ := child
          cases children <;> rfl
        simp only [withoutNullFilters.withoutAmong, Registry.planOn.planChildren, hchild, hleaf,
          ihrest h]
    simp only [withoutNullFilters, Registry.planOn, hchildren, Args.withoutNullFilter,
      Filter.optionalPredicate_withoutNull]

theorem planFor_withoutNullFilters (r : Registry) (name : String) (s : Selection) :
    r.planFor name s.withoutNullFilters = r.planFor name s := by
  simp only [Registry.planFor, planOn_withoutNullFilters]

end Selection

/-- A declaration that is written as a JSON value, or further as the text of that value, is read as
it was. The part about selections is on JSON values alone, not on text, where a number may be
rounded and deep nesting is refused: a selection that is written as a value is read without its
filters of null, and has the same plan or error, whatever it is planned on. It has to be canonical,
as each selection is that is read from a value. -/
theorem serialization_faithful :
    (∀ d : Declaration, Declaration.read? d.toJson = some d ∧
      Declaration.parse? .json d.toJson.compact = some d) ∧
    (∀ v s, Selection.ofJson? v = some s → s.Canonical) ∧
    ∀ s : Selection, s.Canonical → ∃ s', Selection.ofJson? s.toJson = some s' ∧
      s' = s.withoutNullFilters ∧
      ∀ r : Registry, (∀ m, r.planOn m s' = r.planOn m s) ∧
        ∀ name, r.planFor name s' = r.planFor name s := by
  refine ⟨fun d => ⟨Declaration.read?_toJson Document.embeds_id d, d.parse?_compact⟩,
    fun v s => Selection.canonical_ofJson?, ?_⟩
  intro s hs
  refine ⟨_, Selection.ofJson?_toJson hs, rfl, ?_⟩
  intro r
  exact ⟨fun m => s.planOn_withoutNullFilters r m, fun name => s.planFor_withoutNullFilters r name⟩

/-- Two users with the numbers of all their posts. -/
def asked : Selection :=
  ⟨{ limit := some 2, filter := some .null },
    [("id", {}), ("posts", ⟨{ filter := some .null }, [("id", {})]⟩)]⟩

theorem serialization_faithful_asked : ∃ s', asked.Canonical ∧
    Selection.ofJson? asked.toJson = some s' ∧
      s' = ⟨{ limit := some 2 }, [("id", {}), ("posts", ⟨{}, [("id", {})]⟩)]⟩ ∧
      ∀ r : Registry, r.planFor "users" s' = r.planFor "users" asked := by
  have hempty : Args.Canonical {} := by rintro v ⟨⟩
  have hnull (limit : Option UInt64) : Args.Canonical { limit, filter := some .null } := by
    rintro v ⟨⟩
    rfl
  have hid : Selection.Canonical {} := .intro hempty .nil (List.forall_mem_nil _)
  have hasked : asked.Canonical := by
    refine .intro (hnull _) (List.pairwise_pair.2 (by decide)) (List.forall_mem_cons.2 ⟨hid, ?_⟩)
    refine List.forall_mem_singleton.2 (.intro (hnull none) (List.pairwise_singleton _ _) ?_)
    exact List.forall_mem_singleton.2 hid
  obtain ⟨s', hread, he, hplan⟩ := serialization_faithful.2.2 asked hasked
  exact ⟨s', hasked, hread, he, fun r => (hplan r).2 "users"⟩

end CrudPlan
