import CrudPlan.Proofs.Request.Selection
import CrudPlan.Proofs.Schema.Registry

namespace CrudPlan

variable {decl : Declaration} {r : Registry} {m m' : Model} {s s' : Selection} {p q : QueryPlan}
  {name : String} {child : Selection} {children : List (String × Selection)} {path : List String}
  {es : List (String × QueryPlan)}

/-- A selection node that has a plan of its own on a model. -/
structure Plannable (m : Model) (s : Selection) : Prop where
  children : ∀ e ∈ s.children, (m.relation? e.1).isSome ∨ "__".toList <+: e.1.toList ∨
    m.hasField e.1 ∧ e.2.children = []
  filter : ∃ o, Filter.optionalPredicate m s.args.filter = .ok o

namespace Registry

/-- What a child of a selection adds to the plan: nothing, or the plan of the relation that it
names. -/
inductive Contributes (r : Registry) (m : Model) (name : String) (child : Selection) :
    List (String × QueryPlan) → Prop
  | relation {x foreign p} (named : m.relation? name = some x)
      (found : r.foreignModel? x = some foreign) (planned : r.planOn foreign child = .ok p) :
      Contributes r m name child [(name, p)]
  | skipped (unnamed : m.relation? name = none)
      (allowed : isIntrospection name ∨ m.hasField name ∧ child.children = []) :
      Contributes r m name child []

theorem Contributes.planned {x : Relation} {foreign : Model} (h : Contributes r m name child es)
    (hx : m.relation? name = some x) (hforeign : r.foreignModel? x = some foreign) :
    ∃ p, r.planOn foreign child = .ok p ∧ es = [(name, p)] := by
  cases h with
  | relation hx' hforeign' hp =>
    cases hx.symm.trans hx'
    cases hforeign.symm.trans hforeign'
    exact ⟨_, hp, rfl⟩
  | skipped hnone => cases hx.symm.trans hnone

theorem planOn_eq_ok_iff :
    r.planOn m s = .ok p ↔ planOn.planChildren r m s.children = .ok p.eagerLoad ∧
      Filter.optionalPredicate m s.args.filter = .ok p.predicate ∧ p.limit = s.args.limit ∧
      p.offset = s.args.offset := by
  obtain ⟨args, children⟩ := s
  obtain ⟨limit, offset, predicate, eagerLoad⟩ := p
  simp only [planOn, bind_eq_ok_iff, mapError_eq_ok_iff, pure, Except.pure, Except.ok.injEq,
    QueryPlan.mk.injEq]
  constructor
  · rintro ⟨_, hchildren, _, hfilter, rfl, rfl, rfl, rfl⟩
    exact ⟨hchildren, hfilter, rfl, rfl⟩
  · rintro ⟨hchildren, hfilter, rfl, rfl⟩
    exact ⟨_, hchildren, _, hfilter, rfl, rfl, rfl, rfl⟩

theorem planChildren_cons_eq_ok_iff :
    planOn.planChildren r m ((name, child) :: children) = .ok es ↔
      ∃ front, Contributes r m name child front ∧
        ∃ back, planOn.planChildren r m children = .ok back ∧ front ++ back = es := by
  rw [planOn.planChildren]
  constructor
  · intro h
    split at h
    · rename_i x hx
      split at h
      · rename_i foreign hforeign
        obtain ⟨p, hp, h⟩ := bind_eq_ok_iff.1 h
        obtain ⟨back, hback, he⟩ := bind_eq_ok_iff.1 h
        cases he
        exact ⟨_, .relation hx hforeign hp, back, hback, rfl⟩
      · cases h
    · rename_i hx
      split at h
      · rename_i hintro
        exact ⟨[], .skipped hx (.inl hintro), es, h, rfl⟩
      · split at h
        · cases h
        · rename_i hfield
          split at h
          · rename_i hempty
            refine ⟨[], .skipped hx (.inr ⟨by simpa using hfield, ?_⟩), es, h, rfl⟩
            exact List.isEmpty_iff.1 hempty
          · cases h
  · rintro ⟨front, hfront, back, hback, rfl⟩
    cases hfront with
    | relation hx hforeign hp =>
      simp [hx, hforeign, hp, hback, bind, Except.bind, pure, Except.pure]
    | skipped hx hallowed =>
      by_cases hintro : isIntrospection name
      · simp [hx, hintro, hback]
      · obtain ⟨hfield, hempty⟩ := hallowed.resolve_left hintro
        simp [hx, hintro, hfield, hempty, hback]

theorem exists_planChildren_iff :
    (∃ es, planOn.planChildren r m children = .ok es) ↔
      ∀ e ∈ children, ∃ part, Contributes r m e.1 e.2 part := by
  induction children with
  | nil => simp [planOn.planChildren]
  | cons e children ih =>
    rw [List.forall_mem_cons, ← ih]
    constructor
    · rintro ⟨es, h⟩
      obtain ⟨front, hfront, back, hback, _⟩ := planChildren_cons_eq_ok_iff.1 h
      exact ⟨⟨front, hfront⟩, back, hback⟩
    · rintro ⟨⟨front, hfront⟩, back, hback⟩
      exact ⟨_, planChildren_cons_eq_ok_iff.2 ⟨front, hfront, back, hback, rfl⟩⟩

theorem mem_planChildren (h : planOn.planChildren r m children = .ok es) :
    (name, p) ∈ es ↔ ∃ child, (name, child) ∈ children ∧ ∃ x, m.relation? name = some x ∧
      ∃ foreign, r.foreignModel? x = some foreign ∧ r.planOn foreign child = .ok p := by
  induction children generalizing es with
  | nil =>
    cases h
    simp
  | cons e children ih =>
    obtain ⟨key, c⟩ := e
    obtain ⟨front, hfront, back, hback, rfl⟩ := planChildren_cons_eq_ok_iff.1 h
    rw [List.mem_append, ih hback]
    constructor
    · rintro (hmem | ⟨child, hchild, hrest⟩)
      · cases hfront with
        | relation hx hforeign hp =>
          cases List.mem_singleton.1 hmem
          exact ⟨c, List.mem_cons_self, _, hx, _, hforeign, hp⟩
        | skipped => cases hmem
      · exact ⟨child, List.mem_cons_of_mem _ hchild, hrest⟩
    · rintro ⟨child, hchild, x, hx, foreign, hforeign, hp⟩
      rcases List.mem_cons.1 hchild with he | hchild
      · cases he
        obtain ⟨p', hp', rfl⟩ := hfront.planned hx hforeign
        cases hp.symm.trans hp'
        exact .inl (List.mem_singleton_self _)
      · exact .inr ⟨child, hchild, x, hx, foreign, hforeign, hp⟩

theorem sorted_planChildren (hs : Entries.Sorted children)
    (h : planOn.planChildren r m children = .ok es) : Entries.Sorted es := by
  induction children generalizing es with
  | nil =>
    cases h
    exact .nil
  | cons e children ih =>
    obtain ⟨key, c⟩ := e
    obtain ⟨hlt, hs⟩ := List.pairwise_cons.1 hs
    obtain ⟨front, hfront, back, hback, rfl⟩ := planChildren_cons_eq_ok_iff.1 h
    cases hfront with
    | skipped => exact ih hs hback
    | relation _ _ _ =>
      refine List.pairwise_cons.2 ⟨?_, ih hs hback⟩
      intro e he
      obtain ⟨child, hchild, _⟩ := (mem_planChildren hback).1 he
      exact hlt _ hchild

theorem ordered_planOn (hs : s.Ordered) (h : r.planOn m s = .ok p) : p.Ordered := by
  induction s using Selection.induction generalizing m p with
  | intro args children ih =>
    obtain ⟨limit, offset, predicate, eagerLoad⟩ := p
    obtain ⟨hchildren, _⟩ := planOn_eq_ok_iff.1 h
    refine .intro (sorted_planChildren hs.names hchildren) ?_
    intro e he
    obtain ⟨child, hchild, _, _, _, _, hplan⟩ := (mem_planChildren hchildren).1 he
    exact ih _ hchild (hs.child hchild) hplan

/-- A plan has a node where relations lead to a node of the selection, and it is the plan of that
node. -/
theorem at?_planOn (hs : s.Ordered) (h : r.planOn m s = .ok p) :
    p.at? path = some q ↔ ∃ m' s', r.follow? m path = some m' ∧ s.at? path = some s' ∧
      r.planOn m' s' = .ok q := by
  induction path generalizing m s p with
  | nil =>
    simp only [QueryPlan.at?, follow?, Selection.at?, Option.some.injEq]
    constructor
    · rintro rfl
      exact ⟨m, s, rfl, rfl, h⟩
    · rintro ⟨_, _, rfl, rfl, h'⟩
      exact Except.ok.inj (h.symm.trans h')
  | cons name path ih =>
    obtain ⟨hchildren, _⟩ := planOn_eq_ok_iff.1 h
    have hnames := sorted_planChildren hs.names hchildren
    simp only [QueryPlan.at?_cons_eq_some_iff, hnames.lookup_eq_some_iff,
      mem_planChildren hchildren, follow?_cons_eq_some_iff, Selection.at?_cons_eq_some_iff,
      hs.names.lookup_eq_some_iff]
    constructor
    · rintro ⟨p, ⟨child, hchild, x, hx, foreign, hforeign, hplan⟩, hq⟩
      obtain ⟨m', s', hm', hs', hq⟩ := (ih (hs.child hchild) hplan).1 hq
      exact ⟨m', s', ⟨x, hx, foreign, hforeign, hm'⟩, ⟨child, hchild, hs'⟩, hq⟩
    · rintro ⟨m', s', ⟨x, hx, foreign, hforeign, hm'⟩, ⟨child, hchild, hs'⟩, hq⟩
      obtain ⟨es, hes⟩ := exists_planChildren_iff.1 ⟨_, hchildren⟩ _ hchild
      obtain ⟨p, hplan, _⟩ := hes.planned hx hforeign
      exact ⟨p, ⟨child, hchild, x, hx, foreign, hforeign, hplan⟩,
        (ih (hs.child hchild) hplan).2 ⟨m', s', hm', hs', hq⟩⟩

theorem exists_planOn_of_at? (hs : s.Ordered) (h : r.planOn m s = .ok p)
    (hm : r.follow? m path = some m') (ha : s.at? path = some s') :
    ∃ q, r.planOn m' s' = .ok q := by
  induction path generalizing m s p with
  | nil =>
    cases hm
    cases ha
    exact ⟨p, h⟩
  | cons name path ih =>
    obtain ⟨x, hx, foreign, hforeign, hm⟩ := follow?_cons_eq_some_iff.1 hm
    obtain ⟨child, hchild, ha⟩ := Selection.at?_cons_eq_some_iff.1 ha
    have hmem := Entries.mem_of_lookup_eq_some hchild
    obtain ⟨hchildren, _⟩ := planOn_eq_ok_iff.1 h
    obtain ⟨es, hes⟩ := exists_planChildren_iff.1 ⟨_, hchildren⟩ _ hmem
    obtain ⟨p, hplan, _⟩ := hes.planned hx hforeign
    exact ih (hs.child hmem) hplan hm ha

theorem plannable_of_planOn (h : r.planOn m s = .ok p) : Plannable m s := by
  obtain ⟨hchildren, hfilter, _⟩ := planOn_eq_ok_iff.1 h
  refine ⟨?_, _, hfilter⟩
  intro e he
  obtain ⟨es, hes⟩ := exists_planChildren_iff.1 ⟨_, hchildren⟩ e he
  cases hes with
  | relation hx _ _ => exact .inl (by simp [hx])
  | skipped _ hallowed => exact .inr (hallowed.imp_left List.isPrefixOf_iff_prefix.1)

theorem Coherent.foreignModel? (hr : r.Coherent) (hm : m ∈ r.models) {x : Relation}
    (hx : m.relation? name = some x) : ∃ foreign ∈ r.models, r.foreignModel? x = some foreign := by
  have hmem := List.mem_of_find?_eq_some hx
  obtain ⟨foreign, _, _, hforeign, _⟩ := ((hr.related m hm).joined x hmem).join
  exact ⟨foreign, List.mem_of_getElem? hforeign, hforeign⟩

theorem Coherent.exists_planOn (hr : r.Coherent) (hm : m ∈ r.models) (hs : s.Ordered)
    (h : ∀ path m' s', r.follow? m path = some m' → s.at? path = some s' → Plannable m' s') :
    ∃ p, r.planOn m s = .ok p := by
  induction s using Selection.induction generalizing m with
  | intro args children ih =>
    obtain ⟨hchildren, o, ho⟩ := h [] m _ rfl rfl
    have hparts : ∀ e ∈ children, ∃ part, Contributes r m e.1 e.2 part := by
      intro e he
      cases hx : m.relation? e.1 with
      | none =>
        have hallowed := (hchildren e he).resolve_left (by simp [hx])
        exact ⟨[], .skipped hx (hallowed.imp_left List.isPrefixOf_iff_prefix.2)⟩
      | some x =>
        obtain ⟨foreign, hmem, hforeign⟩ := hr.foreignModel? hm hx
        have hbelow : ∀ path m' s', r.follow? foreign path = some m' → e.2.at? path = some s' →
            Plannable m' s' := by
          intro path m' s' hm' hs'
          apply h (e.1 :: path) m' s'
          · exact follow?_cons_eq_some_iff.2 ⟨x, hx, foreign, hforeign, hm'⟩
          · exact Selection.at?_cons_eq_some_iff.2
              ⟨e.2, hs.names.lookup_eq_some_iff.2 he, hs'⟩
        obtain ⟨p, hp⟩ := ih e he hmem (hs.child he) hbelow
        exact ⟨_, .relation hx hforeign hp⟩
    obtain ⟨es, hes⟩ := exists_planChildren_iff.2 hparts
    exact ⟨⟨args.limit, args.offset, o, es⟩, planOn_eq_ok_iff.2 ⟨hes, ho, rfl, rfl⟩⟩

theorem at?_planOn_eq_none (hs : s.Ordered) (h : r.planOn m s = .ok p)
    (hnone : r.follow? m path = none ∨ s.at? path = none) : p.at? path = none := by
  rw [Option.eq_none_iff_forall_ne_some]
  intro q hq
  obtain ⟨m', s', hm', hs', _⟩ := (at?_planOn hs h).1 hq
  simp [hm', hs'] at hnone

theorem root_eq_of_planOn (h : r.planOn m s = .ok p) (h' : r.planOn m s' = .ok q)
    (he : s.args = s'.args) : p.root = q.root := by
  obtain ⟨_, hfilter, hlimit, hoffset⟩ := planOn_eq_ok_iff.1 h
  obtain ⟨_, hfilter', hlimit', hoffset'⟩ := planOn_eq_ok_iff.1 h'
  rw [he, hfilter', Except.ok.injEq] at hfilter
  rw [QueryPlan.root, QueryPlan.root, hlimit, hlimit', hoffset, hoffset', hfilter, he]

/-- Selections with the same arguments on all paths of relations have the same plan. -/
theorem planOn_congr (hs : s.Ordered) (hs' : s'.Ordered) (h : r.planOn m s = .ok p)
    (h' : r.planOn m s' = .ok q)
    (he : ∀ path, (r.follow? m path).isSome →
      (s.at? path).map (·.args) = (s'.at? path).map (·.args)) : p = q := by
  apply (ordered_planOn hs h).eq_of_at? (ordered_planOn hs' h')
  intro path
  cases hm : r.follow? m path with
  | none => rw [at?_planOn_eq_none hs h (.inl hm), at?_planOn_eq_none hs' h' (.inl hm)]
  | some m' =>
    have hargs := he path (by simp [hm])
    cases ha : s.at? path with
    | none =>
      have ha' : s'.at? path = none := by simpa [ha, eq_comm] using hargs
      rw [at?_planOn_eq_none hs h (.inr ha), at?_planOn_eq_none hs' h' (.inr ha')]
    | some t =>
      rw [ha, Option.map_some] at hargs
      obtain ⟨t', ha', ht⟩ := Option.map_eq_some_iff.1 hargs.symm
      obtain ⟨p', hp⟩ := exists_planOn_of_at? hs h hm ha
      obtain ⟨q', hq⟩ := exists_planOn_of_at? hs' h' hm ha'
      rw [(at?_planOn hs h).2 ⟨m', t, hm, ha, hp⟩, (at?_planOn hs' h').2 ⟨m', t', hm, ha', hq⟩]
      exact congrArg some (root_eq_of_planOn hp hq ht.symm)

/-- Planning succeeds exactly if every node that relations lead to has a plan of its own. The plan
then has a node where relations lead to a node of the selection, with what that one says, and
nothing else of the selection counts. -/
theorem planOn_mirrors (h : Registry.build decl = .ok r) (hm : m ∈ r.models) (hs : s.Ordered) :
    ((∃ p, r.planOn m s = .ok p) ↔
      ∀ path m' s', r.follow? m path = some m' → s.at? path = some s' → Plannable m' s') ∧
    ∀ p, r.planOn m s = .ok p →
      (∀ path, (p.at? path).isSome ↔ (r.follow? m path).isSome ∧ (s.at? path).isSome) ∧
      (∀ path q, p.at? path = some q → ∃ m' s', r.follow? m path = some m' ∧
        s.at? path = some s' ∧ q.limit = s'.args.limit ∧ q.offset = s'.args.offset ∧
        Filter.optionalPredicate m' s'.args.filter = .ok q.predicate) ∧
      ∀ s' p', s'.Ordered → r.planOn m s' = .ok p' →
        (∀ path, (r.follow? m path).isSome →
          (s.at? path).map (·.args) = (s'.at? path).map (·.args)) → p' = p := by
  have hr := coherent_of_build h
  refine ⟨⟨?_, hr.exists_planOn hm hs⟩, ?_⟩
  · rintro ⟨p, hp⟩ path m' s' hm' hs'
    obtain ⟨q, hq⟩ := exists_planOn_of_at? hs hp hm' hs'
    exact plannable_of_planOn hq
  · intro p hp
    refine ⟨?_, ?_, ?_⟩
    · intro path
      constructor
      · intro hsome
        obtain ⟨q, hq⟩ := Option.isSome_iff_exists.1 hsome
        obtain ⟨m', s', hm', hs', _⟩ := (at?_planOn hs hp).1 hq
        simp [hm', hs']
      · rintro ⟨hm', hs'⟩
        obtain ⟨m', hm'⟩ := Option.isSome_iff_exists.1 hm'
        obtain ⟨s', hs'⟩ := Option.isSome_iff_exists.1 hs'
        obtain ⟨q, hq⟩ := exists_planOn_of_at? hs hp hm' hs'
        simp [(at?_planOn hs hp).2 ⟨m', s', hm', hs', hq⟩]
    · intro path q hq
      obtain ⟨m', s', hm', hs', hplan⟩ := (at?_planOn hs hp).1 hq
      obtain ⟨_, hfilter, hlimit, hoffset⟩ := planOn_eq_ok_iff.1 hplan
      exact ⟨m', s', hm', hs', hlimit, hoffset, hfilter⟩
    · intro s' p' hs' hp' he
      exact (planOn_congr hs hs' hp hp' he).symm

/-- Posts with their authors and the managers of these. A field and a name that asks about the
request have arguments, too. -/
def authors : Selection :=
  let manager := ((Selection.addField {} "id").withLimit 9).withOffset 3
  let typename := (Selection.addField {} "name").withLimit 1
  let author := ((Selection.addChild {} "manager" manager).addChild "__typename" typename).addChild
    "managerId" (Selection.withLimit {} 7)
  ((Selection.addField {} "id").addChild "author" (author.withLimit 5)).withFilter
    (.obj [("id", .obj [("gt", .ofNat 1)])])

theorem ordered_authors : authors.Ordered := by
  have hempty := Selection.ordered_empty
  have hmanager := ((hempty.addField "id").withLimit 9).withOffset 3
  have htypename := (hempty.addField "name").withLimit 1
  have hauthor := ((hempty.addChild "manager" hmanager).addChild "__typename" htypename).addChild
    "managerId" (hempty.withLimit 7)
  exact ((hempty.addField "id").addChild "author" (hauthor.withLimit 5)).withFilter _

theorem planOn_mirrors_authors : ∃ r m p, build blog = .ok r ∧ m ∈ r.models ∧ authors.Ordered ∧
    r.planOn m authors = .ok p ∧ p.paths = [["author"], ["author", "manager"]] ∧
    (∀ path, (p.at? path).isSome ↔ (r.follow? m path).isSome ∧ (authors.at? path).isSome) ∧
    ∀ path q, p.at? path = some q → ∃ m' s', r.follow? m path = some m' ∧
      authors.at? path = some s' ∧ q.limit = s'.args.limit ∧ q.offset = s'.args.offset ∧
      Filter.optionalPredicate m' s'.args.filter = .ok q.predicate := by
  have h : build blog = .ok _ := rfl
  obtain ⟨_, hmirrors⟩ := planOn_mirrors h List.mem_cons_self ordered_authors
  obtain ⟨hpaths, hnodes, _⟩ := hmirrors _ rfl
  exact ⟨_, _, _, h, List.mem_cons_self, ordered_authors, rfl, rfl, hpaths, hnodes⟩

end Registry

end CrudPlan
