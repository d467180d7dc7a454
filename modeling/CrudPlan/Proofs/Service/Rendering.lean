import CrudPlan.Proofs.Request.Scope
import CrudPlan.Proofs.Service.Preparation
import CrudPlan.Proofs.Sql.Statements
import CrudPlan.Service.Crud

namespace CrudPlan

open Sql

variable {decl : Declaration} {r : Registry} {m : Model} {s : Selection} {p q : QueryPlan}
  {name : String} {path : List String} {es : List (String × QueryPlan)} {keys : List Value}
  {statement : Statement} {service : Service} {op : PreparedOperation}

/-- A path in one text, behind the name of the model where it starts. -/
def pathText (start : String) (path : List String) : String :=
  path.foldl (fun text name => text ++ "." ++ name) start

namespace Registry

/-- Every node of a plan is on a model, and its predicate keeps to the fields of that model. -/
structure Fits (r : Registry) (m : Model) (p : QueryPlan) : Prop where
  ordered : p.Ordered
  known : ∀ path q, p.at? path = some q → ∃ m', r.follow? m path = some m' ∧ m'.Knows q.predicate

/-- The statements for a plan on a model are there, those of its relations for any keys. -/
structure Renders (r : Registry) (m : Model) (p : QueryPlan) : Prop where
  select : ∃ s, m.selectRows p = .ok s
  count : ∃ s, m.countRows p = .ok s
  related : ∀ path name q, p.at? (path ++ [name]) = some q → ∃ m' x, r.follow? m path = some m' ∧
    m'.relation? name = some x ∧ ∀ keys, ∃ s, r.selectRelated x q keys = .ok s

/-- A statement is that of the relation and of the plan's node under a path. -/
def Shows (r : Registry) (keys : List Value) (m : Model) (p : QueryPlan) (path : List String)
    (statement : Statement) : Prop :=
  ∃ front name m' x q, path = front ++ [name] ∧ r.follow? m front = some m' ∧
    m'.relation? name = some x ∧ p.at? path = some q ∧ r.selectRelated x q keys = .ok statement

theorem follow?_append {back : List String} :
    r.follow? m (path ++ back) = (r.follow? m path).bind (r.follow? · back) := by
  induction path generalizing m with
  | nil => rfl
  | cons name path ih =>
    simp only [List.cons_append, follow?, ih, Option.bind_eq_bind, Option.bind_assoc]

theorem follow?_append_singleton_eq_some_iff {foreign : Model} :
    r.follow? m (path ++ [name]) = some foreign ↔ ∃ m', r.follow? m path = some m' ∧
      ∃ x, m'.relation? name = some x ∧ r.foreignModel? x = some foreign := by
  rw [follow?_append, Option.bind_eq_some_iff]
  simp [follow?, Option.bind_eq_some_iff]

theorem mem_of_follow? (hm : m ∈ r.models) {m' : Model} (h : r.follow? m path = some m') :
    m' ∈ r.models := by
  induction path generalizing m with
  | nil =>
    cases h
    exact hm
  | cons name path ih =>
    obtain ⟨x, hx, foreign, hforeign, h⟩ := follow?_cons_eq_some_iff.1 h
    exact ih (List.mem_of_getElem? hforeign) h

theorem fits_of_planOn (hs : s.Ordered) (h : r.planOn m s = .ok p) : r.Fits m p := by
  refine ⟨ordered_planOn hs h, ?_⟩
  intro path q hq
  obtain ⟨m', s', hm', _, hplan⟩ := (at?_planOn hs h).1 hq
  obtain ⟨_, hfilter, _⟩ := planOn_eq_ok_iff.1 hplan
  exact ⟨m', hm', Filter.optionalPredicate_keepsTo m' _ _ hfilter⟩

theorem Fits.knows (h : r.Fits m p) : m.Knows p.predicate := by
  obtain ⟨m', hm', hknows⟩ := h.known [] p rfl
  cases hm'
  exact hknows

theorem Fits.child (h : r.Fits m p) (hq : (name, q) ∈ p.eagerLoad) :
    ∃ x, m.relation? name = some x ∧ ∃ foreign, r.foreignModel? x = some foreign ∧
      r.Fits foreign q := by
  have hlookup := h.ordered.names.lookup_eq_some_iff.2 hq
  have hat (path : List String) (q' : QueryPlan) (hq' : q.at? path = some q') :
      p.at? (name :: path) = some q' := QueryPlan.at?_cons_eq_some_iff.2 ⟨q, hlookup, hq'⟩
  obtain ⟨m', hm', _⟩ := h.known [name] q (hat [] q rfl)
  obtain ⟨x, hx, foreign, hforeign, _⟩ := follow?_cons_eq_some_iff.1 hm'
  refine ⟨x, hx, foreign, hforeign, h.ordered.child hq, ?_⟩
  intro path q' hq'
  obtain ⟨m', hm', hknows⟩ := h.known (name :: path) q' (hat path q' hq')
  obtain ⟨x', hx', foreign', hforeign', hm'⟩ := follow?_cons_eq_some_iff.1 hm'
  cases hx.symm.trans hx'
  cases hforeign.symm.trans hforeign'
  exact ⟨m', hm', hknows⟩

theorem Coherent.exists_selectRelated_iff (hr : r.Coherent) (hm : m ∈ r.models) {x : Relation}
    {foreign : Model} (hx : m.relation? name = some x)
    (hforeign : r.foreignModel? x = some foreign) :
    (∃ s, r.selectRelated x p keys = .ok s) ↔ foreign.Knows p.predicate := by
  obtain ⟨foreign', _, _, join, _, hforeign', _, heq⟩ :=
    hr.selectRelated hm (List.mem_of_find?_eq_some hx)
  cases hforeign.symm.trans hforeign'
  rw [heq]
  exact Model.exists_relatedStatement_iff

theorem Coherent.renders (hr : r.Coherent) (hm : m ∈ r.models) (h : r.Fits m p) :
    r.Renders m p := by
  refine ⟨Model.exists_selectRows_iff.2 h.knows, Model.exists_countRows_iff.2 h.knows, ?_⟩
  intro path name q hq
  obtain ⟨foreign, hpath, hknows⟩ := h.known _ q hq
  obtain ⟨m', hm', x, hx, hforeign⟩ := follow?_append_singleton_eq_some_iff.1 hpath
  refine ⟨m', x, hm', hx, ?_⟩
  intro keys
  exact (hr.exists_selectRelated_iff (mem_of_follow? hm hm') hx hforeign).2 hknows

theorem Shows.below {x : Relation} {foreign : Model} (hq : p.eagerLoad.lookup name = some q)
    (hx : m.relation? name = some x) (hforeign : r.foreignModel? x = some foreign)
    (h : r.Shows keys foreign q path statement) : r.Shows keys m p (name :: path) statement := by
  obtain ⟨front, last, m', x', q', rfl, hm', hx', hq', hs⟩ := h
  refine ⟨name :: front, last, m', x', q', rfl, ?_, hx', ?_, hs⟩
  · exact follow?_cons_eq_some_iff.2 ⟨x, hx, foreign, hforeign, hm'⟩
  · exact QueryPlan.at?_cons_eq_some_iff.2 ⟨q, hq, hq'⟩

/-- There is a statement for each of the paths, in their order. -/
def ShowsAll (r : Registry) (keys : List Value) (m : Model) (p : QueryPlan) (start : String) :
    List (List String) → List (String × Statement) → Prop :=
  List.Forall₂ fun path e => e.1 = pathText start path ∧ r.Shows keys m p path e.2

theorem Coherent.selectLevel (hr : r.Coherent) (hm : m ∈ r.models) (h : r.Fits m p) (start : String)
    (hsub : ∀ e ∈ es, e ∈ p.eagerLoad)
    (hbelow : ∀ e ∈ es, ∀ m' ∈ r.models, r.Fits m' e.2 → ∀ start,
      ∃ related, r.selectAllRelated keys m' start e.2 = .ok related ∧
        r.ShowsAll keys m' e.2 start e.2.paths related) :
    ∃ related, selectAllRelated.level r keys m start es = .ok related ∧
      r.ShowsAll keys m p start (QueryPlan.paths.level es) related := by
  induction es with
  | nil => exact ⟨[], rfl, .nil⟩
  | cons e es ih =>
    obtain ⟨name, q⟩ := e
    obtain ⟨hmem, hsub⟩ := List.forall_mem_cons.1 hsub
    obtain ⟨hq, hbelow⟩ := List.forall_mem_cons.1 hbelow
    obtain ⟨x, hx, foreign, hforeign, hfits⟩ := h.child hmem
    have hlookup := h.ordered.names.lookup_eq_some_iff.2 hmem
    have hfound := List.mem_of_getElem? hforeign
    have hknows : ∃ s, r.selectRelated x q keys = .ok s :=
      (hr.exists_selectRelated_iff hm hx hforeign).2 hfits.knows
    obtain ⟨statement, hstatement⟩ := hknows
    obtain ⟨below, hselect, hshows⟩ := hq foreign hfound hfits (start ++ "." ++ name)
    obtain ⟨rest, hlevel, hrest⟩ := ih hsub hbelow
    refine ⟨(start ++ "." ++ name, statement) :: below ++ rest, ?_, ?_⟩
    · simp [selectAllRelated.level, hx, hstatement, hforeign, hselect, hlevel, bind, Except.bind,
        pure, Except.pure]
    · have hself : r.Shows keys m p [name] statement :=
        ⟨[], name, m, x, q, rfl, rfl, hx, QueryPlan.at?_cons_eq_some_iff.2 ⟨q, hlookup, rfl⟩,
          hstatement⟩
      refine .cons ⟨rfl, hself⟩ (List.rel_append ?_ hrest)
      rw [List.forall₂_map_left_iff]
      refine hshows.imp ?_
      rintro path e ⟨htext, hs⟩
      exact ⟨htext, hs.below hlookup hx hforeign⟩

theorem Coherent.selectAllRelated (hr : r.Coherent) (hm : m ∈ r.models) (h : r.Fits m p)
    (keys : List Value) (start : String) :
    ∃ related, r.selectAllRelated keys m start p = .ok related ∧
      r.ShowsAll keys m p start p.paths related := by
  induction p using QueryPlan.induction generalizing m start with
  | intro limit offset predicate eagerLoad ih =>
    apply hr.selectLevel hm h start fun e he => he
    intro e he m' hm' hfits start'
    exact ih e he hm' hfits start'

theorem Coherent.render (hr : r.Coherent) (hm : r.get? op.model = some m) (h : r.Fits m op.plan) :
    ∃ rendered, r.render op = .ok rendered ∧
      r.ShowsAll [.null] m op.plan m.name op.plan.paths rendered.related := by
  have hmem := ((hr.get?_eq_some_iff _ _).1 hm).1
  obtain ⟨⟨select, hselect⟩, ⟨count, hcount⟩, _⟩ := hr.renders hmem h
  obtain ⟨related, hrelated, hshows⟩ := hr.selectAllRelated hmem h [.null] m.name
  cases hk : op.kind <;>
    simp [Registry.render, hm, hselect, hcount, hrelated, hk, bind, Except.bind, pure, Except.pure,
      Except.map, hshows]

/-- A node at the root may say something else, as long as it keeps to the fields of the model. -/
theorem Fits.withRoot (h : r.Fits m p) (hknows : m.Knows q.predicate)
    (he : q.eagerLoad = p.eagerLoad) : r.Fits m q := by
  obtain ⟨_, _, _, eagerLoad⟩ := p
  obtain ⟨_, _, _, _⟩ := q
  cases he
  refine ⟨.intro h.ordered.names fun e he => h.ordered.child he, ?_⟩
  intro path q' hq'
  cases path with
  | nil =>
    cases hq'
    exact ⟨m, rfl, hknows⟩
  | cons name path => exact h.known (name :: path) q' hq'

end Registry

namespace Model

theorem Sound.knows_byKey (hs : m.Sound) {o : Option Predicate} (h : m.Knows o) (key : Json) :
    m.Knows (Predicate.all (o.toList ++ [.compare m.primaryKey.name .equals key])) := by
  have hfield : m.hasField m.primaryKey.name :=
    hasField_iff.2 ⟨_, hs.field?_eq_some_iff.2 ⟨hs.primaryKey_mem, rfl⟩⟩
  rw [Knows, Predicate.leavesOfAll_all, Predicate.leavesOfAll_append]
  exact List.forall_mem_append.2 ⟨h, List.forall_mem_singleton.2 hfield⟩

end Model

namespace Service

variable {model : String} {key : Json} {args : Args}

theorem of_planned_eq_ok {kind : OperationKind} {f : Model → Except PlanError QueryPlan}
    (h : (match service.registry.get? model with
      | none => .error (.modelNotFound model)
      | some m => (f m).map (⟨kind.operationName model, kind, m.name, ·⟩) :
        Except PlanError PreparedOperation) = .ok op) :
    ∃ m, service.registry.get? model = some m ∧ op.model = m.name ∧ f m = .ok op.plan := by
  split at h
  · cases h
  · rename_i m hm
    obtain ⟨plan, hplan, rfl⟩ := map_eq_ok_iff.1 h
    exact ⟨m, hm, rfl, hplan⟩

theorem of_getOne_eq_ok (hi : service.interceptors = []) (h : service.getOne model key s = .ok op) :
    ∃ m, service.registry.get? model = some m ∧ op.model = m.name ∧
      service.planOne m s key = .ok op.plan :=
  of_planned_eq_ok ((getOne_eq hi).symm.trans h)

theorem of_getMany_eq_ok (hi : service.interceptors = [])
    (h : service.getMany model args s = .ok op) :
    ∃ m, service.registry.get? model = some m ∧ op.model = m.name ∧
      service.planMany m s args = .ok op.plan :=
  of_planned_eq_ok ((getMany_eq hi).symm.trans h)

theorem fits_planOne (hm : m.Sound) (hs : s.Ordered) (h : service.planOne m s key = .ok p) :
    service.registry.Fits m p := by
  obtain ⟨plan, hplan, he⟩ := bind_eq_ok_iff.1 h
  cases he
  have hfits := Registry.fits_of_planOn hs hplan
  exact hfits.withRoot (hm.knows_byKey hfits.knows key) rfl

theorem fits_planMany (hs : s.Ordered) (h : service.planMany m s args = .ok p) :
    service.registry.Fits m p :=
  Registry.fits_of_planOn (hs.withArgs _) h

end Service

/-- Whatever is planned has its statements, at every node and for all parent keys. Rendering an
operation that is prepared without interceptors gives one statement for each node below the root, in
the order of the paths. -/
theorem plans_render (h : Registry.build decl = .ok r) :
    (∀ name s p, s.Ordered → r.planFor name s = .ok p →
      ∃ m, r.get? name = some m ∧ r.Renders m p) ∧
    ∀ (service : Service) model s op, service.registry = r → service.interceptors = [] →
      s.Ordered →
      ((∃ key, service.getOne model key s = .ok op) ∨
        ∃ args, service.getMany model args s = .ok op) →
      ∃ m, r.get? op.model = some m ∧ r.Renders m op.plan ∧
        (∀ path, path ∈ op.plan.paths ↔ path ≠ [] ∧ (op.plan.at? path).isSome) ∧
        op.plan.paths.Pairwise (· < ·) ∧
        ∃ rendered, r.render op = .ok rendered ∧
          r.ShowsAll [.null] m op.plan m.name op.plan.paths rendered.related := by
  have hr := Registry.coherent_of_build h
  constructor
  · intro name s p hs hp
    unfold Registry.planFor at hp
    split at hp
    · cases hp
    · rename_i m hm
      have hmem := ((hr.get?_eq_some_iff name m).1 hm).1
      exact ⟨m, hm, hr.renders hmem (Registry.fits_of_planOn hs hp)⟩
  · rintro service model s op rfl hi hs hop
    have hfits : ∃ m, service.registry.get? op.model = some m ∧
        service.registry.Fits m op.plan := by
      rcases hop with ⟨key, hop⟩ | ⟨args, hop⟩
      · obtain ⟨m, hm, hname, hplan⟩ := Service.of_getOne_eq_ok hi hop
        have hmem := ((hr.get?_eq_some_iff _ m).1 hm).1
        refine ⟨m, (hr.get?_eq_some_iff _ m).2 ⟨hmem, hname.symm⟩, ?_⟩
        exact Service.fits_planOne (hr.sound m hmem) hs hplan
      · obtain ⟨m, hm, hname, hplan⟩ := Service.of_getMany_eq_ok hi hop
        have hmem := ((hr.get?_eq_some_iff _ m).1 hm).1
        refine ⟨m, (hr.get?_eq_some_iff _ m).2 ⟨hmem, hname.symm⟩, ?_⟩
        exact Service.fits_planMany hs hplan
    obtain ⟨m, hm, hfits⟩ := hfits
    have hmem := ((hr.get?_eq_some_iff _ m).1 hm).1
    exact ⟨m, hm, hr.renders hmem hfits, fun path => hfits.ordered.mem_paths_iff,
      hfits.ordered.pairwise_paths, hr.render hm hfits⟩

theorem plans_render_authors : ∃ r op rendered, Registry.build blog = .ok r ∧
    Service.getOne { registry := r } "posts" (.ofNat 7) Registry.authors = .ok op ∧
    op.plan.paths = [["author"], ["author", "manager"]] ∧ r.render op = .ok rendered ∧
    ∃ m, r.get? "posts" = some m ∧
      r.ShowsAll [.null] m op.plan "posts" op.plan.paths rendered.related := by
  have h : Registry.build blog = .ok _ := rfl
  obtain ⟨m, hm, _, _, _, rendered, hrendered, hshows⟩ := (plans_render h).2 { registry := _ }
    "posts" Registry.authors _ rfl rfl Registry.ordered_authors (.inl ⟨.ofNat 7, rfl⟩)
  cases hm
  exact ⟨_, _, rendered, h, rfl, rfl, hrendered, _, rfl, hshows⟩

end CrudPlan
