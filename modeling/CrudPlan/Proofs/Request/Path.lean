import CrudPlan.Proofs.Data.Entries
import CrudPlan.Request.Plan

namespace CrudPlan

variable {name : String}

namespace Selection

/-- The names of children ascend at every level. -/
inductive Ordered : Selection → Prop
  | intro {args children} (names : Entries.Sorted children)
      (below : ∀ e ∈ children, Ordered e.2) : Ordered ⟨args, children⟩

/-- The node under a path of names. -/
def at? : Selection → List String → Option Selection
  | s, [] => some s
  | s, name :: path => (s.children.lookup name).bind (·.at? path)

@[elab_as_elim]
theorem induction {motive : Selection → Prop}
    (intro : ∀ args children, (∀ e ∈ children, motive e.2) → motive ⟨args, children⟩)
    (s : Selection) : motive s :=
  @Selection.rec motive (fun children => ∀ e ∈ children, motive e.2) (fun e => motive e.2) intro
    (List.forall_mem_nil _) (fun _ _ h ih => List.forall_mem_cons.2 ⟨h, ih⟩) (fun _ _ h => h) s

variable {s s' : Selection} {path : List String}

theorem Ordered.names (h : s.Ordered) : Entries.Sorted s.children := by
  cases h with
  | intro names _ => exact names

theorem Ordered.child (h : s.Ordered) {child : Selection} (hc : (name, child) ∈ s.children) :
    child.Ordered := by
  cases h with
  | intro _ below => exact below _ hc

theorem at?_cons_eq_some_iff :
    s.at? (name :: path) = some s' ↔
      ∃ child, s.children.lookup name = some child ∧ child.at? path = some s' := by
  rw [at?, Option.bind_eq_some_iff]

end Selection

namespace QueryPlan

/-- The names of relations ascend at every level. -/
inductive Ordered : QueryPlan → Prop
  | intro {limit offset predicate eagerLoad} (names : Entries.Sorted eagerLoad)
      (below : ∀ e ∈ eagerLoad, Ordered e.2) : Ordered ⟨limit, offset, predicate, eagerLoad⟩

/-- The node under a path of names. -/
def at? : QueryPlan → List String → Option QueryPlan
  | p, [] => some p
  | p, name :: path => (p.eagerLoad.lookup name).bind (·.at? path)

/-- The paths of all nodes below the root, a node before the nodes below it. -/
def paths : QueryPlan → List (List String)
  | ⟨_, _, _, eagerLoad⟩ => level eagerLoad
where
  level : List (String × QueryPlan) → List (List String)
    | [] => []
    | (name, p) :: rest => [name] :: p.paths.map (name :: ·) ++ level rest

@[elab_as_elim]
theorem induction {motive : QueryPlan → Prop}
    (intro : ∀ limit offset predicate eagerLoad, (∀ e ∈ eagerLoad, motive e.2) →
      motive ⟨limit, offset, predicate, eagerLoad⟩)
    (p : QueryPlan) : motive p :=
  @QueryPlan.rec motive (fun eagerLoad => ∀ e ∈ eagerLoad, motive e.2) (fun e => motive e.2) intro
    (List.forall_mem_nil _) (fun _ _ h ih => List.forall_mem_cons.2 ⟨h, ih⟩) (fun _ _ h => h) p

variable {p q : QueryPlan} {path : List String} {eagerLoad : List (String × QueryPlan)}

theorem Ordered.names (h : p.Ordered) : Entries.Sorted p.eagerLoad := by
  cases h with
  | intro names _ => exact names

theorem Ordered.child (h : p.Ordered) {child : QueryPlan} (hc : (name, child) ∈ p.eagerLoad) :
    child.Ordered := by
  cases h with
  | intro _ below => exact below _ hc

theorem at?_cons_eq_some_iff :
    p.at? (name :: path) = some q ↔
      ∃ child, p.eagerLoad.lookup name = some child ∧ child.at? path = some q := by
  rw [at?, Option.bind_eq_some_iff]

/-- What a node says apart from the nodes below it. -/
def root (p : QueryPlan) : Option UInt64 × Option UInt64 × Option Predicate :=
  (p.limit, p.offset, p.predicate)

/-- Plans whose nodes say the same under every path are equal. -/
theorem Ordered.eq_of_at? (hp : p.Ordered) (hq : q.Ordered)
    (h : ∀ path, (p.at? path).map root = (q.at? path).map root) : p = q := by
  induction p using QueryPlan.induction generalizing q with
  | intro limit offset predicate eagerLoad ih =>
    obtain ⟨limit', offset', predicate', eagerLoad'⟩ := q
    have hroot := h []
    simp only [at?, root, Option.map_some, Option.some.injEq, Prod.mk.injEq] at hroot
    obtain ⟨rfl, rfl, rfl⟩ := hroot
    suffices he : eagerLoad = eagerLoad' by rw [he]
    apply hp.names.eq_of_lookup hq.names
    intro name
    have hname (path : List String) :
        ((eagerLoad.lookup name).bind (·.at? path)).map root =
          ((eagerLoad'.lookup name).bind (·.at? path)).map root := h (name :: path)
    cases hc : eagerLoad.lookup name with
    | none =>
      cases hc' : eagerLoad'.lookup name with
      | none => rfl
      | some q =>
        have hnil := hname []
        simp [hc, hc', at?] at hnil
    | some p =>
      cases hc' : eagerLoad'.lookup name with
      | none =>
        have hnil := hname []
        simp [hc, hc', at?] at hnil
      | some q =>
        have hmem := Entries.mem_of_lookup_eq_some hc
        have hmem' := Entries.mem_of_lookup_eq_some hc'
        have hsub (path : List String) : (p.at? path).map root = (q.at? path).map root := by
          simpa [hc, hc'] using hname path
        exact congrArg some (ih _ hmem (hp.child hmem) (hq.child hmem') hsub)

theorem mem_level_iff {path : List String} :
    path ∈ paths.level eagerLoad ↔ ∃ name p rest, (name, p) ∈ eagerLoad ∧ path = name :: rest ∧
      (rest = [] ∨ rest ∈ p.paths) := by
  induction eagerLoad with
  | nil => simp [paths.level]
  | cons e eagerLoad ih =>
    obtain ⟨name, p⟩ := e
    rw [paths.level, List.cons_append, List.mem_cons, List.mem_append, List.mem_map, ih]
    constructor
    · rintro (rfl | ⟨rest, hrest, rfl⟩ | ⟨name', p', rest, hmem, rfl, hrest⟩)
      · exact ⟨name, p, [], List.mem_cons_self, rfl, .inl rfl⟩
      · exact ⟨name, p, rest, List.mem_cons_self, rfl, .inr hrest⟩
      · exact ⟨name', p', rest, List.mem_cons_of_mem _ hmem, rfl, hrest⟩
    · rintro ⟨name', p', rest, hmem, rfl, hrest⟩
      rcases List.mem_cons.1 hmem with he | hmem
      · cases he
        rcases hrest with rfl | hrest
        · exact .inl rfl
        · exact .inr (.inl ⟨rest, hrest, rfl⟩)
      · exact .inr (.inr ⟨name', p', rest, hmem, rfl, hrest⟩)

/-- The paths of a plan are the paths of its nodes, without that of the root. -/
theorem Ordered.mem_paths_iff (h : p.Ordered) :
    path ∈ p.paths ↔ path ≠ [] ∧ (p.at? path).isSome := by
  induction p using QueryPlan.induction generalizing path with
  | intro limit offset predicate eagerLoad ih =>
    rw [paths, mem_level_iff]
    constructor
    · rintro ⟨name, p, rest, hmem, rfl, hrest⟩
      refine ⟨List.cons_ne_nil _ _, ?_⟩
      rw [at?, h.names.lookup_eq_some_iff.2 hmem, Option.bind_some]
      rcases hrest with rfl | hrest
      · rfl
      · exact ((ih _ hmem (h.child hmem)).1 hrest).2
    · rintro ⟨hne, hsome⟩
      obtain ⟨name, rest, rfl⟩ := List.exists_cons_of_ne_nil hne
      obtain ⟨q, hq⟩ := Option.isSome_iff_exists.1 hsome
      obtain ⟨p, hp, hq⟩ := at?_cons_eq_some_iff.1 hq
      have hmem := h.names.lookup_eq_some_iff.1 hp
      refine ⟨name, p, rest, hmem, rfl, ?_⟩
      by_cases hrest : rest = []
      · exact .inl hrest
      · exact .inr ((ih _ hmem (h.child hmem)).2 ⟨hrest, by simp [hq]⟩)

theorem pairwise_level (hs : Entries.Sorted eagerLoad)
    (h : ∀ e ∈ eagerLoad, e.2.paths.Pairwise (· < ·) ∧ [] ∉ e.2.paths) :
    (paths.level eagerLoad).Pairwise (· < ·) := by
  induction eagerLoad with
  | nil => exact .nil
  | cons e eagerLoad ih =>
    obtain ⟨name, p⟩ := e
    obtain ⟨hlt, hs⟩ := List.pairwise_cons.1 hs
    obtain ⟨hp, h⟩ := List.forall_mem_cons.1 h
    -- later blocks start with later names
    have hlater : ∀ path ∈ paths.level eagerLoad, ∀ rest, name :: rest < path := by
      intro path hpath rest
      obtain ⟨name', p', rest', hmem, rfl, _⟩ := mem_level_iff.1 hpath
      exact List.cons_lt_cons_iff.2 (.inl (hlt _ hmem))
    rw [paths.level, List.cons_append]
    refine List.pairwise_cons.2 ⟨?_, List.pairwise_append.2 ⟨?_, ih hs h, ?_⟩⟩
    · intro path hpath
      rcases List.mem_append.1 hpath with hpath | hpath
      · obtain ⟨rest, hrest, rfl⟩ := List.mem_map.1 hpath
        obtain ⟨c, cs, rfl⟩ := List.exists_cons_of_ne_nil fun he => hp.2 (he ▸ hrest)
        exact List.cons_lt_cons_iff.2 (.inr ⟨rfl, List.nil_lt_cons c cs⟩)
      · exact hlater path hpath []
    · refine List.pairwise_map.2 (hp.1.imp ?_)
      intro a b hab
      exact List.cons_lt_cons_iff.2 (.inr ⟨rfl, hab⟩)
    · intro a ha path hpath
      obtain ⟨rest, _, rfl⟩ := List.mem_map.1 ha
      exact hlater path hpath rest

theorem Ordered.pairwise_paths (h : p.Ordered) : p.paths.Pairwise (· < ·) := by
  induction p using QueryPlan.induction with
  | intro limit offset predicate eagerLoad ih =>
    apply pairwise_level h.names
    intro e he
    exact ⟨ih e he (h.child he), fun hnil => ((h.child he).mem_paths_iff.1 hnil).1 rfl⟩

end QueryPlan

namespace Registry

variable {r : Registry} {m m' : Model} {path : List String}

/-- The model that a path of relations leads to. -/
def follow? (r : Registry) : Model → List String → Option Model
  | m, [] => some m
  | m, name :: path => do
    let relation ← m.relation? name
    let foreign ← r.foreignModel? relation
    r.follow? foreign path

theorem follow?_cons_eq_some_iff :
    r.follow? m (name :: path) = some m' ↔ ∃ x, m.relation? name = some x ∧
      ∃ foreign, r.foreignModel? x = some foreign ∧ r.follow? foreign path = some m' := by
  simp [follow?, Option.bind_eq_some_iff]

end Registry

end CrudPlan
