import CrudPlan.Text.Cluster
import Mathlib.Data.List.Basic
import Mathlib.Data.List.Induction

namespace CrudPlan.Text

/-- Two lists of pieces one after the other, the last piece of the first continued by the first
piece of the second. -/
def glue {α : Type} : List (List α) → List (List α) → List (List α)
  | [], ys => ys
  | [x], [] => [x]
  | [x], y :: ys => (x ++ y) :: ys
  | x :: x' :: xs, ys => x :: glue (x' :: xs) ys

/-- What a scan for clusters remembers of the text behind it. -/
def scan (j : Joining) (c : ClusterClass) : List Char → Joining × ClusterClass
  | [] => (j, c)
  | x :: rest => scan (j.next (clusterClass x)) (clusterClass x) rest

/-- The class of the last character. The start of a text stands alone as controls do. -/
def lastClass (cs : List Char) : ClusterClass := (scan .none .control cs).2

/-- A text whose first character does not belong to one before it. -/
def BeginsCluster (cs : List Char) : Prop :=
  ∀ x ∈ cs.head?, (clusterClass x).belongsToPrevious = false

section glue

variable {α : Type} {x : List α} {xs ys zs : List (List α)}

@[simp]
theorem glue_nil_cons (h : ys ≠ []) : glue [[]] ys = ys := by
  cases ys with
  | nil => exact absurd rfl h
  | cons y ys => rfl

theorem glue_append_singleton (xs ys : List (List α)) (x y : List α) :
    glue (xs ++ [x]) (y :: ys) = xs ++ (x ++ y) :: ys := by
  induction xs with
  | nil => rfl
  | cons x' xs ih =>
    cases xs with
    | nil => rfl
    | cons x'' xs =>
      have hrest := congrArg (x' :: ·) ih
      exact hrest

theorem glue_nil (h : xs ≠ []) (ys : List (List α)) : glue xs ([] :: ys) = xs ++ ys := by
  obtain ⟨init, last, rfl⟩ := List.eq_nil_or_concat' xs |>.resolve_left h
  rw [glue_append_singleton, List.append_nil, List.append_assoc]
  rfl

theorem glue_ne_nil (h : xs ≠ []) : glue xs ys ≠ [] := by
  fun_cases glue xs ys <;> simp_all

theorem glue_assoc (hy : ys ≠ []) : glue (glue xs ys) zs = glue xs (glue ys zs) := by
  induction xs with
  | nil => rfl
  | cons x xs ih =>
    cases xs with
    | cons x' xs =>
      have hne : glue (x' :: xs) ys ≠ [] := glue_ne_nil (List.cons_ne_nil _ _)
      obtain ⟨w, ws, he⟩ := List.exists_cons_of_ne_nil hne
      rw [glue, glue, ← ih, he, glue]
    | nil =>
      obtain ⟨y, ys, rfl⟩ := List.exists_cons_of_ne_nil hy
      cases ys with
      | cons y' ys => rfl
      | nil =>
        cases zs with
        | nil => rfl
        | cons z zs => simp [glue]

theorem flatten_glue (xs ys : List (List α)) : (glue xs ys).flatten = xs.flatten ++ ys.flatten := by
  fun_induction glue xs ys <;> simp_all

end glue

variable {j : Joining} {c : ClusterClass} {cs ds : List Char} {x : Char}

theorem clustersAfter_ne_nil : clustersAfter j c cs ≠ [] := by
  induction cs generalizing j c with
  | nil => exact List.cons_ne_nil _ _
  | cons x cs ih =>
    obtain ⟨g, gs, he⟩ := List.exists_cons_of_ne_nil (ih (j := j.next (clusterClass x))
      (c := clusterClass x))
    simp only [clustersAfter, he]
    split <;> exact List.cons_ne_nil _ _

theorem clustersAfter_cons (j : Joining) (c : ClusterClass) (x : Char) (cs : List Char) :
    clustersAfter j c (x :: cs) =
      glue (if holdsTogether j c (clusterClass x) then [[x]] else [[], [x]])
        (clustersAfter (j.next (clusterClass x)) (clusterClass x) cs) := by
  have hne : clustersAfter (j.next (clusterClass x)) (clusterClass x) cs ≠ [] :=
    clustersAfter_ne_nil
  obtain ⟨g, gs, he⟩ := List.exists_cons_of_ne_nil hne
  simp only [clustersAfter, he]
  split <;> rfl

theorem clustersAfter_append (j : Joining) (c : ClusterClass) (cs ds : List Char) :
    clustersAfter j c (cs ++ ds) =
      glue (clustersAfter j c cs) (clustersAfter (scan j c cs).1 (scan j c cs).2 ds) := by
  induction cs generalizing j c with
  | nil => exact (glue_nil_cons clustersAfter_ne_nil).symm
  | cons x cs ih =>
    rw [List.cons_append, clustersAfter_cons, clustersAfter_cons, ih,
      glue_assoc clustersAfter_ne_nil]
    rfl

theorem Joining.next_other (j : Joining) : j.next .other = .none := by
  cases j <;> rfl

theorem holdsTogether_control (j : Joining) (c : ClusterClass) :
    holdsTogether j .control c = false := by
  simp [holdsTogether, ClusterClass.standsAlone]

theorem clustersAfter_start (cs : List Char) :
    clustersAfter .none .control cs = [] :: clusters cs := by
  cases cs with
  | nil => rfl
  | cons x cs =>
    -- the start of a text stands alone, which leaves an empty cluster before it
    have halone := holdsTogether_control .none (clusterClass x)
    have hne : clustersAfter (Joining.next .none (clusterClass x)) (clusterClass x) cs ≠ [] :=
      clustersAfter_ne_nil
    obtain ⟨g, gs, he⟩ := List.exists_cons_of_ne_nil hne
    rw [clustersAfter, clusters, he, halone]
    rfl

theorem clusters_append (cs ds : List Char) :
    [] :: clusters (cs ++ ds) = glue ([] :: clusters cs)
      (clustersAfter (scan .none .control cs).1 (lastClass cs) ds) := by
  rw [← clustersAfter_start, clustersAfter_append, clustersAfter_start]
  rfl

theorem scan_append_singleton (j : Joining) (c : ClusterClass) (cs : List Char) (x : Char) :
    (scan j c (cs ++ [x])).2 = clusterClass x := by
  induction cs generalizing j c with
  | nil => rfl
  | cons y cs ih => exact ih _ _

@[simp]
theorem lastClass_append_singleton (cs : List Char) (x : Char) :
    lastClass (cs ++ [x]) = clusterClass x :=
  scan_append_singleton _ _ cs x

theorem lastClass_append_others (hne : ds ≠ []) (h : ∀ x ∈ ds, clusterClass x = .other) :
    lastClass (cs ++ ds) = .other := by
  obtain ⟨init, x, rfl⟩ := List.eq_nil_or_concat' ds |>.resolve_left hne
  rw [← List.append_assoc, lastClass_append_singleton]
  exact h x (by simp)

theorem holdsTogether_other (j : Joining) (c : ClusterClass) :
    holdsTogether j c .other = decide (c = .prepended) := by
  cases c <;> simp [holdsTogether, ClusterClass.standsAlone, ClusterClass.belongsToPrevious]

theorem holdsTogether_prepended (j : Joining) (c : ClusterClass) :
    holdsTogether j c .prepended = decide (c = .prepended) := by
  cases c <;> simp [holdsTogether, ClusterClass.standsAlone, ClusterClass.belongsToPrevious]

theorem clustersAfter_others (hc : c ≠ .prepended) (h : ∀ x ∈ ds, clusterClass x = .other) :
    clustersAfter j c ds = [] :: ds.map ([·]) := by
  induction ds generalizing j c with
  | nil => rfl
  | cons x ds ih =>
    obtain ⟨hx, h⟩ := List.forall_mem_cons.1 h
    rw [clustersAfter_cons, hx, holdsTogether_other, ih (by simp) h]
    simp [hc, glue]

theorem clusters_append_others (hc : lastClass cs ≠ .prepended)
    (h : ∀ x ∈ ds, clusterClass x = .other) :
    clusters (cs ++ ds) = clusters cs ++ ds.map ([·]) := by
  have happend := clusters_append cs ds
  rw [clustersAfter_others hc h, glue_nil (List.cons_ne_nil _ _)] at happend
  exact (List.cons.inj happend).2

theorem clustersAfter_other (h : BeginsCluster ds) :
    clustersAfter .none .other ds = [] :: clusters ds := by
  cases ds with
  | nil => rfl
  | cons x ds =>
    have hx : holdsTogether .none .other (clusterClass x) = false := by
      simp [holdsTogether, h x rfl]
    rw [← clustersAfter_start, clustersAfter_cons, clustersAfter_cons, hx, holdsTogether_control]

/-- A blank is a cluster of its own, and so neither side of it changes the other one. -/
theorem clusters_append_blank (hc : lastClass cs ≠ .prepended) (hd : BeginsCluster ds) :
    clusters (cs ++ ' ' :: ds) = clusters cs ++ [' '] :: clusters ds := by
  have hblank : clusterClass ' ' = .other := by decide +kernel
  have happend := clusters_append cs (' ' :: ds)
  rw [clustersAfter_cons, hblank, holdsTogether_other, Joining.next_other, clustersAfter_other hd,
    decide_eq_false hc] at happend
  have hglue : glue [[], [' ']] ([] :: clusters ds) = [] :: [' '] :: clusters ds := rfl
  rw [if_neg Bool.false_ne_true, hglue, glue_nil (List.cons_ne_nil _ _)] at happend
  exact (List.cons.inj happend).2

theorem clustersAfter_prepended (hx : clusterClass x = .other)
    (h : ∀ x ∈ ds, clusterClass x = .other) :
    clustersAfter j .prepended (x :: ds) = [x] :: ds.map ([·]) := by
  rw [clustersAfter_cons, hx, holdsTogether_other, clustersAfter_others (by simp) h]
  simp [glue]

theorem clusters_append_singleton (cs : List Char) (x : Char) :
    clusters (cs ++ [x]) = clusters cs ++ [[x]] ∨
      ∃ gs g, clusters cs = gs ++ [g] ∧ clusters (cs ++ [x]) = gs ++ [g ++ [x]] := by
  have happend := clusters_append cs [x]
  rw [clustersAfter_cons, clustersAfter] at happend
  split at happend
  · rcases List.eq_nil_or_concat' (clusters cs) with hnil | ⟨gs, g, he⟩
    · rw [hnil] at happend
      simp [glue] at happend
    · rw [he] at happend ⊢
      refine .inr ⟨gs, g, rfl, ?_⟩
      rw [← List.cons_append, glue, glue_append_singleton] at happend
      simpa using happend
  · rw [glue, glue, glue_nil (List.cons_ne_nil _ _)] at happend
    exact .inl (by simpa [glue] using happend)

theorem clusters_of_prepended (hc : lastClass cs = .prepended) :
    ∃ gs g, clusters cs = gs ++ [g] ∧ g ≠ [] ∧ ∀ x ∈ g, clusterClass x = .prepended := by
  induction cs using List.reverseRecOn with
  | nil => cases hc
  | append_singleton cs x ih =>
    rw [lastClass_append_singleton] at hc
    have happend := clusters_append cs [x]
    rw [clustersAfter_cons, clustersAfter, hc, holdsTogether_prepended] at happend
    -- a prepended character joins the cluster before it only if that ends in one
    by_cases hlast : lastClass cs = .prepended
    · obtain ⟨gs, g, he, _, hg⟩ := ih hlast
      rw [hlast, he, ← List.cons_append] at happend
      simp only [decide_true, if_true, glue, glue_append_singleton] at happend
      refine ⟨gs, g ++ [x], by simpa using happend, by simp, ?_⟩
      intro y hy
      rcases List.mem_append.1 hy with hy | hy
      · exact hg y hy
      · rwa [List.mem_singleton.1 hy]
    · simp only [hlast, decide_false, Bool.false_eq_true, if_false, glue] at happend
      rw [glue_nil (List.cons_ne_nil _ _)] at happend
      refine ⟨clusters cs, [x], by simpa using happend, by simp, ?_⟩
      simpa using hc

theorem clusters_append_prepended {gs : List (List Char)} {g : List Char}
    (hc : lastClass cs = .prepended) (hcs : clusters cs = gs ++ [g]) (hx : clusterClass x = .other)
    (h : ∀ x ∈ ds, clusterClass x = .other) :
    clusters (cs ++ x :: ds) = gs ++ (g ++ [x]) :: ds.map ([·]) := by
  have happend := clusters_append cs (x :: ds)
  rw [hc, clustersAfter_prepended hx h, hcs, ← List.cons_append, glue_append_singleton] at happend
  exact (List.cons.inj happend).2

end CrudPlan.Text
