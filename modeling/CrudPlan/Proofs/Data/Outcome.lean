import Mathlib.Data.List.Forall2

namespace CrudPlan

universe u v w

variable {ε : Type u} {α : Type v} {β : Type w}

theorem bind_eq_ok_iff {α β : Type v} {x : Except ε α} {f : α → Except ε β} {b : β} :
    x >>= f = .ok b ↔ ∃ a, x = .ok a ∧ f a = .ok b := by
  cases x with
  | error e => simp [bind, Except.bind]
  | ok a => simp [bind, Except.bind]

theorem bind_eq_error_iff {α β : Type v} {x : Except ε α} {f : α → Except ε β} {e : ε} :
    x >>= f = .error e ↔ x = .error e ∨ ∃ a, x = .ok a ∧ f a = .error e := by
  cases x with
  | error e => simp [bind, Except.bind]
  | ok a => simp [bind, Except.bind]

/-- What cannot fail decides nothing about the success of the step before it. -/
theorem exists_bind_eq_ok_iff {α β : Type v} {x : Except ε α} {f : α → Except ε β}
    (hf : ∀ a, ∃ b, f a = .ok b) : (∃ b, x >>= f = .ok b) ↔ ∃ a, x = .ok a := by
  constructor
  · rintro ⟨b, hb⟩
    obtain ⟨a, ha, _⟩ := bind_eq_ok_iff.1 hb
    exact ⟨a, ha⟩
  · rintro ⟨a, ha⟩
    obtain ⟨b, hb⟩ := hf a
    exact ⟨b, bind_eq_ok_iff.2 ⟨a, ha, hb⟩⟩

/-- Nor does it decide about the error. -/
theorem bind_eq_error_iff_left {α β : Type v} {x : Except ε α} {f : α → Except ε β} {e : ε}
    (hf : ∀ a, ∃ b, f a = .ok b) : x >>= f = .error e ↔ x = .error e := by
  apply bind_eq_error_iff.trans
  apply or_iff_left
  intro ⟨a, _, he⟩
  obtain ⟨b, hb⟩ := hf a
  cases he.symm.trans hb

theorem map_eq_ok_iff {x : Except ε α} {f : α → β} {b : β} :
    x.map f = .ok b ↔ ∃ a, x = .ok a ∧ f a = b := by
  cases x with
  | error e => simp [Except.map]
  | ok a => simp [Except.map]

theorem mapError_eq_ok_iff {δ : Type w} {x : Except ε α} {f : ε → δ} {a : α} :
    x.mapError f = .ok a ↔ x = .ok a := by
  cases x <;> simp [Except.mapError]

theorem mapM_eq_ok_iff {β : Type v} {f : α → Except ε β} {xs : List α} {ys : List β} :
    xs.mapM f = .ok ys ↔ List.Forall₂ (fun x y => f x = .ok y) xs ys := by
  induction xs generalizing ys with
  | nil => cases ys <;> simp [pure, Except.pure]
  | cons x xs ih =>
    simp only [List.mapM_cons, bind_eq_ok_iff, pure, Except.pure, Except.ok.injEq]
    constructor
    · rintro ⟨y, hy, zs, hzs, rfl⟩
      exact .cons hy (ih.1 hzs)
    · rintro (_ | ⟨hy, hzs⟩)
      exact ⟨_, hy, _, ih.2 hzs, rfl⟩

theorem exists_mapM_eq_ok_iff {β : Type v} {f : α → Except ε β} {xs : List α} :
    (∃ ys, xs.mapM f = .ok ys) ↔ ∀ x ∈ xs, ∃ y, f x = .ok y := by
  simp only [mapM_eq_ok_iff]
  induction xs with
  | nil => simp
  | cons x xs ih =>
    rw [List.forall_mem_cons, ← ih]
    constructor
    · rintro ⟨_, _ | ⟨hy, hzs⟩⟩
      exact ⟨⟨_, hy⟩, _, hzs⟩
    · rintro ⟨⟨y, hy⟩, zs, hzs⟩
      exact ⟨y :: zs, .cons hy hzs⟩

/-- A failure is that of the first element that fails. -/
theorem mapM_eq_error_iff {β : Type v} {f : α → Except ε β} {xs : List α} {e : ε} :
    xs.mapM f = .error e ↔ ∃ before x after, xs = before ++ x :: after ∧
      (∀ y ∈ before, ∃ b, f y = .ok b) ∧ f x = .error e := by
  induction xs with
  | nil => simp [pure, Except.pure]
  | cons x xs ih =>
    rw [List.mapM_cons, bind_eq_error_iff]
    constructor
    · intro h
      rcases h with hx | ⟨b, hb, h⟩
      · exact ⟨[], x, xs, rfl, List.forall_mem_nil _, hx⟩
      · have hrest := (bind_eq_error_iff_left fun _ => ⟨_, rfl⟩).1 h
        obtain ⟨before, y, after, rfl, hbefore, hy⟩ := ih.1 hrest
        exact ⟨x :: before, y, after, rfl, List.forall_mem_cons.2 ⟨⟨b, hb⟩, hbefore⟩, hy⟩
    · intro ⟨before, y, after, he, hbefore, hy⟩
      cases before with
      | nil =>
        cases he
        exact .inl hy
      | cons z before =>
        cases he
        obtain ⟨⟨b, hb⟩, hbefore⟩ := List.forall_mem_cons.1 hbefore
        have hrest := ih.2 ⟨before, y, after, rfl, hbefore, hy⟩
        exact .inr ⟨b, hb, (bind_eq_error_iff_left fun _ => ⟨_, rfl⟩).2 hrest⟩

/-- A failure is that of one of the elements. -/
theorem exists_of_mapM_eq_error {β : Type v} {f : α → Except ε β} {xs : List α} {e : ε}
    (h : xs.mapM f = .error e) : ∃ x ∈ xs, f x = .error e := by
  obtain ⟨before, x, after, rfl, _, hx⟩ := mapM_eq_error_iff.1 h
  exact ⟨x, List.mem_append_right before List.mem_cons_self, hx⟩

theorem exists_of_forall₂_left {β : Type v} {R : α → β → Prop} {xs : List α} {ys : List β}
    (h : List.Forall₂ R xs ys) {x : α} (hx : x ∈ xs) : ∃ y ∈ ys, R x y := by
  induction h with
  | nil => cases hx
  | cons hr _ ih =>
    rcases List.mem_cons.1 hx with rfl | hx
    · exact ⟨_, List.mem_cons_self, hr⟩
    · obtain ⟨y, hy, hxy⟩ := ih hx
      exact ⟨y, List.mem_cons_of_mem _ hy, hxy⟩

theorem exists_of_forall₂_right {β : Type v} {R : α → β → Prop} {xs : List α} {ys : List β}
    (h : List.Forall₂ R xs ys) {y : β} (hy : y ∈ ys) : ∃ x ∈ xs, R x y :=
  exists_of_forall₂_left h.flip hy

/-- Two outcomes are related values, or one and the same error. -/
inductive SameOutcome (R : α → β → Prop) : Except ε α → Except ε β → Prop
  | ok {a : α} {b : β} (h : R a b) : SameOutcome R (.ok a) (.ok b)
  | error (e : ε) : SameOutcome R (.error e) (.error e)

theorem SameOutcome.of_ok {R : α → β → Prop} {a : α} {b : β}
    (h : SameOutcome R (.ok a : Except ε α) (.ok b : Except ε β)) : R a b := by
  cases h with
  | ok h => exact h

theorem SameOutcome.refl {R : α → α → Prop} (h : ∀ a, R a a) (x : Except ε α) :
    SameOutcome R x x := by
  cases x with
  | ok a => exact .ok (h a)
  | error e => exact .error e

theorem SameOutcome.exists_ok_iff {R : α → β → Prop} {x : Except ε α} {y : Except ε β}
    (h : SameOutcome R x y) : (∃ a, x = .ok a) ↔ ∃ b, y = .ok b := by
  cases h with
  | @ok a b _ => exact iff_of_true ⟨a, rfl⟩ ⟨b, rfl⟩
  | error e => exact iff_of_false (fun ⟨_, h⟩ => nomatch h) (fun ⟨_, h⟩ => nomatch h)

theorem SameOutcome.error_iff {R : α → β → Prop} {x : Except ε α} {y : Except ε β} {e : ε}
    (h : SameOutcome R x y) : x = .error e ↔ y = .error e := by
  cases h with
  | ok _ => exact iff_of_false (fun h => nomatch h) (fun h => nomatch h)
  | error e' => rw [Except.error.injEq, Except.error.injEq]

theorem SameOutcome.map_left {α' : Type v} {R : α → β → Prop} {S : α' → β → Prop} {f : α → α'}
    {x : Except ε α} {y : Except ε β} (h : SameOutcome R x y) (hf : ∀ a b, R a b → S (f a) b) :
    SameOutcome S (x.map f) y := by
  cases h with
  | ok h => exact .ok (hf _ _ h)
  | error e => exact .error e

theorem SameOutcome.mapError {ε' : Type w} {R : α → β → Prop} {x : Except ε α} {y : Except ε β}
    (f : ε → ε') (h : SameOutcome R x y) : SameOutcome R (x.mapError f) (y.mapError f) := by
  cases h with
  | ok h => exact .ok h
  | error e => exact .error (f e)

theorem SameOutcome.bind {α' : Type v} {β' : Type w} {R : α → β → Prop} {S : α' → β' → Prop}
    {x : Except ε α} {y : Except ε β} {f : α → Except ε α'} {g : β → Except ε β'}
    (h : SameOutcome R x y) (hf : ∀ a b, R a b → SameOutcome S (f a) (g b)) :
    SameOutcome S (x >>= f) (y >>= g) := by
  cases h with
  | ok h => exact hf _ _ h
  | error e => exact .error e

theorem rel_imp {R S : α → β → Prop} (hRS : ∀ a b, R a b → S a b) {x : Option α} {y : Option β}
    (h : Option.Rel R x y) : Option.Rel S x y := by
  cases h with
  | some h => exact .some (hRS _ _ h)
  | none => exact .none

theorem rel_bind {α' : Type v} {β' : Type w} {R : α → β → Prop} {S : α' → β' → Prop}
    {x : Option α} {y : Option β} {f : α → Option α'} {g : β → Option β'}
    (h : Option.Rel R x y) (hf : ∀ a b, R a b → Option.Rel S (f a) (g b)) :
    Option.Rel S (x.bind f) (y.bind g) := by
  cases h with
  | some h => exact hf _ _ h
  | none => exact .none

end CrudPlan
