import CrudPlan.Proofs.Request.Filter
import CrudPlan.Proofs.Request.Path
import CrudPlan.Request.Selection
import CrudPlan.Request.LookAhead

namespace CrudPlan

@[elab_as_elim]
theorem QueryField.induction {motive : QueryField → Prop}
    (intro : ∀ name args children, (∀ f ∈ children, motive f) → motive ⟨name, args, children⟩)
    (f : QueryField) : motive f :=
  @QueryField.rec motive (fun fields => ∀ f ∈ fields, motive f) intro (List.forall_mem_nil _)
    (fun _ _ h ih => List.forall_mem_cons.2 ⟨h, ih⟩) f

/-- Arguments that are left out or read from a value. -/
inductive Args.Readable : Args → Prop
  | empty : Readable {}
  | read {v : Json} {a : Args} (h : Args.ofJson? v = some a) : Readable a

namespace Selection

variable {s child : Selection} {args : Args} {es : List (String × Selection)}
  {vs : Variables}

theorem ordered_sort (h : ∀ e ∈ es, e.2.Ordered) : Ordered ⟨args, Entries.sort es⟩ :=
  .intro (Entries.sorted_sort es) fun e he => h e (Entries.mem_of_mem_sort he)

theorem ordered_empty : Ordered {} := .intro .nil (List.forall_mem_nil _)

theorem Ordered.withArgs (h : s.Ordered) (args : Args) : (s.withArgs args).Ordered := by
  cases h with
  | intro names below => exact .intro names below

theorem Ordered.withLimit (h : s.Ordered) (limit : UInt64) : (s.withLimit limit).Ordered :=
  h.withArgs _

theorem Ordered.withOffset (h : s.Ordered) (offset : UInt64) : (s.withOffset offset).Ordered :=
  h.withArgs _

theorem Ordered.withFilter (h : s.Ordered) (filter : Json) : (s.withFilter filter).Ordered :=
  h.withArgs _

theorem Ordered.addChild (h : s.Ordered) (name : String) (hc : child.Ordered) :
    (s.addChild name child).Ordered := by
  cases h with
  | intro names below =>
    refine .intro (names.insert name child) ?_
    intro e he
    rcases Entries.mem_insert he with rfl | he
    · exact hc
    · exact below e he

theorem Ordered.addField (h : s.Ordered) (name : String) : (s.addField name).Ordered :=
  h.addChild name ordered_empty

/-- A property of what is read from a value, and of what is read from the members of an object. -/
structure Reads (P : Selection → Prop) (x : Json) : Prop where
  selection : ∀ s, ofJson? x = some s → P s
  children : ∀ members, x = .obj members → ∀ es, ofJson?.named? members = some es →
    ∀ e ∈ es, P e.2

section Reads

variable {P : Selection → Prop} {members : List (String × Json)} {x : Json}

theorem Reads.named? (h : ∀ e ∈ members, Reads P e.2)
    (hes : ofJson?.named? members = some es) : ∀ e ∈ es, P e.2 := by
  induction members generalizing es with
  | nil =>
    cases hes
    exact List.forall_mem_nil _
  | cons e members ih =>
    obtain ⟨he, h⟩ := List.forall_mem_cons.1 h
    simp only [ofJson?.named?, Option.bind_eq_bind, Option.bind_eq_some_iff, Option.pure_def,
      Option.some.injEq] at hes
    obtain ⟨s, hs, rest, hrest, rfl⟩ := hes
    exact List.forall_mem_cons.2 ⟨he.selection s hs, ih h hrest⟩

theorem Reads.childrenAmong? (h : ∀ e ∈ members, Reads P e.2)
    (hes : ofJson?.childrenAmong? members = some es) :
    ∃ fs, es = Entries.sort fs ∧ ∀ e ∈ fs, P e.2 := by
  induction members with
  | nil =>
    cases hes
    exact ⟨[], rfl, List.forall_mem_nil _⟩
  | cons e members ih =>
    obtain ⟨name, value⟩ := e
    obtain ⟨he, hrest⟩ := List.forall_mem_cons.1 h
    cases value with
    | obj children =>
      rw [ofJson?.childrenAmong?] at hes
      split at hes
      · simp only [Option.bind_eq_bind, Option.bind_eq_some_iff, Option.pure_def,
          Option.some.injEq] at hes
        obtain ⟨fs, hfs, rfl⟩ := hes
        exact ⟨fs, rfl, he.children children rfl fs hfs⟩
      · exact ih hrest hes
    | _ =>
      simp only [ofJson?.childrenAmong?] at hes
      split at hes
      · cases hes
      · exact ih hrest hes

theorem readable_argsAmong? (h : argsAmong? members = some args) : args.Readable := by
  unfold argsAmong? at h
  split at h
  · cases h
    exact .empty
  · exact .read h

/-- A property that sorted children with it give a selection with readable arguments is one of all
selections that are read. -/
theorem reads (hP : ∀ {args es}, args.Readable → (∀ e ∈ es, P e.2) → P ⟨args, Entries.sort es⟩)
    (x : Json) : Reads P x := by
  induction x using Json.induction with
  | scalar x hx =>
    cases x with
    | arr _ | obj _ => cases hx
    | _ => exact ⟨fun s hs => (nomatch hs), fun members he => (nomatch he)⟩
  | arr items ih =>
    refine ⟨?_, fun members he => (nomatch he)⟩
    intro s hs
    match items with
    | [] =>
      cases hs
      exact hP .empty (List.forall_mem_nil _)
    | [_] =>
      simp only [ofJson?, Option.bind_eq_bind, Option.bind_eq_some_iff, Option.pure_def,
        Option.some.injEq] at hs
      obtain ⟨args, hargs, rfl⟩ := hs
      exact hP (.read hargs) (List.forall_mem_nil _)
    | [_, .obj children] =>
      simp only [ofJson?, Option.bind_eq_bind, Option.bind_eq_some_iff, Option.pure_def,
        Option.some.injEq] at hs
      obtain ⟨args, hargs, es, hes, rfl⟩ := hs
      exact hP (.read hargs) ((ih (.obj children) (by simp)).children children rfl es hes)
  | obj members ih =>
    refine ⟨?_, ?_⟩
    · intro s hs
      simp only [ofJson?, Option.bind_eq_bind, Option.bind_eq_some_iff, Option.pure_def,
        Option.some.injEq] at hs
      obtain ⟨_, _, args, hargs, es, hes, rfl⟩ := hs
      obtain ⟨fs, rfl, hfs⟩ := Reads.childrenAmong? ih hes
      exact hP (readable_argsAmong? hargs) hfs
    · rintro _ ⟨⟩ es hes
      exact Reads.named? ih hes

theorem ordered_ofJson? (h : ofJson? x = some s) : s.Ordered :=
  (reads (fun _ => ordered_sort) x).selection s h

end Reads

theorem named_ordered {fields : List QueryField}
    (h : ∀ f ∈ fields, ∀ s, ofField vs f = .ok s → s.Ordered)
    (hes : ofField.named vs fields = .ok es) : ∀ e ∈ es, e.2.Ordered := by
  induction fields generalizing es with
  | nil =>
    cases hes
    exact List.forall_mem_nil _
  | cons f fields ih =>
    obtain ⟨name, args, children⟩ := f
    obtain ⟨hf, h⟩ := List.forall_mem_cons.1 h
    obtain ⟨s, hs, hes⟩ := bind_eq_ok_iff.1 hes
    obtain ⟨rest, hrest, he⟩ := bind_eq_ok_iff.1 hes
    cases he
    exact List.forall_mem_cons.2 ⟨hf s hs, ih h hrest⟩

theorem ordered_ofField {f : QueryField} (h : ofField vs f = .ok s) : s.Ordered := by
  induction f using QueryField.induction generalizing s with
  | intro name args children ih =>
    obtain ⟨_, _, h⟩ := bind_eq_ok_iff.1 h
    obtain ⟨args, _, h⟩ := bind_eq_ok_iff.1 h
    obtain ⟨es, hes, h⟩ := bind_eq_ok_iff.1 h
    cases h
    exact ordered_sort (named_ordered (fun f hf s hs => ih f hf hs) hes)

end Selection

theorem RequestFile.ordered_ofJson? {x : Json} {f : RequestFile} (h : ofJson? x = some f) :
    f.selection.Ordered := by
  cases x with
  | obj members =>
    simp only [ofJson?, Option.bind_eq_bind, Option.bind_eq_some_iff, Option.pure_def,
      Option.some.injEq] at h
    obtain ⟨fields, _, s, hs, rfl⟩ := h
    exact Selection.ordered_ofJson? hs
  | _ => cases h

end CrudPlan
