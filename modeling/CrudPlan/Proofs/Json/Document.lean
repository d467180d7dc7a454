import CrudPlan.Json.Document
import CrudPlan.Proofs.Data.Entries

namespace CrudPlan

@[elab_as_elim]
theorem Json.induction {motive : Json → Prop} (scalar : ∀ x, x.isScalar → motive x)
    (arr : ∀ items, (∀ x ∈ items, motive x) → motive (.arr items))
    (obj : ∀ members, (∀ e ∈ members, motive e.2) → motive (.obj members)) (x : Json) : motive x :=
  @Json.rec motive (fun items => ∀ x ∈ items, motive x) (fun members => ∀ e ∈ members, motive e.2)
    (fun e => motive e.2) (scalar _ rfl) (fun _ => scalar _ rfl) (fun _ => scalar _ rfl)
    (fun _ => scalar _ rfl) arr obj (List.forall_mem_nil _)
    (fun _ _ h ih => List.forall_mem_cons.2 ⟨h, ih⟩) (List.forall_mem_nil _)
    (fun _ _ h ih => List.forall_mem_cons.2 ⟨h, ih⟩) (fun _ _ h => h) x

namespace Document

/-- The values of a document format that stand for JSON values answer as these do. -/
structure Embeds {δ : Type} [Document δ] (f : Json → δ) : Prop where
  text : ∀ s, text? (f (.str s)) = some s
  bool : ∀ b, bool? (f (.bool b)) = some b
  choice : ∀ s, choice? (f (.str s)) = some s
  presence : ∀ s, presence? (f (.str s)) = some (some (f (.str s)))
  items : ∀ xs, items? (f (.arr xs)) = some (xs.map f)
  members : ∀ es, members? (f (.obj es)) = some (Entries.mapValues f es)
  fields : ∀ names es, fields? names (f (.obj es)) = selectFields? names (Entries.mapValues f es)

theorem embeds_id : Embeds (id : Json → Json) where
  text _ := rfl
  bool _ := rfl
  choice _ := rfl
  presence _ := rfl
  items xs := congrArg some (List.map_id xs).symm
  members es := congrArg some (List.map_id es).symm
  fields names es := congrArg (selectFields? names) (List.map_id es).symm

variable {δ : Type} [Document δ] {f : Json → δ} {α : Type} {read : δ → Option α}
  {write : α → Json}

theorem mapM_map_eq_some {β γ : Type} {g : γ → Option β} {k : β → γ} {xs : List β}
    (h : ∀ x ∈ xs, g (k x) = some x) : (xs.map k).mapM g = some xs := by
  induction xs with
  | nil => rfl
  | cons x xs ih =>
    obtain ⟨hx, h⟩ := List.forall_mem_cons.1 h
    rw [List.map_cons, List.mapM_cons, hx, ih h]
    rfl

theorem Embeds.list? (h : Embeds f) {xs : List α} (hread : ∀ x ∈ xs, read (f (write x)) = some x) :
    Document.list? read (f (.arr (xs.map write))) = some xs := by
  rw [Document.list?, h.items, List.map_map]
  exact mapM_map_eq_some hread

theorem Embeds.map? (h : Embeds f) {es : NameMap α}
    (hread : ∀ e ∈ es.entries, read (f (write e.2)) = some e.2) :
    Document.map? read (f (.obj (es.mapValues write).entries)) = some es := by
  have hentries : ((es.mapValues write).entries.mapValues f).mapM
      (fun e => return (e.1, ← read e.2)) = some es.entries := by
    simp only [NameMap.mapValues, Entries.mapValues, List.map_map]
    refine mapM_map_eq_some fun e he => ?_
    simp [hread e he]
  rw [Document.map?, h.members, Option.bind_eq_bind, Option.bind_some, hentries]
  exact congrArg some es.ofList_entries

theorem Embeds.optional? (h : Embeds f) (s : String) :
    Document.optional? Document.text? (f (.str s)) = some (some s) := by
  simp [Document.optional?, h.presence, h.text]

end Document

end CrudPlan
