import CrudPlan.Proofs.Json.Text
import CrudPlan.Schema.Declaration.Writer
import CrudPlan.Schema.File

namespace CrudPlan

open Document

variable {δ : Type} [Document δ] {f : Json → δ}

theorem DataType.read?_toJson (h : Embeds f) (t : DataType) :
    DataType.read? (f t.toJson) = some t := by
  simp [DataType.read?, DataType.toJson, h.choice, DataType.ofName?_name]

theorem RelationKind.read?_toJson (h : Embeds f) (k : RelationKind) :
    RelationKind.read? (f k.toJson) = some k := by
  simp [RelationKind.read?, RelationKind.toJson, h.choice, RelationKind.ofName?_name]

theorem ColumnDecl.read?_toJson (h : Embeds f) (c : ColumnDecl) :
    ColumnDecl.read? (f c.toJson) = some c := by
  obtain ⟨name, dataType, columnName, primaryKey, nullable, hasDefault⟩ := c
  have htype := DataType.read?_toJson h dataType
  have hcolumn (s : String) := h.optional? s
  cases columnName <;>
    simp [ColumnDecl.read?, toJson, h.fields, selectFields?, distinctNames, Json.optional,
      Entries.mapValues, required?, orElse?, List.lookup_cons, h.text, h.bool, htype, hcolumn]

theorem TableDecl.read?_toJson (h : Embeds f) (t : TableDecl) :
    TableDecl.read? (f t.toJson) = some t := by
  have hcolumns : Document.list? ColumnDecl.read? (f (.arr (t.columns.map ColumnDecl.toJson))) =
      some t.columns :=
    h.list? fun c _ => c.read?_toJson h
  simp [TableDecl.read?, toJson, h.fields, selectFields?, distinctNames, Entries.mapValues,
    required?, List.lookup_cons, h.text, hcolumns]

/-- A list of texts, left out or not. -/
theorem textList_eq (name : String) (texts : List String) :
    texts = [] ∧ Json.textList name texts = [] ∨
      Json.textList name texts = [(name, .arr (texts.map Json.str))] := by
  cases texts with
  | nil => exact .inl ⟨rfl, rfl⟩
  | cons text texts => exact .inr rfl

theorem RelationDecl.read?_toJson (h : Embeds f) (r : RelationDecl) :
    RelationDecl.read? (f r.toJson) = some r := by
  obtain ⟨kind, table, fields, references, relationName, optional⟩ := r
  have hkind := RelationKind.read?_toJson h kind
  have htexts (texts : List String) :
      Document.list? text? (f (.arr (texts.map Json.str))) = some texts :=
    h.list? fun s _ => h.text s
  have hname (s : String) := h.optional? s
  rcases textList_eq "fields" fields with ⟨rfl, hfields⟩ | hfields <;>
    rcases textList_eq "references" references with ⟨rfl, hreferences⟩ | hreferences <;>
    cases relationName <;>
    simp [RelationDecl.read?, toJson, h.fields, selectFields?, distinctNames, Json.optional,
      Entries.mapValues, required?, orElse?, List.lookup_cons, h.text, h.bool, hkind, htexts, hname,
      hfields, hreferences]

theorem Declaration.read?_toJson (h : Embeds f) (d : Declaration) :
    Declaration.read? (f d.toJson) = some d := by
  have htables : Document.map? TableDecl.read? (f (d.tables.toJson TableDecl.toJson)) =
      some d.tables :=
    h.map? fun e _ => e.2.read?_toJson h
  have hrelations : Document.map? (Document.map? RelationDecl.read?)
      (f (d.relations.toJson (NameMap.toJson RelationDecl.toJson))) = some d.relations :=
    h.map? fun e _ => h.map? fun e _ => e.2.read?_toJson h
  simp [Declaration.read?, toJson, h.fields, selectFields?, distinctNames, Entries.mapValues,
    orElse?, List.lookup_cons, htables, hrelations]

namespace Json

variable {spelling : Number → NumberText}

theorem Legible.entries {α : Type} {write : α → Json} {es : NameMap α}
    (h : ∀ e ∈ es.entries, Legible spelling (write e.2)) : Legible spelling (es.toJson write) := by
  refine .obj fun e he => ?_
  obtain ⟨e, hmem, rfl⟩ := List.mem_map.1 he
  exact h e hmem

theorem Legible.items {α : Type} {write : α → Json} {xs : List α}
    (h : ∀ x ∈ xs, Legible spelling (write x)) : Legible spelling (.arr (xs.map write)) := by
  refine .arr fun v hv => ?_
  obtain ⟨x, hx, rfl⟩ := List.mem_map.1 hv
  exact h x hx

theorem legible_optional (name : String) (o : Option String) :
    ∀ e ∈ Json.optional name Json.str o, Legible spelling e.2 := by
  cases o with
  | none => exact List.forall_mem_nil _
  | some s => exact List.forall_mem_singleton.2 (.str s)

theorem legible_textList (name : String) (texts : List String) :
    ∀ e ∈ Json.textList name texts, Legible spelling e.2 := by
  rcases textList_eq name texts with ⟨_, he⟩ | he
  · rw [he]
    exact List.forall_mem_nil _
  · rw [he]
    exact List.forall_mem_singleton.2 (.items fun s _ => .str s)

end Json

open Json

variable {spelling : Json.Number → NumberText}

theorem ColumnDecl.legible_toJson (c : ColumnDecl) : Legible spelling c.toJson := by
  refine .obj (List.forall_mem_append.2 ⟨legible_optional _ _, ?_⟩)
  simp only [List.forall_mem_cons]
  exact ⟨.bool _, .str _, .bool _, .bool _, .str _, List.forall_mem_nil _⟩

theorem TableDecl.legible_toJson (t : TableDecl) : Legible spelling t.toJson := by
  refine .obj ?_
  simp only [List.forall_mem_cons]
  exact ⟨.items fun c _ => c.legible_toJson, .str _, List.forall_mem_nil _⟩

theorem RelationDecl.legible_toJson (r : RelationDecl) : Legible spelling r.toJson := by
  refine .obj ?_
  simp only [List.forall_mem_append, List.forall_mem_cons]
  exact ⟨⟨⟨⟨legible_textList _ _, .str _, .bool _, List.forall_mem_nil _⟩, legible_textList _ _⟩,
    legible_optional _ _⟩, .str _, List.forall_mem_nil _⟩

theorem Declaration.legible_toJson (d : Declaration) : Legible spelling d.toJson := by
  refine .obj ?_
  simp only [List.forall_mem_cons]
  exact ⟨.entries fun e _ => .entries fun e _ => e.2.legible_toJson,
    .entries fun e _ => e.2.legible_toJson, List.forall_mem_nil _⟩

/-- A declaration is in the file that it was written to. -/
theorem Declaration.parse?_compact (d : Declaration) :
    Declaration.parse? .json d.toJson.compact = some d := by
  -- no number is written, so that any spelling will do
  have hlegible : Legible (fun _ => ⟨false, [], [], none⟩) d.toJson := d.legible_toJson
  rw [Declaration.parse?, Tree.parse?_compact hlegible]
  exact Declaration.read?_toJson embeds_tree d

end CrudPlan
