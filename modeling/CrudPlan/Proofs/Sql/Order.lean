import CrudPlan.Proofs.Sql.Related

namespace CrudPlan

namespace Sql

inductive ReadsFilter : List Token → Prop
  | all : ReadsFilter []
  | condition {ts c} (h : ReadsAs ts c) : ReadsFilter (.word "WHERE" :: ts)

inductive ReadsLimit : List Token → Prop
  | none : ReadsLimit []
  | limit (n : Nat) : ReadsLimit [.word "LIMIT", .number n]
  | page (n k : Nat) : ReadsLimit [.word "LIMIT", .number n, .word "OFFSET", .number k]
  | offset (n k : Nat) :
      ReadsLimit [.word "LIMIT", .minus, .number n, .word "OFFSET", .number k]

/-- A query for rows of a table, with what comes out of it and the names that it orders by. -/
inductive ReadsRows : List Token → List Output → List String → Prop
  | intro {outs ws os lim table outputs order} (houts : ReadsList ReadsOutput outs outputs)
      (hwhere : ReadsFilter ws) (horder : ReadsList ReadsName os order) (hlim : ReadsLimit lim) :
      ReadsRows (.word "SELECT" :: (outs ++ .word "FROM" :: .name table ::
        (ws ++ .word "ORDER" :: .word "BY" :: (os ++ lim)))) outputs order

/-- A statement for rows gives out the values of columns under names. -/
def PutsOut (sql : String) (outputs : List Output) : Prop :=
  ∃ ts order, Lexes sql.toList ts ∧ ReadsRows ts outputs order

/-- A statement for rows orders them by columns. -/
def OrdersBy (sql : String) (columns : List String) : Prop :=
  ∃ ts outputs order, Lexes sql.toList ts ∧ ReadsRows ts outputs order ∧
    order.map (columnOf outputs) = columns

variable {ts us vs ws : List Token} {outputs outputs' : List Output} {order order' : List String}
variable {cs : List (Condition Nat)} {sql table : String} {limit offset : Option UInt64}
variable {columns columns' : List String}

theorem ReadsFilter.word_not_mem {w : String} (h : ReadsFilter ts)
    (hw : w ∉ "WHERE" :: conditionWords) : .word w ∉ ts := by
  obtain ⟨hwhere, hcondition⟩ := not_or.1 (mt List.mem_cons.2 hw)
  cases h with
  | all => exact List.not_mem_nil
  | condition h => simpa [hwhere] using h.word_not_mem hcondition

theorem ReadsLimit.eq_nil_or_cons (h : ReadsLimit ts) :
    ts = [] ∨ ∃ us, ts = .word "LIMIT" :: us := by
  cases h with
  | none => exact .inl rfl
  | limit n => exact .inr ⟨_, rfl⟩
  | page n k => exact .inr ⟨_, rfl⟩
  | offset n k => exact .inr ⟨_, rfl⟩

theorem ReadsList.names_eq_of_limit (h : ReadsList ReadsName ts order)
    (h' : ReadsList ReadsName us order') (hlim : ReadsLimit vs) (hlim' : ReadsLimit ws)
    (he : ts ++ vs = us ++ ws) : ts = us := by
  have ht := h.word_not_mem_names "LIMIT"
  have hu := h'.word_not_mem_names "LIMIT"
  rcases hlim.eq_nil_or_cons with rfl | ⟨vs, rfl⟩
  · rcases hlim'.eq_nil_or_cons with rfl | ⟨ws, rfl⟩
    · simpa using he
    · rw [List.append_nil] at he
      rw [he] at ht
      simp at ht
  · rcases hlim'.eq_nil_or_cons with rfl | ⟨ws, rfl⟩
    · rw [List.append_nil] at he
      rw [← he] at hu
      simp at hu
    · exact (eq_of_append_cons_eq ht hu he).1

theorem ReadsRows.unique (h : ReadsRows ts outputs order) (h' : ReadsRows ts outputs' order') :
    outputs = outputs' ∧ order = order' := by
  generalize he : ts = us at h'
  cases h with
  | intro houts hwhere horder hlim =>
    cases h' with
    | intro houts' hwhere' horder' hlim' =>
      have hout := houts.word_not_mem_outputs (w := "FROM") (by decide)
      have hout' := houts'.word_not_mem_outputs (w := "FROM") (by decide)
      obtain ⟨rfl, hfrom⟩ := eq_of_append_cons_eq hout hout' (List.cons.inj he).2
      have hcond := hwhere.word_not_mem (w := "ORDER") (by decide)
      have hcond' := hwhere'.word_not_mem (w := "ORDER") (by decide)
      obtain ⟨rfl, hend⟩ := eq_of_append_cons_eq hcond hcond' (List.cons.inj hfrom).2
      obtain rfl := horder.names_eq_of_limit horder' hlim hlim' (List.cons.inj hend).2
      exact ⟨houts.unique_outputs houts', horder.unique_names horder'⟩

theorem PutsOut.unique (h : PutsOut sql outputs) (h' : PutsOut sql outputs') :
    outputs = outputs' := by
  obtain ⟨ts, order, hts, hread⟩ := h
  obtain ⟨us, order', hus, hread'⟩ := h'
  obtain rfl := hts.unique hus
  exact (hread.unique hread').1

theorem OrdersBy.unique (h : OrdersBy sql columns) (h' : OrdersBy sql columns') :
    columns = columns' := by
  obtain ⟨ts, outputs, order, hts, hread, rfl⟩ := h
  obtain ⟨us, outputs', order', hus, hread', rfl⟩ := h'
  obtain rfl := hts.unique hus
  obtain ⟨rfl, rfl⟩ := hread.unique hread'
  rfl

theorem readsFilter_where (h : ∀ c ∈ cs, c.Proper) : ReadsFilter (whereTokens cs) := by
  unfold whereTokens
  split
  · exact .all
  · rename_i hne
    exact .condition (readsAs_conjoin (by simpa using hne) h)

theorem readsLimit (limit offset : Option UInt64) : ReadsLimit (limitTokens limit offset) := by
  unfold limitTokens
  split
  · split
    · exact .page _ _
    · exact .limit _
  · exact .limit _
  · split
    · exact .offset _ _
    · exact .none
  · exact .none

namespace Query

theorem readsRows (houts : outputs ≠ []) (horder : order ≠ []) (h : ∀ c ∈ cs, c.Proper) :
    ReadsRows (rows outputs table cs order limit offset).tokens outputs order :=
  .intro (readsList_outputs houts) (readsFilter_where h) (readsList_names horder)
    (readsLimit limit offset)

theorem putsOut_rows (houts : outputs ≠ []) (horder : order ≠ []) (h : ∀ c ∈ cs, c.Proper) :
    PutsOut (rows outputs table cs order limit offset).text outputs :=
  ⟨_, order, lexes _ h, readsRows houts horder h⟩

theorem ordersBy_rows (houts : outputs ≠ []) (horder : order ≠ []) (h : ∀ c ∈ cs, c.Proper) :
    OrdersBy (rows outputs table cs order limit offset).text (order.map (columnOf outputs)) :=
  ⟨_, outputs, order, lexes _ h, readsRows houts horder h, rfl⟩

end Query

end Sql

open Sql

namespace Model

/-- No field that is stored elsewhere has the name of a column. -/
def Exposes (m : Model) (column : String) : Prop :=
  ∀ f ∈ m.fields, f.name = column → f.columnName = column

variable {m : Model} {join : Field} {plan : QueryPlan} {keys : List Value} {s : Statement}
  {sql column : String} {columns : List String}

theorem Sound.columnOf_eq_iff (hs : m.Sound) :
    Sql.columnOf m.outputs column = column ↔ m.Exposes column := by
  constructor
  · rintro he f hf rfl
    rw [← hs.columnOf hf, he]
  · intro h
    rw [Sql.columnOf]
    cases hfind : m.outputs.find? (·.name == column) with
    | none => rfl
    | some o =>
      obtain ⟨f, hf, rfl⟩ := List.mem_map.1 (List.mem_of_find?_eq_some hfind)
      exact h f hf (by simpa using List.find?_some hfind)

theorem Sound.map_columnOf_eq_iff (hs : m.Sound) :
    columns.map (Sql.columnOf m.outputs) = columns ↔ ∀ column ∈ columns, m.Exposes column := by
  simp only [← hs.columnOf_eq_iff]
  rw [← List.map_inj_left, List.map_id']

theorem selectRows_sql (h : m.selectRows plan = .ok s) :
    ∃ cs, (∀ c ∈ cs, c.Proper) ∧ s.sql = (Query.rows m.outputs m.tableName cs
      [m.primaryKey.columnName] plan.limit plan.offset).text := by
  obtain ⟨⟨cs, vs⟩, hbind, he⟩ := bind_eq_ok_iff.1 h
  cases he
  obtain ⟨ts, _, hmeans⟩ := bindOptional_means hbind
  exact ⟨cs, hmeans.proper, rfl⟩

theorem relatedStatement_sql (h : m.relatedStatement join plan keys = .ok s) :
    ∃ cs ≠ [], (∀ c ∈ cs, c.Proper) ∧ s.sql = (m.relatedQuery join plan cs).text := by
  obtain ⟨cs, ts, _, hsql, hall⟩ := relatedStatement_means h
  refine ⟨cs, ?_, hall.proper, hsql⟩
  rw [← List.length_pos_iff, hall.length_eq]
  exact Nat.succ_pos _

theorem relatedQuery_plain (join : Field) (cs : List (Condition Nat)) (hlimit : plan.limit = none)
    (hoffset : plan.offset = none) :
    m.relatedQuery join plan cs = .rows m.outputs m.tableName cs
      [join.columnName, m.primaryKey.columnName] none none := by
  rw [relatedQuery, hlimit, hoffset]
  rfl

theorem Sound.selectRows_ordersBy (hs : m.Sound) (h : m.selectRows plan = .ok s) :
    OrdersBy s.sql ([m.primaryKey.columnName].map (Sql.columnOf m.outputs)) := by
  obtain ⟨cs, hproper, hsql⟩ := selectRows_sql h
  rw [hsql]
  exact Query.ordersBy_rows hs.outputs_ne_nil (List.cons_ne_nil _ _) hproper

theorem Sound.relatedStatement_ordersBy (hs : m.Sound) (hlimit : plan.limit = none)
    (hoffset : plan.offset = none) (h : m.relatedStatement join plan keys = .ok s) :
    OrdersBy s.sql
      ([join.columnName, m.primaryKey.columnName].map (Sql.columnOf m.outputs)) := by
  obtain ⟨cs, _, hproper, hsql⟩ := relatedStatement_sql h
  rw [hsql, relatedQuery_plain join cs hlimit hoffset]
  exact Query.ordersBy_rows hs.outputs_ne_nil (List.cons_ne_nil _ _) hproper

theorem Sound.ordersBy_iff (hs : m.Sound)
    (h : OrdersBy sql (columns.map (Sql.columnOf m.outputs))) :
    OrdersBy sql columns ↔ ∀ column ∈ columns, m.Exposes column := by
  rw [← hs.map_columnOf_eq_iff]
  constructor
  · intro h'
    exact h.unique h'
  · intro he
    rwa [he] at h

end Model

/-- Rows come by primary key, and those of a relation by join column and primary key, exactly where
no field that is stored elsewhere has the name of such a column. -/
theorem statements_order_by_key_iff {d : Declaration} {models : List Model}
    (h : extractModels d.tables = .ok models) :
    (∀ m ∈ models, ∀ plan s, m.selectRows plan = .ok s →
      (OrdersBy s.sql [m.primaryKey.columnName] ↔ m.Exposes m.primaryKey.columnName)) ∧
    ∀ r, Registry.build d = .ok r → ∀ m ∈ r.models, ∀ x ∈ m.relations, ∃ foreign own join,
      r.foreignModel? x = some foreign ∧ r.joinFields? x = some (own, join) ∧
      ∀ plan keys s, plan.limit = none → plan.offset = none →
        r.selectRelated x plan keys = .ok s →
        (OrdersBy s.sql [join.columnName, foreign.primaryKey.columnName] ↔
          foreign.Exposes join.columnName ∧ foreign.Exposes foreign.primaryKey.columnName) := by
  constructor
  · intro m hm plan s hs
    have hsound := sound_of_extractModels h hm
    rw [hsound.ordersBy_iff (hsound.selectRows_ordersBy hs), List.forall_mem_singleton]
  · intro r hr m hm x hx
    have hcoherent := Registry.coherent_of_build hr
    obtain ⟨foreign, hmem, own, join, _, hforeign, hfields, heq⟩ := hcoherent.selectRelated hm hx
    refine ⟨foreign, own, join, hforeign, hfields, ?_⟩
    intro plan keys s hlimit hoffset hs
    rw [heq] at hs
    have hsound := hcoherent.sound foreign hmem
    rw [hsound.ordersBy_iff (hsound.relatedStatement_ordersBy hlimit hoffset hs),
      List.forall_mem_cons, List.forall_mem_singleton]

theorem statements_order_by_key_blog : ∃ models m s r m' x t,
    extractModels blog.tables = .ok models ∧ m ∈ models ∧
      m.selectRows { limit := some 2 } = .ok s ∧ OrdersBy s.sql ["id"] ∧
    Registry.build blog = .ok r ∧ m' ∈ r.models ∧ x ∈ m'.relations ∧
      r.selectRelated x {} [.int 7] = .ok t ∧ OrdersBy t.sql ["author_id", "id"] := by
  have hmodels : extractModels blog.tables = .ok _ := rfl
  have hr : Registry.build blog = .ok _ := rfl
  obtain ⟨hrows, hrelated⟩ := statements_order_by_key_iff hmodels
  have hselect := hrows _ (List.mem_of_getElem? (i := 0) rfl) { limit := some 2 } _ rfl
  obtain ⟨foreign, own, join, hforeign, hfields, hanswer⟩ := hrelated _ hr _
    (List.mem_of_getElem? (i := 1) rfl) _ (List.mem_of_getElem? (i := 1) rfl)
  cases hforeign
  cases hfields
  have hjoin := hanswer {} [.int 7] _ rfl rfl rfl
  refine ⟨_, _, _, _, _, _, _, hmodels, List.mem_of_getElem? (i := 0) rfl, rfl, hselect.2 ?_, hr,
    List.mem_of_getElem? (i := 1) rfl, List.mem_of_getElem? (i := 1) rfl, rfl, hjoin.2 ?_⟩
  · unfold Model.Exposes; decide
  · unfold Model.Exposes; decide

/-- Items whose key is stored under the name of their label. -/
def labelled : Declaration where
  tables := .ofList [
    ("items", ⟨"items", [
      { name := "id", dataType := .serial, columnName := some "key", primaryKey := true },
      { name := "key", dataType := .text, columnName := some "label" }]⟩)]

/-- Items come by label instead of by key. -/
theorem rows_not_by_key_labelled :
    ∃ models m s, extractModels labelled.tables = .ok models ∧ m ∈ models ∧
      m.selectRows { limit := some 10 } = .ok s ∧ OrdersBy s.sql ["label"] ∧
      ¬ OrdersBy s.sql [m.primaryKey.columnName] := by
  have hmodels : extractModels labelled.tables = .ok _ := rfl
  have hsound := sound_of_extractModels hmodels (List.mem_of_getElem? (i := 0) rfl)
  have hlabel := @Model.Sound.selectRows_ordersBy _ { limit := some 10 } _ hsound rfl
  refine ⟨_, _, _, hmodels, List.mem_of_getElem? (i := 0) rfl, rfl, hlabel, ?_⟩
  intro hkey
  exact absurd (hlabel.unique hkey) (by decide)

end CrudPlan
