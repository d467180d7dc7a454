import CrudPlan.Proofs.Sql.Order

namespace CrudPlan

namespace Sql

inductive ReadsBounds : List Token → List String → Prop
  | single (name : String) (comparison : Comparison) (n : Nat) :
      ReadsBounds [.name name, .comparison comparison, .number n] [name]
  | and (name : String) (comparison : Comparison) (n : Nat) {ts names}
      (h : ReadsBounds ts names) :
      ReadsBounds (.name name :: .comparison comparison :: .number n :: .word "AND" :: ts)
        (name :: names)

/-- A query on the rows of an inner one, by the names in it. -/
structure Nested where
  inner : List Output
  /-- The name under which the inner query gives out the numbers of rows. -/
  row : String
  outer : List String
  bounded : List String
  order : List String

inductive ReadsNested : List Token → Nested → Prop
  | intro {names outs ws win os inner outer bounded order c group key row table}
      (houter : ReadsList ReadsName names outer) (hinner : ReadsList ReadsOutput outs inner)
      (hwhere : ReadsAs ws c) (hbounded : ReadsBounds win bounded)
      (horder : ReadsList ReadsName os order) :
      ReadsNested (.word "SELECT" :: (names ++ .word "FROM" :: .opening :: .word "SELECT" ::
          (outs ++ .comma :: .word "ROW_NUMBER" :: .opening :: .closing :: .word "OVER" ::
            .opening :: .word "PARTITION" :: .word "BY" :: .name group :: .word "ORDER" ::
            .word "BY" :: .name key :: .closing :: .word "AS" :: .name row :: .word "FROM" ::
            .name table :: .word "WHERE" :: (ws ++ .closing :: .word "WHERE" ::
              (win ++ .word "ORDER" :: .word "BY" :: os)))))
        ⟨inner, row, outer, bounded, order⟩

/-- A statement nests a query in another one. -/
def Nests (sql : String) (n : Nested) : Prop := ∃ ts, Lexes sql.toList ts ∧ ReadsNested ts n

namespace Nested

/-- The names of the columns of the inner query. -/
def columns (n : Nested) : List String := n.inner.map (·.name) ++ [n.row]

/-- Every name in the outer query is that of one column of the inner one. -/
def Unambiguous (n : Nested) : Prop :=
  ∀ name ∈ n.outer ++ n.bounded ++ n.order, n.columns.count name = 1

end Nested

variable {ts us : List Token} {names names' : List String} {n n' : Nested} {sql : String}
variable {cs : List (Condition Nat)} {outputs : List Output} {table group key name : String}
variable {after : UInt64} {upTo : Option UInt64} {order : List String}

theorem ReadsBounds.unique (h : ReadsBounds ts names) (h' : ReadsBounds ts names') :
    names = names' := by
  induction h generalizing names' with
  | single name comparison n =>
    cases h'
    rfl
  | and name comparison n _ ih =>
    cases h' with
    | and _ _ _ h' => rw [ih h']

theorem ReadsBounds.order_not_mem (h : ReadsBounds ts names) : .word "ORDER" ∉ ts := by
  induction h with
  | single name comparison n => simp
  | and name comparison n _ ih => simpa using ih

theorem ReadsNested.unique (h : ReadsNested ts n) (h' : ReadsNested ts n') : n = n' := by
  generalize he : ts = us at h'
  cases h with
  | intro houter hinner hwhere hbounded horder =>
    cases h' with
    | intro houter' hinner' hwhere' hbounded' horder' =>
      have hname := houter.word_not_mem_names "FROM"
      have hname' := houter'.word_not_mem_names "FROM"
      have hout := hinner.word_not_mem_outputs (w := "ROW_NUMBER") (by decide)
      have hout' := hinner'.word_not_mem_outputs (w := "ROW_NUMBER") (by decide)
      have hcond := hwhere.word_not_mem (w := "WHERE") (by decide)
      have hcond' := hwhere'.word_not_mem (w := "WHERE") (by decide)
      obtain ⟨rfl, hfrom⟩ := eq_of_append_cons_eq hname hname' (List.cons.inj he).2
      simp only [List.cons.injEq, true_and] at hfrom
      obtain ⟨rfl, hnumber⟩ := eq_of_append_cons_cons_eq hout hout' (by simp) hfrom
      simp only [List.cons.injEq, Token.name.injEq, true_and] at hnumber
      obtain ⟨rfl, rfl, rfl, rfl, hcondition⟩ := hnumber
      obtain ⟨rfl, hwindow⟩ := eq_of_append_cons_cons_eq hcond hcond' (by simp) hcondition
      obtain ⟨rfl, hend⟩ :=
        eq_of_append_cons_eq hbounded.order_not_mem hbounded'.order_not_mem hwindow
      cases hend
      rw [houter.unique_names houter', hinner.unique_outputs hinner', hbounded.unique hbounded',
        horder.unique_names horder']

theorem Nests.unique (h : Nests sql n) (h' : Nests sql n') : n = n' := by
  obtain ⟨ts, hts, hread⟩ := h
  obtain ⟨us, hus, hread'⟩ := h'
  obtain rfl := hts.unique hus
  exact hread.unique hread'

theorem readsBounds (after : UInt64) (upTo : Option UInt64) : ∃ names,
    ReadsBounds (windowTokens after upTo) names ∧ ∀ name, name ∈ names ↔ name = rowNumber := by
  cases upTo with
  | none => exact ⟨_, .single _ _ _, by simp⟩
  | some last => exact ⟨_, .and _ _ _ (.single _ _ _), by simp⟩

theorem Query.nests_numbered (houts : outputs ≠ []) (horder : order ≠ []) (hne : cs ≠ [])
    (h : ∀ c ∈ cs, c.Proper) :
    ∃ bounded, (∀ name, name ∈ bounded ↔ name = rowNumber) ∧
      Nests (numbered outputs table cs group key after upTo order).text
        ⟨outputs, rowNumber, outputs.map (·.name), bounded, order⟩ := by
  obtain ⟨bounded, hbounded, hmem⟩ := readsBounds after upTo
  have houter : ReadsList ReadsName (namesTokens (outputs.map (·.name))) (outputs.map (·.name)) :=
    readsList_names (by simpa using houts)
  have hreads := @ReadsNested.intro _ _ _ _ _ _ _ _ _ _ group key rowNumber table houter
    (readsList_outputs houts) (readsAs_conjoin hne h) hbounded (readsList_names horder)
  refine ⟨bounded, hmem, _, lexes _ h, ?_⟩
  simpa [tokens, whereTokens, hne, orderTokens] using hreads

namespace Nested

theorem columns_nodup_iff (h : (n.inner.map (·.name)).Nodup) :
    n.columns.Nodup ↔ n.row ∉ n.inner.map (·.name) := by
  rw [columns, List.nodup_append]
  simp only [h, List.nodup_singleton, List.mem_singleton, true_and]
  constructor
  · intro hdisjoint hmem
    exact hdisjoint _ hmem _ rfl rfl
  · rintro hnot a ha _ rfl rfl
    exact hnot ha

theorem unambiguous_iff (h : (n.inner.map (·.name)).Nodup) (hrow : n.row ∈ n.bounded)
    (hmem : ∀ name ∈ n.outer ++ n.bounded ++ n.order, name ∈ n.columns) :
    n.Unambiguous ↔ n.row ∉ n.inner.map (·.name) := by
  constructor
  · intro hone hrow'
    have hcount := hone n.row (by simp [hrow])
    rw [columns, List.count_append, List.count_singleton_self, Nat.add_eq_right,
      List.count_eq_zero] at hcount
    exact hcount hrow'
  · intro hnot name hname
    exact List.count_eq_one_of_mem ((columns_nodup_iff h).2 hnot) (hmem name hname)

end Nested

end Sql

open Sql

namespace Model

variable {m : Model} {join : Field} {plan : QueryPlan} {keys : List Value} {s : Statement}

/-- The names of the fields of a model, in their order. -/
def fieldNames (m : Model) : List String := m.fields.map (·.name)

theorem names_outputs (m : Model) : m.outputs.map (·.name) = m.fieldNames := by
  rw [outputs, List.map_map]
  rfl

theorem relatedQuery_windowed (join : Field) (cs : List (Condition Nat))
    (h : plan.limit ≠ none ∨ plan.offset ≠ none) :
    m.relatedQuery join plan cs = .numbered m.outputs m.tableName cs join.columnName
      m.primaryKey.columnName (plan.offset.getD 0)
      (plan.limit.map (saturatingAdd (plan.offset.getD 0))) [join.name, m.primaryKey.name] := by
  have hwindow : ¬ (plan.limit.isNone ∧ plan.offset.isNone) := by
    rw [Option.isNone_iff_eq_none, Option.isNone_iff_eq_none]
    tauto
  rw [relatedQuery, if_neg hwindow]

theorem Sound.putsOut_related (hs : m.Sound) (hlimit : plan.limit = none)
    (hoffset : plan.offset = none) (h : m.relatedStatement join plan keys = .ok s) :
    PutsOut s.sql m.outputs := by
  obtain ⟨cs, _, hproper, hsql⟩ := relatedStatement_sql h
  rw [hsql, relatedQuery_plain join cs hlimit hoffset]
  exact Query.putsOut_rows hs.outputs_ne_nil (List.cons_ne_nil _ _) hproper

theorem Sound.nests_related (hs : m.Sound) (hplan : plan.limit ≠ none ∨ plan.offset ≠ none)
    (h : m.relatedStatement join plan keys = .ok s) :
    ∃ bounded, (∀ name, name ∈ bounded ↔ name = rowNumber) ∧
      Nests s.sql
        ⟨m.outputs, rowNumber, m.fieldNames, bounded, [join.name, m.primaryKey.name]⟩ := by
  obtain ⟨cs, hne, hproper, hsql⟩ := relatedStatement_sql h
  rw [hsql, m.relatedQuery_windowed join cs hplan, ← m.names_outputs]
  exact Query.nests_numbered hs.outputs_ne_nil (List.cons_ne_nil _ _) hne hproper

end Model

/-- A statement that numbers rows reads in one way. It gives out the fields of the foreign model in
their order, as the one without limit and offset does. The columns of its inner query have different
names, and each name in the outer one stands for one of them, exactly if no field has the name under
which rows are numbered. -/
theorem Registry.windowed_unambiguous_iff {d : Declaration} {r : Registry} {m : Model}
    {x : Relation} (h : Registry.build d = .ok r) (hm : m ∈ r.models) (hx : x ∈ m.relations) :
    ∃ foreign, r.foreignModel? x = some foreign ∧
      ∀ plan keys s, (plan.limit ≠ none ∨ plan.offset ≠ none) →
        r.selectRelated x plan keys = .ok s →
        ∃ n, Nests s.sql n ∧ (∀ n', Nests s.sql n' → n' = n) ∧
          n.columns = foreign.fieldNames ++ [rowNumber] ∧ n.outer = foreign.fieldNames ∧
          (∀ s', r.selectRelated x { plan with limit := none, offset := none } keys = .ok s' →
            ∀ outputs, PutsOut s'.sql outputs ↔ outputs = foreign.outputs) ∧
          foreign.outputs.map (·.name) = n.outer ∧
          (n.columns.Nodup ↔ rowNumber ∉ foreign.fieldNames) ∧
          (n.Unambiguous ↔ rowNumber ∉ foreign.fieldNames) := by
  have hr := Registry.coherent_of_build h
  obtain ⟨foreign, hmem, own, join, hjoin, hforeign, hfields, heq⟩ := hr.selectRelated hm hx
  have hs := hr.sound foreign hmem
  have hnames := foreign.names_outputs
  have hnodup : (foreign.outputs.map (·.name)).Nodup := hnames ▸ hs.names
  simp only [heq]
  refine ⟨foreign, hforeign, ?_⟩
  intro plan keys s hplan hstatement
  obtain ⟨bounded, hbounded, hnests⟩ := hs.nests_related hplan hstatement
  refine ⟨_, hnests, fun n' h' => h'.unique hnests, ?_, rfl, ?_, hnames, ?_, ?_⟩
  · rw [Nested.columns, hnames]
  · intro s' hs' outputs
    have hputs := hs.putsOut_related rfl rfl hs'
    exact ⟨fun h' => h'.unique hputs, fun he => he ▸ hputs⟩
  · rw [Nested.columns_nodup_iff hnodup, hnames]
  · have hrow := (hbounded rowNumber).2 rfl
    rw [Nested.unambiguous_iff hnodup hrow, hnames]
    intro name hname
    rw [Nested.columns, hnames]
    have hjoin' : join.name ∈ foreign.fieldNames := List.mem_map_of_mem hjoin
    have hkey : foreign.primaryKey.name ∈ foreign.fieldNames :=
      List.mem_map_of_mem hs.primaryKey_mem
    simp only [List.mem_append, List.mem_cons, List.not_mem_nil, or_false, hbounded] at hname ⊢
    rcases hname with (hname | hname) | rfl | rfl
    · exact .inl hname
    · exact .inr hname
    · exact .inl hjoin'
    · exact .inl hkey

theorem windowed_unambiguous_blog : ∃ r m x s n, Registry.build blog = .ok r ∧ m ∈ r.models ∧
    x ∈ m.relations ∧ r.selectRelated x { limit := some 2 } [.int 7] = .ok s ∧ Nests s.sql n ∧
      n.outer = ["id", "authorId"] ∧ n.columns = ["id", "authorId", "__row"] ∧
      n.columns.Nodup ∧ n.Unambiguous := by
  have h : Registry.build blog = .ok _ := rfl
  obtain ⟨foreign, hforeign, hanswer⟩ := Registry.windowed_unambiguous_iff h
    (List.mem_of_getElem? (i := 1) rfl) (List.mem_of_getElem? (i := 1) rfl)
  cases hforeign
  obtain ⟨n, hn, _, hcolumns, houter, _, _, hnodup, hunambiguous⟩ :=
    hanswer { limit := some 2 } [.int 7] _ (.inl (by decide)) rfl
  exact ⟨_, _, _, _, n, h, List.mem_of_getElem? (i := 1) rfl, List.mem_of_getElem? (i := 1) rfl,
    rfl, hn, houter, hcolumns, hnodup.2 (by decide), hunambiguous.2 (by decide)⟩

/-- Posts that are numbered by hand, under the name that statements use for numbers. -/
def counted : Declaration where
  tables := .ofList [
    ("posts", ⟨"posts", [
      { name := "id", dataType := .serial, primaryKey := true },
      { name := "author", dataType := .integer },
      { name := "__row", dataType := .integer }]⟩),
    ("users", ⟨"users", [{ name := "id", dataType := .serial, primaryKey := true }]⟩)]
  relations := .ofList [
    ("users", .ofList [
      ("posts", { kind := .many, table := "posts", fields := ["id"], references := ["author"] })])]

/-- The bounds are on a name that both the posts' own numbers and those of the statement have. -/
theorem windowed_ambiguous_counted : ∃ r m x s n, Registry.build counted = .ok r ∧ m ∈ r.models ∧
    x ∈ m.relations ∧ r.selectRelated x { limit := some 2 } [.int 7] = .ok s ∧ Nests s.sql n ∧
      n.columns = ["id", "author", "__row", "__row"] ∧ "__row" ∈ n.bounded ∧
      ¬ n.columns.Nodup ∧ ¬ n.Unambiguous := by
  have h : Registry.build counted = .ok _ := rfl
  have hs := (Registry.coherent_of_build h).sound _ (List.mem_of_getElem? (i := 0) rfl)
  let author : Field := ⟨"author", .integer, "author", false, false, false⟩
  obtain ⟨bounded, hbounded, hn⟩ := @Model.Sound.nests_related _ author { limit := some 2 } [.int 7]
    _ hs (.inl (by decide)) rfl
  have hrow := (hbounded rowNumber).2 rfl
  have hrepeats : ¬ ["id", "author", "__row", "__row"].Nodup := by decide
  have htwice : ["id", "author", "__row", "__row"].count rowNumber ≠ 1 := by decide
  refine ⟨_, _, _, _, _, h, List.mem_of_getElem? (i := 1) rfl, List.mem_of_getElem? (i := 0) rfl,
    rfl, hn, rfl, hrow, hrepeats, ?_⟩
  intro hone
  exact htwice (hone rowNumber (by simp [hrow]))

end CrudPlan
