import CrudPlan.Proofs.Sql.Order
import CrudPlan.Proofs.Sql.Shape

namespace CrudPlan

namespace Sql

/-- The condition on the rows of a table, if there is one. -/
inductive ReadsRestriction : List Token → List (Condition Nat) → Prop
  | all : ReadsRestriction [] []
  | condition {ts c} (h : ReadsAs ts c) : ReadsRestriction (.word "WHERE" :: ts) [c]

/-- All rows of a table that fulfil a condition, or their number. -/
inductive ReadsWhole : List Token → Query → Prop
  | rows {outs ws os outputs table cs order} (houts : ReadsList ReadsOutput outs outputs)
      (hwhere : ReadsRestriction ws cs) (horder : ReadsList ReadsName os order) :
      ReadsWhole (.word "SELECT" :: (outs ++ .word "FROM" :: .name table ::
        (ws ++ .word "ORDER" :: .word "BY" :: os))) (.rows outputs table cs order none none)
  | count {ws table cs} (hwhere : ReadsRestriction ws cs) :
      ReadsWhole (.word "SELECT" :: ([.word "COUNT", .opening, .star, .closing] ++
        .word "FROM" :: .name table :: ws)) (.count table cs)

/-- What a query for a number returns. -/
inductive Query.Totals (d : Dialect) (db : Database) (values : List Value) : Query → Nat → Prop
  | count {table conditions} : Totals d db values (.count table conditions)
      (selected d values conditions (db table)).length

/-- What a database returns for a text with values, read as a query for all rows. -/
def Collation.Lists {d : Dialect} (c : Collation d) (db : Database) (s : Statement)
    (out : List Record) : Prop :=
  ∃ ts q, Lexes s.sql.toList ts ∧ ReadsWhole ts q ∧ q.Returns c db s.values out

/-- The number that a database returns for a text with values, read as a query for it. -/
def Dialect.Counts (d : Dialect) (db : Database) (s : Statement) (n : Nat) : Prop :=
  ∃ ts q, Lexes s.sql.toList ts ∧ ReadsWhole ts q ∧ q.Totals d db s.values n

variable {d : Dialect} {c : Collation d} {db : Database} {values : List Value} {ts us : List Token}
  {cs ds : List (Condition Nat)} {q q' : Query} {outputs : List Output} {table : String}
  {order : List String} {sql : String} {out : List Record} {n : Nat}

theorem ReadsRestriction.unique (h : ReadsRestriction ts cs) (h' : ReadsRestriction ts ds) :
    cs = ds := by
  cases h with
  | all =>
    cases h'
    rfl
  | condition h =>
    cases h' with
    | condition h' => rw [h.unique h']

theorem ReadsRestriction.readsFilter (h : ReadsRestriction ts cs) : ReadsFilter ts := by
  cases h with
  | all => exact .all
  | condition h => exact .condition h

theorem ReadsWhole.unique (h : ReadsWhole ts q) (h' : ReadsWhole ts q') : q = q' := by
  have hcount : .word "FROM" ∉ [Token.word "COUNT", .opening, .star, .closing] := by simp
  generalize he : ts = us at h'
  cases h with
  | rows houts hwhere horder =>
    have hout := houts.word_not_mem_outputs (w := "FROM") (by decide)
    cases h' with
    | rows houts' hwhere' horder' =>
      have hout' := houts'.word_not_mem_outputs (w := "FROM") (by decide)
      obtain ⟨rfl, hfrom⟩ := eq_of_append_cons_eq hout hout' (List.cons.inj he).2
      obtain ⟨hname, hrest⟩ := List.cons.inj hfrom
      cases hname
      have hcond := hwhere.readsFilter.word_not_mem (w := "ORDER") (by decide)
      have hcond' := hwhere'.readsFilter.word_not_mem (w := "ORDER") (by decide)
      obtain ⟨rfl, hend⟩ := eq_of_append_cons_eq hcond hcond' hrest
      cases hend
      rw [houts.unique_outputs houts', hwhere.unique hwhere', horder.unique_names horder']
    | count hwhere' =>
      obtain ⟨rfl, _⟩ := eq_of_append_cons_eq hout hcount (List.cons.inj he).2
      exact absurd List.mem_cons_self (houts.word_not_mem_outputs (w := "COUNT") (by decide))
  | count hwhere =>
    cases h' with
    | rows houts' hwhere' horder' =>
      have hout' := houts'.word_not_mem_outputs (w := "FROM") (by decide)
      obtain ⟨rfl, _⟩ := eq_of_append_cons_eq hcount hout' (List.cons.inj he).2
      exact absurd List.mem_cons_self (houts'.word_not_mem_outputs (w := "COUNT") (by decide))
    | count hwhere' =>
      cases he
      rw [hwhere.unique hwhere']

/-- There is one way to read a text. -/
theorem exists_reads_iff (P : Query → Prop) (hl : Lexes sql.toList ts) (hq : ReadsWhole ts q) :
    (∃ us q', Lexes sql.toList us ∧ ReadsWhole us q' ∧ P q') ↔ P q := by
  constructor
  · intro ⟨us, q', hl', hq', h⟩
    obtain rfl := hl.unique hl'
    rwa [hq.unique hq']
  · intro h
    exact ⟨ts, q, hl, hq, h⟩

theorem lists_iff (hl : Lexes sql.toList ts) (hq : ReadsWhole ts q) :
    c.Lists db ⟨sql, values⟩ out ↔ q.Returns c db values out :=
  exists_reads_iff (·.Returns c db values out) hl hq

theorem counts_iff (hl : Lexes sql.toList ts) (hq : ReadsWhole ts q) :
    d.Counts db ⟨sql, values⟩ n ↔ q.Totals d db values n :=
  exists_reads_iff (·.Totals d db values n) hl hq

theorem exists_readsRestriction (h : ∀ c ∈ cs, c.Proper) :
    ∃ ds, ReadsRestriction (whereTokens cs) ds := by
  unfold whereTokens
  split
  · exact ⟨[], .all⟩
  · rename_i hne
    exact ⟨_, .condition (readsAs_conjoin (by simpa using hne) h)⟩

namespace Query

theorem readsWhole_rows (houts : outputs ≠ []) (horder : order ≠ [])
    (hwhere : ReadsRestriction (whereTokens cs) ds) :
    ReadsWhole (rows outputs table cs order none none).tokens
      (rows outputs table ds order none none) := by
  have hreads : ReadsWhole _ (rows outputs table ds order none none) :=
    .rows (readsList_outputs houts) hwhere (readsList_names horder)
  simpa [tokens, orderTokens, limitTokens] using hreads

theorem readsWhole_count (hwhere : ReadsRestriction (whereTokens cs) ds) :
    ReadsWhole (count table cs).tokens (count table ds) :=
  .count hwhere

/-- An order neither drops rows nor adds any. -/
theorem Returns.length_eq
    (h : (Query.rows outputs table ds order none none).Returns c db values out) :
    out.length = (selected d values ds (db table)).length := by
  cases h with
  | rows h =>
    rw [List.length_map]
    exact h.perm.length_eq

end Query

theorem totals_count_iff : (Query.count table ds).Totals d db values n ↔
    n = (selected d values ds (db table)).length := by
  constructor
  · intro h
    cases h
    rfl
  · intro h
    rw [h]
    exact .count

/-- The number is that of the rows, whatever their order is. -/
theorem counts_lists (h : ∀ c ∈ cs, c.Proper) (houts : outputs ≠ []) (horder : order ≠ []) :
    ∃ n, (∀ k, d.Counts db ⟨(Query.count table cs).text, values⟩ k ↔ k = n) ∧
      (∃ out, c.Lists db ⟨(Query.rows outputs table cs order none none).text, values⟩ out) ∧
      ∀ out, c.Lists db ⟨(Query.rows outputs table cs order none none).text, values⟩ out →
        out.length = n := by
  obtain ⟨ds, hds⟩ := exists_readsRestriction h
  have hrows : ReadsWhole (Query.rows outputs table cs order none none).tokens
      (.rows outputs table ds order none none) := Query.readsWhole_rows houts horder hds
  have hcount : ReadsWhole (Query.count table cs).tokens (.count table ds) :=
    Query.readsWhole_count hds
  have hlexes := (Query.rows outputs table cs order none none).lexes h
  have hlexes' := (Query.count table cs).lexes h
  refine ⟨(selected d values ds (db table)).length, ?_, ?_, ?_⟩
  · intro k
    exact (counts_iff hlexes' hcount).trans totals_count_iff
  · exact ⟨_, (lists_iff hlexes hrows).2 (.rows (c.arranged_arrange order _))⟩
  · intro out hout
    exact ((lists_iff hlexes hrows).1 hout).length_eq

end Sql

open Sql

namespace Model

/-- The text of a statement for rows, with a condition in it. -/
def rowsText (m : Model) (clause : String) (limit offset : Option UInt64) : String :=
  "SELECT " ++ listText (m.outputs.map Output.text) ++ " FROM " ++ quoteName m.tableName ++
    clause ++ orderText [m.primaryKey.columnName] ++ limitText limit offset

/-- The text of a statement for the number of rows, with a condition in it. -/
def countText (m : Model) (clause : String) : String :=
  "SELECT COUNT(*) FROM " ++ quoteName m.tableName ++ clause

/-- Whatever the page is and whatever relations are followed, the statements for the rows that
fulfil a predicate and for their number have one condition in one text, and the same values. -/
structure Shares (m : Model) (o : Option Predicate) (clause : String) (values : List Value) :
    Prop where
  restricts : o = none ∧ clause = "" ∨ o ≠ none ∧ ∃ condition, clause = " WHERE " ++ condition
  rows : ∀ limit offset eagerLoad, m.selectRows ⟨limit, offset, o, eagerLoad⟩ =
    .ok ⟨m.rowsText clause limit offset, values⟩
  number : ∀ limit offset eagerLoad, m.countRows ⟨limit, offset, o, eagerLoad⟩ =
    .ok ⟨m.countText clause, values⟩

variable {m : Model} {o : Option Predicate} {cs : List (Condition Nat)} {vs : List Value}

theorem shares_of_bindOptional (h : bindOptional m 0 o = .ok (cs, vs)) :
    m.Shares o (whereText cs) vs where
  restricts := by
    cases o with
    | none =>
      cases h
      exact .inl ⟨rfl, rfl⟩
    | some p =>
      rw [bindOptional_some] at h
      obtain ⟨b, _, he⟩ := bind_eq_ok_iff.1 h
      cases he
      exact .inr ⟨nofun, _, rfl⟩
  rows limit offset eagerLoad := by
    simp only [selectRows, h]
    rfl
  number limit offset eagerLoad := by
    simp only [countRows, h]
    rfl

/-- As soon as one of the two statements is there, both are, and the number is that of the rows. -/
theorem Sound.counts_lists (hs : m.Sound) (h : bindOptional m 0 o = .ok (cs, vs)) {d : Dialect}
    (c : Collation d) (db : Database) :
    ∃ n, (∀ k, d.Counts db ⟨m.countText (whereText cs), vs⟩ k ↔ k = n) ∧
      (∃ out, c.Lists db ⟨m.rowsText (whereText cs) none none, vs⟩ out) ∧
      ∀ out, c.Lists db ⟨m.rowsText (whereText cs) none none, vs⟩ out → out.length = n := by
  obtain ⟨_, _, hmeans⟩ := bindOptional_means h
  exact Sql.counts_lists hmeans.proper hs.outputs_ne_nil (List.cons_ne_nil _ _)

end Model

/-- A statement is refused exactly if a test of the predicate is on a field that the model at hand
does not have, for the first such test. Otherwise the statements for rows and for their number have
one condition in one text and the same values, whatever the page is and whatever relations are
followed, and the number is that of the rows on all pages. -/
theorem Registry.statements_share_condition {decl : Declaration} {r : Registry} {m : Model}
    (h : Registry.build decl = .ok r) (hm : m ∈ r.models) (plan : QueryPlan) :
    m.RefusesForeign plan.predicate (m.selectRows plan) ∧
    m.RefusesForeign plan.predicate (m.countRows plan) ∧
    (∀ x keys foreign own join, r.foreignModel? x = some foreign →
      r.joinFields? x = some (own, join) →
      foreign.RefusesForeign plan.predicate (r.selectRelated x plan keys)) ∧
    ∀ s, m.selectRows plan = .ok s ∨ m.countRows plan = .ok s → ∃ clause,
      m.Shares plan.predicate clause s.values ∧
      ∀ (d : Dialect) (c : Collation d) (db : Database), ∃ n,
        (∀ k, d.Counts db ⟨m.countText clause, s.values⟩ k ↔ k = n) ∧
        (∃ out, c.Lists db ⟨m.rowsText clause none none, s.values⟩ out) ∧
        ∀ out, c.Lists db ⟨m.rowsText clause none none, s.values⟩ out → out.length = n := by
  have hs := (Registry.coherent_of_build h).sound m hm
  refine ⟨m.selectRows_refusesForeign plan, m.countRows_refusesForeign plan, ?_, ?_⟩
  · intro x keys foreign own join hforeign hfields
    have hstatement : r.selectRelated x plan keys = foreign.relatedStatement join plan keys := by
      simp only [Registry.selectRelated, hforeign, hfields]
    rw [hstatement]
    exact foreign.relatedStatement_refusesForeign join plan keys
  · intro s hstatement
    have hbound : ∃ cs, bindOptional m 0 plan.predicate = .ok (cs, s.values) := by
      rcases hstatement with hstatement | hstatement
      all_goals
        obtain ⟨⟨cs, vs⟩, hbind, he⟩ := bind_eq_ok_iff.1 hstatement
        cases he
        exact ⟨cs, hbind⟩
    obtain ⟨cs, hbind⟩ := hbound
    refine ⟨whereText cs, Model.shares_of_bindOptional hbind, ?_⟩
    intro d c db
    exact hs.counts_lists hbind c db

/-- The second page of the posts by one author. -/
def secondPage : QueryPlan where
  limit := some 2
  offset := some 2
  predicate := some (.compare "authorId" .equals (.ofNat 7))

/-- Authors who are searched for by what only posts have, and then by what nobody has. -/
def misplaced : QueryPlan where
  predicate := some (.and [.compare "id" .gt (.ofNat 1),
    .not (.or [.compare "authorId" .equals (.ofNat 7), .compare "age" .isNull .null])])

theorem statements_share_condition_blog : ∃ r posts users s clause out,
    Registry.build blog = .ok r ∧ posts ∈ r.models ∧ users ∈ r.models ∧
    posts.selectRows secondPage = .ok s ∧ posts.Shares secondPage.predicate clause s.values ∧
    uniformOrder.Lists written ⟨posts.rowsText clause none none, s.values⟩ out ∧
    (∀ k, uniform.Counts written ⟨posts.countText clause, s.values⟩ k ↔ k = out.length) ∧
    users.RefusesForeign misplaced.predicate (users.selectRows misplaced) ∧
    users.selectRows misplaced = .error (.filter (.unknownField "users" "authorId")) := by
  have h : Registry.build blog = .ok _ := rfl
  have hposts :=
    Registry.statements_share_condition h (List.mem_of_getElem? (i := 0) rfl) secondPage
  have husers := Registry.statements_share_condition h (List.mem_of_getElem? (i := 1) rfl) misplaced
  obtain ⟨clause, hshares, hnumber⟩ := hposts.2.2.2 _ (.inl rfl)
  obtain ⟨n, hcounts, ⟨out, hout⟩, hlength⟩ := hnumber uniform uniformOrder written
  rw [← hlength out hout] at hcounts
  exact ⟨_, _, _, _, clause, out, h, List.mem_of_getElem? (i := 0) rfl,
    List.mem_of_getElem? (i := 1) rfl, rfl, hshares, hout, hcounts, husers.1, rfl⟩

end CrudPlan
