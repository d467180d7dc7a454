import CrudPlan.Proofs.Sql.Meaning
import CrudPlan.Proofs.Sql.StatementGrammar
import Mathlib.Data.List.Pairwise
import Mathlib.Data.List.Sort

namespace CrudPlan.Sql

def inWindow (after : UInt64) (upTo : Option UInt64) (n : Nat) : Bool :=
  after.toNat < n && upTo.all fun last => n ≤ last.toNat

/-- The order of the values in a column, under which those that `=` finds equal to one key are the
same. -/
structure Collation (d : Dialect) where
  le : String → Value → Value → Bool
  total : ∀ column v w, le column v w ∨ le column w v
  trans : ∀ {column u v w}, le column u v → le column v w → le column u w
  equal_iff : ∀ {column v w key}, v ≠ .null → w ≠ .null → key ≠ .null →
    d.holds column .equal v key → (d.holds column .equal w key ↔ le column v w ∧ le column w v)

namespace Collation

variable {d : Dialect} (c : Collation d)

def same (column : String) (v w : Row) : Bool :=
  c.le column (v column) (w column) && c.le column (w column) (v column)

/-- One row may stand before another one; each column decides between rows that are the same in the
columns before it. -/
def before : List String → Row → Row → Bool
  | [], _, _ => true
  | column :: order, v, w =>
    if c.same column v w then before order v w else c.le column (v column) (w column)

/-- Rows brought into an order. -/
structure Arranged (order : List String) (rows arranged : List Row) : Prop where
  perm : arranged.Perm rows
  ordered : arranged.Pairwise fun v w => c.before order v w

/-- Rows with numbers from one on, each counted among the rows that are the same in a column. -/
def number (group : String) : List Row → List Row → List (Nat × Row)
  | _, [] => []
  | earlier, row :: rows =>
    (earlier.countP (c.same group · row) + 1, row) :: number group (earlier ++ [row]) rows

/-- The rows whose numbers lie in a window. -/
def windowed (group : String) (after : UInt64) (upTo : Option UInt64) (rows : List Row) :
    List Row :=
  ((c.number group [] rows).filter (inWindow after upTo ·.1)).map (·.2)

end Collation

/-- The elements behind an offset and up to a limit. -/
def paged {α : Type} (limit offset : Option UInt64) (xs : List α) : List α :=
  match limit with
  | none => xs.drop (offset.getD 0).toNat
  | some n => (xs.drop (offset.getD 0).toNat).take n.toNat

/-- The rows on which conditions hold, with the values of their parameters. -/
def selected (d : Dialect) (values : List Value) (conditions : List (Condition Nat))
    (rows : List Row) : List Row :=
  rows.filter fun row => conditions.all fun c =>
    (c.map fun n => (parameter values n).getD .null).value d row = .yes

/-- The column that comes out under a name. -/
def columnOf (outputs : List Output) (name : String) : String :=
  ((outputs.find? (·.name == name)).map (·.column)).getD name

abbrev Record := List (String × Value)

def recordOf (outputs : List Output) (row : Row) : Record :=
  outputs.map fun o => (o.name, row o.column)

abbrev Database := String → List Row

/-- What a query for rows returns. Rows are numbered after the conditions on the table hold, and the
outer order is by names that have come out of the inner query. -/
inductive Query.Returns {d : Dialect} (c : Collation d) (db : Database) (values : List Value) :
    Query → List Record → Prop
  | rows {outputs table conditions order limit offset arranged}
      (h : c.Arranged order (selected d values conditions (db table)) arranged) :
      Returns c db values (.rows outputs table conditions order limit offset)
        ((paged limit offset arranged).map (recordOf outputs))
  | numbered {outputs table conditions group key after upTo order ordered arranged}
      (hnumber : c.Arranged [key] (selected d values conditions (db table)) ordered)
      (h : c.Arranged (order.map (columnOf outputs)) (c.windowed group after upTo ordered)
        arranged) :
      Returns c db values (.numbered outputs table conditions group key after upTo order)
        (arranged.map (recordOf outputs))

/-- What a database returns for a text with values, read as a query. -/
def Collation.Answers {d : Dialect} (c : Collation d) (db : Database) (s : Statement)
    (out : List Record) : Prop :=
  ∃ ts q, Lexes s.sql.toList ts ∧ ReadsQuery ts q ∧ q.Returns c db s.values out

variable {d : Dialect} {c : Collation d} {u v w row : Row} {rows arranged arranged' : List Row}
  {order : List String} {column key group : String}

namespace Collation

theorem same_iff :
    c.same column v w ↔ c.le column (v column) (w column) ∧ c.le column (w column) (v column) := by
  rw [same, Bool.and_eq_true]

theorem same_symm (h : c.same column v w) : c.same column w v :=
  same_iff.2 (same_iff.1 h).symm

theorem before_cons_iff : c.before (column :: order) v w ↔
    c.le column (v column) (w column) ∧ (c.same column v w → c.before order v w) := by
  rw [before]
  split
  · rename_i h
    simp [h, (same_iff.1 h).1]
  · rename_i h
    simp [h]

theorem before_total (c : Collation d) (order : List String) (v w : Row) :
    c.before order v w ∨ c.before order w v := by
  induction order with
  | nil => exact .inl rfl
  | cons column order ih =>
    simp only [before_cons_iff]
    by_cases h : c.same column v w
    · obtain ⟨hle, hge⟩ := same_iff.1 h
      exact ih.imp (fun hb => ⟨hle, fun _ => hb⟩) fun hb => ⟨hge, fun _ => hb⟩
    · have h' : ¬ c.same column w v := fun hs => h (same_symm hs)
      exact (c.total column (v column) (w column)).imp (fun hle => ⟨hle, fun hs => (h hs).elim⟩)
        fun hle => ⟨hle, fun hs => (h' hs).elim⟩

theorem before_trans (h : c.before order u v) (h' : c.before order v w) : c.before order u w := by
  induction order with
  | nil => rfl
  | cons column order ih =>
    rw [before_cons_iff] at *
    refine ⟨c.trans h.1 h'.1, ?_⟩
    intro hs
    -- between rows that are the same all are the same
    have hle := (same_iff.1 hs).2
    have huv : c.same column u v := same_iff.2 ⟨h.1, c.trans h'.1 hle⟩
    have hvw : c.same column v w := same_iff.2 ⟨h'.1, c.trans hle h.1⟩
    exact ih (h.2 huv) (h'.2 hvw)

theorem same_of_before (h : c.before order v w) (h' : c.before order w v) (hk : key ∈ order) :
    c.same key v w := by
  induction order with
  | nil => cases hk
  | cons column order ih =>
    rw [before_cons_iff] at h h'
    have hs : c.same column v w := same_iff.2 ⟨h.1, h'.1⟩
    rcases List.mem_cons.1 hk with rfl | hk
    · exact hs
    · exact ih (h.2 hs) (h'.2 (same_symm hs)) hk

/-- An arrangement of rows. -/
def arrange (c : Collation d) (order : List String) (rows : List Row) : List Row :=
  rows.insertionSort fun v w => c.before order v w

theorem arranged_arrange (c : Collation d) (order : List String) (rows : List Row) :
    c.Arranged order rows (c.arrange order rows) := by
  have htotal : Std.Total fun v w => c.before order v w = true := ⟨c.before_total order⟩
  have htrans : IsTrans Row fun v w => c.before order v w = true :=
    ⟨fun _ _ _ h h' => before_trans h h'⟩
  exact ⟨List.perm_insertionSort _ rows, List.pairwise_insertionSort _ rows⟩

/-- No two rows are the same in a column. -/
def Apart (c : Collation d) (key : String) (rows : List Row) : Prop :=
  rows.Pairwise fun v w => ¬ c.same key v w

theorem Apart.eq_of_same (h : c.Apart key rows) (hv : v ∈ rows) (hw : w ∈ rows)
    (hs : c.same key v w) : v = w := by
  have hsymm : Std.Symm fun v w => ¬ c.same key v w = true :=
    ⟨fun _ _ hn hs => hn (same_symm hs)⟩
  by_contra hne
  exact List.Pairwise.forall h hv hw hne hs

theorem Apart.perm (h : c.Apart key rows) (hp : arranged.Perm rows) : c.Apart key arranged :=
  hp.symm.pairwise h fun hn hs => hn (same_symm hs)

/-- There is only one arrangement by columns that tell all rows apart. -/
theorem Arranged.unique (h : c.Arranged order rows arranged) (h' : c.Arranged order rows arranged')
    (hd : c.Apart key rows) (hk : key ∈ order) : arranged = arranged' := by
  apply List.Perm.eq_of_pairwise ?_ h.ordered h'.ordered (h.perm.trans h'.perm.symm)
  intro v w hv hw hvw hwv
  have hs := same_of_before hvw hwv hk
  exact hd.eq_of_same (h.perm.mem_iff.1 hv) (h'.perm.mem_iff.1 hw) hs

theorem map_snd_number (c : Collation d) (group : String) (earlier rows : List Row) :
    (c.number group earlier rows).map (·.2) = rows := by
  induction rows generalizing earlier with
  | nil => rfl
  | cons row rows ih => rw [number, List.map_cons, ih]

theorem windowed_sublist (c : Collation d) (group : String) (after : UInt64)
    (upTo : Option UInt64) (rows : List Row) : (c.windowed group after upTo rows).Sublist rows := by
  have h := (List.filter_sublist (l := c.number group [] rows)
    (p := (inWindow after upTo ·.1))).map (·.2)
  rwa [c.map_snd_number] at h

end Collation

namespace Query

variable {db : Database} {values : List Value} {outputs : List Output} {table : String}
  {conditions : List (Condition Nat)} {limit offset : Option UInt64} {after : UInt64}
  {upTo : Option UInt64} {out : List Record}

/-- A query has one answer if its order tells all rows apart. -/
theorem returns_rows_iff (hd : c.Apart key (selected d values conditions (db table)))
    (hk : key ∈ order) :
    (Query.rows outputs table conditions order limit offset).Returns c db values out ↔
      out = (paged limit offset (c.arrange order
        (selected d values conditions (db table)))).map (recordOf outputs) := by
  have harrange := c.arranged_arrange order (selected d values conditions (db table))
  constructor
  · intro h
    cases h with
    | rows h => rw [h.unique harrange hd hk]
  · rintro rfl
    exact .rows harrange

theorem returns_numbered_iff (hd : c.Apart key (selected d values conditions (db table)))
    (hk : key ∈ order.map (columnOf outputs)) :
    (numbered outputs table conditions group key after upTo order).Returns c db values out ↔
      out = (c.arrange (order.map (columnOf outputs)) (c.windowed group after upTo
        (c.arrange [key] (selected d values conditions (db table))))).map (recordOf outputs) := by
  have hnumber := c.arranged_arrange [key] (selected d values conditions (db table))
  have harrange := c.arranged_arrange (order.map (columnOf outputs)) (c.windowed group after upTo
    (c.arrange [key] (selected d values conditions (db table))))
  have hwindow := List.Pairwise.sublist (c.windowed_sublist group after upTo _)
    (hd.perm hnumber.perm)
  constructor
  · intro h
    cases h with
    | numbered hnumber' h =>
      rw [hnumber'.unique hnumber hd (List.mem_singleton_self _)] at h
      rw [h.unique harrange hwindow hk]
  · rintro rfl
    exact .numbered hnumber harrange

end Query

end CrudPlan.Sql
