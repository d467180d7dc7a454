import CrudPlan.Proofs.Sql.Answers
import CrudPlan.Request.Page

namespace CrudPlan.Sql

variable {α : Type} {d : Dialect} {c : Collation d} {m : Model} {join : Field} {plan : QueryPlan}
  {keys : List Value} {key key' : Value} {v w row : Row} {table rows rows' ordered : List Row}
  {earlier : List Row} {xs : List α} {group : String} {limit offset : Option UInt64}

/-- A row belongs to the parent rows with a key. -/
def joins (d : Dialect) (join : Field) (key : Value) (row : Row) : Bool :=
  d.compare row join.columnName .equal key = .yes

/-- The predicate of a plan holds on a row. -/
def fulfils (d : Dialect) (m : Model) (plan : QueryPlan) (row : Row) : Bool :=
  optionalValue d row m plan.predicate = .yes

/-- The rows for one key: all that join and fulfil the predicate, by primary key, behind the plan's
offset and up to its limit. -/
def pageOf (c : Collation d) (m : Model) (join : Field) (plan : QueryPlan) (table : List Row)
    (key : Value) : List Row :=
  paged plan.limit plan.offset (c.arrange [m.primaryKey.columnName]
    (table.filter fun row => joins d join key row && fulfils d m plan row))

/-- The merge of the pages of keys: each page, nothing else, and each row once, by the value that
joins and then by primary key. -/
structure Merges (c : Collation d) (m : Model) (join : Field) (plan : QueryPlan) (table : List Row)
    (keys : List Value) (rows : List Row) : Prop where
  page : ∀ key ∈ keys, rows.filter (joins d join key) = pageOf c m join plan table key
  joined : ∀ row ∈ rows, ∃ key ∈ keys, joins d join key row
  ordered : rows.Pairwise fun v w => c.before [join.columnName, m.primaryKey.columnName] v w ∧
    ¬ c.before [join.columnName, m.primaryKey.columnName] w v

/-- Numbers of 64 bits reach the end of a page, or else as far as there are rows. The end of a page
is cut off at the largest such number, which leaves a row out only if one comes behind it. -/
def CountsTo (plan : QueryPlan) (count : Nat) : Prop :=
  ∀ limit, plan.limit = some limit →
    count < UInt64.size ∨ (plan.offset.getD 0).toNat + limit.toNat < UInt64.size

theorem paged_sublist (limit offset : Option UInt64) (xs : List α) :
    (paged limit offset xs).Sublist xs := by
  cases limit with
  | none => exact List.drop_sublist _ xs
  | some n => exact (List.take_sublist _ _).trans (List.drop_sublist _ xs)

/-- The numbers of the rows of one group count from one on. -/
theorem Collation.filter_number {P : Row → Bool}
    (hP : ∀ v ∈ earlier ++ rows, ∀ w ∈ rows, P w → (c.same group v w ↔ P v)) :
    (c.number group earlier rows).filter (P ·.2) =
      ((rows.filter P).zipIdx (earlier.countP P + 1)).map fun e => (e.2, e.1) := by
  induction rows generalizing earlier with
  | nil => rfl
  | cons row rows ih =>
    have hrest : ∀ v ∈ (earlier ++ [row]) ++ rows, ∀ w ∈ rows, P w → (c.same group v w ↔ P v) := by
      intro v hv w hw
      exact hP v (by simpa using hv) w (List.mem_cons_of_mem row hw)
    rw [number]
    by_cases hrow : P row
    · have hcount : earlier.countP (c.same group · row) = earlier.countP P := by
        apply List.countP_congr
        intro v hv
        exact hP v (List.mem_append_left _ hv) row List.mem_cons_self hrow
      have hnext : (earlier ++ [row]).countP P = earlier.countP P + 1 := by simp [hrow]
      rw [List.filter_cons, if_pos hrow, List.filter_cons, if_pos hrow, ih hrest, hnext, hcount]
      rfl
    · have hnext : (earlier ++ [row]).countP P = earlier.countP P := by simp [hrow]
      rw [List.filter_cons, if_neg hrow, List.filter_cons, if_neg hrow, ih hrest, hnext]

theorem Collation.filter_windowed {P : Row → Bool} {after : UInt64} {upTo : Option UInt64}
    (hP : ∀ v ∈ rows, ∀ w ∈ rows, P w → (c.same group v w ↔ P v)) :
    (c.windowed group after upTo rows).filter P =
      (((rows.filter P).zipIdx 1).filter fun e => inWindow after upTo e.2).map (·.1) := by
  have hnumber : (c.number group [] rows).filter (P ·.2) =
      ((rows.filter P).zipIdx 1).map fun e => (e.2, e.1) := filter_number hP
  rw [windowed, List.filter_map, List.filter_comm]
  simp only [Function.comp_def]
  rw [hnumber, List.filter_map, List.map_map]
  rfl

theorem map_fst_filter_zipIdx (a b k : Nat) (xs : List α) :
    ((xs.zipIdx k).filter fun e => decide (a < e.2) && decide (e.2 ≤ b)).map (·.1) =
      (xs.take (b + 1 - k)).drop (a + 1 - k) := by
  induction xs generalizing k with
  | nil => simp
  | cons x xs ih =>
    have hb : b + 1 - (k + 1) = b - k := by omega
    have ha : a + 1 - (k + 1) = a - k := by omega
    have hrest := ih (k + 1)
    rw [hb, ha] at hrest
    rw [List.zipIdx_cons, List.filter_cons]
    by_cases hk : k ≤ b
    · rw [Nat.succ_sub hk, List.take_succ_cons]
      by_cases hak : a < k
      · have hza : a + 1 - k = 0 := by omega
        have hza' : a - k = 0 := by omega
        simpa [hk, hak, hza, hza'] using hrest
      · rw [Nat.succ_sub (by omega), List.drop_succ_cons]
        simpa [hak] using hrest
    · have hzb : b + 1 - k = 0 := by omega
      have hzb' : b - k = 0 := by omega
      simpa [hk, hzb, hzb'] using hrest

/-- Cutting off by numbers of 64 bits gives a page. -/
theorem map_fst_window (h : CountsTo plan xs.length) :
    ((xs.zipIdx 1).filter fun e => inWindow (plan.offset.getD 0)
        (plan.limit.map (saturatingAdd (plan.offset.getD 0))) e.2).map (·.1) =
      paged plan.limit plan.offset xs := by
  unfold inWindow paged
  cases hlimit : plan.limit with
  | none =>
    have hall : ∀ e ∈ xs.zipIdx 1, e.2 ≤ xs.length := by
      intro e he
      have hlt := List.snd_lt_of_mem_zipIdx he
      omega
    have hfilter : (xs.zipIdx 1).filter (fun e => decide ((plan.offset.getD 0).toNat < e.2) &&
        (Option.map (saturatingAdd (plan.offset.getD 0)) none).all fun last => e.2 ≤ last.toNat) =
        (xs.zipIdx 1).filter fun e => decide ((plan.offset.getD 0).toNat < e.2) &&
          decide (e.2 ≤ xs.length) := by
      apply List.filter_congr
      intro e he
      simp [hall e he]
    rw [hfilter, map_fst_filter_zipIdx]
    simp
  | some limit =>
    have hcounts := h limit hlimit
    simp only [Option.map_some, Option.all_some, toNat_saturatingAdd]
    rw [map_fst_filter_zipIdx, List.drop_take]
    simp only [Nat.add_sub_cancel]
    rw [List.take_eq_take_iff, List.length_drop]
    omega

theorem joins_iff : joins d join key row ↔ row join.columnName ≠ .null ∧ key ≠ .null ∧
    d.holds join.columnName .equal (row join.columnName) key := by
  unfold joins Dialect.compare
  by_cases hnull : row join.columnName = .null ∨ key = .null
  · rcases hnull with h | h <;> simp [h]
  · obtain ⟨hrow, hkey⟩ := not_or.1 hnull
    cases hholds : d.holds join.columnName .equal (row join.columnName) key <;>
      simp [hrow, hkey, Truth.ofBool]

/-- Of the rows that join with any key, those that join with one are the same in the join column. -/
theorem same_iff_joins (hv : joins d join key' v) (hw : joins d join key w) :
    c.same join.columnName v w ↔ joins d join key v := by
  obtain ⟨hvnull, _, _⟩ := joins_iff.1 hv
  obtain ⟨hwnull, hknull, hholds⟩ := joins_iff.1 hw
  rw [joins_iff, Collation.same_iff, and_comm, ← c.equal_iff hwnull hvnull hknull hholds]
  simp [hvnull, hknull]

/-- The rows that fulfil the predicate and join with any of the keys. -/
def batch (d : Dialect) (m : Model) (join : Field) (plan : QueryPlan) (keys : List Value)
    (table : List Row) : List Row :=
  table.filter fun row => keys.any (joins d join · row) && fulfils d m plan row

theorem filter_batch (hk : key ∈ keys) :
    (batch d m join plan keys table).filter (joins d join key) =
      table.filter fun row => joins d join key row && fulfils d m plan row := by
  rw [batch, List.filter_filter]
  apply List.filter_congr
  intro row _
  by_cases hjoins : joins d join key row
  · have hany : keys.any (joins d join · row) := List.any_eq_true.2 ⟨key, hk, hjoins⟩
    simp [hjoins, hany]
  · simp [hjoins]

theorem exists_joins_of_mem_batch (h : row ∈ batch d m join plan keys table) :
    ∃ key ∈ keys, joins d join key row := by
  have hand := (List.mem_filter.1 h).2
  exact List.any_eq_true.1 (Bool.and_eq_true_iff.1 hand).1

/-- Rows merge pages as soon as those of each key are the rows of its page, in any order. -/
theorem Collation.Arranged.merges {chosen : List Row}
    (h : c.Arranged [join.columnName, m.primaryKey.columnName] chosen rows)
    (hd : c.Apart m.primaryKey.columnName chosen)
    (hjoined : ∀ row ∈ chosen, ∃ key ∈ keys, joins d join key row)
    (hpage : ∀ key ∈ keys,
      (chosen.filter (joins d join key)).Perm (pageOf c m join plan table key)) :
    Merges c m join plan table keys rows := by
  have hapart : c.Apart m.primaryKey.columnName rows := hd.perm h.perm
  refine ⟨?_, fun row hrow => hjoined row (h.perm.mem_iff.1 hrow), ?_⟩
  · intro key hk
    have hperm := (h.perm.filter (joins d join key)).trans (hpage key hk)
    -- rows that join with one key differ in the primary key alone
    have hrows : (rows.filter (joins d join key)).Pairwise fun v w =>
        c.before [m.primaryKey.columnName] v w := by
      apply (h.ordered.filter _).imp_of_mem
      intro v w hv hw hvw
      have hv' := (List.mem_filter.1 hv).2
      have hs : c.same join.columnName v w :=
        (same_iff_joins hv' (List.mem_filter.1 hw).2).2 hv'
      exact (before_cons_iff.1 hvw).2 hs
    have hsorted : (pageOf c m join plan table key).Pairwise fun v w =>
        c.before [m.primaryKey.columnName] v w :=
      (c.arranged_arrange _ _).ordered.sublist (paged_sublist _ _ _)
    apply List.Perm.eq_of_pairwise ?_ hrows hsorted hperm
    intro v w hv hw hvw hwv
    have hs := same_of_before hvw hwv (List.mem_singleton_self _)
    exact hapart.eq_of_same (List.mem_of_mem_filter hv)
      (List.mem_of_mem_filter (hperm.mem_iff.2 hw)) hs
  · refine (h.ordered.and hapart).imp ?_
    rintro v w ⟨hvw, hn⟩
    exact ⟨hvw, fun hwv => hn (same_of_before hvw hwv (by simp))⟩

theorem Merges.mem_iff (h : Merges c m join plan table keys rows) :
    row ∈ rows ↔ ∃ key ∈ keys, row ∈ pageOf c m join plan table key := by
  constructor
  · intro hrow
    obtain ⟨key, hk, hjoins⟩ := h.joined row hrow
    refine ⟨key, hk, ?_⟩
    rw [← h.page key hk]
    exact List.mem_filter.2 ⟨hrow, hjoins⟩
  · rintro ⟨key, hk, hrow⟩
    rw [← h.page key hk] at hrow
    exact List.mem_of_mem_filter hrow

/-- There is one merge of the pages. -/
theorem Merges.unique (h : Merges c m join plan table keys rows)
    (h' : Merges c m join plan table keys rows') : rows = rows' := by
  have hanti : Std.Antisymm fun v w => c.before [join.columnName, m.primaryKey.columnName] v w ∧
      ¬ c.before [join.columnName, m.primaryKey.columnName] w v :=
    ⟨fun v w hvw hwv => (hvw.2 hwv.1).elim⟩
  have hirrefl : Std.Irrefl fun v w => c.before [join.columnName, m.primaryKey.columnName] v w ∧
      ¬ c.before [join.columnName, m.primaryKey.columnName] w v :=
    ⟨fun v hv => hv.2 hv.1⟩
  apply List.Pairwise.eq_of_mem_iff h.ordered h'.ordered
  intro row
  rw [h.mem_iff, h'.mem_iff]

/-- For one key the page comes as it is. -/
theorem Merges.eq_pageOf (h : Merges c m join plan table [key] rows) :
    rows = pageOf c m join plan table key := by
  rw [← h.page key (List.mem_singleton_self key), eq_comm, List.filter_eq_self]
  intro row hrow
  obtain ⟨key', hk, hjoins⟩ := h.joined row hrow
  cases List.mem_singleton.1 hk
  exact hjoins

theorem batch_apart (hd : c.Apart m.primaryKey.columnName table) :
    c.Apart m.primaryKey.columnName (batch d m join plan keys table) :=
  List.Pairwise.sublist List.filter_sublist hd

theorem merges_batch (hlimit : plan.limit = none) (hoffset : plan.offset = none)
    (hd : c.Apart m.primaryKey.columnName table)
    (h : c.Arranged [join.columnName, m.primaryKey.columnName] (batch d m join plan keys table)
      rows) : Merges c m join plan table keys rows := by
  apply h.merges (batch_apart hd) fun row => exists_joins_of_mem_batch
  intro key hk
  rw [filter_batch hk, pageOf, hlimit, hoffset]
  exact (c.arranged_arrange _ _).perm.symm

theorem merges_windowed (hd : c.Apart m.primaryKey.columnName table)
    (hcounts : CountsTo plan table.length)
    (hordered : c.Arranged [m.primaryKey.columnName] (batch d m join plan keys table) ordered)
    (h : c.Arranged [join.columnName, m.primaryKey.columnName]
      (c.windowed join.columnName (plan.offset.getD 0)
        (plan.limit.map (saturatingAdd (plan.offset.getD 0))) ordered) rows) :
    Merges c m join plan table keys rows := by
  have hsub := c.windowed_sublist join.columnName (plan.offset.getD 0)
    (plan.limit.map (saturatingAdd (plan.offset.getD 0))) ordered
  have hmem (row : Row) (hrow : row ∈ ordered) : ∃ key ∈ keys, joins d join key row :=
    exists_joins_of_mem_batch (hordered.perm.mem_iff.1 hrow)
  apply h.merges
  · exact List.Pairwise.sublist hsub ((batch_apart hd).perm hordered.perm)
  · exact fun row hrow => hmem row (hsub.mem hrow)
  · intro key hk
    have hclass : ∀ v ∈ ordered, ∀ w ∈ ordered, joins d join key w →
        (c.same join.columnName v w ↔ joins d join key v) := by
      intro v hv w _ hw
      obtain ⟨key', _, hv⟩ := hmem v hv
      exact same_iff_joins hv hw
    -- the rows of the key among the ordered ones are what its page is cut from
    have hpage : ordered.filter (joins d join key) = c.arrange [m.primaryKey.columnName]
        (table.filter fun row => joins d join key row && fulfils d m plan row) := by
      rw [← filter_batch hk]
      have hfilter : c.Arranged [m.primaryKey.columnName]
          ((batch d m join plan keys table).filter (joins d join key))
          (ordered.filter (joins d join key)) :=
        ⟨hordered.perm.filter _, hordered.ordered.filter _⟩
      exact hfilter.unique (c.arranged_arrange _ _)
        (List.Pairwise.sublist List.filter_sublist (batch_apart hd)) (List.mem_singleton_self _)
    have hlength : (ordered.filter (joins d join key)).length ≤ table.length :=
      calc
        _ ≤ ordered.length := List.length_filter_le _ _
        _ = (batch d m join plan keys table).length := hordered.perm.length_eq
        _ ≤ table.length := List.length_filter_le _ _
    have hcount : CountsTo plan (ordered.filter (joins d join key)).length := by
      intro limit hlimit
      exact (hcounts limit hlimit).imp_left fun hlt => Nat.lt_of_le_of_lt hlength hlt
    rw [Collation.filter_windowed hclass, map_fst_window hcount, hpage]
    exact .refl _

end CrudPlan.Sql
