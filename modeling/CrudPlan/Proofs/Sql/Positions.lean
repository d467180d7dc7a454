import CrudPlan.Proofs.Request.Page
import CrudPlan.Proofs.Sql.Answers
import CrudPlan.Proofs.Sql.Window

namespace CrudPlan

namespace Sql

def limitClause (ts : List Token) : List Token := ts.dropWhile (· ≠ .word "LIMIT")

/-- The limit and the offset of a clause. Without a clause the limit is -1, which is none. -/
def readLimit? : List Token → Option (Int × Nat)
  | [] => some (-1, 0)
  | [.word "LIMIT", .number n] => some (n, 0)
  | [.word "LIMIT", .number n, .word "OFFSET", .number k] => some (n, k)
  | [.word "LIMIT", .minus, .number n, .word "OFFSET", .number k] => some (-n, k)
  | _ => none

/-- The row at a position, counted from one, is behind the offset of a statement and up to its
limit. -/
def KeepsPosition (sql : String) (p : Nat) : Prop :=
  ∃ ts limit offset, Lexes sql.toList ts ∧ readLimit? (limitClause ts) = some (limit, offset) ∧
    offset < p ∧ (0 ≤ limit → (p : Int) ≤ offset + limit)

/-- The number of a row passes the bounds that a query has for it, if any. -/
def Query.Passes (n : Nat) : Query → Prop
  | .numbered _ _ _ _ _ after upTo _ => inWindow after upTo n
  | .rows .. | .count .. => True

/-- A statement keeps the row that has a number among the rows with the same key. -/
def KeepsNumber (sql : String) (n : Nat) : Prop :=
  ∃ ts q, Lexes sql.toList ts ∧ ReadsQuery ts q ∧ q.Passes n

variable {outputs : List Output} {table sql : String} {cs : List (Condition Nat)}
  {order : List String} {limit offset : Option UInt64} {ts : List Token} {q : Query} {n p : Nat}

theorem limitClause_limitTokens (limit offset : Option UInt64) :
    limitClause (limitTokens limit offset) = limitTokens limit offset := by
  unfold limitTokens
  split <;> try split
  all_goals rfl

theorem limitClause_rows (outputs : List Output) (table : String) (order : List String)
    (limit offset : Option UInt64) (h : ∀ c ∈ cs, c.Proper) :
    limitClause (Query.rows outputs table cs order limit offset).tokens =
      limitTokens limit offset := by
  -- names and conditions have no word `LIMIT` in them
  have hwhere := (readsFilter_where h).word_not_mem (w := "LIMIT") (by decide)
  have hfront : .word "LIMIT" ∉ .word "SELECT" :: (listTokens (outputs.map Output.tokens) ++
      .word "FROM" :: .name table :: (whereTokens cs ++ orderTokens order)) := by
    simp [orderTokens, hwhere, word_not_mem_outputs, word_not_mem_names]
  have htokens : (Query.rows outputs table cs order limit offset).tokens =
      (.word "SELECT" :: (listTokens (outputs.map Output.tokens) ++
        .word "FROM" :: .name table :: (whereTokens cs ++ orderTokens order))) ++
        limitTokens limit offset := by
    simp [Query.tokens]
  rw [htokens, limitClause, List.dropWhile_append_of_pos, ← limitClause, limitClause_limitTokens]
  intro t ht
  simpa using fun he : t = .word "LIMIT" => hfront (he ▸ ht)

/-- The clause for a limit and an offset reads as these, and as no offset where that is zero. -/
theorem readLimit_limitTokens (limit offset : Option UInt64) :
    readLimit? (limitTokens limit offset) =
      some (limit.elim (-1 : Int) fun l => l.toNat, (offset.getD 0).toNat) := by
  have hzero {k : UInt64} (hk : ¬ 0 < k) : k.toNat = 0 := by
    rw [UInt64.lt_iff_toNat_lt] at hk
    simpa using hk
  unfold limitTokens
  split
  · split
    · rfl
    · rename_i hk
      simp [readLimit?, hzero hk]
  · rfl
  · split
    · rfl
    · rename_i hk
      simp [readLimit?, hzero hk]
  · rfl

theorem keepsPosition_iff {l : Int} {k : Nat} (hts : Lexes sql.toList ts)
    (hread : readLimit? (limitClause ts) = some (l, k)) :
    KeepsPosition sql p ↔ k < p ∧ (0 ≤ l → (p : Int) ≤ k + l) := by
  constructor
  · rintro ⟨us, l', k', hus, hread', h⟩
    obtain rfl := hts.unique hus
    cases hread.symm.trans hread'
    exact h
  · exact fun h => ⟨ts, l, k, hts, hread, h⟩

theorem keepsPosition_rows (h : ∀ c ∈ cs, c.Proper) :
    KeepsPosition (Query.rows outputs table cs order limit offset).text p ↔
      InPage limit offset p := by
  have hlexes := (Query.rows outputs table cs order limit offset).lexes h
  have hread : readLimit? (limitClause (Query.rows outputs table cs order limit offset).tokens) =
      some (limit.elim (-1 : Int) fun l => l.toNat, (offset.getD 0).toNat) := by
    rw [limitClause_rows _ _ _ _ _ h, readLimit_limitTokens]
  rw [keepsPosition_iff hlexes hread, InPage]
  apply and_congr_right
  intro _
  cases limit with
  | none => simp
  | some l =>
    simp only [Option.elim_some, Option.mem_def, Option.some.injEq, forall_eq']
    omega

theorem keepsNumber_iff (hts : Lexes sql.toList ts) (hq : ReadsQuery ts q) :
    KeepsNumber sql n ↔ q.Passes n := by
  constructor
  · rintro ⟨us, q', hus, hq', h⟩
    obtain rfl := hts.unique hus
    rwa [hq.unique hq']
  · exact fun h => ⟨ts, q, hts, hq, h⟩

theorem inWindow_iff (limit offset : Option UInt64) (h : n < UInt64.size) :
    inWindow (offset.getD 0) (limit.map (saturatingAdd (offset.getD 0))) n ↔
      InPage limit offset n := by
  unfold inWindow InPage
  rw [Bool.and_eq_true, decide_eq_true_eq]
  apply and_congr_right
  intro _
  cases limit with
  | none => simp
  | some l => simpa using le_saturatingAdd_iff h

end Sql

open Sql

namespace Model

variable {m : Model} {join : Field} {plan : QueryPlan} {keys : List Value} {s : Statement} {p : Nat}

theorem selectRows_keepsPosition (h : m.selectRows plan = .ok s) :
    KeepsPosition s.sql p ↔ InPage plan.limit plan.offset p := by
  obtain ⟨cs, hproper, hsql⟩ := selectRows_sql h
  rw [hsql]
  exact keepsPosition_rows hproper

/-- Without limit and offset there are no numbers, and every row is on the page. -/
theorem Sound.relatedStatement_keepsNumber (hs : m.Sound)
    (h : m.relatedStatement join plan keys = .ok s) (hp : 1 ≤ p) (hsize : p < UInt64.size) :
    KeepsNumber s.sql p ↔ InPage plan.limit plan.offset p := by
  obtain ⟨cs, hne, hproper, hsql⟩ := relatedStatement_sql h
  have houts := hs.outputs_ne_nil
  have hlexes := (m.relatedQuery join plan cs).lexes (by rwa [conditions_relatedQuery])
  rw [← hsql] at hlexes
  by_cases hplan : plan.limit = none ∧ plan.offset = none
  · rw [relatedQuery_plain join cs hplan.1 hplan.2] at hlexes
    rw [keepsNumber_iff hlexes (Query.reads_rows houts (List.cons_ne_nil _ _) hne hproper),
      hplan.1, hplan.2]
    simpa [Query.Passes, InPage] using Nat.succ_le_iff.1 hp
  · rw [m.relatedQuery_windowed join cs (not_and_or.1 hplan)] at hlexes
    rw [keepsNumber_iff hlexes (Query.reads_numbered houts (List.cons_ne_nil _ _) hne hproper)]
    exact inWindow_iff _ _ hsize

end Model

/-- The page of a plan is what the clause of the statement for its rows keeps, and what the bounds
on row numbers keep for each parent, as far as a number of 64 bits can count. More rows are reported
exactly if there are positions behind the page, and pages that follow each other from the first on,
as long as there are more, come to an end and have each position once. -/
theorem pages_agree :
    (∀ (m : Model) (plan : QueryPlan) (s : Statement), m.selectRows plan = .ok s →
      ∀ p, KeepsPosition s.sql p ↔ InPage plan.limit plan.offset p) ∧
    (∀ (d : Declaration) (r : Registry), Registry.build d = .ok r → ∀ m ∈ r.models,
      ∀ x ∈ m.relations, ∀ plan keys s, r.selectRelated x plan keys = .ok s →
        ∀ p, 1 ≤ p → p < UInt64.size → (KeepsNumber s.sql p ↔ InPage plan.limit plan.offset p)) ∧
    (∀ (args : Args) (total : UInt64), (PageInfo.ofArgs args total).hasMore ↔
      ∃ limit, args.limit = some limit ∧
        ∃ p ≤ total.toNat, (args.offset.getD 0).toNat + limit.toNat < p) ∧
    ∀ total limit : UInt64, 1 ≤ limit → ∃ offsets,
      (∀ offsets', Walks limit total 0 offsets' ↔ offsets' = offsets) ∧
        offsets.flatMap (fun offset => positions (some limit) (some offset) total) =
          List.range' 1 total.toNat := by
  refine ⟨fun m plan s h p => Model.selectRows_keepsPosition h, ?_, PageInfo.hasMore_iff, ?_⟩
  · intro d r hr m hm x hx plan keys s h p hp hsize
    have hcoherent := Registry.coherent_of_build hr
    obtain ⟨foreign, hmem, own, join, _, _, _, heq⟩ := hcoherent.selectRelated hm hx
    rw [heq] at h
    exact (hcoherent.sound foreign hmem).relatedStatement_keepsNumber h hp hsize
  · intro total limit hlimit
    have hzero : (0 : UInt64).toNat ≤ total.toNat := Nat.zero_le _
    obtain ⟨offsets, hwalks, hcover⟩ := walks_cover hlimit hzero
    refine ⟨offsets, fun offsets' => ⟨fun h => h.unique hwalks, ?_⟩, hcover⟩
    rintro rfl
    exact hwalks

theorem pages_agree_blog : ∃ r m x s t, Registry.build blog = .ok r ∧ m ∈ r.models ∧
    x ∈ m.relations ∧ m.selectRows { offset := some 3 } = .ok s ∧
    r.selectRelated x { limit := some 0xFFFFFFFFFFFFFFFF, offset := some 3 } [.int 7] = .ok t ∧
    ¬ KeepsPosition s.sql 3 ∧ KeepsPosition s.sql 4 ∧
    ¬ KeepsNumber t.sql 3 ∧ KeepsNumber t.sql (UInt64.size - 1) ∧
    ∃ offsets, Walks 2 5 0 offsets ∧
      offsets.flatMap (fun offset => positions (some 2) (some offset) 5) = [1, 2, 3, 4, 5] := by
  obtain ⟨hrows, hrelated, _, hwalks⟩ := pages_agree
  have hr : Registry.build blog = .ok _ := rfl
  have hnumber := hrelated _ _ hr _ (List.mem_of_getElem? (i := 1) rfl) _
    (List.mem_of_getElem? (i := 1) rfl) { limit := some 0xFFFFFFFFFFFFFFFF, offset := some 3 }
    [.int 7] _ rfl
  obtain ⟨offsets, hoffsets, hcover⟩ := hwalks 5 2 (by decide)
  refine ⟨_, _, _, _, _, hr, List.mem_of_getElem? (i := 1) rfl, List.mem_of_getElem? (i := 1) rfl,
    rfl, rfl, ?_, ?_, ?_, ?_, offsets, (hoffsets offsets).2 rfl, hcover⟩
  · rw [hrows _ { offset := some 3 } _ rfl]
    decide
  · rw [hrows _ { offset := some 3 } _ rfl]
    decide
  · rw [hnumber 3 (by decide) (by decide)]
    decide
  · rw [hnumber (UInt64.size - 1) (by decide) (by decide)]
    decide +kernel

end CrudPlan
