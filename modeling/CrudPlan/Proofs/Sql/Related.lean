import CrudPlan.Proofs.Sql.Pages
import CrudPlan.Proofs.Sql.Statements
import Mathlib.Data.Prod.Lex
import Mathlib.Data.String.Basic

namespace CrudPlan

open Sql

variable {d : Dialect} {c : Collation d} {m : Model} {join f : Field} {plan : QueryPlan}
  {keys : List Value} {table : List Row} {db : Database} {s : Statement} {out : List Record}
  {ts : List (Condition Value)} {cs : List (Condition Nat)} {vs : List Value} {ws : List Token}
  {q : Query}

namespace Sql

theorem answers_iff (hl : Lexes s.sql.toList ws) (hq : ReadsQuery ws q) :
    c.Answers db s out ↔ q.Returns c db s.values out := by
  constructor
  · rintro ⟨ws', q', hl', hq', h⟩
    obtain rfl := hl.unique hl'
    rwa [hq.unique hq']
  · intro h
    exact ⟨ws, q, hl, hq, h⟩

/-- With its parameters replaced, a condition has the value of the tree that it stands for. -/
theorem AllMean.value_eq (h : AllMean cs vs 0 ts) (row : Row) :
    ((conjoin (cs.map Condition.flat)).map fun n => (parameter vs n).getD .null).value d row =
      (conjoin ts).value d row := by
  have hmap := h.map_eq (placed_parameter [] vs)
  have hcompose : (fun n => (parameter vs n).getD Value.null) =
      (fun v : Option Value => v.getD .null) ∘ parameter vs := rfl
  have hid : (fun v : Option Value => v.getD Value.null) ∘ some = id := rfl
  rw [hcompose, ← Condition.map_map, Condition.map_conjoin (parameter vs)]
  have htrees : (cs.map Condition.flat).map (Condition.map (parameter vs)) =
      ts.map (Condition.map some) := hmap
  rw [htrees, ← Condition.map_conjoin, Condition.map_map, hid, Condition.map_id]

theorem selected_related (hts : predicateTree.trees m plan.predicate.toList = some ts)
    (h : AllMean cs vs 0 (amongValues join.columnName keys :: ts)) :
    selected d vs [conjoin (cs.map Condition.flat)] table = batch d m join plan keys table := by
  apply List.filter_congr
  intro row _
  have hvalue : (conjoin (amongValues join.columnName keys :: ts)).value d row =
      (Truth.any (keys.map (d.compare row join.columnName .equal))).and
        (optionalValue d row m plan.predicate) := by
    rw [← value_optional hts, Condition.value_conjoin, Condition.value_conjoin, List.map_cons,
      value_amongValues]
    rfl
  rw [List.all_cons, List.all_nil, Bool.and_true, h.value_eq, hvalue, Bool.eq_iff_iff]
  simp [Truth.and_eq_yes_iff, Truth.any_eq_yes_iff, joins, fulfils]

end Sql

theorem Model.Sound.columnOf (hs : m.Sound) (hf : f ∈ m.fields) :
    columnOf m.outputs f.name = f.columnName := by
  have hnames : (m.outputs.map (·.name)).Nodup := by
    rw [outputs, List.map_map]
    exact hs.names
  have hmem : (⟨f.columnName, f.name⟩ : Output) ∈ m.outputs := List.mem_map.2 ⟨f, hf, rfl⟩
  rw [Sql.columnOf, (find?_key_eq_some_iff hnames).2 ⟨hmem, rfl⟩]
  rfl

theorem Model.Sound.outputs_ne_nil (hs : m.Sound) : m.outputs ≠ [] := by
  have hne : m.fields ≠ [] := by
    intro hnil
    have hkey := hs.primary
    rw [hnil] at hkey
    cases hkey
  simpa [outputs] using hne

/-- What comes back for many keys is the merge of the pages of each. -/
theorem Model.Sound.related_answers (hs : m.Sound) (hjoin : join ∈ m.fields)
    (hd : c.Apart m.primaryKey.columnName (db m.tableName))
    (hcounts : CountsTo plan (db m.tableName).length)
    (h : m.relatedStatement join plan keys = .ok s) :
    ∃ rows, Merges c m join plan (db m.tableName) keys rows ∧
      ∀ out, c.Answers db s out ↔ out = rows.map (recordOf m.outputs) := by
  obtain ⟨cs, ts, hts, hsql, hall⟩ := relatedStatement_means h
  have hselected : selected d s.values [conjoin (cs.map Condition.flat)] (db m.tableName) =
      batch d m join plan keys (db m.tableName) := selected_related hts hall
  have hapart : c.Apart m.primaryKey.columnName
      (selected d s.values [conjoin (cs.map Condition.flat)] (db m.tableName)) := by
    rw [hselected]
    exact batch_apart hd
  have hne : cs ≠ [] := by
    rw [← List.length_pos_iff, hall.length_eq]
    exact Nat.succ_pos _
  have hproper : ∀ c ∈ (m.relatedQuery join plan cs).conditions, c.Proper := by
    rw [conditions_relatedQuery]
    exact hall.proper
  have hlexes := (m.relatedQuery join plan cs).lexes hproper
  rw [← hsql, Model.relatedQuery] at hlexes
  split at hlexes
  · rename_i hplain
    have hlimit : plan.limit = none := by simpa using hplain.1
    have hoffset : plan.offset = none := by simpa using hplain.2
    refine ⟨_, merges_batch hlimit hoffset hd (c.arranged_arrange _ _), ?_⟩
    intro out
    rw [answers_iff hlexes
      (Query.reads_rows hs.outputs_ne_nil (List.cons_ne_nil _ _) hne hall.proper)]
    rw [Query.returns_rows_iff hapart (by simp), hselected]
    rfl
  · have hcolumns : [join.name, m.primaryKey.name].map (Sql.columnOf m.outputs) =
        [join.columnName, m.primaryKey.columnName] := by
      simp [hs.columnOf hjoin, hs.columnOf hs.primaryKey_mem]
    refine ⟨_, merges_windowed hd hcounts (c.arranged_arrange _ _) (c.arranged_arrange _ _), ?_⟩
    intro out
    rw [answers_iff hlexes
      (Query.reads_numbered hs.outputs_ne_nil (List.cons_ne_nil _ _) hne hall.proper)]
    rw [Query.returns_numbered_iff hapart (by simp [hcolumns]), hselected, hcolumns]

/-- For every relation there is a statement as soon as the predicate keeps to the foreign model. It
returns the merge of the pages of all keys, for a single key its page; and without limit and offset
it returns what it does when rows are numbered. -/
theorem Registry.selectRelated_merges {decl : Declaration} {r : Registry} {x : Relation}
    (h : Registry.build decl = .ok r) (hm : m ∈ r.models) (hx : x ∈ m.relations) :
    ∃ foreign own join, r.foreignModel? x = some foreign ∧ r.joinFields? x = some (own, join) ∧
      (∀ plan keys, (∃ s, r.selectRelated x plan keys = .ok s) ↔ foreign.Knows plan.predicate) ∧
      ∀ (d : Dialect) (c : Collation d) (db : Database) plan keys s,
        r.selectRelated x plan keys = .ok s →
        c.Apart foreign.primaryKey.columnName (db foreign.tableName) →
        CountsTo plan (db foreign.tableName).length →
        (∃ rows, Merges c foreign join plan (db foreign.tableName) keys rows ∧
          ∀ out, c.Answers db s out ↔ out = rows.map (recordOf foreign.outputs)) ∧
        (∀ key s', r.selectRelated x plan [key] = .ok s' → ∀ out, c.Answers db s' out ↔
          out = (pageOf c foreign join plan (db foreign.tableName) key).map
            (recordOf foreign.outputs)) ∧
        (plan.limit = none → plan.offset = none → ∀ s',
          r.selectRelated x { plan with offset := some 0 } keys = .ok s' →
            ∀ out, c.Answers db s' out ↔ c.Answers db s out) := by
  have hr := Registry.coherent_of_build h
  obtain ⟨foreign, hmem, own, join, hjoin, hforeign, hfields, heq⟩ := hr.selectRelated hm hx
  have hs := hr.sound foreign hmem
  simp only [heq]
  refine ⟨foreign, own, join, hforeign, hfields, ?_, ?_⟩
  · intro plan keys
    exact Model.exists_relatedStatement_iff
  intro d c db plan keys s hstatement hd hcounts
  obtain ⟨rows, hmerges, hanswers⟩ := hs.related_answers hjoin hd hcounts hstatement
  refine ⟨⟨rows, hmerges, hanswers⟩, ?_, ?_⟩
  · intro key s' hs'
    obtain ⟨page, hpage, hanswers'⟩ := hs.related_answers hjoin hd hcounts hs'
    rwa [hpage.eq_pageOf] at hanswers'
  · intro hlimit hoffset s' hs' out
    have hcounts' : CountsTo { plan with offset := some 0 } (db foreign.tableName).length := by
      intro limit hsome
      cases hlimit.symm.trans hsome
    obtain ⟨rows', hmerges', hanswers'⟩ := hs.related_answers hjoin hd hcounts' hs'
    have hpage : pageOf c foreign join { plan with offset := some 0 } (db foreign.tableName) =
        pageOf c foreign join plan (db foreign.tableName) := by
      unfold pageOf
      rw [hoffset]
      rfl
    have hrows : rows' = rows := by
      refine Merges.unique ⟨?_, hmerges'.joined, hmerges'.ordered⟩ hmerges
      intro key hk
      rw [← hpage]
      exact hmerges'.page key hk
    rw [hanswers', hanswers, hrows]

namespace Sql

/-- Values by their kind first, missing ones before all others. -/
def Value.rank : Value → Nat ×ₗ Int ×ₗ String
  | .null => toLex (0, toLex (0, ""))
  | .bool b => toLex (1, toLex (b.toNat, ""))
  | .int n => toLex (2, toLex (n, ""))
  | .real x =>
    toLex (3, toLex (if x.isNegative then -(x.magnitudeBits : Int) else x.magnitudeBits, ""))
  | .text s => toLex (4, toLex (0, s))

/-- A database that compares values of all columns alike. -/
def uniform : Dialect where
  holds _ comparison v w :=
    match comparison with
    | .equal => v.rank = w.rank
    | .unequal => v.rank ≠ w.rank
    | .less => v.rank < w.rank
    | .lessOrEqual => v.rank ≤ w.rank
    | .greater => w.rank < v.rank
    | .greaterOrEqual => w.rank ≤ v.rank
  text
    | .text s => s
    | v => v.toJson.compact
  text_text _ := rfl
  same := (· == ·)

def uniformOrder : Collation uniform where
  le _ v w := v.rank ≤ w.rank
  total _ v w := by simpa using le_total v.rank w.rank
  trans h h' := decide_eq_true (le_trans (of_decide_eq_true h) (of_decide_eq_true h'))
  equal_iff := by
    intro _ v w key _ _ _ h
    have hkey : v.rank = key.rank := by simpa [uniform] using h
    simp only [uniform, decide_eq_true_eq]
    rw [← hkey, eq_comm, le_antisymm_iff]

/-- Two authors with their posts, by number and author. -/
def written : Database := fun _ =>
  [(5, 7), (2, 8), (1, 7), (4, 7), (6, 8), (3, 7)].map fun (id, author) column =>
    if column = "id" then .int id else if column = "author_id" then .int author else .null

theorem written_apart : uniformOrder.Apart "id" (written "posts") := by
  unfold Collation.Apart
  decide

/-- The second and the third post of each author. -/
theorem selectRelated_merges_written : ∃ r m x s foreign join rows,
    Registry.build blog = .ok r ∧ m ∈ r.models ∧ x ∈ m.relations ∧
      r.selectRelated x { limit := some 2, offset := some 1 } [.int 8, .int 7, .int 8] = .ok s ∧
      (∀ out, uniformOrder.Answers written s out ↔ out = rows.map (recordOf foreign.outputs)) ∧
      Merges uniformOrder foreign join { limit := some 2, offset := some 1 }
        (written foreign.tableName) [.int 8, .int 7, .int 8] rows ∧
      (pageOf uniformOrder foreign join { limit := some 2, offset := some 1 }
        (written foreign.tableName) (.int 7)).map (· "id") = [.int 3, .int 4] := by
  have h : Registry.build blog = .ok _ := rfl
  obtain ⟨foreign, own, join, hforeign, hfields, _, hanswers⟩ := Registry.selectRelated_merges h
    (List.mem_of_getElem? (i := 1) rfl) (List.mem_of_getElem? (i := 1) rfl)
  cases hforeign
  cases hfields
  obtain ⟨⟨rows, hmerges, hrows⟩, _, _⟩ := hanswers uniform uniformOrder written
    { limit := some 2, offset := some 1 } [.int 8, .int 7, .int 8] _ rfl written_apart
    fun _ _ => .inl (by decide)
  exact ⟨_, _, _, _, _, _, rows, h, List.mem_of_getElem? (i := 1) rfl,
    List.mem_of_getElem? (i := 1) rfl, rfl, hrows, hmerges, by decide⟩

end Sql

end CrudPlan
