import CrudPlan.Proofs.Sql.QueryText

namespace CrudPlan.Sql

def clauseWords : List String :=
  ["GROUP", "HAVING", "WINDOW", "UNION", "EXCEPT", "INTERSECT", "ORDER", "LIMIT"]

namespace Token

def endsClause : Token → Bool
  | word w => w ∈ clauseWords
  | _ => false

def isBracket : Token → Bool
  | opening | closing => true
  | _ => false

end Token

/-- The tokens up to the end of a clause, with brackets open to some depth. -/
def clause : Nat → List Token → List Token
  | _, [] => []
  | depth, .opening :: ts => .opening :: clause (depth + 1) ts
  | 0, .closing :: _ => []
  | depth + 1, .closing :: ts => .closing :: clause depth ts
  | depth, t :: ts => if depth = 0 ∧ t.endsClause then [] else t :: clause depth ts

/-- The condition of a statement, if it has one. -/
def whereClause : List Token → Option (List Token)
  | [] => none
  | .word "WHERE" :: ts => some (clause 0 ts)
  | _ :: ts => whereClause ts

def ReadsCondition (s : String) (c : Condition Nat) : Prop :=
  ∃ ts, Lexes s.toList ts ∧ ReadsAs ts c

/-- A statement has a condition that reads as the given one. -/
def ReadsWhere (sql : String) (c : Condition Nat) : Prop :=
  ∃ ts us, Lexes sql.toList ts ∧ whereClause ts = some us ∧ ReadsAs us c

def LacksWhere (sql : String) : Prop := ∃ ts, Lexes sql.toList ts ∧ whereClause ts = none

variable {s sql : String} {c d : Condition Nat} {cs : List (Condition Nat)} {q : Query}
variable {t : Token} {ts us : List Token} {tss : List (List Token)}

theorem Lexes.unique {cs : List Char} (h : Lexes cs ts) (h' : Lexes cs us) : ts = us :=
  Option.some.inj (Eq.trans (Eq.symm h) h')

theorem ReadsCondition.unique (h : ReadsCondition s c) (h' : ReadsCondition s d) : c = d := by
  obtain ⟨ts, hts, hc⟩ := h
  obtain ⟨us, hus, hd⟩ := h'
  obtain rfl := hts.unique hus
  exact hc.unique hd

theorem ReadsWhere.unique (h : ReadsWhere sql c) (h' : ReadsWhere sql d) : c = d := by
  obtain ⟨ts, us, hts, hus, hc⟩ := h
  obtain ⟨ts', us', hts', hus', hd⟩ := h'
  obtain rfl := hts.unique hts'
  cases hus.symm.trans hus'
  exact hc.unique hd

theorem Condition.Proper.readsCondition (h : c.Proper) : ReadsCondition c.text c.flat :=
  ⟨_, h.lexes, _, .conjunction (.factor h.reads), rfl⟩

/-- No clause ends inside these tokens, and they open as many brackets as they close. -/
def Balanced (ts : List Token) : Prop :=
  ∀ depth rest, clause depth (ts ++ rest) = ts ++ clause depth rest

theorem balanced_nil : Balanced [] := fun _ _ => rfl

theorem Balanced.append (h : Balanced ts) (h' : Balanced us) : Balanced (ts ++ us) := by
  intro depth rest
  rw [List.append_assoc, h, h', List.append_assoc]

theorem balanced_singleton (hb : t.isBracket = false) (he : t.endsClause = false) :
    Balanced [t] := by
  intro depth rest
  cases t <;> simp_all [Token.isBracket, clause]

theorem Balanced.bracket (h : Balanced ts) : Balanced (.opening :: (ts ++ [.closing])) := by
  intro depth rest
  simp [clause, h (depth + 1)]

theorem Balanced.cons (hb : t.isBracket = false) (he : t.endsClause = false) (h : Balanced ts) :
    Balanced (t :: ts) :=
  (balanced_singleton hb he).append h

theorem intercalate_induction {motive : List Token → Prop} (nil : motive [])
    (append : ∀ {us vs}, motive us → motive vs → motive (us ++ vs)) (hs : motive ts)
    (h : ∀ us ∈ tss, motive us) : motive (ts.intercalate tss) := by
  induction tss with
  | nil => exact nil
  | cons us tss ih =>
    obtain ⟨hu, htss⟩ := List.forall_mem_cons.1 h
    cases tss with
    | nil => simpa using hu
    | cons vs tss =>
      rw [List.intercalate_cons_cons, List.append_assoc]
      exact append hu (append hs (ih htss))

theorem Balanced.intercalate (hs : Balanced ts) (h : ∀ us ∈ tss, Balanced us) :
    Balanced (ts.intercalate tss) :=
  intercalate_induction balanced_nil .append hs h

theorem balanced_of_all (h : ∀ t ∈ ts, t.isBracket = false ∧ t.endsClause = false) :
    Balanced ts := by
  induction ts with
  | nil => exact balanced_nil
  | cons t ts ih =>
    obtain ⟨ht, hts⟩ := List.forall_mem_cons.1 h
    exact .cons ht.1 ht.2 (ih hts)

theorem balanced_parameterList (ps : List Nat) : Balanced (parameterList ps) := by
  apply Balanced.intercalate (balanced_singleton rfl rfl)
  intro us hus
  obtain ⟨p, _, rfl⟩ := List.mem_map.1 hus
  exact balanced_singleton rfl rfl

theorem Balanced.conditions {w : String} (hw : w ∉ clauseWords)
    (h : ∀ c ∈ cs, Balanced c.tokens) :
    Balanced ([.word w].intercalate (cs.map Condition.tokens)) := by
  apply Balanced.intercalate (balanced_singleton rfl (by simpa [Token.endsClause] using hw))
  intro us hus
  obtain ⟨c, hc, rfl⟩ := List.mem_map.1 hus
  exact h c hc

theorem Condition.Proper.balanced (h : c.Proper) : Balanced c.tokens := by
  induction h with
  | among column _ =>
    exact .cons rfl rfl (.cons rfl (by decide) (balanced_parameterList _).bracket)
  | and _ _ ih | or _ _ ih =>
    rw [tokens, tokenLists_eq_map]
    exact (Balanced.conditions (by decide) ih).bracket
  | not _ ih => exact .cons rfl (by decide) ih.bracket
  | _ => exact balanced_of_all (by simp [tokens, Token.isBracket, Token.endsClause, clauseWords])

theorem Balanced.clause_eq (h : Balanced ts) (he : clause 0 us = []) :
    clause 0 (ts ++ us) = ts := by
  rw [h, he, List.append_nil]

theorem not_mem_intercalate (hs : t ∉ ts) (h : ∀ us ∈ tss, t ∉ us) : t ∉ ts.intercalate tss := by
  apply intercalate_induction List.not_mem_nil _ hs h
  intro us vs hu hv
  exact List.not_mem_append hu hv

theorem whereClause_append (h : .word "WHERE" ∉ ts) :
    whereClause (ts ++ us) = whereClause us := by
  induction ts with
  | nil => rfl
  | cons t ts ih =>
    obtain ⟨ht, hts⟩ := not_or.1 (mt List.mem_cons.2 h)
    rw [List.cons_append, whereClause.eq_3 _ _ fun he => ht he.symm, ih hts]

theorem word_not_mem_outputs {w : String} (hw : w ≠ "AS") (outputs : List Output) :
    .word w ∉ listTokens (outputs.map Output.tokens) := by
  apply not_mem_intercalate (by simp)
  intro us hus
  obtain ⟨o, _, rfl⟩ := List.mem_map.1 hus
  unfold Output.tokens
  split <;> simp [hw]

theorem word_not_mem_names (w : String) (names : List String) : .word w ∉ namesTokens names := by
  apply not_mem_intercalate (by simp)
  intro us hus
  obtain ⟨n, _, rfl⟩ := List.mem_map.1 hus
  simp

theorem where_not_mem_limit (limit offset : Option UInt64) :
    .word "WHERE" ∉ limitTokens limit offset := by
  unfold limitTokens
  split <;> try split
  all_goals simp

theorem whereClause_where (hne : cs ≠ []) (h : ∀ c ∈ cs, c.Proper) (he : clause 0 us = []) :
    whereClause (whereTokens cs ++ us) =
      some ([.word "AND"].intercalate (cs.map Condition.tokens)) := by
  have hbalanced := Balanced.conditions (w := "AND") (by decide) fun c hc => (h c hc).balanced
  rw [whereTokens, if_neg (by simpa using hne), List.cons_append]
  exact congrArg some (hbalanced.clause_eq he)

theorem clause_order (order : List String) (us : List Token) :
    clause 0 (orderTokens order ++ us) = [] := by
  simp [orderTokens, clause, Token.endsClause, clauseWords]

namespace Query

theorem whereClause_eq (q : Query) (h : ∀ c ∈ q.conditions, c.Proper) (hne : q.conditions ≠ []) :
    whereClause q.tokens =
      some ([.word "AND"].intercalate (q.conditions.map Condition.tokens)) := by
  cases q with
  | rows outputs table conditions order limit offset =>
    have hclause := whereClause_where hne h (clause_order order (limitTokens limit offset))
    have houts := word_not_mem_outputs (w := "WHERE") (by decide) outputs
    simpa [tokens, whereClause, whereClause_append houts] using hclause
  | count table conditions =>
    have hend : clause 0 [] = [] := rfl
    have hclause := whereClause_where hne h hend
    simpa [tokens, whereClause] using hclause
  | numbered outputs table conditions group key after upTo order =>
    have hend : clause 0 (.closing :: .word "WHERE" :: (windowTokens after upTo ++
      orderTokens order)) = [] := rfl
    have hclause := whereClause_where hne h hend
    have houts := word_not_mem_outputs (w := "WHERE") (by decide) outputs
    simpa [tokens, whereClause, whereClause_append (word_not_mem_names _ _),
      whereClause_append houts] using hclause

/-- A statement reads as the conjunction of its query's conditions. -/
theorem readsWhere (q : Query) (h : ∀ c ∈ q.conditions, c.Proper) (hne : q.conditions ≠ []) :
    ReadsWhere q.text (conjoin (q.conditions.map Condition.flat)) :=
  ⟨_, _, q.lexes h, q.whereClause_eq h hne, readsAs_conjoin hne h⟩

theorem lacksWhere_rows (outputs : List Output) (table : String) (order : List String)
    (limit offset : Option UInt64) :
    LacksWhere (rows outputs table [] order limit offset).text := by
  refine ⟨_, lexes _ (List.forall_mem_nil _), ?_⟩
  have hlimit : whereClause (limitTokens limit offset ++ []) = none :=
    whereClause_append (where_not_mem_limit limit offset)
  rw [List.append_nil] at hlimit
  have houts := word_not_mem_outputs (w := "WHERE") (by decide) outputs
  simp [tokens, whereClause, whereClause_append houts, whereTokens, orderTokens,
    whereClause_append (word_not_mem_names _ _), hlimit]

theorem lacksWhere_count (table : String) : LacksWhere (count table []).text :=
  ⟨_, lexes _ (List.forall_mem_nil _), rfl⟩

end Query

end CrudPlan.Sql
