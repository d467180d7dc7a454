import CrudPlan.Proofs.Sql.Clause

namespace CrudPlan.Sql

/-- Items with commas between them. -/
inductive ReadsList {α : Type} (R : List Token → α → Prop) : List Token → List α → Prop
  | single {ts x} (h : R ts x) : ReadsList R ts [x]
  | cons {ts us x xs} (h : R ts x) (hrest : ReadsList R us xs) :
      ReadsList R (ts ++ .comma :: us) (x :: xs)

inductive ReadsOutput : List Token → Output → Prop
  | plain (column : String) : ReadsOutput [.name column] ⟨column, column⟩
  | renamed (column name : String) :
      ReadsOutput [.name column, .word "AS", .name name] ⟨column, name⟩

inductive ReadsName : List Token → String → Prop
  | intro (name : String) : ReadsName [.name name] name

/-- Bounds for the number of a row, whatever name the numbers have. -/
inductive ReadsWindow (row : String) : List Token → UInt64 → Option UInt64 → Prop
  | after (n : UInt64) :
      ReadsWindow row [.name row, .comparison .greater, .number n.toNat] n none
  | between (n last : UInt64) :
      ReadsWindow row [.name row, .comparison .greater, .number n.toNat, .word "AND", .name row,
        .comparison .lessOrEqual, .number last.toNat] n (some last)

inductive ReadsQuery : List Token → Query → Prop
  | rows {outs ws os outputs table c order} (houts : ReadsList ReadsOutput outs outputs)
      (hwhere : ReadsAs ws c) (horder : ReadsList ReadsName os order) :
      ReadsQuery (.word "SELECT" :: (outs ++ .word "FROM" :: .name table :: .word "WHERE" ::
          (ws ++ .word "ORDER" :: .word "BY" :: os)))
        (.rows outputs table [c] order none none)
  | numbered {names outs ws win os outputs table c group key row after upTo order}
      (hnames : ReadsList ReadsName names (outputs.map (·.name)))
      (houts : ReadsList ReadsOutput outs outputs) (hwhere : ReadsAs ws c)
      (hwindow : ReadsWindow row win after upTo) (horder : ReadsList ReadsName os order) :
      ReadsQuery (.word "SELECT" :: (names ++ .word "FROM" :: .opening :: .word "SELECT" ::
          (outs ++ .comma :: .word "ROW_NUMBER" :: .opening :: .closing :: .word "OVER" ::
            .opening :: .word "PARTITION" :: .word "BY" :: .name group :: .word "ORDER" ::
            .word "BY" :: .name key :: .closing :: .word "AS" :: .name row :: .word "FROM" ::
            .name table :: .word "WHERE" :: (ws ++ .closing :: .word "WHERE" ::
              (win ++ .word "ORDER" :: .word "BY" :: os)))))
        (.numbered outputs table [c] group key after upTo order)

variable {α : Type} {R : List Token → α → Prop} {xs ys : List α}
variable {t : Token} {ts us vs ws : List Token} {q q' : Query} {c : Condition Nat}
variable {cs : List (Condition Nat)} {o o' : Output} {row name : String}

/-- What stands before the first occurrence of a token, and what stands behind it, can be told. -/
theorem eq_of_append_cons_eq {a b a' b' : List α} {x : α} (ha : x ∉ a) (ha' : x ∉ a')
    (h : a ++ x :: b = a' ++ x :: b') : a = a' ∧ b = b' := by
  induction a generalizing a' with
  | nil =>
    cases a' with
    | nil => exact ⟨rfl, (List.cons.inj h).2⟩
    | cons y a' =>
      obtain ⟨rfl, _⟩ := List.cons.inj h
      exact absurd List.mem_cons_self ha'
  | cons y a ih =>
    cases a' with
    | nil =>
      obtain ⟨rfl, _⟩ := List.cons.inj h
      exact absurd List.mem_cons_self ha
    | cons z a' =>
      obtain ⟨rfl, hrest⟩ := List.cons.inj h
      have hy := mt (List.mem_cons_of_mem y) ha
      have hy' := mt (List.mem_cons_of_mem y) ha'
      obtain ⟨rfl, rfl⟩ := ih hy hy' hrest
      exact ⟨rfl, rfl⟩

theorem eq_of_append_cons_cons_eq {a b a' b' : List α} {x y : α} (ha : x ∉ a) (ha' : x ∉ a')
    (hne : x ≠ y) (h : a ++ y :: x :: b = a' ++ y :: x :: b') : a = a' ∧ b = b' := by
  rw [List.append_cons a, List.append_cons a'] at h
  obtain ⟨hfront, hback⟩ := eq_of_append_cons_eq (by simp [ha, hne]) (by simp [ha', hne]) h
  exact ⟨List.append_cancel_right hfront, hback⟩

theorem ReadsList.not_mem (h : ReadsList R ts xs) (hne : t ≠ .comma)
    (hR : ∀ {ts x}, R ts x → t ∉ ts) : t ∉ ts := by
  induction h with
  | single h => exact hR h
  | cons h _ ih => simpa [hR h, hne] using ih

theorem ReadsList.unique (h : ReadsList R ts xs) (h' : ReadsList R ts ys)
    (hR : ∀ {ts x y}, R ts x → R ts y → x = y) (hcomma : ∀ {ts x}, R ts x → .comma ∉ ts) :
    xs = ys := by
  induction h generalizing ys with
  | @single ts x hx =>
    cases h' with
    | single hy => rw [hR hx hy]
    | cons _ _ =>
      have hmem := hcomma hx
      simp at hmem
  | @cons ts us x xs hx _ ih =>
    generalize he : ts ++ .comma :: us = vs at h'
    cases h' with
    | single hy =>
      have hmem := hcomma hy
      simp [← he] at hmem
    | cons hy hrest =>
      obtain ⟨rfl, rfl⟩ := eq_of_append_cons_eq (hcomma hx) (hcomma hy) he
      rw [hR hx hy, ih hrest]

theorem ReadsOutput.unique (h : ReadsOutput ts o) (h' : ReadsOutput ts o') : o = o' := by
  cases h <;> cases h' <;> rfl

theorem ReadsName.unique {name name' : String} (h : ReadsName ts name) (h' : ReadsName ts name') :
    name = name' := by
  cases h
  cases h'
  rfl

theorem ReadsOutput.not_mem (h : ReadsOutput ts o) (hname : ∀ s, t ≠ .name s)
    (has : t ≠ .word "AS") : t ∉ ts := by
  cases h <;> simp [hname, has]

theorem ReadsName.not_mem (h : ReadsName ts name) (hname : ∀ s, t ≠ .name s) : t ∉ ts := by
  cases h
  simp [hname]

theorem ReadsWindow.unique {after after' : UInt64} {upTo upTo' : Option UInt64}
    (h : ReadsWindow row ts after upTo) (h' : ReadsWindow row ts after' upTo') :
    after = after' ∧ upTo = upTo' := by
  generalize he : ts = us at h'
  cases h <;> cases h' <;> simp_all [UInt64.toNat_inj]

theorem ReadsWindow.order_not_mem {after : UInt64} {upTo : Option UInt64}
    (h : ReadsWindow row ts after upTo) : .word "ORDER" ∉ ts := by
  cases h <;> simp

theorem word_not_mem_parameterList (w : String) (ps : List Nat) : .word w ∉ parameterList ps := by
  apply not_mem_intercalate (by simp)
  intro us hus
  obtain ⟨p, _, rfl⟩ := List.mem_map.1 hus
  simp

/-- The words of conditions. -/
def conditionWords : List String := ["AND", "OR", "NOT", "IN", "IS", "NULL", "LIKE", "ESCAPE"]

theorem Reads.word_not_mem {l : Level} {w : String} (h : Reads l ts cs)
    (hw : w ∉ conditionWords) : .word w ∉ ts := by
  simp only [conditionWords, List.mem_cons, List.not_mem_nil, or_false, not_or] at hw
  induction h with
  | test h =>
    cases h with
    | among column _ => simp [hw, word_not_mem_parameterList]
    | _ => simp [hw]
  | _ => simp_all

theorem ReadsAs.word_not_mem {w : String} (h : ReadsAs ts c) (hw : w ∉ conditionWords) :
    .word w ∉ ts := by
  obtain ⟨_, h, _⟩ := h
  exact h.word_not_mem hw

theorem ReadsList.word_not_mem_outputs {outputs : List Output} {w : String}
    (h : ReadsList ReadsOutput ts outputs) (hw : w ≠ "AS") : .word w ∉ ts :=
  h.not_mem (by simp) fun ho => ho.not_mem (by simp) (by simpa using hw)

theorem ReadsList.word_not_mem_names {names : List String} (h : ReadsList ReadsName ts names)
    (w : String) : .word w ∉ ts :=
  h.not_mem (by simp) fun hn => hn.not_mem (by simp)

theorem ReadsList.unique_outputs {outputs outputs' : List Output}
    (h : ReadsList ReadsOutput ts outputs) (h' : ReadsList ReadsOutput ts outputs') :
    outputs = outputs' :=
  h.unique h' ReadsOutput.unique fun ho => ho.not_mem (by simp) (by simp)

theorem ReadsList.unique_names {names names' : List String} (h : ReadsList ReadsName ts names)
    (h' : ReadsList ReadsName ts names') : names = names' :=
  h.unique h' ReadsName.unique fun hn => hn.not_mem (by simp)

theorem ReadsQuery.unique (h : ReadsQuery ts q) (h' : ReadsQuery ts q') : q = q' := by
  generalize he : ts = us at h'
  cases h with
  | rows houts hwhere horder =>
    have hout := houts.word_not_mem_outputs (w := "FROM") (by decide)
    have hcond := hwhere.word_not_mem (w := "ORDER") (by decide)
    cases h' with
    | rows houts' hwhere' horder' =>
      have hout' := houts'.word_not_mem_outputs (w := "FROM") (by decide)
      have hcond' := hwhere'.word_not_mem (w := "ORDER") (by decide)
      obtain ⟨rfl, hfrom⟩ := eq_of_append_cons_eq hout hout' (List.cons.inj he).2
      simp only [List.cons.injEq, Token.name.injEq, true_and] at hfrom
      obtain ⟨rfl, hcondition⟩ := hfrom
      obtain ⟨rfl, hend⟩ := eq_of_append_cons_eq hcond hcond' hcondition
      cases hend
      rw [houts.unique_outputs houts', hwhere.unique hwhere', horder.unique_names horder']
    | numbered hnames' =>
      have hname' := hnames'.word_not_mem_names "FROM"
      obtain ⟨_, hrest⟩ := eq_of_append_cons_eq hout hname' (List.cons.inj he).2
      cases hrest
  | numbered hnames houts hwhere hwindow horder =>
    have hname := hnames.word_not_mem_names "FROM"
    have hout := houts.word_not_mem_outputs (w := "ROW_NUMBER") (by decide)
    have hcond := hwhere.word_not_mem (w := "WHERE") (by decide)
    cases h' with
    | rows houts' =>
      have hout' := houts'.word_not_mem_outputs (w := "FROM") (by decide)
      obtain ⟨_, hrest⟩ := eq_of_append_cons_eq hname hout' (List.cons.inj he).2
      cases hrest
    | numbered hnames' houts' hwhere' hwindow' horder' =>
      have hname' := hnames'.word_not_mem_names "FROM"
      have hout' := houts'.word_not_mem_outputs (w := "ROW_NUMBER") (by decide)
      have hcond' := hwhere'.word_not_mem (w := "WHERE") (by decide)
      obtain ⟨_, hfrom⟩ := eq_of_append_cons_eq hname hname' (List.cons.inj he).2
      simp only [List.cons.injEq, true_and] at hfrom
      obtain ⟨rfl, hinner⟩ := eq_of_append_cons_cons_eq hout hout' (by simp) hfrom
      simp only [List.cons.injEq, Token.name.injEq, true_and] at hinner
      obtain ⟨rfl, rfl, rfl, rfl, hcondition⟩ := hinner
      obtain ⟨rfl, houter⟩ := eq_of_append_cons_cons_eq hcond hcond' (by simp) hcondition
      obtain ⟨rfl, hend⟩ :=
        eq_of_append_cons_eq hwindow.order_not_mem hwindow'.order_not_mem houter
      cases hend
      obtain ⟨rfl, rfl⟩ := hwindow.unique hwindow'
      rw [houts.unique_outputs houts', hwhere.unique hwhere', horder.unique_names horder']

theorem Output.reads (o : Output) : ReadsOutput o.tokens o := by
  obtain ⟨column, name⟩ := o
  unfold tokens
  split
  · rename_i he
    cases (he : column = name)
    exact .plain column
  · exact .renamed column name

theorem readsList_map {β : Type} {f : β → List Token} {g : β → α} {xs : List β} (hne : xs ≠ [])
    (h : ∀ x ∈ xs, R (f x) (g x)) : ReadsList R (listTokens (xs.map f)) (xs.map g) := by
  induction xs with
  | nil => exact absurd rfl hne
  | cons x xs ih =>
    obtain ⟨hx, h⟩ := List.forall_mem_cons.1 h
    cases xs with
    | nil => simpa [listTokens] using ReadsList.single hx
    | cons y ys =>
      have hrest := ReadsList.cons hx (ih (List.cons_ne_nil y ys) h)
      simpa [listTokens, List.intercalate_cons_cons] using hrest

theorem readsList_outputs {outputs : List Output} (hne : outputs ≠ []) :
    ReadsList ReadsOutput (listTokens (outputs.map Output.tokens)) outputs := by
  simpa using readsList_map hne fun o _ => o.reads

theorem readsList_names {names : List String} (hne : names ≠ []) :
    ReadsList ReadsName (namesTokens names) names := by
  have h := readsList_map hne fun n _ => ReadsName.intro n
  rwa [List.map_id'] at h

theorem readsWindow (after : UInt64) (upTo : Option UInt64) :
    ReadsWindow rowNumber (windowTokens after upTo) after upTo := by
  cases upTo with
  | none => exact .after after
  | some last => exact .between after last

/-- The text of a query without limits reads as the query, with its conditions as one. -/
theorem Query.reads_rows {outputs : List Output} {table : String} {order : List String}
    (houts : outputs ≠ []) (horder : order ≠ []) (hne : cs ≠ []) (h : ∀ c ∈ cs, c.Proper) :
    ReadsQuery (rows outputs table cs order none none).tokens
      (rows outputs table [conjoin (cs.map Condition.flat)] order none none) := by
  have hreads : ReadsQuery _ (rows outputs table _ order none none) :=
    .rows (readsList_outputs houts) (readsAs_conjoin hne h) (readsList_names horder)
  simpa [tokens, whereTokens, hne, orderTokens, limitTokens] using hreads

theorem Query.reads_numbered {outputs : List Output} {table group key : String} {after : UInt64}
    {upTo : Option UInt64} {order : List String} (houts : outputs ≠ []) (horder : order ≠ [])
    (hne : cs ≠ []) (h : ∀ c ∈ cs, c.Proper) :
    ReadsQuery (numbered outputs table cs group key after upTo order).tokens
      (numbered outputs table [conjoin (cs.map Condition.flat)] group key after upTo order) := by
  have hnames : ReadsList ReadsName (namesTokens (outputs.map (·.name))) (outputs.map (·.name)) :=
    readsList_names (by simpa using houts)
  have hreads : ReadsQuery _ (numbered outputs table _ group key after upTo order) :=
    .numbered hnames (readsList_outputs houts) (readsAs_conjoin hne h) (readsWindow after upTo)
      (readsList_names horder)
  simpa [tokens, whereTokens, hne, orderTokens] using hreads

end CrudPlan.Sql
