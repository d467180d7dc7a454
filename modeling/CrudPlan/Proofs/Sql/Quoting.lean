import CrudPlan.Proofs.Sql.Lexer
import CrudPlan.Sql.Render

namespace CrudPlan.Sql

/-- A way to take an item from the start of a text, which uses up some of it. -/
structure Reader (α : Type) where
  read : List Char → Option (α × List Char)
  shortens : ∀ {cs x rest}, read cs = some (x, rest) → rest.length < cs.length

/-- The rest of a quoted name up to the quote that closes it, and what stands behind that. -/
def closeName? : List Char → Option (List Char × List Char)
  | [] => none
  | '"' :: '"' :: cs => (closeName? cs).map fun (s, rest) => ('"' :: s, rest)
  | '"' :: cs => some ([], cs)
  | c :: cs => (closeName? cs).map fun (s, rest) => (c :: s, rest)

/-- The quoted name at the start of a text, and what stands behind it. -/
def readName? : List Char → Option (String × List Char)
  | '"' :: cs => (closeName? cs).map fun (s, rest) => (.ofList s, rest)
  | _ => none

/-- A column with the name that it is given, or under its own name where none is given. -/
def readOutput? (cs : List Char) : Option (Output × List Char) :=
  match readName? cs with
  | some (column, ' ' :: 'A' :: 'S' :: ' ' :: rest) =>
    (readName? rest).map fun (name, rest) => (⟨column, name⟩, rest)
  | some (column, rest) => some (⟨column, column⟩, rest)
  | none => none

variable {α : Type} {cs t : List Char} {s : String} {ts : List Token}

theorem closeName?_append {s : List Char} (h : t.head? ≠ some '"') :
    closeName? (s.flatMap quoteChar ++ '"' :: t) = some (s, t) := by
  induction s with
  | nil =>
    cases t with
    | nil => rfl
    | cons c t =>
      have hc : c ≠ '"' := by simpa using h
      simp [closeName?, hc]
  | cons c s ih =>
    by_cases hc : c = '"'
    · subst hc
      simp [quoteChar, closeName?, ih]
    · simp [quoteChar, closeName?, hc, ih]

theorem eq_append_of_closeName? {s : List Char} (h : closeName? cs = some (s, t)) :
    cs = s.flatMap quoteChar ++ '"' :: t ∧ t.head? ≠ some '"' := by
  fun_induction closeName? cs generalizing s with
  | case1 => cases h
  | case2 cs ih =>
    obtain ⟨⟨s, t⟩, hrest, he⟩ := Option.map_eq_some_iff.1 h
    cases he
    obtain ⟨rfl, ht⟩ := ih hrest
    exact ⟨by simp [quoteChar], ht⟩
  | case3 cs hne =>
    cases h
    refine ⟨rfl, ?_⟩
    intro hquote
    obtain ⟨rest, rfl⟩ := List.head?_eq_some_iff.1 hquote
    exact hne rest rfl
  | case4 c cs _ hclose ih =>
    have hc : c ≠ '"' := hclose
    obtain ⟨⟨s, t⟩, hrest, he⟩ := Option.map_eq_some_iff.1 h
    cases he
    obtain ⟨rfl, ht⟩ := ih hrest
    exact ⟨by simp [quoteChar, hc], ht⟩

theorem closeName?_eq_some_iff {s : List Char} : closeName? cs = some (s, t) ↔
    cs = s.flatMap quoteChar ++ '"' :: t ∧ t.head? ≠ some '"' := by
  constructor
  · exact eq_append_of_closeName?
  · rintro ⟨rfl, h⟩
    exact closeName?_append h

theorem toList_quoteName (s : String) :
    (quoteName s).toList = '"' :: (s.toList.flatMap quoteChar ++ ['"']) := by
  simp [quoteName]

/-- A name is read exactly where a text begins with it in quotes and goes on without a quote. -/
theorem readName?_eq_some_iff :
    readName? cs = some (s, t) ↔ cs = (quoteName s).toList ++ t ∧ t.head? ≠ some '"' := by
  rw [toList_quoteName]
  constructor
  · intro h
    unfold readName? at h
    split at h
    · obtain ⟨⟨s, t⟩, hclose, he⟩ := Option.map_eq_some_iff.1 h
      cases he
      obtain ⟨rfl, ht⟩ := closeName?_eq_some_iff.1 hclose
      exact ⟨by simp, ht⟩
    · cases h
  · rintro ⟨rfl, h⟩
    simp [readName?, closeName?_append h]

theorem readName?_append (s : String) (h : t.head? ≠ some '"') :
    readName? ((quoteName s).toList ++ t) = some (s, t) :=
  readName?_eq_some_iff.2 ⟨rfl, h⟩

theorem quoteName_injective : Function.Injective quoteName := by
  intro s s' h
  have hend : ([] : List Char).head? ≠ some '"' := by simp
  have hread := readName?_append s hend
  rw [h, readName?_append s' hend] at hread
  cases hread
  rfl

/-- In a statement a name that is read is a token of its own. -/
theorem Lexes.of_readName? (h : readName? cs = some (s, t)) (ht : Lexes t ts) :
    Lexes cs (.name s :: ts) := by
  obtain ⟨he, hquote⟩ := readName?_eq_some_iff.1 h
  rw [he]
  have hfinish : (Mode.nameQuote s.toList.reverse).finish = some [.name s] := by
    simp [Mode.finish]
  apply Mode.tokens?_append (Mode.advance_quoteName s)
  refine Mode.tokens?_restart hfinish ?_ ht
  intro c cs he
  have hc : c ≠ '"' := by simpa [he] using hquote
  simp [Mode.step, hc, Mode.restart]

theorem length_lt_of_readName? (h : readName? cs = some (s, t)) : t.length < cs.length := by
  obtain ⟨he, _⟩ := readName?_eq_some_iff.1 h
  simp only [he, toList_quoteName, List.length_append, List.length_cons]
  omega

theorem length_lt_of_readOutput? {o : Output} (h : readOutput? cs = some (o, t)) :
    t.length < cs.length := by
  unfold readOutput? at h
  split at h
  · rename_i column rest hcolumn
    obtain ⟨⟨name, t⟩, hname, he⟩ := Option.map_eq_some_iff.1 h
    cases he
    have hrest := length_lt_of_readName? hcolumn
    have hend := length_lt_of_readName? hname
    simp only [List.length_cons] at hrest
    omega
  · rename_i hcolumn
    cases h
    exact length_lt_of_readName? hcolumn
  · cases h

namespace Reader

def name : Reader String := ⟨readName?, length_lt_of_readName?⟩

def output : Reader Output := ⟨readOutput?, length_lt_of_readOutput?⟩

@[simp]
theorem read_name : name.read = readName? := rfl

@[simp]
theorem read_output : output.read = readOutput? := rfl

/-- Items with commas between them, up to the end of the text. -/
def items? (r : Reader α) (cs : List Char) : Option (List α) :=
  match _h : r.read cs with
  | some (x, []) => some [x]
  | some (x, ',' :: ' ' :: rest) => (r.items? rest).map (x :: ·)
  | _ => none
termination_by cs.length
decreasing_by
  have hlt := r.shortens _h
  simp only [List.length_cons] at hlt
  omega

/-- All items of a list. An empty text has none. -/
def list? (r : Reader α) (cs : List Char) : Option (List α) :=
  if cs = [] then some [] else r.items? cs

/-- What may stand behind an item of a list. -/
def Ends (t : List Char) : Prop := t = [] ∨ ∃ u, t = ',' :: ' ' :: u

/-- The reader takes an item back wherever it stands in a list. -/
def Inverts (r : Reader α) (write : α → String) : Prop :=
  ∀ x t, Ends t → r.read ((write x).toList ++ t) = some (x, t)

variable {r : Reader α} {write : α → String} {x : α} {xs : List α}

theorem items?_nil : r.items? [] = none := by
  have hread : r.read [] = none := by
    rw [Option.eq_none_iff_forall_ne_some]
    intro p hp
    exact absurd (r.shortens hp) (Nat.not_lt_zero _)
  rw [items?]
  split <;> simp_all

theorem items?_last (h : r.read cs = some (x, [])) : r.items? cs = some [x] := by
  rw [items?]
  split <;> simp_all

theorem items?_cons (h : r.read cs = some (x, ',' :: ' ' :: t)) :
    r.items? cs = (r.items? t).map (x :: ·) := by
  rw [items?]
  split <;> simp_all

theorem Inverts.items? (h : r.Inverts write) (hne : xs ≠ []) :
    r.items? (listText (xs.map write)).toList = some xs := by
  induction xs with
  | nil => exact absurd rfl hne
  | cons x xs ih =>
    cases xs with
    | nil =>
      have hlast := h x [] (.inl rfl)
      rw [List.append_nil] at hlast
      exact items?_last hlast
    | cons y ys =>
      have hrest := ih (List.cons_ne_nil _ _)
      have hread := h x _ (.inr ⟨(listText ((y :: ys).map write)).toList, rfl⟩)
      have htext : (listText ((x :: y :: ys).map write)).toList =
          (write x).toList ++ ',' :: ' ' :: (listText ((y :: ys).map write)).toList := by
        simp [listText, String.intercalate_cons_cons]
      rw [htext, items?_cons hread, hrest]
      rfl

theorem Inverts.list? (h : r.Inverts write) (xs : List α) :
    r.list? (listText (xs.map write)).toList = some xs := by
  by_cases hxs : xs = []
  · subst hxs
    rfl
  · have hitems := h.items? hxs
    rw [Reader.list?, if_neg, hitems]
    intro hnil
    rw [hnil, items?_nil] at hitems
    cases hitems

theorem inverts_name : name.Inverts quoteName := by
  intro s t ht
  rw [read_name]
  apply readName?_append
  rcases ht with rfl | ⟨u, rfl⟩ <;> simp

theorem readOutput?_plain {column : String} (h : readName? cs = some (column, t)) (ht : Ends t) :
    readOutput? cs = some (⟨column, column⟩, t) := by
  rcases ht with rfl | ⟨u, rfl⟩ <;> simp [readOutput?, h]

theorem readOutput?_renamed {column name : String} {rest : List Char}
    (h : readName? cs = some (column, " AS ".toList ++ rest))
    (hrest : readName? rest = some (name, t)) : readOutput? cs = some (⟨column, name⟩, t) := by
  have hcolumn : readName? cs = some (column, ' ' :: 'A' :: 'S' :: ' ' :: rest) := h
  simp [readOutput?, hcolumn, hrest]

theorem inverts_output : output.Inverts Output.text := by
  intro o t ht
  obtain ⟨column, name⟩ := o
  have hname := inverts_name name t ht
  rw [read_name] at hname
  rw [read_output]
  by_cases he : column = name
  · subst he
    have htext : Output.text ⟨column, column⟩ = quoteName column := if_pos rfl
    rw [htext]
    exact readOutput?_plain hname ht
  · have htext : Output.text ⟨column, name⟩ = quoteName column ++ " AS " ++ quoteName name :=
      if_neg he
    have hcolumn : readName? ((quoteName column).toList ++
        (" AS ".toList ++ ((quoteName name).toList ++ t))) = some (column, _) :=
      readName?_append column (by simp)
    rw [htext, String.toList_append, String.toList_append, List.append_assoc, List.append_assoc]
    exact readOutput?_renamed hcolumn hname

end Reader

/-- A quoted name is read as the name, and the text behind it is left, also in a statement; so
different names differ in quotes, and a list of columns has an item for each field, which tells the
column and the name. -/
theorem quoted_names_read_back :
    (∀ (s : String) (t : List Char), t.head? ≠ some '"' →
      readName? ((quoteName s).toList ++ t) = some (s, t) ∧
      ∀ ts, Lexes t ts → Lexes ((quoteName s).toList ++ t) (.name s :: ts)) ∧
    Function.Injective quoteName ∧
    ∀ m : Model,
      Reader.output.list? (listText (m.outputs.map Output.text)).toList =
        some (m.fields.map fun f => ⟨f.columnName, f.name⟩) ∧
      Reader.name.list? (listText (m.outputs.map fun o => quoteName o.name)).toList =
        some (m.fields.map fun f => f.name) := by
  refine ⟨?_, quoteName_injective, ?_⟩
  · intro s t h
    have hread := readName?_append s h
    exact ⟨hread, fun ts ht => .of_readName? hread ht⟩
  · intro m
    apply And.intro
    · exact Reader.inverts_output.list? m.outputs
    · have hnames := Reader.inverts_name.list? (m.outputs.map (·.name))
      simpa [Model.outputs, Function.comp_def] using hnames

/-- A model whose columns try to be several ones. -/
def disguised : Model where
  id := 0
  name := "disguised"
  tableName := "disguised"
  fields := [⟨"id", .serial, "a\", \"b", true, false, false⟩,
    ⟨"x\" AS \"y", .text, "x\" AS \"y", false, false, false⟩]
  primaryKey := ⟨"id", .serial, "a\", \"b", true, false, false⟩
  relations := []

theorem quoted_names_read_back_disguised :
    quoteName "a\", \"b" = "\"a\"\", \"\"b\"" ∧
    readName? "\"a\"\", \"\"b\" AS \"id\"".toList = some ("a\", \"b", " AS \"id\"".toList) ∧
    Lexes "\"a\"\", \"\"b\" AS \"id\"".toList [.name "a\", \"b", .word "AS", .name "id"] ∧
    quoteName "a" ≠ quoteName "a\"" ∧
    Reader.output.list? "\"a\"\", \"\"b\" AS \"id\", \"x\"\" AS \"\"y\"".toList =
      some [⟨"a\", \"b", "id"⟩, ⟨"x\" AS \"y", "x\" AS \"y"⟩] ∧
    Reader.name.list? "\"id\", \"x\"\" AS \"\"y\"".toList = some ["id", "x\" AS \"y"] := by
  obtain ⟨hname, hinj, hlists⟩ := quoted_names_read_back
  obtain ⟨houtputs, hnames⟩ := hlists disguised
  have hcolumns : listText (disguised.outputs.map Output.text) =
      "\"a\"\", \"\"b\" AS \"id\", \"x\"\" AS \"\"y\"" := by decide +kernel
  have hfields : listText (disguised.outputs.map fun o => quoteName o.name) =
      "\"id\", \"x\"\" AS \"\"y\"" := by decide +kernel
  have hquoted : (quoteName "a\", \"b").toList ++ " AS \"id\"".toList =
      "\"a\"\", \"\"b\" AS \"id\"".toList := by decide +kernel
  obtain ⟨hcolumn, htokens⟩ := hname "a\", \"b" " AS \"id\"".toList (by decide)
  have hstatement := htokens [.word "AS", .name "id"] rfl
  rw [hquoted] at hcolumn hstatement
  rw [hcolumns] at houtputs
  rw [hfields] at hnames
  refine ⟨by decide +kernel, hcolumn, hstatement, ?_, houtputs, hnames⟩
  intro he
  exact absurd (hinj he) (by decide)

end CrudPlan.Sql
