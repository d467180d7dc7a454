import CrudPlan.Json.Printer
import CrudPlan.Json.Reader
import CrudPlan.Proofs.Json.Document

namespace CrudPlan.Json

/-- The part of a string that a character is written as. -/
def partOf (c : Char) : StringPart :=
  if c.toNat < 32 ∧ c ∉ ['\n', '\r', '\t', '\x08', '\x0c'] then .unit c.toNat else .char c

def partsOf (s : String) : List StringPart := s.toList.map partOf

variable (spelling : Number → NumberText)

/-- The tokens of the text of a value, for a way to spell numbers. -/
def tokens : Json → List Token
  | .null => [.null]
  | .bool b => [.bool b]
  | .num n => [.number (spelling n)]
  | .str s => [.string (partsOf s)]
  | .arr items => .openList :: ([Token.comma].intercalate (tokensOfItems items) ++ [.closeList])
  | .obj members =>
    .openObject :: ([Token.comma].intercalate (tokensOfMembers members) ++ [.closeObject])
where
  tokensOfItems : List Json → List (List Token)
    | [] => []
    | v :: rest => tokens v :: tokensOfItems rest
  tokensOfMembers : List (String × Json) → List (List Token)
    | [] => []
    | (name, v) :: rest => (.string (partsOf name) :: .colon :: tokens v) :: tokensOfMembers rest

/-- The tree of the text of a value. -/
def tree : Json → Tree
  | .null => .null
  | .bool b => .bool b
  | .num n => .number (spelling n)
  | .str s => .string (partsOf s)
  | .arr items => .list (treesOfItems items)
  | .obj members => .object (treesOfMembers members)
where
  treesOfItems : List Json → List Tree
    | [] => []
    | v :: rest => tree v :: treesOfItems rest
  treesOfMembers : List (String × Json) → List (List StringPart × Tree)
    | [] => []
    | (name, v) :: rest => (partsOf name, tree v) :: treesOfMembers rest

/-- A text that can stand behind a value. -/
def Follows (rest : List Char) : Prop := ∀ c ∈ rest.head?, c ∈ [',', ']', '\x7d']

/-- A text consists of tokens, whatever follows it. -/
def Scans (cs : List Char) (ts : List Token) : Prop :=
  ∀ rest, Follows rest → tokens? (cs ++ rest) = (tokens? rest).map (ts ++ ·)

/-- The numbers in a value are written as they are spelled. -/
inductive Legible : Json → Prop
  | null : Legible .null
  | bool (b : Bool) : Legible (.bool b)
  | num {n : Number} (h : Scans n.render.toList [.number (spelling n)]) : Legible (.num n)
  | str (s : String) : Legible (.str s)
  | arr {items : List Json} (h : ∀ v ∈ items, Legible v) : Legible (.arr items)
  | obj {members : List (String × Json)} (h : ∀ e ∈ members, Legible e.2) : Legible (.obj members)

variable {spelling} {c : Char} {cs rest : List Char} {t : Token} {ts : List Token} {v : Json}

theorem tokensOfItems_eq (items : List Json) :
    tokens.tokensOfItems spelling items = items.map (tokens spelling) := by
  induction items with
  | nil => rfl
  | cons v items ih => rw [tokens.tokensOfItems, ih, List.map_cons]

theorem tokensOfMembers_eq (members : List (String × Json)) :
    tokens.tokensOfMembers spelling members =
      members.map fun e => .string (partsOf e.1) :: .colon :: tokens spelling e.2 := by
  induction members with
  | nil => rfl
  | cons e members ih => rw [tokens.tokensOfMembers, ih, List.map_cons]

theorem treesOfItems_eq (items : List Json) :
    tree.treesOfItems spelling items = items.map (tree spelling) := by
  induction items with
  | nil => rfl
  | cons v items ih => rw [tree.treesOfItems, ih, List.map_cons]

theorem treesOfMembers_eq (members : List (String × Json)) :
    tree.treesOfMembers spelling members =
      members.map fun e => (partsOf e.1, tree spelling e.2) := by
  induction members with
  | nil => rfl
  | cons e members ih => rw [tree.treesOfMembers, ih, List.map_cons]

theorem compactItems_eq (items : List Json) :
    compact.compactItems items = items.map compact := by
  induction items with
  | nil => rfl
  | cons v items ih => rw [compact.compactItems, ih, List.map_cons]

theorem compactMembers_eq (members : List (String × Json)) :
    compact.compactMembers members = members.map fun e => quote e.1 ++ ":" ++ compact e.2 := by
  induction members with
  | nil => rfl
  | cons e members ih => rw [compact.compactMembers, ih, List.map_cons]

theorem unit?_controlDigits : ∀ n < 32, unit? '0' '0' (Nat.digitChar (n / 16))
    (Nat.digitChar (n % 16)) = some n := by
  decide

theorem stringParts_unescape {e : Char} (he : e ≠ 'u') (h : unescape? e = some c)
    (cs : List Char) : stringParts ('\\' :: e :: cs) =
      (stringParts cs).map fun p => (.char c :: p.1, p.2) := by
  rw [stringParts, h]
  · cases stringParts cs <;> rfl
  · intro _ _ _ _ _ heq _
    exact he heq

theorem stringParts_control (h : c.toNat < 32) (cs : List Char) :
    stringParts ('\\' :: 'u' :: '0' :: '0' :: controlDigits c ++ cs) =
      (stringParts cs).map fun p => (.unit c.toNat :: p.1, p.2) := by
  have hunit := unit?_controlDigits c.toNat h
  simp only [controlDigits, List.cons_append, List.nil_append, stringParts, hunit]
  cases stringParts cs <;> rfl

theorem stringParts_escape (c : Char) (cs : List Char) :
    stringParts (escape c ++ cs) = (stringParts cs).map fun p => (partOf c :: p.1, p.2) := by
  unfold escape
  split
  case h_8 hquote hbackslash hn hr ht hb hf =>
    split
    · rename_i hcontrol
      have hpart : partOf c = .unit c.toNat := by
        rw [partOf, if_pos]
        simp only [List.mem_cons, List.not_mem_nil, or_false, not_or]
        exact ⟨hcontrol, hn, hr, ht, hb, hf⟩
      rw [stringParts_control hcontrol, hpart]
    · rename_i hplain
      have hpart : partOf c = .char c := if_neg fun hand => hplain hand.1
      rw [List.cons_append, List.nil_append, stringParts, if_neg (not_or.2 ⟨hplain, hbackslash⟩),
        hpart]
      · cases stringParts cs <;> rfl
      · exact hquote
      · exact fun _ _ _ _ _ he _ => hbackslash he
      · exact fun _ _ he _ => hbackslash he
  all_goals exact stringParts_unescape (by decide) rfl cs

theorem stringParts_quoted (cs rest : List Char) :
    stringParts (cs.flatMap escape ++ '"' :: rest) = some (cs.map partOf, rest) := by
  induction cs with
  | nil => simp [stringParts]
  | cons c cs ih =>
    rw [List.flatMap_cons, List.append_assoc, stringParts_escape, ih]
    rfl

theorem characters?_unit {n : Nat} (h : n < 32) (parts : List StringPart) :
    characters? (.unit n :: parts) = (characters? parts).map (Char.ofNat n :: ·) := by
  -- a small unit is no part of a surrogate pair
  have hhigh : ¬ (0xd800 ≤ n ∧ n < 0xdc00) := by omega
  have hlow : ¬ (0xdc00 ≤ n ∧ n < 0xe000) := by omega
  have hnone : ¬ (0xd800 ≤ n ∧ n < 0xe000) := by omega
  match parts with
  | .unit low :: parts => rw [characters?, if_neg hhigh, if_neg hlow]
  | [] => simp [characters?, hnone]
  | .char c :: parts => simp [characters?, hnone]

theorem characters?_parts (cs : List Char) : characters? (cs.map partOf) = some cs := by
  induction cs with
  | nil => rfl
  | cons c cs ih =>
    rw [List.map_cons, partOf]
    split
    · rename_i hcontrol
      rw [characters?_unit hcontrol.1, ih, Char.ofNat_toNat]
      rfl
    · rw [characters?, ih]
      rfl

theorem text?_partsOf (s : String) : text? (partsOf s) = some s := by
  rw [text?, partsOf, characters?_parts, Option.map_some, String.ofList_toList]

theorem tokens?_cons (hb : isBlank c = false) (h : Token.next? (c :: cs) = some (t, rest)) :
    tokens? (c :: cs) = (tokens? rest).map (t :: ·) := by
  rw [tokens?, hb, if_neg Bool.false_ne_true]
  split
  · rename_i hnone
    rw [hnone] at h
    cases h
  · rename_i hsome
    rw [hsome] at h
    cases h
    rfl

theorem tokens?_quote (s : String) (rest : List Char) :
    tokens? ((quote s).toList ++ rest) = (tokens? rest).map (.string (partsOf s) :: ·) := by
  have hparts := stringParts_quoted s.toList rest
  have hquote : (quote s).toList ++ rest = '"' :: (s.toList.flatMap escape ++ '"' :: rest) := by
    simp [quote]
  rw [hquote]
  refine tokens?_cons rfl ?_
  rw [Token.next?, hparts]
  rfl

theorem Scans.intercalate {α : Type} {f : α → List Char} {g : α → List Token} {xs : List α}
    (h : ∀ x ∈ xs, Scans (f x) (g x)) :
    Scans ([','].intercalate (xs.map f)) ([Token.comma].intercalate (xs.map g)) := by
  induction xs with
  | nil =>
    intro rest _
    simp
  | cons x xs ih =>
    obtain ⟨hx, h⟩ := List.forall_mem_cons.1 h
    cases xs with
    | nil =>
      intro rest hrest
      simpa using hx rest hrest
    | cons y xs =>
      intro rest hrest
      have hcomma : Follows (',' :: ([','].intercalate ((y :: xs).map f) ++ rest)) := by
        simp [Follows]
      have hnext := ih h rest hrest
      simp only [List.map_cons, List.intercalate_cons_cons, List.append_assoc, List.cons_append,
        List.nil_append] at hcomma hnext ⊢
      rw [hx _ hcomma, tokens?_cons (t := .comma) rfl rfl, hnext]
      simp [Function.comp_def]

theorem follows_nil : Follows [] := by
  intro c hc
  cases hc

theorem Legible.scans (h : Legible spelling v) : Scans v.compact.toList (tokens spelling v) := by
  induction h with
  | null =>
    intro rest _
    exact tokens?_cons rfl rfl
  | bool b =>
    intro rest _
    cases b with
    | true => exact tokens?_cons rfl rfl
    | false => exact tokens?_cons rfl rfl
  | num h => exact h
  | str s =>
    intro rest _
    exact tokens?_quote s rest
  | @arr items _ ih =>
    intro rest _
    -- the bracket is what follows the last item
    have hitems := Scans.intercalate ih (']' :: rest) (by simp [Follows])
    rw [tokens?_cons (t := .closeList) rfl rfl] at hitems
    have htext : (Json.arr items).compact.toList ++ rest =
        '[' :: ([','].intercalate (items.map fun v => v.compact.toList) ++ ']' :: rest) := by
      simp [compact, compactItems_eq, String.toList_intercalate, Function.comp_def]
    rw [htext, tokens?_cons (t := .openList) rfl rfl, hitems, tokens, tokensOfItems_eq]
    simp [Function.comp_def]
  | @obj members _ ih =>
    intro rest _
    have hmember : ∀ e ∈ members, Scans ((quote e.1).toList ++ ':' :: e.2.compact.toList)
        (.string (partsOf e.1) :: .colon :: tokens spelling e.2) := by
      intro e he rest hrest
      rw [List.append_assoc, tokens?_quote, List.cons_append, tokens?_cons (t := .colon) rfl rfl,
        ih e he rest hrest]
      simp [Function.comp_def]
    have hmembers := Scans.intercalate hmember ('\x7d' :: rest) (by simp [Follows])
    rw [tokens?_cons (t := .closeObject) rfl rfl] at hmembers
    have htext : (Json.obj members).compact.toList ++ rest =
        '\x7b' :: ([','].intercalate (members.map fun e =>
          (quote e.1).toList ++ ':' :: e.2.compact.toList) ++ '\x7d' :: rest) := by
      simp [compact, compactMembers_eq, String.toList_intercalate, Function.comp_def]
    rw [htext, tokens?_cons (t := .openObject) rfl rfl, hmembers, tokens, tokensOfMembers_eq]
    simp [Function.comp_def]

namespace Tree

variable {frames : List Frame} {next : Expected} {us : List Token} {t : Tree}

/-- Where a value may stand. -/
def TakesValue (next : Expected) : Prop := next = .value ∨ next = .itemOrEnd

theorem step_begin {token : Token} (h : TakesValue next) (ht : token ≠ .closeList) :
    Progress.step (.within frames next) token = begin frames token := by
  rcases h with rfl | rfl
  · rfl
  · cases token <;> first | rfl | exact absurd rfl ht

/-- The tokens of a value take a parser over the value. -/
def Passes (ts : List Token) (t : Tree) : Prop :=
  ∀ frames next us, TakesValue next →
    (ts ++ us).foldlM Progress.step (.within frames next) =
      us.foldlM Progress.step (complete t frames)

theorem passes_items {items : List Json}
    (h : ∀ v ∈ items, Passes (tokens spelling v) (tree spelling v)) (done : List Tree)
    (frames : List Frame) (us : List Token)
    (hnext : next = .value ∧ items ≠ [] ∨ next = .itemOrEnd) :
    ([Token.comma].intercalate (items.map (tokens spelling)) ++ .closeList :: us).foldlM
        Progress.step (.within (.list done :: frames) next) =
      us.foldlM Progress.step
        (complete (.list (done.reverse ++ items.map (tree spelling))) frames) := by
  induction items generalizing done next with
  | nil =>
    obtain rfl := hnext.resolve_left fun hand => hand.2 rfl
    simp [Progress.step, close]
  | cons v items ih =>
    obtain ⟨hv, h⟩ := List.forall_mem_cons.1 h
    have htakes : TakesValue next := hnext.imp_left And.left
    cases items with
    | nil =>
      simp [hv _ _ _ htakes, complete, Progress.step, close]
    | cons w items =>
      have hrest := ih h (tree spelling v :: done) (.inl ⟨rfl, List.cons_ne_nil _ _⟩)
      simp only [List.map_cons, List.intercalate_cons_cons, List.append_assoc] at hrest ⊢
      rw [hv _ _ _ htakes]
      simpa [complete, Progress.step, afterComma] using hrest

theorem Passes.member (h : Passes ts t) (hnext : next = .name ∨ next = .nameOrEnd)
    (done : List (List StringPart × Tree)) (name key : List StringPart) (frames : List Frame)
    (us : List Token) :
    (.string key :: .colon :: (ts ++ us)).foldlM Progress.step
        (.within (.object done name :: frames) next) =
      us.foldlM Progress.step (.within (.object ((key, t) :: done) [] :: frames) .separator) := by
  have hname : Progress.step (.within (.object done name :: frames) next) (.string key) =
      some (.within (.object done key :: frames) .colon) := by
    rcases hnext with rfl | rfl <;> rfl
  have hcolon : Progress.step (.within (.object done key :: frames) .colon) .colon =
      some (.within (.object done key :: frames) .value) := rfl
  rw [List.foldlM_cons, hname, Option.bind_eq_bind, Option.bind_some, List.foldlM_cons, hcolon,
    Option.bind_eq_bind, Option.bind_some, h _ _ _ (.inl rfl)]
  rfl

theorem passes_members {members : List (String × Json)}
    (h : ∀ e ∈ members, Passes (tokens spelling e.2) (tree spelling e.2))
    (done : List (List StringPart × Tree)) (name : List StringPart) (frames : List Frame)
    (us : List Token) (hnext : next = .name ∧ members ≠ [] ∨ next = .nameOrEnd) :
    ([Token.comma].intercalate (members.map fun e =>
        .string (partsOf e.1) :: .colon :: tokens spelling e.2) ++ .closeObject :: us).foldlM
        Progress.step (.within (.object done name :: frames) next) =
      us.foldlM Progress.step
        (complete (.object (done.reverse ++ members.map fun e =>
          (partsOf e.1, tree spelling e.2))) frames) := by
  induction members generalizing done name next with
  | nil =>
    obtain rfl := hnext.resolve_left fun hand => hand.2 rfl
    simp [Progress.step, close]
  | cons e members ih =>
    obtain ⟨he, h⟩ := List.forall_mem_cons.1 h
    have hmember := he.member (hnext.imp_left And.left) done name (partsOf e.1) frames
    cases members with
    | nil =>
      have hend := hmember (.closeObject :: us)
      simpa [Progress.step, close] using hend
    | cons f members =>
      have hrest := ih h ((partsOf e.1, tree spelling e.2) :: done) []
        (.inl ⟨rfl, List.cons_ne_nil _ _⟩)
      simp only [List.map_cons, List.intercalate_cons_cons, List.append_assoc, List.cons_append,
        List.nil_append] at hrest ⊢
      rw [hmember, List.foldlM_cons]
      simpa [Progress.step, afterComma] using hrest

theorem passes (spelling : Number → NumberText) (v : Json) :
    Passes (tokens spelling v) (tree spelling v) := by
  induction v using Json.induction with
  | scalar v hv =>
    intro frames next us hnext
    cases v with
    | arr _ | obj _ => cases hv
    | _ => simp [tokens, tree, step_begin hnext, begin]
  | arr items ih =>
    intro frames next us hnext
    have hitems := passes_items ih [] frames us (.inr rfl)
    simpa [tokens, tokensOfItems_eq, tree, treesOfItems_eq, step_begin hnext, begin] using hitems
  | obj members ih =>
    intro frames next us hnext
    have hmembers := passes_members ih [] [] frames us (.inr rfl)
    simpa [tokens, tokensOfMembers_eq, tree, treesOfMembers_eq, step_begin hnext, begin]
      using hmembers

/-- The compact text of a value parses to its tree. -/
theorem parse?_compact (h : Legible spelling v) : parse? v.compact = some (tree spelling v) := by
  have htokens : tokens? v.compact.toList = some (tokens spelling v) := by
    have hscans := h.scans [] follows_nil
    rw [List.append_nil, tokens?] at hscans
    simpa using hscans
  have hpass := passes spelling v [] .value [] (.inl rfl)
  rw [List.append_nil] at hpass
  rw [parse?, htokens, Option.bind_eq_bind, Option.bind_some, hpass]
  rfl

end Tree

theorem named?_treesOfMembers (members : List (String × Json)) :
    Tree.named? (tree.treesOfMembers spelling members) =
      some (Entries.mapValues (tree spelling) members) := by
  have hnames : tree.treesOfMembers spelling members =
      (Entries.mapValues (tree spelling) members).map fun e => (partsOf e.1, e.2) := by
    rw [treesOfMembers_eq, Entries.mapValues, List.map_map]
    rfl
  rw [Tree.named?, hnames]
  refine Document.mapM_map_eq_some fun e _ => ?_
  rw [text?_partsOf]
  rfl

theorem embeds_tree : Document.Embeds (tree spelling) where
  text s := text?_partsOf s
  bool _ := rfl
  choice s := text?_partsOf s
  presence _ := rfl
  items items := congrArg some (treesOfItems_eq items)
  members members := named?_treesOfMembers members
  fields names members := by
    change (Tree.named? (tree.treesOfMembers spelling members)).bind _ = _
    rw [named?_treesOfMembers, Option.bind_some]

end CrudPlan.Json
