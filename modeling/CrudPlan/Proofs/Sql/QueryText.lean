import CrudPlan.Proofs.Sql.ConditionText

namespace CrudPlan.Sql

def Output.tokens (o : Output) : List Token :=
  if o.column = o.name then [.name o.name] else [.name o.column, .word "AS", .name o.name]

def listTokens (items : List (List Token)) : List Token := [Token.comma].intercalate items

def namesTokens (names : List String) : List Token := listTokens (names.map fun n => [.name n])

def whereTokens (conditions : List (Condition Nat)) : List Token :=
  if conditions.isEmpty then []
  else .word "WHERE" :: [.word "AND"].intercalate (conditions.map Condition.tokens)

def orderTokens (order : List String) : List Token :=
  .word "ORDER" :: .word "BY" :: namesTokens order

def limitTokens : Option UInt64 → Option UInt64 → List Token
  | some limit, some offset =>
    if 0 < offset then
      [.word "LIMIT", .number limit.toNat, .word "OFFSET", .number offset.toNat]
    else [.word "LIMIT", .number limit.toNat]
  | some limit, none => [.word "LIMIT", .number limit.toNat]
  | none, some offset =>
    if 0 < offset then [.word "LIMIT", .minus, .number 1, .word "OFFSET", .number offset.toNat]
    else []
  | none, none => []

def windowTokens (after : UInt64) (upTo : Option UInt64) : List Token :=
  [.name rowNumber, .comparison .greater, .number after.toNat] ++
    match upTo with
    | none => []
    | some last => [.word "AND", .name rowNumber, .comparison .lessOrEqual, .number last.toNat]

namespace Query

def tokens : Query → List Token
  | .rows outputs table conditions order limit offset =>
    .word "SELECT" :: (listTokens (outputs.map Output.tokens) ++ .word "FROM" :: .name table ::
      (whereTokens conditions ++ (orderTokens order ++ limitTokens limit offset)))
  | .count table conditions =>
    .word "SELECT" :: .word "COUNT" :: .opening :: .star :: .closing :: .word "FROM" ::
      .name table :: whereTokens conditions
  | .numbered outputs table conditions group key after upTo order =>
    .word "SELECT" :: (namesTokens (outputs.map (·.name)) ++ .word "FROM" :: .opening ::
      .word "SELECT" :: (listTokens (outputs.map Output.tokens) ++
        .comma :: .word "ROW_NUMBER" :: .opening :: .closing :: .word "OVER" :: .opening ::
        .word "PARTITION" :: .word "BY" :: .name group :: .word "ORDER" :: .word "BY" ::
        .name key :: .closing :: .word "AS" :: .name rowNumber :: .word "FROM" :: .name table ::
        (whereTokens conditions ++ .closing :: .word "WHERE" ::
          (windowTokens after upTo ++ orderTokens order))))

end Query

variable {a b : String} {ts us : List Token} {cs : List (Condition Nat)}

/-- A text that can stand behind others without changing their tokens. -/
structure Trails (s : String) (ts : List Token) : Prop where
  lexes : Lexes s.toList ts
  apart : StandsApart s.toList

theorem StandsApart.append {a b : List Char} (ha : StandsApart a) (hb : StandsApart b) :
    StandsApart (a ++ b) := by
  cases a with
  | nil => exact hb
  | cons c cs => exact standsApart_cons (ha c cs rfl)

theorem Trails.append (ha : Trails a ts) (hb : Trails b us) : Trails (a ++ b) (ts ++ us) := by
  constructor
  · rw [String.toList_append]
    exact ha.lexes.append hb.lexes hb.apart
  · rw [String.toList_append]
    exact ha.apart.append hb.apart

theorem trails_nil : Trails "" [] := ⟨rfl, fun _ _ he => by cases he⟩

theorem Fixed.trails (ha : Fixed a ts) (hb : Lexes b.toList us) : Trails (a ++ b) (ts ++ us) := by
  constructor
  · rw [String.toList_append]
    exact .append_of_advance ha.advance hb
  · rw [String.toList_append]
    exact ha.apart_append _

theorem lexes_names (names : List String) :
    Lexes (listText (names.map quoteName)).toList (namesTokens names) :=
  fixed_comma.intercalate fun n _ => lexes_quoteName n

theorem Output.lexes (o : Output) : Lexes o.text.toList o.tokens := by
  unfold Output.text Output.tokens
  split
  · exact lexes_quoteName _
  · have has : Fixed " AS " [.word "AS"] := fixed_of_blank rfl rfl
    simpa using (lexes_quoteName o.column).join has (lexes_quoteName o.name)

theorem lexes_outputs (outputs : List Output) :
    Lexes (listText (outputs.map Output.text)).toList
      (listTokens (outputs.map Output.tokens)) :=
  fixed_comma.intercalate fun o _ => o.lexes

theorem trails_where (h : ∀ c ∈ cs, c.Proper) : Trails (whereText cs) (whereTokens cs) := by
  unfold whereText whereTokens
  split
  · exact trails_nil
  · have hwhere : Fixed " WHERE " [.word "WHERE"] := fixed_of_blank rfl rfl
    have hand : Fixed " AND " [.word "AND"] := fixed_of_blank rfl rfl
    exact hwhere.trails (hand.intercalate fun c hc => (h c hc).lexes)

theorem trails_order (order : List String) : Trails (orderText order) (orderTokens order) := by
  have horder : Fixed " ORDER BY " [.word "ORDER", .word "BY"] := fixed_of_blank rfl rfl
  exact horder.trails (lexes_names order)

theorem trails_limit (limit offset : Option UInt64) :
    Trails (limitText limit offset) (limitTokens limit offset) := by
  have hlimit (n : Nat) : Trails (" LIMIT " ++ n.repr) [.word "LIMIT", .number n] :=
    (fixed_of_blank rfl rfl : Fixed " LIMIT " [.word "LIMIT"]).trails (lexes_number n)
  have hoffset (n : Nat) : Trails (" OFFSET " ++ n.repr) [.word "OFFSET", .number n] :=
    (fixed_of_blank rfl rfl : Fixed " OFFSET " [.word "OFFSET"]).trails (lexes_number n)
  have hall : Fixed " LIMIT -1 OFFSET " [.word "LIMIT", .minus, .number 1, .word "OFFSET"] :=
    fixed_of_blank rfl rfl
  cases limit with
  | none =>
    cases offset with
    | none => exact trails_nil
    | some offset =>
      simp only [limitText, limitTokens]
      split
      · exact hall.trails (lexes_number _)
      · exact trails_nil
  | some limit =>
    cases offset with
    | none => exact hlimit _
    | some offset =>
      simp only [limitText, limitTokens]
      split
      · rw [String.append_assoc]
        exact (hlimit _).append (hoffset _)
      · exact hlimit _

theorem lexes_window (after : UInt64) (upTo : Option UInt64) :
    Lexes (windowText after upTo).toList (windowTokens after upTo) := by
  have hbehind : Fixed " > " [.comparison .greater] := fixed_of_blank rfl rfl
  have hupTo : Fixed " <= " [.comparison .lessOrEqual] := fixed_of_blank rfl rfl
  have hand : Fixed " AND " [.word "AND"] := fixed_of_blank rfl rfl
  have hlow := (lexes_quoteName rowNumber).join hbehind (lexes_number after.toNat)
  cases upTo with
  | none => simpa [windowText, windowTokens] using hlow
  | some last =>
    have hhigh := (lexes_quoteName rowNumber).join hupTo (lexes_number last.toNat)
    simpa [windowText, windowTokens] using hlow.join hand hhigh

namespace Query

/-- The conditions on the rows of the table. -/
@[simp]
def conditions : Query → List (Condition Nat)
  | .rows _ _ conditions .. => conditions
  | .count _ conditions => conditions
  | .numbered _ _ conditions .. => conditions

theorem lexes (q : Query) (h : ∀ c ∈ q.conditions, c.Proper) : Lexes q.text.toList q.tokens := by
  have hselect : Mode.between.advance "SELECT ".toList = some ([.word "SELECT"], .between) := by
    decide +kernel
  have hfrom : Fixed " FROM " [.word "FROM"] := fixed_of_blank rfl rfl
  unfold text tokens
  cases q with
  | rows outputs table conditions order limit offset =>
    have hhead := (lexes_outputs outputs).join hfrom (lexes_quoteName table)
    have htail := (trails_where h).append ((trails_order order).append (trails_limit limit offset))
    have htext := Lexes.append_of_advance hselect (hhead.append htail.lexes htail.apart)
    simpa using htext
  | count table conditions =>
    have hcount : Mode.between.advance "SELECT COUNT(*) FROM ".toList = some
        ([.word "SELECT", .word "COUNT", .opening, .star, .closing, .word "FROM"], .between) := by
      decide +kernel
    have htail := trails_where h
    have htext := (lexes_quoteName table).append htail.lexes htail.apart
    simpa using Lexes.append_of_advance hcount htext
  | numbered outputs table conditions group key after upTo order =>
    have hopen : Fixed " FROM (SELECT " [.word "FROM", .opening, .word "SELECT"] :=
      fixed_of_blank rfl rfl
    have hover : Fixed ", ROW_NUMBER() OVER (PARTITION BY " [.comma, .word "ROW_NUMBER", .opening,
        .closing, .word "OVER", .opening, .word "PARTITION", .word "BY"] :=
      ⟨by decide +kernel, by decide, standsApart_cons (.inr (.inl rfl))⟩
    have horder : Fixed " ORDER BY " [.word "ORDER", .word "BY"] := fixed_of_blank rfl rfl
    have has : Fixed ") AS " [.closing, .word "AS"] :=
      ⟨rfl, by decide, standsApart_cons (.inr (.inr rfl))⟩
    have hwindow : Fixed ") WHERE " [.closing, .word "WHERE"] :=
      ⟨rfl, by decide, standsApart_cons (.inr (.inr rfl))⟩
    have hrow := (lexes_quoteName rowNumber).join hfrom (lexes_quoteName table)
    have hnumber := (lexes_quoteName group).join horder ((lexes_quoteName key).join has hrow)
    have hinner := (lexes_outputs outputs).join hover hnumber
    have houter : Lexes (windowText after upTo ++ orderText order).toList
        (windowTokens after upTo ++ orderTokens order) := by
      rw [String.toList_append]
      exact (lexes_window after upTo).append (trails_order order).lexes (trails_order order).apart
    have htail := (trails_where h).append (hwindow.trails houter)
    have hbody := hinner.append htail.lexes htail.apart
    have houtput := lexes_names (outputs.map (·.name))
    have htext := Lexes.append_of_advance hselect (houtput.join hopen hbody)
    simpa [Function.comp_def] using htext

end Query

end CrudPlan.Sql
