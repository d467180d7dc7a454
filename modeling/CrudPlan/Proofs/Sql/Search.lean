import CrudPlan.Proofs.Sql.Binding

namespace CrudPlan.Sql

/-- The characters that have a meaning in a pattern. -/
def specials : List Char := ['\\', '%', '_']

/-- A text matches a pattern, where `same` says which characters count as equal: `%` stands for any
characters, `_` for any one, and a backslash takes the meaning from the character behind it. -/
inductive Like (same : Char → Char → Bool) : List Char → List Char → Prop
  | nil : Like same [] []
  | run {pattern text} (skipped : List Char) (h : Like same pattern text) :
      Like same ('%' :: pattern) (skipped ++ text)
  | one {pattern text} (d : Char) (h : Like same pattern text) :
      Like same ('_' :: pattern) (d :: text)
  | escaped {pattern text c d} (equal : same c d) (h : Like same pattern text) :
      Like same ('\\' :: c :: pattern) (d :: text)
  | plain {pattern text c d} (hc : c ∉ specials) (equal : same c d) (h : Like same pattern text) :
      Like same (c :: pattern) (d :: text)

/-- A pattern ends with a backslash that takes the meaning from nothing. -/
inductive Dangling : List Char → Prop
  | last : Dangling ['\\']
  | escaped {pattern} (c : Char) (h : Dangling pattern) : Dangling ('\\' :: c :: pattern)
  | other {pattern c} (hc : c ≠ '\\') (h : Dangling pattern) : Dangling (c :: pattern)

variable {same : Char → Char → Bool} {c : Char} {pattern text : List Char} {items : List LikeItem}

theorem ne_backslash (hc : c ∉ specials) : c ≠ '\\' := fun he => hc (he ▸ by decide)

theorem not_dangling_nil : ¬ Dangling [] := nofun

theorem dangling_escaped_iff : Dangling ('\\' :: c :: pattern) ↔ Dangling pattern := by
  constructor
  · intro h
    cases h with
    | escaped _ h => exact h
    | other hc _ => exact absurd rfl hc
  · exact .escaped c

theorem dangling_other_iff (hc : c ≠ '\\') : Dangling (c :: pattern) ↔ Dangling pattern := by
  constructor
  · intro h
    cases h with
    | last => exact absurd rfl hc
    | escaped _ _ => exact absurd rfl hc
    | other _ h => exact h
  · exact .other hc

theorem like_nil_iff : Like same [] text ↔ text = [] := by
  constructor
  · intro h
    cases h
    rfl
  · rintro rfl
    exact .nil

theorem like_run_iff :
    Like same ('%' :: pattern) text ↔ ∃ rest, rest <:+ text ∧ Like same pattern rest := by
  constructor
  · intro h
    cases h with
    | run skipped h => exact ⟨_, List.suffix_append _ _, h⟩
    | plain hc _ _ => exact absurd (by decide) hc
  · rintro ⟨rest, ⟨skipped, rfl⟩, h⟩
    exact .run skipped h

theorem like_one_iff :
    Like same ('_' :: pattern) text ↔ ∃ d rest, text = d :: rest ∧ Like same pattern rest := by
  constructor
  · intro h
    cases h with
    | one d h => exact ⟨d, _, rfl, h⟩
    | plain hc _ _ => exact absurd (by decide) hc
  · rintro ⟨d, rest, rfl, h⟩
    exact .one d h

theorem like_escaped_iff : Like same ('\\' :: c :: pattern) text ↔
    ∃ d rest, text = d :: rest ∧ same c d ∧ Like same pattern rest := by
  constructor
  · intro h
    cases h with
    | escaped equal h => exact ⟨_, _, rfl, equal, h⟩
    | plain hc _ _ => exact absurd (by decide) hc
  · rintro ⟨d, rest, rfl, equal, h⟩
    exact .escaped equal h

theorem like_plain_iff (hc : c ∉ specials) : Like same (c :: pattern) text ↔
    ∃ d rest, text = d :: rest ∧ same c d ∧ Like same pattern rest := by
  constructor
  · intro h
    cases h with
    | plain _ equal h => exact ⟨_, _, rfl, equal, h⟩
    | _ => exact absurd (by decide) hc
  · rintro ⟨d, rest, rfl, equal, h⟩
    exact .plain hc equal h

theorem Like.not_dangling (h : Like same pattern text) : ¬ Dangling pattern := by
  induction h with
  | nil => exact not_dangling_nil
  | run _ _ ih => rwa [dangling_other_iff (by decide)]
  | one _ _ ih => rwa [dangling_other_iff (by decide)]
  | escaped _ _ ih => rwa [dangling_escaped_iff]
  | plain hc _ _ ih => rwa [dangling_other_iff (ne_backslash hc)]

theorem likeItems_plain (hc : c ∉ specials) :
    likeItems (c :: pattern) = (likeItems pattern).map (.char c :: ·) := by
  simp only [specials, List.mem_cons, List.not_mem_nil, or_false, not_or] at hc
  simp [likeItems, hc]

theorem itemsMatch_char_iff : itemsMatch same (.char c :: items) text ↔
    ∃ d rest, text = d :: rest ∧ same c d ∧ itemsMatch same items rest := by
  cases text <;> simp [itemsMatch]

/-- A pattern is read from the left, an escape together with what it escapes. -/
@[elab_as_elim]
theorem patternInduction {motive : List Char → Prop} (nil : motive []) (last : motive ['\\'])
    (escaped : ∀ c pattern, motive pattern → motive ('\\' :: c :: pattern))
    (run : ∀ pattern, motive pattern → motive ('%' :: pattern))
    (one : ∀ pattern, motive pattern → motive ('_' :: pattern))
    (plain : ∀ c pattern, c ∉ specials → motive pattern → motive (c :: pattern))
    (pattern : List Char) : motive pattern := by
  fun_induction likeItems pattern with
  | case1 => exact nil
  | case2 => exact last
  | case3 c pattern ih => exact escaped c pattern ih
  | case4 pattern ih => exact run pattern ih
  | case5 pattern ih => exact one pattern ih
  | case6 c pattern hlast hescaped hrun hone ih =>
    have hescape : c ≠ '\\' := by
      cases pattern with
      | nil => exact fun he => hlast he rfl
      | cons d pattern => exact fun he => hescaped d pattern he rfl
    refine plain c pattern ?_ ih
    simpa [specials] using And.intro hescape ⟨hrun, hone⟩

theorem likeItems_eq_none_iff : likeItems pattern = none ↔ Dangling pattern := by
  induction pattern using patternInduction with
  | nil => simp [likeItems, not_dangling_nil]
  | last => exact ⟨fun _ => .last, fun _ => rfl⟩
  | escaped c pattern ih => simp [likeItems, ih, dangling_escaped_iff]
  | run pattern ih => simp [likeItems, ih, dangling_other_iff]
  | one pattern ih => simp [likeItems, ih, dangling_other_iff]
  | plain c pattern hc ih => simp [likeItems_plain hc, ih, dangling_other_iff (ne_backslash hc)]

theorem like_iff_itemsMatch (h : likeItems pattern = some items) :
    Like same pattern text ↔ itemsMatch same items text := by
  induction pattern using patternInduction generalizing items text with
  | nil =>
    cases h
    simp [like_nil_iff, itemsMatch]
  | last => cases h
  | escaped c pattern ih =>
    obtain ⟨rest, hrest, rfl⟩ := Option.map_eq_some_iff.1 h
    simp only [like_escaped_iff, itemsMatch_char_iff, ih hrest]
  | run pattern ih =>
    obtain ⟨rest, hrest, rfl⟩ := Option.map_eq_some_iff.1 h
    simp [like_run_iff, itemsMatch, ih hrest]
  | one pattern ih =>
    obtain ⟨rest, hrest, rfl⟩ := Option.map_eq_some_iff.1 h
    cases text <;> simp [like_one_iff, itemsMatch, ih hrest]
  | plain c pattern hc ih =>
    rw [likeItems_plain hc] at h
    obtain ⟨rest, hrest, rfl⟩ := Option.map_eq_some_iff.1 h
    simp only [like_plain_iff hc, itemsMatch_char_iff, ih hrest]

theorem like_iff_likeMatches {pattern text : String} :
    Like same pattern.toList text.toList ↔ likeMatches same pattern text := by
  rw [likeMatches]
  cases hitems : likeItems pattern.toList with
  | none => simpa using fun h => Like.not_dangling h (likeItems_eq_none_iff.1 hitems)
  | some items => exact like_iff_itemsMatch hitems

theorem startsWith_iff_prefix {needle : List Char} :
    startsWith (· == ·) needle text ↔ needle <+: text := by
  induction needle generalizing text with
  | nil => simp [startsWith]
  | cons c needle ih => cases text <;> simp [startsWith, ih, List.cons_prefix_cons]

theorem occursIn_iff_infix {needle text : String} :
    occursIn (· == ·) needle text ↔ needle.toList <:+: text.toList := by
  simp only [occursIn, List.any_eq_true, List.mem_tails, startsWith_iff_prefix,
    List.infix_iff_prefix_suffix, and_comm]

/-- The pattern that is bound for a search has no open escape at its end. Where characters count as
equal only to themselves, it matches exactly the texts that contain what is searched for. -/
theorem includes_matches_iff_infix (taken : Nat) (column : String) (operand : Json) :
    ∃ pattern : String,
      bindOperator taken column .includes operand =
        ⟨.like column (taken + 1), [.text pattern]⟩ ∧
      pattern.toList = '%' :: escapeLike (needleOf operand).toList ++ ['%'] ∧
      ¬ Dangling pattern.toList ∧
      ∀ text : String, Like (· == ·) pattern.toList text.toList ↔
        (needleOf operand).toList <:+: text.toList := by
  refine ⟨containsPattern (needleOf operand), rfl, String.toList_ofList, ?_, ?_⟩
  · rw [← likeItems_eq_none_iff, likeItems_containsPattern]
    exact Option.some_ne_none _
  · intro text
    rw [like_iff_likeMatches, likeMatches_containsPattern, occursIn_iff_infix]

example : containsPattern "50%_off\\" = "%50\\%\\_off\\\\%" := by decide

end CrudPlan.Sql
