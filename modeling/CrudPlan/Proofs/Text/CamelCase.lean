import CrudPlan.Proofs.Text.LetterCase
import CrudPlan.Text.CamelCase

namespace CrudPlan.Text

open Cluster

/-- A cluster at which no word ends: without letter case and no digits. -/
structure Neutral (g : List Char) : Prop where
  not_upper : isUpper g = false
  not_lower : isLower g = false
  not_digit : isDigit g = false

/-- Ordinary characters whose first word is in lower case, with their words. -/
structure Phrase (ds : List Char) (first : List (List Char)) (rest : List (List (List Char))) :
    Prop where
  others : ∀ x ∈ ds, clusterClass x = .other
  words : wordsFrom (ds.map ([·])) = first :: rest
  nonempty : ∀ w ∈ first :: rest, w ≠ []
  lower : first.flatten.flatMap lowerChar = first.flatten
  no_sigma : 'Σ' ∉ first.flatten

variable {g h : List Char} {gs ts rest : List (List Char)} {cs ds : List Char} {x : Char}
  {w first : List (List Char)} {ws vs : List (List (List Char))}

theorem Neutral.changesKind (hh : Neutral h) (g : List Char) : changesKind g h = false := by
  simp [Text.changesKind, hh.not_upper, hh.not_lower, hh.not_digit]

theorem Neutral.endsWord (h : Neutral g) (rest : List (List Char)) : endsWord g rest = false := by
  fun_cases Text.endsWord g rest <;>
    simp [Text.changesKind, h.not_upper, h.not_lower, h.not_digit]

theorem endsWord_append (ht : ∀ t ∈ ts.head?, Neutral t) (g : List Char) (gs : List (List Char)) :
    endsWord g (gs ++ ts) = endsWord g gs := by
  match gs, ts, ht with
  | [], [], _ => rfl
  | [], [t], ht => exact (ht t rfl).changesKind g
  | [], t :: i :: ts, ht =>
    have hkind := (ht t rfl).changesKind g
    simp [endsWord, hkind, (ht t rfl).not_upper]
  | [h], [], _ => rfl
  | [h], t :: ts, ht => simp [endsWord, (ht t rfl).not_lower]
  | h :: i :: gs, ts, _ => rfl

theorem wordsFrom_ne_nil : wordsFrom gs ≠ [] := by
  cases gs with
  | nil => exact List.cons_ne_nil _ _
  | cons g gs =>
    rw [wordsFrom]
    repeat' split
    all_goals exact List.cons_ne_nil _ _

theorem wordsFrom_cons (g : List Char) (rest : List (List Char)) :
    wordsFrom (g :: rest) = glue (if isSeparator g then [[], []]
      else if endsWord g rest then [[g], []] else [[g]]) (wordsFrom rest) := by
  have hne : wordsFrom rest ≠ [] := wordsFrom_ne_nil
  obtain ⟨w, ws, he⟩ := List.exists_cons_of_ne_nil hne
  simp only [wordsFrom, he]
  split
  · rfl
  · split <;> rfl

/-- Nothing but the separators is lost. -/
theorem flatten_wordsFrom (gs : List (List Char)) :
    (wordsFrom gs).flatten = gs.filter fun g => !isSeparator g := by
  induction gs with
  | nil => rfl
  | cons g gs ih =>
    rw [wordsFrom_cons, flatten_glue, ih, List.filter_cons]
    by_cases hg : isSeparator g = true
    · simp [hg]
    · by_cases he : endsWord g gs = true <;> simp [hg, he]

theorem wordsFrom_append (ht : ∀ t ∈ ts.head?, Neutral t) (gs : List (List Char)) :
    wordsFrom (gs ++ ts) = glue (wordsFrom gs) (wordsFrom ts) := by
  induction gs with
  | nil => exact (glue_nil_cons wordsFrom_ne_nil).symm
  | cons g gs ih =>
    rw [List.cons_append, wordsFrom_cons, wordsFrom_cons, ih, endsWord_append ht,
      glue_assoc wordsFrom_ne_nil]

theorem neutral_of_separator (h : isSeparator g = true) : Neutral g := by
  simp only [isSeparator, Bool.or_eq_true, beq_iff_eq] at h
  rcases h with (rfl | rfl) | rfl
  all_goals exact ⟨by decide +kernel, by decide +kernel, by decide +kernel⟩

theorem wordsFrom_append_separator (h : isSeparator g = true) (gs : List (List Char)) :
    wordsFrom (gs ++ [g]) = wordsFrom gs ++ [[]] := by
  have hneutral : ∀ t ∈ [g].head?, Neutral t := by simpa using neutral_of_separator h
  rw [wordsFrom_append hneutral, wordsFrom_cons, if_pos h, wordsFrom]
  exact glue_nil wordsFrom_ne_nil _

theorem exists_wordsFrom_append_singleton (h : isSeparator g = false) (gs : List (List Char)) :
    ∃ ws w, wordsFrom (gs ++ [g]) = ws ++ [w ++ [g]] := by
  induction gs with
  | nil => exact ⟨[], [], by simp [wordsFrom, h, endsWord]⟩
  | cons g' gs ih =>
    obtain ⟨ws, w, he⟩ := ih
    rw [List.cons_append, wordsFrom_cons, he]
    generalize (if isSeparator g' then [[], []]
      else if endsWord g' (gs ++ [g]) then [[g'], []] else [[g']]) = front
    cases ws with
    | nil =>
      rcases List.eq_nil_or_concat' front with rfl | ⟨init, last, rfl⟩
      · exact ⟨[], w, rfl⟩
      · rw [List.nil_append, glue_append_singleton, ← List.append_assoc]
        exact ⟨init, last ++ w, rfl⟩
    | cons v ws =>
      rcases List.eq_nil_or_concat' front with rfl | ⟨init, last, rfl⟩
      · exact ⟨v :: ws, w, rfl⟩
      · rw [List.cons_append, glue_append_singleton, ← List.cons_append,
          ← List.append_assoc]
        exact ⟨_, w, rfl⟩

theorem joinCamel_append (h : ws ≠ []) (vs : List (List (List Char))) :
    joinCamel (ws ++ vs) = joinCamel ws ++ vs.flatMap capitalized := by
  cases ws with
  | nil => exact absurd rfl h
  | cons w ws => simp [joinCamel]

theorem joinCamel_append_singleton (ws : List (List (List Char))) (w : List (List Char)) :
    joinCamel (ws ++ [w]) =
      joinCamel ws ++ if ws = [] then lower w.flatten else capitalized w := by
  split
  · rename_i h
    subst h
    simp [joinCamel]
  · rename_i h
    simp [joinCamel_append h]

theorem exists_capitalized_append (w : List (List Char)) (g : List Char) (x : Char) :
    ∃ front ys, Renders x ys ∧ capitalized (w ++ [g ++ [x]]) = front ++ ys := by
  cases w with
  | nil =>
    obtain ⟨ys, hys, he⟩ := upper_append_singleton g x
    refine ⟨upper g, ys, hys, ?_⟩
    simp [capitalized, he, lower, lowerAfter]
  | cons v w =>
    obtain ⟨front, ys, hys, he⟩ := lowerAfter_append_singleton [] (w.flatten ++ g) x
    refine ⟨upper v ++ front, ys, hys, ?_⟩
    simpa [capitalized, lower] using congrArg (upper v ++ ·) he

theorem exists_lower_append (w : List (List Char)) (g : List Char) (x : Char) :
    ∃ front ys, Renders x ys ∧ lower (w ++ [g ++ [x]]).flatten = front ++ ys := by
  obtain ⟨front, ys, hys, he⟩ := lowerAfter_append_singleton [] (w.flatten ++ g) x
  exact ⟨front, ys, hys, by simpa [lower] using he⟩

/-- A text whose last cluster is no separator ends, in camel case, in what its last character
becomes. -/
theorem exists_joinCamel_eq (hcs : clusters cs = gs ++ [g ++ [x]])
    (h : isSeparator (g ++ [x]) = false) :
    ∃ front ys, Renders x ys ∧ joinCamel (words cs) = front ++ ys := by
  obtain ⟨ws, w, he⟩ := exists_wordsFrom_append_singleton h gs
  have hlast : [w ++ [g ++ [x]]].filter (fun w => !w.isEmpty) = [w ++ [g ++ [x]]] := by simp
  rw [words, hcs, he, List.filter_append, hlast, joinCamel_append_singleton]
  split
  · obtain ⟨front, ys, hys, he⟩ := exists_lower_append w g x
    exact ⟨_, ys, hys, by rw [he, List.append_assoc]⟩
  · obtain ⟨front, ys, hys, he⟩ := exists_capitalized_append w g x
    exact ⟨_, ys, hys, by rw [he, List.append_assoc]⟩

theorem clusterClass_of_separator (h : isSeparator [x] = true) : clusterClass x = .other := by
  simp only [isSeparator, Bool.or_eq_true, beq_iff_eq, List.cons.injEq, and_true] at h
  rcases h with (rfl | rfl) | rfl <;> decide +kernel

theorem isSeparator_append_singleton (h : isSeparator (g ++ [x]) = true) : g = [] := by
  simp only [isSeparator, Bool.or_eq_true, beq_iff_eq] at h
  cases g with
  | nil => rfl
  | cons => simp at h

/-- The last cluster is no separator unless the last character is one that stands for itself. -/
theorem exists_clusters_append_singleton
    (hx : ¬ (isSeparator [x] = true ∧ lastClass cs ≠ .prepended)) :
    ∃ gs g, clusters (cs ++ [x]) = gs ++ [g ++ [x]] ∧ isSeparator (g ++ [x]) = false := by
  obtain ⟨gs, g, hclusters⟩ : ∃ gs g, clusters (cs ++ [x]) = gs ++ [g ++ [x]] := by
    rcases clusters_append_singleton cs x with he | ⟨gs, g, _, he⟩
    · exact ⟨_, [], he⟩
    · exact ⟨gs, g, he⟩
  refine ⟨gs, g, hclusters, ?_⟩
  rw [Bool.eq_false_iff]
  intro hsep
  obtain rfl := isSeparator_append_singleton hsep
  have hlast : lastClass cs = .prepended := by
    by_contra hlast
    exact hx ⟨hsep, hlast⟩
  -- a prepended character has taken the separator into its cluster
  obtain ⟨gs', g', he, hne, _⟩ := clusters_of_prepended hlast
  have htaken : clusters (cs ++ [x]) = gs' ++ [g' ++ [x]] :=
    clusters_append_prepended hlast he (clusterClass_of_separator hsep) (List.forall_mem_nil _)
  rw [hclusters] at htaken
  have heq := (List.append_inj' htaken rfl).2
  simp [hne] at heq

theorem words_append_separator (hx : isSeparator [x] = true) (hc : lastClass cs ≠ .prepended) :
    words (cs ++ [x]) = words cs := by
  have hother := clusterClass_of_separator hx
  have hclusters : clusters (cs ++ [x]) = clusters cs ++ [[x]] :=
    clusters_append_others hc (by simpa using hother)
  rw [words, hclusters, wordsFrom_append_separator hx]
  simp [words]

/-- Camel case loses no text that has words, and ends in a prepended character where the text
does. -/
theorem lastClass_joinCamel (h : words cs ≠ []) : joinCamel (words cs) ≠ [] ∧
    (lastClass (joinCamel (words cs)) = .prepended ↔ lastClass cs = .prepended) := by
  induction cs using List.reverseRecOn with
  | nil => exact absurd rfl h
  | append_singleton cs x ih =>
    by_cases hx : isSeparator [x] = true ∧ lastClass cs ≠ .prepended
    · -- the separator is a cluster of its own and adds no word
      have hwords := words_append_separator hx.1 hx.2
      rw [hwords] at h ⊢
      rw [(ih h).2, lastClass_append_singleton, clusterClass_of_separator hx.1]
      exact ⟨(ih h).1, by simp [hx.2]⟩
    · obtain ⟨gs, g, hclusters, hsep⟩ := exists_clusters_append_singleton hx
      obtain ⟨front, ys, hys, he⟩ := exists_joinCamel_eq hclusters hsep
      rw [he, hys.lastClass_iff, lastClass_append_singleton]
      exact ⟨by simp [hys.1], .rfl⟩

theorem joinCamel_words_eq_nil_iff : joinCamel (words cs) = [] ↔ words cs = [] := by
  constructor
  · intro hnil
    by_contra hne
    exact (lastClass_joinCamel hne).1 hnil
  · intro hnil
    rw [hnil]
    rfl

theorem filter_nonempty (h : ∀ w ∈ ws, w ≠ []) : ws.filter (fun w => !w.isEmpty) = ws := by
  rw [List.filter_eq_self]
  intro w hw
  simpa using h w hw

/-- The words of two texts with a blank between them are the words of the one and then those of the
other. -/
theorem words_append_blank (hc : lastClass cs ≠ .prepended) (hd : BeginsCluster ds) :
    words (cs ++ ' ' :: ds) = words cs ++ words ds := by
  have hblank : isSeparator [' '] = true := by decide
  have hneutral : ∀ t ∈ ([' '] :: clusters ds).head?, Neutral t := by
    simpa using neutral_of_separator hblank
  have hds : wordsFrom (clusters ds) ≠ [] := wordsFrom_ne_nil
  have hglue : glue [[], []] (wordsFrom (clusters ds)) = [] :: wordsFrom (clusters ds) := by
    rw [glue, glue_nil_cons hds]
  rw [words, clusters_append_blank hc hd, wordsFrom_append hneutral, wordsFrom_cons, if_pos hblank,
    hglue, glue_nil wordsFrom_ne_nil, List.filter_append]
  rfl

theorem mem_clusters_of_mem_words (hw : w ∈ words cs) (hg : g ∈ w) : g ∈ clusters cs := by
  have hmem : g ∈ (wordsFrom (clusters cs)).flatten :=
    List.mem_flatten.2 ⟨w, (List.mem_filter.1 hw).1, hg⟩
  rw [flatten_wordsFrom] at hmem
  exact (List.mem_filter.1 hmem).1

theorem Phrase.words_eq (h : Phrase ds first vs) : Text.words ds = first :: vs := by
  have hclusters : clusters ds = ds.map ([·]) := by
    have hstart : lastClass [] ≠ .prepended := by simp [lastClass, scan]
    exact clusters_append_others hstart h.others
  rw [Text.words, hclusters, h.words, filter_nonempty h.nonempty]

theorem Phrase.beginsCluster (h : Phrase ds first vs) : BeginsCluster ds := by
  intro x hx
  rw [h.others x (List.mem_of_mem_head? hx)]
  rfl

theorem Phrase.words_append (h : Phrase ds first vs) (hc : lastClass cs ≠ .prepended) :
    Text.words (cs ++ ' ' :: ds) = Text.words cs ++ first :: vs := by
  rw [words_append_blank hc h.beginsCluster, h.words_eq]

theorem not_isDigit_of_prepended (hx : clusterClass x = .prepended) : x.isDigit = false := by
  obtain ⟨p, hp, hlow, _⟩ := Ranges.contains_eq_true_iff.1 (contains_prepended hx)
  have hfar : ∀ p ∈ prepended, '9'.toNat < p.1 := by decide
  have hbehind := hfar p hp
  simp only [Char.isDigit, Bool.and_eq_false_iff, decide_eq_false_iff_not, UInt32.le_iff_toNat_le]
  right
  have hval : x.val.toNat = x.toNat := rfl
  have hnine : '9'.val.toNat = '9'.toNat := rfl
  omega

theorem neutral_of_prepended (hne : g ≠ []) (hg : ∀ x ∈ g, clusterClass x = .prepended) :
    Neutral g := by
  have hcase : (upper g != lower g) = false := by
    rw [upper_of_prepended hg, lower_of_prepended hg, bne_self_eq_false]
  obtain ⟨x, g, rfl⟩ := List.exists_cons_of_ne_nil hne
  refine ⟨by rw [isUpper, hcase, Bool.false_and], by rw [isLower, hcase, Bool.false_and], ?_⟩
  rw [isDigit, List.all_cons, not_isDigit_of_prepended (hg x List.mem_cons_self), Bool.false_and]

theorem neutral_of_prepended_blank (hg : ∀ x ∈ g, clusterClass x = .prepended) :
    Neutral (g ++ [' ']) := by
  have hupper : upper (g ++ [' ']) = g ++ [' '] := by
    have hblank : upperChar ' ' = [' '] := by decide +kernel
    have hfront := upper_of_prepended hg
    rw [upper] at hfront ⊢
    rw [List.flatMap_append, hfront, List.flatMap_singleton, hblank]
  have hlower : lower (g ++ [' ']) = g ++ [' '] := by
    rw [lower_append_blank g List.not_mem_nil rfl, lower_of_prepended hg]
  have hcase : (upper (g ++ [' ']) != lower (g ++ [' '])) = false := by
    rw [hupper, hlower, bne_self_eq_false]
  refine ⟨by rw [isUpper, hcase, Bool.false_and], by rw [isLower, hcase, Bool.false_and], ?_⟩
  have hblank : ' '.isDigit = false := by decide
  simp [isDigit, hblank]

theorem not_isSeparator_of_prepended (hg : ∀ x ∈ g, clusterClass x = .prepended) :
    isSeparator g = false := by
  rw [Bool.eq_false_iff]
  intro hsep
  obtain ⟨y, rfl⟩ : ∃ y, g = [y] := by
    simp only [isSeparator, Bool.or_eq_true, beq_iff_eq] at hsep
    rcases hsep with (rfl | rfl) | rfl <;> exact ⟨_, rfl⟩
  have hy := hg y (List.mem_singleton_self y)
  rw [clusterClass_of_separator hsep] at hy
  cases hy

theorem wordsFrom_append_neutral (hg : Neutral g) (hsep : isSeparator g = false)
    (hgs : wordsFrom gs = ws ++ [w]) (hts : wordsFrom ts = first :: vs) :
    wordsFrom (gs ++ g :: ts) = ws ++ (w ++ g :: first) :: vs := by
  have hglue : glue [[g]] (first :: vs) = (g :: first) :: vs := rfl
  rw [wordsFrom_append (by simpa using hg), hgs, wordsFrom_cons, if_neg (by simp [hsep]),
    if_neg (by simp [hg.endsWord]), hts, hglue, glue_append_singleton]

/-- A prepended character takes the blank, and the first word of a phrase continues its word. -/
theorem Phrase.words_append_prepended (h : Phrase ds first vs) (hc : lastClass cs = .prepended) :
    ∃ ws w g, Text.words cs = ws ++ [w ++ [g]] ∧
      Text.words (cs ++ ' ' :: ds) = ws ++ (w ++ (g ++ [' ']) :: first) :: vs := by
  obtain ⟨gs, g, hcs, hne, hg⟩ := clusters_of_prepended hc
  have hclusters : clusters (cs ++ ' ' :: ds) = gs ++ (g ++ [' ']) :: ds.map ([·]) :=
    clusters_append_prepended hc hcs (by decide +kernel) h.others
  have hblank : isSeparator (g ++ [' ']) = false := by
    rw [Bool.eq_false_iff]
    exact fun hsep => hne (isSeparator_append_singleton hsep)
  have hwords : wordsFrom gs ≠ [] := wordsFrom_ne_nil
  obtain ⟨init, last, hlast⟩ := List.eq_nil_or_concat' (wordsFrom gs) |>.resolve_left hwords
  refine ⟨init.filter fun w => !w.isEmpty, last, g, ?_, ?_⟩
  · have hnil : wordsFrom [] = [[]] := rfl
    have hend := wordsFrom_append_neutral (neutral_of_prepended hne hg)
      (not_isSeparator_of_prepended hg) hlast hnil
    rw [Text.words, hcs, hend]
    simp
  · have hend := wordsFrom_append_neutral (neutral_of_prepended_blank hg) hblank hlast h.words
    have hvs := filter_nonempty fun w hw => h.nonempty w (List.mem_cons_of_mem first hw)
    rw [Text.words, hclusters, hend, List.filter_append, List.filter_cons, if_pos (by simp), hvs]

theorem Phrase.lower_append (h : Phrase ds first vs) (w : List (List Char)) (g : List Char) :
    Text.lower (w ++ (g ++ [' ']) :: first).flatten =
      Text.lower (w ++ [g]).flatten ++ ' ' :: first.flatten := by
  have hblank := lower_append_blank (w.flatten ++ g) h.no_sigma h.lower
  simpa using hblank

theorem Phrase.lower_first (h : Phrase ds first vs) : Text.lower first.flatten = first.flatten := by
  rw [Text.lower, lowerAfter_of_not_mem h.no_sigma, h.lower]

theorem Phrase.capitalized_append (h : Phrase ds first vs) (w : List (List Char))
    (g : List Char) :
    capitalized (w ++ (g ++ [' ']) :: first) = capitalized (w ++ [g]) ++ ' ' :: first.flatten := by
  cases w with
  | nil =>
    have hblank : upperChar ' ' = [' '] := by decide +kernel
    have hnil : Text.lower [] = [] := rfl
    simp [capitalized, upper, hblank, h.lower_first, hnil]
  | cons v w =>
    have hlower := h.lower_append w g
    simp only [List.cons_append, capitalized, hlower, List.append_assoc]

/-- What a phrase becomes behind a text that is `camel` in camel case. -/
def Phrase.behind (camel : List Char) (first : List (List Char)) (vs : List (List (List Char))) :
    List Char :=
  if camel = [] then first.flatten ++ vs.flatMap capitalized
  else if lastClass camel = .prepended then ' ' :: first.flatten ++ vs.flatMap capitalized
  else (first :: vs).flatMap capitalized

theorem Phrase.joinCamel_append (h : Phrase ds first vs) (cs : List Char) :
    joinCamel (Text.words (cs ++ ' ' :: ds)) =
      joinCamel (Text.words cs) ++ behind (joinCamel (Text.words cs)) first vs := by
  by_cases hc : lastClass cs = .prepended
  · obtain ⟨ws, w, g, hwords, hall⟩ := h.words_append_prepended hc
    have hne : Text.words cs ≠ [] := by simp [hwords]
    have hlast := lastClass_joinCamel hne
    rw [behind, if_neg hlast.1, if_pos (hlast.2.2 hc), hall, hwords, ← List.singleton_append,
      ← List.append_assoc, Text.joinCamel_append (by simp), joinCamel_append_singleton,
      joinCamel_append_singleton]
    split
    · rw [h.lower_append]
      simp
    · rw [h.capitalized_append]
      simp
  · rw [h.words_append hc, behind]
    by_cases hnil : Text.words cs = []
    · rw [if_pos (joinCamel_words_eq_nil_iff.2 hnil), hnil, List.nil_append]
      simp [joinCamel, h.lower_first]
    · have hlast := lastClass_joinCamel hnil
      rw [if_neg hlast.1, if_neg (mt hlast.2.1 hc), Text.joinCamel_append hnil]

end CrudPlan.Text
