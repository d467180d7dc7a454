import CrudPlan.Proofs.Text.Cluster
import CrudPlan.Text.LetterCase

namespace CrudPlan.Text

/-- A mapping that keeps prepended characters and maps no other character to one. -/
structure Spares (runs : List CaseRun) (sequences : List (Nat × List Nat)) : Prop where
  runs : ∀ r ∈ runs, ∀ p ∈ prepended, 0 < p.1 ∧ (r.last < p.1 ∨ p.2 < r.first) ∧
    (r.last + r.distance < p.1 ∨ p.2 < r.first + r.distance)
  sequences : ∀ e ∈ sequences, e.2 ≠ [] ∧
    ∀ n ∈ e.1 :: e.2, ∀ p ∈ prepended, n < p.1 ∨ p.2 < n

theorem spares_upper : Spares upperRuns upperSequences where
  runs := by decide +kernel
  sequences := by decide +kernel

theorem spares_lower : Spares lowerRuns lowerSequences where
  runs := by decide +kernel
  sequences := by decide +kernel

variable {runs : List CaseRun} {sequences : List (Nat × List Nat)} {before cs ds g : List Char}
  {b c x y : Char} {ys : List Char} {n : Nat}

theorem Ranges.contains_eq_true_iff {ranges : Ranges} :
    ranges.contains c = true ↔ ∃ p ∈ ranges, p.1 ≤ c.toNat ∧ c.toNat ≤ p.2 := by
  simp [Ranges.contains]

theorem contains_prepended (h : clusterClass c = .prepended) : prepended.contains c = true := by
  unfold clusterClass at h
  repeat' split at h
  all_goals first | assumption | cases h

theorem toNat_ofNat_eq (n : Nat) : (Char.ofNat n).toNat = n ∨ (Char.ofNat n).toNat = 0 := by
  by_cases h : n.isValidChar
  · rw [Char.ofNat, dif_pos h]
    exact .inl rfl
  · rw [Char.ofNat, dif_neg h]
    exact .inr rfl

theorem not_contains_ofNat (hpos : ∀ p ∈ prepended, 0 < p.1)
    (h : ∀ p ∈ prepended, n < p.1 ∨ p.2 < n) : prepended.contains (Char.ofNat n) ≠ true := by
  rw [Ne, Ranges.contains_eq_true_iff]
  rintro ⟨p, hp, hlow, hhigh⟩
  have := hpos p hp
  have := h p hp
  rcases toNat_ofNat_eq n with he | he <;> omega

theorem prepended_pos : ∀ p ∈ prepended, 0 < p.1 := by decide

theorem findSome?_eq_none_of_apart (h : ∀ r ∈ runs, n < r.first ∨ r.last < n) :
    runs.findSome? (·.get? n) = none := by
  rw [List.findSome?_eq_none_iff]
  intro r hr
  have hapart := h r hr
  rw [CaseRun.get?, if_neg (by omega)]

theorem lookup_eq_none_of_ne (h : ∀ e ∈ sequences, e.1 ≠ n) : sequences.lookup n = none := by
  rw [List.lookup_eq_none_iff]
  intro e he
  exact bne_iff_ne.2 (h e he).symm

theorem Spares.mapCase_of_prepended (h : Spares runs sequences) (hc : prepended.contains c = true) :
    mapCase runs sequences c = [c] := by
  obtain ⟨p, hp, hlow, hhigh⟩ := Ranges.contains_eq_true_iff.1 hc
  have hruns : runs.findSome? (·.get? c.toNat) = none := by
    apply findSome?_eq_none_of_apart
    intro r hr
    have hapart := (h.runs r hr p hp).2.1
    omega
  have hsequences : sequences.lookup c.toNat = none := by
    apply lookup_eq_none_of_ne
    intro e he
    have hapart := (h.sequences e he).2 e.1 List.mem_cons_self p hp
    omega
  rw [mapCase, hruns, hsequences]

theorem Spares.eq_of_mem_mapCase (h : Spares runs sequences) (hy : y ∈ mapCase runs sequences c)
    (hp : prepended.contains y = true) : y = c := by
  unfold mapCase at hy
  split at hy
  · rename_i m hm
    obtain ⟨_, r, _, hr, hget, _⟩ := List.findSome?_eq_some_iff.1 hm
    have hmem : r ∈ runs := by simp [hr]
    unfold CaseRun.get? at hget
    split at hget
    · cases hget
      cases List.mem_singleton.1 hy
      refine absurd hp (not_contains_ofNat prepended_pos fun p hp => ?_)
      have hapart := (h.runs r hmem p hp).2.2
      have := prepended_pos p hp
      omega
    · cases hget
  · split at hy
    · rename_i ns hns
      obtain ⟨_, _, he, _⟩ := List.lookup_eq_some_iff.1 hns
      have hmem : (c.toNat, ns) ∈ sequences := by simp [he]
      obtain ⟨k, hk, rfl⟩ := List.mem_map.1 hy
      exact absurd hp (not_contains_ofNat prepended_pos
        ((h.sequences _ hmem).2 k (List.mem_cons_of_mem _ hk)))
    · exact List.mem_singleton.1 hy

theorem Spares.mapCase_ne_nil (h : Spares runs sequences) : mapCase runs sequences c ≠ [] := by
  unfold mapCase
  split
  · exact List.cons_ne_nil _ _
  · split
    · rename_i ns hns
      obtain ⟨_, _, he, _⟩ := List.lookup_eq_some_iff.1 hns
      have hmem : (c.toNat, ns) ∈ sequences := by simp [he]
      simpa using (h.sequences _ hmem).1
    · exact List.cons_ne_nil _ _

/-- Characters in place of one, prepended ones exactly if it is. -/
def Renders (x : Char) (ys : List Char) : Prop :=
  ys ≠ [] ∧ ∀ y ∈ ys, clusterClass y = .prepended ↔ clusterClass x = .prepended

theorem Spares.renders (h : Spares runs sequences) : Renders c (mapCase runs sequences c) := by
  refine ⟨h.mapCase_ne_nil, ?_⟩
  intro y hy
  constructor
  · intro hp
    rwa [← h.eq_of_mem_mapCase hy (contains_prepended hp)]
  · intro hp
    rw [h.mapCase_of_prepended (contains_prepended hp)] at hy
    rwa [List.mem_singleton.1 hy]

theorem Renders.lastClass_iff (h : Renders x ys) :
    lastClass (cs ++ ys) = .prepended ↔ clusterClass x = .prepended := by
  obtain ⟨hne, hall⟩ := h
  obtain ⟨init, last, rfl⟩ := List.eq_nil_or_concat' ys |>.resolve_left hne
  rw [← List.append_assoc, lastClass_append_singleton]
  exact hall last (by simp)

theorem upper_append_singleton (cs : List Char) (x : Char) :
    ∃ ys, Renders x ys ∧ upper (cs ++ [x]) = upper cs ++ ys :=
  ⟨upperChar x, spares_upper.renders, by simp [upper]⟩

theorem renders_lower (before rest : List Char) (x : Char) :
    Renders x (if x = 'Σ' then if startsCased before && !startsCased rest then ['ς'] else ['σ']
      else lowerChar x) := by
  have hsigma : clusterClass 'Σ' ≠ .prepended := by decide +kernel
  have hsmall : clusterClass 'σ' ≠ .prepended := by decide +kernel
  have hfinal : clusterClass 'ς' ≠ .prepended := by decide +kernel
  split
  · rename_i hx
    subst hx
    split <;> simp [Renders, hsigma, hsmall, hfinal]
  · exact spares_lower.renders

theorem lowerAfter_append_singleton (before cs : List Char) (x : Char) :
    ∃ front ys, Renders x ys ∧ lowerAfter before (cs ++ [x]) = front ++ ys := by
  induction cs generalizing before with
  | nil => exact ⟨[], _, renders_lower before [] x, by simp [lowerAfter]⟩
  | cons c cs ih =>
    obtain ⟨front, ys, hys, he⟩ := ih (c :: before)
    rw [List.cons_append, lowerAfter, he, ← List.append_assoc]
    exact ⟨_, ys, hys, rfl⟩

theorem startsCased_append (hb : caseIgnorable.contains b = false) (hb' : cased.contains b = false)
    (cs ds : List Char) : startsCased (cs ++ b :: ds) = startsCased cs := by
  induction cs with
  | nil => simp [startsCased, hb, hb']
  | cons c cs ih =>
    rw [startsCased, startsCased, List.cons_append, List.dropWhile_cons, List.dropWhile_cons]
    by_cases hc : caseIgnorable.contains c
    · rw [if_pos hc, if_pos hc]
      exact ih
    · rw [if_neg hc, if_neg hc]

/-- A character without case ends a word. -/
theorem lowerAfter_append (hb : caseIgnorable.contains b = false) (hb' : cased.contains b = false)
    (before cs ds : List Char) : lowerAfter before (cs ++ b :: ds) =
      lowerAfter before cs ++ lowerAfter (cs.reverse ++ before) (b :: ds) := by
  induction cs generalizing before with
  | nil => rfl
  | cons c cs ih =>
    rw [List.cons_append, lowerAfter, lowerAfter, ih, startsCased_append hb hb', List.append_assoc,
      List.reverse_cons, List.append_assoc]
    rfl

theorem lowerAfter_of_not_mem (h : 'Σ' ∉ cs) : lowerAfter before cs = cs.flatMap lowerChar := by
  induction cs generalizing before with
  | nil => rfl
  | cons c cs ih =>
    rw [List.mem_cons, not_or] at h
    rw [lowerAfter, if_neg (Ne.symm h.1), ih h.2, List.flatMap_cons]

theorem lower_append_blank (cs : List Char) (h : 'Σ' ∉ ds) (hds : ds.flatMap lowerChar = ds) :
    lower (cs ++ ' ' :: ds) = lower cs ++ ' ' :: ds := by
  have hblank : lowerChar ' ' = [' '] := by decide +kernel
  have hmem : 'Σ' ∉ ' ' :: ds := by simpa using h
  rw [lower, lowerAfter_append (by decide +kernel) (by decide +kernel),
    lowerAfter_of_not_mem hmem, List.flatMap_cons, hblank, hds]
  rfl

theorem flatMap_eq_self {f : Char → List Char} (h : ∀ x ∈ g, f x = [x]) : g.flatMap f = g := by
  rw [List.flatMap_congr h, List.flatMap_singleton']

theorem upper_of_prepended (h : ∀ x ∈ g, clusterClass x = .prepended) : upper g = g :=
  flatMap_eq_self fun x hx => spares_upper.mapCase_of_prepended (contains_prepended (h x hx))

theorem lower_of_prepended (h : ∀ x ∈ g, clusterClass x = .prepended) : lower g = g := by
  have hsigma : 'Σ' ∉ g := by
    intro hmem
    exact absurd (h _ hmem) (by decide +kernel)
  rw [lower, lowerAfter_of_not_mem hsigma]
  exact flatMap_eq_self fun x hx => spares_lower.mapCase_of_prepended (contains_prepended (h x hx))

end CrudPlan.Text
