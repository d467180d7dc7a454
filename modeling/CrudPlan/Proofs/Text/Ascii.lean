import CrudPlan.Proofs.Text.CamelCase

namespace CrudPlan.Text

/-- Characters of ASCII alone. -/
def Ascii (cs : List Char) : Prop := ∀ x ∈ cs, x.toNat < 128

instance (cs : List Char) : Decidable (Ascii cs) :=
  decidable_of_iff ((cs.all fun x => decide (x.toNat < 128)) = true) (by simp [Ascii])

/-- The first character in upper and the rest in lower case, where only the letters from A to Z have
case. -/
def capitalizeAscii : List Char → List Char
  | [] => []
  | x :: cs => x.toUpper :: cs.map Char.toLower

/-- The classes of characters that belong to none beside them, line ends apart. -/
def ClusterClass.isDetached : ClusterClass → Bool
  | .lineFeed | .carriageReturn | .control | .other => true
  | _ => false

/-- A character of ASCII with nothing but line feeds behind it. -/
def OneCharacter (g : List Char) : Prop :=
  ∃ x ys, g = x :: ys ∧ x.toNat < 128 ∧ ∀ y ∈ ys, y = '\n'

variable {ranges : Ranges} {runs : List CaseRun} {sequences : List (Nat × List Nat)} {r : CaseRun}
variable {j : Joining} {c : ClusterClass} {x : Char} {cs g : List Char} {w : List (List Char)}

theorem Ranges.contains_eq_false (h : ∀ p ∈ ranges, 128 ≤ p.1) (hx : x.toNat < 128) :
    ranges.contains x = false := by
  rw [← Bool.not_eq_true, Ranges.contains_eq_true_iff]
  rintro ⟨p, hp, hlow, _⟩
  have := h p hp
  omega

theorem clusterClass_of_lt (hx : x.toNat < 128) : clusterClass x =
    if x = '\n' then .lineFeed else if x = '\r' then .carriageReturn
    else if controls.contains x then .control else .other := by
  have hextending : extending.contains x = false :=
    Ranges.contains_eq_false (by decide +kernel) hx
  have hspacing : spacingMarks.contains x = false :=
    Ranges.contains_eq_false (by decide +kernel) hx
  have hprepended : prepended.contains x = false :=
    Ranges.contains_eq_false (by decide +kernel) hx
  have hpictographs : pictographs.contains x = false :=
    Ranges.contains_eq_false (by decide +kernel) hx
  have hjoiner : x.toNat ≠ 0x200d := by omega
  simp only [clusterClass, hextending, hspacing, hprepended, hpictographs, hjoiner, if_false,
    Bool.false_eq_true]

theorem isDetached_of_lt (hx : x.toNat < 128) : (clusterClass x).isDetached = true := by
  rw [clusterClass_of_lt hx]
  repeat' split
  all_goals rfl

theorem clusterClass_of_printable (hlow : 32 ≤ x.toNat) (hhigh : x.toNat < 127) :
    clusterClass x = .other := by
  have hfeed : x ≠ '\n' := fun he => absurd hlow (by rw [he]; decide)
  have hreturn : x ≠ '\r' := fun he => absurd hlow (by rw [he]; decide)
  have hapart : ∀ p ∈ controls, p.2 < 32 ∨ 127 ≤ p.1 := by decide
  have hcontrols : ¬ controls.contains x = true := by
    rw [Ranges.contains_eq_true_iff]
    rintro ⟨p, hp, hfirst, hlast⟩
    have := hapart p hp
    omega
  rw [clusterClass_of_lt (by omega), if_neg hfeed, if_neg hreturn, if_neg hcontrols]

theorem eq_lineFeed_of_class (h : clusterClass x = .lineFeed) : x = '\n' := by
  unfold clusterClass at h
  split at h
  · assumption
  · repeat' split at h
    all_goals cases h

theorem Ascii.beginsCluster (h : Ascii cs) : BeginsCluster cs := by
  intro x hx
  have hdetached := isDetached_of_lt (h x (List.mem_of_mem_head? hx))
  generalize clusterClass x = c at hdetached
  cases c <;> first | rfl | cases hdetached

theorem Ascii.lastClass_ne (h : Ascii cs) : lastClass cs ≠ .prepended := by
  rcases List.eq_nil_or_concat' cs with rfl | ⟨init, x, rfl⟩
  · simp [lastClass, scan]
  · rw [lastClass_append_singleton]
    intro hx
    have hdetached := isDetached_of_lt (h x (by simp))
    rw [hx] at hdetached
    cases hdetached

/-- Of detached characters only a line end of two holds together. -/
theorem eq_lineFeed_of_holdsTogether (hc : c.isDetached = true)
    (hx : (clusterClass x).isDetached = true) (h : holdsTogether j c (clusterClass x) = true) :
    x = '\n' := by
  apply eq_lineFeed_of_class
  generalize clusterClass x = d at hx h
  cases d <;> cases hx <;> cases c <;> cases hc <;>
    simp_all [holdsTogether, ClusterClass.standsAlone, ClusterClass.belongsToPrevious]

theorem clustersAfter_of_ascii (hc : c.isDetached = true) (h : Ascii cs) : ∃ ys gs,
    clustersAfter j c cs = ys :: gs ∧ (∀ y ∈ ys, y = '\n') ∧ ∀ g ∈ gs, OneCharacter g := by
  induction cs generalizing j c with
  | nil => exact ⟨[], [], rfl, List.forall_mem_nil _, List.forall_mem_nil _⟩
  | cons x cs ih =>
    obtain ⟨hx, h⟩ := List.forall_mem_cons.1 h
    have hdetached := isDetached_of_lt hx
    obtain ⟨ys, gs, he, hys, hgs⟩ := ih (j := j.next (clusterClass x)) hdetached h
    rw [clustersAfter_cons, he]
    by_cases hholds : holdsTogether j c (clusterClass x) = true
    · have hfeed := eq_lineFeed_of_holdsTogether hc hdetached hholds
      exact ⟨x :: ys, gs, by rw [if_pos hholds]; rfl, List.forall_mem_cons.2 ⟨hfeed, hys⟩, hgs⟩
    · refine ⟨[], (x :: ys) :: gs, by rw [if_neg hholds]; rfl, List.forall_mem_nil _, ?_⟩
      exact List.forall_mem_cons.2 ⟨⟨x, ys, rfl, hx, hys⟩, hgs⟩

theorem Ascii.clusters (h : Ascii cs) : ∀ g ∈ Text.clusters cs, OneCharacter g := by
  obtain ⟨ys, gs, he, _, hgs⟩ :=
    clustersAfter_of_ascii (j := .none) (c := .control) rfl h
  rw [clustersAfter_start] at he
  rwa [(List.cons.inj he).2]

theorem OneCharacter.ascii (h : OneCharacter g) : Ascii g := by
  obtain ⟨x, ys, rfl, hx, hys⟩ := h
  refine List.forall_mem_cons.2 ⟨hx, ?_⟩
  intro y hy
  rw [hys y hy]
  decide

/-- Where a table of letters begins with a run and has nothing else below 128, that run decides. -/
theorem mapCase_of_lt (hruns : ∀ r ∈ runs, 128 ≤ r.first) (hsequences : ∀ e ∈ sequences, 128 ≤ e.1)
    (hx : x.toNat < 128) :
    mapCase (r :: runs) sequences x = [((r.get? x.toNat).map Char.ofNat).getD x] := by
  have hrest : runs.findSome? (·.get? x.toNat) = none := by
    apply findSome?_eq_none_of_apart
    intro r hr
    have := hruns r hr
    omega
  have hlookup : sequences.lookup x.toNat = none := by
    apply lookup_eq_none_of_ne
    intro e he
    have := hsequences e he
    omega
  rw [mapCase, List.findSome?_cons]
  cases r.get? x.toNat with
  | none => simp [hrest, hlookup]
  | some n => rfl

theorem forall_of_lt {P : Char → Prop} (h : ∀ n < 128, P (.ofNat n)) :
    ∀ x : Char, x.toNat < 128 → P x := by
  intro x hx
  rw [← Char.ofNat_toNat x]
  exact h x.toNat hx

theorem upperChar_of_lt (hx : x.toNat < 128) : upperChar x = [x.toUpper] := by
  have hrun : ∀ x : Char, x.toNat < 128 →
      ((CaseRun.get? ⟨0x61, 0x7a, 1, -32⟩ x.toNat).map Char.ofNat).getD x = x.toUpper :=
    forall_of_lt (by decide)
  rw [← hrun x hx]
  exact mapCase_of_lt (by decide +kernel) (by decide +kernel) hx

theorem lowerChar_of_lt (hx : x.toNat < 128) : lowerChar x = [x.toLower] := by
  have hrun : ∀ x : Char, x.toNat < 128 →
      ((CaseRun.get? ⟨0x41, 0x5a, 1, 32⟩ x.toNat).map Char.ofNat).getD x = x.toLower :=
    forall_of_lt (by decide)
  rw [← hrun x hx]
  exact mapCase_of_lt (by decide +kernel) (by decide +kernel) hx

theorem Ascii.upper (h : Ascii cs) : Text.upper cs = cs.map Char.toUpper := by
  rw [Text.upper, List.map_eq_flatMap]
  exact List.flatMap_congr fun x hx => upperChar_of_lt (h x hx)

theorem Ascii.lower (h : Ascii cs) : Text.lower cs = cs.map Char.toLower := by
  have hsigma : 'Σ' ∉ cs := by
    intro hmem
    exact absurd (h _ hmem) (by decide)
  rw [Text.lower, lowerAfter_of_not_mem hsigma, List.map_eq_flatMap]
  exact List.flatMap_congr fun x hx => lowerChar_of_lt (h x hx)

theorem map_eq_self_of_lineFeeds {f : Char → Char} (hf : f '\n' = '\n')
    (h : ∀ y ∈ cs, y = '\n') : cs.map f = cs := by
  rw [List.map_congr_left (g := id), List.map_id]
  intro y hy
  rw [h y hy, hf]
  rfl

theorem capitalized_of_oneCharacter (h : ∀ g ∈ w, OneCharacter g) :
    capitalized w = capitalizeAscii w.flatten := by
  cases w with
  | nil => rfl
  | cons g w =>
    obtain ⟨hg, h⟩ := List.forall_mem_cons.1 h
    have hrest : Ascii w.flatten := by
      intro x hx
      obtain ⟨g', hg', hx⟩ := List.mem_flatten.1 hx
      exact (h g' hg').ascii x hx
    have hupper := hg.ascii.upper
    obtain ⟨x, ys, rfl, _, hys⟩ := hg
    -- the line feeds behind the first character are the same in either case
    have hup : ys.map Char.toUpper = ys := map_eq_self_of_lineFeeds (by decide) hys
    have hlow : ys.map Char.toLower = ys := map_eq_self_of_lineFeeds (by decide) hys
    rw [capitalized, hupper, hrest.lower, List.map_cons, hup]
    simp [capitalizeAscii, hlow]

theorem Ascii.capitalized_words (h : Ascii cs) :
    (words cs).flatMap capitalized = (words cs).flatMap fun w => capitalizeAscii w.flatten := by
  apply List.flatMap_congr
  intro w hw
  apply capitalized_of_oneCharacter
  intro g hg
  exact h.clusters g (mem_clusters_of_mem_words hw hg)

end CrudPlan.Text
