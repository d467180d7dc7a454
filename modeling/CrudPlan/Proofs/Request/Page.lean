import CrudPlan.Request.Page
import Mathlib.Data.List.Flatten
import Mathlib.Data.List.Sort

namespace CrudPlan

/-- A position lies behind an offset and, if there is a limit, no further behind it than that. -/
def InPage (limit offset : Option UInt64) (p : Nat) : Prop :=
  (offset.getD 0).toNat < p ∧ ∀ l ∈ limit, p ≤ (offset.getD 0).toNat + l.toNat

-- not by a search through all numbers of 64 bits
instance (limit offset : Option UInt64) : DecidablePred (InPage limit offset) := fun p =>
  decidable_of_iff ((offset.getD 0).toNat < p ∧
      limit.all fun l => decide (p ≤ (offset.getD 0).toNat + l.toNat)) (by cases limit <;> simp [InPage])

def positions (limit offset : Option UInt64) (total : UInt64) : List Nat :=
  (List.range' 1 total.toNat).filter (InPage limit offset ·)

/-- The offsets of pages from one on, each a limit behind the one before it, as long as rows lie
behind the page. -/
inductive Walks (limit total : UInt64) : UInt64 → List UInt64 → Prop
  | last {offset : UInt64}
      (h : ¬ (PageInfo.ofArgs { limit := some limit, offset := some offset } total).hasMore) :
      Walks limit total offset [offset]
  | next {offset : UInt64} {offsets : List UInt64}
      (h : (PageInfo.ofArgs { limit := some limit, offset := some offset } total).hasMore)
      (hrest : Walks limit total (offset + limit) offsets) :
      Walks limit total offset (offset :: offsets)

variable {limit offset total a b : UInt64} {p : Nat} {offsets offsets' : List UInt64}

theorem le_saturatingAdd_iff (h : p < UInt64.size) :
    p ≤ (saturatingAdd a b).toNat ↔ p ≤ a.toNat + b.toNat := by
  rw [toNat_saturatingAdd]
  unfold UInt64.size at *
  omega

/-- Rows lie behind a page exactly if it has a limit and some position up to the total lies behind
both offset and limit. -/
theorem PageInfo.hasMore_iff (args : Args) (total : UInt64) :
    (ofArgs args total).hasMore ↔ ∃ limit, args.limit = some limit ∧
      ∃ p ≤ total.toNat, (args.offset.getD 0).toNat + limit.toNat < p := by
  have htotal := total.toNat_lt
  unfold ofArgs hasMore
  cases args.limit with
  | none => simp
  | some limit =>
    simp only [decide_eq_true_eq, UInt64.lt_iff_toNat_lt, Option.some.injEq, exists_eq_left',
      toNat_saturatingAdd, UInt64.size]
    constructor
    · intro h
      exact ⟨total.toNat, Nat.le_refl _, by omega⟩
    · rintro ⟨p, hp, h⟩
      omega

theorem hasMore_page_iff :
    (PageInfo.ofArgs { limit := some limit, offset := some offset } total).hasMore ↔
      offset.toNat + limit.toNat < total.toNat := by
  rw [PageInfo.hasMore_iff]
  constructor
  · rintro ⟨_, ⟨⟩, p, hp, h⟩
    exact Nat.lt_of_lt_of_le h hp
  · exact fun h => ⟨limit, rfl, total.toNat, Nat.le_refl _, h⟩

theorem Walks.unique (h : Walks limit total offset offsets)
    (h' : Walks limit total offset offsets') : offsets = offsets' := by
  induction h generalizing offsets' with
  | last hlast =>
    cases h' with
    | last => rfl
    | next hnext => exact absurd hnext hlast
  | next hnext _ ih =>
    cases h' with
    | last hlast => exact absurd hnext hlast
    | next _ hrest => rw [ih hrest]

theorem positions_eq (limit offset total : UInt64) :
    positions (some limit) (some offset) total = List.range' (offset.toNat + 1)
      (min (offset.toNat + limit.toNat) total.toNat - offset.toNat) := by
  have hleft : (positions (some limit) (some offset) total).Pairwise (· < ·) :=
    (List.pairwise_lt_range' ..).filter _
  have hright := List.pairwise_lt_range' (s := offset.toNat + 1)
    (n := min (offset.toNat + limit.toNat) total.toNat - offset.toNat)
  apply List.Pairwise.eq_of_mem_iff hleft hright
  intro p
  simp only [positions, InPage, List.mem_filter, List.mem_range'_1, decide_eq_true_eq,
    Option.getD_some, Option.mem_def, Option.some.injEq, forall_eq']
  omega

/-- From any offset on, the pages have each position behind it once. -/
theorem walks_cover (hlimit : 1 ≤ limit) (h : offset.toNat ≤ total.toNat) :
    ∃ offsets, Walks limit total offset offsets ∧
      offsets.flatMap (fun o => positions (some limit) (some o) total) =
        List.range' (offset.toNat + 1) (total.toNat - offset.toNat) := by
  induction hn : total.toNat - offset.toNat using Nat.strong_induction_on generalizing offset with
  | _ n ih =>
    have htotal := total.toNat_lt
    have hpos : 1 ≤ limit.toNat := UInt64.le_iff_toNat_le.1 hlimit
    by_cases hmore : offset.toNat + limit.toNat < total.toNat
    · -- the next offset is below the total, so the sum does not wrap around
      have hnext : (offset + limit).toNat = offset.toNat + limit.toNat := by
        rw [UInt64.toNat_add, Nat.mod_eq_of_lt (by omega)]
      obtain ⟨offsets, hwalks, hcover⟩ :=
        ih (total.toNat - (offset + limit).toNat) (by omega) (by omega) rfl
      refine ⟨offset :: offsets, .next (hasMore_page_iff.2 hmore) hwalks, ?_⟩
      have hlength : min (offset.toNat + limit.toNat) total.toNat - offset.toNat = limit.toNat := by
        omega
      have hsplit : n = limit.toNat + (total.toNat - (offset + limit).toNat) := by omega
      rw [List.flatMap_cons, hcover, positions_eq, hlength, hnext, hsplit, hnext,
        ← List.range'_append_1, Nat.add_right_comm]
    · refine ⟨[offset], .last (mt hasMore_page_iff.1 hmore), ?_⟩
      rw [List.flatMap_singleton, positions_eq, Nat.min_eq_right (by omega), hn]

end CrudPlan
