import CrudPlan.Proofs.Data.Entries
import CrudPlan.Proofs.Data.Outcome
import CrudPlan.Request.Page

namespace CrudPlan

variable {v : Json} {n : UInt64} {e : PlanError}

namespace Json

theorem toUInt64?_eq_some_iff : v.toUInt64? = some n ↔ v = .ofUInt64 n := by
  constructor
  · intro h
    unfold toUInt64? at h
    split at h
    · next k =>
      obtain ⟨hk, he⟩ := Option.ite_none_right_eq_some.1 h
      have hn : n.toNat = k := by
        rw [← Option.some.inj he]
        exact UInt64.toNat_ofNat_of_lt hk
      rw [ofUInt64, hn]
      rfl
    · cases h
  · intro h
    rw [h]
    change (if n.toNat < UInt64.size then some (UInt64.ofNat n.toNat) else none) = some n
    rw [if_pos n.toNat_lt, UInt64.ofNat_toNat]

theorem not_isNull_iff : (!v.isNull) = true ↔ v ≠ .null := by
  cases v <;> simp [isNull]

end Json

namespace Args

/-- A count that is absent, or null, or a number of 64 bits. -/
inductive Counts : Option Json → Option UInt64 → Prop
  | absent : Counts none none
  | null : Counts (some .null) none
  | number (n : UInt64) : Counts (some (.ofUInt64 n)) (some n)

/-- A value that is given for a count and is none. -/
structure Miscounted (o : Option Json) (v : Json) : Prop where
  given : o = some v
  not_null : v ≠ .null
  not_count : ∀ n, v ≠ .ofUInt64 n

/-- The arguments that values under their names give. -/
structure Given (value : String → Option Json) (a : Args) : Prop where
  limit : Counts (value "limit") a.limit
  offset : Counts (value "offset") a.offset
  filter : ∀ v, a.filter = some v ↔ value "filter" = some v ∧ v ≠ .null

/-- Where the arguments are: in the last `input`, or among the pairs if that is absent or null. -/
inductive Source (pairs : List (String × Json)) : (String → Option Json) → Prop
  | input {members} (last : Entries.last? "input" pairs = some (.obj members)) :
      Source pairs (members.lookup ·)
  | beside (last : ∀ v, Entries.last? "input" pairs = some v → v = .null) :
      Source pairs (Entries.last? · pairs)

/-- Why pairs are refused; a limit is looked at before an offset. -/
inductive Fault (pairs : List (String × Json)) : PlanError → Prop
  | input {given : Json} (last : Entries.last? "input" pairs = some given)
      (not_null : given ≠ .null) (not_object : ∀ members, given ≠ .obj members) :
      Fault pairs (.invalidArgument "input" (.notObject given))
  | limit {value : String → Option Json} {given : Json} (source : Source pairs value)
      (h : Miscounted (value "limit") given) :
      Fault pairs (.invalidArgument "limit" (.notCount given))
  | offset {value : String → Option Json} {limit : Option UInt64} {given : Json}
      (source : Source pairs value) (counts : Counts (value "limit") limit)
      (h : Miscounted (value "offset") given) :
      Fault pairs (.invalidArgument "offset" (.notCount given))

variable {m : Option UInt64} {source : Entries Json} {value : String → Option Json}
  {pairs es : List (String × Json)} {a : Args} {name : String}

theorem counts_or_miscounted (o : Option Json) : (∃ m, Counts o m) ∨ ∃ v, Miscounted o v := by
  cases o with
  | none => exact .inl ⟨none, .absent⟩
  | some v =>
    by_cases hnull : v = .null
    · rw [hnull]
      exact .inl ⟨none, .null⟩
    · by_cases hcount : ∃ n, v = .ofUInt64 n
      · obtain ⟨n, rfl⟩ := hcount
        exact .inl ⟨some n, .number n⟩
      · exact .inr ⟨v, rfl, hnull, not_exists.1 hcount⟩

theorem count_of_counts (h : Counts (source.lookup name) m) : count source name = .ok m := by
  unfold count
  generalize source.lookup name = o at h
  cases h with
  | absent => rfl
  | null => rfl
  | number n =>
    have hcount : (Json.num (.int n.toNat)).toUInt64? = some n := Json.toUInt64?_eq_some_iff.2 rfl
    simp only [Json.ofUInt64, hcount]

theorem count_of_miscounted (h : Miscounted (source.lookup name) v) :
    count source name = .error (.invalidArgument name (.notCount v)) := by
  have hnone : v.toUInt64? = none := by
    apply Option.eq_none_iff_forall_ne_some.2
    intro n hn
    exact h.not_count n (Json.toUInt64?_eq_some_iff.1 hn)
  unfold count
  split
  · next hsource => cases hsource.symm.trans h.given
  · next hsource =>
    cases hsource.symm.trans h.given
    exact absurd rfl h.not_null
  · next w _ hsource =>
    cases hsource.symm.trans h.given
    rw [hnone]

theorem count_eq_ok_iff : count source name = .ok m ↔ Counts (source.lookup name) m := by
  apply Iff.intro _ count_of_counts
  intro h
  rcases counts_or_miscounted (source.lookup name) with ⟨m', hm⟩ | ⟨v, hv⟩
  · cases (count_of_counts hm).symm.trans h
    exact hm
  · cases (count_of_miscounted hv).symm.trans h

theorem count_eq_error_iff : count source name = .error e ↔
    ∃ v, Miscounted (source.lookup name) v ∧ e = .invalidArgument name (.notCount v) := by
  constructor
  · intro h
    rcases counts_or_miscounted (source.lookup name) with ⟨m', hm⟩ | ⟨v, hv⟩
    · cases (count_of_counts hm).symm.trans h
    · cases (count_of_miscounted hv).symm.trans h
      exact ⟨v, hv, rfl⟩
  · intro ⟨v, hv, he⟩
    rw [he]
    exact count_of_miscounted hv

theorem ofSource_eq_ok_iff : ofSource source = .ok a ↔ Given (source.lookup ·) a := by
  constructor
  · intro h
    obtain ⟨limit, hlimit, h⟩ := bind_eq_ok_iff.1 h
    obtain ⟨offset, hoffset, h⟩ := bind_eq_ok_iff.1 h
    cases h
    apply Given.mk (count_eq_ok_iff.1 hlimit) (count_eq_ok_iff.1 hoffset)
    intro v
    rw [Option.filter_eq_some_iff, Json.not_isNull_iff]
  · intro h
    have hfilter : (source.lookup "filter").filter (!·.isNull) = a.filter := by
      apply Option.ext
      intro v
      rw [h.filter, Option.filter_eq_some_iff, Json.not_isNull_iff]
    rw [ofSource, count_of_counts h.limit, count_of_counts h.offset, hfilter]
    rfl

theorem ofSource_eq_error_iff : ofSource source = .error e ↔
    (∃ v, Miscounted (source.lookup "limit") v ∧ e = .invalidArgument "limit" (.notCount v)) ∨
      ∃ m, Counts (source.lookup "limit") m ∧ ∃ v, Miscounted (source.lookup "offset") v ∧
        e = .invalidArgument "offset" (.notCount v) := by
  rw [ofSource, bind_eq_error_iff, count_eq_error_iff]
  apply or_congr_right
  apply exists_congr
  intro m
  apply and_congr count_eq_ok_iff
  exact (bind_eq_error_iff_left fun _ => ⟨_, rfl⟩).trans count_eq_error_iff

theorem ofSource_congr {source' : Entries Json}
    (h : ∀ name, name ≠ "input" → source.lookup name = source'.lookup name) :
    ofSource source = ofSource source' := by
  have hlimit := h "limit" (by decide)
  have hoffset := h "offset" (by decide)
  have hfilter := h "filter" (by decide)
  simp only [ofSource, count, hlimit, hoffset, hfilter]

theorem ofPairs_of_input {members : List (String × Json)}
    (h : Entries.last? "input" pairs = some (.obj members)) : ofPairs pairs = ofSource members := by
  rw [← Entries.lookup_sort] at h
  simp only [ofPairs, h]

theorem ofPairs_of_beside (h : ∀ v, Entries.last? "input" pairs = some v → v = .null) :
    ofPairs pairs = ofSource (Entries.sort pairs) := by
  simp only [← Entries.lookup_sort] at h
  cases hinput : (Entries.sort pairs).lookup "input" with
  | none => simp only [ofPairs, hinput]
  | some v =>
    rw [h v hinput] at hinput
    simp only [ofPairs, hinput]

theorem ofPairs_of_other (h : Entries.last? "input" pairs = some v) (not_null : v ≠ .null)
    (not_object : ∀ members, v ≠ .obj members) :
    ofPairs pairs = .error (.invalidArgument "input" (.notObject v)) := by
  rw [← Entries.lookup_sort] at h
  cases v with
  | null => exact absurd rfl not_null
  | obj members => exact absurd rfl (not_object members)
  | _ => simp only [ofPairs, h]

theorem null_of_notMem (h : "input" ∉ pairs.map (·.1)) :
    ∀ v, Entries.last? "input" pairs = some v → v = .null := by
  intro v hv
  have hname : "input" ∈ pairs.map (·.1) := List.mem_map_of_mem (Entries.mem_of_last?_eq_some hv)
  exact absurd hname h

theorem ofPairs_filter (h : ∀ v, Entries.last? "input" pairs = some v → v = .null) :
    ofPairs pairs = ofPairs (pairs.filter fun e => e.1 ≠ "input") := by
  have hnone : "input" ∉ (pairs.filter fun e => e.1 ≠ "input").map (·.1) := by simp
  rw [ofPairs_of_beside h, ofPairs_of_beside (null_of_notMem hnone)]
  apply ofSource_congr
  intro name hname
  rw [Entries.lookup_sort, Entries.lookup_sort, Entries.last?_filter_ne hname]

theorem ofPairs_unwrap {members : List (String × Json)}
    (h : Entries.last? "input" pairs = some (.obj members)) (hnodup : (members.map (·.1)).Nodup)
    (hinput : "input" ∉ members.map (·.1)) : ofPairs pairs = ofPairs members := by
  rw [ofPairs_of_input h, ofPairs_of_beside (null_of_notMem hinput)]
  apply ofSource_congr
  intro name _
  rw [Entries.lookup_sort, Entries.last?_eq_lookup hnodup]

/-- Only the place that holds the arguments counts. -/
theorem Source.ofPairs_eq (h : Source pairs value) :
    ∃ source : Entries Json, ofPairs pairs = ofSource source ∧ value = (source.lookup ·) := by
  cases h with
  | @input members last => exact ⟨members, ofPairs_of_input last, rfl⟩
  | beside last =>
    have hvalue : (Entries.last? · pairs) = ((Entries.sort pairs).lookup ·) :=
      funext fun name => (Entries.lookup_sort name pairs).symm
    exact ⟨Entries.sort pairs, ofPairs_of_beside last, hvalue⟩

theorem exists_source_or (pairs : List (String × Json)) : (∃ value, Source pairs value) ∨
    ∃ v, Entries.last? "input" pairs = some v ∧ v ≠ .null ∧ ∀ members, v ≠ .obj members := by
  by_cases hnull : ∀ v, Entries.last? "input" pairs = some v → v = .null
  · exact .inl ⟨_, .beside hnull⟩
  · obtain ⟨v, hv⟩ := not_forall.1 hnull
    obtain ⟨hlast, hne⟩ := Classical.not_imp.1 hv
    by_cases hobject : ∃ members, v = .obj members
    · obtain ⟨members, rfl⟩ := hobject
      exact .inl ⟨_, .input hlast⟩
    · exact .inr ⟨v, hlast, hne, not_exists.1 hobject⟩

theorem ofPairs_eq_ok_iff :
    ofPairs pairs = .ok a ↔ ∃ value, Source pairs value ∧ Given value a := by
  constructor
  · intro h
    rcases exists_source_or pairs with ⟨value, hvalue⟩ | ⟨v, hlast, hnull, hobject⟩
    · obtain ⟨source, hsource, rfl⟩ := hvalue.ofPairs_eq
      exact ⟨_, hvalue, ofSource_eq_ok_iff.1 (hsource.symm.trans h)⟩
    · cases (ofPairs_of_other hlast hnull hobject).symm.trans h
  · intro ⟨value, hvalue, hgiven⟩
    obtain ⟨source, hsource, rfl⟩ := hvalue.ofPairs_eq
    exact hsource.trans (ofSource_eq_ok_iff.2 hgiven)

theorem ofPairs_eq_error_iff : ofPairs pairs = .error e ↔ Fault pairs e := by
  constructor
  · intro h
    rcases exists_source_or pairs with ⟨value, hvalue⟩ | ⟨v, hlast, hnull, hobject⟩
    · obtain ⟨source, hsource, rfl⟩ := hvalue.ofPairs_eq
      rcases ofSource_eq_error_iff.1 (hsource.symm.trans h) with
        ⟨v, hlimit, rfl⟩ | ⟨m, hlimit, v, hoffset, rfl⟩
      · exact .limit hvalue hlimit
      · exact .offset hvalue hlimit hoffset
    · cases (ofPairs_of_other hlast hnull hobject).symm.trans h
      exact .input hlast hnull hobject
  · intro h
    cases h with
    | input last not_null not_object => exact ofPairs_of_other last not_null not_object
    | limit hvalue hlimit =>
      obtain ⟨source, hsource, rfl⟩ := hvalue.ofPairs_eq
      exact hsource.trans (ofSource_eq_error_iff.2 (.inl ⟨_, hlimit, rfl⟩))
    | offset hvalue hlimit hoffset =>
      obtain ⟨source, hsource, rfl⟩ := hvalue.ofPairs_eq
      exact hsource.trans (ofSource_eq_error_iff.2 (.inr ⟨_, hlimit, _, hoffset, rfl⟩))

/-- Pairs are refused exactly for an input that holds no arguments or for a count that is none. -/
theorem exists_fault_iff : (∃ e, Fault pairs e) ↔
    (∃ v, Entries.last? "input" pairs = some v ∧ v ≠ .null ∧ ∀ members, v ≠ .obj members) ∨
      ∃ value, Source pairs value ∧
        ∃ name ∈ ["limit", "offset"], ∃ v, Miscounted (value name) v := by
  constructor
  · intro ⟨e, h⟩
    cases h with
    | input last not_null not_object => exact .inl ⟨_, last, not_null, not_object⟩
    | limit source h => exact .inr ⟨_, source, "limit", by simp, _, h⟩
    | offset source _ h => exact .inr ⟨_, source, "offset", by simp, _, h⟩
  · intro h
    rcases h with ⟨v, last, not_null, not_object⟩ | ⟨value, source, name, hname, v, h⟩
    · exact ⟨_, .input last not_null not_object⟩
    · -- an offset is looked at only if the limit is in order
      rcases counts_or_miscounted (value "limit") with ⟨m, hlimit⟩ | ⟨w, hlimit⟩
      · rcases List.mem_pair.1 hname with rfl | rfl
        · exact ⟨_, .limit source h⟩
        · exact ⟨_, .offset source hlimit h⟩
      · exact ⟨_, .limit source hlimit⟩

theorem names_members (a : Args) :
    (a.members.map (·.1)).Sublist ["filter", "limit", "offset"] := by
  obtain ⟨limit, offset, filter⟩ := a
  cases limit <;> cases offset <;> cases filter <;> simp [members, Json.optional]

theorem counts_map (m : Option UInt64) : Counts (m.map .ofUInt64) m := by
  cases m with
  | none => exact .absent
  | some n => exact .number n

theorem lookup_members (a : Args) : a.members.lookup "limit" = a.limit.map .ofUInt64 ∧
    a.members.lookup "offset" = a.offset.map .ofUInt64 ∧ a.members.lookup "filter" = a.filter := by
  obtain ⟨limit, offset, filter⟩ := a
  cases limit <;> cases offset <;> cases filter <;>
    simp [members, Json.optional, List.lookup_cons]

theorem given_members (h : a.filter ≠ some .null) : Given (a.members.lookup ·) a := by
  obtain ⟨hlimit, hoffset, hfilter⟩ := lookup_members a
  apply Given.mk
  · rw [hlimit]
    exact counts_map a.limit
  · rw [hoffset]
    exact counts_map a.offset
  · intro v
    rw [hfilter]
    exact (and_iff_left_of_imp fun hv hnull => h (hv.trans (congrArg some hnull))).symm

theorem nodup_members (a : Args) : (a.members.map (·.1)).Nodup :=
  (names_members a).nodup (by decide)

theorem ofSource_of_perm (h : a.filter ≠ some .null) (hes : es.Perm a.members) :
    ofSource es = .ok a := by
  have hsame : ofSource a.members = ofSource es :=
    ofSource_congr fun name _ => Entries.lookup_eq_of_perm hes.symm (nodup_members a) name
  exact hsame.symm.trans (ofSource_eq_ok_iff.2 (given_members h))

theorem ofPairs_wrapped (h : a.filter ≠ some .null) (hes : es.Perm a.members)
    {before after : List (String × Json)} (hafter : ∀ e ∈ after, e.1 ≠ "input") :
    ofPairs (before ++ ("input", .obj es) :: after) = .ok a := by
  have hlast : Entries.last? "input" (before ++ ("input", .obj es) :: after) = some (.obj es) :=
    Entries.last?_eq_some_iff.2 ⟨before, after, rfl, hafter⟩
  exact (ofPairs_of_input hlast).trans (ofSource_of_perm h hes)

theorem ofPairs_of_perm (h : a.filter ≠ some .null) (hes : es.Perm a.members) :
    ofPairs es = .ok a := by
  have hnames := hes.map (·.1)
  have hinput : "input" ∉ a.members.map (·.1) := fun hmem =>
    absurd ((names_members a).subset hmem) (by decide)
  have hwrapped : ofPairs ([] ++ ("input", .obj es) :: []) = .ok a :=
    ofPairs_wrapped h hes (List.forall_mem_nil _)
  exact (ofPairs_unwrap rfl (hnames.nodup_iff.2 (nodup_members a))
    (mt hnames.mem_iff.1 hinput)).symm.trans hwrapped

/-- Arguments are read back from their members in any order, and from the object of those under an
input, whatever stands beside it. The last input decides alone if it is an object; if it is null or
absent, the last pair of each name does. Nothing is refused but an input that is neither an object
nor null, and a limit or an offset that is neither null nor a number of 64 bits. -/
theorem ofPairs_inverts :
    (∀ a : Args, a.filter ≠ some .null → ∀ es, es.Perm a.members → ofPairs es = .ok a ∧
      ∀ before after, (∀ e ∈ after, e.1 ≠ "input") →
        ofPairs (before ++ ("input", .obj es) :: after) = .ok a) ∧
    ∀ pairs,
      (∀ o, Entries.last? "input" pairs = some (.obj o) →
        ofPairs pairs = ofPairs [("input", .obj o)] ∧
        ((o.map (·.1)).Nodup → "input" ∉ o.map (·.1) → ofPairs pairs = ofPairs o)) ∧
      ((∀ v, Entries.last? "input" pairs = some v → v = .null) →
        ofPairs pairs = ofPairs (pairs.filter fun e => e.1 ≠ "input")) ∧
      (∀ a, ofPairs pairs = .ok a ↔ ∃ value, Source pairs value ∧ Given value a) ∧
      ((∃ e, ofPairs pairs = .error e) ↔
        (∃ v, Entries.last? "input" pairs = some v ∧ v ≠ .null ∧ ∀ o, v ≠ .obj o) ∨
        ∃ value, Source pairs value ∧
          ∃ name ∈ ["limit", "offset"], ∃ v, Miscounted (value name) v) := by
  apply And.intro
  · intro a ha es hes
    exact ⟨ofPairs_of_perm ha hes, fun before after hafter => ofPairs_wrapped ha hes hafter⟩
  · intro pairs
    apply And.intro
    · intro o ho
      apply And.intro
      · exact (ofPairs_of_input ho).trans (ofPairs_of_input rfl).symm
      · exact ofPairs_unwrap ho
    · apply And.intro ofPairs_filter
      apply And.intro fun a => ofPairs_eq_ok_iff
      exact (exists_congr fun e => ofPairs_eq_error_iff).trans exists_fault_iff

/-- Arguments with the highest limit. -/
def capped : Args where
  limit := some 18446744073709551615
  filter := some (.obj [("id", .obj [("equals", .num (.int 1))])])

/-- Pairs of which the last one gives a limit that is one higher. -/
def uncapped : List (String × Json) :=
  [("limit", .num (.int 3)), ("input", .null), ("limit", .num (.int 18446744073709551616))]

theorem ofPairs_inverts_capped : capped.filter ≠ some .null ∧
    ofPairs capped.members.reverse = .ok capped ∧
    ofPairs ([("limit", .num (.int 3))] ++ ("input", .obj capped.members.reverse) ::
      [("offset", .str "last")]) = .ok capped ∧
    ∃ e, ofPairs uncapped = .error e := by
  have hfilter : capped.filter ≠ some .null := by
    intro h
    cases h
  obtain ⟨hbeside, hwrapped⟩ := ofPairs_inverts.1 capped hfilter _ (List.reverse_perm _)
  apply And.intro hfilter
  apply And.intro hbeside
  apply And.intro (hwrapped _ _ (List.forall_mem_singleton.2 (by decide)))
  apply (ofPairs_inverts.2 uncapped).2.2.2.2
  have hlast : ∀ v, Entries.last? "input" uncapped = some v → v = .null := by
    intro v hv
    cases hv
    rfl
  have hlimit : Miscounted (Entries.last? "limit" uncapped)
      (.num (.int 18446744073709551616)) := by
    apply Miscounted.mk rfl
    · intro h
      cases h
    · intro n h
      have hn := n.toNat_lt
      simp only [Json.ofUInt64, Json.num.injEq, Json.Number.int.injEq] at h
      omega
  exact .inr ⟨_, .beside hlast, "limit", List.mem_cons_self, _, hlimit⟩

end Args

end CrudPlan
