import CrudPlan.Data.NameMap
import Mathlib.Data.List.Forall2
import Mathlib.Data.List.Induction
import Mathlib.Data.List.Sort

namespace CrudPlan

universe u v

theorem reverse_eq_append_cons_iff {α : Type u} {xs front back : List α} {x : α} :
    xs.reverse = front ++ x :: back ↔ xs = back.reverse ++ x :: front.reverse := by
  rw [List.reverse_eq_append_iff, List.reverse_cons, List.append_assoc]
  rfl

variable {α : Type u} {β : Type v} {es fs : Entries α} {e : String × α} {name : String} {x : α}

namespace Entries

theorem lookup_eq_some_iff_of_nodup (h : (es.map (·.1)).Nodup) :
    es.lookup name = some x ↔ (name, x) ∈ es := by
  apply Iff.intro mem_of_lookup_eq_some
  intro hx
  obtain ⟨before, after, rfl⟩ := List.append_of_mem hx
  have hbefore : ∀ e ∈ before, e.1 ≠ name := by
    rw [List.map_append, List.map_cons] at h
    have hdisjoint := (List.nodup_middle.1 h).notMem
    intro e he heq
    have hname : e.1 ∈ before.map (·.1) := List.mem_map_of_mem he
    exact hdisjoint (List.mem_append_left _ (heq ▸ hname))
  apply List.lookup_eq_some_iff.2
  exact ⟨before, after, rfl, fun e he => bne_iff_ne.2 (hbefore e he).symm⟩

/-- Of entries with different names the same ones are found in whatever order they come. -/
theorem lookup_eq_of_perm (h : es.Perm fs) (hd : (es.map (·.1)).Nodup) (name : String) :
    es.lookup name = fs.lookup name := by
  apply Option.ext
  intro x
  rw [lookup_eq_some_iff_of_nodup hd, h.mem_iff,
    lookup_eq_some_iff_of_nodup ((h.map _).nodup_iff.1 hd)]

theorem lookup_filter_ne {other : String} (h : name ≠ other) (es : Entries α) :
    (es.filter fun e => e.1 ≠ other).lookup name = es.lookup name := by
  induction es with
  | nil => rfl
  | cons e es ih =>
    obtain ⟨key, x⟩ := e
    by_cases hkey : key = other
    · have hne : (name == key) = false := beq_eq_false_iff_ne.2 fun he => h (he.trans hkey)
      rw [List.filter_cons_of_neg (by simpa using hkey), ih, List.lookup_cons, hne]
    · rw [List.filter_cons_of_pos (by simpa using hkey), List.lookup_cons, List.lookup_cons, ih]

theorem Sorted.lookup_eq_some_iff (hs : Sorted es) : es.lookup name = some x ↔ (name, x) ∈ es :=
  ⟨mem_of_lookup_eq_some, lookup_eq_some_of_mem hs⟩

theorem Sorted.eq_of_mem_iff (hs : Sorted es) (hs' : Sorted fs) (h : ∀ e, e ∈ es ↔ e ∈ fs) :
    es = fs := by
  have hanti : Std.Antisymm fun e f : String × α => e.1 < f.1 :=
    ⟨fun e f hlt hlt' => (String.lt_irrefl e.1 (String.lt_trans hlt hlt')).elim⟩
  have hirrefl : Std.Irrefl fun e f : String × α => e.1 < f.1 := ⟨fun e => String.lt_irrefl e.1⟩
  exact List.Pairwise.eq_of_mem_iff hs hs' h

theorem Sorted.eq_of_lookup (hs : Sorted es) (hs' : Sorted fs)
    (h : ∀ name, es.lookup name = fs.lookup name) : es = fs := by
  apply hs.eq_of_mem_iff hs'
  intro e
  rw [← hs.lookup_eq_some_iff, ← hs'.lookup_eq_some_iff, h]

theorem Sorted.lt_of_mem_front {front back : Entries α} {f : String × α}
    (h : Sorted (front ++ e :: back)) (hf : f ∈ front) : f.1 < e.1 :=
  (List.pairwise_append.1 h).2.2 f hf e List.mem_cons_self

theorem mem_of_mem_sort (h : e ∈ sort es) : e ∈ es := by
  have step : ∀ (es m : Entries α), e ∈ es.foldl (fun m e => insert e.1 e.2 m) m →
      e ∈ es ∨ e ∈ m := by
    intro es
    induction es with
    | nil => exact fun m hm => .inr hm
    | cons f es ih =>
      intro m hm
      rcases ih _ hm with he | he
      · exact .inl (List.mem_cons_of_mem f he)
      · rcases mem_insert he with rfl | he
        · exact .inl List.mem_cons_self
        · exact .inr he
  rcases step es [] h with he | he
  · exact he
  · cases he

theorem insert_last (x : α) (h : ∀ e ∈ es, e.1 < name) :
    insert name x es = es ++ [(name, x)] := by
  induction es with
  | nil => rfl
  | cons e es ih =>
    obtain ⟨key, y⟩ := e
    obtain ⟨hkey, h⟩ := List.forall_mem_cons.1 h
    have hnot : ¬ name < key := fun hlt => String.lt_irrefl name (String.lt_trans hlt hkey)
    have hne : name ≠ key := fun he => String.lt_irrefl name (he ▸ hkey)
    rw [insert, if_neg hnot, if_neg hne, ih h]
    rfl

/-- What is sorted stays as it is. -/
theorem Sorted.sort_eq (h : Sorted es) : sort es = es := by
  have step : ∀ (es front : Entries α), Sorted (front ++ es) →
      es.foldl (fun m e => Entries.insert e.1 e.2 m) front = front ++ es := by
    intro es
    induction es with
    | nil => intro front _; simp
    | cons e es ih =>
      intro front hs
      have hlast : ∀ f ∈ front, f.1 < e.1 := fun f hf =>
        (List.pairwise_append.1 hs).2.2 f hf e List.mem_cons_self
      have hs' : Sorted ((front ++ [e]) ++ es) := by simpa using hs
      rw [List.foldl_cons, insert_last e.2 hlast, ih _ hs', List.append_assoc]
      rfl
  exact step es [] h

theorem insert_map (f : String × α → β) (name : String) (x : α) (es : Entries α) :
    insert name (f (name, x)) (es.map fun e => (e.1, f e)) =
      (insert name x es).map fun e => (e.1, f e) := by
  induction es with
  | nil => rfl
  | cons e es ih =>
    obtain ⟨key, y⟩ := e
    rw [List.map_cons, insert, insert]
    split
    · rfl
    · split
      · rfl
      · rw [ih, List.map_cons]

theorem sort_map (f : String × α → β) (es : Entries α) :
    sort (es.map fun e => (e.1, f e)) = (sort es).map fun e => (e.1, f e) := by
  have step : ∀ (es m : Entries α),
      (es.map fun e => (e.1, f e)).foldl (fun m e => insert e.1 e.2 m)
          (m.map fun e => (e.1, f e)) =
        (es.foldl (fun m e => insert e.1 e.2 m) m).map fun e => (e.1, f e) := by
    intro es
    induction es with
    | nil => intro m; rfl
    | cons e es ih =>
      intro m
      have hinsert := insert_map f e.1 e.2 m
      rw [List.map_cons, List.foldl_cons, List.foldl_cons, hinsert, ih]
  exact step es []

theorem perm_insert (x : α) (h : name ∉ es.map (·.1)) :
    (insert name x es).Perm ((name, x) :: es) := by
  induction es with
  | nil => exact .refl _
  | cons e es ih =>
    obtain ⟨key, y⟩ := e
    obtain ⟨hkey, hes⟩ := not_or.1 (mt List.mem_cons.2 h)
    rw [insert, if_neg (show ¬ name = key from hkey)]
    split
    · exact .refl _
    · exact ((ih hes).cons (key, y)).trans (.swap (name, x) (key, y) es)

theorem perm_sort (h : (es.map (·.1)).Nodup) : (sort es).Perm es := by
  have step : ∀ (es m : Entries α), ((es ++ m).map (·.1)).Nodup →
      (es.foldl (fun m e => insert e.1 e.2 m) m).Perm (es ++ m) := by
    intro es
    induction es with
    | nil => intro m _; exact .refl m
    | cons e es ih =>
      intro m hm
      have hfresh : e.1 ∉ m.map (·.1) := by
        rw [List.cons_append, List.map_cons, List.nodup_cons, List.map_append] at hm
        exact fun hmem => hm.1 (List.mem_append_right _ hmem)
      -- inserting puts the entry somewhere among the others
      have hinsert := (perm_insert e.2 hfresh).append_left es
      have hfront := hinsert.trans List.perm_middle
      exact (ih _ ((hfront.map _).nodup_iff.2 hm)).trans hfront
  have hperm := step es [] (by rwa [List.append_nil])
  rwa [List.append_nil] at hperm

/-- Entries with different names have one sorted form, in whatever order they come. -/
theorem sort_eq_of_perm (h : es.Perm fs) (hd : (es.map (·.1)).Nodup) : sort es = sort fs := by
  have hperm := (perm_sort hd).trans (h.trans (perm_sort ((h.map _).nodup_iff.1 hd)).symm)
  exact (sorted_sort es).eq_of_mem_iff (sorted_sort fs) fun _ => hperm.mem_iff

/-- The last value under a name. -/
def last? (name : String) (es : Entries α) : Option α := es.reverse.lookup name

theorem last?_concat_self (es : Entries α) (name : String) (x : α) :
    last? name (es ++ [(name, x)]) = some x := by
  rw [last?, List.reverse_append]
  exact List.lookup_cons_self

theorem last?_concat_ne {other : String} (h : other ≠ name) (es : Entries α) (x : α) :
    last? other (es ++ [(name, x)]) = last? other es := by
  have hb : (other == name) = false := beq_eq_false_iff_ne.2 h
  rw [last?, List.reverse_append, List.reverse_singleton, List.singleton_append, List.lookup_cons,
    hb]
  rfl

/-- A value is the last one of a name if none of that name comes after it. -/
theorem last?_eq_some_iff : last? name es = some x ↔ ∃ before after,
    es = before ++ (name, x) :: after ∧ ∀ e ∈ after, e.1 ≠ name := by
  rw [last?, List.lookup_eq_some_iff]
  constructor
  · intro ⟨after, before, he, hafter⟩
    have hnames : ∀ e ∈ after.reverse, e.1 ≠ name := fun e hmem =>
      (bne_iff_ne.1 (hafter e (List.mem_reverse.1 hmem))).symm
    exact ⟨before.reverse, after.reverse, reverse_eq_append_cons_iff.1 he, hnames⟩
  · intro ⟨before, after, he, hafter⟩
    have hnames : ∀ e ∈ after.reverse, (name != e.1) = true := fun e hmem =>
      bne_iff_ne.2 (hafter e (List.mem_reverse.1 hmem)).symm
    have hes : es.reverse = after.reverse ++ (name, x) :: before.reverse := by
      rw [reverse_eq_append_cons_iff, List.reverse_reverse, List.reverse_reverse, he]
    exact ⟨after.reverse, before.reverse, hes, hnames⟩

theorem mem_of_last?_eq_some (h : last? name es = some x) : (name, x) ∈ es :=
  List.mem_reverse.1 (mem_of_lookup_eq_some h)

theorem last?_filter_ne {other : String} (h : name ≠ other) (es : Entries α) :
    last? name (es.filter fun e => e.1 ≠ other) = last? name es := by
  rw [last?, ← List.filter_reverse, lookup_filter_ne h, last?]

theorem last?_eq_lookup (h : (es.map (·.1)).Nodup) (name : String) :
    last? name es = es.lookup name :=
  (lookup_eq_of_perm (List.reverse_perm es).symm h name).symm

/-- Sorting keeps the last value of each name. -/
theorem lookup_sort (name : String) (es : Entries α) : (sort es).lookup name = last? name es := by
  induction es using List.reverseRecOn with
  | nil => rfl
  | append_singleton es e ih =>
    obtain ⟨key, x⟩ := e
    have hsort : sort (es ++ [(key, x)]) = insert key x (sort es) := List.foldl_concat ..
    rw [hsort]
    by_cases hkey : name = key
    · rw [hkey, lookup_insert_self, last?_concat_self]
    · rw [lookup_insert_ne hkey, last?_concat_ne hkey, ih]

end Entries

theorem NameMap.ofList_entries (m : NameMap α) : NameMap.ofList m.entries = m := by
  obtain ⟨entries, sorted⟩ := m
  simp only [NameMap.ofList, sorted.sort_eq]

variable {R : α → β → Prop} {gs : Entries β}

/-- Entries under the same names in the same order, with values that are related. -/
def SameNames (R : α → β → Prop) : Entries α → Entries β → Prop :=
  List.Forall₂ fun e f => e.1 = f.1 ∧ R e.2 f.2

theorem SameNames.insert {y : β} (name : String) (hxy : R x y) (h : SameNames R es gs) :
    SameNames R (Entries.insert name x es) (Entries.insert name y gs) := by
  induction h with
  | nil => exact .cons ⟨rfl, hxy⟩ .nil
  | @cons e f es gs he hrest ih =>
    obtain ⟨k, a⟩ := e
    obtain ⟨_, b⟩ := f
    obtain ⟨rfl, hab⟩ := he
    unfold Entries.insert
    split
    · exact .cons ⟨rfl, hxy⟩ (.cons ⟨rfl, hab⟩ hrest)
    · split
      · exact .cons ⟨rfl, hxy⟩ hrest
      · exact .cons ⟨rfl, hab⟩ ih

/-- Sorting goes by the names alone. -/
theorem SameNames.sort (h : SameNames R es gs) :
    SameNames R (Entries.sort es) (Entries.sort gs) := by
  have step {es gs} (h : SameNames R es gs) : ∀ {es' gs'}, SameNames R es' gs' →
      SameNames R (es.foldl (fun m e => Entries.insert e.1 e.2 m) es')
        (gs.foldl (fun m e => Entries.insert e.1 e.2 m) gs') := by
    induction h with
    | nil => exact id
    | @cons e f es gs he hrest ih =>
      intro es' gs' h'
      rw [List.foldl_cons, List.foldl_cons, ← he.1]
      exact ih (h'.insert e.1 he.2)
  exact step h .nil

theorem SameNames.reverse (h : SameNames R es gs) : SameNames R es.reverse gs.reverse :=
  List.rel_reverse h

/-- There are values under the same names. -/
theorem SameNames.lookup (name : String) (h : SameNames R es gs) :
    Option.Rel R (es.lookup name) (gs.lookup name) := by
  induction h with
  | nil => exact .none
  | @cons e f es gs he _ ih =>
    obtain ⟨key, x⟩ := e
    obtain ⟨_, y⟩ := f
    obtain ⟨rfl, hxy⟩ := he
    rw [List.lookup_cons, List.lookup_cons]
    cases name == key with
    | true => exact .some hxy
    | false => exact ih

theorem SameNames.last? (name : String) (h : SameNames R es gs) :
    Option.Rel R (Entries.last? name es) (Entries.last? name gs) :=
  h.reverse.lookup name

end CrudPlan
