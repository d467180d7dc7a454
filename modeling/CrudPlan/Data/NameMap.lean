namespace CrudPlan

universe u v

variable {α : Type u} {β : Type v}

/-- Named values in the order in which they were written. -/
abbrev Entries (α : Type u) := List (String × α)

namespace Entries

/-- Names ascend by code point, and none occurs twice. -/
def Sorted (es : Entries α) : Prop := es.Pairwise (·.1 < ·.1)

/-- Puts a value under a name, in its place among sorted names; an earlier value gives way. -/
def insert (name : String) (x : α) : Entries α → Entries α
  | [] => [(name, x)]
  | (k, y) :: rest =>
    if name < k then (name, x) :: (k, y) :: rest
    else if name = k then (name, x) :: rest
    else (k, y) :: insert name x rest

/-- The entries by ascending name; of several entries of one name the last one counts. -/
def sort (es : Entries α) : Entries α := es.foldl (fun m e => insert e.1 e.2 m) []

/-- Applies a function to the values and leaves the names alone. -/
def mapValues (f : α → β) (es : Entries α) : Entries β := es.map fun e => (e.1, f e.2)

theorem mem_insert {name : String} {x : α} {e : String × α} {es : Entries α}
    (h : e ∈ insert name x es) : e = (name, x) ∨ e ∈ es := by
  induction es with
  | nil => simpa [insert] using h
  | cons hd tl ih =>
    obtain ⟨k, y⟩ := hd
    grind [insert]

theorem lookup_insert_self (name : String) (x : α) (es : Entries α) :
    (insert name x es).lookup name = some x := by
  induction es with
  | nil => simp [insert]
  | cons hd tl ih =>
    obtain ⟨k, y⟩ := hd
    rw [insert]
    split
    · simp
    · split
      · simp
      · next h => simp [List.lookup_cons, beq_eq_false_iff_ne.2 h, ih]

theorem lookup_insert_ne {name other : String} (h : other ≠ name) (x : α) (es : Entries α) :
    (insert name x es).lookup other = es.lookup other := by
  have hb : (other == name) = false := beq_eq_false_iff_ne.2 h
  induction es with
  | nil => simp [insert, List.lookup_cons, hb]
  | cons hd tl ih =>
    obtain ⟨k, y⟩ := hd
    rw [insert]
    split
    · simp [List.lookup_cons, hb]
    · split
      · next hk => subst hk; simp [List.lookup_cons, hb]
      · simp [List.lookup_cons, ih]

theorem Sorted.insert {es : Entries α} (h : Sorted es) (name : String) (x : α) :
    Sorted (es.insert name x) := by
  induction es with
  | nil => simp [Entries.insert, Sorted]
  | cons hd tl ih =>
    obtain ⟨k, y⟩ := hd
    have hrest := List.pairwise_cons.1 h
    rw [Entries.insert]
    split
    · next hlt =>
      refine List.pairwise_cons.2 ⟨fun e he => ?_, h⟩
      rcases List.mem_cons.1 he with rfl | he
      · exact hlt
      · exact String.lt_trans hlt (hrest.1 e he)
    · next hlt =>
      split
      · next heq => subst heq; exact List.pairwise_cons.2 hrest
      · next hne =>
        refine List.pairwise_cons.2 ⟨fun e he => ?_, ih hrest.2⟩
        rcases mem_insert he with rfl | he
        · exact String.not_le.1 fun hle =>
            hne (String.le_antisymm hle (String.not_lt.1 hlt))
        · exact hrest.1 e he

theorem sorted_sort (es : Entries α) : Sorted es.sort := by
  have step : ∀ (l : Entries α) (m : Entries α), Sorted m →
      Sorted (l.foldl (fun m e => m.insert e.1 e.2) m) := by
    intro l
    induction l with
    | nil => intro m hm; exact hm
    | cons e l ih => intro m hm; exact ih _ (hm.insert e.1 e.2)
  exact step es [] List.Pairwise.nil

theorem lookup_eq_some_of_mem {name : String} {x : α} {es : Entries α} (hs : Sorted es)
    (h : (name, x) ∈ es) : es.lookup name = some x := by
  induction es with
  | nil => cases h
  | cons hd tl ih =>
    obtain ⟨k, y⟩ := hd
    have hrest := List.pairwise_cons.1 hs
    rcases List.mem_cons.1 h with he | ht
    · cases he
      simp
    · have hlt : k < name := hrest.1 _ ht
      have hb : (name == k) = false :=
        beq_eq_false_iff_ne.2 fun he => String.lt_irrefl k (he ▸ hlt)
      rw [List.lookup_cons, hb]
      exact ih hrest.2 ht

theorem mem_of_lookup_eq_some {name : String} {x : α} {es : Entries α}
    (h : es.lookup name = some x) : (name, x) ∈ es := by
  obtain ⟨before, after, he, _⟩ := List.lookup_eq_some_iff.1 h
  rw [he]
  exact List.mem_append_right _ List.mem_cons_self

theorem Sorted.mapValues {es : Entries α} (h : Sorted es) (f : α → β) :
    Sorted (es.mapValues f) :=
  List.Pairwise.map _ (fun _ _ hlt => hlt) h

end Entries

/-- A finite map from names to values. -/
structure NameMap (α : Type u) where
  /-- One entry for each name, by ascending name. -/
  entries : Entries α
  sorted : Entries.Sorted entries
deriving DecidableEq

namespace NameMap

def empty : NameMap α := ⟨[], List.Pairwise.nil⟩

instance : EmptyCollection (NameMap α) := ⟨empty⟩

instance : Inhabited (NameMap α) := ⟨empty⟩

def ofList (es : List (String × α)) : NameMap α := ⟨Entries.sort es, Entries.sorted_sort es⟩

def insert (m : NameMap α) (name : String) (x : α) : NameMap α :=
  ⟨m.entries.insert name x, m.sorted.insert name x⟩

def get? (m : NameMap α) (name : String) : Option α := m.entries.lookup name

def contains (m : NameMap α) (name : String) : Bool := (m.get? name).isSome

def isEmpty (m : NameMap α) : Bool := m.entries.isEmpty

def mapValues (f : α → β) (m : NameMap α) : NameMap β :=
  ⟨m.entries.mapValues f, m.sorted.mapValues f⟩

theorem get?_eq_some_iff {m : NameMap α} {name : String} {x : α} :
    m.get? name = some x ↔ (name, x) ∈ m.entries :=
  ⟨Entries.mem_of_lookup_eq_some, Entries.lookup_eq_some_of_mem m.sorted⟩

theorem get?_eq_none_iff {m : NameMap α} {name : String} :
    m.get? name = none ↔ ∀ x, (name, x) ∉ m.entries := by
  simp only [← get?_eq_some_iff, Option.eq_none_iff_forall_ne_some]

@[simp]
theorem get?_empty (name : String) : (empty : NameMap α).get? name = none := rfl

theorem get?_insert (m : NameMap α) (name other : String) (x : α) :
    (m.insert name x).get? other = if other = name then some x else m.get? other := by
  unfold get? insert
  split
  · next h => subst h; exact Entries.lookup_insert_self ..
  · next h => exact Entries.lookup_insert_ne h ..

end NameMap

end CrudPlan
