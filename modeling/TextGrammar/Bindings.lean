set_option autoImplicit false

namespace TextGrammar

-- The latest binding stands first.
structure Bindings (α : Type) where
  entries : List (String × α)
  distinct : entries.Pairwise fun a b => a.1 ≠ b.1
deriving Repr

namespace Bindings

variable {α β : Type}

def empty : Bindings α := ⟨[], .nil⟩

instance : Inhabited (Bindings α) := ⟨empty⟩

instance [DecidableEq α] : DecidableEq (Bindings α) := fun a b =>
  decidable_of_iff (a.entries = b.entries) (by cases a; cases b; simp)

def get? (table : Bindings α) (name : String) : Option α :=
  (table.entries.find? (·.1 == name)).map Prod.snd

def contains (table : Bindings α) (name : String) : Bool := (table.get? name).isSome

def size (table : Bindings α) : Nat := table.entries.length

def isEmpty (table : Bindings α) : Bool := table.entries.isEmpty

def names (table : Bindings α) : List String := table.entries.map Prod.fst

def values (table : Bindings α) : List α := table.entries.map Prod.snd

def insert (table : Bindings α) (name : String) (value : α) : Bindings α where
  entries := (name, value) :: table.entries.filter (·.1 != name)
  distinct := by
    refine .cons ?_ (table.distinct.filter _)
    intro entry member same
    simp only [List.mem_filter, bne_iff_ne] at member
    exact member.2 same.symm

def map (change : α → β) (table : Bindings α) : Bindings β where
  entries := table.entries.map fun entry => (entry.1, change entry.2)
  distinct := List.pairwise_map.mpr table.distinct

@[simp] theorem get?_empty (name : String) : (empty : Bindings α).get? name = none := rfl

theorem get?_insert (table : Bindings α) (name other : String) (value : α) :
    (table.insert name value).get? other =
      if name = other then some value else table.get? other := by
  by_cases same : name = other
  · simp [insert, get?, same]
  · have kept : (table.entries.filter (·.1 != name)).find? (·.1 == other) =
        table.entries.find? (·.1 == other) := by
      rw [List.find?_filter]
      congr 1
      funext entry
      by_cases found : entry.1 = other
      · simp [found, Ne.symm same]
      · simp [found]
    simp [insert, get?, same, kept]

theorem get?_map (change : α → β) (table : Bindings α) (name : String) :
    (table.map change).get? name = (table.get? name).map change := by
  rw [get?, map, List.find?_map, Option.map_map, get?, Option.map_map]
  rfl

theorem map_insert (change : α → β) (table : Bindings α) (name : String) (value : α) :
    (table.insert name value).map change = (table.map change).insert name (change value) := by
  simp only [map, insert, List.map_cons, List.filter_map]
  rfl

theorem map_back (change : α → β) (back : β → α) (table : Bindings α)
    (undone : ∀ value, back (change value) = value) : (table.map change).map back = table := by
  obtain ⟨entries, distinct⟩ := table
  have same : (entries.map fun entry => (entry.1, change entry.2)).map
      (fun entry => (entry.1, back entry.2)) = entries := by
    simp only [List.map_map, Function.comp_def, undone, List.map_id']
  simp only [map, same]

theorem get?_member (table : Bindings α) (name : String) (value : α)
    (found : table.get? name = some value) : (name, value) ∈ table.entries := by
  obtain ⟨entry, first, rfl⟩ := Option.map_eq_some_iff.mp found
  obtain rfl : entry.1 = name := by simpa using List.find?_some first
  exact List.mem_of_find?_eq_some first

end Bindings

end TextGrammar
