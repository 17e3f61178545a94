import TextGrammar.Unicode.Class

set_option autoImplicit false

namespace TextGrammar

namespace CodePoints

def Covers (set : CodePoints) (point : Nat) : Prop := ∃ range ∈ set, range.1 ≤ point ∧ point ≤ range.2

def Filled (set : CodePoints) : Prop := ∀ range ∈ set, range.1 ≤ range.2

structure Ordered (set : CodePoints) : Prop where
  filled : Filled set
  apart : set.Pairwise fun a b => a.2 + 1 < b.1

def From (start : Nat) (set : CodePoints) : Prop := ∀ range ∈ set, start ≤ range.1

theorem covers_cons (range : Nat × Nat) (rest : CodePoints) (point : Nat) :
    Covers (range :: rest) point ↔ (range.1 ≤ point ∧ point ≤ range.2) ∨ Covers rest point := by
  simp [Covers]

theorem covers_append (a b : CodePoints) (point : Nat) :
    Covers (a ++ b) point ↔ Covers a point ∨ Covers b point := by
  simp [Covers, or_and_right, exists_or]

theorem Filled.append {a b : CodePoints} (first : Filled a) (second : Filled b) : Filled (a ++ b) :=
  List.forall_mem_append.mpr ⟨first, second⟩

theorem covers_from {start : Nat} {set : CodePoints} (behind : From start set) (point : Nat)
    (covered : Covers set point) : start ≤ point := by
  obtain ⟨range, member, first, -⟩ := covered
  exact Nat.le_trans (behind range member) first

theorem From.earlier {start start' : Nat} {set : CodePoints} (behind : From start' set)
    (before : start ≤ start') : From start set :=
  fun range member => Nat.le_trans before (behind range member)

theorem Ordered.empty : Ordered [] := ⟨fun _ => nofun, .nil⟩

theorem Ordered.cons {first last : Nat} {rest : CodePoints} (within : first ≤ last)
    (behind : From (last + 2) rest) (ordered : Ordered rest) : Ordered ((first, last) :: rest) :=
  ⟨List.forall_mem_cons.mpr ⟨within, ordered.filled⟩, List.pairwise_cons.mpr ⟨behind, ordered.apart⟩⟩

theorem Ordered.tail {range : Nat × Nat} {rest : CodePoints} (ordered : Ordered (range :: rest)) :
    Ordered rest ∧ From (range.2 + 2) rest := by
  obtain ⟨first, others⟩ := List.pairwise_cons.mp ordered.apart
  exact ⟨⟨(List.forall_mem_cons.mp ordered.filled).2, others⟩, first⟩

-- The search ends where the ranges behind cannot cover the code point.
theorem contains_covers (set : CodePoints) (point : Nat) (ordered : Ordered set) :
    set.contains point = true ↔ Covers set point := by
  induction set with
  | nil => simp [contains, Covers]
  | cons range rest ih =>
      obtain ⟨others, behind⟩ := ordered.tail
      have filled := ordered.filled range List.mem_cons_self
      rw [covers_cons, ← ih others, contains]
      by_cases before : point < range.1
      · rw [if_pos before]
        have apart : ¬Covers rest point := fun covered => by
          have := covers_from behind point covered
          omega
        rw [ih others]
        simp only [Bool.false_eq_true, false_iff, not_or]
        exact ⟨by omega, apart⟩
      · rw [if_neg before]
        simp only [Bool.or_eq_true, decide_eq_true_eq]
        exact ⟨fun found => found.imp_left fun within => ⟨by omega, within⟩, fun found =>
          found.imp_left And.right⟩

theorem extend_covers (first last : Nat) (rest : CodePoints) (point : Nat)
    (rising : rest.Pairwise fun a b => a.1 ≤ b.1) (behind : From first rest) :
    Covers (join.extend first last rest) point ↔
      (first ≤ point ∧ point ≤ last) ∨ Covers rest point := by
  induction rest generalizing first last with
  | nil => simp [join.extend, Covers]
  | cons range rest ih =>
      obtain ⟨least, others⟩ := List.pairwise_cons.mp rising
      obtain ⟨from', later⟩ := List.forall_mem_cons.mp behind
      rw [join.extend, covers_cons]
      split
      · rename_i touches
        rw [ih first _ others later, ← or_assoc]
        refine or_congr_left ?_
        omega
      · rw [covers_cons, ih range.1 range.2 others least]

theorem extend_ordered (first last : Nat) (rest : CodePoints) (filled : Filled rest) (within : first ≤ last)
    (rising : rest.Pairwise fun a b => a.1 ≤ b.1) :
    Ordered (join.extend first last rest) ∧ From first (join.extend first last rest) := by
  induction rest generalizing first last with
  | nil => exact ⟨.cons within (fun _ => nofun) .empty, List.forall_mem_singleton.mpr (Nat.le_refl first)⟩
  | cons range rest ih =>
      obtain ⟨-, others⟩ := List.pairwise_cons.mp rising
      obtain ⟨fills, later⟩ := List.forall_mem_cons.mp filled
      rw [join.extend]
      split
      · exact ih first _ later (by omega) others
      · rename_i apart
        obtain ⟨ordered, start⟩ := ih range.1 range.2 later fills others
        have far : From (last + 2) (join.extend range.1 range.2 rest) := start.earlier (by omega)
        exact ⟨.cons within far ordered,
          List.forall_mem_cons.mpr ⟨Nat.le_refl first, far.earlier (by omega)⟩⟩

theorem sorted_rising (ranges : CodePoints) :
    (ranges.mergeSort fun a b => a.1 ≤ b.1).Pairwise fun a b => a.1 ≤ b.1 := by
  have trans : ∀ a b c : Nat × Nat, decide (a.1 ≤ b.1) = true → decide (b.1 ≤ c.1) = true →
      decide (a.1 ≤ c.1) = true := fun a b c => by simpa using Nat.le_trans
  have total : ∀ a b : Nat × Nat, (decide (a.1 ≤ b.1) || decide (b.1 ≤ a.1)) = true := fun a b => by
    simpa using Nat.le_total a.1 b.1
  simpa using List.pairwise_mergeSort trans total ranges

theorem ranges_covers (ranges : CodePoints) (point : Nat) :
    Covers (ofRanges ranges) point ↔ Covers ranges point := by
  have same : Covers (ranges.mergeSort fun a b => a.1 ≤ b.1) point ↔ Covers ranges point := by
    simp only [Covers, List.mem_mergeSort]
  have rising := sorted_rising ranges
  rw [ofRanges, ← same]
  generalize ranges.mergeSort (fun a b => decide (a.1 ≤ b.1)) = sorted at rising ⊢
  cases sorted with
  | nil => rfl
  | cons range rest =>
      obtain ⟨least, others⟩ := List.pairwise_cons.mp rising
      rw [join, extend_covers _ _ _ _ others least, covers_cons]

theorem ranges_ordered (ranges : CodePoints) (filled : Filled ranges) : Ordered (ofRanges ranges) := by
  have fills : Filled (ranges.mergeSort fun a b => a.1 ≤ b.1) := fun range member =>
    filled range (List.mem_mergeSort.mp member)
  have rising := sorted_rising ranges
  rw [ofRanges]
  generalize ranges.mergeSort (fun a b => decide (a.1 ≤ b.1)) = sorted at rising fills ⊢
  cases sorted with
  | nil => exact .empty
  | cons range rest =>
      obtain ⟨within, later⟩ := List.forall_mem_cons.mp fills
      exact (extend_ordered _ _ rest later within (List.pairwise_cons.mp rising).2).1

theorem gaps_filled (start : Nat) (set : CodePoints) : Filled (gaps start set) := by
  induction set generalizing start with
  | nil =>
      rw [gaps]
      split
      · rename_i within
        exact List.forall_mem_singleton.mpr within
      · exact Ordered.empty.filled
  | cons range rest ih =>
      rw [gaps]
      split
      · rename_i before
        exact List.forall_mem_cons.mpr ⟨Nat.le_sub_one_of_lt before, ih _⟩
      · exact ih _

theorem gaps_ordered (start : Nat) (set : CodePoints) (ordered : Ordered set) (behind : From start set) :
    Ordered (gaps start set) ∧ From start (gaps start set) := by
  induction set generalizing start with
  | nil =>
      rw [gaps]
      split
      · rename_i within
        exact ⟨.cons within (fun _ => nofun) .empty, List.forall_mem_singleton.mpr (Nat.le_refl start)⟩
      · exact ⟨.empty, fun _ => nofun⟩
  | cons range rest ih =>
      obtain ⟨others, later⟩ := ordered.tail
      have filled := ordered.filled range List.mem_cons_self
      have begins := behind range List.mem_cons_self
      obtain ⟨inner, next⟩ := ih (range.2 + 1) others (later.earlier (by omega))
      have far : From start (gaps (range.2 + 1) rest) := next.earlier (by omega)
      rw [gaps]
      split
      · exact ⟨.cons (by omega) (next.earlier (by omega)) inner,
          List.forall_mem_cons.mpr ⟨Nat.le_refl start, far⟩⟩
      · exact ⟨inner, far⟩

theorem gaps_covers (start : Nat) (set : CodePoints) (point : Nat) (ordered : Ordered set)
    (behind : From start set) (valid : point ≤ greatest) :
    Covers (gaps start set) point ↔ start ≤ point ∧ ¬Covers set point := by
  induction set generalizing start with
  | nil =>
      rw [gaps]
      split
      · simp [Covers, valid]
      · simp only [Covers, List.not_mem_nil, false_and, exists_false, not_false_eq_true, and_true, false_iff]
        omega
  | cons range rest ih =>
      obtain ⟨others, later⟩ := ordered.tail
      have filled := ordered.filled range List.mem_cons_self
      have begins := behind range List.mem_cons_self
      have inner := ih (range.2 + 1) others (later.earlier (by omega))
      have apart : Covers rest point → range.2 + 2 ≤ point := covers_from later point
      rw [gaps, covers_cons]
      split
      · rw [covers_cons, inner]
        by_cases covered : Covers rest point
        · have := apart covered
          simp only [covered, not_true_eq_false, or_true, and_false, or_false, iff_false]
          omega
        · simp only [covered, not_false_eq_true, or_false, and_true]
          omega
      · rw [inner]
        by_cases covered : Covers rest point
        · simp [covered]
        · simp only [covered, not_false_eq_true, or_false, and_true]
          omega

theorem union_covers (a b : CodePoints) (point : Nat) :
    Covers (union a b) point ↔ Covers a point ∨ Covers b point := by
  rw [union, ranges_covers, covers_append]

theorem union_ordered (a b : CodePoints) (first : Filled a) (second : Filled b) : Ordered (union a b) :=
  ranges_ordered _ (first.append second)

theorem complement_covers (set : CodePoints) (point : Nat) (ordered : Ordered set) (valid : point ≤ greatest) :
    Covers (complement set) point ↔ ¬Covers set point := by
  rw [complement, gaps_covers 0 set point ordered (fun _ _ => Nat.zero_le _) valid]
  simp

theorem complement_ordered (set : CodePoints) (ordered : Ordered set) : Ordered (complement set) :=
  (gaps_ordered 0 set ordered fun _ _ => Nat.zero_le _).1

theorem difference_covers (a b : CodePoints) (point : Nat) (first : Ordered a) (second : Ordered b)
    (valid : point ≤ greatest) :
    Covers (difference a b) point ↔ Covers a point ∧ ¬Covers b point := by
  have other := complement_ordered b second
  have both := union_ordered _ _ (complement_ordered a first).filled (complement_ordered _ other).filled
  rw [difference, intersection, complement_covers _ point both valid, union_covers,
    complement_covers a point first valid, complement_covers _ point other valid,
    complement_covers b point second valid]
  simp

theorem complement_filled (set : CodePoints) : Filled (complement set) := gaps_filled 0 set

theorem unions_covers (sets : List CodePoints) (point : Nat) :
    Covers (unions sets) point ↔ ∃ set ∈ sets, Covers set point := by
  rw [unions, ranges_covers]
  constructor
  · rintro ⟨range, member, within⟩
    obtain ⟨set, inside, there⟩ := List.mem_flatten.mp member
    exact ⟨set, inside, range, there, within⟩
  · rintro ⟨set, inside, range, there, within⟩
    exact ⟨range, List.mem_flatten.mpr ⟨set, inside, there⟩, within⟩

theorem unions_ordered (sets : List CodePoints) (filled : ∀ set ∈ sets, Filled set) :
    Ordered (unions sets) := by
  refine ranges_ordered _ fun range member => ?_
  obtain ⟨set, inside, there⟩ := List.mem_flatten.mp member
  exact filled set inside range there

instance (set : CodePoints) : Decidable (Filled set) :=
  List.decidableBAll (fun range : Nat × Nat => range.1 ≤ range.2) set

end CodePoints

namespace Unicode

open CodePoints

theorem categories_covers (names : List String) (point : Nat) :
    Covers (inCategories names) point ↔
      ∃ entry ∈ categories, entry.1 ∈ names ∧ Covers entry.2 point := by
  rw [inCategories, unions_covers]
  constructor
  · rintro ⟨set, member, covered⟩
    obtain ⟨entry, inside, rfl⟩ := List.mem_map.mp member
    obtain ⟨listed, named⟩ := List.mem_filter.mp inside
    exact ⟨entry, listed, List.contains_iff_mem.mp named, covered⟩
  · rintro ⟨entry, listed, named, covered⟩
    exact ⟨entry.2, List.mem_map_of_mem (List.mem_filter.mpr ⟨listed, by simpa using named⟩), covered⟩

-- The unassigned code points are those that no table leaves out, whatever the tables are.
theorem categories_ordered (names : List String)
    (filled : ∀ entry ∈ categoryTable, entry.1 ∈ names → Filled (ofHex entry.2)) :
    Ordered (inCategories names) := by
  refine unions_ordered _ fun set member => ?_
  obtain ⟨entry, inside, rfl⟩ := List.mem_map.mp member
  obtain ⟨listed, named⟩ := List.mem_filter.mp inside
  rcases List.mem_append.mp listed with assigned | unassigned
  · obtain ⟨row, there, rfl⟩ := List.mem_map.mp assigned
    exact filled row there (List.contains_iff_mem.mp named)
  · rw [List.mem_singleton.mp unassigned]
    exact complement_filled _

theorem property_ordered (name : String) : Ordered (withProperty name) := by
  refine unions_ordered _ fun set member => ?_
  obtain ⟨rule, -, rfl⟩ := List.mem_map.mp member
  exact complement_filled _

theorem unprintable_contains (point : Nat) (valid : point ≤ greatest) :
    unprintable.contains point = true ↔
      (Covers (inCategories ["Cc", "Cf", "Cs", "Co", "Cn", "Zl", "Zp", "Zs"]) point ∨
        Covers (withProperty "Grapheme_Extend") point) ∧ point ≠ 0x20 := by
  have categories := categories_ordered ["Cc", "Cf", "Cs", "Co", "Cn", "Zl", "Zp", "Zs"] (by decide +kernel)
  have either := union_ordered _ _ categories.filled (property_ordered "Grapheme_Extend").filled
  have space : Ordered (single 0x20) := .cons (Nat.le_refl _) (fun _ => nofun) .empty
  have ordered : Ordered unprintable := complement_ordered _ (union_ordered _ _ (complement_filled _)
    (complement_filled _))
  rw [contains_covers unprintable point ordered, unprintable, difference_covers _ _ point either space valid,
    union_covers]
  simp [single, Covers]
  omega

theorem control_unprintable (point : Nat) (control : point < 0x20) :
    unprintable.contains point = true := by
  refine (unprintable_contains point (by simp only [greatest]; omega)).mpr ⟨.inl ?_, by omega⟩
  have row : ("Cc", "0-1F 7F-9F") ∈ categoryTable := by decide +kernel
  have listed : ("Cc", ofHex "0-1F 7F-9F") ∈ categories :=
    List.mem_append_left _ (List.mem_map_of_mem row)
  have covered : Covers (ofHex "0-1F 7F-9F") point := ⟨(0x0, 0x1F), by decide, by omega, by omega⟩
  exact (categories_covers _ point).mpr ⟨_, listed, by decide, covered⟩

end Unicode

end TextGrammar
