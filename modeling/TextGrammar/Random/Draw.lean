import TextGrammar.Random.Words

set_option autoImplicit false

namespace TextGrammar

-- The greatest multiple of `count` by a power of two below 2^64, less one.
def zone (count : Nat) : Nat := (count <<< (63 - count.log2)) - 1

def indexOfWord (count : Nat) (word : UInt64) : Option Nat :=
  let scaled := word.toNat * count
  if scaled % UInt64.size ≤ zone count then some (scaled / UInt64.size) else none

namespace Words

-- A uniform index below `count`: draws words until one is accepted. The second result counts all
-- words drawn.
def index (words : Words) (count drawn : Nat) : Nat × Nat :=
  Id.run <| repeatM (fun drawn =>
    match indexOfWord count (words drawn) with
    | some index => pure (.inr (index, drawn + 1))
    | none => pure (.inl (drawn + 1))) drawn

theorem index_eq (words : Words) (count drawn : Nat) :
    words.index count drawn =
      match indexOfWord count (words drawn) with
      | some index => (index, drawn + 1)
      | none => words.index count (drawn + 1) := by
  unfold index
  rw [repeatM_eq_of_monadTail, repeatM.body]
  cases indexOfWord count (words drawn) with
  | none => rfl
  | some index => rfl

theorem index_of_word_below (count index : Nat) (word : UInt64) (positive : 0 < count)
    (found : indexOfWord count word = some index) : index < count := by
  simp only [indexOfWord, Option.ite_none_right_eq_some, Option.some.injEq] at found
  rw [← found.2]
  exact Nat.div_lt_of_lt_mul (Nat.mul_lt_mul_of_pos_right word.toNat_lt positive)

def Accepts (words : Words) (count drawn : Nat) : Prop :=
  ∃ more, (indexOfWord count (words (drawn + more))).isSome

theorem index_below (words : Words) (count drawn : Nat) (positive : 0 < count)
    (accepts : words.Accepts count drawn) : (words.index count drawn).1 < count := by
  obtain ⟨more, accepted⟩ := accepts
  induction more generalizing drawn with
  | zero =>
      obtain ⟨index, found⟩ := Option.isSome_iff_exists.mp accepted
      rw [Nat.add_zero] at found
      rw [index_eq, found]
      exact index_of_word_below count index _ positive found
  | succ more ih =>
      rw [index_eq]
      cases found : indexOfWord count (words drawn) with
      | some index => exact index_of_word_below count index _ positive found
      | none =>
          rw [← Nat.add_assoc, Nat.add_right_comm] at accepted
          exact ih (drawn + 1) accepted

def coin (words : Words) (drawn : Nat) : Bool × Nat := (words drawn < 0x8000000000000000, drawn + 1)

end Words

end TextGrammar
