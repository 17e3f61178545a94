import TextGrammar.Generator.Produce
import TextGrammar.Proofs.Room
import TextGrammar.Pattern.Standard
import Mathlib.Algebra.BigOperators.Finprod
import Mathlib.Data.FinEnum
import Mathlib.Data.Set.Card.Arithmetic
import Mathlib.Order.Interval.Set.Nat

set_option autoImplicit false

namespace TextGrammar

def leadingZeros (count : Nat) : Nat := (BitVec.ofNat 64 count).clz.toNat

section

variable (count : Nat) (positive : 0 < count) (bound : count < 2 ^ 64)
include positive bound

theorem leading_zeros_log : count.log2 + leadingZeros count = 63 := by
  have value : (BitVec.ofNat 64 count).toNat = count := by
    rw [BitVec.toNat_ofNat, Nat.mod_eq_of_lt bound]
  have nonzero : BitVec.ofNat 64 count ≠ 0#64 := by
    intro zero
    rw [zero, BitVec.toNat_zero] at value
    omega
  have below := BitVec.two_pow_sub_clz_le_toNat_of_ne_zero (by decide) nonzero
  have above : (BitVec.ofNat 64 count).toNat < 2 ^ (64 - leadingZeros count) :=
    BitVec.toNat_lt_two_pow_sub_clz
  rw [value] at below above
  have least : 63 - leadingZeros count ≤ count.log2 := (Nat.le_log2 (by omega)).mpr below
  have most : count.log2 < 64 - leadingZeros count := (Nat.log2_lt (by omega)).mpr above
  omega

theorem zone_end : zone count + 1 = count * 2 ^ leadingZeros count := by
  have bits := leading_zeros_log count positive bound
  have shift : 63 - count.log2 = leadingZeros count := by omega
  have some : 0 < count * 2 ^ leadingZeros count := Nat.mul_pos positive (Nat.two_pow_pos _)
  rw [zone, shift, Nat.shiftLeft_eq]
  omega

theorem zone_half : 2 ^ 63 ≤ count * 2 ^ leadingZeros count := by
  have bits := leading_zeros_log count positive bound
  calc 2 ^ 63 = 2 ^ count.log2 * 2 ^ leadingZeros count := by rw [← pow_add, bits]
    _ ≤ count * 2 ^ leadingZeros count :=
        Nat.mul_le_mul_right _ (Nat.log2_self_le positive.ne')

theorem zone_full : count * 2 ^ leadingZeros count ≤ 2 ^ 64 := by
  have bits := leading_zeros_log count positive bound
  calc count * 2 ^ leadingZeros count ≤ 2 ^ (count.log2 + 1) * 2 ^ leadingZeros count :=
        Nat.mul_le_mul_right _ Nat.lt_log2_self.le
    _ = 2 ^ 64 := by rw [← pow_add, Nat.add_right_comm, bits]

-- The words that lead to an index are those whose scaled value lies in the zone of its range.
theorem index_of_word_some (word : UInt64) (index : Nat) :
    indexOfWord count word = some index ↔
      index * 2 ^ 64 ≤ word.toNat * count ∧
        word.toNat * count < index * 2 ^ 64 + count * 2 ^ leadingZeros count := by
  have most := zone_full count positive bound
  rw [← zone_end count positive bound] at most ⊢
  simp only [indexOfWord, UInt64.size, Option.ite_none_right_eq_some, Option.some.injEq]
  generalize word.toNat * count = scaled
  omega

def firstWord (index : Nat) : Nat := (index * 2 ^ 64 + (count - 1)) / count

omit bound in
theorem first_word_least (index word : Nat) :
    firstWord count index ≤ word ↔ index * 2 ^ 64 ≤ word * count := by
  rw [firstWord, ← Nat.lt_succ_iff, Nat.div_lt_iff_lt_mul positive, Nat.succ_mul]
  omega

theorem words_between (word : UInt64) (index : Nat) :
    indexOfWord count word = some index ↔
      word.toNat ∈ Set.Ico (firstWord count index) (firstWord count index + 2 ^ leadingZeros count) := by
  rw [index_of_word_some count positive bound, Set.mem_Ico, first_word_least count positive]
  refine and_congr_right fun _ => ?_
  by_cases small : word.toNat < 2 ^ leadingZeros count
  · have low : word.toNat * count < 2 ^ leadingZeros count * count :=
      Nat.mul_lt_mul_of_pos_right small positive
    rw [Nat.mul_comm count]
    omega
  · -- Otherwise the word that stands as much earlier is none of them.
    obtain ⟨earlier, shape⟩ := Nat.exists_eq_add_of_le (Nat.le_of_not_lt small)
    have before := first_word_least count positive index earlier
    rw [shape, Nat.add_mul, Nat.mul_comm count]
    omega

theorem last_word (index : Nat) (inside : index < count) :
    firstWord count index + 2 ^ leadingZeros count ≤ 2 ^ 64 := by
  have full := zone_full count positive bound
  have few : 2 ^ leadingZeros count ≤ 2 ^ 64 := (Nat.le_mul_of_pos_left _ positive).trans full
  have begins : firstWord count index ≤ 2 ^ 64 - 2 ^ leadingZeros count := by
    rw [first_word_least count positive, Nat.sub_mul, Nat.mul_comm (2 ^ leadingZeros count)]
    refine Nat.le_sub_of_add_le ?_
    calc index * 2 ^ 64 + count * 2 ^ leadingZeros count ≤ (index + 1) * 2 ^ 64 := by omega
      _ ≤ 2 ^ 64 * count := by
          rw [Nat.mul_comm]
          exact Nat.mul_le_mul_left _ inside
  omega

theorem words_of_index (index : Nat) (inside : index < count) :
    {word : UInt64 | indexOfWord count word = some index}.ncard = 2 ^ leadingZeros count := by
  have last := last_word count positive bound index inside
  have image : UInt64.toNat '' {word | indexOfWord count word = some index} =
      Set.Ico (firstWord count index) (firstWord count index + 2 ^ leadingZeros count) := by
    ext value
    simp only [Set.mem_image, Set.mem_ofPred_eq, words_between count positive bound]
    constructor
    · rintro ⟨word, member, rfl⟩
      exact member
    · intro member
      have fits : value < 2 ^ 64 := lt_of_lt_of_le member.2 last
      have same : (UInt64.ofNat value).toNat = value := UInt64.toNat_ofNat_of_lt' fits
      exact ⟨UInt64.ofNat value, same.symm ▸ member, same⟩
  rw [← Set.ncard_image_of_injective _ fun _ _ same => UInt64.toNat_inj.mp same, image,
    Set.ncard_Ico_nat, Nat.add_sub_cancel_left]

theorem words_accepted :
    {word : UInt64 | ∃ index, indexOfWord count word = some index}.ncard =
      count * 2 ^ leadingZeros count := by
  have union : {word : UInt64 | ∃ index, indexOfWord count word = some index} =
      ⋃ index : Fin count, {word | indexOfWord count word = some index.val} := by
    ext word
    simp only [Set.mem_ofPred_eq, Set.mem_iUnion]
    constructor
    · rintro ⟨index, found⟩
      exact ⟨⟨index, Words.index_of_word_below count index word positive found⟩, found⟩
    · rintro ⟨index, found⟩
      exact ⟨index.val, found⟩
  have apart : Pairwise (Function.onFun Disjoint fun index : Fin count =>
      {word : UInt64 | indexOfWord count word = some index.val}) := by
    intro index other differ
    refine Set.disjoint_left.mpr fun word found found' => differ (Fin.ext ?_)
    exact Option.some.inj (found.symm.trans found')
  rw [union, Set.ncard_iUnion_of_finite (fun _ => Set.toFinite _) apart, finsum_eq_sum_of_fintype,
    Finset.sum_congr rfl fun index _ => words_of_index count positive bound index.val index.isLt,
    Finset.sum_const, Finset.card_univ, Fintype.card_fin, smul_eq_mul]

end

-- A rejected word shows in the number of words drawn: the zero behind it is the second one.
theorem rejected_then_zero (count : Nat) (word : UInt64)
    (rejected : indexOfWord count word = none) :
    (Words.script [word]).index count 0 = (0, 2) := by
  have zero : indexOfWord count 0 = some 0 := by simp [indexOfWord]
  have first : Words.script [word] 0 = word := rfl
  have second : Words.script [word] 1 = 0 := rfl
  rw [Words.index_eq, first, rejected, Words.index_eq, Nat.zero_add, second, zero]

section

variable [Pattern.Engine]

open Evaluation

structure Decides (count : Nat) (word : UInt64) (index : Nat) : Prop where
  drawing (words : Words) (drawn : Nat) (next : words drawn = word) :
    words.index count drawn = (index, drawn + 1)
  sampling (setting : Setting) (expand : Setting.Expansion) (op opening closing : Span)
    (alternatives : List Node) (environment : Environment) (run : Run)
    (all : alternatives.length = count) (next : setting.words run.drawn = word) :
    ∃ chosen, alternatives[index]? = some chosen ∧
      (setting.evaluate expand (.choose op opening alternatives closing) environment).outcome run =
        (setting.evaluate expand chosen environment).outcome
          (run.record (run.drawn + 1) (.choose index count))
  generating (feed : Feed) (produce : Fragment → Producer) (alternatives : List Fragment)
    (drawn : Nat) (all : alternatives.length = count) (next : feed.words drawn = word) :
    ∃ chosen, alternatives[index]? = some chosen ∧
      (Procedure.choose alternatives).run feed produce drawn = produce chosen (drawn + 1)

structure Redraws (count : Nat) (word : UInt64) : Prop where
  drawing (words : Words) (drawn : Nat) (next : words drawn = word) :
    words.index count drawn = words.index count (drawn + 1)
  sampling (setting : Setting) (expand : Setting.Expansion) (op opening closing : Span)
    (alternatives : List Node) (environment : Environment) (run : Run)
    (all : alternatives.length = count) (next : setting.words run.drawn = word) :
    (setting.evaluate expand (.choose op opening alternatives closing) environment).outcome run =
      (setting.evaluate expand (.choose op opening alternatives closing) environment).outcome
        { run with drawn := run.drawn + 1 }
  generating (feed : Feed) (produce : Fragment → Producer) (alternatives : List Fragment)
    (drawn : Nat) (all : alternatives.length = count) (next : feed.words drawn = word) :
    (Procedure.choose alternatives).run feed produce drawn =
      (Procedure.choose alternatives).run feed produce (drawn + 1)

theorem evaluate_choose (setting : Setting) (expand : Setting.Expansion) (op opening closing : Span)
    (alternatives : List Node) (environment : Environment) (run : Run)
    (several : 0 < alternatives.length) :
    (setting.evaluate expand (.choose op opening alternatives closing) environment).outcome run =
      (setting.evaluateNth expand (setting.words.index alternatives.length run.drawn).1 alternatives
        environment).outcome
          (run.record (setting.words.index alternatives.length run.drawn).2
            (.choose (setting.words.index alternatives.length run.drawn).1 alternatives.length)) := by
  have some : alternatives.isEmpty = false := by simpa using List.length_pos_iff.mp several
  rw [Setting.evaluate, if_neg (by simp [some]), outcome_bind,
    Setting.outcome_choose setting _ _ _ run Prod.mk.eta.symm]

theorem produce_choose (feed : Feed) (produce : Fragment → Producer) (alternatives : List Fragment)
    (drawn : Nat) (several : 0 < alternatives.length) :
    (Procedure.choose alternatives).run feed produce drawn =
      produce (alternatives.getD (feed.words.index alternatives.length drawn).1 .empty)
        (feed.words.index alternatives.length drawn).2 := by
  have some : alternatives.isEmpty = false := by simpa using List.length_pos_iff.mp several
  rw [Procedure.run, some]
  rfl

theorem decides_iff (count : Nat) (word : UInt64) (index : Nat) (positive : 0 < count) :
    Decides count word index ↔ indexOfWord count word = some index := by
  constructor
  · intro decides
    have drawn := decides.drawing (Words.script [word]) 0 rfl
    cases found : indexOfWord count word with
    | some other =>
        have first : Words.script [word] 0 = word := rfl
        rw [Words.index_eq, first, found] at drawn
        cases drawn
        rfl
    | none =>
        rw [rejected_then_zero count word found] at drawn
        cases drawn
  · intro found
    have inside := Words.index_of_word_below count index word positive found
    have drawing : ∀ (words : Words) (drawn : Nat), words drawn = word →
        words.index count drawn = (index, drawn + 1) := by
      intro words drawn next
      rw [Words.index_eq, next, found]
    refine ⟨drawing, ?_, ?_⟩
    · rintro setting expand op opening closing alternatives environment run rfl next
      refine ⟨alternatives[index], List.getElem?_eq_getElem inside, ?_⟩
      rw [evaluate_choose _ _ _ _ _ _ _ _ positive, drawing _ _ next, evaluate_nth,
        List.getElem?_eq_getElem inside]
    · rintro feed produce alternatives drawn rfl next
      refine ⟨alternatives[index], List.getElem?_eq_getElem inside, ?_⟩
      rw [produce_choose _ _ _ _ positive, drawing _ _ next, List.getD_eq_getElem?_getD,
        List.getElem?_eq_getElem inside, Option.getD_some]

theorem redraws_iff (count : Nat) (word : UInt64) (positive : 0 < count) :
    Redraws count word ↔ indexOfWord count word = none := by
  constructor
  · intro redraws
    cases found : indexOfWord count word with
    | none => rfl
    | some index =>
        have drawing := ((decides_iff count word index positive).mpr found).drawing (fun _ => word)
        have again := redraws.drawing (fun _ => word) 0 rfl
        rw [drawing 0 rfl, drawing 1 rfl] at again
        cases again
  · intro rejected
    have drawing : ∀ (words : Words) (drawn : Nat), words drawn = word →
        words.index count drawn = words.index count (drawn + 1) := by
      intro words drawn next
      rw [Words.index_eq, next, rejected]
    refine ⟨drawing, ?_, ?_⟩
    · rintro setting expand op opening closing alternatives environment run rfl next
      rw [evaluate_choose _ _ _ _ _ _ _ _ positive, evaluate_choose _ _ _ _ _ _ _ _ positive,
        drawing _ _ next]
      rfl
    · rintro feed produce alternatives drawn rfl next
      rw [produce_choose _ _ _ _ positive, produce_choose _ _ _ _ positive, drawing _ _ next]

-- Of the words that are not drawn again each alternative has the same number, and these are half of
-- all words at least.
theorem choice_uniform (count : Nat) (positive : 0 < count) (bound : count < 2 ^ 63) :
    (∀ index < count, {word : UInt64 | Decides count word index}.ncard = 2 ^ leadingZeros count) ∧
    (∀ word index, Decides count word index → index < count) ∧
    (∀ word, Redraws count word ↔ ∀ index, ¬ Decides count word index) ∧
    2 ^ 63 ≤ {word : UInt64 | ∃ index, Decides count word index}.ncard := by
  have fits : count < 2 ^ 64 := by omega
  simp only [decides_iff count _ _ positive, redraws_iff count _ positive]
  refine ⟨?_, ?_, ?_, ?_⟩
  · exact words_of_index count positive fits
  · exact fun word index found => Words.index_of_word_below count index word positive found
  · exact fun word => Option.eq_none_iff_forall_ne_some
  · rw [words_accepted count positive fits]
    exact zone_half count positive fits

end

-- Three times the one word is the largest of all words, which lies beyond the zone.
theorem choice_uniform_three :
    leadingZeros 3 = 62 ∧ 0 < 3 ∧ 3 < 2 ^ 63 ∧
    (∀ index < 3, {word : UInt64 | Decides 3 word index}.ncard = 2 ^ 62) ∧
    Redraws 3 0x5555555555555555 ∧ Decides 3 0x5555555555555556 1 := by
  have zeros : leadingZeros 3 = 62 := by decide
  obtain ⟨uniform, -, rejects, -⟩ := choice_uniform 3 (by decide) (by decide)
  rw [zeros] at uniform
  refine ⟨zeros, by decide, by decide, uniform, (rejects _).mpr fun index => ?_, ?_⟩
  · rw [decides_iff 3 _ index (by decide), (by decide : indexOfWord 3 0x5555555555555555 = none)]
    exact fun found => nomatch found
  · exact (decides_iff 3 _ 1 (by decide)).mpr (by decide)

end TextGrammar
