import TextGrammar.Proofs.Origins
import TextGrammar.Proofs.Procedures
import TextGrammar.Pattern.Standard
import Mathlib.Data.List.Chain

set_option autoImplicit false

namespace TextGrammar

def Fragment.spelled : Fragment → List (Char ⊕ Nat)
  | .constant text => text.toList.map .inl
  | .reference index => [.inr index]

def spelledOut (parts : List Fragment) : List (Char ⊕ Nat) := parts.flatMap Fragment.spelled

structure NormalForm (parts : List Fragment) : Prop where
  full : Fragment.empty ∉ parts
  apart : parts.IsChain fun part next => ¬(part.isConstant ∧ next.isConstant)

def joinText (text : String) (parts : List Fragment) : List Fragment :=
  if text = "" then parts
  else
    match parts with
    | .constant next :: rest => .constant (text ++ next) :: rest
    | rest => .constant text :: rest

-- The only list in normal form that says this.
def respell : List (Char ⊕ Nat) → List Fragment
  | [] => []
  | .inl c :: rest => joinText (String.singleton c) (respell rest)
  | .inr index :: rest => .reference index :: respell rest

theorem join_constant (text : String) (rest : List Fragment) :
    joinConstants (.constant text :: rest) = joinText text (joinConstants rest) := rfl

theorem join_text_empty (parts : List Fragment) : joinText "" parts = parts := rfl

theorem join_text_append (text next : String) (parts : List Fragment) :
    joinText (text ++ next) parts = joinText text (joinText next parts) := by
  by_cases empty : text = ""
  · rw [empty, String.empty_append, join_text_empty]
  by_cases emptyNext : next = ""
  · rw [emptyNext, String.append_empty, join_text_empty]
  have full : text ++ next ≠ "" := by
    intro same
    exact empty (String.append_eq_empty_iff.mp same).1
  unfold joinText
  rw [if_neg full, if_neg empty, if_neg emptyNext]
  cases parts with
  | nil => rfl
  | cons part rest =>
      cases part with
      | reference index => rfl
      | constant other => simp only [String.append_assoc]

theorem spelled_text (text : String) (parts : List Fragment) :
    spelledOut (joinText text parts) = text.toList.map .inl ++ spelledOut parts := by
  unfold joinText
  by_cases empty : text = ""
  · rw [if_pos empty, empty]
    rfl
  rw [if_neg empty]
  cases parts with
  | nil => rfl
  | cons part rest =>
      cases part with
      | reference index => rfl
      | constant next =>
          simp only [spelledOut, List.flatMap_cons, Fragment.spelled, String.toList_append,
            List.map_append, List.append_assoc]

theorem normal_constant (text : String) (rest : List Fragment) :
    NormalForm (.constant text :: rest) ↔
      text ≠ "" ∧ (∀ part ∈ rest.head?, part.isConstant = false) ∧ NormalForm rest := by
  constructor
  · rintro ⟨full, apart⟩
    obtain ⟨first, others⟩ := List.isChain_cons.mp apart
    obtain ⟨filled, fullRest⟩ := not_or.mp (mt List.mem_cons.mpr full)
    refine ⟨?_, fun part next => ?_, fullRest, others⟩
    · rintro rfl
      exact filled rfl
    · exact Bool.eq_false_iff.mpr fun same => first part next ⟨rfl, same⟩
  · rintro ⟨filled, first, full, apart⟩
    refine ⟨?_, List.isChain_cons.mpr ⟨fun part next both => ?_, apart⟩⟩
    · intro member
      rcases List.mem_cons.mp member with same | later
      · cases same
        exact filled rfl
      · exact full later
    · cases (first part next).symm.trans both.2

theorem normal_text (text : String) (parts : List Fragment) (normal : NormalForm parts) :
    NormalForm (joinText text parts) := by
  unfold joinText
  by_cases empty : text = ""
  · rwa [if_pos empty]
  rw [if_neg empty]
  cases parts with
  | nil => exact (normal_constant text []).mpr ⟨empty, by simp, normal⟩
  | cons part rest =>
      cases part with
      | reference index => exact (normal_constant text _).mpr ⟨empty, by simp [Fragment.isConstant], normal⟩
      | constant next =>
          obtain ⟨-, first, others⟩ := (normal_constant next rest).mp normal
          refine (normal_constant _ rest).mpr ⟨?_, first, others⟩
          exact fun same => empty (String.append_eq_empty_iff.mp same).1

theorem normal_reference (index : Nat) (parts : List Fragment) (normal : NormalForm parts) :
    NormalForm (.reference index :: parts) := by
  obtain ⟨full, apart⟩ := normal
  refine ⟨?_, apart.cons ?_⟩
  · simpa [Fragment.empty] using full
  · simp [Fragment.isConstant]

theorem joined_normal (parts : List Fragment) : NormalForm (joinConstants parts) := by
  induction parts with
  | nil => exact ⟨List.not_mem_nil, .nil⟩
  | cons part rest ih =>
      cases part with
      | reference index => exact normal_reference index _ ih
      | constant text => exact normal_text text _ ih

theorem joined_spelled (parts : List Fragment) : spelledOut (joinConstants parts) = spelledOut parts := by
  induction parts with
  | nil => rfl
  | cons part rest ih =>
      cases part with
      | reference index => exact congrArg (Sum.inr index :: ·) ih
      | constant text =>
          rw [join_constant, spelled_text, ih]
          rfl

theorem text_kept (text : String) (rest : List Fragment) (normal : NormalForm (.constant text :: rest)) :
    joinText text rest = .constant text :: rest := by
  obtain ⟨filled, first, -⟩ := (normal_constant text rest).mp normal
  unfold joinText
  rw [if_neg filled]
  cases rest with
  | nil => rfl
  | cons part others =>
      cases part with
      | reference index => rfl
      | constant next => cases first (.constant next) rfl

theorem normal_tail (part : Fragment) (rest : List Fragment) (normal : NormalForm (part :: rest)) :
    NormalForm rest :=
  ⟨fun member => normal.full (List.mem_cons_of_mem part member), normal.apart.tail⟩

theorem normal_kept (parts : List Fragment) (normal : NormalForm parts) : joinConstants parts = parts := by
  induction parts with
  | nil => rfl
  | cons part rest ih =>
      have same := ih (normal_tail part rest normal)
      cases part with
      | reference index => rw [joinConstants, same]
      | constant text => rw [join_constant, same, text_kept text rest normal]

theorem respell_text (letters : List Char) (rest : List (Char ⊕ Nat)) :
    respell (letters.map .inl ++ rest) = joinText (String.ofList letters) (respell rest) := by
  induction letters with
  | nil => rfl
  | cons c letters ih =>
      have spelled : String.ofList (c :: letters) = String.singleton c ++ String.ofList letters :=
        String.toList_inj.mp (by simp)
      rw [spelled, join_text_append, ← ih]
      rfl

theorem joined_respelled (parts : List Fragment) : joinConstants parts = respell (spelledOut parts) := by
  induction parts with
  | nil => rfl
  | cons part rest ih =>
      cases part with
      | reference index => exact congrArg (Fragment.reference index :: ·) ih
      | constant text =>
          have letters := respell_text text.toList (spelledOut rest)
          rw [String.ofList_toList] at letters
          rw [join_constant, ih, ← letters]
          rfl

theorem normal_form_unique (parts other : List Fragment) (normal : NormalForm parts)
    (normalOther : NormalForm other) (same : spelledOut parts = spelledOut other) : parts = other := by
  rw [← normal_kept parts normal, ← normal_kept other normalOther, joined_respelled, same,
    ← joined_respelled]

theorem normal_refers (parts : List Fragment) (normal : NormalForm parts) (several : 2 ≤ parts.length) :
    ∃ index, .reference index ∈ parts := by
  match parts, several with
  | .reference index :: _, _ => exact ⟨index, List.mem_cons_self⟩
  | .constant _ :: .reference index :: _, _ => exact ⟨index, List.mem_cons_of_mem _ List.mem_cons_self⟩
  | .constant text :: .constant next :: rest, _ =>
      obtain ⟨-, first, -⟩ := (normal_constant text _).mp normal
      cases first (.constant next) rfl

section

variable [Pattern.Engine]

theorem concatenation_joined (grammar : Grammar) (generator : Generator)
    (compiled : grammar.compile = .ok generator) (number : Nat) (named : NamedProcedure)
    (parts : List Fragment) (found : generator.procedures[number]? = some named)
    (concat : named.procedure = .concat parts) :
    ∃ opening statements closing draft children between,
      ⟨.group opening statements closing, draft⟩ ∈ grammar.turns ∧
        (Draft.compileAll statements).Yields draft children between ∧
          between.procedures.size = number ∧ joinConstants children = parts ∧ 2 ≤ parts.length := by
  obtain ⟨turn, member, makes⟩ := grammar.procedure_made generator compiled number named found
  obtain ⟨table, -⟩ := compiled_earlier grammar generator compiled
  obtain ⟨-, defined, name⟩ := table number named found
  obtain ⟨own, procedure⟩ := named
  subst concat
  cases makes with
  | several opening closing statements draft between children all several =>
      exact ⟨opening, statements, closing, draft, children, between, member, all,
        procedure_name_differs none defined _ number name, rfl, several⟩

theorem concatenations_normal (grammar : Grammar) (generator : Generator)
    (compiled : grammar.compile = .ok generator) (number : Nat) (named : NamedProcedure)
    (parts : List Fragment) (found : generator.procedures[number]? = some named)
    (concat : named.procedure = .concat parts) :
    2 ≤ parts.length ∧ Fragment.empty ∉ parts ∧
      (parts.IsChain fun part next => ¬(part.isConstant ∧ next.isConstant)) ∧
      (∃ index, .reference index ∈ parts) ∧
      ∃ opening statements closing draft children between next,
        ⟨.group opening statements closing, draft⟩ ∈ grammar.turns ∧
        (Draft.compile (.group opening statements closing)).Yields draft (.reference number) next ∧
        (Draft.compileAll statements).Yields draft children between ∧
        spelledOut parts = spelledOut children ∧
        ∀ other, NormalForm other → spelledOut other = spelledOut children → other = parts := by
  obtain ⟨opening, statements, closing, draft, children, between, member, all, rfl, rfl, several⟩ :=
    concatenation_joined grammar generator compiled number named parts found concat
  have normal := joined_normal children
  have said := joined_spelled children
  have group := (Draft.yields_group opening closing statements draft _ _).mpr
    ⟨children, between, all, (yields_several children between _ _ several).mpr ⟨rfl, rfl⟩⟩
  refine ⟨several, normal.full, normal.apart, normal_refers _ normal several, opening, statements,
    closing, draft, children, between, _, member, group, all, said, fun other normalOther same => ?_⟩
  exact normal_form_unique other _ normalOther normal (same.trans said.symm)

end

-- ('a' '' 'b' ?'c' 'd' = x 'y' x |() '')
def merging : Grammar where
  opening := ⟨0, 1⟩
  statements :=
    [.literal ⟨"a", '\'', ⟨1, 3⟩⟩, .literal ⟨"", '\'', ⟨5, 2⟩⟩, .literal ⟨"b", '\'', ⟨8, 3⟩⟩,
      .optional ⟨12, 1⟩ (.literal ⟨"c", '\'', ⟨13, 3⟩⟩), .literal ⟨"d", '\'', ⟨17, 3⟩⟩,
      .define ⟨21, 1⟩ ⟨"x", ⟨23, 1⟩⟩ (.literal ⟨"y", '\'', ⟨25, 3⟩⟩), .name ⟨"x", ⟨29, 1⟩⟩,
      .choose ⟨31, 1⟩ ⟨32, 1⟩ [] ⟨33, 1⟩, .literal ⟨"", '\'', ⟨35, 2⟩⟩]
  closing := ⟨37, 1⟩

theorem concatenations_normal_merging :
    let parts : List Fragment := [.constant "ab", .reference 0, .constant "dy"]
    let children : List Fragment :=
      [.constant "a", .constant "", .constant "b", .reference 0, .constant "d", .constant "",
        .constant "y", .constant "", .constant ""]
    let generator : Generator := ⟨#[⟨"_0", .optional (.constant "c")⟩, ⟨"_1", .concat parts⟩], .reference 1⟩
    merging.compile = .ok generator ∧ generator.procedures[1]? = some ⟨"_1", .concat parts⟩ ∧
      spelledOut parts = spelledOut children ∧
      ∀ other, NormalForm other → spelledOut other = spelledOut children → other = parts := by
  intro parts children generator
  have compiled : merging.compile = .ok generator := by rfl
  have said : spelledOut parts = spelledOut children := by decide
  obtain ⟨-, -, -, -, _, _, _, _, _, _, _, -, -, -, same, unique⟩ :=
    concatenations_normal merging generator compiled 1 ⟨"_1", .concat parts⟩ parts rfl rfl
  exact ⟨compiled, rfl, said, fun other normal spelled =>
    unique other normal ((spelled.trans said.symm).trans same)⟩

end TextGrammar
