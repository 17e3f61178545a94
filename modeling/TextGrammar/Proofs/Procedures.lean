import TextGrammar.Proofs.Compilation
import TextGrammar.Proofs.Definitions

set_option autoImplicit false

namespace TextGrammar

def Fragment.Earlier (size : Nat) : Fragment → Prop
  | .constant _ => True
  | .reference index => index < size

def AllEarlier (size : Nat) (fragments : List Fragment) : Prop :=
  ∀ fragment ∈ fragments, fragment.Earlier size

section

variable [Pattern.Engine]

def Procedure.Sound (number : Nat) : Procedure → Prop
  | .concat parts => AllEarlier number parts
  | .choose alternatives => alternatives ≠ [] ∧ AllEarlier number alternatives
  | .optional body => body.Earlier number
  | .regex pattern matched unmatched =>
      (∃ text, Pattern.Engine.read text = .ok pattern) ∧ matched.Earlier number ∧
        unmatched.Earlier number
  | .forward target => target < number

structure NamedProcedure.Sound (usable : String → Prop) (number : Nat) (named : NamedProcedure) :
    Prop where
  procedure : named.procedure.Sound number
  name : ∃ defined, named.name = procedureName defined number ∧
    ∀ name, defined = some name → usable name

def TableSound (usable : String → Prop) (table : Array NamedProcedure) : Prop :=
  ∀ (number : Nat) (named : NamedProcedure), table[number]? = some named →
    named.Sound usable number

structure Draft.Sound (usable : String → Prop) (draft : Draft) : Prop where
  table : TableSound usable draft.procedures
  meanings : ∀ (name : String) (meaning : Fragment), draft.meanings.get? name = some meaning →
    meaning.Earlier draft.procedures.size

end

theorem earlier_more (size more : Nat) (fragment : Fragment) (earlier : fragment.Earlier size)
    (grows : size ≤ more) : fragment.Earlier more := by
  cases fragment with
  | constant text => trivial
  | reference index => exact Nat.lt_of_lt_of_le earlier grows

theorem joined_earlier (size : Nat) (parts : List Fragment) (earlier : AllEarlier size parts) :
    AllEarlier size (joinConstants parts) := by
  induction parts with
  | nil => exact earlier
  | cons part rest ih =>
      obtain ⟨first, others⟩ := List.forall_mem_cons.mp earlier
      have joined := ih others
      cases part with
      | reference index =>
          rw [joinConstants]
          exact List.forall_mem_cons.mpr ⟨first, joined⟩
      | constant text =>
          rw [joinConstants]
          by_cases empty : text = ""
          · rw [if_pos empty]
            exact joined
          · rw [if_neg empty]
            split
            · rename_i next behind same
              rw [same] at joined
              exact List.forall_mem_cons.mpr ⟨trivial, (List.forall_mem_cons.mp joined).2⟩
            · exact List.forall_mem_cons.mpr ⟨trivial, joined⟩

section

variable [Pattern.Engine] (usable : String → Prop)

theorem sound_push (draft : Draft) (defined : Option String) (procedure : Procedure)
    (sound : draft.Sound usable) (made : procedure.Sound draft.procedures.size)
    (named : ∀ name, defined = some name → usable name) :
    (draft.push defined procedure).Sound usable := by
  obtain ⟨table, meanings⟩ := sound
  constructor
  · intro number found at_
    rw [Draft.push, Array.getElem?_push] at at_
    by_cases last : number = draft.procedures.size
    · rw [if_pos last] at at_
      cases at_
      subst last
      exact ⟨made, defined, rfl, named⟩
    · rw [if_neg last] at at_
      exact table number found at_
  · intro name meaning found
    refine earlier_more _ _ meaning (meanings name meaning found) ?_
    rw [Draft.push, Array.size_push]
    exact Nat.le_succ _

theorem sound_bind (draft : Draft) (name : String) (meaning : Fragment)
    (sound : draft.Sound usable) (earlier : meaning.Earlier draft.procedures.size) :
    Draft.Sound usable { draft with meanings := draft.meanings.insert name meaning } := by
  obtain ⟨table, meanings⟩ := sound
  refine ⟨table, ?_⟩
  intro other found bound
  rw [Bindings.get?_insert] at bound
  by_cases same : name = other
  · rw [if_pos same] at bound
    cases bound
    exact earlier
  · rw [if_neg same] at bound
    exact meanings other found bound

theorem sound_define (draft : Draft) (name : String) (meaning : Fragment)
    (sound : draft.Sound usable) (earlier : meaning.Earlier draft.procedures.size)
    (named : usable name) :
    (draft.define name meaning).Sound usable ∧
      draft.procedures.size ≤ (draft.define name meaning).procedures.size := by
  cases meaning with
  | constant text => exact ⟨sound_bind usable draft name _ sound trivial, Nat.le_refl _⟩
  | reference index =>
      have pushed := sound_push usable draft (some name) (.forward index) sound earlier
        (by intro other same; cases same; exact named)
      have size : (draft.push (some name) (.forward index)).procedures.size =
          draft.procedures.size + 1 := Array.size_push _
      have last : (Fragment.reference draft.procedures.size).Earlier
          (draft.push (some name) (.forward index)).procedures.size := by
        rw [size]
        exact Nat.lt_succ_self _
      refine ⟨sound_bind usable _ name _ pushed last, ?_⟩
      rw [Draft.define]
      exact Nat.le_trans (Nat.le_succ _) (Nat.le_of_eq size.symm)

-- What a step of compiling leaves: the draft is sound and no shorter, and what the step gives
-- refers to the procedures made so far.
structure Kept (draft next : Draft) (fragments : List Fragment) : Prop where
  sound : next.Sound usable
  grows : draft.procedures.size ≤ next.procedures.size
  earlier : AllEarlier next.procedures.size fragments

theorem kept_register (draft middle : Draft) (fragments : List Fragment) (procedure : Procedure)
    (kept : Kept usable draft middle fragments)
    (made : procedure.Sound middle.procedures.size) :
    Kept usable draft (middle.push none procedure) [.reference middle.procedures.size] := by
  have size : (middle.push none procedure).procedures.size = middle.procedures.size + 1 :=
    Array.size_push _
  refine ⟨sound_push usable middle none procedure kept.sound made (by simp), ?_, ?_⟩
  · rw [size]
    exact Nat.le_succ_of_le kept.grows
  · intro fragment member
    rw [List.mem_singleton.mp member, size]
    exact Nat.lt_succ_self _

theorem kept_joined (draft middle next : Draft) (parts : List Fragment) (fragment : Fragment)
    (kept : Kept usable draft middle parts)
    (yields : (Draft.joined parts).Yields middle fragment next) :
    Kept usable draft next [fragment] := by
  have earlier := joined_earlier _ parts kept.earlier
  rw [Draft.yields_joined] at yields
  split at yields
  · obtain ⟨rfl, rfl⟩ := yields
    exact ⟨kept.sound, kept.grows, by simp [AllEarlier, Fragment.empty, Fragment.Earlier]⟩
  · rename_i part same
    obtain ⟨rfl, rfl⟩ := yields
    rw [same] at earlier
    exact ⟨kept.sound, kept.grows, earlier⟩
  · obtain ⟨rfl, rfl⟩ := yields
    exact kept_register usable draft middle parts _ kept earlier

mutual

theorem compile_kept (node : Node) (draft next : Draft) (fragment : Fragment)
    (named : ∀ definition ∈ node.definitions, usable definition.name)
    (sound : draft.Sound usable) (yields : (Draft.compile node).Yields draft fragment next) :
    Kept usable draft next [fragment] := by
  cases node with
  | literal l =>
      rw [Draft.yields_literal] at yields
      obtain ⟨rfl, rfl⟩ := yields
      exact ⟨sound, Nat.le_refl _, by simp [AllEarlier, Fragment.Earlier]⟩
  | name n =>
      rw [Draft.yields_name] at yields
      obtain ⟨bound, rfl⟩ := yields
      refine ⟨sound, Nat.le_refl _, ?_⟩
      intro other member
      rw [List.mem_singleton.mp member]
      exact sound.meanings n.text fragment bound
  | group opening statements closing =>
      rw [Draft.yields_group] at yields
      obtain ⟨parts, between, all, joined⟩ := yields
      exact kept_joined usable draft between next parts fragment
        (compile_all_kept statements draft between parts named sound all) joined
  | define op n body =>
      rw [Draft.yields_define] at yields
      obtain ⟨meaning, between, inside, rfl, rfl⟩ := yields
      obtain ⟨first, last⟩ := List.forall_mem_append.mp named
      have kept := compile_kept body draft between meaning first sound inside
      have usableName := last ⟨n.text, body⟩ (List.mem_singleton_self _)
      obtain ⟨defined, grows⟩ := sound_define usable between n.text meaning kept.sound
        (kept.earlier meaning (List.mem_singleton_self _)) usableName
      exact ⟨defined, Nat.le_trans kept.grows grows,
        by simp [AllEarlier, Fragment.empty, Fragment.Earlier]⟩
  | choose op opening alternatives closing =>
      rw [Draft.yields_choose] at yields
      obtain ⟨fragments, between, all, chosen⟩ := yields
      have kept := compile_all_kept alternatives draft between fragments named sound all
      by_cases none : fragments = []
      · rw [if_pos none] at chosen
        obtain ⟨rfl, rfl⟩ := chosen
        exact ⟨kept.sound, kept.grows, by simp [AllEarlier, Fragment.empty, Fragment.Earlier]⟩
      · rw [if_neg none] at chosen
        obtain ⟨rfl, rfl⟩ := chosen
        exact kept_register usable draft between fragments _ kept ⟨none, kept.earlier⟩
  | optional op body =>
      rw [Draft.yields_optional] at yields
      obtain ⟨inner, between, inside, rfl, rfl⟩ := yields
      have kept := compile_kept body draft between inner named sound inside
      exact kept_register usable draft between [inner] _ kept
        (kept.earlier inner (List.mem_singleton_self _))
  | regex op source matched unmatched =>
      rw [Draft.yields_regex] at yields
      obtain ⟨pattern, read, accepted, between, head, refused, last, tail, rfl, rfl⟩ := yields
      obtain ⟨first, second⟩ := List.forall_mem_append.mp named
      have one := compile_kept matched draft between accepted first sound head
      have two := compile_kept unmatched between last refused second one.sound tail
      have kept : Kept usable draft last [refused] :=
        ⟨two.sound, Nat.le_trans one.grows two.grows, two.earlier⟩
      have accepts := earlier_more _ _ accepted (one.earlier accepted (List.mem_singleton_self _))
        two.grows
      exact kept_register usable draft last [refused] _ kept
        ⟨⟨source.text, read⟩, accepts, two.earlier refused (List.mem_singleton_self _)⟩

theorem compile_all_kept (nodes : List Node) (draft next : Draft) (fragments : List Fragment)
    (named : ∀ definition ∈ Node.definitionsAll nodes, usable definition.name)
    (sound : draft.Sound usable) (yields : (Draft.compileAll nodes).Yields draft fragments next) :
    Kept usable draft next fragments := by
  cases nodes with
  | nil =>
      rw [Draft.yields_nil] at yields
      obtain ⟨rfl, rfl⟩ := yields
      exact ⟨sound, Nat.le_refl _, by simp [AllEarlier]⟩
  | cons node rest =>
      rw [Draft.yields_cons] at yields
      obtain ⟨first, between, head, others, tail, rfl⟩ := yields
      obtain ⟨front, behind⟩ := List.forall_mem_append.mp named
      have one := compile_kept node draft between first front sound head
      have all := compile_all_kept rest between next others behind one.sound tail
      refine ⟨all.sound, Nat.le_trans one.grows all.grows, List.forall_mem_cons.mpr ⟨?_, all.earlier⟩⟩
      exact earlier_more _ _ first (one.earlier first (List.mem_singleton_self _)) all.grows

end

theorem compiled_sound (grammar : Grammar) (generator : Generator)
    (named : ∀ definition ∈ grammar.definitions, usable definition.name)
    (compiled : grammar.compile = .ok generator) :
    TableSound usable generator.procedures ∧
      generator.entry.Earlier generator.procedures.size := by
  obtain ⟨parts, between, draft, all, joined, same⟩ := grammar.compile_ok generator compiled
  have start : Draft.empty.Sound usable := by
    constructor
    · intro number named found
      simp [Draft.empty] at found
    · intro name meaning found
      cases found
  have kept := kept_joined usable Draft.empty between draft parts generator.entry
    (compile_all_kept usable grammar.statements Draft.empty between parts named start all) joined
  rw [same]
  exact ⟨kept.sound.table, kept.earlier generator.entry (List.mem_singleton_self _)⟩

theorem compiled_earlier (grammar : Grammar) (generator : Generator)
    (compiled : grammar.compile = .ok generator) :
    (∀ (number : Nat) (named : NamedProcedure), generator.procedures[number]? = some named →
      named.procedure.Sound number ∧ ∃ defined, named.name = procedureName defined number) ∧
      generator.entry.Earlier generator.procedures.size := by
  obtain ⟨table, entry⟩ := compiled_sound (fun _ => True) grammar generator (fun _ _ => trivial) compiled
  refine ⟨fun number named found => ?_, entry⟩
  obtain ⟨procedure, defined, name, -⟩ := table number named found
  exact ⟨procedure, defined, name⟩

end

-- The number stands behind the last underscore.
theorem procedure_number (defined : Option String) (number : Nat) :
    ∃ front, (procedureName defined number).toList = front ++ '_' :: Nat.toDigits 10 number := by
  cases defined with
  | none => exact ⟨[], by simp [procedureName]⟩
  | some name => exact ⟨'_' :: name.toList, by simp [procedureName]⟩

theorem procedure_name_differs (defined defined' : Option String) (number number' : Nat)
    (same : procedureName defined number = procedureName defined' number') : number = number' := by
  obtain ⟨front, spelled⟩ := procedure_number defined number
  obtain ⟨front', spelled'⟩ := procedure_number defined' number'
  have last : ∀ (front : List Char) (number : Nat),
      ((front ++ '_' :: Nat.toDigits 10 number).reverse.takeWhile (· != '_')).reverse =
        Nat.toDigits 10 number := by
    intro front number
    have digits : ∀ c ∈ (Nat.toDigits 10 number).reverse, (c != '_') = true := by
      intro c member
      rw [bne_iff_ne]
      intro underscore
      rw [underscore, List.mem_reverse] at member
      exact Nat.underscore_not_in_toDigits member
    rw [List.reverse_append, List.reverse_cons, List.append_assoc, List.takeWhile_append_of_pos digits]
    simp
  have digits : Nat.toDigits 10 number = Nat.toDigits 10 number' := by
    rw [← last front number, ← spelled, same, spelled', last front' number']
  have read := congrArg (fun digits => Nat.ofDigitChars 10 digits 0) digits
  simpa using read

section

variable [Pattern.Engine]

theorem names_distinct (usable : String → Prop) (table : Array NamedProcedure)
    (sound : TableSound usable table) : (table.toList.map NamedProcedure.name).Nodup := by
  rw [List.Nodup, List.pairwise_iff_getElem]
  intro first second inside inside' before same
  rw [List.length_map, Array.length_toList] at inside inside'
  rw [List.getElem_map, List.getElem_map, Array.getElem_toList, Array.getElem_toList] at same
  obtain ⟨defined, name, -⟩ := (sound first table[first] (Array.getElem?_eq_getElem inside)).name
  obtain ⟨defined', name', -⟩ := (sound second table[second] (Array.getElem?_eq_getElem inside')).name
  rw [name, name'] at same
  have number := procedure_name_differs defined defined' first second same
  omega

end

end TextGrammar
