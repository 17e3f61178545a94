import TextGrammar.Proofs.Procedures
import TextGrammar.Proofs.Realisation
import Mathlib.Logic.Relation
import Mathlib.Order.WellFounded

set_option autoImplicit false

namespace TextGrammar

structure Agenda where
  pending : List Fragment
  output : String

section

variable [Pattern.Engine]

-- The fragments that a call of the procedure asks for.
inductive Procedure.Asks (input : String) : Procedure → List Fragment → Prop where
  | concat (parts : List Fragment) : Asks input (.concat parts) parts
  | choose (alternatives : List Fragment) (index : Nat) (fragment : Fragment)
      (found : alternatives[index]? = some fragment) : Asks input (.choose alternatives) [fragment]
  | chooseNone : Asks input (.choose []) []
  | taken (body : Fragment) : Asks input (.optional body) [body]
  | passed (body : Fragment) : Asks input (.optional body) []
  | regex (pattern : Pattern) (matched unmatched : Fragment) :
      Asks input (.regex pattern matched unmatched)
        [bif Pattern.Engine.isMatch pattern input then matched else unmatched]
  | forward (target : Nat) : Asks input (.forward target) [.reference target]

inductive Generator.Advances (generator : Generator) (input : String) : Agenda → Agenda → Prop where
  | constant (text : String) (rest : List Fragment) (output : String) :
      Advances generator input ⟨.constant text :: rest, output⟩ ⟨rest, output ++ text⟩
  | call (index : Nat) (named : NamedProcedure) (asked rest : List Fragment) (output : String)
      (found : generator.procedures[index]? = some named)
      (asks : named.procedure.Asks input asked) :
      Advances generator input ⟨.reference index :: rest, output⟩ ⟨asked ++ rest, output⟩

abbrev Generator.Works (generator : Generator) (input : String) : Agenda → Agenda → Prop :=
  Relation.ReflTransGen (generator.Advances input)

end

def Generator.agenda (generator : Generator) : Agenda := ⟨[generator.entry], ""⟩

section

variable [Pattern.Engine]

theorem asks_earlier (input : String) (number : Nat) (procedure : Procedure)
    (asked : List Fragment) (sound : procedure.Sound number)
    (asks : procedure.Asks input asked) : AllEarlier number asked := by
  cases asks with
  | concat => exact sound
  | choose alternatives index fragment found =>
      have member := List.mem_of_getElem? found
      exact List.forall_mem_singleton.mpr (sound.2 fragment member)
  | chooseNone | passed => exact List.forall_mem_nil _
  | taken | forward => exact List.forall_mem_singleton.mpr sound
  | regex pattern matched unmatched =>
      refine List.forall_mem_singleton.mpr ?_
      cases Pattern.Engine.isMatch pattern input with
      | true => exact sound.2.1
      | false => exact sound.2.2

theorem asks_something (input : String) (procedure : Procedure) :
    ∃ asked, procedure.Asks input asked := by
  cases procedure with
  | concat parts => exact ⟨_, .concat parts⟩
  | choose alternatives =>
      cases alternatives with
      | nil => exact ⟨_, .chooseNone⟩
      | cons first rest => exact ⟨_, .choose _ 0 first rfl⟩
  | optional body => exact ⟨_, .taken body⟩
  | regex pattern matched unmatched => exact ⟨_, .regex pattern matched unmatched⟩
  | forward target => exact ⟨_, .forward target⟩

variable (usable : String → Prop) (generator : Generator)
  (sound : TableSound usable generator.procedures) (input : String)

include sound

theorem advances_earlier (agenda next : Agenda)
    (earlier : AllEarlier generator.procedures.size agenda.pending)
    (advances : generator.Advances input agenda next) :
    AllEarlier generator.procedures.size next.pending := by
  cases advances with
  | constant text rest output => exact (List.forall_mem_cons.mp earlier).2
  | call index named asked rest output found asks =>
      obtain ⟨inside, others⟩ := List.forall_mem_cons.mp earlier
      have before := asks_earlier input index _ asked (sound index named found).procedure asks
      refine List.forall_mem_append.mpr ⟨fun fragment member => ?_, others⟩
      exact earlier_more index _ fragment (before fragment member) (Nat.le_of_lt inside)

theorem works_earlier (agenda later : Agenda)
    (earlier : AllEarlier generator.procedures.size agenda.pending)
    (works : generator.Works input agenda later) :
    AllEarlier generator.procedures.size later.pending := by
  induction works with
  | refl => exact earlier
  | tail _ advances ih => exact advances_earlier usable generator sound input _ _ ih advances

omit sound in
theorem done_or_advances (agenda : Agenda)
    (earlier : AllEarlier generator.procedures.size agenda.pending) :
    agenda.pending = [] ∨ ∃ next, generator.Advances input agenda next := by
  obtain ⟨pending, output⟩ := agenda
  cases pending with
  | nil => exact .inl rfl
  | cons fragment rest =>
      refine .inr ?_
      cases fragment with
      | constant text => exact ⟨_, .constant text rest output⟩
      | reference index =>
          have inside : index < generator.procedures.size := (List.forall_mem_cons.mp earlier).1
          have found := Array.getElem?_eq_getElem inside
          obtain ⟨asked, asks⟩ := asks_something input generator.procedures[index].procedure
          exact ⟨_, .call index _ asked rest output found asks⟩

-- By induction on the number below which all references lie, and inside on the fragments. What a
-- call asks for lies below the number of the procedure that is called.
theorem pending_ends (number : Nat) (fragments rest : List Fragment)
    (earlier : AllEarlier number fragments)
    (ends : ∀ output, Acc (fun next agenda => generator.Advances input agenda next) ⟨rest, output⟩)
    (output : String) :
    Acc (fun next agenda => generator.Advances input agenda next) ⟨fragments ++ rest, output⟩ := by
  induction number using Nat.strong_induction_on generalizing fragments rest output with
  | h number ih =>
      induction fragments generalizing output with
      | nil => exact ends output
      | cons fragment fragments others =>
          obtain ⟨first, behind⟩ := List.forall_mem_cons.mp earlier
          apply Acc.intro
          intro next advances
          cases advances with
          | constant text => exact others behind (output ++ text)
          | call index named asked _ _ found asks =>
              have before :=
                asks_earlier input index _ asked (sound index named found).procedure asks
              exact ih index first asked (fragments ++ rest) before (others behind) output

theorem work_ends (earlier : generator.entry.Earlier generator.procedures.size) :
    ¬ ∃ path : Nat → Agenda, path 0 = generator.agenda ∧
      ∀ time, generator.Advances input (path time) (path (time + 1)) := by
  have nothing : ∀ output,
      Acc (fun next agenda => generator.Advances input agenda next) ⟨[], output⟩ := by
    intro output
    apply Acc.intro
    intro next advances
    cases advances
  have ends := pending_ends usable generator sound input generator.procedures.size
    [generator.entry] [] (List.forall_mem_singleton.mpr earlier) nothing ""
  exact fun endless => not_acc_iff_exists_descending_chain.mpr endless ends

end

section

variable [Pattern.Engine]

def servedAll (produce : Fragment → Producer) (served : Fragment → Nat → Prop) :
    List Fragment → Nat → Prop
  | [], _ => True
  | fragment :: rest, drawn =>
      served fragment drawn ∧ servedAll produce served rest (produce fragment drawn).2

def Procedure.Served (feed : Feed) (produce : Fragment → Producer) (served : Fragment → Nat → Prop) :
    Procedure → Nat → Prop
  | .concat parts, drawn => servedAll produce served parts drawn
  | .choose alternatives, drawn =>
      let (index, next) := feed.words.index alternatives.length drawn
      alternatives ≠ [] →
        feed.words.Accepts alternatives.length drawn ∧ served (alternatives.getD index .empty) next
  | .optional body, drawn =>
      let (taken, next) := feed.words.coin drawn
      taken = true → served body next
  | .regex pattern matched unmatched, drawn =>
      served (bif Pattern.Engine.isMatch pattern feed.input then matched else unmatched) drawn
  | .forward target, drawn => served (.reference target) drawn

def Generator.ServedWithin (generator : Generator) (feed : Feed) : (depth : Nat) → Fragment → Nat → Prop
  | _, .constant _, _ => True
  | 0, .reference _, _ => True
  | depth + 1, .reference index, drawn =>
      ∀ named, generator.procedures[index]? = some named →
        named.procedure.Served feed (generator.produce feed depth) (generator.ServedWithin feed depth) drawn

def Generator.Served (generator : Generator) (feed : Feed) (drawn : Nat) : Prop :=
  generator.ServedWithin feed generator.procedures.size generator.entry drawn

theorem served_accepted (generator : Generator) (feed : Feed)
    (accepted : ∀ count drawn, 0 < count → feed.words.Accepts count drawn) (depth : Nat)
    (fragment : Fragment) (drawn : Nat) : generator.ServedWithin feed depth fragment drawn := by
  induction depth generalizing fragment drawn with
  | zero => cases fragment <;> trivial
  | succ depth ih =>
      cases fragment with
      | constant text => trivial
      | reference index =>
          intro named found
          cases named.procedure with
          | concat parts =>
              rw [Procedure.Served]
              induction parts generalizing drawn with
              | nil => trivial
              | cons part rest others => exact ⟨ih part drawn, others _⟩
          | choose alternatives => exact fun some => ⟨accepted _ drawn (List.length_pos_iff.mpr some), ih _ _⟩
          | optional body => exact fun _ => ih body _
          | regex pattern matched unmatched => exact ih _ drawn
          | forward target => exact ih _ drawn

variable (generator : Generator) (feed : Feed)

-- The producer does what the fragment asks for, whatever else is pending.
def Carries (produce : Fragment → Producer) (served : Fragment → Nat → Prop) (fragment : Fragment) :
    Prop :=
  ∀ rest output drawn, served fragment drawn →
    generator.Works feed.input ⟨fragment :: rest, output⟩ ⟨rest, output ++ (produce fragment drawn).1⟩

theorem carries_constant (depth : Nat) (text : String) :
    Carries generator feed (generator.produce feed depth) (generator.ServedWithin feed depth)
      (.constant text) := by
  intro rest output drawn _
  rw [produce_constant]
  exact .single (.constant text rest output)

theorem carries_all (produce : Fragment → Producer) (served : Fragment → Nat → Prop)
    (parts rest : List Fragment) (output text : String) (drawn : Nat)
    (each : ∀ fragment ∈ parts, Carries generator feed produce served fragment)
    (all : servedAll produce served parts drawn) :
    generator.Works feed.input ⟨parts ++ rest, output ++ text⟩
      ⟨rest, output ++ (produceAll produce text parts drawn).1⟩ := by
  induction parts generalizing text drawn with
  | nil => exact .refl
  | cons part parts ih =>
      obtain ⟨first, others⟩ := List.forall_mem_cons.mp each
      have begun := first (parts ++ rest) (output ++ text) drawn all.1
      rw [String.append_assoc] at begun
      exact begun.trans (ih (text ++ (produce part drawn).1) (produce part drawn).2 others all.2)

theorem procedure_carried (produce : Fragment → Producer) (served : Fragment → Nat → Prop)
    (number : Nat) (procedure : Procedure) (sound : procedure.Sound number)
    (each : ∀ fragment : Fragment, fragment.Earlier number →
      Carries generator feed produce served fragment)
    (rest : List Fragment) (output : String) (drawn : Nat)
    (serves : procedure.Served feed produce served drawn) :
    ∃ asked, procedure.Asks feed.input asked ∧
      generator.Works feed.input ⟨asked ++ rest, output⟩
        ⟨rest, output ++ (procedure.run feed produce drawn).1⟩ := by
  cases procedure with
  | concat parts =>
      have all := carries_all generator feed produce served parts rest output "" drawn
        (fun fragment member => each fragment (sound fragment member)) serves
      rw [String.append_empty] at all
      exact ⟨parts, .concat parts, all⟩
  | choose alternatives =>
      obtain ⟨some, earlier⟩ := sound
      obtain ⟨index, next, draw⟩ : ∃ index next,
          feed.words.index alternatives.length drawn = (index, next) := ⟨_, _, rfl⟩
      rw [Procedure.Served, draw] at serves
      obtain ⟨accepts, onward⟩ := serves some
      have inside := feed.words.index_below _ drawn (List.length_pos_iff.mpr some) accepts
      rw [draw] at inside
      have found := List.getElem?_eq_getElem inside
      have chosen : alternatives.getD index .empty = alternatives[index] := by
        rw [List.getD_eq_getElem?_getD, found, Option.getD_some]
      have ran : (Procedure.choose alternatives).run feed produce drawn =
          produce alternatives[index] next := by
        have several : alternatives.isEmpty = false := by simpa using some
        rw [Procedure.run, several, ← chosen]
        change produce (alternatives.getD (feed.words.index alternatives.length drawn).1 .empty)
          (feed.words.index alternatives.length drawn).2 = _
        rw [draw]
      rw [ran]
      rw [chosen] at onward
      exact ⟨_, .choose alternatives index _ found,
        each _ (earlier _ (List.getElem_mem inside)) rest output next onward⟩
  | optional body =>
      obtain ⟨taken, next, draw⟩ : ∃ taken next, feed.words.coin drawn = (taken, next) :=
        ⟨_, _, rfl⟩
      have ran : (Procedure.optional body).run feed produce drawn =
          (if taken then produce body else return "") next := by
        change (if (feed.words.coin drawn).1 then produce body else return "")
          (feed.words.coin drawn).2 = _
        rw [draw]
      rw [ran]
      rw [Procedure.Served, draw] at serves
      cases taken with
      | true => exact ⟨_, .taken body, each body sound rest output next (serves rfl)⟩
      | false =>
          refine ⟨_, .passed body, ?_⟩
          have nothing : output ++ "" = output := String.append_empty
          exact nothing.symm ▸ .refl
  | regex pattern matched unmatched =>
      refine ⟨_, .regex pattern matched unmatched, ?_⟩
      rw [Procedure.run]
      rw [Procedure.Served] at serves
      cases tested : Pattern.Engine.isMatch pattern feed.input with
      | true =>
          rw [tested] at serves
          exact each matched sound.2.1 rest output drawn serves
      | false =>
          rw [tested] at serves
          exact each unmatched sound.2.2 rest output drawn serves
  | forward target =>
      exact ⟨_, .forward target, each (.reference target) sound rest output drawn serves⟩

variable (usable : String → Prop) (sound : TableSound usable generator.procedures)

include sound

-- By induction on the depth, which is never used up: a call asks for earlier procedures.
theorem produce_carries (depth : Nat) (inside : depth ≤ generator.procedures.size)
    (fragment : Fragment) (earlier : fragment.Earlier depth) :
    Carries generator feed (generator.produce feed depth) (generator.ServedWithin feed depth)
      fragment := by
  induction depth generalizing fragment with
  | zero =>
      cases fragment with
      | constant text => exact carries_constant generator feed 0 text
      | reference index => exact absurd earlier (Nat.not_lt_zero index)
  | succ depth ih =>
      cases fragment with
      | constant text => exact carries_constant generator feed (depth + 1) text
      | reference index =>
          have before : index < generator.procedures.size := Nat.lt_of_lt_of_le earlier inside
          have found := Array.getElem?_eq_getElem before
          intro rest output drawn serves
          obtain ⟨asked, asks, works⟩ := procedure_carried generator feed
            (generator.produce feed depth) (generator.ServedWithin feed depth) index _
            (sound index _ found).procedure
            (fun fragment lower => ih (Nat.le_of_succ_le inside) fragment
              (earlier_more index depth fragment lower (Nat.le_of_lt_succ earlier)))
            rest output drawn (serves _ found)
          rw [Generator.produce, found]
          exact .head (.call index _ asked rest output found asks) works

theorem generate_works (earlier : generator.entry.Earlier generator.procedures.size)
    (drawn : Nat) (serves : generator.Served feed drawn) :
    generator.Works feed.input generator.agenda ⟨[], (generator.generate feed drawn).1⟩ := by
  have works := produce_carries generator feed usable sound generator.procedures.size
    (Nat.le_refl _) generator.entry earlier [] "" drawn serves
  rwa [String.empty_append] at works

end

end TextGrammar
