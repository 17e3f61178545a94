import TextGrammar.Proofs.Room
import TextGrammar.Proofs.Stepping
import Mathlib.Order.WellFounded

set_option autoImplicit false

namespace TextGrammar

section

variable [Pattern.Engine]

def Ends (setting : Setting) : State → Prop := Acc fun next state => Step setting state next

-- Calls that wait for a result are asked only that they end once it returns.
def Returns (setting : Setting) (names : Finset String) (calls : List Call) (run : Run) : Prop :=
  ∀ result last, (∀ name, last.openCount name = run.openCount name) →
    (∀ text after, result = .ok (text, after) → Environment.Within after names) →
      Ends setting ⟨calls, .returned result, last⟩

def TaskEnds (setting : Setting) (names : Finset String) (room : Nat) (task : Task) : Prop :=
  ∀ calls environment run, UsesWithin names task.uses → environment.Within names →
    Room setting.limit names room run → Returns setting names calls run →
      Ends setting ⟨calls, .evaluate task environment, run⟩

theorem returns_record (setting : Setting) (names : Finset String) (calls : List Call) (run : Run)
    (drawn : Nat) (decision : Decision) (waits : Returns setting names calls run) :
    Returns setting names calls (run.record drawn decision) := by
  intro result last restored bodies
  exact waits result last restored bodies

theorem returns_statement (setting : Setting) (names : Finset String) (calls : List Call)
    (run : Run) (waits : Returns setting names calls run) :
    Returns setting names (.statement :: calls) run := by
  intro result last restored bodies
  apply Acc.intro
  intro next step
  cases step
  exact waits result last restored bodies

theorem returns_expansion (setting : Setting) (names : Finset String) (calls : List Call)
    (run : Run) (name : String) (waits : Returns setting names calls run) :
    Returns setting names (.expansion name :: calls) (run.enter name) := by
  intro result last restored bodies
  apply Acc.intro
  intro next step
  cases step
  exact waits result (last.leave name) (leave_restores run last name restored) bodies

theorem returns_sequence (setting : Setting) (names : Finset String) (room : Nat) (output : String)
    (rest : List Node) (calls : List Call) (run : Run)
    (ends : ∀ output, TaskEnds setting names room (.all output rest))
    (within : UsesWithin names (Node.usesAll rest)) (enough : Room setting.limit names room run)
    (waits : Returns setting names calls run) :
    Returns setting names (.sequence output rest :: calls) run := by
  intro result last restored bodies
  apply Acc.intro
  intro next step
  cases step with
  | failed _ _ _ error => exact waits (.error error) last restored bodies
  | append _ text _ _ between =>
      have later := room_congr _ _ _ _ _ restored enough
      refine ends _ calls between last within (bodies text between rfl) later ?_
      intro result final again after
      exact waits result final (fun name => (again name).trans (restored name)) after

theorem sequence_ends (setting : Setting) (names : Finset String) (room : Nat) (nodes : List Node)
    (each : ∀ node ∈ nodes, TaskEnds setting names room (.one node)) (output : String) :
    TaskEnds setting names room (.all output nodes) := by
  induction nodes generalizing output with
  | nil =>
      intro calls environment run within bodies enough waits
      apply Acc.intro
      intro next step
      cases step
      refine waits _ run (fun name => rfl) ?_
      intro text after same
      cases same
      exact bodies
  | cons node rest ih =>
      intro calls environment run within bodies enough waits
      obtain ⟨first, others⟩ := (uses_within_append _ _ _).mp within
      have ends := ih fun other member => each other (List.mem_cons_of_mem node member)
      apply Acc.intro
      intro next step
      cases step
      exact each node List.mem_cons_self _ environment run first bodies enough
        (returns_sequence setting names room output rest calls run ends others enough waits)

mutual

theorem statement_ends (setting : Setting) (names : Finset String) (room : Nat)
    (expansions : ∀ n, TaskEnds setting names room (.one (.name n))) (node : Node) :
    TaskEnds setting names room (.one node) := by
  intro calls environment run within bodies enough waits
  have keeps : ∀ output text after,
      (.ok (output, environment) : Result) = .ok (text, after) → after.Within names := by
    intro output text after same
    cases same
    exact bodies
  cases node with
  | name n => exact expansions n calls environment run within bodies enough waits
  | literal l =>
      apply Acc.intro
      intro next step
      cases step
      exact waits _ run (fun name => rfl) (keeps _)
  | group opening statements closing =>
      apply Acc.intro
      intro next step
      cases step
      exact sequence_ends setting names room statements
        (statements_end setting names room expansions statements) "" _ environment run within bodies
        enough (returns_statement setting names calls run waits)
  | define op n body =>
      apply Acc.intro
      intro next step
      have defined : Evaluates setting (.one (.define op n body)) environment run
          (.ok ("", environment.insert n.text body)) run := .define op n body environment run
      cases step
      exact waits _ run (fun name => rfl)
        (evaluates_within setting names _ _ _ _ _ defined within bodies)
  | choose op opening alternatives closing =>
      apply Acc.intro
      intro next step
      cases step with
      | chooseNone => exact waits _ run (fun name => rfl) (keeps _)
      | choose _ _ _ _ _ _ _ index drawn chosen found =>
          have inside := chosen_uses alternatives index chosen found
          exact statements_end setting names room expansions alternatives chosen
            (List.mem_of_getElem? found) _ environment _
            (fun use member => within use (inside use member)) bodies enough
            (returns_statement setting names calls _ (returns_record setting names calls run _ _ waits))
  | optional op body =>
      apply Acc.intro
      intro next step
      cases step with
      | passed _ _ _ _ _ drawn => exact waits _ (run.record drawn _) (fun name => rfl) (keeps _)
      | taken =>
          exact statement_ends setting names room expansions body _ environment _ within bodies enough
            (returns_statement setting names calls _ (returns_record setting names calls run _ _ waits))
  | regex op source matched unmatched =>
      obtain ⟨first, second⟩ := (uses_within_append _ _ _).mp within
      apply Acc.intro
      intro next step
      cases step with
      | invalid => exact waits _ run (fun name => rfl) (by intro text after same; cases same)
      | tested _ _ _ _ _ _ _ pattern =>
          have ready := returns_statement setting names calls _
            (returns_record setting names calls run run.drawn
              (.regex source.text (Pattern.Engine.isMatch pattern setting.input)) waits)
          cases Pattern.Engine.isMatch pattern setting.input with
          | true =>
              exact statement_ends setting names room expansions matched _ environment _ first bodies
                enough ready
          | false =>
              exact statement_ends setting names room expansions unmatched _ environment _ second
                bodies enough ready

theorem statements_end (setting : Setting) (names : Finset String) (room : Nat)
    (expansions : ∀ n, TaskEnds setting names room (.one (.name n))) (nodes : List Node) :
    ∀ node ∈ nodes, TaskEnds setting names room (.one node) := by
  cases nodes with
  | nil =>
      intro node member
      cases member
  | cons first rest =>
      intro node member
      cases member with
      | head => exact statement_ends setting names room expansions first
      | tail _ later => exact statements_end setting names room expansions rest node later

end

-- By induction on the room; inside, `statement_ends` goes down the tree that is evaluated.
theorem expansion_ends (setting : Setting) (names : Finset String) (room : Nat) (n : Name) :
    TaskEnds setting names room (.one (.name n)) := by
  induction room generalizing n with
  | zero =>
      intro calls environment run within bodies enough waits
      have full := room_zero _ _ _ enough n.text (within n List.mem_cons_self)
      apply Acc.intro
      intro next step
      cases step with
      | unresolved | limited =>
          exact waits _ run (fun name => rfl) (by intro text after same; cases same)
      | expand _ _ _ _ _ _ free => omega
  | succ room ih =>
      intro calls environment run within bodies enough waits
      apply Acc.intro
      intro next step
      cases step with
      | unresolved | limited =>
          exact waits _ run (fun name => rfl) (by intro text after same; cases same)
      | expand _ body _ _ _ bound free =>
          have less := room_enter _ _ _ _ enough n.text (within n List.mem_cons_self) free
          exact statement_ends setting names room ih body _ environment _
            (bodies n.text body bound) bodies less
            (returns_expansion setting names _ run n.text
              (returns_statement setting names calls run waits))

theorem ended_returns (setting : Setting) (names : Finset String) (run : Run) :
    Returns setting names [] run := by
  intro result last restored bodies
  apply Acc.intro
  intro next step
  cases step

theorem start_ends (grammar : Grammar) (setting : Setting) (environment : Environment)
    (drawn : Nat) : Ends setting (.start grammar environment drawn) := by
  obtain ⟨within, bodies⟩ := names_used_within grammar environment
  have enough := names_used_room grammar setting environment drawn
  have expansions := expansion_ends setting (grammar.namesUsed environment)
    (setting.room grammar.statements environment)
  have each := statements_end setting _ _ expansions grammar.statements
  exact sequence_ends setting _ _ _ each "" [] environment _ within bodies enough
    (ended_returns setting _ _)

theorem no_endless_steps (setting : Setting) (state : State) (ends : Ends setting state) :
    ¬ ∃ path : Nat → State, path 0 = state ∧ ∀ time, Step setting (path time) (path (time + 1)) := by
  intro endless
  exact not_acc_iff_exists_descending_chain.mpr endless ends

end

end TextGrammar
