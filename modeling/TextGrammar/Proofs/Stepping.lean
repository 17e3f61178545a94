import TextGrammar.Proofs.Draws
import Mathlib.Logic.Relation

set_option autoImplicit false

namespace TextGrammar

-- A call in progress: of a statement, which gives what the call inside it gives, of the rest of a
-- sequence behind the output so far, or of the expansion of a name.
inductive Call where
  | statement
  | sequence (output : String) (rest : List Node)
  | expansion (name : String)

inductive Moment where
  | evaluate (task : Task) (environment : Environment)
  | returned (result : Result)

structure State where
  calls : List Call
  moment : Moment
  run : Run

section

variable [Pattern.Engine]

-- A decision may use up any number of words.
inductive Step (setting : Setting) : State → State → Prop where
  | literal (l : Literal) (calls : List Call) (environment : Environment) (run : Run) :
      Step setting ⟨calls, .evaluate (.one (.literal l)) environment, run⟩
        ⟨calls, .returned (.ok (l.text, environment)), run⟩
  | unresolved (n : Name) (calls : List Call) (environment : Environment) (run : Run)
      (missing : environment.get? n.text = none) :
      Step setting ⟨calls, .evaluate (.one (.name n)) environment, run⟩
        ⟨calls, .returned (.error (.unresolved n.text n.span)), run⟩
  | limited (n : Name) (body : Node) (calls : List Call) (environment : Environment) (run : Run)
      (bound : environment.get? n.text = some body) (full : setting.limit < run.openCount n.text) :
      Step setting ⟨calls, .evaluate (.one (.name n)) environment, run⟩
        ⟨calls, .returned (.error (.recursionLimit n.text setting.limit n.span)), run⟩
  | expand (n : Name) (body : Node) (calls : List Call) (environment : Environment) (run : Run)
      (bound : environment.get? n.text = some body) (free : run.openCount n.text ≤ setting.limit) :
      Step setting ⟨calls, .evaluate (.one (.name n)) environment, run⟩
        ⟨.expansion n.text :: .statement :: calls, .evaluate (.one body) environment,
          run.enter n.text⟩
  | group (opening closing : Span) (statements : List Node) (calls : List Call)
      (environment : Environment) (run : Run) :
      Step setting ⟨calls, .evaluate (.one (.group opening statements closing)) environment, run⟩
        ⟨.statement :: calls, .evaluate (.all "" statements) environment, run⟩
  | define (op : Span) (n : Name) (body : Node) (calls : List Call) (environment : Environment)
      (run : Run) :
      Step setting ⟨calls, .evaluate (.one (.define op n body)) environment, run⟩
        ⟨calls, .returned (.ok ("", environment.insert n.text body)), run⟩
  | chooseNone (op opening closing : Span) (calls : List Call) (environment : Environment)
      (run : Run) :
      Step setting ⟨calls, .evaluate (.one (.choose op opening [] closing)) environment, run⟩
        ⟨calls, .returned (.ok ("", environment)), run⟩
  | choose (op opening closing : Span) (alternatives : List Node) (calls : List Call)
      (environment : Environment) (run : Run) (index drawn : Nat) (chosen : Node)
      (found : alternatives[index]? = some chosen) :
      Step setting
        ⟨calls, .evaluate (.one (.choose op opening alternatives closing)) environment, run⟩
        ⟨.statement :: calls, .evaluate (.one chosen) environment,
          run.record drawn (.choose index alternatives.length)⟩
  | taken (op : Span) (body : Node) (calls : List Call) (environment : Environment) (run : Run)
      (drawn : Nat) :
      Step setting ⟨calls, .evaluate (.one (.optional op body)) environment, run⟩
        ⟨.statement :: calls, .evaluate (.one body) environment,
          run.record drawn (.optional true)⟩
  | passed (op : Span) (body : Node) (calls : List Call) (environment : Environment) (run : Run)
      (drawn : Nat) :
      Step setting ⟨calls, .evaluate (.one (.optional op body)) environment, run⟩
        ⟨calls, .returned (.ok ("", environment)), run.record drawn (.optional false)⟩
  | invalid (op : Span) (source : Literal) (matched unmatched : Node) (calls : List Call)
      (environment : Environment) (run : Run) (fault : Pattern.Fault)
      (read : Pattern.Engine.read source.text = .error fault) :
      Step setting
        ⟨calls, .evaluate (.one (.regex op source matched unmatched)) environment, run⟩
        ⟨calls, .returned (.error (.invalidPattern source.text fault source.span)), run⟩
  | tested (op : Span) (source : Literal) (matched unmatched : Node) (calls : List Call)
      (environment : Environment) (run : Run) (pattern : Pattern)
      (read : Pattern.Engine.read source.text = .ok pattern) :
      Step setting
        ⟨calls, .evaluate (.one (.regex op source matched unmatched)) environment, run⟩
        ⟨.statement :: calls,
          .evaluate (.one (bif Pattern.Engine.isMatch pattern setting.input then matched
            else unmatched)) environment,
          run.record run.drawn
            (.regex source.text (Pattern.Engine.isMatch pattern setting.input))⟩
  | finish (output : String) (calls : List Call) (environment : Environment) (run : Run) :
      Step setting ⟨calls, .evaluate (.all output []) environment, run⟩
        ⟨calls, .returned (.ok (output, environment)), run⟩
  | begin (output : String) (node : Node) (rest : List Node) (calls : List Call)
      (environment : Environment) (run : Run) :
      Step setting ⟨calls, .evaluate (.all output (node :: rest)) environment, run⟩
        ⟨.sequence output rest :: calls, .evaluate (.one node) environment, run⟩
  | append (output text : String) (rest : List Node) (calls : List Call)
      (environment : Environment) (run : Run) :
      Step setting ⟨.sequence output rest :: calls, .returned (.ok (text, environment)), run⟩
        ⟨calls, .evaluate (.all (output ++ text) rest) environment, run⟩
  | failed (output : String) (rest : List Node) (calls : List Call) (error : SamplingError)
      (run : Run) :
      Step setting ⟨.sequence output rest :: calls, .returned (.error error), run⟩
        ⟨calls, .returned (.error error), run⟩
  | give (calls : List Call) (result : Result) (run : Run) :
      Step setting ⟨.statement :: calls, .returned result, run⟩ ⟨calls, .returned result, run⟩
  | leave (name : String) (calls : List Call) (result : Result) (run : Run) :
      Step setting ⟨.expansion name :: calls, .returned result, run⟩
        ⟨calls, .returned result, run.leave name⟩

abbrev Reaches (setting : Setting) : State → State → Prop := Relation.ReflTransGen (Step setting)

end

namespace State

def start (grammar : Grammar) (environment : Environment) (drawn : Nat) : State :=
  ⟨[], .evaluate (.all "" grammar.statements) environment, Run.start drawn⟩

def Ended (state : State) : Prop := ∃ result run, state = ⟨[], .returned result, run⟩

end State

section

variable [Pattern.Engine]

theorem steps_or_ended (setting : Setting) (state : State) :
    state.Ended ∨ ∃ next, Step setting state next := by
  obtain ⟨calls, moment, run⟩ := state
  cases moment with
  | returned result =>
      cases calls with
      | nil => exact .inl ⟨result, run, rfl⟩
      | cons call calls =>
          refine .inr ?_
          cases call with
          | statement => exact ⟨_, .give calls result run⟩
          | expansion name => exact ⟨_, .leave name calls result run⟩
          | sequence output rest =>
              cases result with
              | error error => exact ⟨_, .failed output rest calls error run⟩
              | ok production =>
                  exact ⟨_, .append output production.1 rest calls production.2 run⟩
  | evaluate task environment =>
      refine .inr ?_
      cases task with
      | all output nodes =>
          cases nodes with
          | nil => exact ⟨_, .finish output calls environment run⟩
          | cons node rest => exact ⟨_, .begin output node rest calls environment run⟩
      | one node =>
          cases node with
          | literal l => exact ⟨_, .literal l calls environment run⟩
          | name n =>
              cases bound : environment.get? n.text with
              | none => exact ⟨_, .unresolved n calls environment run bound⟩
              | some body =>
                  by_cases free : run.openCount n.text ≤ setting.limit
                  · exact ⟨_, .expand n body calls environment run bound free⟩
                  · exact ⟨_, .limited n body calls environment run bound (by omega)⟩
          | group opening statements closing => exact ⟨_, .group _ _ _ calls environment run⟩
          | define op n body => exact ⟨_, .define op n body calls environment run⟩
          | choose op opening alternatives closing =>
              cases alternatives with
              | nil => exact ⟨_, .chooseNone op opening closing calls environment run⟩
              | cons first rest =>
                  exact ⟨_, .choose op opening closing _ calls environment run 0 run.drawn first
                    rfl⟩
          | optional op body => exact ⟨_, .taken op body calls environment run run.drawn⟩
          | regex op source matched unmatched =>
              cases read : Pattern.Engine.read source.text with
              | error fault =>
                  exact ⟨_, .invalid op source matched unmatched calls environment run fault read⟩
              | ok pattern =>
                  exact ⟨_, .tested op source matched unmatched calls environment run pattern
                    read⟩

theorem evaluates_reaches (setting : Setting) (task : Task) (environment : Environment)
    (run last : Run) (result : Result) (served : run.Served setting.words last)
    (evaluates : Evaluates setting task environment run result last) (calls : List Call) :
    Reaches setting ⟨calls, .evaluate task environment, run⟩ ⟨calls, .returned result, last⟩ := by
  induction evaluates generalizing calls with
  | literal l environment run => exact .single (.literal l calls environment run)
  | unresolved n environment run missing =>
      exact .single (.unresolved n calls environment run missing)
  | limited n environment run body bound full =>
      exact .single (.limited n body calls environment run bound full)
  | expanded n environment run last body result bound free _ ih =>
      have entered := Step.expand n body calls environment run bound free
      have left : Step setting _ _ := .leave n.text (.statement :: calls) result last
      exact .head entered (((ih served _).tail left).tail (.give calls result _))
  | group opening closing statements environment run last result _ ih =>
      exact .head (.group opening closing statements calls environment run)
        ((ih served _).tail (.give calls result last))
  | define op n body environment run => exact .single (.define op n body calls environment run)
  | chooseNone op opening closing environment run =>
      exact .single (.chooseNone op opening closing calls environment run)
  | choose op opening closing alternatives environment run last result index drawn chosen _ draw
      found inner ih =>
      have goesOn := evaluates_continues _ _ _ _ _ _ inner
      have later := Run.served_record setting.words run last (.choose index alternatives.length)
      rw [Words.behind, draw] at later
      exact .head (.choose op opening closing alternatives calls environment run index drawn
        chosen found) ((ih (later goesOn served) _).tail (.give calls result last))
  | chooseBeyond op opening closing alternatives environment run index drawn some draw beyond =>
      have accepts := Run.served_choice setting.words run index alternatives.length drawn served
      have least := setting.words.index_below _ _ (List.length_pos_iff.mpr some) accepts
      rw [draw] at least
      have most := List.getElem?_eq_none_iff.mp beyond
      omega
  | taken op body environment run last result drawn draw inner ih =>
      have goesOn := evaluates_continues _ _ _ _ _ _ inner
      have later := Run.served_record setting.words run last (.optional true)
      rw [Words.behind, draw] at later
      exact .head (.taken op body calls environment run drawn)
        ((ih (later goesOn served) _).tail (.give calls result last))
  | passed op body environment run drawn _ =>
      exact .single (.passed op body calls environment run drawn)
  | invalid op source matched unmatched environment run fault read =>
      exact .single (.invalid op source matched unmatched calls environment run fault read)
  | matched op source matched unmatched environment run last result pattern read accepts inner ih =>
      have goesOn := evaluates_continues _ _ _ _ _ _ inner
      have later := Run.served_record setting.words run last (.regex source.text true) goesOn served
      have tested : Step setting _ _ :=
        .tested op source matched unmatched calls environment run pattern read
      rw [accepts] at tested
      exact .head tested ((ih later _).tail (.give calls result last))
  | unmatched op source matched unmatched environment run last result pattern read refuses inner ih =>
      have goesOn := evaluates_continues _ _ _ _ _ _ inner
      have later := Run.served_record setting.words run last (.regex source.text false) goesOn served
      have tested : Step setting _ _ :=
        .tested op source matched unmatched calls environment run pattern read
      rw [refuses] at tested
      exact .head tested ((ih later _).tail (.give calls result last))
  | nil output environment run => exact .single (.finish output calls environment run)
  | failed output node rest environment run last error _ ih =>
      exact .head (.begin output node rest calls environment run)
        ((ih served _).tail (.failed output rest calls error last))
  | cons output text node rest environment between run middle last result first second head tail =>
      obtain ⟨front, behind⟩ := Run.served_split setting.words run middle last
        (evaluates_continues _ _ _ _ _ _ first) (evaluates_continues _ _ _ _ _ _ second) served
      have ran := (head front (.sequence output rest :: calls)).tail
        (.append output text rest calls between middle)
      exact .head (.begin output node rest calls environment run) (ran.trans (tail behind calls))

end

end TextGrammar
