import TextGrammar.Source.Token
import TextGrammar.Tree.Basic
import TextGrammar.Tree.ReadError

set_option autoImplicit false

namespace TextGrammar

-- An unfinished statement. Finished parts of a group are kept latest first.
inductive Frame where
  | group (opening : Span) (done : List Node)
  | choose (op opening : Span) (done : List Node)
  | define (op : Span) (name : Name)
  | optional (op : Span)
  | regex (op : Span) (pattern : Literal)
  | regexElse (op : Span) (pattern : Literal) (matched : Node)
deriving Repr

inductive Awaiting where
  | statement
  | name (op : Span)
  | alternatives (op : Span)
  | pattern (op : Span)
deriving Repr

-- Frames are kept innermost first; their number is the depth of the place.
structure Partial where
  opening : Span
  done : List Node
  frames : List Frame
  awaiting : Awaiting
deriving Repr

inductive Progress where
  | complete (grammar : Grammar)
  | partway (state : Partial)
deriving Repr

namespace Partial

-- The innermost group that is still open and collects statements here, by its opening bracket; none
-- where a single statement is due.
def openGroup (state : Partial) : Option Span :=
  match state.frames with
  | [] => some state.opening
  | .group opening _ :: _ => some opening
  | .choose _ opening _ :: _ => some opening
  | .define .. :: _ | .optional _ :: _ | .regex .. :: _ | .regexElse .. :: _ => none

def supply (opening : Span) (done : List Node) (node : Node) : List Frame → Partial
  | [] => ⟨opening, node :: done, [], .statement⟩
  | .group o inner :: frames => ⟨opening, done, .group o (node :: inner) :: frames, .statement⟩
  | .choose op o inner :: frames =>
      ⟨opening, done, .choose op o (node :: inner) :: frames, .statement⟩
  | .define op name :: frames => supply opening done (.define op name node) frames
  | .optional op :: frames => supply opening done (.optional op node) frames
  | .regex op pattern :: frames =>
      ⟨opening, done, .regexElse op pattern node :: frames, .statement⟩
  | .regexElse op pattern matched :: frames =>
      supply opening done (.regex op pattern matched node) frames

def finish (state : Partial) (node : Node) (frames : List Frame) : Partial :=
  supply state.opening state.done node frames

def enter (state : Partial) (frame : Frame) : Partial :=
  ⟨state.opening, state.done, frame :: state.frames, .statement⟩

def await (state : Partial) (awaiting : Awaiting) : Partial := { state with awaiting }

def begin (state : Partial) (token : Token) : Except ReadError Partial :=
  match token.lexeme with
  | .opening => .ok (state.enter (.group token.span []))
  | .literal text quote => .ok (state.finish (.literal ⟨text, quote, token.span⟩) state.frames)
  | .unclosed _ => .error (.unterminatedLiteral token.span)
  | .name text => .ok (state.finish (.name ⟨text, token.span⟩) state.frames)
  | .operator .define => .ok (state.await (.name token.span))
  | .operator .choose => .ok (state.await (.alternatives token.span))
  | .operator .optional => .ok (state.enter (.optional token.span))
  | .operator .regex => .ok (state.await (.pattern token.span))
  | .closing => .error (.expectedStatement token.span.start)
  | .stray c =>
      if isAsciiMark c then .error (.expectedOperator token.span.start)
      else .error (.expectedStatement token.span.start)

def close (state : Partial) (closing : Span) : Progress :=
  match state.frames with
  | .group opening done :: frames =>
      .partway (state.finish (.group opening done.reverse closing) frames)
  | .choose op opening done :: frames =>
      .partway (state.finish (.choose op opening done.reverse closing) frames)
  | _ => .complete ⟨state.opening, state.done.reverse, closing⟩

-- One token further. A statement deeper than `limit` is refused, whatever it begins with.
def step (limit : Nat) (state : Partial) (token : Token) : Except ReadError Progress :=
  match state.awaiting with
  | .statement =>
      if token.lexeme = .closing ∧ state.openGroup.isSome then .ok (state.close token.span)
      else if limit ≤ state.frames.length then .error (.nestingTooDeep limit token.span.start)
      else (state.begin token).map .partway
  | .name op =>
      match token.lexeme with
      | .name text => .ok (.partway (state.enter (.define op ⟨text, token.span⟩)))
      | _ => .error (.expectedName token.span.start)
  | .alternatives op =>
      match token.lexeme with
      | .opening => .ok (.partway (state.enter (.choose op token.span [])))
      | _ => .error (.expectedGroup token.span.start)
  | .pattern op =>
      match token.lexeme with
      | .literal text quote => .ok (.partway (state.enter (.regex op ⟨text, quote, token.span⟩)))
      | .unclosed _ => .error (.unterminatedLiteral token.span)
      | _ => .error (.expectedLiteral token.span.start)

def atEnd (limit stop : Nat) (state : Partial) : ReadError :=
  match state.awaiting with
  | .statement =>
      match state.openGroup with
      | some opening => .unterminatedGroup (Span.range opening.start stop)
      | none =>
          if limit ≤ state.frames.length then .nestingTooDeep limit stop
          else .expectedStatement stop
  | .name _ => .expectedName stop
  | .alternatives _ => .expectedGroup stop
  | .pattern _ => .expectedLiteral stop

def run (limit stop : Nat) (state : Partial) : List Token → Except ReadError Grammar
  | [] => .error (state.atEnd limit stop)
  | token :: rest =>
      match state.step limit token with
      | .error error => .error error
      | .ok (.complete grammar) => .ok grammar
      | .ok (.partway next) => next.run limit stop rest

end Partial

def defaultNesting : Nat := 512

def Grammar.readWithin (limit : Nat) (source : String) : Except ReadError Grammar :=
  let stop := utf8Length source.toList
  match tokensOf source with
  | [] => .error (.expectedGroup stop)
  | token :: rest =>
      match token.lexeme with
      | .opening => (Partial.mk token.span [] [] .statement).run limit stop rest
      | _ => .error (.expectedGroup token.span.start)

def Grammar.read (source : String) : Except ReadError Grammar :=
  Grammar.readWithin defaultNesting source

end TextGrammar
