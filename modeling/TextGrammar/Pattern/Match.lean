import TextGrammar.Pattern.Expression
import TextGrammar.Unicode.Class

set_option autoImplicit false

namespace TextGrammar.Pattern

-- Bit `n` tells whether the place behind `n` characters belongs to the set. An expression maps the
-- places where it may begin to those where it may end.
abbrev Places := Nat

namespace Places

def none : Places := 0

def all (length : Nat) : Places := (1 <<< (length + 1)) - 1

def ofFlags (flags : List Bool) : Places :=
  flags.foldr (fun flag places => 2 * places + flag.toNat) none

-- Applies a step `count` times; once a step changes nothing, further ones do not either.
def iterate (step : Places → Places) : Nat → Places → Places
  | 0, places => places
  | count + 1, places =>
      let next := step places
      if next = places then places else iterate step count next

-- All places reached from `fresh` in at most `count` steps, added to those reached before. Only
-- places that are new are followed further.
def spread (step : Places → Places) : Nat → Places → Places → Places
  | 0, _, reached => reached
  | count + 1, fresh, reached =>
      let next := (step fresh ||| reached) ^^^ reached
      if next = none then reached else spread step count next (reached ||| next)

end Places

inductive Located where
  | stay
  | take (before : Places)
  | check (places : Places)
  | sequence (parts : List Located)
  | choice (branches : List Located)
  | repeated (least more : Nat) (body : Located)
deriving Inhabited

namespace Located

mutual

def ends (places : Places) : Located → Places
  | stay => places
  | take before => (places &&& before) <<< 1
  | check allowed => places &&& allowed
  | sequence parts => endsInOrder places parts
  | choice branches => endsOfAny places branches
  | repeated least more body =>
      let start := Places.iterate (fun places => body.ends places) least places
      Places.spread (fun places => body.ends places) more start start

def endsInOrder (places : Places) : List Located → Places
  | [] => places
  | part :: rest => endsInOrder (part.ends places) rest

def endsOfAny (places : Places) : List Located → Places
  | [] => Places.none
  | branch :: rest => branch.ends places ||| endsOfAny places rest

end

end Located

def isAsciiWordChar (c : Char) : Bool := c.isAlphanum || c == '_'

def isWordChar (ascii : Bool) (c : Char) : Bool :=
  if c.toNat < 0x80 then isAsciiWordChar c
  else !ascii && Unicode.wordPoints.contains c.toNat

def WordEdge.holds : WordEdge → (before after : Bool) → Bool
  | border, before, after => before != after
  | noBorder, before, after => before == after
  | start, before, after => !before && after
  | stop, before, after => before && !after
  | startHalf, before, _ => !before
  | stopHalf, _, after => !after

def Look.holds : Look → (before after : Option Char) → Bool
  | textStart, before, _ => before.isNone
  | textStop, _, after => after.isNone
  | lineStart, before, _ => before.isNone || before == some '\n'
  | lineStop, _, after => after.isNone || after == some '\n'
  | anyLineStart, before, after =>
      before.isNone || before == some '\n' || (before == some '\r' && after != some '\n')
  | anyLineStop, before, after =>
      after.isNone || after == some '\r' || (after == some '\n' && before != some '\r')
  | word edge ascii, before, after =>
      edge.holds (before.any (isWordChar ascii)) (after.any (isWordChar ascii))

namespace Expression

def neighbours (text : List Char) : List (Option Char × Option Char) :=
  List.zip (none :: text.map some) (text.map some ++ [none])

mutual

def locate (text : List Char) : Expression → Located
  | empty => .stay
  | one set => .take (Places.ofFlags (text.map fun c => set.contains c.toNat))
  | look assertion =>
      .check (Places.ofFlags ((neighbours text).map fun (before, after) =>
        assertion.holds before after))
  | sequence parts => .sequence (locateAll text parts)
  | choice branches => .choice (locateAll text branches)
  | repeated least most body =>
      let rounds := text.length + 1
      let more := match most with
        | none => rounds
        | some most => min (most - least) rounds
      .repeated least more (body.locate text)
  | captured body => body.locate text

def locateAll (text : List Char) : List Expression → List Located
  | [] => []
  | part :: rest => part.locate text :: locateAll text rest

end

def occursIn (expression : Expression) (text : List Char) : Bool :=
  (expression.locate text).ends (Places.all text.length) != Places.none

end Expression

end TextGrammar.Pattern
