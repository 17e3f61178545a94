import TextGrammar.Pattern.Expression

set_option autoImplicit false

namespace TextGrammar.Pattern

abbrev ByteRange := Nat × Nat

-- The code points from `first` to `last`, both written with a leading part and `tail` groups of six
-- bits, as sequences of ranges of such parts.
def splitRange : (tail first last : Nat) → List (List (Nat × Nat))
  | 0, first, last => [[(first, last)]]
  | tail + 1, first, last =>
      let unit := 1 <<< (6 * (tail + 1))
      let low := first / unit
      let high := last / unit
      if low = high then
        (splitRange tail (first % unit) (last % unit)).map fun parts => (low, low) :: parts
      else
        let startsWhole := first % unit = 0
        let stopsWhole := last % unit = unit - 1
        let head :=
          if startsWhole then []
          else (splitRange tail (first % unit) (unit - 1)).map fun parts => (low, low) :: parts
        let middleLow := if startsWhole then low else low + 1
        let middleHigh := if stopsWhole then high + 1 else high
        let middle :=
          if middleLow < middleHigh then
            (splitRange tail 0 (unit - 1)).map fun parts => (middleLow, middleHigh - 1) :: parts
          else []
        let foot :=
          if stopsWhole then []
          else (splitRange tail 0 (last % unit)).map fun parts => (high, high) :: parts
        head ++ middle ++ foot

-- Ranges of code points that are written with the same number of bytes, each with the number of
-- bytes behind the leading one and the mark that the leading byte carries.
def encodedAlike : List (Nat × Nat × Nat × Nat) := [
  (0x00, 0x7F, 0, 0x00), (0x80, 0x7FF, 1, 0xC0), (0x800, 0xD7FF, 2, 0xE0),
  (0xE000, 0xFFFF, 2, 0xE0), (0x10000, 0x10FFFF, 3, 0xF0)]

def markBytes (mark : Nat) : List (Nat × Nat) → List ByteRange
  | [] => []
  | (low, high) :: rest => (mark + low, mark + high) :: markBytes 0x80 rest

def byteSequences (set : CodePoints) : List (List ByteRange) :=
  set.flatMap fun (first, last) =>
    encodedAlike.flatMap fun (low, high, tail, mark) =>
      let first := max first low
      let last := min last high
      if first ≤ last then (splitRange tail first last).map (markBytes mark) else []

def groupByFirst : List (List ByteRange) → List (ByteRange × List (List ByteRange))
  | [] => []
  | [] :: rest => groupByFirst rest
  | (range :: tail) :: rest =>
      match groupByFirst rest with
      | (next, tails) :: groups =>
          if next = range then (range, tail :: tails) :: groups
          else (range, [tail]) :: (next, tails) :: groups
      | [] => [(range, [tail])]

-- The states of the automaton for a set of sequences with at most `depth` ranges, each state by the
-- sequences that lead on from it.
def states : Nat → List (List ByteRange) → List (List (List ByteRange))
  | 0, _ => []
  | depth + 1, sequences =>
      let below := (groupByFirst sequences).flatMap fun (_, tails) =>
        if tails.all List.isEmpty then [] else states depth tails
      sequences :: below

def nodeCost : Nat := 32

def transitionCost : Nat := 8

def branchCost : Nat := 4

def forwardClassSize (sequences : List (List ByteRange)) : Nat :=
  let distinct := (states 4 sequences).eraseDups
  nodeCost * (distinct.length + 1) + transitionCost * (distinct.flatMap groupByFirst).length

def beginnings : List ByteRange → List (List ByteRange)
  | [] => []
  | range :: rest => [range] :: (beginnings rest).map (range :: ·)

def backwardClassSize (sequences : List (List ByteRange)) : Nat :=
  2 * nodeCost + branchCost * sequences.length +
    nodeCost * (sequences.flatMap beginnings).eraseDups.length

-- At least the size in either direction, as if nothing were shared.
def unsharedClassSize (sequences : List (List ByteRange)) : Nat :=
  2 * nodeCost + branchCost * sequences.length +
    (nodeCost + transitionCost) * sequences.flatten.length

structure Measure where
  classSize : List (List ByteRange) → Nat
  captureSize : Nat

namespace Measure

def forward : Measure := ⟨forwardClassSize, 2 * nodeCost⟩

def backward : Measure := ⟨backwardClassSize, 0⟩

def unshared : Measure := ⟨unsharedClassSize, 2 * nodeCost⟩

def setSize (measure : Measure) (set : CodePoints) : Nat :=
  match set with
  | [] => nodeCost
  | (first, last) :: rest =>
      if rest.isEmpty && first == last then
        nodeCost * (byteSequences set).flatten.length
      else if set.isAscii then 2 * nodeCost + transitionCost * set.length
      else measure.classSize (byteSequences set)

end Measure

namespace Expression

mutual

def size (measure : Measure) : Expression → Nat
  | empty => nodeCost
  | one set => measure.setSize set
  | look _ => nodeCost
  | sequence parts => sizeOfAll measure parts
  | choice branches =>
      2 * nodeCost + branchCost * branches.length + sizeOfAll measure branches
  | repeated least most body =>
      let once := body.size measure
      let branch := nodeCost + 2 * branchCost
      match most with
      | none => max least 1 * once + branch
      | some most => most * once + (most - least) * branch + nodeCost
  | captured body => measure.captureSize + body.size measure

def sizeOfAll (measure : Measure) : List Expression → Nat
  | [] => 0
  | part :: rest => part.size measure + sizeOfAll measure rest

end

def frameSize : Nat := 8 * nodeCost

def greatestSize : Nat := 10 * 1024 * 1024

-- The program is an automaton over the bytes of UTF-8, once for reading forwards and once for
-- reading backwards; its size is counted in bytes.
def fits (expression : Expression) : Bool :=
  let within (measure : Measure) : Bool := expression.size measure + frameSize ≤ greatestSize
  within Measure.unshared || (within Measure.forward && within Measure.backward)

end Expression

end TextGrammar.Pattern
