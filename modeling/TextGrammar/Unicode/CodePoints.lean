set_option autoImplicit false

namespace TextGrammar

-- Ranges in rising order that neither overlap nor touch.
abbrev CodePoints := List (Nat × Nat)

namespace CodePoints

def greatest : Nat := 0x10FFFF

def contains : CodePoints → Nat → Bool
  | [], _ => false
  | (first, last) :: rest, point =>
      if point < first then false else point ≤ last || contains rest point

def join : CodePoints → CodePoints
  | [] => []
  | range :: rest =>
      let rec extend (first last : Nat) : CodePoints → CodePoints
        | [] => [(first, last)]
        | (nextFirst, nextLast) :: rest =>
            if nextFirst ≤ last + 1 then extend first (max last nextLast) rest
            else (first, last) :: extend nextFirst nextLast rest
      extend range.1 range.2 rest

def ofRanges (ranges : List (Nat × Nat)) : CodePoints :=
  join (ranges.mergeSort fun a b => a.1 ≤ b.1)

def single (point : Nat) : CodePoints := [(point, point)]

def all : CodePoints := [(0, greatest)]

def union (a b : CodePoints) : CodePoints := ofRanges (a ++ b)

def gaps (start : Nat) : CodePoints → CodePoints
  | [] => if start ≤ greatest then [(start, greatest)] else []
  | (first, last) :: rest =>
      if start < first then (start, first - 1) :: gaps (last + 1) rest else gaps (last + 1) rest

def complement (set : CodePoints) : CodePoints := gaps 0 set

def intersection (a b : CodePoints) : CodePoints := complement (union (complement a) (complement b))

def difference (a b : CodePoints) : CodePoints := intersection a (complement b)

def symmetricDifference (a b : CodePoints) : CodePoints :=
  difference (union a b) (intersection a b)

def unions (sets : List CodePoints) : CodePoints := ofRanges sets.flatten

def isAscii (set : CodePoints) : Bool := List.all set fun range => range.2 ≤ 0x7F

def digitValue (c : Char) : Nat := if c.isDigit then c.toNat - 48 else c.toNat - 55

def hexValue (digits : List Char) : Nat :=
  digits.foldl (fun value c => 16 * value + digitValue c) 0

def readRange (word : List Char) : Nat × Nat :=
  let first := hexValue (word.takeWhile (· != '-'))
  match word.dropWhile (· != '-') with
  | [] => (first, first)
  | _ :: last => (first, hexValue last)

def splitWords (text : List Char) : List (List Char) :=
  let (word, words) := text.foldr
    (fun c (word, words) =>
      if c = ' ' ∨ c = '\n' then ([], if word.isEmpty then words else word :: words)
      else (c :: word, words))
    ([], [])
  if word.isEmpty then words else word :: words

-- Ranges in hexadecimal with a hyphen between their ends, single code points alone, and blanks in
-- between.
def ofHex (text : String) : CodePoints := (splitWords text.toList).map readRange

end CodePoints

end TextGrammar
