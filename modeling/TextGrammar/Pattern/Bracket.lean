import TextGrammar.Pattern.Scan

set_option autoImplicit false

namespace TextGrammar.Pattern

structure Nested where
  set : CodePoints
  depth : Nat
deriving Repr

structure Items where
  set : CodePoints
  count : Nat
  depth : Nat
deriving Repr

namespace Items

def empty : Items := ⟨[], 0, 0⟩

def add (items : Items) (set : CodePoints) (depth : Nat) : Items :=
  ⟨items.set.union set, items.count + 1, max items.depth depth⟩

def nested (items : Items) : Nested :=
  ⟨items.set, if items.count < 2 then items.depth else items.depth + 1⟩

end Items

inductive SetOperator where
  | intersection
  | difference
  | symmetricDifference
deriving DecidableEq, Repr

def SetOperator.apply : SetOperator → CodePoints → CodePoints → CodePoints
  | intersection => CodePoints.intersection
  | difference => CodePoints.difference
  | symmetricDifference => CodePoints.symmetricDifference

def combine (flags : Flags) (left : Option (SetOperator × Nested)) (items : Items) : Nested :=
  let right := items.nested
  match left with
  | none => right
  | some (operator, left) =>
      ⟨operator.apply (foldCase flags left.set) (foldCase flags right.set),
        max left.depth right.depth + 1⟩

def posixClass? : String → Option CodePoints
  | "alnum" => some [(0x30, 0x39), (0x41, 0x5A), (0x61, 0x7A)]
  | "alpha" => some [(0x41, 0x5A), (0x61, 0x7A)]
  | "ascii" => some [(0x00, 0x7F)]
  | "blank" => some [(0x09, 0x09), (0x20, 0x20)]
  | "cntrl" => some [(0x00, 0x1F), (0x7F, 0x7F)]
  | "digit" => some [(0x30, 0x39)]
  | "graph" => some [(0x21, 0x7E)]
  | "lower" => some [(0x61, 0x7A)]
  | "print" => some [(0x20, 0x7E)]
  | "punct" => some [(0x21, 0x2F), (0x3A, 0x40), (0x5B, 0x60), (0x7B, 0x7E)]
  | "space" => some [(0x09, 0x0D), (0x20, 0x20)]
  | "upper" => some [(0x41, 0x5A)]
  | "word" => some asciiWordPoints
  | "xdigit" => some [(0x30, 0x39), (0x41, 0x46), (0x61, 0x66)]
  | _ => none

-- A POSIX class behind its opening bracket. What is none of them is read as a nested class.
def scanPosix? : List Char → Option (Bool × CodePoints × List Char)
  | ':' :: rest =>
      let (negated, rest) := match rest with
        | '^' :: rest => (true, rest)
        | rest => (false, rest)
      let name := rest.takeWhile (· != ':')
      match rest.dropWhile (· != ':'), posixClass? (String.ofList name) with
      | ':' :: ']' :: rest, some set => some (negated, set, rest)
      | _, _ => none
  | _ => none

def scanClassItem (flags : Flags) : List Char → Except Fault (Primitive × List Char)
  | [] => malformed
  | '\\' :: rest => scanEscape flags rest
  | c :: rest => .ok (.literal c.toNat false, rest)

def classPoint (flags : Flags) : Primitive → Except Fault Nat
  | .literal point _ => if flags.unicode || point ≤ 0x7F then .ok point else malformed
  | _ => malformed

-- The character behind the next one, blanks and the sign of one comment left out in a verbose
-- pattern.
def peekBehind (flags : Flags) (chars : List Char) : Option Char :=
  let behind := chars.drop 1
  if flags.verbose then
    match behind.dropWhile isSpace with
    | '#' :: rest => (rest.dropWhile isSpace).head?
    | rest => rest.head?
  else behind.head?

-- One item, or a range when a hyphen follows that is neither the last character of the class nor
-- the first of an operator.
def scanClassRange (flags : Flags) (chars : List Char) : Except Fault (CodePoints × List Char) := do
  let (first, rest) ← scanClassItem flags chars
  match skip flags rest with
  | [] => malformed
  | c :: rest =>
      let next := peekBehind flags (c :: rest)
      if c != '-' || next == some ']' || next == some '-' then
        match first with
        | .set set => .ok (set, c :: rest)
        | first => do
            let point ← classPoint flags first
            .ok (CodePoints.single point, c :: rest)
      else do
        let (last, rest) ← scanClassItem flags (skip flags rest)
        let first ← classPoint flags first
        let last ← classPoint flags last
        if first ≤ last then .ok ([(first, last)], rest) else malformed

def scanHyphens (flags : Flags) (chars : List Char) : Nat × List Char :=
  let (hyphens, rest) := scanWhile flags (· == '-') chars
  (hyphens.length, rest)

-- Behind an opening bracket: whether the class is negated, and its first items. A closing bracket
-- that stands first is an item.
def openClass (flags : Flags) (chars : List Char) : Except Fault ((Bool × Items) × List Char) :=
  let (negated, rest) := match skip flags chars with
    | '^' :: rest => (true, skip flags rest)
    | rest => (false, rest)
  let (hyphens, rest) := scanHyphens flags rest
  let hyphen := CodePoints.single '-'.toNat
  let items := if hyphens = 0 then Items.empty else ⟨hyphen, hyphens, 0⟩
  match rest with
  | [] => malformed
  | ']' :: rest =>
      if hyphens = 0 then
        match skip flags rest with
        | [] => malformed
        | rest => .ok ((negated, Items.empty.add (CodePoints.single ']'.toNat) 0), rest)
      else .ok ((negated, items), ']' :: rest)
  | rest => .ok ((negated, items), rest)

-- The rest of a class up to its closing bracket. Each round reads at least one character, so
-- `rounds` need not exceed their number.
def scanClassBody (flags : Flags) : Nat → Bool → Option (SetOperator × Nested) → Items →
    List Char → Except Fault (Nested × List Char)
  | 0, _, _, _, _ => malformed
  | rounds + 1, negated, left, items, chars =>
      let next := scanClassBody flags rounds negated left
      let operate (operator : SetOperator) :=
        scanClassBody flags rounds negated (some (operator, combine flags left items)) Items.empty
      match skip flags chars with
      | [] => malformed
      | '[' :: rest =>
          match scanPosix? rest with
          | some (complemented, set, rest) => do
              let set ← finishSet flags complemented set
              next (items.add set 0) rest
          | none => do
              let ((innerNegated, innerItems), rest) ← openClass flags rest
              let (inner, rest) ← scanClassBody flags rounds innerNegated none innerItems rest
              next (items.add inner.set inner.depth) rest
      | ']' :: rest => do
          let whole := combine flags left items
          let set ← finishSet flags negated whole.set
          .ok (⟨set, whole.depth + 1⟩, rest)
      | '&' :: '&' :: rest => operate .intersection rest
      | '-' :: '-' :: rest => operate .difference rest
      | '~' :: '~' :: rest => operate .symmetricDifference rest
      | chars => do
          let (set, rest) ← scanClassRange flags chars
          next (items.add set 0) rest

def scanClass (flags : Flags) (chars : List Char) : Except Fault (Nested × List Char) := do
  let ((negated, items), rest) ← openClass flags chars
  scanClassBody flags rest.length negated none items rest

end TextGrammar.Pattern
