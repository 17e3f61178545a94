import TextGrammar.Pattern.Expression
import TextGrammar.Pattern.Fault
import TextGrammar.Unicode.CaseFolding
import TextGrammar.Unicode.Class
import TextGrammar.Unicode.Query

set_option autoImplicit false

namespace TextGrammar.Pattern

def malformed {α : Type} : Except Fault α := .error .malformed

-- The options in force at a place of a pattern. Without `unicode`, character sets are sets of
-- bytes, and only those within ASCII are allowed.
structure Flags where
  ignoreCase : Bool := false
  multiLine : Bool := false
  dotAll : Bool := false
  unicode : Bool := true
  anyLineEnd : Bool := false
  verbose : Bool := false
deriving DecidableEq, Repr

def isSpace (c : Char) : Bool := Unicode.whiteSpace.contains c.toNat

def dropBlank (inComment : Bool) : List Char → List Char
  | [] => []
  | c :: rest =>
      if inComment then dropBlank (c != '\n') rest
      else if isSpace c then dropBlank false rest
      else if c = '#' then dropBlank true rest
      else c :: rest

def skip (flags : Flags) (chars : List Char) : List Char :=
  if flags.verbose then dropBlank false chars else chars

-- A run of characters that pass the test, with what may be skipped behind each.
def scanRun (flags : Flags) (test : Char → Bool) : Nat → List Char → List Char × List Char
  | count + 1, c :: rest =>
      if test c then
        let (run, rest) := scanRun flags test count (skip flags rest)
        (c :: run, rest)
      else ([], c :: rest)
  | _, chars => ([], chars)

def scanWhile (flags : Flags) (test : Char → Bool) (chars : List Char) : List Char × List Char :=
  scanRun flags test chars.length chars

def decimalValue (digits : List Char) : Nat :=
  digits.foldl (fun value c => 10 * value + (c.toNat - 48)) 0

def scanDecimal (flags : Flags) (chars : List Char) : Except Fault (Nat × List Char) :=
  let (digits, rest) := scanWhile flags Char.isDigit (chars.dropWhile isSpace)
  let value := decimalValue digits
  if digits.isEmpty || UInt32.size ≤ value then malformed
  else .ok (value, skip flags (rest.dropWhile isSpace))

-- A character or a class of characters as one item of a pattern. A literal is `raw` when it was
-- written as two hexadecimal digits, which outside Unicode mean a byte.
inductive Primitive where
  | literal (point : Nat) (raw : Bool)
  | set (points : CodePoints)
  | look (look : Look)
deriving Repr

def isHexDigit (c : Char) : Bool := c.isDigit || ('a' ≤ c && c ≤ 'f') || ('A' ≤ c && c ≤ 'F')

def charValue? (digits : List Char) : Option Nat :=
  let value := CodePoints.hexValue (digits.map Char.toUpper)
  if value < 0xD800 ∨ 0xDFFF < value ∧ value < 0x110000 then some value else none

def scanHexDigits (flags : Flags) : Nat → List Char → Except Fault (List Char × List Char)
  | 0, chars => .ok ([], chars)
  | _ + 1, [] => malformed
  | count + 1, c :: rest =>
      if isHexDigit c then do
        let (digits, rest) ← scanHexDigits flags count (skip flags rest)
        .ok (c :: digits, rest)
      else malformed

def scanHex (flags : Flags) (count : Nat) (chars : List Char) :
    Except Fault (Primitive × List Char) :=
  match skip flags chars with
  | [] => malformed
  | '\x7b' :: rest =>
      let (digits, rest) := scanWhile flags isHexDigit (skip flags rest)
      match rest, charValue? digits with
      | '\x7d' :: rest, some value =>
          if digits.isEmpty then malformed else .ok (.literal value false, skip flags rest)
      | _, _ => malformed
  | chars => do
      let (digits, rest) ← scanHexDigits flags count chars
      match charValue? digits with
      | some value => .ok (.literal value (count == 2), rest)
      | none => malformed

-- A set of characters as it is allowed to stand: without `unicode` it must lie within ASCII.
def allowed (flags : Flags) (set : CodePoints) : Except Fault CodePoints :=
  if flags.unicode || set.isAscii then .ok set else malformed

def foldCase (flags : Flags) (set : CodePoints) : CodePoints :=
  if !flags.ignoreCase then set
  else if flags.unicode then Unicode.foldCase set
  else Unicode.foldAsciiCase set

-- Folds a set before it is turned into its complement.
def finishSet (flags : Flags) (negated : Bool) (set : CodePoints) : Except Fault CodePoints :=
  let folded := foldCase flags set
  allowed flags (if negated then folded.complement else folded)

def asciiDigits : CodePoints := [(0x30, 0x39)]

def asciiSpaces : CodePoints := [(0x09, 0x0D), (0x20, 0x20)]

def asciiWordPoints : CodePoints := [(0x30, 0x39), (0x41, 0x5A), (0x5F, 0x5F), (0x61, 0x7A)]

def letterClass? (flags : Flags) (letter : Char) : Option (Except Fault CodePoints) :=
  let points := match letter.toLower with
    | 'd' => some (if flags.unicode then Unicode.decimalDigits else asciiDigits)
    | 's' => some (if flags.unicode then Unicode.whiteSpace else asciiSpaces)
    | 'w' => some (if flags.unicode then Unicode.wordPoints else asciiWordPoints)
    | _ => none
  points.map fun points => allowed flags (if letter.isUpper then points.complement else points)

def splitAtMark (mark : List Char) : List Char → Option (List Char × List Char)
  | [] => none
  | c :: rest =>
      match mark.isPrefixOf? (c :: rest) with
      | some behind => some ([], behind)
      | none => (splitAtMark mark rest).map fun (before, behind) => (c :: before, behind)

def propertySet (flags : Flags) (negated : Bool) (name : List Char) : Except Fault CodePoints :=
  let (negated, points) :=
    match splitAtMark ['!', '='] name with
    | some (property, value) => (!negated, Unicode.byValue? property value)
    | none =>
        match (splitAtMark [':'] name).or (splitAtMark ['='] name) with
        | some (property, value) => (negated, Unicode.byValue? property value)
        | none => (negated, Unicode.byName? name)
  match points with
  | some points => if flags.unicode then finishSet flags negated points else malformed
  | none => malformed

def scanProperty (flags : Flags) (negated : Bool) (chars : List Char) :
    Except Fault (Primitive × List Char) :=
  match skip flags chars with
  | [] => malformed
  | '\x7b' :: rest =>
      let (name, rest) := scanWhile flags (· != '\x7d') (skip flags rest)
      match rest with
      | [] => malformed
      | _ :: rest => do
          let set ← propertySet flags negated name
          .ok (.set set, rest)
  | '\\' :: _ => malformed
  | c :: rest => do
      let set ← propertySet flags negated [c]
      .ok (.set set, skip flags rest)

def isWordEdgeChar (c : Char) : Bool := c.isAlpha || c == '-'

-- The assertion behind the letter b. A name in braces tells which edge of a word is meant; braces
-- that cannot hold such a name are left for a repetition.
def scanWordEdge (flags : Flags) (chars : List Char) : Except Fault (Primitive × List Char) :=
  let plain := (Primitive.look (.word .border !flags.unicode), chars)
  match chars with
  | '\x7b' :: rest =>
      match skip flags rest with
      | [] => malformed
      | c :: rest =>
          if isWordEdgeChar c then
            let (name, rest) := scanWhile flags isWordEdgeChar (c :: rest)
            let edge? : Option WordEdge := match String.ofList name with
              | "start" => some .start
              | "end" => some .stop
              | "start-half" => some .startHalf
              | "end-half" => some .stopHalf
              | _ => none
            match rest, edge? with
            | '\x7d' :: rest, some edge => .ok (.look (.word edge !flags.unicode), rest)
            | _, _ => malformed
          else .ok plain
  | _ => .ok plain

def isMeta (c : Char) : Bool :=
  ['\\', '.', '+', '*', '?', '(', ')', '|', '[', ']', '\x7b', '\x7d', '^', '$', '#', '&', '-',
    '~'].contains c

-- Marks and control characters of ASCII stand for themselves behind a backslash, angle brackets
-- excepted.
def isEscapable (c : Char) : Bool :=
  isMeta c || (c.toNat < 0x80 && !c.isAlphanum && c != '<' && c != '>')

def controlEscape? : Char → Option Nat
  | 'a' => some 0x07
  | 'f' => some 0x0C
  | 't' => some 0x09
  | 'n' => some 0x0A
  | 'r' => some 0x0D
  | 'v' => some 0x0B
  | _ => none

def scanEscape (flags : Flags) : List Char → Except Fault (Primitive × List Char)
  | [] => malformed
  | c :: rest =>
      let word (edge : WordEdge) := Primitive.look (.word edge !flags.unicode)
      match c with
      | 'x' => scanHex flags 2 rest
      | 'u' => scanHex flags 4 rest
      | 'U' => scanHex flags 8 rest
      | 'p' => scanProperty flags false rest
      | 'P' => scanProperty flags true rest
      | 'A' => .ok (.look .textStart, rest)
      | 'z' => .ok (.look .textStop, rest)
      | 'b' => scanWordEdge flags rest
      | 'B' => .ok (word .noBorder, rest)
      | '<' => .ok (word .start, rest)
      | '>' => .ok (word .stop, rest)
      | c =>
          match letterClass? flags c, controlEscape? c with
          | some set, _ => set.map fun set => (.set set, rest)
          | none, some point => .ok (.literal point false, rest)
          | none, none => if isEscapable c then .ok (.literal c.toNat false, rest) else malformed

end TextGrammar.Pattern
