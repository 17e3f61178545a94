import TextGrammar.Pattern.Bracket

set_option autoImplicit false

namespace TextGrammar.Pattern

structure Part where
  expression : Expression
  depth : Nat
  repeatable : Bool
deriving Repr

-- What was read before a group that is still open, and the options to go back to behind it.
structure Enclosing where
  branches : List Part
  parts : List Part
  captured : Bool
  flags : Flags
deriving Repr

-- A pattern read in part. Finished branches of the innermost group and the parts of its last branch
-- are kept latest first.
structure Reading where
  rest : List Char
  flags : Flags
  names : List String
  branches : List Part
  parts : List Part
  outer : List Enclosing
deriving Repr

def deepest (parts : List Part) : Nat := parts.foldl (fun depth part => max depth part.depth) 0

def sequenceOf (parts : List Part) : Part :=
  match parts with
  | [] => ⟨.empty, 0, false⟩
  | [part] => part
  | parts => ⟨.sequence (parts.reverse.map Part.expression), deepest parts + 1, true⟩

def choiceOf (branches : List Part) : Part :=
  match branches with
  | [] => ⟨.empty, 0, false⟩
  | [branch] => branch
  | branches => ⟨.choice (branches.reverse.map Part.expression), deepest branches + 1, true⟩

namespace Reading

def content (reading : Reading) : Part := choiceOf (sequenceOf reading.parts :: reading.branches)

def push (reading : Reading) (part : Part) (rest : List Char) : Reading :=
  { reading with parts := part :: reading.parts, rest }

def pushExpression (reading : Reading) (expression : Expression) (depth : Nat)
    (rest : List Char) : Reading :=
  reading.push ⟨expression, depth, true⟩ rest

end Reading

def literalExpression (flags : Flags) (point : Nat) (raw : Bool) : Except Fault Expression :=
  if raw && !flags.unicode && 0x7F < point then malformed
  else if flags.unicode || point ≤ 0x7F then .ok (.one (foldCase flags (CodePoints.single point)))
  else .ok (.one (CodePoints.single point))

def primitiveExpression (flags : Flags) : Primitive → Except Fault Expression
  | .literal point raw => literalExpression flags point raw
  | .set set => .ok (.one set)
  | .look look => .ok (.look look)

def dotExpression (flags : Flags) : Except Fault Expression :=
  if !flags.unicode then malformed
  else if flags.dotAll then .ok (.one CodePoints.all)
  else if flags.anyLineEnd then .ok (.one (CodePoints.complement [(0x0A, 0x0A), (0x0D, 0x0D)]))
  else .ok (.one (CodePoints.complement [(0x0A, 0x0A)]))

def startLook (flags : Flags) : Look :=
  if !flags.multiLine then .textStart else if flags.anyLineEnd then .anyLineStart else .lineStart

def stopLook (flags : Flags) : Look :=
  if !flags.multiLine then .textStop else if flags.anyLineEnd then .anyLineStop else .lineStop

def Reading.repeatLast (reading : Reading) (least : Nat) (most : Option Nat) (rest : List Char) :
    Except Fault Reading :=
  match reading.parts with
  | part :: parts =>
      if part.repeatable then
        let repeated := ⟨Expression.between least most part.expression, part.depth + 1, true⟩
        .ok { reading with parts := repeated :: parts, rest }
      else malformed
  | [] => malformed

def dropLazyMark : List Char → List Char
  | '?' :: rest => rest
  | rest => rest

def scanBounds (flags : Flags) (chars : List Char) :
    Except Fault ((Nat × Option Nat) × List Char) := do
  let (least, rest) ← scanDecimal flags (skip flags chars)
  match rest with
  | '\x7d' :: rest => .ok ((least, some least), dropLazyMark (skip flags rest))
  | ',' :: rest =>
      match skip flags rest with
      | '\x7d' :: rest => .ok ((least, none), dropLazyMark (skip flags rest))
      | rest => do
          let (most, rest) ← scanDecimal flags rest
          match rest with
          | '\x7d' :: rest =>
              if least ≤ most then .ok ((least, some most), dropLazyMark (skip flags rest))
              else malformed
          | _ => malformed
  | _ => malformed

def optionLetters : List Char := ['i', 'm', 's', 'U', 'u', 'R', 'x']

-- Sets the option of a letter. The letter U, which swaps the preference of repetitions, has no
-- effect on whether a pattern matches.
def Flags.set (flags : Flags) (letter : Char) (on : Bool) : Flags :=
  match letter with
  | 'i' => { flags with ignoreCase := on }
  | 'm' => { flags with multiLine := on }
  | 's' => { flags with dotAll := on }
  | 'u' => { flags with unicode := on }
  | 'R' => { flags with anyLineEnd := on }
  | 'x' => { flags with verbose := on }
  | _ => flags

-- Option letters up to a colon or a closing bracket. Each letter stands at most once; a hyphen
-- switches those behind it off. `seen` holds what was read, the latest first.
def scanOptions (seen : List Char) : List Char → Except Fault (List Char × List Char)
  | [] => malformed
  | c :: rest =>
      if c = ':' ∨ c = ')' then
        if seen.head? = some '-' then malformed else .ok (seen.reverse, c :: rest)
      else if seen.contains c then malformed
      else if c = '-' ∨ optionLetters.contains c then scanOptions (c :: seen) rest
      else malformed

def applyOptions (flags : Flags) (letters : List Char) : Flags :=
  let on := letters.takeWhile (· != '-')
  let off := (letters.dropWhile (· != '-')).drop 1
  let flags := on.foldl (fun flags letter => flags.set letter true) flags
  off.foldl (fun flags letter => flags.set letter false) flags

def isNameStart (c : Char) : Bool := c == '_' || Unicode.alphabetic.contains c.toNat

def isNamePart (c : Char) : Bool :=
  isNameStart c || ['.', '[', ']'].contains c || Unicode.numeric.contains c.toNat

def scanGroupName (chars : List Char) : Except Fault (String × List Char) :=
  let name := chars.takeWhile (· != '>')
  match name, chars.dropWhile (· != '>') with
  | c :: _, _ :: rest =>
      if isNameStart c && name.all isNamePart then .ok (String.ofList name, rest) else malformed
  | _, _ => malformed

namespace Reading

def openGroup (reading : Reading) (captured : Bool) (flags : Flags) (rest : List Char) : Reading :=
  { reading with
    rest, flags, branches := [], parts := [],
    outer := ⟨reading.branches, reading.parts, captured, reading.flags⟩ :: reading.outer }

def openNamedGroup (reading : Reading) (chars : List Char) : Except Fault Reading := do
  let (name, rest) ← scanGroupName chars
  if reading.names.contains name then malformed
  else .ok ({ reading with names := name :: reading.names }.openGroup true reading.flags rest)

-- What follows the opening bracket of a group. Assertions about the surrounding text are not
-- supported.
def startGroup (reading : Reading) (chars : List Char) : Except Fault Reading :=
  match chars with
  | '?' :: '=' :: _ => malformed
  | '?' :: '!' :: _ => malformed
  | '?' :: '<' :: '=' :: _ => malformed
  | '?' :: '<' :: '!' :: _ => malformed
  | '?' :: 'P' :: '<' :: rest => reading.openNamedGroup rest
  | '?' :: '<' :: rest => reading.openNamedGroup rest
  | '?' :: rest => do
      let (letters, rest) ← scanOptions [] rest
      let flags := applyOptions reading.flags letters
      match rest with
      | ':' :: rest => .ok (reading.openGroup false flags rest)
      | _ =>
          if letters.isEmpty then malformed
          else .ok ({ reading with flags }.push ⟨.empty, 0, false⟩ (rest.drop 1))
  | rest => .ok (reading.openGroup true reading.flags rest)

def closeGroup (reading : Reading) (rest : List Char) : Except Fault Reading :=
  match reading.outer with
  | [] => malformed
  | enclosing :: outer =>
      let content := reading.content
      let expression :=
        if enclosing.captured then Expression.captured content.expression else content.expression
      .ok ⟨rest, enclosing.flags, reading.names, enclosing.branches,
        ⟨expression, content.depth + 1, true⟩ :: enclosing.parts, outer⟩

def step (reading : Reading) (c : Char) (rest : List Char) : Except Fault Reading :=
  let flags := reading.flags
  match c with
  | '(' => reading.startGroup (skip flags rest)
  | ')' => reading.closeGroup rest
  | '|' =>
      .ok { reading with
        branches := sequenceOf reading.parts :: reading.branches, parts := [], rest }
  | '[' => do
      let (nested, rest) ← scanClass flags rest
      .ok (reading.pushExpression (.one nested.set) nested.depth rest)
  | '?' => reading.repeatLast 0 (some 1) (dropLazyMark rest)
  | '*' => reading.repeatLast 0 none (dropLazyMark rest)
  | '+' => reading.repeatLast 1 none (dropLazyMark rest)
  | '\x7b' => do
      let ((least, most), rest) ← scanBounds flags rest
      reading.repeatLast least most rest
  | '\\' => do
      let (primitive, rest) ← scanEscape flags rest
      let expression ← primitiveExpression flags primitive
      .ok (reading.pushExpression expression 0 rest)
  | '.' => do
      let expression ← dotExpression flags
      .ok (reading.pushExpression expression 0 rest)
  | '^' => .ok (reading.pushExpression (.look (startLook flags)) 0 rest)
  | '$' => .ok (reading.pushExpression (.look (stopLook flags)) 0 rest)
  | c => do
      let expression ← literalExpression flags c.toNat false
      .ok (reading.pushExpression expression 0 rest)

-- Reads to the end. Each round reads at least one character.
def run : Nat → Reading → Except Fault Part
  | rounds, reading =>
      match skip reading.flags reading.rest with
      | [] => if reading.outer.isEmpty then .ok reading.content else malformed
      | c :: rest =>
          match rounds with
          | 0 => malformed
          | rounds + 1 => do
              let next ← reading.step c rest
              next.run rounds

end Reading

def greatestDepth : Nat := 250

def Expression.read (text : String) : Except Fault Expression := do
  let start : Reading := ⟨text.toList, Flags.mk false false false true false false, [], [], [], []⟩
  let whole ← start.run text.length
  if whole.depth ≤ greatestDepth then .ok whole.expression else malformed

end TextGrammar.Pattern
