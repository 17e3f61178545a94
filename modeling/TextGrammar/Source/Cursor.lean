import TextGrammar.Symbol

set_option autoImplicit false

namespace TextGrammar

def utf8Length (chars : List Char) : Nat :=
  chars.foldr (fun c length => c.utf8Size + length) 0

-- The characters behind the place are kept latest first.
structure Cursor where
  behind : List Char
  ahead : List Char
  offset : Nat
deriving DecidableEq, Repr

namespace Cursor

def ofString (source : String) : Cursor := ⟨[], source.toList, 0⟩

def source (cursor : Cursor) : String := String.ofList (cursor.behind.reverse ++ cursor.ahead)

def rest (cursor : Cursor) : String := String.ofList cursor.ahead

def atEnd (cursor : Cursor) : Bool := cursor.ahead.isEmpty

def peek (cursor : Cursor) : Option Char := cursor.ahead.head?

def last (cursor : Cursor) : Nat → Option Char
  | 0 => none
  | back + 1 => cursor.behind[back]?

def since (cursor earlier : Cursor) : String :=
  String.ofList (cursor.behind.take (cursor.behind.length - earlier.behind.length)).reverse

def pass (cursor : Cursor) (taken left : List Char) : Cursor :=
  ⟨taken.reverse ++ cursor.behind, left, cursor.offset + utf8Length taken⟩

def advance (cursor : Cursor) : Option Char × Cursor :=
  match cursor.ahead with
  | [] => (none, cursor)
  | c :: left => (some c, cursor.pass [c] left)

def finish (cursor : Cursor) : Cursor := cursor.pass cursor.ahead []

def char (cursor : Cursor) (expected : Char) : Option Cursor :=
  match cursor.advance with
  | (some c, next) => if c = expected then some next else none
  | (none, _) => none

def any (cursor : Cursor) (set : List Char) : Option (Char × Cursor) :=
  match cursor.advance with
  | (some c, next) => if set.contains c then some (c, next) else none
  | (none, _) => none

def takeWhile (cursor : Cursor) (test : Char → Bool) : String × Cursor :=
  let taken := cursor.ahead.takeWhile test
  (String.ofList taken, cursor.pass taken (cursor.ahead.dropWhile test))

def takeUntil (cursor : Cursor) (delimiter : Char) : Option (String × Cursor) :=
  let taken := cursor.ahead.takeWhile (· != delimiter)
  match cursor.ahead.dropWhile (· != delimiter) with
  | [] => none
  | _ :: left => some (String.ofList taken, cursor.pass (taken ++ [delimiter]) left)

def text (cursor : Cursor) (expected : String) : Option Cursor :=
  (expected.toList.isPrefixOf? cursor.ahead).map fun left => cursor.pass expected.toList left

-- Consumes the first of the texts that stands ahead, be a later one longer or not.
def firstOf (cursor : Cursor) (texts : List String) : Option (String × Cursor) :=
  texts.findSome? fun expected => (cursor.text expected).map fun next => (expected, next)

def operator (cursor : Cursor) : Option (Operator × Cursor) :=
  match cursor.firstOf Operator.symbols with
  | none => none
  | some (symbol, next) => (Operator.ofSymbol? symbol).map fun operator => (operator, next)

-- The text before the first quote that no escape mark stands directly before, as it is written, and
-- what follows that quote. `escaped` says that an escape mark has just been read.
def splitQuoted (quote : Char) (escaped : Bool) : List Char → Option (List Char × List Char)
  | [] => none
  | c :: left =>
      if c = quote ∧ escaped = false then some ([], left)
      else (splitQuoted quote (c == escapeMark) left).map fun (taken, left) => (c :: taken, left)

def takeQuoted (cursor : Cursor) (quote : Char) : Option (String × Cursor) :=
  (splitQuoted quote false cursor.ahead).map fun (taken, left) =>
    (String.ofList taken, cursor.pass (taken ++ [quote]) left)

end Cursor

end TextGrammar
