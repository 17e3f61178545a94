set_option autoImplicit false

namespace TextGrammar.Decimal

inductive Fault where
  | empty
  | notADigit
  | tooLarge
deriving DecidableEq, Repr

def Fault.message : Fault → String
  | empty => "cannot parse integer from empty string"
  | notADigit => "invalid digit found in string"
  | tooLarge => "number too large to fit in target type"

def bound : Nat := UInt64.size

-- Reads digits from the left; the first one that is none, or that makes the number too large, is
-- the fault.
def readDigits (value : Nat) : List Char → Except Fault Nat
  | [] => .ok value
  | c :: rest =>
      if !c.isDigit then .error .notADigit
      else
        let next := 10 * value + (c.toNat - '0'.toNat)
        if next < bound then readDigits next rest else .error .tooLarge

def read (text : String) : Except Fault Nat :=
  match text.toList with
  | [] => .error .empty
  | ['+'] => .error .notADigit
  | '+' :: digits => readDigits 0 digits
  | digits => readDigits 0 digits

end TextGrammar.Decimal
