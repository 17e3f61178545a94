set_option autoImplicit false

namespace TextGrammar.Utf8

-- Which byte the malformed character begins at and, unless the bytes merely end too early, how many
-- bytes from there on cannot be part of any character.
inductive Fault where
  | malformed (index length : Nat)
  | incomplete (index : Nat)
deriving DecidableEq, Repr

def Fault.message : Fault → String
  | malformed index length =>
      "invalid utf-8 sequence of " ++ toString length ++ " bytes from index " ++ toString index
  | incomplete index => "incomplete utf-8 byte sequence from index " ++ toString index

-- What may stand behind a leading byte: the number of continuation bytes, and the bounds of the
-- first of them. The bounds keep out longer forms than needed, surrogates and too large numbers.
def expected (byte : UInt8) : Option (Nat × UInt8 × UInt8) :=
  if 0xC2 ≤ byte ∧ byte ≤ 0xDF then some (1, 0x80, 0xBF)
  else if byte = 0xE0 then some (2, 0xA0, 0xBF)
  else if byte = 0xED then some (2, 0x80, 0x9F)
  else if 0xE1 ≤ byte ∧ byte ≤ 0xEF then some (2, 0x80, 0xBF)
  else if byte = 0xF0 then some (3, 0x90, 0xBF)
  else if byte = 0xF4 then some (3, 0x80, 0x8F)
  else if 0xF1 ≤ byte ∧ byte ≤ 0xF3 then some (3, 0x80, 0xBF)
  else none

def leadingBits (byte : UInt8) (tail : Nat) : Nat := byte.toNat % (64 >>> tail)

structure Pending where
  start : Nat
  value : Nat
  due : Nat
  low : UInt8
  high : UInt8

def decodeFrom (index : Nat) (pending : Option Pending) (done : List Char) :
    List UInt8 → Except Fault (List Char)
  | [] =>
      match pending with
      | none => .ok done.reverse
      | some character => .error (.incomplete character.start)
  | byte :: rest =>
      match pending with
      | none =>
          if byte < 0x80 then decodeFrom (index + 1) none (Char.ofNat byte.toNat :: done) rest
          else
            match expected byte with
            | none => .error (.malformed index 1)
            | some (due, low, high) =>
                let character := ⟨index, leadingBits byte due, due, low, high⟩
                decodeFrom (index + 1) (some character) done rest
      | some ⟨start, value, due, low, high⟩ =>
          if low ≤ byte ∧ byte ≤ high then
            let value := 64 * value + byte.toNat % 64
            if due ≤ 1 then decodeFrom (index + 1) none (Char.ofNat value :: done) rest
            else decodeFrom (index + 1) (some ⟨start, value, due - 1, 0x80, 0xBF⟩) done rest
          else .error (.malformed start (index - start))

def decode (bytes : List UInt8) : Except Fault (List Char) := decodeFrom 0 none [] bytes

end TextGrammar.Utf8
