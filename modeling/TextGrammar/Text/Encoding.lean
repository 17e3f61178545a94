import TextGrammar.Text.Utf8

set_option autoImplicit false

namespace TextGrammar

inductive Encoding where
  | utf8
  | latin1
  | ascii
deriving DecidableEq, Repr

namespace Encoding

def ofLabel? (label : String) : Option Encoding :=
  match String.ofList (label.toList.map Char.toLower) with
  | "utf-8" => some utf8
  | "utf8" => some utf8
  | "latin1" => some latin1
  | "latin-1" => some latin1
  | "iso-8859-1" => some latin1
  | "binary" => some latin1
  | "ascii" => some ascii
  | "us-ascii" => some ascii
  | _ => none

def unknownMessage (label : String) : String :=
  "Unsupported encoding '" ++ label ++ "' (expected utf-8, latin1 or ascii)"

-- Latin-1 has a character for every byte; of ASCII the low seven bits of each byte are kept.
def decode (encoding : Encoding) (bytes : List UInt8) : Except Utf8.Fault String :=
  match encoding with
  | utf8 => (Utf8.decode bytes).map String.ofList
  | latin1 => .ok (String.ofList (bytes.map fun byte => Char.ofNat byte.toNat))
  | ascii => .ok (String.ofList (bytes.map fun byte => Char.ofNat (byte.toNat % 128)))

end Encoding

end TextGrammar
