import TextGrammar.Text.Utf8

set_option autoImplicit false

namespace TextGrammar

inductive LineEvent where
  | line (text : String)
  | interrupted
  | ended
  | failed (message : String)
deriving DecidableEq, Repr

namespace LineEvent

-- The bytes of a line come latest first.
def dropReturn : List UInt8 → List UInt8
  | 13 :: bytes => bytes
  | bytes => bytes

def ofBytes (read : List UInt8) : LineEvent :=
  match Utf8.decode read.reverse with
  | .ok text => .line (String.ofList text)
  | .error _ => .failed "stream did not contain valid UTF-8"

-- What follows the last line feed is a line as it stands, unless it is empty.
def ofInput (read : List UInt8) : List UInt8 → List LineEvent
  | [] => if read.isEmpty then [.ended] else [ofBytes read, .ended]
  | byte :: rest =>
      if byte = 10 then ofBytes (dropReturn read) :: ofInput [] rest
      else ofInput (byte :: read) rest

end LineEvent

end TextGrammar
