import TextGrammar.Command.Session
import TextGrammar.Pattern.Standard
import TextGrammar.Random.ChaCha

set_option autoImplicit false

namespace TextGrammar.Main

def faultOf : IO.Error → FileFault
  | .noFileOrDirectory .. => .notFound
  | .inappropriateType _ 21 _ => .isADirectory
  | .inappropriateType .. => .notADirectory
  | .permissionDenied .. => .permissionDenied
  | error => .other (toString error)

def attempt {α : Type} (action : IO α) : IO (Except FileFault α) := do
  try
    return .ok (← action)
  catch error =>
    return .error (faultOf error)

instance : Host IO where
  isPresent path := do return (← attempt (IO.FS.realPath path)).isOk
  read path := attempt do return (← IO.FS.readBinFile path).data.toList
  write path text := attempt (IO.FS.writeFile path text)
  print text := IO.print text
  input := do return (← (← IO.getStdin).readBinToEnd).data.toList

def randomSeed : IO UInt64 := do
  let bytes ← IO.getRandomBytes 8
  return bytes.data.foldl (fun seed byte => seed * 256 + byte.toUInt64) 0

end TextGrammar.Main

open TextGrammar TextGrammar.Main

def main (arguments : List String) : IO UInt32 := do
  let coloured ← (← IO.getStdout).isTty
  let surroundings : Surroundings := ⟨Words.seeded, ← randomSeed, LineEvent.ofInput [], coloured⟩
  let exit : Exit ← surroundings.reply arguments
  IO.eprint exit.complaint
  return exit.code.toUInt32
