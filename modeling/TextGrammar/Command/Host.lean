import TextGrammar.Command.Files

set_option autoImplicit false

namespace TextGrammar

class Host (m : Type → Type) where
  isPresent : String → m Bool
  read : String → m (Except FileFault (List UInt8))
  write : String → String → m (Except FileFault Unit)
  print : String → m Unit
  input : m (List UInt8)

structure World (Place : Type) where
  disk : Disk Place
  input : List UInt8
  output : String

namespace World

variable {Place : Type}

def write [DecidableEq Place] (world : World Place) (path text : String) :
    Except FileFault Unit × World Place :=
  match world.disk.write path text with
  | .error fault => (.error fault, world)
  | .ok disk => (.ok (), { world with disk := disk })

def print (world : World Place) (text : String) : World Place :=
  { world with output := world.output ++ text }

end World

instance {Place : Type} [DecidableEq Place] : Host (StateM (World Place)) where
  isPresent path := fun world => (world.disk.isPresent path, world)
  read path := fun world => (world.disk.read path, world)
  write path text := fun world => world.write path text
  print text := fun world => ((), world.print text)
  input := fun world => (world.input, { world with input := [] })

end TextGrammar
