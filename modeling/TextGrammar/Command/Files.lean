set_option autoImplicit false

namespace TextGrammar

inductive FileFault where
  | notFound
  | notADirectory
  | isADirectory
  | nameTooLong
  | permissionDenied
  | other (text : String)
deriving DecidableEq, Repr

def FileFault.message : FileFault → String
  | notFound => "No such file or directory (os error 2)"
  | notADirectory => "Not a directory (os error 20)"
  | isADirectory => "Is a directory (os error 21)"
  | nameTooLong => "File name too long (os error 36)"
  | permissionDenied => "Permission denied (os error 13)"
  | other text => text

inductive Destination (Place : Type) where
  -- A file is here or may be made here, but a fault may keep it from being read or from being written.
  | place (place : Place) (onReading onWriting : Option FileFault)
  -- Neither a file nor a device is here, and no file can be made.
  | other (isPresent : Bool) (onReading onWriting : FileFault)
  -- What is written here is not kept.
  | device (reading : Except FileFault (List UInt8)) (onWriting : Option FileFault)

structure Disk (Place : Type) where
  content : Place → Option (List UInt8)
  destination : String → Destination Place

namespace Disk

variable {Place : Type}

def isPresent (disk : Disk Place) (path : String) : Bool :=
  match disk.destination path with
  | .place place _ _ => (disk.content place).isSome
  | .other isPresent _ _ => isPresent
  | .device _ _ => true

def read (disk : Disk Place) (path : String) : Except FileFault (List UInt8) :=
  match disk.destination path with
  | .other _ fault _ => .error fault
  | .device reading _ => reading
  | .place place fault? _ =>
      match disk.content place, fault? with
      | none, _ => .error .notFound
      | some _, some fault => .error fault
      | some bytes, none => .ok bytes

def put [DecidableEq Place] (disk : Disk Place) (place : Place) (bytes : List UInt8) : Disk Place :=
  { disk with content := fun other => if other = place then some bytes else disk.content other }

-- A file is written as a whole or not at all.
def write [DecidableEq Place] (disk : Disk Place) (path text : String) :
    Except FileFault (Disk Place) :=
  match disk.destination path with
  | .other _ _ fault => .error fault
  | .device _ (some fault) => .error fault
  | .device _ none => .ok disk
  | .place _ _ (some fault) => .error fault
  | .place place _ none => .ok (disk.put place text.toUTF8.data.toList)

end Disk

end TextGrammar
