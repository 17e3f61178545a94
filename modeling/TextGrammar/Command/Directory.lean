import TextGrammar.Bindings
import TextGrammar.Command.Files

set_option autoImplicit false

namespace TextGrammar

-- Names of files hold a slash where they lie in a directory below.
abbrev Directory := Bindings (List UInt8)

namespace Directory

def splitPath (path : List Char) : List String :=
  let (name, names) := path.foldr
    (fun c (name, names) =>
      if c = '/' then ([], String.ofList name :: names) else (c :: name, names))
    ([], [])
  String.ofList name :: names

def joinPath (names : List String) : String := String.intercalate "/" names

def isBelow (directory : Directory) (path : String) : Bool :=
  directory.names.any fun name => (path ++ "/").toList.isPrefixOf name.toList

def longestName : Nat := 255

-- `place` holds the names down to where the path has led so far, or nothing outside the directory.
def follow (directory : Directory) (place : Option (List String)) :
    List String → Destination String
  | [] => .other true .isADirectory .isADirectory
  | name :: rest =>
      if name = "" ∨ name = "." then follow directory place rest
      else if name = ".." then
        match place with
        | none => follow directory none rest
        | some [] => follow directory none rest
        | some names => follow directory (some names.dropLast) rest
      else if longestName < name.utf8ByteSize then .other false .nameTooLong .nameTooLong
      else
        match place with
        | none => .other false .notFound .notFound
        | some names =>
            let names := names ++ [name]
            match directory.get? (joinPath names) with
            | some _ =>
                if rest.isEmpty then .place (joinPath names) none none
                else if rest.all (· == "") then .other false .notADirectory .isADirectory
                else .other false .notADirectory .notADirectory
            | none =>
                if directory.isBelow (joinPath names) then follow directory (some names) rest
                else if rest.isEmpty then .place (joinPath names) none none
                else if rest.all (· == "") then .other false .notFound .isADirectory
                else .other false .notFound .notFound

def locate (directory : Directory) (path : String) : Destination String :=
  match path.toList with
  | [] => .other false .notFound .notFound
  | '/' :: rest => directory.follow none (splitPath rest)
  | chars => directory.follow (some []) (splitPath chars)

def disk (directory : Directory) : Disk String := ⟨directory.get?, directory.locate⟩

end Directory

end TextGrammar
