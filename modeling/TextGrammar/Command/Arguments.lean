set_option autoImplicit false

namespace TextGrammar

-- Options may stand anywhere; of each only the first occurrence counts.
def takeFirst {α : Type} (test : String → Option α) : List String → Option α × List String
  | [] => (none, [])
  | argument :: rest =>
      match test argument with
      | some value => (some value, rest)
      | none =>
          let (found, others) := takeFirst test rest
          (found, argument :: others)

def isWord (words : List String) (argument : String) : Option Unit :=
  if words.contains argument then some () else none

def valueBehind (beginning argument : String) : Option String :=
  (beginning.toList.isPrefixOf? argument.toList).map String.ofList

structure Arguments where
  version : Bool
  help : Bool
  overwrite : Bool
  seed : Option String
  count : Option String
  encoding : Option String
  operands : List String
deriving DecidableEq, Repr

def versionWords : List String := ["-V", "-v", "--version"]

def helpWords : List String := ["-h", "--help"]

def Arguments.ofList (arguments : List String) : Arguments :=
  let (version, arguments) := takeFirst (isWord versionWords) arguments
  let (help, arguments) := takeFirst (isWord helpWords) arguments
  let (overwrite, arguments) := takeFirst (isWord ["--overwrite"]) arguments
  let (seed, arguments) := takeFirst (valueBehind "--seed=") arguments
  let (count, arguments) := takeFirst (valueBehind "--count=") arguments
  let (encoding, arguments) := takeFirst (valueBehind "--encoding=") arguments
  ⟨version.isSome, help.isSome, overwrite.isSome, seed, count, encoding, arguments⟩

end TextGrammar
