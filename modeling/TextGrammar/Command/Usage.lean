set_option autoImplicit false

namespace TextGrammar

def usage : String :=
  "Usage:\n  ygg [options] run <grammar> [input]\n  ygg [options] generate <grammar> [input]\n" ++
  "  ygg [options] disassemble <grammar>\n  ygg [options] compile <grammar> <output.rs>\n" ++
  "  ygg [options] repl <grammar>"

def optionsText : String :=
  "Options:\n" ++
  "  --seed=<n>            Seed the random number generator for reproducible output.\n" ++
  "  --count=<n>           How many members to generate (default: 1).\n" ++
  "  --overwrite           Overwrite the output file of `compile` if it exists.\n" ++
  "  --encoding=<encoding> Encoding of the grammar file: utf-8, latin1 or ascii" ++
  " (default: utf-8).\n" ++
  "  -h, --help            Display this text.\n" ++
  "  -V, --version         Show the current version."

def title : String := "YGG (Yet-another Grammar Grammar)"

def version : String := "0.1.0"

def misuseText : String := usage ++ "\n\nRun `ygg --help` for the list of options.\n"

end TextGrammar
