import TextGrammar.Command.Files
import TextGrammar.Generator.Error
import TextGrammar.Sampling.Error
import TextGrammar.Text.Decimal
import TextGrammar.Text.Encoding
import TextGrammar.Tree.ReadError

set_option autoImplicit false

namespace TextGrammar

inductive Failure where
  | number (fault : Decimal.Fault)
  | encodingLabel (label : String)
  | outputExists (path : String)
  | file (fault : FileFault)
  | decoding (fault : Utf8.Fault)
  | reading (error : ReadError)
  | sampling (error : SamplingError)
  | compiling (error : CompileError)
  | line (message : String)
deriving DecidableEq, Repr

def Failure.message : Failure → String
  | number fault => fault.message
  | encodingLabel label => Encoding.unknownMessage label
  | outputExists path =>
      "Output file '" ++ path ++ "' already exists (pass --overwrite to replace it)"
  | file fault => fault.message
  | decoding fault => fault.message
  | reading error => error.message
  | sampling error => error.message
  | compiling error => error.message
  | line message => message

end TextGrammar
