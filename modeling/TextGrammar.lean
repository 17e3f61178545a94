import TextGrammar.Command.Directory
import TextGrammar.Main
import TextGrammar.Proofs.Acceptance
import TextGrammar.Proofs.Equivalence
import TextGrammar.Tree.Printer
import TextGrammar.Proofs.Canonical
import TextGrammar.Proofs.Placement
import TextGrammar.Proofs.Viability
import TextGrammar.Proofs.Stepping
import TextGrammar.Proofs.Nesting
import TextGrammar.Proofs.Emission
import TextGrammar.Proofs.DepthLimit
import TextGrammar.Proofs.Offences
import TextGrammar.Proofs.Safety
import TextGrammar.Proofs.RecursionLimit
import TextGrammar.Proofs.SelfReference
import TextGrammar.Proofs.Extension
import TextGrammar.Proofs.CallGraph
import TextGrammar.Proofs.ErrorPlaces
import TextGrammar.Proofs.Decisions
import TextGrammar.Proofs.Formatting
import TextGrammar.Proofs.Inputs
import TextGrammar.Proofs.FileEffects
import TextGrammar.Proofs.Counters
import TextGrammar.Proofs.Occurrences
import TextGrammar.Proofs.Unvisited
import TextGrammar.Proofs.Rebinding
import TextGrammar.Proofs.Grouping
import TextGrammar.Proofs.Origins
import TextGrammar.Proofs.NormalForm
import TextGrammar.Proofs.Folding
import TextGrammar.Proofs.Naming
import TextGrammar.Proofs.Colouring
import TextGrammar.Proofs.Unfinished
import TextGrammar.Proofs.CursorHistory
import TextGrammar.Proofs.Transcoding
import TextGrammar.Proofs.OptionOrder
import TextGrammar.Proofs.Uniformity
import TextGrammar.Proofs.LiteralReading
