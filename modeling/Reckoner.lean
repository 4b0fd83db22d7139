import Reckoner.Grammar
import Reckoner.Main
import Reckoner.Token.Layout
import Reckoner.Proofs.Layout
import Reckoner.Proofs.Derivation
import Reckoner.Proofs.Printing
import Reckoner.Proofs.Names
import Reckoner.Proofs.Report
import Reckoner.Proofs.Consistency
import Reckoner.Proofs.Contexts
import Reckoner.Proofs.Definedness
import Reckoner.Proofs.Lookahead
import Reckoner.Proofs.Viability
import Reckoner.Proofs.Concatenation
import Reckoner.Proofs.OutputLine
import Reckoner.Proofs.Culprits
import Reckoner.Proofs.Spacing
import Reckoner.Proofs.LetterCase
import Reckoner.Proofs.Answers
import Reckoner.Proofs.Faults
import Reckoner.Proofs.Trail
import Reckoner.Proofs.Cursor
import Reckoner.Proofs.Extent
import Reckoner.Proofs.FlatSums
import Reckoner.Proofs.Inlining
import Reckoner.Proofs.Exchange
import Reckoner.Proofs.Bindings
import Reckoner.Proofs.Stopping
import Reckoner.Proofs.Renaming
