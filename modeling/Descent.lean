import Descent.Main
import Descent.Result.Document
import Descent.Grammar.RuleTable
import Descent.Session
import Descent.Trace.Document
import Descent.Value.Json
import Descent.Proofs.Stalling
import Descent.Proofs.Confined
import Descent.Proofs.Position
import Descent.Proofs.Labels
import Descent.Proofs.Translation
import Descent.Proofs.Commitment
import Descent.Proofs.Probes
import Descent.Proofs.Rereading
import Descent.Proofs.Attempts
import Descent.Proofs.Congruence
import Descent.Proofs.Desugaring
import Descent.Proofs.Calls
import Descent.Proofs.LeftRecursion
import Descent.Proofs.Termination
import Descent.Proofs.Braces.Commands
import Descent.Proofs.Braces.Documents
import Descent.Proofs.Offsets
import Descent.Proofs.Rollback
import Descent.Proofs.Verbatim
import Descent.Proofs.Spans
import Descent.Proofs.Limits
import Descent.Proofs.SeparatedLists
import Descent.Proofs.Alternatives
import Descent.Proofs.Literals
import Descent.Proofs.LiteralLists
import Descent.Proofs.Patterns.Anchoring
import Descent.Proofs.CharacterLoops
import Descent.Proofs.Resumption
import Descent.Proofs.Reports
import Descent.Proofs.StateDocuments
