import SourceRecovery.Element.Build
import SourceRecovery.Element.Equality
import SourceRecovery.Report
import SourceRecovery.Script
import SourceRecovery.Proofs.Descriptor
import SourceRecovery.Proofs.Depth
import SourceRecovery.Proofs.Handed
import SourceRecovery.Proofs.Selection
import SourceRecovery.Proofs.Inlining
import SourceRecovery.Proofs.Items
import SourceRecovery.Proofs.Delegation
import SourceRecovery.Proofs.Termination
import SourceRecovery.Proofs.Printer
import SourceRecovery.Proofs.Traversal
import SourceRecovery.Proofs.Performed
import SourceRecovery.Proofs.Refinement
import SourceRecovery.Proofs.Registration
import SourceRecovery.Proofs.Refusal
import SourceRecovery.Proofs.Restyled
import SourceRecovery.Proofs.Style
import SourceRecovery.Proofs.Failing
import SourceRecovery.Proofs.Header
import SourceRecovery.Proofs.Fault
import SourceRecovery.Proofs.Idle
import SourceRecovery.Proofs.Host
import SourceRecovery.Proofs.Levels
import SourceRecovery.Proofs.SlotOrder
import SourceRecovery.Proofs.Captured
import SourceRecovery.Proofs.Returning
import SourceRecovery.Proofs.Moved
import SourceRecovery.Proofs.Reordering
import SourceRecovery.Proofs.SlotLookup
import SourceRecovery.Proofs.Recorded
import SourceRecovery.Proofs.Arguments
import SourceRecovery.Proofs.Untouched
import SourceRecovery.Proofs.Statements
import SourceRecovery.Proofs.Boxing
import SourceRecovery.Proofs.Marker
import SourceRecovery.Proofs.Consultation
import SourceRecovery.Proofs.Unbounded
import SourceRecovery.Proofs.InOrder
import SourceRecovery.Proofs.ShortNames
import SourceRecovery.Proofs.Counting
