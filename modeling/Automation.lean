import Automation.Main
import Automation.Run.Rehearsal
import Automation.Run.Workers
import Automation.Proofs.Reach
import Automation.Proofs.Recursion
import Automation.Proofs.Once
import Automation.Proofs.Turns
import Automation.Proofs.Lifecycle
import Automation.Proofs.Writable
import Automation.Proofs.Reading
import Automation.Proofs.Stores
import Automation.Proofs.Completion
import Automation.Proofs.Contract
import Automation.Proofs.Interleaving
import Automation.Proofs.OneWay
import Automation.Proofs.Activity
import Automation.Proofs.Isolation
import Automation.Proofs.Substitution
import Automation.Proofs.Digits
import Automation.Proofs.RoundTrip
import Automation.Proofs.Forwarding
import Automation.Proofs.LogTrail
import Automation.Proofs.Lockstep
import Automation.Proofs.LogFailure
import Automation.Proofs.Provenance
import Automation.Proofs.Naming
import Automation.Proofs.Steering
import Automation.Proofs.Warnings
import Automation.Proofs.Rearrangement
import Automation.Proofs.Documents
import Automation.Proofs.Spelling
import Automation.Proofs.Traffic
import Automation.Proofs.Acceptance
import Automation.Proofs.Quiescence
import Automation.Proofs.Paths
import Automation.Proofs.Untouched
import Automation.Proofs.Registry
import Automation.Proofs.Archive
import Automation.Proofs.Operands
import Automation.Proofs.Comparison
import Automation.Proofs.IntegerText
import Automation.Proofs.Headers
import Automation.Proofs.HttpNode
import Automation.Proofs.Client
import Automation.Proofs.Validity
import Automation.Proofs.Spans
import Automation.Proofs.Overlap
import Automation.Proofs.ConfigRules
