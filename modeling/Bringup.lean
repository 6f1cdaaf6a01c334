import Bringup.Main
import Bringup.Session
import Bringup.Shutdown
import Bringup.Lifecycle.Threads
import Bringup.Proofs.Completion
import Bringup.Proofs.ReadyGate
import Bringup.Proofs.ExactlyOnce
import Bringup.Proofs.Undisturbed
import Bringup.Proofs.Meanwhile
import Bringup.Proofs.Independence
import Bringup.Proofs.Prospect
import Bringup.Proofs.Serializability
import Bringup.Proofs.Stages
import Bringup.Proofs.Connection
import Bringup.Proofs.Furnishing
import Bringup.Proofs.Overriding
import Bringup.Proofs.Fields
import Bringup.Proofs.Naming
import Bringup.Proofs.Layering
import Bringup.Proofs.Masking
import Bringup.Proofs.Expressing
import Bringup.Proofs.Readout
import Bringup.Proofs.Entries
import Bringup.Proofs.Gauge
import Bringup.Proofs.Course
import Bringup.Proofs.Exporter
import Bringup.Proofs.Accounts
import Bringup.Proofs.Launching
import Bringup.Proofs.Delivery
import Bringup.Proofs.Discretion
import Bringup.Proofs.OperatorView
import Bringup.Lifecycle.Locks
import Bringup.Proofs.Precedence
import Bringup.Proofs.Progress
import Bringup.Proofs.Walking
import Bringup.Proofs.Assurance
import Bringup.Proofs.Retrying
import Bringup.Proofs.Panics
import Bringup.Proofs.Admission
import Bringup.Proofs.Appending
import Bringup.Proofs.Reordering
import Bringup.Proofs.Rules
import Bringup.Proofs.Widths
import Bringup.Proofs.Addressing
import Bringup.Proofs.Fitting
import Bringup.Proofs.Outcomes
import Bringup.Proofs.Secrecy
import Bringup.Proofs.Passes
import Bringup.Proofs.Registry
import Bringup.Proofs.Snapshots
import Bringup.Proofs.Printing
