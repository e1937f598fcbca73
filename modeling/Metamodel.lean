import Metamodel.Main
import Metamodel.Proofs.Integrity
import Metamodel.Proofs.Refusals
import Metamodel.Proofs.ExactCollection
import Metamodel.Proofs.Dispatch
import Metamodel.Proofs.Causes
import Metamodel.Proofs.Allocation
import Metamodel.Proofs.Ownership
import Metamodel.Proofs.Routes
import Metamodel.Proofs.Metaclasses
import Metamodel.Proofs.Ascent
import Metamodel.Proofs.Footprint
import Metamodel.Proofs.Identification
import Metamodel.Proofs.Tags
import Metamodel.Proofs.Bodies
import Metamodel.Proofs.Transparency
import Metamodel.Proofs.Pinning
import Metamodel.Proofs.Locking
import Metamodel.Proofs.PacedRuns
import Metamodel.Proofs.Program
import Metamodel.Proofs.LateNaming
import Metamodel.Proofs.Thresholds
import Metamodel.Proofs.SlotLayout
import Metamodel.Proofs.Announcements
import Metamodel.Proofs.Environment
import Metamodel.Proofs.BareHeaps
import Metamodel.Proofs.Statistics
import Metamodel.Session.BareHeap
import Metamodel.Session.Script
