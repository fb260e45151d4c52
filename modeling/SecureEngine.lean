import SecureEngine.Configuration.Reader
import SecureEngine.Emulator.Device
import SecureEngine.Session.She
import SecureEngine.Proofs.Course
import SecureEngine.Proofs.DispatchTable
import SecureEngine.Proofs.HandleTable
import SecureEngine.Proofs.Closing
import SecureEngine.Proofs.Teardown
import SecureEngine.Proofs.Framing
import SecureEngine.Proofs.ObjectTree
import SecureEngine.Proofs.Handlers
import SecureEngine.Proofs.Exchanges
import SecureEngine.Proofs.Delivery
import SecureEngine.Proofs.Reachability
import SecureEngine.Proofs.Agreement
import SecureEngine.Proofs.Lifetime
import SecureEngine.Proofs.Damage
import SecureEngine.Proofs.Placement
import SecureEngine.Proofs.PreparedRequests
import SecureEngine.Proofs.Conversation
import SecureEngine.Proofs.Accesses
import SecureEngine.Proofs.Registrations
import SecureEngine.Proofs.Serving
import SecureEngine.Proofs.Transparency
import SecureEngine.Proofs.Commitment
import SecureEngine.Proofs.Outcomes
import SecureEngine.Proofs.Requests
import SecureEngine.Proofs.Failures
import SecureEngine.Proofs.KeyStores
import SecureEngine.Proofs.Orderly
import SecureEngine.Proofs.KeyAccess
import SecureEngine.Proofs.KeyChanges
import SecureEngine.Proofs.KeyContents
import SecureEngine.Proofs.PermanentKeys
import SecureEngine.Proofs.HandleLedger
import SecureEngine.Proofs.StaleHandles
import SecureEngine.Proofs.AddressSums
import SecureEngine.Proofs.Robustness
import SecureEngine.Proofs.PendingServices
import SecureEngine.Proofs.BareRequests
import SecureEngine.Proofs.Recording
import SecureEngine.Proofs.Refusals
import SecureEngine.Proofs.Bootstrap
import SecureEngine.Proofs.Capacity
import SecureEngine.Proofs.Isolation
import SecureEngine.Proofs.Residue
import SecureEngine.Proofs.Integrity
import SecureEngine.Proofs.Truncation
import SecureEngine.Proofs.Gating
import SecureEngine.Proofs.Layouts
import SecureEngine.Proofs.Decryption
import SecureEngine.Proofs.Flavors
import SecureEngine.Proofs.Room
import SecureEngine.Proofs.Operative
import SecureEngine.Proofs.Ciphers
import SecureEngine.Proofs.Macs
import SecureEngine.Proofs.SheMacs
import SecureEngine.Proofs.SigningLayouts
import SecureEngine.Proofs.Signatures
import SecureEngine.Proofs.OutputRoom
import SecureEngine.Proofs.SizeChecks
import SecureEngine.Proofs.ReportedSizes
import SecureEngine.Proofs.Descriptions
import SecureEngine.Proofs.Cascade
import SecureEngine.Proofs.Insertion
import SecureEngine.Proofs.WrappedKeys
import SecureEngine.Proofs.FailureCodes
import SecureEngine.Proofs.NewestFirst
import SecureEngine.Proofs.Occupancy
import SecureEngine.Proofs.UsableConfigurations
import SecureEngine.Proofs.SheKeys
import SecureEngine.Proofs.Mismatches
import SecureEngine.Proofs.AddressForms
