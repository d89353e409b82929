import RegistryRelay.Bench.Report
import RegistryRelay.Pool.Interleaving
import RegistryRelay.Relay.Interleaving
import RegistryRelay.Proofs.Pool.Slots
import RegistryRelay.Proofs.Pool.Visits
import RegistryRelay.Proofs.Pool.Leaks
import RegistryRelay.Proofs.Relay.Transition
import RegistryRelay.Proofs.Relay.Advance
import RegistryRelay.Proofs.Relay.Presence
import RegistryRelay.Proofs.Relay.Closing
import RegistryRelay.Proofs.Relay.Accounting
import RegistryRelay.Proofs.Relay.Onward
import RegistryRelay.Proofs.Relay.Creation
import RegistryRelay.Proofs.Relay.Convergence
import RegistryRelay.Proofs.Relay.Ownership
import RegistryRelay.Proofs.Bench.Journal
import RegistryRelay.Proofs.Bench.Solo
import RegistryRelay.Proofs.Relay.Ignoring
import RegistryRelay.Proofs.Bench.Keeping
import RegistryRelay.Proofs.Bench.Progress
import RegistryRelay.Proofs.Bench.Sequence
import RegistryRelay.Proofs.Bench.Delivery
import RegistryRelay.Proofs.Bench.Teardown
import RegistryRelay.Proofs.Relay.Reporting
import RegistryRelay.Proofs.Relay.Faithful
import RegistryRelay.Proofs.Relay.Confinement
import RegistryRelay.Proofs.Relay.Configs
import RegistryRelay.Proofs.Relay.Twins
import RegistryRelay.Proofs.Bench.Acts
import RegistryRelay.Proofs.Bench.Twins
import RegistryRelay.Proofs.Bench.Secrecy
import RegistryRelay.Proofs.Bench.Dropping
import RegistryRelay.Proofs.Directory.Archive
import RegistryRelay.Proofs.Settings.Lexing
import RegistryRelay.Proofs.Settings.Writing
import RegistryRelay.Proofs.Inventory.Grammar
import RegistryRelay.Proofs.Inventory.Reading
import RegistryRelay.Proofs.Inventory.Acceptance
import RegistryRelay.Proofs.Keys.Material
import RegistryRelay.Proofs.Settings.Escaping
import RegistryRelay.Proofs.Relay.Turns
import RegistryRelay.Proofs.Bench.Signals
import RegistryRelay.Proofs.Topic.Slicing
import RegistryRelay.Proofs.Topic.Echo
import RegistryRelay.Proofs.Settings.Separation
import RegistryRelay.Proofs.Bench.Separation
import RegistryRelay.Proofs.Relay.Setup
import RegistryRelay.Proofs.Bench.Setup
import RegistryRelay.Proofs.Keys.Faults
import RegistryRelay.Proofs.Text.Order
import RegistryRelay.Proofs.Relay.Listing
import RegistryRelay.Proofs.Bench.Publishing
import RegistryRelay.Proofs.Bench.Renaming
import RegistryRelay.Proofs.Bench.Effects
import RegistryRelay.Proofs.Bench.Interchange
import RegistryRelay.Proofs.Bench.Commuting
