import ComponentWiring.Main
import ComponentWiring.Proofs.Run.Once
import ComponentWiring.Proofs.Run.Acceptance
import ComponentWiring.Proofs.Run.Correspondence
import ComponentWiring.Proofs.Run.Staging
import ComponentWiring.Proofs.Declared.Validity
import ComponentWiring.Proofs.Java.Imports
import ComponentWiring.Proofs.Discovery.Containers
import ComponentWiring.Proofs.Discovery.Presenters
import ComponentWiring.Proofs.Run.Locality
import ComponentWiring.Proofs.Run.News
import ComponentWiring.Proofs.Run.Removal
import ComponentWiring.Proofs.Run.Writable
import ComponentWiring.Proofs.Command.Preview
import ComponentWiring.Proofs.Run.Containment
import ComponentWiring.Proofs.Run.Order
import ComponentWiring.Proofs.Run.References
import ComponentWiring.Proofs.Run.Exclusivity
import ComponentWiring.Proofs.Run.Turns
import ComponentWiring.Proofs.Run.Linking
import ComponentWiring.Proofs.Wiring.Switching
import ComponentWiring.Proofs.Wiring.Lookup
import ComponentWiring.Proofs.Java.Parts
import ComponentWiring.Proofs.Java.Soundness
import ComponentWiring.Proofs.Java.WellFormed
import ComponentWiring.Proofs.Java.Balance
import ComponentWiring.Proofs.Declared.Chains
import ComponentWiring.Proofs.Discovery.Completeness
import ComponentWiring.Proofs.Java.Layout
import ComponentWiring.Proofs.Run.Writes
import ComponentWiring.Proofs.Declared.Reachability
import ComponentWiring.Proofs.Declared.Declarations
import ComponentWiring.Proofs.Declared.Values
import ComponentWiring.Proofs.Run.LoadedFlags
import ComponentWiring.Proofs.Discovery.ClassNames
import ComponentWiring.Proofs.Discovery.Validators
import ComponentWiring.Proofs.Java.Quoting
import ComponentWiring.Proofs.Settings.Reload
