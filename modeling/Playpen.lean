import Playpen.Main
import Playpen.Proofs.Loading.Provenance
import Playpen.Proofs.Loading.Schedule
import Playpen.Proofs.Registry.Ledger
import Playpen.Proofs.Registry.Staleness
import Playpen.Proofs.Runs.Results
import Playpen.Proofs.Linking.Sources
import Playpen.Proofs.Runs.Bindings
import Playpen.Proofs.Runs.Outcome
import Playpen.Proofs.Loading.Opening
import Playpen.Proofs.Loading.Notices
import Playpen.Proofs.Text.Classes
import Playpen.Proofs.Naming.Identifier
import Playpen.Proofs.Naming.Parameters
import Playpen.Proofs.Naming.Binding
import Playpen.Proofs.Registry.Order
import Playpen.Proofs.Display.Numeric
import Playpen.Proofs.Walk.Limit
import Playpen.Proofs.Walk.Confinement
import Playpen.Proofs.Display.Trees
import Playpen.Proofs.Console.Calls
import Playpen.Proofs.Runs.Failures
import Playpen.Proofs.Naming.Specs
import Playpen.Proofs.Naming.CamelCase
import Playpen.Proofs.Linking.Instances
import Playpen.Proofs.Linking.Requests
import Playpen.Proofs.Config.Overlay
import Playpen.Proofs.Json.Encodings
import Playpen.Proofs.Naming.Addresses
import Playpen.Proofs.Runs.Reports
import Playpen.Proofs.Display.Margin
import Playpen.Proofs.Log.Handles
import Playpen.Proofs.Url.Address
