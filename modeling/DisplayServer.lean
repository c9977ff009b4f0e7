import DisplayServer.Frontend.Action
import DisplayServer.Main
import DisplayServer.Operation
import DisplayServer.Proofs.Arena
import DisplayServer.Proofs.Pools
import DisplayServer.Proofs.Claims
import DisplayServer.Proofs.Windows
import DisplayServer.Proofs.Change
import DisplayServer.Proofs.Core
import DisplayServer.Proofs.Handles
import DisplayServer.Proofs.Script
import DisplayServer.Proofs.Lifetimes
import DisplayServer.Proofs.Issuing
import DisplayServer.Proofs.Exhaustion
import DisplayServer.Proofs.CreationOrder
import DisplayServer.Proofs.Course
import DisplayServer.Proofs.Settlement
import DisplayServer.Proofs.References
import DisplayServer.Proofs.Bounds
import DisplayServer.Proofs.Publishing
import DisplayServer.Proofs.BufferStates
import DisplayServer.Proofs.Releases
import DisplayServer.Proofs.Batches
import DisplayServer.Proofs.Callbacks
import DisplayServer.Proofs.View
import DisplayServer.Proofs.Subscriptions
import DisplayServer.Proofs.Alike
import DisplayServer.Proofs.Delivery
import DisplayServer.Proofs.Isolation
import DisplayServer.Proofs.WindowLinks
import DisplayServer.Proofs.Reads
import DisplayServer.Proofs.Faults
import DisplayServer.Proofs.Blame
import DisplayServer.Proofs.Census
import DisplayServer.Proofs.Ties
import DisplayServer.Proofs.CensusAfter
import DisplayServer.Proofs.Draining
import DisplayServer.Proofs.FrontendTies
import DisplayServer.Proofs.Serving
import DisplayServer.Proofs.Creating
import DisplayServer.Proofs.Delivering
import DisplayServer.Proofs.Asking
import DisplayServer.Proofs.Withdrawing
import DisplayServer.Proofs.Proceeding
import DisplayServer.Proofs.Acting
import DisplayServer.Proofs.Happening
import DisplayServer.Proofs.Coupling
import DisplayServer.Proofs.Dispatching
import DisplayServer.Proofs.Frames
import DisplayServer.Proofs.Snapshots
import DisplayServer.Proofs.Serials
import DisplayServer.Proofs.Configures
import DisplayServer.Proofs.Failures
import DisplayServer.Proofs.Ownership
import DisplayServer.Proofs.Stepping
import DisplayServer.Proofs.Teardown
import DisplayServer.Proofs.Carving
import DisplayServer.Proofs.Audience
import DisplayServer.Proofs.Disconnection
import DisplayServer.Proofs.Undergoing
import DisplayServer.Proofs.Destructions
import DisplayServer.Proofs.Corruption
import DisplayServer.Proofs.Contents
import DisplayServer.Proofs.Acknowledgements
import DisplayServer.Proofs.Rectangles
import DisplayServer.Proofs.Sizes
import DisplayServer.Proofs.Advertising
import DisplayServer.Proofs.Presenting
