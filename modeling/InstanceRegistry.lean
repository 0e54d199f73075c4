import InstanceRegistry.Config.Document
import InstanceRegistry.History
import InstanceRegistry.Transcript
import InstanceRegistry.Proofs.Runs
import InstanceRegistry.Proofs.Marks
import InstanceRegistry.Proofs.Graph.Edges
import InstanceRegistry.Proofs.Graph.Paths
import InstanceRegistry.Proofs.Destruction.Walk
import InstanceRegistry.Proofs.Destruction.Books
import InstanceRegistry.Proofs.Destruction.Visits
import InstanceRegistry.Proofs.Destruction.Teardown
import InstanceRegistry.Proofs.Destruction.Order
import InstanceRegistry.Proofs.Wiring.Assembly
import InstanceRegistry.Proofs.Courses.Moments
import InstanceRegistry.Proofs.Courses.Calls
import InstanceRegistry.Proofs.Creation.Identity
import InstanceRegistry.Proofs.Creation.Bracketing
import InstanceRegistry.Proofs.Creation.Underway
import InstanceRegistry.Proofs.Creation.Retention
import InstanceRegistry.Proofs.Creation.Shutdown
import InstanceRegistry.Proofs.Courses.Frames
import InstanceRegistry.Proofs.Destruction.Completion
import InstanceRegistry.Proofs.Creation.Tiers
import InstanceRegistry.Proofs.Creation.Ownership
import InstanceRegistry.Proofs.Creation.Suppression
import InstanceRegistry.Proofs.Alias.Chains
import InstanceRegistry.Proofs.Alias.Registration
import InstanceRegistry.Proofs.Graph.Mirror
import InstanceRegistry.Proofs.Destruction.Conservation
import InstanceRegistry.Proofs.Wiring.Strict
import InstanceRegistry.Proofs.Courses.Entries
import InstanceRegistry.Proofs.Creation.Listing
import InstanceRegistry.Proofs.Creation.Names
import InstanceRegistry.Proofs.Creation.Cleanup
import InstanceRegistry.Proofs.Production.Sharing
import InstanceRegistry.Proofs.Graph.Cycles
import InstanceRegistry.Proofs.Creation.Contention
import InstanceRegistry.Proofs.Lockstep.Locality
import InstanceRegistry.Proofs.Alias.Transparency
import InstanceRegistry.Proofs.Graph.Growth
import InstanceRegistry.Proofs.Creation.Dependencies
import InstanceRegistry.Proofs.Creation.Repetition
import InstanceRegistry.Proofs.Courses.Lookups
import InstanceRegistry.Proofs.Creation.Exposure
import InstanceRegistry.Proofs.Alias.Queries
import InstanceRegistry.Proofs.Guards
import InstanceRegistry.Proofs.Production.Unprocessed
import InstanceRegistry.Proofs.Production.Refinement
import InstanceRegistry.Proofs.Config.Documents
