import ObjectGraph.Proofs.Layers
import ObjectGraph.Proofs.Graph.Classify
import ObjectGraph.Proofs.Graph.Cycle
import ObjectGraph.Proofs.Graph.CyclePath
import ObjectGraph.Proofs.Hierarchy.Resolve
import ObjectGraph.Session.Step
import ObjectGraph.Proofs.Graph.Generated
import ObjectGraph.Proofs.Live.Instance
import ObjectGraph.Proofs.Live.Scopes
import ObjectGraph.Proofs.Live.History
import ObjectGraph.Proofs.Live.Store
import ObjectGraph.Proofs.Live.Blueprint
import ObjectGraph.Proofs.Live.Serve
import ObjectGraph.Proofs.Session.Coherent
import ObjectGraph.Proofs.Session.Step
import ObjectGraph.Proofs.Live.Activation
import ObjectGraph.Proofs.Live.Alive
import ObjectGraph.Proofs.Session.Moves
import ObjectGraph.Proofs.Session.Activation
import ObjectGraph.Proofs.Session.Liveness
import ObjectGraph.Proofs.Session.Generations
import ObjectGraph.Proofs.Session.Scopes
import ObjectGraph.Proofs.Session.Singleton
import ObjectGraph.Proofs.Session.Lookup
import ObjectGraph.Proofs.Session.Located
import ObjectGraph.Proofs.Session.Termination
import ObjectGraph.Proofs.Compile.Order
import ObjectGraph.Proofs.Compile.Closed
import ObjectGraph.Proofs.Compile.Tolerance
import ObjectGraph.Proofs.Live.Wired
import ObjectGraph.Proofs.Live.Origin
import ObjectGraph.Proofs.Session.Origin
import ObjectGraph.Proofs.Hierarchy.WellFormed
import ObjectGraph.Proofs.Graph.Precedence
import ObjectGraph.Proofs.Hierarchy.Roots
import ObjectGraph.Proofs.Compile.Emission
import ObjectGraph.Proofs.Compile.Extension
import ObjectGraph.Proofs.Session.Destruction
import ObjectGraph.Proofs.Compile.Assisted
import ObjectGraph.Proofs.Compile.Kinds
import ObjectGraph.Proofs.Session.Aliases
import ObjectGraph.Proofs.Compile.Views
import ObjectGraph.Proofs.Live.Dispatch
import ObjectGraph.Proofs.Compile.Overlap
import ObjectGraph.Proofs.Conservation
import ObjectGraph.Proofs.Compile.Unhosted
import ObjectGraph.Proofs.Compile.Duplicates
import ObjectGraph.Proofs.Graph.ConstructionEdges
import ObjectGraph.Proofs.Session.Failure
import ObjectGraph.Proofs.Hierarchy.Descendants
import ObjectGraph.Proofs.Compile.ProviderNames
import ObjectGraph.Proofs.Compile.Sequence
