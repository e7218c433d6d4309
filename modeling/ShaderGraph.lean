import ShaderGraph.Main
import ShaderGraph.Surface
import ShaderGraph.Proofs.Soundness
import ShaderGraph.Proofs.Fifo
import ShaderGraph.Proofs.Reach
import ShaderGraph.Proofs.Agreement
import ShaderGraph.Proofs.Collect
import ShaderGraph.Proofs.Faults
import ShaderGraph.Proofs.Refusal
import ShaderGraph.Proofs.Session
import ShaderGraph.Proofs.Emission
import ShaderGraph.Proofs.Closed
import ShaderGraph.Proofs.Digits
import ShaderGraph.Proofs.Mirror
import ShaderGraph.Proofs.Rounding
import ShaderGraph.Proofs.Nearest
import ShaderGraph.Proofs.Widening
import ShaderGraph.Proofs.HalfRounding
import ShaderGraph.Proofs.DoubleRounding
import ShaderGraph.Proofs.Shortest
import ShaderGraph.Proofs.Numerals
import ShaderGraph.Proofs.Quoting
import ShaderGraph.Proofs.ColorSpace
import ShaderGraph.Proofs.Tuples
import ShaderGraph.Proofs.RoundTrip
import ShaderGraph.Proofs.Components
import ShaderGraph.Proofs.Padding
import ShaderGraph.Proofs.Grammar
import ShaderGraph.Proofs.MatrixShape
import ShaderGraph.Proofs.ColorForm
import ShaderGraph.Proofs.Positions
import ShaderGraph.Proofs.Runs
import ShaderGraph.Proofs.ScopeRuns
import ShaderGraph.Proofs.Denotes
import ShaderGraph.Proofs.LoadRuns
import ShaderGraph.Proofs.Charts
import ShaderGraph.Proofs.SelfContained
import ShaderGraph.Proofs.Realizes
import ShaderGraph.Proofs.Reload
import ShaderGraph.Proofs.Alike
import ShaderGraph.Proofs.Renaming
import ShaderGraph.Proofs.Decoding
import ShaderGraph.Proofs.NodeOrder
import ShaderGraph.Proofs.ScopeSafety
import ShaderGraph.Proofs.Construction
import ShaderGraph.Proofs.Cycles
import ShaderGraph.Proofs.LoadSafety
import ShaderGraph.Proofs.Faithful
import ShaderGraph.Proofs.Rendering
import ShaderGraph.Proofs.Typing
import ShaderGraph.Proofs.Instances
import ShaderGraph.Proofs.Relabel
import ShaderGraph.Proofs.Embedding
import ShaderGraph.Proofs.Continuation
import ShaderGraph.Proofs.Equivariance
import ShaderGraph.Proofs.Propagation
import ShaderGraph.Proofs.Uses
import ShaderGraph.Proofs.Repeats
import ShaderGraph.Proofs.FilePaths
import ShaderGraph.Proofs.FileTrees
import ShaderGraph.Proofs.Workers
import ShaderGraph.Proofs.WorkerFiles
import ShaderGraph.Proofs.Publication
import ShaderGraph.Proofs.Overlap
import ShaderGraph.Proofs.CleanPaths
import ShaderGraph.Proofs.TexturePaths
import ShaderGraph.Proofs.Seams
import ShaderGraph.Proofs.Inscriptions
import ShaderGraph.Proofs.Encoding
import ShaderGraph.Proofs.LineStructure
import ShaderGraph.Proofs.ColorTags
import ShaderGraph.Proofs.ListingOrder
import ShaderGraph.Proofs.ConflictTexts
import ShaderGraph.Proofs.TexturedSurfaces
