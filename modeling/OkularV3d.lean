import OkularV3d.Lib.Runs
import OkularV3d.Manager.IBLName
import OkularV3d.Manager.IBLPrompt
import OkularV3d.Lib.Memo
import OkularV3d.Pdf.BackgroundCache
import OkularV3d.Scene.Scalar
import OkularV3d.Scene.VertexBuffer
import OkularV3d.Render.Renderer
import OkularV3d.Render.Prepare
import OkularV3d.Render.MappedBuffers
import OkularV3d.Lib.Gate
import OkularV3d.Scene.Objects
import OkularV3d.Scene.Culling
import OkularV3d.Scene.Bezier
import OkularV3d.Scene.Solids
import OkularV3d.Scene.QueueMesh
import OkularV3d.Scene.V3dFile
import OkularV3d.Manager.RenderModel
import OkularV3d.Render.UploadGate
import OkularV3d.Scene.Renewal
import OkularV3d.Scene.Rounds
import OkularV3d.Scene.QueueAgain
import OkularV3d.Manager.FrameSoundness
import OkularV3d.Manager.UploadSoundness
import OkularV3d.Manager.DrawMode
import OkularV3d.Manager.Picture
import OkularV3d.Lib.Wire
import OkularV3d.File.Records
import OkularV3d.File.Load
import OkularV3d.File.Writer
import OkularV3d.File.RoundTrip
import OkularV3d.File.Truncation
import OkularV3d.File.Alignment
import OkularV3d.Scene.Billboards
import OkularV3d.Manager.IBLDownload
import OkularV3d.Manager.IBLWaiting
import OkularV3d.Scene.MaterialIndex
import OkularV3d.File.QueuedIndices
import OkularV3d.Manager.ModelImages
import OkularV3d.Manager.RenderSession
import OkularV3d.Manager.IndexSafety
import OkularV3d.Manager.ImageCoherence
import OkularV3d.Manager.PointerLiveness
import OkularV3d.Lib.Clip
import OkularV3d.Scene.Exact
import OkularV3d.Scene.Conservative
import OkularV3d.Scene.FastPath
import OkularV3d.Lib.Handles
import OkularV3d.Render.Lifecycle
import OkularV3d.Lib.RelativePath
import OkularV3d.Manager.IBLConfinement
import OkularV3d.Manager.PromptOnce
import OkularV3d.Lib.Rodrigues
import OkularV3d.Model.Arcball
import OkularV3d.Lib.ExtRat
import OkularV3d.Model.Zoom
import OkularV3d.Manager.Rebind
import OkularV3d.Render.IBLImages
import OkularV3d.Scene.QueuePath
import OkularV3d.Manager.Freshness
import OkularV3d.Manager.ProcessSteps
import OkularV3d.Manager.Gesture
import OkularV3d.Lib.Dispatch
import OkularV3d.Manager.Isolation
import OkularV3d.Lib.Fallible
import OkularV3d.Lib.SyncObjects
import OkularV3d.Render.Synchronisation
import OkularV3d.Render.Discipline
import OkularV3d.Scene.IndexBuffers
import OkularV3d.Scene.Routing
import OkularV3d.Scene.TriangleGroups
import OkularV3d.Lib.Raster
import OkularV3d.Render.ReadBack
import OkularV3d.Render.PersistentUpload
import OkularV3d.Render.FragmentBuffers
import OkularV3d.Render.Recovery
import OkularV3d.Render.IBLLayers
import OkularV3d.Render.PrefixSum
import OkularV3d.Lib.Chunks
import OkularV3d.Lib.Explore
import OkularV3d.Render.HandleLayout
import OkularV3d.Render.HandleSafety
import OkularV3d.Model.Window
import OkularV3d.Model.Home
import OkularV3d.Lib.Throttle
import OkularV3d.Manager.RefreshThrottle
import OkularV3d.Lib.TowardZero
import OkularV3d.Pdf.Tiles
import OkularV3d.Lib.SamePath
import OkularV3d.Manager.IBLLookup
import OkularV3d.File.Framing
import OkularV3d.File.Work
import OkularV3d.Manager.HitTest
import OkularV3d.Lib.CriticalSections
import OkularV3d.Manager.LockDiscipline
import OkularV3d.Lib.Bezier
import OkularV3d.Scene.RealScalar
import OkularV3d.Scene.CylinderPatches
import OkularV3d.Lib.DoubleReflection
import OkularV3d.Scene.TubeFrames
import OkularV3d.Lib.Subdivision
import OkularV3d.Lib.GreatCircle
import OkularV3d.Lib.SolidAngle
import OkularV3d.Scene.SphereMesh
import OkularV3d.Lib.Adaptive
import OkularV3d.Scene.Tessellate
import OkularV3d.Lib.Polyline
import OkularV3d.Scene.Drawing
import OkularV3d.Scene.MeshBoundary
import OkularV3d.Lib.Casteljau
import OkularV3d.Scene.Space
import OkularV3d.Scene.Termination
import OkularV3d.Lib.BranchAndBound
import OkularV3d.Scene.Bound
import OkularV3d.Scene.BoundAccuracy
import OkularV3d.Scene.Pieces
import OkularV3d.Scene.Library
import OkularV3d.Scene.CompleteMesh
import OkularV3d.Lib.Scan
import OkularV3d.Lib.WorkGroups
import OkularV3d.Render.SumShaders
import OkularV3d.Render.GroupSums
import OkularV3d.Render.Offsets
import OkularV3d.Render.SumFrames
