import OkularV3d.Scene.Scalar

/-!
# Vertex buffers

The five global `VertexBuffer`s (`camp::materialData`, `colorData`, `lineData`,
`transparentData`, `pointData`, and the never filled `triangleData`) collect a frame's geometry.
An object touches them in two ways only: it appends a buffer of its own (`extendMaterial`,
`extendColor`, `extendPoint`) or sets a `renderCount` back to zero (`notRendered`).

* `VertexData` is the geometry of a piece and `BufferKind` the buffer it goes to, which decides on
  the vertex format.
* `VertexData.extend` appends a piece, with `extendIndices` for the shift of its indices in 32 bits.
* `VertexData.vdata` reads the vertices in the format of a buffer, as one type `Vertex`.
-/

namespace OkularV3d

/-- `camp::DrawMode`. -/
inductive DrawMode where
  | normal
  | outline
  | wireframe
  deriving DecidableEq, Repr

/-- `V3dModel::cycleMode`: the next of the three modes. -/
def DrawMode.cycle : DrawMode → DrawMode
  | normal => outline
  | outline => wireframe
  | wireframe => normal

/-- `camp::MaterialVertex`. -/
structure MaterialVertex (F : Type) where
  position : Vec3 F
  normal : Vec3 F
  material : Int32
  deriving DecidableEq

/-- `camp::ColorVertex`. -/
structure ColorVertex (F : Type) where
  position : Vec3 F
  normal : Vec3 F
  material : Int32
  color : Vec4 F
  deriving DecidableEq

/-- `camp::PointVertex`. -/
structure PointVertex (F : Type) where
  position : Vec3 F
  width : F
  material : Int32
  deriving DecidableEq

/-- `camp::VertexBuffer` without its counter: what an object keeps of its own geometry. -/
structure VertexData (F : Type) where
  materialVertices : List (MaterialVertex F)
  colorVertices : List (ColorVertex F)
  pointVertices : List (PointVertex F)
  indices : List UInt32
  deriving DecidableEq

/-- The global `VertexBuffer`s. -/
inductive BufferKind where
  | point
  | material
  | color
  | line
  | triangle
  | transparent
  deriving DecidableEq, Repr

variable {F : Type}

namespace VertexData

/-- `VertexBuffer::clear`. -/
def empty : VertexData F := ⟨[], [], [], []⟩

/-- `extendOffset`: the indices of `other` behind those of this buffer, moved up by the number of
vertices already there. -/
def extendIndices (indices other : List UInt32) (offset : Nat) : List UInt32 :=
  indices ++ other.map (· + UInt32.ofNat offset)

/-- `VertexBuffer::extendMaterial`. -/
def extendMaterial (data other : VertexData F) : VertexData F :=
  { data with
    indices := extendIndices data.indices other.indices data.materialVertices.length
    materialVertices := data.materialVertices ++ other.materialVertices }

/-- `VertexBuffer::extendColor`. -/
def extendColor (data other : VertexData F) : VertexData F :=
  { data with
    indices := extendIndices data.indices other.indices data.colorVertices.length
    colorVertices := data.colorVertices ++ other.colorVertices }

/-- `VertexBuffer::extendPoint`. -/
def extendPoint (data other : VertexData F) : VertexData F :=
  { data with
    indices := extendIndices data.indices other.indices data.pointVertices.length
    pointVertices := data.pointVertices ++ other.pointVertices }

/-- The `extend` function the code uses for a global buffer, by its vertex format. -/
def extend : BufferKind → VertexData F → VertexData F → VertexData F
  | .material | .line => extendMaterial
  | .color | .transparent | .triangle => extendColor
  | .point => extendPoint

end VertexData

/-- A vertex of any of the three formats, as it lies in a GPU vertex buffer. -/
inductive Vertex (F : Type) where
  | material (vertex : MaterialVertex F)
  | color (vertex : ColorVertex F)
  | point (vertex : PointVertex F)
  deriving DecidableEq

/-- The vertices `render()` uploads for a global buffer: those of its own format. -/
def VertexData.vdata (data : VertexData F) : BufferKind → List (Vertex F)
  | .material | .line => data.materialVertices.map .material
  | .color | .transparent | .triangle => data.colorVertices.map .color
  | .point => data.pointVertices.map .point

/-- A global `VertexBuffer`: the frame's data and the number of frames it was drawn on. -/
structure VertexBuffer (F : Type) where
  data : VertexData F
  renderCount : Nat
  deriving DecidableEq

/-- The process-global vertex buffers. -/
abbrev Buffers (F : Type) := BufferKind → VertexBuffer F

end OkularV3d
