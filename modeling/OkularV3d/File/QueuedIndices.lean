import Mathlib.Data.UInt
import OkularV3d.File.Load
import OkularV3d.Scene.MaterialIndex

/-!
# The material indices of a loaded file

From the bytes of a stream to the vertices of every frame queued from it: which material index a
vertex names, as an integer. A scene is what a load has left where it has assigned a value, and
anything where it has not.

`queuedIndex_along` is the result. The indices are taken from the stream unchecked, so nothing is
said about how they compare with the number of materials.

* `Loaded.Scene` relates what a load has left to a scene of the renderer.
* `V3dFile.IndicesSound` is the property of one frame.
* `toInt_word` reads the word of a vertex as an integer, for indices that fit.
-/

namespace OkularV3d

open Runs Wire

variable {D F : Type}

/-- A constructor stores its object. -/
@[simp]
theorem SceneObject.object_ofObject (o : V3dObject D F) : (ofObject o).object = o := by
  cases o <;> rfl

/-- A scene has the objects of a load, as their constructors leave them. -/
def Loaded.Has (loaded : Loaded D F) (file : V3dFile D F) : Prop :=
  List.Forall₂ (fun read o => ∀ object ∈ read, o.object = object) loaded.objects file.objects

/-- A scene that a load can leave. -/
structure Loaded.Scene (loaded : Loaded D F) (file : V3dFile D F) : Prop where
  has : loaded.Has file
  unqueued : ∀ o ∈ file.objects, o = .ofObject o.object
  centers : List.Forall₂ (fun read center => ∀ c ∈ read, center = c) loaded.centers file.centers
  materials :
    List.Forall₂ (fun read material => ∀ m ∈ read, material = m) loaded.materials file.materials
  lights :
    List.Forall₂ (fun read light => ∀ l ∈ read, light = l) loaded.headerInfo.lights file.lights
  canvasWidth : file.canvasWidth = loaded.headerInfo.canvasWidth
  orthographic : file.orthographic = (loaded.headerInfo.orthographic != 0)

namespace V3dObject

/-- The index of an object in a buffer as it is meant to be: itself, or in a buffer of vertices with
colours one more, negated where they count. -/
def index (o : V3dObject D F) : BufferKind → Int
  | .material | .line | .point => o.materialIndex.toNat
  | .color | .transparent | .triangle =>
    if o.colored then -1 - o.materialIndex.toNat else 1 + o.materialIndex.toNat

/-- The index of an object in a buffer as it is queued: a Bezier surface with corner colours goes to
the colours with its plain index. -/
def queuedIndex (o : V3dObject D F) (k : BufferKind) : Int :=
  if k = .color ∧ o.coloredSurface then o.materialIndex.toNat else o.index k

/-- Where it fits into an `int`, the word of an object is its index. -/
theorem toInt_word {o : V3dObject D F} (h : o.materialIndex.toNat + 1 < 2 ^ 31)
    (k : BufferKind) : (o.word k).toInt = o.queuedIndex k := by
  have hplain : o.materialIndex.toInt32.toInt = o.materialIndex.toNat := toInt_toInt32 (by omega)
  have hsigned : (signedWord o.colored o.materialIndex).toInt =
      if o.colored then -1 - (o.materialIndex.toNat : Int) else 1 + o.materialIndex.toNat := by
    rw [signedWord]
    split_ifs
    · exact toInt_neg_one_sub (by omega)
    · exact toInt_one_add h
  cases k with
  | material | line | point => simpa [word, objectWord, queuedIndex, index] using hplain
  | transparent | triangle => simpa [word, objectWord, queuedIndex, index] using hsigned
  | color =>
    cases hsurface : o.coloredSurface with
    | true => simpa [word, objectWord, queuedIndex, hsurface] using hplain
    | false => simpa [word, objectWord, queuedIndex, index, hsurface] using hsigned

end V3dObject

variable [Scalar D] [Scalar F] [Rounding D F]

/-- **Sound indices**: every vertex of a frame names the material of its object, as it is meant to,
and the frame has that material. -/
def V3dFile.IndicesSound (T : Tessellation D F) (file : V3dFile D F) (ctx : QueueContext D F) :
    Prop :=
  ∀ o ∈ file.objects, ∀ k, ∀ v ∈ file.appended T ctx o k,
    v.word.toInt = o.object.index k ∧
      o.object.materialIndex.toNat < max 1 file.materials.length

/-- A frame does not change what the objects are. -/
theorem Loaded.Has.frame {loaded : Loaded D F} {file : V3dFile D F} (h : loaded.Has file)
    (T : Tessellation D F) (ctx : QueueContext D F) : loaded.Has (file.frame T ctx) := by
  simp only [Has, V3dFile.frame, V3dFile.QueueMesh, List.map_map, List.forall₂_map_right_iff,
    Function.comp_apply, V3dFile.object_queueMesh]
  exact h

omit [Scalar D] [Scalar F] [Rounding D F] in
/-- A loaded object has queued nothing yet. -/
theorem Loaded.Scene.keepsWords {loaded : Loaded D F} {file : V3dFile D F}
    (h : loaded.Scene file) : file.KeepsWords := by
  intro o ho
  rw [h.unqueued o ho]
  exact SceneObject.keepsWord_ofObject _

variable [Xdr64 D] [Xdr32 F]

/-- **Which material a vertex names**: in every frame queued from a loaded file, the objects are
those of the stream, and every vertex of an object whose index fits carries the index it is queued
with. -/
theorem queuedIndex_along {T : Tessellation D F} (hT : T.CarriesWord) (measured : Bool)
    (bytes : List UInt8) {file : V3dFile D F}
    (hscene : (load measured bytes : Loaded D F × Stream).1.Scene file)
    (ctxs : List (QueueContext D F)) :
    Along (V3dFile.frame T)
      (fun file ctx => (load measured bytes : Loaded D F × Stream).1.Has file ∧
        ∀ o ∈ file.objects, o.object.materialIndex.toNat + 1 < 2 ^ 31 →
          ∀ k, ∀ v ∈ file.appended T ctx o k, v.word.toInt = o.object.queuedIndex k)
      file ctxs := by
  have hhas : Along (V3dFile.frame T)
      (fun file _ => (load measured bytes : Loaded D F × Stream).1.Has file) file ctxs := by
    have hrun : Along (V3dFile.frame T) (fun _ _ => True) file ctxs :=
      Along.of_forall (fun _ _ => trivial) file ctxs
    exact hrun.of_invariant (fun _ ctx h _ => h.frame T ctx) (fun _ _ h _ => h) hscene.has
  have hwords := V3dFile.words_along hT hscene.keepsWords ctxs
  refine (hhas.and hwords).mono fun file ctx h => ⟨h.1, fun o ho hfits k v hv => ?_⟩
  rw [h.2 o ho k v hv]
  exact V3dObject.toInt_word hfits k

/-! ### Small files -/

section Files

/-- A vertex of either format. -/
def oneVertex (p : Vec3 Int64) (word : Int32) : VertexData Int32 :=
  ⟨[⟨p.narrow, ⟨0, 0, 1⟩, word⟩], [⟨p.narrow, ⟨0, 0, 1⟩, word, ⟨0, 0, 0, 0⟩⟩], [], [0]⟩

/-- A tessellation of one vertex with the word it is called with. -/
def firstCorner : Tessellation Int64 Int32 where
  patchBounds p := (p.get 0, p.get 15)
  triangleBounds p := (p.get 0, p.get 9)
  curveBounds p := (p.get 0, p.get 3)
  patch _ _ _ _ word p := (oneVertex (p.get 0) word, true)
  triangle _ _ _ _ word p := (oneVertex (p.get 0) word, true)
  curve _ _ word p := (oneVertex (p.get 0) word, true)
  curve_vertices _ _ _ _ := List.cons_ne_nil _ _

/-- A single-precision file of version 2 with a pixel, whose material index ends in these bytes. -/
def pixelFile (high low : UInt8) : List UInt8 :=
  [0, 0, 0, 2, 0, 0, 0, 0, 0, 0, 16, 0] ++ List.replicate 16 0 ++ [high, 0, 0, low]

/-- A scene of one object and nothing else. -/
def oneScene (object : V3dObject Int64 Int32) : V3dFile Int64 Int32 where
  objects := [.ofObject object]
  centers := []
  materials := []
  lights := []
  canvasWidth := 500
  orthographic := false

/-- The scene of `pixelFile`. -/
def pixelScene (materialIndex : UInt32) : V3dFile Int64 Int32 :=
  oneScene (.pixel ⟨⟨0, 0, 0⟩, 0, materialIndex⟩)

/-- A single-precision file of version 2 with a Bezier patch whose four corners are opaque. -/
def coloredPatchFile : List UInt8 :=
  [0, 0, 0, 2, 0, 0, 0, 0, 0, 0, 1, 2] ++ List.replicate 200 0 ++
    (List.replicate 4 (List.replicate 15 0 ++ [1])).flatten

/-- Its scene. -/
def coloredPatchScene : V3dFile Int64 Int32 :=
  oneScene (.bezierPatchColor ⟨.replicate 16 ⟨0, 0, 0⟩, 0, 0, .replicate 4 ⟨0, 0, 0, 1⟩⟩)

/-- A frame that shows the origin. -/
def originFrame : QueueContext Int64 Int32 where
  imageWidth := 10
  imageHeight := 10
  sceneMinBound := ⟨0, 0, 1⟩
  sceneMaxBound := ⟨3, 4, 1⟩
  remesh := true
  orthographic := true
  drawMode := .normal
  projViewMat i := if i = 15 then 1 else 0
  normMat _ := 0
  materials := []
  pixelsPerBp := 1

/-- What a load leaves of a file with one object and nothing else. -/
def oneObject (object : V3dObject Int64 Int32) : Loaded Int64 Int32 :=
  { Loaded.withFlags 2 0 with objects := [some object] }

theorem scene_oneObject (object : V3dObject Int64 Int32) :
    (oneObject object).Scene (oneScene object) := by
  refine ⟨?_, ?_, .nil, .nil, .nil, rfl, rfl⟩
  · simp [Loaded.Has, oneObject, oneScene]
  · simp [oneScene]

/-- Without a material, the index 5 of a pixel is out of range, and the index 2 ^ 31 is not even
carried as it is; and the opaque corners of a Bezier patch are queued among the colours with the
plain index 0. -/
theorem not_indicesSound :
    ((load true (pixelFile 0 5)).1.Scene (pixelScene 5) ∧
        ¬ Along (V3dFile.frame firstCorner) (V3dFile.IndicesSound firstCorner) (pixelScene 5)
          [originFrame]) ∧
      ((load true (pixelFile 128 0)).1.Scene (pixelScene (2 ^ 31)) ∧
        ¬ Along (V3dFile.frame firstCorner) (V3dFile.IndicesSound firstCorner)
          (pixelScene (2 ^ 31)) [originFrame]) ∧
      ((load true coloredPatchFile).1.Scene coloredPatchScene ∧
        ¬ Along (V3dFile.frame firstCorner) (V3dFile.IndicesSound firstCorner) coloredPatchScene
          [originFrame]) := by
  have hfive : (load true (pixelFile 0 5)).1 = oneObject (.pixel ⟨⟨0, 0, 0⟩, 0, 5⟩) := by
    decide +kernel
  have hhigh : (load true (pixelFile 128 0)).1 = oneObject (.pixel ⟨⟨0, 0, 0⟩, 0, 2 ^ 31⟩) := by
    decide +kernel
  have hpatch : (load true coloredPatchFile).1 = oneObject (.bezierPatchColor
      ⟨.replicate 16 ⟨0, 0, 0⟩, 0, 0, .replicate 4 ⟨0, 0, 0, 1⟩⟩) := by
    decide +kernel
  refine ⟨⟨?_, fun h => ?_⟩, ⟨?_, fun h => ?_⟩, ?_, fun h => ?_⟩
  · rw [hfive]
    exact scene_oneObject _
  · have hvertex := h.1 _ List.mem_cons_self .point (.point ⟨⟨0, 0, 0⟩, 0, 5⟩) (by decide +kernel)
    exact absurd hvertex.2 (by decide)
  · rw [hhigh]
    exact scene_oneObject _
  · have hvertex := h.1 _ List.mem_cons_self .point
      (.point ⟨⟨0, 0, 0⟩, 0, (2 ^ 31 : UInt32).toInt32⟩) (by decide +kernel)
    exact absurd hvertex.1 (by decide +kernel)
  · rw [hpatch]
    exact scene_oneObject _
  · have hvertex := h.1 _ List.mem_cons_self .color
      (.color ⟨⟨0, 0, 0⟩, ⟨0, 0, 1⟩, 0, ⟨0, 0, 0, 0⟩⟩) (by decide +kernel)
    exact absurd hvertex.1 (by decide)

end Files

end OkularV3d
