import OkularV3d.Scene.Routing

/-!
# The vertices of a triangle group

A triangle group has three arrays of indices: every corner of a triangle names a position, a normal
and a colour. Asymptote's `Triangles::queue` writes, corner by corner, a vertex with the normal and
the colour the corner names, at the number of its position; `V3dTriangleGroup::QueueMesh`, which is
to match it, gives every position the normal and the colour of the same number.

`V3dTriangleGroup.matchesReference_iff` says for which groups the two agree.

* `writeAll` writes entries one after the other, as both functions do; `getElem?_writeAll` reads the
  result.
* `referenceVertices` is the array of the reference, and `cornerVertex` one write to it.
* `MatchesReference` is the property and `ArraysCoincide` the condition, both on positions in use.
* `flatTriangle` is a triangle whose arrays coincide; `sharedTriangle` has one normal and one colour
  for all its corners.
-/

namespace OkularV3d

/-! ### Writes at positions -/

section Writes

variable {α β : Type}

/-- Entries written into a list one after the other. -/
def writeAll (xs : List α) (ws : List (Nat × α)) : List α :=
  ws.foldl (fun xs w => xs.set w.1 w.2) xs

theorem length_writeAll (xs : List α) (ws : List (Nat × α)) :
    (writeAll xs ws).length = xs.length := by
  induction ws generalizing xs with
  | nil => rfl
  | cons w ws ih => exact (ih _).trans List.length_set

/-- **The last write stays**: an entry is the last one written at its place. -/
theorem getElem?_writeAll {xs : List α} {i : Nat} (hi : i < xs.length) (f : β → Nat) (g : β → α)
    (ws : List β) {w : β} (h : ws.reverse.find? (f · = i) = some w) :
    (writeAll xs (ws.map fun w => (f w, g w)))[i]? = some (g w) := by
  induction ws using List.reverseRecOn with
  | nil => cases h
  | append_singleton ws last ih =>
    have hlength : i < (writeAll xs (ws.map fun w => (f w, g w))).length := by
      rwa [length_writeAll]
    rw [writeAll, List.map_append, List.foldl_append]
    simp only [List.map_cons, List.map_nil, List.foldl_cons, List.foldl_nil]
    rw [List.reverse_append, List.reverse_singleton, List.singleton_append, List.find?_cons] at h
    by_cases hlast : f last = i
    · subst hlast
      simp only [decide_true] at h
      obtain rfl := Option.some.inj h
      exact List.getElem?_set_self hlength
    · simp only [hlast, decide_false] at h
      rw [List.getElem?_set_ne hlast]
      exact ih h

end Writes

variable {D F : Type}

/-- What a vertex with a colour carries beside its position. -/
def ColorVertex.attributes (v : ColorVertex F) : Vec3 F × Int32 × Vec4 F :=
  (v.normal, v.material, v.color)

namespace V3dTriangleGroup

/-- A corner of a triangle: the numbers of its position, its normal and its colour. -/
structure Corner where
  position : UInt32
  normal : UInt32
  color : UInt32
  deriving DecidableEq

/-- The corners of a group, triangle by triangle. -/
def corners (o : V3dTriangleGroup D F) : List Corner :=
  o.triangles.flatMap fun t =>
    [⟨t.positions.1, t.normals.1, t.colors.1⟩, ⟨t.positions.2.1, t.normals.2.1, t.colors.2.1⟩,
      ⟨t.positions.2.2, t.normals.2.2, t.colors.2.2⟩]

/-- The last corner at a position. -/
def lastCorner (o : V3dTriangleGroup D F) (position : Nat) : Option Corner :=
  o.corners.reverse.find? (·.position.toNat = position)

/-- All indices are in range; the colours count where there are any. -/
def InRange (o : V3dTriangleGroup D F) : Prop :=
  ∀ c ∈ o.corners, c.position.toNat < o.vertexPositions.length ∧
    c.normal.toNat < o.vertexNormalArray.length ∧
      (o.vertexColorArray ≠ [] → c.color.toNat < o.vertexColorArray.length)

/-- A position that is used has a last corner. -/
theorem exists_lastCorner {o : V3dTriangleGroup D F} {c : Corner} (hc : c ∈ o.corners) :
    ∃ last ∈ o.corners, last.position = c.position ∧
      o.lastCorner c.position.toNat = some last := by
  have hsome : (o.lastCorner c.position.toNat).isSome := by
    rw [lastCorner, List.find?_isSome]
    exact ⟨c, List.mem_reverse.mpr hc, by simp⟩
  obtain ⟨last, hlast⟩ := Option.isSome_iff_exists.mp hsome
  have hmem := List.mem_reverse.mp (List.mem_of_find?_eq_some hlast)
  have hposition := List.find?_some hlast
  simp only [decide_eq_true_eq] at hposition
  exact ⟨last, hmem, UInt32.toNat_inj.mp hposition, hlast⟩

variable [Scalar D] [Scalar F] [Rounding D F]

/-- The normal of a number, or that of a vertex without one. -/
def normalAt (o : V3dTriangleGroup D F) (i : Nat) : Vec3 F :=
  (o.vertexNormalArray.getD i ⟨Scalar.lit 0, Scalar.lit 0, Scalar.lit 1⟩).narrow

omit [Scalar D] [Rounding D F] in
/-- The colour of a number, or that of a vertex without one. -/
def colorAt (o : V3dTriangleGroup D F) (i : Nat) : Vec4 F :=
  o.vertexColorArray.getD i ⟨Scalar.lit 0, Scalar.lit 0, Scalar.lit 0, Scalar.lit 0⟩

omit [Scalar D] [Scalar F] [Rounding D F] in
/-- `MaterialIndex` of a group. -/
def word (o : V3dTriangleGroup D F) : Int32 :=
  if !o.vertexColorArray.isEmpty then -1 - o.materialIndex.toInt32
  else 1 + o.materialIndex.toInt32

/-- The vertex `Triangles::queue` stores for a corner. -/
def cornerVertex (o : V3dTriangleGroup D F) (c : Corner) : ColorVertex F :=
  ⟨(o.vertexPositions.getD c.position.toNat
      ⟨Scalar.lit 0, Scalar.lit 0, Scalar.lit 0⟩).narrow,
    o.normalAt c.normal.toNat, o.word,
    if o.vertexColorArray.isEmpty then ⟨Scalar.lit 0, Scalar.lit 0, Scalar.lit 0, Scalar.lit 0⟩
    else o.colorAt c.color.toNat⟩

/-- `data.colorVertices` after `Triangles::queue` of a group with normals: as many vertices as
positions, and one written for every corner. -/
def referenceVertices (o : V3dTriangleGroup D F) : List (ColorVertex F) :=
  let zero : F := Scalar.lit 0
  writeAll
    (List.replicate o.vertexPositions.length
      ⟨⟨zero, zero, zero⟩, ⟨zero, zero, zero⟩, 0, ⟨zero, zero, zero, zero⟩⟩)
    (o.corners.map fun c => (c.position.toNat, o.cornerVertex c))

/-- **As the reference**: the vertex of every position in use has the normal, the material index and
the colour it has there, and the triangles are those of the group, in order. -/
structure MatchesReference (o : V3dTriangleGroup D F) (data : VertexData F) : Prop where
  vertices : ∀ c ∈ o.corners,
    (data.colorVertices[c.position.toNat]?).map ColorVertex.attributes =
      (o.referenceVertices[c.position.toNat]?).map ColorVertex.attributes
  triangles : data.indices =
    o.triangles.flatMap fun t => [t.positions.1, t.positions.2.1, t.positions.2.2]

/-- The arrays coincide: the last corner at a position names a normal and a colour equal to those
of the position's own number. -/
def ArraysCoincide (o : V3dTriangleGroup D F) : Prop :=
  ∀ c ∈ o.corners, o.lastCorner c.position.toNat = some c →
    o.normalAt c.normal.toNat = o.normalAt c.position.toNat ∧
      o.colorAt c.color.toNat = o.colorAt c.position.toNat

/-- The reference vertex of a position is that of its last corner. -/
theorem attributes_referenceVertices {o : V3dTriangleGroup D F} (h : o.InRange) {c : Corner}
    (hc : c ∈ o.corners) (hlast : o.lastCorner c.position.toNat = some c) :
    (o.referenceVertices[c.position.toNat]?).map ColorVertex.attributes =
      some (o.normalAt c.normal.toNat, o.word, o.colorAt c.color.toNat) := by
  have hlength : c.position.toNat < (List.replicate o.vertexPositions.length
      (⟨⟨Scalar.lit 0, Scalar.lit 0, Scalar.lit 0⟩, ⟨Scalar.lit 0, Scalar.lit 0, Scalar.lit 0⟩, 0,
        ⟨Scalar.lit 0, Scalar.lit 0, Scalar.lit 0, Scalar.lit 0⟩⟩ : ColorVertex F)).length := by
    rw [List.length_replicate]
    exact (h c hc).1
  have hwritten := getElem?_writeAll hlength (fun c : Corner => c.position.toNat) o.cornerVertex
    o.corners hlast
  rw [referenceVertices, hwritten]
  -- without colours the reference is black, as is the colour of any number
  cases hcolors : o.vertexColorArray.isEmpty with
  | true => simp [ColorVertex.attributes, cornerVertex, colorAt, List.isEmpty_iff.mp hcolors]
  | false => simp [ColorVertex.attributes, cornerVertex, hcolors]

/-- The vertex the code stores for a position. -/
theorem attributes_mesh {o : V3dTriangleGroup D F} {i : Nat} (h : i < o.vertexPositions.length) :
    ((o.mesh : VertexData F).colorVertices[i]?).map ColorVertex.attributes =
      some (o.normalAt i, o.word, o.colorAt i) := by
  simp [mesh, h, ColorVertex.attributes, normalAt, colorAt, word]

/-- The code emits the triangles of the group, in order. -/
theorem indices_mesh {o : V3dTriangleGroup D F} (h : o.InRange) :
    (o.mesh : VertexData F).indices =
      o.triangles.flatMap fun t => [t.positions.1, t.positions.2.1, t.positions.2.2] := by
  refine List.flatMap_congr fun t ht => ?_
  have hlt : ∀ c ∈ [(⟨t.positions.1, t.normals.1, t.colors.1⟩ : Corner),
      ⟨t.positions.2.1, t.normals.2.1, t.colors.2.1⟩,
      ⟨t.positions.2.2, t.normals.2.2, t.colors.2.2⟩],
      c.position.toNat < o.vertexPositions.length :=
    fun c hc => (h c (List.mem_flatMap.mpr ⟨t, ht, hc⟩)).1
  simp only [List.mem_cons, List.not_mem_nil, or_false, forall_eq_or_imp, forall_eq] at hlt
  exact if_pos hlt

/-- **Which groups match the reference**: on the slow path, those whose arrays coincide. -/
theorem matchesReference_iff {o : V3dTriangleGroup D F} (h : o.InRange) {ctx : QueueContext D F}
    {st : KeptMesh F} (hdrawn : o.drawn ctx = true) (hslow : o.fast st ctx = false) :
    o.MatchesReference (o.QueueMesh ctx st).1.vertexData ↔ o.ArraysCoincide := by
  have hmesh : (o.QueueMesh ctx st).1.vertexData = o.mesh := by
    simp only [drawn, Bool.and_eq_true, Bool.not_eq_true', bne_iff_ne] at hdrawn
    obtain ⟨⟨hempty, hmode⟩, hoff⟩ := hdrawn
    simp only [fast] at hslow
    simp only [QueueMesh, hempty, hmode, hoff, hslow, Bool.false_eq_true, if_false]
  rw [hmesh]
  constructor
  · intro hmatches c hc hlast
    have heq := hmatches.vertices c hc
    rw [attributes_mesh (h c hc).1, attributes_referenceVertices h hc hlast] at heq
    simp only [Option.some.injEq, Prod.mk.injEq, true_and] at heq
    exact ⟨heq.1.symm, heq.2.symm⟩
  · intro hcoincide
    refine ⟨fun c hc => ?_, indices_mesh h⟩
    obtain ⟨last, hmem, hposition, hlast⟩ := exists_lastCorner hc
    rw [← hposition] at hlast ⊢
    obtain ⟨hnormal, hcolor⟩ := hcoincide last hmem hlast
    rw [attributes_mesh (h last hmem).1, attributes_referenceVertices h hmem hlast, hnormal,
      hcolor]

/-! ### One triangle -/

/-- A triangle with a normal and a colour for each corner, in the order of its positions. -/
def flatTriangle : V3dTriangleGroup Int64 Int32 where
  vertexPositions := [⟨0, 0, 0⟩, ⟨1, 0, 0⟩, ⟨0, 1, 0⟩]
  vertexNormalArray := [⟨0, 0, 1⟩, ⟨0, 1, 0⟩, ⟨1, 0, 0⟩]
  vertexColorArray := [⟨1, 0, 0, 1⟩, ⟨0, 1, 0, 1⟩, ⟨0, 0, 1, 1⟩]
  triangles := [⟨(0, 1, 2), (0, 1, 2), (0, 1, 2)⟩]
  centerIndex := 0
  materialIndex := 0

/-- The same triangle with the first normal and the first colour for all its corners. -/
def sharedTriangle : V3dTriangleGroup Int64 Int32 :=
  { flatTriangle with triangles := [⟨(0, 1, 2), (0, 0, 0), (0, 0, 0)⟩] }

instance (o : V3dTriangleGroup D F) : Decidable o.InRange :=
  inferInstanceAs (Decidable (∀ c ∈ o.corners, _))

theorem matchesReference_flatTriangle :
    (flatTriangle.InRange ∧ flatTriangle.drawn originFrame = true ∧
        flatTriangle.fast (.init : KeptMesh Int32) originFrame = false) ∧
      (flatTriangle.MatchesReference (flatTriangle.QueueMesh originFrame .init).1.vertexData ↔
        flatTriangle.ArraysCoincide) := by
  have hrange : flatTriangle.InRange := by decide +kernel
  have hdrawn : flatTriangle.drawn originFrame = true := by decide +kernel
  have hslow : flatTriangle.fast (.init : KeptMesh Int32) originFrame = false := by decide +kernel
  exact ⟨⟨hrange, hdrawn, hslow⟩, matchesReference_iff hrange hdrawn hslow⟩

/-- Corners that share a normal and a colour: the code gives each its own. -/
theorem not_matchesReference_sharedTriangle :
    sharedTriangle.InRange ∧ sharedTriangle.drawn originFrame = true ∧
      sharedTriangle.fast (.init : KeptMesh Int32) originFrame = false ∧
        ¬ sharedTriangle.MatchesReference
          (sharedTriangle.QueueMesh originFrame .init).1.vertexData := by
  refine ⟨by decide +kernel, by decide +kernel, by decide +kernel, fun h => ?_⟩
  have hsecond := h.vertices ⟨1, 0, 0⟩ (by decide +kernel)
  exact absurd hsecond (by decide +kernel)

end V3dTriangleGroup

end OkularV3d
