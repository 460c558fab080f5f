import OkularV3d.Lib.Runs
import OkularV3d.Scene.Conservative

/-!
# The fast path of a surface

A surface keeps the triangles it has built, and when all of them were onscreen it appends them again
in the next frame without `remesh`, whatever the view has become. `SameFacets` compares the
triangles of such a frame with those a new object would append, up to the ones that cannot be seen.

The subdivision of a Bezier surface does not depend on the view, but it tests each of its pieces
with `bbox2` and cuts off what comes out offscreen (`Tessellation.Refined`). So the two lists differ
by the triangles the tests of the new view would have cut off, and `sameFacets_along_iff` says that
this is all: the frames agree exactly when the tests of the frames on the fast path cut off nothing
that can be seen.

* `Facet` is a triangle with its vertices, `Piece` one of a complete mesh with its tests;
  `cutFacets` is what a view leaves of a mesh.
* `V3dObject.pieces` is the complete mesh of an object. `facets_queueMesh` says what an object
  appends, and `keeps_queueMesh` what it keeps, for the eight classes that have a fast path
  (`V3dObject.IsSurface`).
* `Animation` is an object over a sequence of frames, and `Reuses` that a frame takes the fast path.
* `CutsNothingSeen` is the condition. `thenFromOrigin` is a run that breaks it.
-/

namespace OkularV3d

open Runs Gate

/-! ### Triangles -/

section Facets

variable {F : Type}

/-- The position of a vertex of any format. -/
def Vertex.position : Vertex F → Vec3 F
  | material v => v.position
  | color v => v.position
  | point v => v.position

/-- A triangle with all that its vertices carry. -/
abbrev Facet (F : Type) := Vertex F × Vertex F × Vertex F

/-- A list in groups of three. -/
def threes {α : Type} : List α → List (α × α × α)
  | a :: b :: c :: rest => (a, b, c) :: threes rest
  | _ => []

/-- Three indices at a time, a list can be read from behind the first triangle. -/
theorem threes_append {α : Type} {xs : List α} (h : xs.length = 3) (ys : List α) :
    threes (xs ++ ys) = threes xs ++ threes ys := by
  obtain ⟨a, b, c, rfl⟩ := List.length_eq_three.mp h
  rfl

/-- The triangle of three indices. -/
def facet? (vertices : List (Vertex F)) : UInt32 × UInt32 × UInt32 → Option (Facet F)
  | (a, b, c) =>
    match vertices[a.toNat]?, vertices[b.toNat]?, vertices[c.toNat]? with
    | some u, some v, some w => some (u, v, w)
    | _, _, _ => none

/-- The triangles of vertex data, in the format of a buffer. -/
def VertexData.facets (k : BufferKind) (data : VertexData F) : List (Facet F) :=
  (threes data.indices).filterMap (facet? (data.vdata k))

/-- The triangles that are appended, and the buffer each goes to. -/
def facets (es : Effects F) : List (BufferKind × Facet F) :=
  es.flatMap fun
    | .mark _ => []
    | .put .line _ => []
    | .put .point _ => []
    | .put k data => (data.facets k).map (k, ·)

@[simp] theorem facets_nil : facets ([] : Effects F) = [] := rfl

@[simp] theorem facets_mark (k : BufferKind) (es : Effects F) :
    facets (.mark k :: es) = facets es := rfl

/-- Effects append their triangles one after the other. -/
theorem facets_append (es fs : Effects F) : facets (es ++ fs) = facets es ++ facets fs :=
  List.flatMap_append

/-- A piece appends the triangles its indices form. -/
theorem facets_put {k : BufferKind} (hline : k ≠ .line) (hpoint : k ≠ .point)
    (data : VertexData F) : facets [.put k data] = (data.facets k).map (k, ·) := by
  cases k <;> first | contradiction | exact List.append_nil _

/-- Boundary curves have no triangles. -/
theorem facets_curves {ι : Type} (xs : List ι) (f : ι → VertexData F) :
    facets (xs.flatMap fun x => BezierCurve.queue (f x)) = [] := by
  induction xs with
  | nil => rfl
  | cons x xs ih =>
    rw [List.flatMap_cons, facets_append, ih]
    rfl

end Facets

/-! ### Pieces and their tests -/

variable {K : Type} [ExactScalar K]

/-- A triangle of a complete mesh, with the tests that are made before it is drawn: of the pieces it
is a part of, and its own. -/
structure Piece (K : Type) where
  tests : List (Vec3 K × List (Vec3 K))
  facet : Facet K

/-- No test of the piece comes out offscreen. -/
def Piece.kept (projViewMat : Mat4 K) (piece : Piece K) : Bool :=
  piece.tests.all fun (v, vs) => !(BBox2.ofPoints projViewMat v vs).offscreen

/-- Some point of a triangle is drawn. -/
def Facet.Visible (projViewMat : Mat4 K) (t : Facet K) : Prop :=
  ∃ p ∈ Vec3.hull [t.1.position, t.2.1.position, t.2.2.position], p ∈ clipVolume projViewMat

/-- A triangle that its own test leaves out cannot be seen, if its corners are on one side of the
eye. -/
theorem Piece.not_visible_of_oneSide {projViewMat : Mat4 K} (piece : Piece K)
    (htests : piece.tests = [(piece.facet.1.position,
      [piece.facet.2.1.position, piece.facet.2.2.position])])
    (hcut : piece.kept projViewMat = false)
    (hside : OneSide projViewMat
      [piece.facet.1.position, piece.facet.2.1.position, piece.facet.2.2.position]) :
    ¬ piece.facet.Visible projViewMat := by
  rintro ⟨p, hp, hclip⟩
  rw [kept, htests, List.all_cons, List.all_nil, Bool.and_true, Bool.not_eq_false'] at hcut
  exact notMem_clipVolume_of_offscreen hside hcut hp hclip

/-- What the subdivision does with its pieces: it leaves out those that some test finds offscreen,
and the surface is onscreen when none does. -/
def Cut (projViewMat : Mat4 K) (kind : BufferKind) (pieces : List (Piece K))
    (built : VertexData K × Bool) : Prop :=
  built.1.facets kind = (pieces.filter (Piece.kept projViewMat)).map Piece.facet ∧
    built.2 = pieces.all (Piece.kept projViewMat)

/-- `BezierPatch::render` and `BezierTriangle::render`: the pieces are found from the control points
and the resolution alone; the projection only decides which of them are cut off. -/
structure Tessellation.Refined (T : Tessellation K K) where
  patch : K → Bool → Option (List (Vec4 K)) → Int32 → Vector (Vec3 K) 16 → List (Piece K)
  triangle : K → Bool → Option (List (Vec4 K)) → Int32 → Vector (Vec3 K) 10 → List (Piece K)
  cut_patch : ∀ projViewMat ratio transparent colors word p,
    Cut projViewMat (surfaceKind transparent colors.isSome) (patch ratio transparent colors word p)
      (T.patch projViewMat ratio transparent colors word p)
  cut_triangle : ∀ projViewMat ratio transparent colors word p,
    Cut projViewMat (surfaceKind transparent colors.isSome)
      (triangle ratio transparent colors word p)
      (T.triangle projViewMat ratio transparent colors word p)

/-- The triangles of a complete mesh, in a buffer. -/
def wholeFacets (kind : BufferKind) (pieces : List (Piece K)) : List (BufferKind × Facet K) :=
  pieces.map fun piece => (kind, piece.facet)

/-- The triangles that are left of it in a view. -/
def cutFacets (projViewMat : Mat4 K) (kind : BufferKind) (pieces : List (Piece K)) :
    List (BufferKind × Facet K) :=
  wholeFacets kind (pieces.filter (Piece.kept projViewMat))

/-- What a frame without `remesh` appends of a mesh, by the path it takes: nothing offscreen and in
`OUTLINE` mode, what was kept, or what is left of the complete mesh. -/
def pathFacets (ctx : QueueContext K K) (box : Vec3 K × Vec3 K) (keepsAll : Bool)
    (again whole : List (BufferKind × Facet K)) : List (BufferKind × Facet K) :=
  if ctx.offscreen box ∨ ctx.drawMode = .outline then []
  else if !ctx.remesh && keepsAll then again else whole

/-! ### Bezier surfaces -/

section Surfaces

variable {T : Tessellation K K} {ctx : QueueContext K K} {box : Vec3 K × Vec3 K}
  {materialIndex : UInt32} {tessellate : Bool → Int32 → VertexData K × Bool} {S : BezierPatch K}

/-- A surface appends triangles, and neither lines nor points. -/
theorem surfaceKind_ne (transparent color : Bool) :
    surfaceKind transparent color ≠ .line ∧ surfaceKind transparent color ≠ .point := by
  cases transparent <;> cases color <;> decide

/-- A surface that is built anew appends the pieces that are not cut off. -/
theorem facets_queue {transparent color : Bool} {pieces : List (Piece K)}
    {built : VertexData K × Bool}
    (h : Cut ctx.projViewMat (surfaceKind transparent color) pieces built) :
    facets (BezierPatch.queue built transparent color).2 =
      cutFacets ctx.projViewMat (surfaceKind transparent color) pieces := by
  have hkind := surfaceKind_ne transparent color
  change facets (.mark (surfaceKind transparent color) :: [.put (surfaceKind transparent color)
    built.1]) = _
  rw [facets_mark, facets_put hkind.1 hkind.2, h.1, cutFacets, wholeFacets, List.map_map]
  rfl

/-- If none of it was cut off, it keeps the complete mesh. -/
theorem facets_append_queue {transparent color : Bool} {pieces : List (Piece K)}
    {built : VertexData K × Bool}
    (h : Cut ctx.projViewMat (surfaceKind transparent color) pieces built)
    (hall : (BezierPatch.queue built transparent color).1.onscreen = true) :
    facets (BezierPatch.queue built transparent color).1.append =
      wholeFacets (surfaceKind transparent color) pieces := by
  have hkept : pieces.filter (Piece.kept ctx.projViewMat) = pieces :=
    List.filter_eq_self.mpr (List.all_eq_true.mp (h.2.symm.trans hall))
  have hfacets := facets_queue h
  rw [cutFacets, hkept] at hfacets
  exact hfacets

/-- **What a surface without corner colours appends**: what it has kept on the fast path, else the
pieces that no test cuts off. -/
theorem facets_queueSurface {edges : List (Vector (Vec3 K) 4)}
    {pieces : Bool → Int32 → List (Piece K)}
    (h : ∀ transparent word, Cut ctx.projViewMat (surfaceKind transparent false)
      (pieces transparent word) (tessellate transparent word)) :
    let transparent := materialTransparent ctx.drawMode ctx.materials materialIndex
    facets (queueSurface T ctx box edges materialIndex tessellate S).2 =
      pathFacets ctx box S.onscreen (facets S.append)
        (cutFacets ctx.projViewMat (surfaceKind transparent false)
          (pieces transparent (BezierPatch.materialWord transparent false materialIndex))) := by
  dsimp only
  rw [queueSurface, pathFacets]
  by_cases hoff : ctx.offscreen box = true
  · rw [if_pos hoff, if_pos (Or.inl hoff)]
    rfl
  by_cases hmode : ctx.drawMode = .outline
  · rw [if_neg hoff, if_pos hmode, if_pos (Or.inr hmode)]
    exact facets_curves _ _
  rw [if_neg hoff, if_neg hmode, if_neg (not_or.mpr ⟨hoff, hmode⟩)]
  by_cases hfast : (!ctx.remesh && S.onscreen) = true
  · rw [if_pos hfast, if_pos hfast]
  · rw [if_neg hfast, if_neg hfast]
    exact facets_queue (h _ _)

/-- In `NORMAL` and `WIREFRAME` mode a surface that is wholly onscreen afterwards has kept what it
had, on the fast path, or has just built a complete mesh. -/
theorem keeps_queueSurface {edges : List (Vector (Vec3 K) 4)}
    {pieces : Bool → Int32 → List (Piece K)}
    (h : ∀ transparent word, Cut ctx.projViewMat (surfaceKind transparent false)
      (pieces transparent word) (tessellate transparent word))
    (hmode : ctx.drawMode ≠ .outline)
    (hall : (queueSurface T ctx box edges materialIndex tessellate S).1.onscreen = true) :
    let transparent := materialTransparent ctx.drawMode ctx.materials materialIndex
    let S' := (queueSurface T ctx box edges materialIndex tessellate S).1
    (ctx.remesh = false ∧ S.onscreen = true ∧ S' = S) ∨
      facets S'.append = wholeFacets (surfaceKind transparent false)
        (pieces transparent (BezierPatch.materialWord transparent false materialIndex)) := by
  dsimp only
  rw [queueSurface] at hall ⊢
  by_cases hoff : ctx.offscreen box = true
  · rw [if_pos hoff] at hall
    exact absurd hall Bool.false_ne_true
  rw [if_neg hoff, if_neg hmode] at hall ⊢
  by_cases hfast : (!ctx.remesh && S.onscreen) = true
  · rw [if_pos hfast]
    rw [Bool.and_eq_true, Bool.not_eq_true'] at hfast
    exact Or.inl ⟨hfast.1, hfast.2, rfl⟩
  · rw [if_neg hfast] at hall ⊢
    exact Or.inr (facets_append_queue (h _ _) hall)

/-- In `OUTLINE` mode a surface has no triangles. -/
theorem facets_queueSurface_outline {edges : List (Vector (Vec3 K) 4)}
    (hmode : ctx.drawMode = .outline) :
    facets (queueSurface T ctx box edges materialIndex tessellate S).2 = [] := by
  rw [queueSurface]
  by_cases hoff : ctx.offscreen box = true
  · rw [if_pos hoff]
    rfl
  · rw [if_neg hoff, if_pos hmode]
    exact facets_curves _ _

/-- A surface with corner colours. -/
theorem facets_queueColoredSurface {outline : Effects K}
    (houtline : ctx.drawMode = .outline → facets outline = [])
    {cornerColors : List (Vec4 K)} {pieces : Bool → Int32 → List (Piece K)}
    (h : ∀ transparent word, Cut ctx.projViewMat (surfaceKind transparent true)
      (pieces transparent word) (tessellate transparent word)) :
    let transparent := cornersTransparent ctx.drawMode cornerColors
    facets (queueColoredSurface ctx box outline cornerColors materialIndex tessellate S).2 =
      pathFacets ctx box S.onscreen (facets S.append)
        (cutFacets ctx.projViewMat (surfaceKind transparent true)
          (pieces transparent (BezierPatch.materialWord transparent true materialIndex))) := by
  dsimp only
  rw [queueColoredSurface, pathFacets]
  by_cases hmode : ctx.drawMode = .outline
  · rw [if_pos hmode, if_pos (Or.inr hmode)]
    exact houtline hmode
  by_cases hoff : ctx.offscreen box = true
  · rw [if_neg hmode, if_pos hoff, if_pos (Or.inl hoff)]
    rfl
  rw [if_neg hmode, if_neg hoff, if_neg (not_or.mpr ⟨hoff, hmode⟩)]
  by_cases hfast : (!ctx.remesh && S.onscreen) = true
  · rw [if_pos hfast, if_pos hfast]
  · rw [if_neg hfast, if_neg hfast]
    exact facets_queue (h _ _)

/-- It keeps what it has appended, and whether that was all of it. -/
theorem keeps_queueColoredSurface {outline : Effects K} {cornerColors : List (Vec4 K)}
    {pieces : Bool → Int32 → List (Piece K)}
    (h : ∀ transparent word, Cut ctx.projViewMat (surfaceKind transparent true)
      (pieces transparent word) (tessellate transparent word))
    (hmode : ctx.drawMode ≠ .outline)
    (hall : (queueColoredSurface ctx box outline cornerColors materialIndex tessellate
      S).1.onscreen = true) :
    let transparent := cornersTransparent ctx.drawMode cornerColors
    let S' := (queueColoredSurface ctx box outline cornerColors materialIndex tessellate S).1
    (ctx.remesh = false ∧ S.onscreen = true ∧ S' = S) ∨
      facets S'.append = wholeFacets (surfaceKind transparent true)
        (pieces transparent (BezierPatch.materialWord transparent true materialIndex)) := by
  dsimp only
  rw [queueColoredSurface, if_neg hmode] at hall ⊢
  by_cases hoff : ctx.offscreen box = true
  · rw [if_pos hoff] at hall
    exact absurd hall Bool.false_ne_true
  rw [if_neg hoff] at hall ⊢
  by_cases hfast : (!ctx.remesh && S.onscreen) = true
  · rw [if_pos hfast]
    rw [Bool.and_eq_true, Bool.not_eq_true'] at hfast
    exact Or.inl ⟨hfast.1, hfast.2, rfl⟩
  · rw [if_neg hfast] at hall ⊢
    exact Or.inr (facets_append_queue (h _ _) hall)

end Surfaces

/-! ### Straight polygons -/

section Polygons

variable {ctx : QueueContext K K} {box : Vec3 K × Vec3 K} {edges : List (Vec3 K × Vec3 K)}
  {ts : List (Corners K)} {normal : Vec3 K} {centerIndex materialIndex : UInt32} {st : FlatState K}

/-- The piece of a triangle of a polygon: its own test is the only one. -/
def Corners.pieces (vertices : List (Vertex K)) (t : Corners K) : List (Piece K) :=
  ((threes t.indices).filterMap (facet? vertices)).map
    (Piece.mk [(t.points.1, [t.points.2.1, t.points.2.2])])

/-- The pieces of a polygon. -/
def polygonPieces (vertices : List (Vertex K)) (ts : List (Corners K)) : List (Piece K) :=
  ts.flatMap (Corners.pieces vertices)

/-- The vertices of a polygon with a material. -/
def flatVertices (transparent : Bool) (points : List (Vec3 K)) (normal : Vec3 K)
    (materialIndex : UInt32) : List (Vertex K) :=
  let zero : K := Scalar.lit 0
  points.map fun p =>
    if transparent then
      .color ⟨p.narrow, normal.narrow, (1 + materialIndex).toInt32, ⟨zero, zero, zero, zero⟩⟩
    else .material ⟨p.narrow, normal.narrow, materialIndex.toInt32⟩

/-- The vertices of a polygon with corner colours. -/
def coloredVertices (points : List (Vec3 K × Vec4 K)) (normal : Vec3 K) (materialIndex : UInt32) :
    List (Vertex K) :=
  points.map fun (p, color) =>
    .color ⟨p.narrow, normal.narrow, -1 - materialIndex.toInt32, color⟩

/-- A triangle of a polygon is its own only piece. -/
theorem kept_pieces (vertices : List (Vertex K)) (ctx : QueueContext K K) (t : Corners K) :
    ∀ piece ∈ t.pieces vertices, piece.kept ctx.projViewMat = !t.offscreen ctx := by
  intro piece hpiece
  obtain ⟨f, -, rfl⟩ := List.mem_map.mp hpiece
  exact Bool.and_true _

/-- The indices of the triangles that are not offscreen are those of the pieces that are kept. -/
theorem facets_cornerIndices (vertices : List (Vertex K)) (h : ∀ t ∈ ts, t.indices.length = 3) :
    (threes (cornerIndices ctx ts)).filterMap (facet? vertices) =
      ((polygonPieces vertices ts).filter (Piece.kept ctx.projViewMat)).map Piece.facet := by
  induction ts with
  | nil => rfl
  | cons t ts ih =>
    obtain ⟨ht, hts⟩ := List.forall_mem_cons.mp h
    have hkept := kept_pieces vertices ctx t
    rw [polygonPieces, List.flatMap_cons, List.filter_append, List.map_append]
    cases hoff : t.offscreen ctx with
    | true =>
      have hcut : (t.pieces vertices).filter (Piece.kept ctx.projViewMat) = [] :=
        List.filter_eq_nil_iff.mpr fun piece hpiece => by simp [hkept piece hpiece, hoff]
      have hindices : cornerIndices ctx (t :: ts) = cornerIndices ctx ts := by
        rw [cornerIndices, List.filter_cons_of_neg (by simp [hoff]), cornerIndices]
      rw [hcut, hindices, ih hts]
      rfl
    | false =>
      have hall : (t.pieces vertices).filter (Piece.kept ctx.projViewMat) = t.pieces vertices :=
        List.filter_eq_self.mpr fun piece hpiece => by simp [hkept piece hpiece, hoff]
      have hindices : cornerIndices ctx (t :: ts) = t.indices ++ cornerIndices ctx ts := by
        rw [cornerIndices, List.filter_cons_of_pos (by simp [hoff]), cornerIndices,
          List.flatMap_cons]
      rw [hall, hindices, threes_append ht, List.filterMap_append, ih hts, Corners.pieces,
        List.map_map]
      exact congrArg (· ++ _) (List.map_id _).symm

/-- A polygon whose triangles are all onscreen keeps all its pieces. -/
theorem polygonPieces_kept {vertices : List (Vertex K)}
    (h : (ts.all fun t => !t.offscreen ctx) = true) :
    (polygonPieces vertices ts).filter (Piece.kept ctx.projViewMat) =
      polygonPieces vertices ts := by
  refine List.filter_eq_self.mpr fun piece hpiece => ?_
  obtain ⟨t, ht, hpiece⟩ := List.mem_flatMap.mp hpiece
  rw [kept_pieces vertices ctx t piece hpiece]
  exact List.all_eq_true.mp h t ht

/-- What a polygon builds: its vertices, and the triangles that are not offscreen. -/
theorem facets_built {data : VertexData K} {vertices : List (Vertex K)} {transparent color : Bool}
    (hvdata : data.vdata (surfaceKind transparent color) = vertices)
    (hindices : data.indices = cornerIndices ctx ts) (h : ∀ t ∈ ts, t.indices.length = 3) :
    facets [.put (surfaceKind transparent color) data] =
      cutFacets ctx.projViewMat (surfaceKind transparent color) (polygonPieces vertices ts) := by
  have hkind := surfaceKind_ne transparent color
  rw [facets_put hkind.1 hkind.2, VertexData.facets, hvdata, hindices,
    facets_cornerIndices vertices h, cutFacets, wholeFacets, List.map_map]
  rfl

/-- The mesh of a polygon with a material, as `queueFlat` builds it. -/
theorem facets_flatMesh {transparent : Bool} {points : List (Vec3 K)}
    (h : ∀ t ∈ ts, t.indices.length = 3) :
    let zero : K := Scalar.lit 0
    let word := (1 + materialIndex).toInt32
    let S : VertexData K :=
      if transparent then
        { VertexData.empty with
          colorVertices :=
            points.map fun p => ⟨p.narrow, normal.narrow, word, ⟨zero, zero, zero, zero⟩⟩
          indices := cornerIndices ctx ts }
      else
        { VertexData.empty with
          materialVertices := points.map fun p => ⟨p.narrow, normal.narrow, materialIndex.toInt32⟩
          indices := cornerIndices ctx ts }
    facets [.put (surfaceKind transparent false) S] =
      cutFacets ctx.projViewMat (surfaceKind transparent false)
        (polygonPieces (flatVertices transparent points normal materialIndex) ts) := by
  cases transparent with
  | true => exact facets_built (List.map_map ..) rfl h
  | false => exact facets_built (List.map_map ..) rfl h

/-- The mesh of a polygon with corner colours, as `queueColoredFlat` builds it. -/
theorem facets_coloredMesh (transparent : Bool) {points : List (Vec3 K × Vec4 K)}
    (h : ∀ t ∈ ts, t.indices.length = 3) :
    let S : VertexData K :=
      { VertexData.empty with
        colorVertices :=
          points.map fun (p, color) =>
            ⟨p.narrow, normal.narrow, -1 - materialIndex.toInt32, color⟩
        indices := cornerIndices ctx ts }
    facets [.put (surfaceKind transparent true) S] =
      cutFacets ctx.projViewMat (surfaceKind transparent true)
        (polygonPieces (coloredVertices points normal materialIndex) ts) := by
  cases transparent with
  | true => exact facets_built (List.map_map ..) rfl h
  | false => exact facets_built (List.map_map ..) rfl h

/-- **What a quadrilateral or triangle of one material appends.** -/
theorem facets_queueFlat {points : List (Vec3 K)} (h : ∀ t ∈ ts, t.indices.length = 3) :
    let transparent := materialTransparent ctx.drawMode ctx.materials materialIndex
    facets (queueFlat ctx box points edges ts normal centerIndex materialIndex st).2 =
      pathFacets ctx box (st.onscreen && centerIndex == 0)
        (facets [.put (flatKind st.S_color) st.S])
        (cutFacets ctx.projViewMat (surfaceKind transparent false)
          (polygonPieces (flatVertices transparent points normal materialIndex) ts)) := by
  dsimp only
  rw [queueFlat, pathFacets, ← Bool.and_assoc]
  by_cases hoff : ctx.offscreen box = true
  · rw [if_pos hoff, if_pos (Or.inl hoff)]
    rfl
  by_cases hmode : ctx.drawMode = .outline
  · rw [if_neg hoff, if_pos hmode, if_pos (Or.inr hmode)]
    exact facets_curves _ _
  rw [if_neg hoff, if_neg hmode, if_neg (not_or.mpr ⟨hoff, hmode⟩)]
  by_cases hfast : (!ctx.remesh && st.onscreen && centerIndex == 0) = true
  · rw [if_pos hfast, if_pos hfast]
  · rw [if_neg hfast, if_neg hfast]
    exact (facets_mark _ _).trans (facets_flatMesh h)

/-- The polygon's counterpart of `keeps_queueSurface`. -/
theorem keeps_queueFlat {points : List (Vec3 K)} (h : ∀ t ∈ ts, t.indices.length = 3)
    (hmode : ctx.drawMode ≠ .outline)
    (hall : (queueFlat ctx box points edges ts normal centerIndex materialIndex
      st).1.onscreen = true) :
    let transparent := materialTransparent ctx.drawMode ctx.materials materialIndex
    let st' := (queueFlat ctx box points edges ts normal centerIndex materialIndex st).1
    (ctx.remesh = false ∧ st.onscreen = true ∧ st' = st) ∨
      facets [.put (flatKind st'.S_color) st'.S] = wholeFacets (surfaceKind transparent false)
        (polygonPieces (flatVertices transparent points normal materialIndex) ts) := by
  dsimp only
  rw [queueFlat] at hall ⊢
  by_cases hoff : ctx.offscreen box = true
  · rw [if_pos hoff] at hall
    exact absurd hall Bool.false_ne_true
  rw [if_neg hoff, if_neg hmode] at hall ⊢
  by_cases hfast : (!ctx.remesh && st.onscreen && centerIndex == 0) = true
  · rw [if_pos hfast]
    rw [Bool.and_eq_true, Bool.and_eq_true, Bool.not_eq_true'] at hfast
    exact Or.inl ⟨hfast.1.1, hfast.1.2, rfl⟩
  · rw [if_neg hfast] at hall ⊢
    refine Or.inr ((facets_flatMesh h).trans ?_)
    rw [cutFacets, polygonPieces_kept hall]

/-- One with corner colours. -/
theorem facets_queueColoredFlat {points : List (Vec3 K × Vec4 K)}
    (h : ∀ t ∈ ts, t.indices.length = 3) :
    let transparent := cornersTransparent ctx.drawMode (points.map Prod.snd)
    facets (queueColoredFlat ctx box points edges ts normal centerIndex materialIndex st).2 =
      pathFacets ctx box (st.onscreen && centerIndex == 0)
        (facets [.put (colorKind transparent) st.S])
        (cutFacets ctx.projViewMat (surfaceKind transparent true)
          (polygonPieces (coloredVertices points normal materialIndex) ts)) := by
  dsimp only
  rw [queueColoredFlat, pathFacets, ← Bool.and_assoc]
  by_cases hoff : ctx.offscreen box = true
  · rw [if_pos hoff, if_pos (Or.inl hoff)]
    rfl
  by_cases hmode : ctx.drawMode = .outline
  · rw [if_neg hoff, if_pos hmode, if_pos (Or.inr hmode)]
    exact facets_curves _ _
  rw [if_neg hoff, if_neg hmode, if_neg (not_or.mpr ⟨hoff, hmode⟩)]
  by_cases hfast : (!ctx.remesh && st.onscreen && centerIndex == 0) = true
  · rw [if_pos hfast, if_pos hfast]
  · rw [if_neg hfast, if_neg hfast]
    exact (facets_mark _ _).trans (facets_coloredMesh _ h)

/-- It keeps what it has appended, and whether that was all of it. -/
theorem keeps_queueColoredFlat {points : List (Vec3 K × Vec4 K)}
    (h : ∀ t ∈ ts, t.indices.length = 3) (hmode : ctx.drawMode ≠ .outline)
    (hall : (queueColoredFlat ctx box points edges ts normal centerIndex materialIndex
      st).1.onscreen = true) :
    let transparent := cornersTransparent ctx.drawMode (points.map Prod.snd)
    let st' := (queueColoredFlat ctx box points edges ts normal centerIndex materialIndex st).1
    (ctx.remesh = false ∧ st.onscreen = true ∧ st' = st) ∨
      facets [.put (colorKind transparent) st'.S] = wholeFacets (surfaceKind transparent true)
        (polygonPieces (coloredVertices points normal materialIndex) ts) := by
  dsimp only
  rw [queueColoredFlat] at hall ⊢
  by_cases hoff : ctx.offscreen box = true
  · rw [if_pos hoff] at hall
    exact absurd hall Bool.false_ne_true
  rw [if_neg hoff, if_neg hmode] at hall ⊢
  by_cases hfast : (!ctx.remesh && st.onscreen && centerIndex == 0) = true
  · rw [if_pos hfast]
    rw [Bool.and_eq_true, Bool.and_eq_true, Bool.not_eq_true'] at hfast
    exact Or.inl ⟨hfast.1.1, hfast.1.2, rfl⟩
  · rw [if_neg hfast] at hall ⊢
    refine Or.inr ((facets_coloredMesh _ h).trans ?_)
    rw [cutFacets, polygonPieces_kept hall]

end Polygons

/-! ### The eight surfaces -/

/-- The objects whose triangles are kept from frame to frame: Bezier patches and triangles, planar
quads and straight triangles, with and without corner colours. -/
def V3dObject.IsSurface : V3dObject K K → Prop
  | bezierPatch _ | bezierTriangle _ | bezierPatchColor _ | bezierTriangleColor _ => True
  | quad _ | triangle _ | quadColor _ | triangleColor _ => True
  | triangles _ | sphere _ | halfSphere _ | disk _ | cylinder _ | tube _ | curve _ | line _
  | pixel _ => False

/-- The colours of the corners of a polygon, as its points are built. -/
def cornerPoints {n : Nat} (vertices : Vector (Vec3 K) n) (colors : Vector (Vec4 K) n) :
    List (Vec3 K × Vec4 K) := vertices.toList.zip colors.toList

/-- The complete mesh of a surface, and the buffer it goes to: the pieces do not depend on the
view. -/
def V3dObject.pieces {T : Tessellation K K} (R : T.Refined) (ctx : QueueContext K K) :
    V3dObject K K → BufferKind × List (Piece K)
  | bezierPatch o =>
    let transparent := materialTransparent ctx.drawMode ctx.materials o.materialIndex
    (surfaceKind transparent false, R.patch ctx.ratio transparent none
      (BezierPatch.materialWord transparent false o.materialIndex) o.controlPoints)
  | bezierTriangle o =>
    let transparent := materialTransparent ctx.drawMode ctx.materials o.materialIndex
    (surfaceKind transparent false, R.triangle ctx.ratio transparent none
      (BezierPatch.materialWord transparent false o.materialIndex) o.controlPoints)
  | bezierPatchColor o =>
    let corners := o.cornerColors.toList
    let transparent := cornersTransparent ctx.drawMode corners
    (surfaceKind transparent true, R.patch ctx.ratio transparent (some corners)
      (BezierPatch.materialWord transparent true o.materialIndex) o.controlPoints)
  | bezierTriangleColor o =>
    let corners := o.cornerColors.toList
    let transparent := cornersTransparent ctx.drawMode corners
    (surfaceKind transparent true, R.triangle ctx.ratio transparent (some corners)
      (BezierPatch.materialWord transparent true o.materialIndex) o.controlPoints)
  | quad o =>
    let p := o.vertices
    let transparent := materialTransparent ctx.drawMode ctx.materials o.materialIndex
    (surfaceKind transparent false, polygonPieces
      (flatVertices transparent p.toList (quadNormal p) o.materialIndex)
      (quadCorners p))
  | triangle o =>
    let p := o.vertices
    let transparent := materialTransparent ctx.drawMode ctx.materials o.materialIndex
    (surfaceKind transparent false, polygonPieces
      (flatVertices transparent p.toList (triangleNormal p) o.materialIndex)
      (triangleCorners p))
  | quadColor o =>
    let p := o.vertices
    let points := cornerPoints p o.cornerColors
    (surfaceKind (cornersTransparent ctx.drawMode (points.map Prod.snd)) true, polygonPieces
      (coloredVertices points (quadNormal p) o.materialIndex) (quadCorners p))
  | triangleColor o =>
    let p := o.vertices
    let points := cornerPoints p o.cornerColors
    (surfaceKind (cornersTransparent ctx.drawMode (points.map Prod.snd)) true, polygonPieces
      (coloredVertices points (triangleNormal p) o.materialIndex)
      (triangleCorners p))
  | triangles _ | sphere _ | halfSphere _ | disk _ | cylinder _ | tube _ | curve _ | line _
  | pixel _ => (.point, [])

namespace SceneObject

/-- The flag of the fast path: `S.Onscreen`, or `quadOnscreen` and `triOnscreen` of an object that
is no billboard. -/
def keepsAll : SceneObject K K → Bool
  | bezierPatch _ S | bezierTriangle _ S | bezierPatchColor _ S | bezierTriangleColor _ S =>
    S.onscreen
  | quad o st => st.onscreen && o.centerIndex == 0
  | triangle o st => st.onscreen && o.centerIndex == 0
  | quadColor o st => st.onscreen && o.centerIndex == 0
  | triangleColor o st => st.onscreen && o.centerIndex == 0
  | triangles _ _ | sphere _ | halfSphere _ | disk _ | cylinder _ | tube _ | curve _ _ | line _ _
  | pixel _ => false

/-- The triangles the fast path appends. -/
def again (drawMode : DrawMode) : SceneObject K K → List (BufferKind × Facet K)
  | bezierPatch _ S | bezierTriangle _ S | bezierPatchColor _ S | bezierTriangleColor _ S =>
    facets S.append
  | quad _ st | triangle _ st => facets [.put (flatKind st.S_color) st.S]
  | quadColor o st =>
    facets [.put (colorKind (OkularV3d.cornersTransparent drawMode
      ((cornerPoints o.vertices o.cornerColors).map Prod.snd))) st.S]
  | triangleColor o st =>
    facets [.put (colorKind (OkularV3d.cornersTransparent drawMode
      ((cornerPoints o.vertices o.cornerColors).map Prod.snd))) st.S]
  | triangles _ _ | sphere _ | halfSphere _ | disk _ | cylinder _ | tube _ | curve _ _ | line _ _
  | pixel _ => []

variable {T : Tessellation K K} {ctx : QueueContext K K} {o : SceneObject K K}

/-- The pieces of a patch and of a Bezier triangle, with or without corner colours. -/
theorem cut_patch (R : T.Refined) (ctx : QueueContext K K) (colors : Option (List (Vec4 K)))
    (p : Vector (Vec3 K) 16) (transparent : Bool) (word : Int32) :
    Cut ctx.projViewMat (surfaceKind transparent colors.isSome)
      (R.patch ctx.ratio transparent colors word p)
      (T.patch ctx.projViewMat ctx.ratio transparent colors word p) :=
  R.cut_patch ..

/-- A Bezier triangle is cut out of its complete mesh, with or without colours. -/
theorem cut_triangle (R : T.Refined) (ctx : QueueContext K K) (colors : Option (List (Vec4 K)))
    (p : Vector (Vec3 K) 10) (transparent : Bool) (word : Int32) :
    Cut ctx.projViewMat (surfaceKind transparent colors.isSome)
      (R.triangle ctx.ratio transparent colors word p)
      (T.triangle ctx.projViewMat ctx.ratio transparent colors word p) :=
  R.cut_triangle ..

/-- **The paths of a surface.** -/
theorem facets_queueMesh (R : T.Refined) (ho : o.object.IsSurface) {box : Vec3 K × Vec3 K}
    (hbox : o.bounds? T ctx = some box) :
    facets (o.QueueMesh T ctx).2 =
      pathFacets ctx box o.keepsAll (o.again ctx.drawMode)
        (cutFacets ctx.projViewMat (o.object.pieces R ctx).1 (o.object.pieces R ctx).2) := by
  cases o with
  | bezierPatch o S =>
    cases hbox
    exact facets_queueSurface (cut_patch R ctx none o.controlPoints)
  | bezierTriangle o S =>
    cases hbox
    exact facets_queueSurface (cut_triangle R ctx none o.controlPoints)
  | bezierPatchColor o S =>
    cases hbox
    -- an outline has edges, and no facets
    have houtline : ctx.drawMode = .outline →
        facets (V3dBezierPatch.QueueMesh T { ctx with remesh := true }
          ⟨o.controlPoints, o.centerIndex, o.materialIndex⟩ .init).2 = [] := by
      intro hmode
      rw [V3dBezierPatch.QueueMesh]
      exact facets_queueSurface_outline hmode
    exact facets_queueColoredSurface houtline
      (cut_patch R ctx (some o.cornerColors.toList) o.controlPoints)
  | bezierTriangleColor o S =>
    cases hbox
    have houtline : ctx.drawMode = .outline →
        facets (V3dBezierTriangle.QueueMesh T ctx
          ⟨o.controlPoints, o.centerIndex, o.materialIndex⟩ .init).2 = [] := by
      intro hmode
      rw [V3dBezierTriangle.QueueMesh]
      exact facets_queueSurface_outline hmode
    exact facets_queueColoredSurface houtline
      (cut_triangle R ctx (some o.cornerColors.toList) o.controlPoints)
  | quad o st =>
    cases hbox
    exact facets_queueFlat (by simp [quadCorners])
  | triangle o st =>
    cases hbox
    exact facets_queueFlat (by simp)
  | quadColor o st =>
    cases hbox
    exact facets_queueColoredFlat (by simp [quadCorners])
  | triangleColor o st =>
    cases hbox
    exact facets_queueColoredFlat (by simp)
  | triangles | sphere | halfSphere | disk | cylinder | tube | curve | line | pixel =>
    exact ho.elim

/-- **What is kept.** -/
theorem keeps_queueMesh (R : T.Refined) (hmode : ctx.drawMode ≠ .outline)
    (hall : (o.QueueMesh T ctx).1.keepsAll = true) :
    (ctx.remesh = false ∧ o.keepsAll = true ∧ (o.QueueMesh T ctx).1 = o) ∨
      (o.QueueMesh T ctx).1.again ctx.drawMode =
        wholeFacets (o.object.pieces R ctx).1 (o.object.pieces R ctx).2 := by
  -- the state of a billboard is never used again
  have hflat : ∀ {P : Prop} {st st' : FlatState K} {centerIndex : UInt32}
      {wrap : FlatState K → SceneObject K K},
      (st'.onscreen && centerIndex == 0) = true →
      ((ctx.remesh = false ∧ st.onscreen = true ∧ st' = st) ∨ P) →
      (ctx.remesh = false ∧ (st.onscreen && centerIndex == 0) = true ∧ wrap st' = wrap st) ∨
        P := by
    intro P st st' centerIndex wrap hall h
    obtain ⟨hremesh, hon, hst⟩ | h := h
    · exact Or.inl ⟨hremesh, hst ▸ hall, congrArg wrap hst⟩
    · exact Or.inr h
  have hsurface : ∀ {P : Prop} {S S' : BezierPatch K} {wrap : BezierPatch K → SceneObject K K},
      ((ctx.remesh = false ∧ S.onscreen = true ∧ S' = S) ∨ P) →
      (ctx.remesh = false ∧ S.onscreen = true ∧ wrap S' = wrap S) ∨ P := by
    intro P S S' wrap h
    exact h.imp_left fun h => ⟨h.1, h.2.1, congrArg wrap h.2.2⟩
  cases o with
  | bezierPatch o S =>
    exact hsurface (keeps_queueSurface (cut_patch R ctx none o.controlPoints) hmode hall)
  | bezierTriangle o S =>
    exact hsurface (keeps_queueSurface (cut_triangle R ctx none o.controlPoints) hmode hall)
  | bezierPatchColor o S =>
    exact hsurface (keeps_queueColoredSurface
      (cut_patch R ctx (some o.cornerColors.toList) o.controlPoints) hmode hall)
  | bezierTriangleColor o S =>
    exact hsurface (keeps_queueColoredSurface
      (cut_triangle R ctx (some o.cornerColors.toList) o.controlPoints) hmode hall)
  | quad o st =>
    exact hflat hall (keeps_queueFlat (by simp [quadCorners]) hmode
      (Bool.and_eq_true_iff.mp hall).1)
  | triangle o st =>
    exact hflat hall (keeps_queueFlat (by simp) hmode (Bool.and_eq_true_iff.mp hall).1)
  | quadColor o st =>
    exact hflat hall (keeps_queueColoredFlat (by simp [quadCorners]) hmode
      (Bool.and_eq_true_iff.mp hall).1)
  | triangleColor o st =>
    exact hflat hall (keeps_queueColoredFlat (by simp) hmode (Bool.and_eq_true_iff.mp hall).1)
  | triangles | sphere | halfSphere | disk | cylinder | tube | curve | line | pixel =>
    exact absurd hall Bool.false_ne_true

/-- A surface always tests its bounds. -/
theorem exists_bounds (T : Tessellation K K) (ctx : QueueContext K K)
    (ho : o.object.IsSurface) : ∃ box, o.bounds? T ctx = some box := by
  cases o with
  | bezierPatch | bezierTriangle | bezierPatchColor | bezierTriangleColor | quad | triangle
  | quadColor | triangleColor => exact ⟨_, rfl⟩
  | triangles | sphere | halfSphere | disk | cylinder | tube | curve | line | pixel =>
    exact ho.elim

/-- What a new copy of a surface appends when `remesh` is passed. -/
theorem facets_ofObject (R : T.Refined) (ho : o.object.IsSurface) {box : Vec3 K × Vec3 K}
    (hbox : o.bounds? T ctx = some box) :
    facets ((ofObject o.object).QueueMesh T { ctx with remesh := true }).2 =
      if ctx.offscreen box ∨ ctx.drawMode = .outline then []
      else cutFacets ctx.projViewMat (o.object.pieces R ctx).1 (o.object.pieces R ctx).2 := by
  have hobject : (ofObject o.object).object = o.object := by cases o <;> rfl
  have hbox' : (ofObject o.object).bounds? T { ctx with remesh := true } = some box := by
    cases o <;> exact hbox
  have hpieces : o.object.pieces R { ctx with remesh := true } = o.object.pieces R ctx := by
    cases o <;> rfl
  have ho' : (ofObject o.object).object.IsSurface := by
    rw [hobject]
    exact ho
  rw [facets_queueMesh R ho' hbox', hobject, hpieces]
  rfl

end SceneObject

/-! ### Frames -/

/-- The inputs of two frames agree, but for the view: draw mode, materials, image size and window,
and the projection being orthographic or not, which a file says once. -/
structure SameInputs (prev ctx : QueueContext K K) : Prop where
  drawMode : prev.drawMode = ctx.drawMode
  materials : prev.materials = ctx.materials
  imageWidth : prev.imageWidth = ctx.imageWidth
  imageHeight : prev.imageHeight = ctx.imageHeight
  sceneMinBound : prev.sceneMinBound = ctx.sceneMinBound
  sceneMaxBound : prev.sceneMaxBound = ctx.sceneMaxBound
  orthographic : prev.orthographic = ctx.orthographic

/-- The resolution depends on the ratio, which is one of the inputs. -/
theorem SameInputs.ratio {prev ctx : QueueContext K K} (h : SameInputs prev ctx) :
    prev.ratio = ctx.ratio := by
  rw [QueueContext.ratio, QueueContext.ratio, h.imageWidth, h.imageHeight, h.sceneMinBound,
    h.sceneMaxBound, h.orthographic]

/-- The complete mesh is the same in every view. -/
theorem SameInputs.pieces {T : Tessellation K K} (R : T.Refined) {prev ctx : QueueContext K K}
    (h : SameInputs prev ctx) (o : V3dObject K K) : o.pieces R prev = o.pieces R ctx := by
  cases o <;> simp only [V3dObject.pieces, h.drawMode, h.materials, h.ratio]

/-- An object from frame to frame, with the inputs of the frame before. -/
structure Animation (K : Type) [ExactScalar K] where
  object : SceneObject K K
  last : Option (QueueContext K K)

namespace Animation

/-- A new object, before its first frame. -/
def init (o : V3dObject K K) : Animation K := ⟨.ofObject o, none⟩

/-- A frame. -/
def step (T : Tessellation K K) (s : Animation K) (ctx : QueueContext K K) : Animation K :=
  ⟨(s.object.QueueMesh T ctx).1, some ctx⟩

/-- `remesh` is passed on the first frame, and whenever anything but the view has changed. -/
def Announced (s : Animation K) (ctx : QueueContext K K) : Prop :=
  ctx.remesh = true ∨ ∃ prev, s.last = some prev ∧ SameInputs prev ctx

/-- What a new copy of the object would append in this frame, with `remesh`. -/
def fresh (T : Tessellation K K) (s : Animation K) (ctx : QueueContext K K) : Effects K :=
  ((SceneObject.ofObject s.object.object).QueueMesh T { ctx with remesh := true }).2

open Classical in
/-- The triangles that do not lie entirely outside the clip volume. -/
noncomputable def seen (projViewMat : Mat4 K) (fs : List (BufferKind × Facet K)) :
    List (BufferKind × Facet K) :=
  fs.filter fun f => decide (f.2.Visible projViewMat)

/-- **The fast path shows what the slow path shows**: the triangles of the frame are those of a new
object, each as often and in the same buffer, but for triangles that cannot be seen. -/
def SameFacets (T : Tessellation K K) (s : Animation K) (ctx : QueueContext K K) : Prop :=
  (seen ctx.projViewMat (facets (s.object.QueueMesh T ctx).2)).Perm
    (seen ctx.projViewMat (facets (s.fresh T ctx)))

/-- The object takes its fast path. -/
def Reuses (T : Tessellation K K) (s : Animation K) (ctx : QueueContext K K) : Prop :=
  ctx.remesh = false ∧ s.object.keepsAll = true ∧ ctx.drawMode ≠ .outline ∧
    ∃ box, s.object.bounds? T ctx = some box ∧ ctx.offscreen box = false

/-- A frame on the fast path has nothing to cut off that can be seen: the pieces of the object that
some test finds offscreen in this view lie outside the clip volume. -/
def CutsNothingSeen {T : Tessellation K K} (R : T.Refined) (s : Animation K)
    (ctx : QueueContext K K) : Prop :=
  s.Reuses T ctx → ∀ piece ∈ (s.object.object.pieces R ctx).2,
    piece.kept ctx.projViewMat = false → ¬ piece.facet.Visible ctx.projViewMat

variable {T : Tessellation K K} {s : Animation K} {ctx : QueueContext K K}

/-- A mesh and what is left of it show the same exactly when nothing that can be seen is left
out. -/
theorem seen_perm_iff (projViewMat : Mat4 K) (kind : BufferKind) (pieces : List (Piece K)) :
    (seen projViewMat (wholeFacets kind pieces)).Perm
        (seen projViewMat (cutFacets projViewMat kind pieces)) ↔
      ∀ piece ∈ pieces, piece.kept projViewMat = false → ¬ piece.facet.Visible projViewMat := by
  classical
  let visible : Piece K → Bool := fun piece => decide (piece.facet.Visible projViewMat)
  have hseen : ∀ pieces : List (Piece K), seen projViewMat (wholeFacets kind pieces) =
      wholeFacets kind (pieces.filter visible) := by
    intro pieces
    rw [seen, wholeFacets, List.filter_map]
    rfl
  rw [cutFacets, hseen, hseen, List.filter_filter]
  constructor
  · intro h piece hpiece hcut hvisible
    have hlength := h.length_eq
    simp only [wholeFacets, List.length_map] at hlength
    -- as many are left of the visible pieces as there are, so all of them are kept
    have hcomm : pieces.filter (fun piece => visible piece && piece.kept projViewMat) =
        (pieces.filter visible).filter (Piece.kept projViewMat) := by
      rw [List.filter_filter]
      exact List.filter_congr fun piece _ => Bool.and_comm ..
    rw [hcomm] at hlength
    have hkept := List.length_filter_eq_length_iff.mp hlength.symm piece
      (List.mem_filter.mpr ⟨hpiece, decide_eq_true hvisible⟩)
    exact absurd (hcut.symm.trans hkept) Bool.false_ne_true
  · intro h
    have hsame : pieces.filter (fun piece => visible piece && piece.kept projViewMat) =
        pieces.filter visible := by
      refine List.filter_congr fun piece hpiece => ?_
      cases hkept : piece.kept projViewMat with
      | true => exact Bool.and_true _
      | false =>
        have hhidden : visible piece = false := decide_eq_false (h piece hpiece hkept)
        rw [hhidden]
        rfl
    rw [hsame]

/-- What an object keeps is complete, whenever it may be used again. -/
def Sound {T : Tessellation K K} (R : T.Refined) (s : Animation K) : Prop :=
  s.object.object.IsSurface ∧
    ∀ prev, s.last = some prev → prev.drawMode ≠ .outline → s.object.keepsAll = true →
      s.object.again prev.drawMode =
        wholeFacets (s.object.object.pieces R prev).1 (s.object.object.pieces R prev).2

/-- A new surface has kept nothing. -/
theorem sound_init (R : T.Refined) {o : V3dObject K K} (ho : o.IsSurface) : (init o).Sound R := by
  refine ⟨?_, fun prev hlast => nomatch hlast⟩
  cases o <;> exact ho

/-- Where the fast path may be taken, the kept mesh is the complete mesh of this frame. -/
theorem Sound.again_eq {R : T.Refined} (hs : s.Sound R) (hannounced : s.Announced ctx)
    (hremesh : ctx.remesh = false) (hmode : ctx.drawMode ≠ .outline)
    (hall : s.object.keepsAll = true) :
    s.object.again ctx.drawMode =
      wholeFacets (s.object.object.pieces R ctx).1 (s.object.object.pieces R ctx).2 := by
  obtain hpassed | ⟨prev, hlast, hsame⟩ := hannounced
  · exact absurd (hremesh.symm.trans hpassed) Bool.false_ne_true
  · have hagain := hs.2 prev hlast (hsame.drawMode ▸ hmode) hall
    rw [hsame.pieces R, hsame.drawMode] at hagain
    exact hagain

/-- **Step lemma.** -/
theorem Sound.step {R : T.Refined} (hs : s.Sound R) (hannounced : s.Announced ctx) :
    (s.step T ctx).Sound R := by
  have hobject : (s.step T ctx).object.object = s.object.object :=
    V3dFile.object_queueMesh T ctx s.object
  refine ⟨hobject ▸ hs.1, fun prev hlast hmode hall => ?_⟩
  obtain rfl : ctx = prev := Option.some.inj hlast
  rw [hobject]
  obtain ⟨hremesh, hkept, hsame⟩ | hbuilt := SceneObject.keeps_queueMesh R hmode hall
  · have hagain := hs.again_eq hannounced hremesh hmode hkept
    rw [← hagain]
    exact congrArg (SceneObject.again ctx.drawMode) hsame
  · exact hbuilt

/-- **One frame** agrees with a new object exactly when it cuts nothing off that can be seen. -/
theorem sameFacets_iff {R : T.Refined} (hs : s.Sound R) (hannounced : s.Announced ctx) :
    s.SameFacets T ctx ↔ s.CutsNothingSeen R ctx := by
  obtain ⟨box, hbox⟩ := SceneObject.exists_bounds T ctx hs.1
  have hframe := SceneObject.facets_queueMesh R hs.1 hbox
  have hfresh := SceneObject.facets_ofObject R hs.1 hbox
  rw [SameFacets, fresh, hframe, hfresh, pathFacets]
  by_cases hhidden : ctx.offscreen box = true ∨ ctx.drawMode = .outline
  · rw [if_pos hhidden, if_pos hhidden]
    refine iff_of_true (List.Perm.refl _) ?_
    rintro ⟨-, -, hmode, box', hbox', hon⟩
    obtain rfl : box = box' := Option.some.inj (hbox.symm.trans hbox')
    obtain hoff | houtline := hhidden
    · exact absurd (hon.symm.trans hoff) Bool.false_ne_true
    · exact absurd houtline hmode
  rw [if_neg hhidden, if_neg hhidden]
  obtain ⟨hon, hmode⟩ := not_or.mp hhidden
  by_cases hfast : (!ctx.remesh && s.object.keepsAll) = true
  · rw [if_pos hfast]
    obtain ⟨hremesh, hall⟩ := Bool.and_eq_true_iff.mp hfast
    rw [Bool.not_eq_true'] at hremesh
    rw [hs.again_eq hannounced hremesh hmode hall, seen_perm_iff]
    have hreuses : s.Reuses T ctx :=
      ⟨hremesh, hall, hmode, box, hbox, Bool.not_eq_true _ ▸ hon⟩
    exact ⟨fun h _ => h, fun h => h hreuses⟩
  · rw [if_neg hfast]
    refine iff_of_true (List.Perm.refl _) ?_
    rintro ⟨hremesh, hall, -⟩
    exact absurd (by rw [hremesh, hall]; rfl) hfast

/-- **The fast path equals the slow path, along every run whose frames on the fast path cut off
nothing that can be seen**, and only along these. -/
theorem sameFacets_along_iff (R : T.Refined) {o : V3dObject K K} (ho : o.IsSurface)
    {frames : List (QueueContext K K)} (h : Along (step T) Announced (init o) frames) :
    Along (step T) (SameFacets T) (init o) frames ↔
      Along (step T) (CutsNothingSeen R) (init o) frames :=
  Along.iff_of_invariant (fun s _ (hs : Sound R s) hok => sameFacets_iff hs hok)
    (fun _ _ hs hok => hs.step hok) (sound_init R ho) h

/-! ### A triangle on both sides of the eye -/

/-- `endsOnly` draws no surfaces: they have no pieces. -/
def refinedEndsOnly : V3dFile.endsOnly.Refined where
  patch _ _ _ _ _ := []
  triangle _ _ _ _ _ := []
  cut_patch _ _ _ _ _ _ := ⟨rfl, rfl⟩
  cut_triangle _ _ _ _ _ _ := ⟨rfl, rfl⟩

/-- A view of the scene from far away, with `remesh`. -/
def fromAfar : QueueContext ℚ ℚ :=
  { V3dFile.fromOrigin with
    projViewMat := fun i => if i = 0 ∨ i = 5 ∨ i = 10 then 1 / 10 else if i = 15 then 1 else 0 }

/-- The next frame, seen straight on. -/
def thenStraightOn : QueueContext ℚ ℚ := { V3dFile.quarterTurned 1 with remesh := false }

/-- The next frame, from the origin. -/
def thenFromOrigin : QueueContext ℚ ℚ := { V3dFile.fromOrigin with remesh := false }

/-- The two frames differ in the view only. -/
theorem announced_thenFromOrigin (o : V3dObject ℚ ℚ) :
    Along (step V3dFile.endsOnly) Announced (init o) [fromAfar, thenFromOrigin] :=
  ⟨Or.inl rfl, Or.inr ⟨fromAfar, rfl, ⟨rfl, rfl, rfl, rfl, rfl, rfl, rfl⟩⟩, trivial⟩

/-- The triangle on both sides of the eye is appended again, where a new one would cut itself
off. -/
theorem not_sameFacets_thenFromOrigin :
    ¬ (Along (step V3dFile.endsOnly) Announced (init V3dFile.astride.object)
        [fromAfar, thenFromOrigin] →
      Along (step V3dFile.endsOnly) (SameFacets V3dFile.endsOnly) (init V3dFile.astride.object)
        [fromAfar, thenFromOrigin]) := by
  intro himp
  have hannounced := announced_thenFromOrigin V3dFile.astride.object
  have hsame := (himp hannounced).2.1
  have hsound := (sound_init refinedEndsOnly (o := V3dFile.astride.object) trivial).step
    hannounced.1
  rw [sameFacets_iff hsound hannounced.2.1] at hsame
  have hreuses : ((init V3dFile.astride.object).step V3dFile.endsOnly fromAfar).Reuses
      V3dFile.endsOnly thenFromOrigin :=
    ⟨rfl, by decide +kernel, by decide, _, rfl, by decide +kernel⟩
  have hpieces : (V3dFile.astride.object.pieces refinedEndsOnly thenFromOrigin).2 ≠ [] :=
    List.cons_ne_nil _ _
  have hcut : ∀ piece ∈ (V3dFile.astride.object.pieces refinedEndsOnly thenFromOrigin).2,
      piece.kept thenFromOrigin.projViewMat = false := by decide +kernel
  have hpiece := List.head_mem hpieces
  refine hsame hreuses _ hpiece (hcut _ hpiece) ?_
  exact ⟨⟨1 / 5, 0, 1 / 5⟩, V3dFile.mem_astride, by decide +kernel⟩

end Animation

end OkularV3d
