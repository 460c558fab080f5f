import OkularV3d.Scene.Library

/-!
# Surfaces whose subdivision ends

The fast path of a surface is compared with a new object in terms of one complete mesh, out of which
every view is cut (`Tessellation.Refined`). `Tessellation.library` has such a mesh for a surface
whose subdivision ends within its levels in every view. For the others it has none: where a view
culls the parts that take more, they are rendered, and elsewhere they are not.

Whether the subdivision ends is seen from the control points alone, because the parts of a piece
depend on nothing else.

* `BezierPatch.parts` and `BezierTriangle.parts` are the control points of the parts, and
  `Adaptive.endsWithin` follows them.
* `Tessellation.complete` is the library for the surfaces that end, with no triangles for the
  others.
* `refinedComplete` is its complete mesh. A surface of at most 15 levels has too few vertices for an
  index to wrap around (`count_render_lt`).
* `sameFacets_patchAcrossEdge` follows a patch on its fast path.
-/

namespace OkularV3d

open Adaptive Runs

/-! ### Shapes -/

section Shapes

variable {D F : Type} [Scalar D] [Scalar F] [Rounding D F] {R : SurfaceSetting D} {M N : Mesh F}

/-- The control points of the parts a piece of a patch is split into. -/
def BezierPatch.parts (res2 : D) (p : Vector (Vec3 D) 16) : List (Vector (Vec3 D) 16) :=
  let d := distance p
  if Scalar.lt d.1 res2 && Scalar.lt d.2 res2 then []
  else if Scalar.lt d.1 res2 then [(splitVertically p).1, (splitVertically p).2]
  else if Scalar.lt d.2 res2 then [(splitHorizontally p).1, (splitHorizontally p).2]
  else [(quarters p).s0, (quarters p).s1, (quarters p).s2, (quarters p).s3]

/-- The control points of the parts a piece of a Bezier triangle is split into. -/
def BezierTriangle.parts (res2 : D) (p : Vector (Vec3 D) 10) : List (Vector (Vec3 D) 10) :=
  if Scalar.lt (distance p) res2 then [] else [(split p).l, (split p).r, (split p).u, (split p).c]

/-- A view culls parts, and makes none. -/
theorem BezierPatch.mem_parts_of_mem_step {s t : PatchPiece UInt32 D F} (ht : t ∈ (step R s M).2) :
    t.p ∈ parts R.res2 s.p := by
  rw [step] at ht
  rw [parts]
  split_ifs at ht with hflat hoff hh hv
  · exact absurd ht List.not_mem_nil
  · exact absurd ht List.not_mem_nil
  · rw [if_neg hflat, if_pos hh]
    exact List.mem_map_of_mem (f := PatchPiece.p) ht
  · rw [if_neg hflat, if_neg hh, if_pos hv]
    exact List.mem_map_of_mem (f := PatchPiece.p) ht
  · rw [if_neg hflat, if_neg hh, if_neg hv]
    exact List.mem_map_of_mem (f := PatchPiece.p) ht

theorem BezierTriangle.mem_parts_of_mem_step {s t : TrianglePiece UInt32 D F}
    (ht : t ∈ (step R s M).2) : t.p ∈ parts R.res2 s.p := by
  rw [step] at ht
  rw [parts]
  split_ifs at ht with hflat hoff
  · exact absurd ht List.not_mem_nil
  · exact absurd ht List.not_mem_nil
  · rw [if_neg hflat]
    exact List.mem_map_of_mem (f := TrianglePiece.p) ht

variable {depth : ℕ} {res : D} (projViewMat : Mat4 D) (transparent : Bool) (word : Int32)

/-- **The view does not matter**: a patch whose parts end within `depth` levels is rendered. -/
theorem BezierPatch.exists_render (colors : Option (Vector (Vec4 F) 4)) {p : Vector (Vec3 D) 16}
    (h : endsWithin (parts (res * res)) depth p = true) :
    ∃ data on, render depth projViewMat res transparent colors word p = some (data, on) := by
  let R := setting projViewMat res transparent word (p.get 0) p.toList.tail
  let started := start (addVertex R) R colors p Mesh.init
  have hrun : ∃ N, run (step R) depth started.2 started.1 = some N :=
    exists_run_of_endsWithin PatchPiece.p (fun _ _ _ ht => mem_parts_of_mem_step ht) h _
  obtain ⟨N, hrun⟩ := hrun
  exact ⟨N.data, N.onscreen, Option.map_eq_some_iff.mpr ⟨N, hrun, rfl⟩⟩

theorem BezierTriangle.exists_render (colors : Option (Vector (Vec4 F) 3)) {p : Vector (Vec3 D) 10}
    (h : endsWithin (parts (res * res)) depth p = true) :
    ∃ data on, render depth projViewMat res transparent colors word p = some (data, on) := by
  let R := BezierPatch.setting projViewMat res transparent word (p.get 0) p.toList.tail
  let started := start (BezierPatch.addVertex R) R colors p Mesh.init
  have hrun : ∃ N, run (step R) depth started.2 started.1 = some N :=
    exists_run_of_endsWithin TrianglePiece.p (fun _ _ _ ht => mem_parts_of_mem_step ht) h _
  obtain ⟨N, hrun⟩ := hrun
  exact ⟨N.data, N.onscreen, Option.map_eq_some_iff.mpr ⟨N, hrun, rfl⟩⟩

end Shapes

/-! ### Vertices -/

section Count

variable {D F : Type} [Scalar D] [Scalar F] [Rounding D F] {R : SurfaceSetting D} {M N : Mesh F}
  {k : BufferKind} {depth : ℕ} {projViewMat : Mat4 D} {res : D} {transparent : Bool} {word : Int32}
  {built : VertexData F × Bool}

open BezierPatch (addVertex)

omit [Scalar D] in
theorem count_addVertex_le {m : ℕ} (h : M.data.count k ≤ m) (pos norm : Vec3 D)
    (C : Option (Vec4 F)) : (addVertex R pos norm C M).1.data.count k ≤ m + 1 := by
  refine le_trans ?_ (Nat.add_le_add_right h 1)
  cases C with
  | none =>
    rw [addVertex]
    split_ifs <;> cases k <;> simp [Mesh.addColorVertex, Mesh.addMaterialVertex, VertexData.count]
  | some c => cases k <;> simp [addVertex, Mesh.addColorVertex, VertexData.count]

omit [Scalar F] [Rounding D F] in
theorem count_emit (v : Vec3 D) (vs : List (Vec3 D)) (is : List UInt32) :
    (M.emit projViewMat v vs is).data.count k = M.data.count k := by
  rw [Mesh.emit]
  split_ifs <;> cases k <;> rfl

/-- A piece adds at most five vertices and has at most four parts. -/
theorem BezierPatch.count_step_le (s : PatchPiece UInt32 D F) (M : Mesh F) :
    (step R s M).1.data.count k ≤ M.data.count k + 5 ∧ (step R s M).2.length ≤ 4 := by
  rw [step]
  split_ifs
  · refine ⟨?_, Nat.zero_le _⟩
    rw [emitTriangle, emitTriangle, count_emit, count_emit]
    exact Nat.le_add_right ..
  · exact ⟨Nat.le_add_right .., Nat.zero_le _⟩
  · exact ⟨(count_addVertex_le (count_addVertex_le le_rfl _ _ _) _ _ _).trans (by omega),
      (by decide : 2 ≤ 4)⟩
  · exact ⟨(count_addVertex_le (count_addVertex_le le_rfl _ _ _) _ _ _).trans (by omega),
      (by decide : 2 ≤ 4)⟩
  · exact ⟨count_addVertex_le (count_addVertex_le (count_addVertex_le (count_addVertex_le
      (count_addVertex_le le_rfl _ _ _) _ _ _) _ _ _) _ _ _) _ _ _, le_refl 4⟩

theorem BezierTriangle.count_step_le (s : TrianglePiece UInt32 D F) (M : Mesh F) :
    (step R s M).1.data.count k ≤ M.data.count k + 5 ∧ (step R s M).2.length ≤ 4 := by
  rw [step]
  split_ifs
  · refine ⟨?_, Nat.zero_le _⟩
    rw [BezierPatch.emitTriangle, count_emit]
    exact Nat.le_add_right ..
  · exact ⟨Nat.le_add_right .., Nat.zero_le _⟩
  · exact ⟨(count_addVertex_le (count_addVertex_le (count_addVertex_le le_rfl _ _ _) _ _ _)
      _ _ _).trans (by omega), le_refl 4⟩

/-- The vertices of at most 15 levels, behind those of the corners. -/
theorem count_levels_lt (hdepth : depth ≤ 15) {m : ℕ} (hm : m ≤ 4) :
    m + 5 * ∑ i ∈ Finset.range depth, 4 ^ i < 2 ^ 32 := by
  have hle : ∑ i ∈ Finset.range depth, 4 ^ i ≤ ∑ i ∈ Finset.range 15, 4 ^ i :=
    Finset.sum_le_sum_of_subset (Finset.range_subset_range.mpr hdepth)
  have hsum : ∑ i ∈ Finset.range 15, 4 ^ i = 357913941 := by decide
  omega

/-- **Few enough vertices**: no index of a rendering of at most 15 levels wraps around. -/
theorem BezierPatch.count_render_lt (hdepth : depth ≤ 15) {colors : Option (Vector (Vec4 F) 4)}
    {p : Vector (Vec3 D) 16}
    (h : render depth projViewMat res transparent colors word p = some built) :
    built.1.count k < 2 ^ 32 := by
  rw [render, Option.map_eq_some_iff] at h
  obtain ⟨N, hrun, rfl⟩ := h
  have hgrown := size_le_of_run (fun M : Mesh F => M.data.count k)
    (fun s M => (count_step_le s M).1) (fun s M => (count_step_le (k := k) s M).2) hrun
  refine hgrown.trans_lt (count_levels_lt hdepth ?_)
  exact count_addVertex_le (count_addVertex_le (count_addVertex_le (count_addVertex_le
    (by cases k <;> exact le_rfl) _ _ _) _ _ _) _ _ _) _ _ _

theorem BezierTriangle.count_render_lt (hdepth : depth ≤ 15) {colors : Option (Vector (Vec4 F) 3)}
    {p : Vector (Vec3 D) 10}
    (h : render depth projViewMat res transparent colors word p = some built) :
    built.1.count k < 2 ^ 32 := by
  rw [render, Option.map_eq_some_iff] at h
  obtain ⟨N, hrun, rfl⟩ := h
  have hgrown := size_le_of_run (fun M : Mesh F => M.data.count k)
    (fun s M => (count_step_le s M).1) (fun s M => (count_step_le (k := k) s M).2) hrun
  refine hgrown.trans_lt (count_levels_lt hdepth (Nat.le_succ_of_le ?_))
  exact count_addVertex_le (count_addVertex_le (count_addVertex_le
    (by cases k <;> exact le_rfl) _ _ _) _ _ _) _ _ _

end Count

/-! ### The library of what ends -/

namespace Tessellation

section Complete

variable {D F : Type} [Scalar D] [Scalar F] [Rounding D F]

/-- The square of the resolution at a ratio. -/
def res2 (ratio : D) : D := pixelResolution * ratio * (pixelResolution * ratio)

/-- The library for the surfaces whose subdivision is at most `depth` deep in every view; the others
have no triangles. -/
def complete (depth : ℕ) : Tessellation D F :=
  { library depth with
    patch := fun projViewMat ratio transparent colors word p =>
      if endsWithin (BezierPatch.parts (res2 ratio)) depth p then
        (library depth).patch projViewMat ratio transparent colors word p
      else (.empty, true)
    triangle := fun projViewMat ratio transparent colors word p =>
      if endsWithin (BezierTriangle.parts (res2 ratio)) depth p then
        (library depth).triangle projViewMat ratio transparent colors word p
      else (.empty, true) }

end Complete

end Tessellation

section Refined

variable {K : Type} [ExactScalar K] {depth : ℕ}

/-- A piece of a complete mesh, in exact arithmetic. -/
def MeshPiece.piece (m : MeshPiece K K) : Piece K := ⟨m.tests, m.facet⟩

/-- What is known of a rendering, piece by piece. -/
theorem cut_map_piece {projViewMat : Mat4 K} {kind : BufferKind} {ms : List (MeshPiece K K)}
    {built : VertexData K × Bool}
    (h : built.1.facets kind = (ms.filter (MeshPiece.kept projViewMat)).map MeshPiece.facet ∧
      built.2 = ms.all (MeshPiece.kept projViewMat)) :
    Cut projViewMat kind (ms.map MeshPiece.piece) built := by
  have hkept : Piece.kept projViewMat ∘ MeshPiece.piece = MeshPiece.kept projViewMat := rfl
  rw [Cut, List.filter_map, List.map_map, List.all_map, hkept]
  exact h

open Tessellation (complete res2)

/-- **The complete mesh of every surface that ends.** -/
def refinedComplete (hdepth : depth ≤ 15) : (complete depth : Tessellation K K).Refined where
  patch ratio transparent colors word p :=
    if endsWithin (BezierPatch.parts (res2 ratio)) depth p then
      (BezierPatch.mesh depth (pixelResolution * ratio) transparent (colors.map patchColors) word
        p).map MeshPiece.piece
    else []
  triangle ratio transparent colors word p :=
    if endsWithin (BezierTriangle.parts (res2 ratio)) depth p then
      (BezierTriangle.mesh depth (pixelResolution * ratio) transparent (colors.map triangleColors)
        word p).map MeshPiece.piece
    else []
  cut_patch projViewMat ratio transparent colors word p := by
    by_cases hends : endsWithin (BezierPatch.parts (res2 ratio)) depth p = true
    · obtain ⟨data, on, hrender⟩ := BezierPatch.exists_render projViewMat transparent word
        (colors.map patchColors) hends
      have hfacets := BezierPatch.facets_render hrender
        (BezierPatch.count_render_lt hdepth hrender).le
      rw [Option.isSome_map] at hfacets
      simp only [complete, if_pos hends, Tessellation.library, hrender, Option.getD_some]
      exact cut_map_piece hfacets
    · simp only [complete, if_neg hends]
      exact ⟨rfl, rfl⟩
  cut_triangle projViewMat ratio transparent colors word p := by
    by_cases hends : endsWithin (BezierTriangle.parts (res2 ratio)) depth p = true
    · obtain ⟨data, on, hrender⟩ := BezierTriangle.exists_render projViewMat transparent word
        (colors.map triangleColors) hends
      have hfacets :=
        BezierTriangle.facets_render hrender (BezierTriangle.count_render_lt hdepth hrender).le
      rw [Option.isSome_map] at hfacets
      simp only [complete, if_pos hends, Tessellation.library, hrender, Option.getD_some]
      exact cut_map_piece hfacets
    · simp only [complete, if_neg hends]
      exact ⟨rfl, rfl⟩

end Refined

/-! ### A patch across the edge -/

namespace Animation

/-- A flat patch with the corners `(2, 0)`, `(4, 0)`, `(2, 1)` and `(0, 1)`: three of them lie
beyond the right edge of the second frame. -/
def patchAcrossEdge : V3dObject ℚ ℚ :=
  .bezierPatch ⟨.ofFn fun i =>
    ⟨2 + (i / 4 : ℕ) * (2 / 3) - (i % 4 : ℕ) * (2 / 3), (i % 4 : ℕ) / 3, 0⟩, 0, 0⟩

/-- The complete meshes of eight levels. -/
def refinedEight : (Tessellation.complete 8 : Tessellation ℚ ℚ).Refined :=
  refinedComplete (by decide)

/-- In its second frame the patch appends both of its triangles again, where a new one appends
one. -/
example :
    let s := (init patchAcrossEdge).step (.complete 8) fromAfar
    (facets (s.object.QueueMesh (.complete 8) thenStraightOn).2).length = 2 ∧
      (facets (s.fresh (.complete 8) thenStraightOn)).length = 1 := by
  decide +kernel

/-- The triangle beyond the edge is appended again, and cannot be seen. -/
theorem sameFacets_patchAcrossEdge :
    Along (step (.complete 8)) (SameFacets (.complete 8)) (init patchAcrossEdge)
      [fromAfar, thenStraightOn] := by
  refine (sameFacets_along_iff refinedEight (o := patchAcrossEdge) trivial ?_).mpr ⟨?_, ?_, trivial⟩
  · exact ⟨Or.inl rfl, Or.inr ⟨fromAfar, rfl, ⟨rfl, rfl, rfl, rfl, rfl, rfl, rfl⟩⟩, trivial⟩
  · rintro ⟨hremesh, -⟩
    exact nomatch hremesh
  · intro _ piece hpiece hcut
    have htests : ∀ piece ∈ (patchAcrossEdge.pieces refinedEight thenStraightOn).2,
        piece.tests = [(piece.facet.1.position,
          [piece.facet.2.1.position, piece.facet.2.2.position])] := by decide +kernel
    refine piece.not_visible_of_oneSide (htests piece hpiece) hcut (Or.inl ?_)
    rintro _ ⟨v, -, rfl⟩
    change 0 < 0 * v.x + 0 * v.y + 0 * v.z + 1
    norm_num

end Animation

end OkularV3d
