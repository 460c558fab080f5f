import OkularV3d.File.QueuedIndices

/-!
# The indices of the vertex buffers

A draw call fetches the vertices its indices name, out of the vertices of the buffer's own format,
and nobody checks a bound on the way. Here is why none is passed: every piece an object puts into a
buffer names vertices of its own only, in the format of that buffer (`VertexData.InBounds`), and the
`extend` functions move its indices up past the vertices already there.

`SceneObject.inBounds_queueMesh` follows one object, on its fast and its slow path;
`inBounds_along` is the result, for a file read from any stream and any sequence of frames.

* `VertexData.InBounds` is the property of a piece, `SceneObject.KeepsInBounds` and
  `V3dFile.KeepsInBounds` those of what is kept.
* `InBounds.extend` is the step lemma of a buffer. An `extend` function adds the number of vertices
  to each index in 32 bits, so there is a bound on their number.
* `inBounds_queueSurface`, `inBounds_queueFlat`, `inBounds_triangles`, `inBounds_curve` and the
  others treat the classes, and `SceneObject.inBounds_queueMesh` all of them.
* `Tessellation.InBounds` is what is assumed of the subdivision; `OkularV3d.Scene.Library` proves it
  of the code's.
-/

namespace OkularV3d

open Gate Runs Wire

variable {D F : Type}

namespace VertexData

/-- Every index names a vertex, in the format of buffer `k`. -/
def InBounds (k : BufferKind) (data : VertexData F) : Prop :=
  ∀ i ∈ data.indices, i.toNat < data.count k

/-- A mesh without indices has none beyond its vertices. -/
theorem inBounds_empty (k : BufferKind) : (empty : VertexData F).InBounds k :=
  fun _ h => absurd h List.not_mem_nil

/-- The buffers of one format. -/
theorem InBounds.of_count {k k' : BufferKind} {data : VertexData F} (h : data.InBounds k)
    (hcount : data.count k = data.count k') : data.InBounds k' :=
  fun i hi => hcount ▸ h i hi

/-- Moving the vertices adds none. -/
theorem count_mapPositions (f : Vec3 F → Vec3 F) (k : BufferKind) (data : VertexData F) :
    (data.mapPositions f k).count k = data.count k := by
  cases k <;> simp [mapPositions, count]

/-- And no index. -/
theorem indices_mapPositions (f : Vec3 F → Vec3 F) (k : BufferKind) (data : VertexData F) :
    (data.mapPositions f k).indices = data.indices := by
  cases k <;> rfl

/-- Turning a billboard moves vertices, and no index. -/
theorem InBounds.mapPositions {k : BufferKind} {data : VertexData F} (h : data.InBounds k)
    (f : Vec3 F → Vec3 F) : (data.mapPositions f k).InBounds k := by
  intro i hi
  rw [indices_mapPositions] at hi
  rw [count_mapPositions]
  exact h i hi

/-- The indices of a piece are shifted by the vertices before it. -/
theorem indices_extend (k : BufferKind) (data other : VertexData F) :
    (extend k data other).indices = extendIndices data.indices other.indices (data.count k) := by
  cases k <;> rfl

/-- **Step lemma**: appending keeps the indices in bounds, unless there are more vertices than an
index can count. -/
theorem InBounds.extend {k : BufferKind} {data other : VertexData F} (h : data.InBounds k)
    (hother : other.InBounds k) (htotal : (extend k data other).count k < 2 ^ 32) :
    (extend k data other).InBounds k := by
  intro i hi
  rw [count_extend] at htotal ⊢
  rw [indices_extend, extendIndices] at hi
  rcases List.mem_append.mp hi with hi | hi
  · exact (h i hi).trans_le (Nat.le_add_right ..)
  · obtain ⟨j, hj, rfl⟩ := List.mem_map.mp hi
    have hlt := hother j hj
    -- the sum of an index and the number of vertices before it does not wrap around
    have hoffset : (UInt32.ofNat (data.count k)).toNat = data.count k :=
      UInt32.toNat_ofNat_of_lt (htotal.trans_le' (Nat.le_add_right ..))
    rw [UInt32.toNat_add, hoffset, Nat.mod_eq_of_lt (by omega)]
    omega

end VertexData

namespace Buffers

/-- The pieces that are put into the buffers are in bounds. -/
abbrev PutsInBounds (es : Effects F) : Prop := Puts VertexData.InBounds es

/-- A buffer only grows. -/
theorem count_apply (buffers : Buffers F) (es : Effects F) (k : BufferKind) :
    (buffers k).data.count k ≤ (buffers.apply es k).data.count k := by
  induction es generalizing buffers with
  | nil => exact le_rfl
  | cons e es ih => exact (count_effect buffers e k).trans (ih _)

/-- **Run lemma**: the effects of a frame keep the indices of a buffer in bounds. -/
theorem inBounds_apply {buffers : Buffers F} {es : Effects F} {k : BufferKind}
    (h : (buffers k).data.InBounds k) (hes : PutsInBounds es)
    (htotal : (buffers.apply es k).data.count k < 2 ^ 32) :
    (buffers.apply es k).data.InBounds k := by
  induction es generalizing buffers with
  | nil => exact h
  | cons e es ih =>
    refine ih ?_ (fun k' data hput => hes k' data (List.mem_cons_of_mem _ hput)) htotal
    have hle := count_apply (buffers.effect e) es k
    cases e with
    | mark kind =>
      by_cases hk : k = kind
      · subst hk
        simpa [effect] using h
      · simpa [effect, hk] using h
    | put kind data =>
      by_cases hk : k = kind
      · subst hk
        have hdata := hes k data List.mem_cons_self
        simp only [effect, if_true] at hle ⊢
        exact h.extend hdata (hle.trans_lt htotal)
      · simpa [effect, hk] using h

end Buffers

/-! ### The objects -/

open Buffers (PutsInBounds)

/-- The subdivision algorithms name vertices of their own only, in the format of the buffer their
geometry goes to. -/
structure Tessellation.InBounds (T : Tessellation D F) : Prop where
  patch : ∀ projViewMat ratio transparent corners word p,
    (T.patch projViewMat ratio transparent corners word p).1.InBounds
      (surfaceKind transparent corners.isSome)
  triangle : ∀ projViewMat ratio transparent corners word p,
    (T.triangle projViewMat ratio transparent corners word p).1.InBounds
      (surfaceKind transparent corners.isSome)
  curve : ∀ projViewMat ratio word p, (T.curve projViewMat ratio word p).1.InBounds .line

theorem putsInBounds_curve {data : VertexData F} (h : data.InBounds .line) :
    PutsInBounds (BezierCurve.queue data) :=
  puts_mark _ (puts_put h)

/-- A surface that leaves keeps nothing. -/
theorem BezierPatch.inBounds_leave (transparent : Bool) :
    let out : BezierPatch F × Effects F := leave transparent
    out.1.data.InBounds out.1.kind ∧ PutsInBounds out.2 :=
  ⟨VertexData.inBounds_empty _, puts_mark _ puts_nil⟩

/-- A surface that appends what it keeps, or is built anew. -/
theorem BezierPatch.inBounds_keptOrBuilt (fast : Bool) {S : BezierPatch F}
    (hS : S.data.InBounds S.kind) {built : VertexData F × Bool} {transparent color : Bool}
    (hbuilt : built.1.InBounds (surfaceKind transparent color)) :
    let out := if fast then (S, S.append) else queue built transparent color
    out.1.data.InBounds out.1.kind ∧ PutsInBounds out.2 := by
  cases fast with
  | true => exact ⟨hS, puts_put hS⟩
  | false => exact ⟨hbuilt, puts_mark _ (puts_put hbuilt)⟩

section Objects

variable [Scalar D] [Scalar F] {T : Tessellation D F} {materialIndex : UInt32}

/-- **A surface without corner colours** keeps and appends indices within its own vertices. -/
theorem inBounds_queueSurface (hT : T.InBounds) (ctx : QueueContext D F) (box : Vec3 D × Vec3 D)
    (edges : List (Vector (Vec3 D) 4)) {tessellate : Bool → Int32 → VertexData F × Bool}
    (htessellate : ∀ transparent word, (tessellate transparent word).1.InBounds
      (surfaceKind transparent false))
    {S : BezierPatch F} (hS : S.data.InBounds S.kind) :
    let out := queueSurface T ctx box edges materialIndex tessellate S
    out.1.data.InBounds out.1.kind ∧ PutsInBounds out.2 := by
  by_cases hoffscreen : ctx.offscreen box = true
  · simp only [queueSurface, if_pos hoffscreen]
    exact BezierPatch.inBounds_leave _
  by_cases hmode : ctx.drawMode = .outline
  · simp only [queueSurface, if_neg hoffscreen, if_pos hmode]
    exact ⟨hS, Puts.flatMap fun edge _ => putsInBounds_curve (hT.curve _ _ _ _)⟩
  · simp only [queueSurface, if_neg hoffscreen, if_neg hmode]
    exact BezierPatch.inBounds_keptOrBuilt _ hS (htessellate _ _)

/-- So does one with them. -/
theorem inBounds_queueColoredSurface (ctx : QueueContext D F) (box : Vec3 D × Vec3 D)
    {outline : Effects F} (houtline : PutsInBounds outline) (cornerColors : List (Vec4 F))
    {tessellate : Bool → Int32 → VertexData F × Bool}
    (htessellate : ∀ transparent word, (tessellate transparent word).1.InBounds
      (surfaceKind transparent true))
    {S : BezierPatch F} (hS : S.data.InBounds S.kind) :
    let out := queueColoredSurface ctx box outline cornerColors materialIndex tessellate S
    out.1.data.InBounds out.1.kind ∧ PutsInBounds out.2 := by
  by_cases hmode : ctx.drawMode = .outline
  · simp only [queueColoredSurface, if_pos hmode]
    exact ⟨hS, houtline⟩
  by_cases hoffscreen : ctx.offscreen box = true
  · simp only [queueColoredSurface, if_neg hmode, if_pos hoffscreen]
    exact BezierPatch.inBounds_leave _
  · simp only [queueColoredSurface, if_neg hmode, if_neg hoffscreen]
    exact BezierPatch.inBounds_keptOrBuilt _ hS (htessellate _ _)

variable [Rounding D F]

omit [Scalar D] in
/-- A line has two vertices and names both. -/
theorem inBounds_straightSegment (materialIndex : UInt32) (p q : Vec3 D) :
    (straightSegment materialIndex p q : VertexData F).InBounds .line := by
  simp [VertexData.InBounds, straightSegment, VertexData.empty, VertexData.count]

omit [Scalar D] in
/-- So has each edge of a boundary. -/
theorem putsInBounds_boundary (materialIndex : UInt32) (edges : List (Vec3 D × Vec3 D)) :
    PutsInBounds (queueBoundary materialIndex edges : Effects F) :=
  Puts.flatMap fun _ _ => putsInBounds_curve (inBounds_straightSegment _ _ _)

omit [Scalar F] [Rounding D F] in
/-- The triangles of a polygon that are left name its corners. -/
theorem cornerIndices_lt (ctx : QueueContext D F) {ts : List (Corners D)} {n : Nat}
    (hts : ∀ t ∈ ts, ∀ i ∈ t.indices, i.toNat < n) :
    ∀ i ∈ cornerIndices ctx ts, i.toNat < n := by
  intro i hi
  obtain ⟨t, ht, hi⟩ := List.mem_flatMap.mp hi
  exact hts t (List.mem_of_mem_filter ht) i hi

/-- A straight polygon: what it keeps is in bounds in the buffer it was built for. -/
theorem inBounds_queueFlat (ctx : QueueContext D F) (box : Vec3 D × Vec3 D)
    (points : List (Vec3 D)) (edges : List (Vec3 D × Vec3 D)) {ts : List (Corners D)}
    (hts : ∀ t ∈ ts, ∀ i ∈ t.indices, i.toNat < points.length) (normal : Vec3 D)
    (centerIndex : UInt32) {st : FlatState F} (hst : st.S.InBounds (flatKind st.S_color)) :
    let out := queueFlat ctx box points edges ts normal centerIndex materialIndex st
    out.1.S.InBounds (flatKind out.1.S_color) ∧ PutsInBounds out.2 := by
  simp only [queueFlat]
  split_ifs with hoffscreen hmode hfast htransparent
  · exact ⟨VertexData.inBounds_empty _, puts_mark _ puts_nil⟩
  · exact ⟨hst, putsInBounds_boundary _ _⟩
  · exact ⟨hst, puts_put hst⟩
  -- built anew, in the format of the buffer it goes to
  all_goals
    refine (and_iff_left_of_imp fun hnew => puts_mark _ (puts_put hnew)).mpr ?_
    have hlt := cornerIndices_lt ctx hts
    simpa [VertexData.InBounds, VertexData.count, flatKind, htransparent] using hlt

omit [Scalar D] [Scalar F] [Rounding D F] in
/-- The two buffers for colours have one format. -/
theorem VertexData.InBounds.colorKind {data : VertexData F} (h : data.InBounds .color)
    (transparent : Bool) : data.InBounds (colorKind transparent) := by
  refine h.of_count ?_
  cases transparent <;> rfl

/-- So does a polygon with corner colours: its triangles name its corners. -/
theorem inBounds_queueColoredFlat (ctx : QueueContext D F) (box : Vec3 D × Vec3 D)
    (points : List (Vec3 D × Vec4 F)) (edges : List (Vec3 D × Vec3 D)) {ts : List (Corners D)}
    (hts : ∀ t ∈ ts, ∀ i ∈ t.indices, i.toNat < points.length) (normal : Vec3 D)
    (centerIndex : UInt32) {st : FlatState F} (hst : st.S.InBounds .color) :
    let out := queueColoredFlat ctx box points edges ts normal centerIndex materialIndex st
    out.1.S.InBounds .color ∧ PutsInBounds out.2 := by
  simp only [queueColoredFlat]
  split_ifs with hoffscreen hmode hfast
  · exact ⟨VertexData.inBounds_empty _, puts_mark _ puts_nil⟩
  · exact ⟨hst, putsInBounds_boundary _ _⟩
  · exact ⟨hst, puts_put (hst.colorKind _)⟩
  · refine (and_iff_left_of_imp fun hnew => puts_mark _ (puts_put (hnew.colorKind _))).mpr ?_
    have hlt := cornerIndices_lt ctx hts
    simpa [VertexData.InBounds, VertexData.count] using hlt

/-- The indices of a triangle group come from the file; those that name no position are left
out. -/
theorem inBounds_mesh (o : V3dTriangleGroup D F) : (o.mesh : VertexData F).InBounds .color := by
  intro i hi
  obtain ⟨t, -, hi⟩ := List.mem_flatMap.mp hi
  simp only [List.mem_ite_nil_right] at hi
  have hcount : (o.mesh : VertexData F).count .color = o.vertexPositions.length := by
    simp [V3dTriangleGroup.mesh, VertexData.count]
  rw [hcount]
  grind

/-- **A triangle group** names one vertex for each corner of each triangle. -/
theorem inBounds_triangles (ctx : QueueContext D F) (o : V3dTriangleGroup D F) {st : KeptMesh F}
    (hst : st.vertexData.InBounds .color) :
    (o.QueueMesh ctx st).1.vertexData.InBounds .color ∧ PutsInBounds (o.QueueMesh ctx st).2 := by
  simp only [V3dTriangleGroup.QueueMesh]
  split_ifs with hempty hmode hoffscreen hfast
  · exact ⟨hst, puts_nil⟩
  · exact ⟨hst, puts_nil⟩
  · exact ⟨VertexData.inBounds_empty _, puts_mark _ (puts_mark _ puts_nil)⟩
  · exact ⟨hst, puts_put (hst.colorKind _)⟩
  · exact ⟨inBounds_mesh o, puts_mark _ (puts_put ((inBounds_mesh o).colorKind _))⟩

omit [Scalar F] [Rounding D F] in
/-- A curve keeps lines, and its fast path appends them to the materials, which have their
format. -/
theorem inBounds_curve (hT : T.InBounds) (ctx : QueueContext D F) (o : V3dBezierCurve D)
    {st : KeptMesh F} (hst : st.vertexData.InBounds .line) :
    (o.QueueMesh T ctx st).1.vertexData.InBounds .line ∧
      PutsInBounds (o.QueueMesh T ctx st).2 := by
  simp only [V3dBezierCurve.QueueMesh]
  split_ifs
  · exact ⟨VertexData.inBounds_empty _, puts_mark _ (puts_mark _ puts_nil)⟩
  · exact ⟨hst, puts_put (hst.of_count rfl)⟩
  · exact ⟨hT.curve _ _ _ _, putsInBounds_curve (hT.curve _ _ _ _)⟩

/-- A line. -/
theorem inBounds_line (ctx : QueueContext D F) (o : V3dLineSegment D) (st : KeptMesh F) :
    (o.QueueMesh ctx st).1.vertexData.InBounds .line ∧ PutsInBounds (o.QueueMesh ctx st).2 := by
  simp only [V3dLineSegment.QueueMesh]
  split_ifs
  · exact ⟨VertexData.inBounds_empty _, puts_mark _ (puts_mark _ puts_nil)⟩
  · exact ⟨inBounds_straightSegment _ _ _, putsInBounds_curve (inBounds_straightSegment _ _ _)⟩

omit [Scalar F] in
/-- A pixel has no indices. -/
theorem putsInBounds_pixel (ctx : QueueContext D F) (o : V3dPixel D) :
    PutsInBounds (o.QueueMesh ctx : Effects F) := by
  simp only [V3dPixel.QueueMesh]
  split_ifs
  · exact puts_mark _ puts_nil
  · refine puts_mark _ (puts_put ?_)
    simp [VertexData.InBounds, VertexData.count]

end Objects

namespace SceneObject

/-- What an object keeps between frames is in bounds in the buffer it is appended to. -/
def KeepsInBounds : SceneObject D F → Prop
  | bezierPatch _ S | bezierTriangle _ S | bezierPatchColor _ S | bezierTriangleColor _ S =>
    S.data.InBounds S.kind
  | quad _ st | triangle _ st => st.S.InBounds (flatKind st.S_color)
  | quadColor _ st | triangleColor _ st => st.S.InBounds .color
  | triangles _ st => st.vertexData.InBounds .color
  | curve _ st | line _ st => st.vertexData.InBounds .line
  | sphere _ | halfSphere _ | disk _ | cylinder _ | tube _ | pixel _ => True

/-- An object that has queued nothing yet. -/
theorem keepsInBounds_ofObject (o : V3dObject D F) : (ofObject o).KeepsInBounds := by
  cases o with
  | sphere | halfSphere | disk | cylinder | tube | pixel => trivial
  | _ => exact VertexData.inBounds_empty _

variable [Scalar D] [Scalar F] [Rounding D F] {T : Tessellation D F}

/-- **Step lemma**: in a frame every object puts pieces into the buffers that are in bounds there,
and so is what it keeps. -/
theorem inBounds_queueMesh (hT : T.InBounds) (ctx : QueueContext D F) {o : SceneObject D F}
    (ho : o.KeepsInBounds) :
    (o.QueueMesh T ctx).1.KeepsInBounds ∧ PutsInBounds (o.QueueMesh T ctx).2 := by
  have hpatch : ∀ (ctx : QueueContext D F) (o : V3dBezierPatch D) {S : BezierPatch F},
      S.data.InBounds S.kind →
        (o.QueueMesh T ctx S).1.data.InBounds (o.QueueMesh T ctx S).1.kind ∧
          PutsInBounds (o.QueueMesh T ctx S).2 :=
    fun ctx _ _ hS => inBounds_queueSurface hT ctx _ _ (fun _ _ => hT.patch _ _ _ _ _ _) hS
  have htriangle : ∀ (ctx : QueueContext D F) (o : V3dBezierTriangle D) {S : BezierPatch F},
      S.data.InBounds S.kind →
        (o.QueueMesh T ctx S).1.data.InBounds (o.QueueMesh T ctx S).1.kind ∧
          PutsInBounds (o.QueueMesh T ctx S).2 :=
    fun ctx _ _ hS => inBounds_queueSurface hT ctx _ _ (fun _ _ => hT.triangle _ _ _ _ _ _) hS
  have hpatches : ∀ ps centerIndex materialIndex,
      PutsInBounds (queuePatches T ctx ps centerIndex materialIndex) :=
    fun _ _ _ => Puts.flatMap fun _ _ => (hpatch _ _ (VertexData.inBounds_empty _)).2
  have htriangles : ∀ ts centerIndex materialIndex,
      PutsInBounds (queueTriangles T ctx ts centerIndex materialIndex) :=
    fun _ _ _ => Puts.flatMap fun _ _ => (htriangle _ _ (VertexData.inBounds_empty _)).2
  cases o with
  | bezierPatch o S => exact hpatch ctx o ho
  | bezierTriangle o S => exact htriangle ctx o ho
  | bezierPatchColor o S =>
    have hbuilt := fun transparent word => hT.patch ctx.projViewMat ctx.ratio transparent
      (some o.cornerColors.toList) word o.controlPoints
    exact inBounds_queueColoredSurface ctx _ (hpatch _ _ (VertexData.inBounds_empty _)).2 _
      hbuilt ho
  | bezierTriangleColor o S =>
    have hbuilt := fun transparent word => hT.triangle ctx.projViewMat ctx.ratio transparent
      (some o.cornerColors.toList) word o.controlPoints
    exact inBounds_queueColoredSurface ctx _ (htriangle _ _ (VertexData.inBounds_empty _)).2 _
      hbuilt ho
  | quad o st => exact inBounds_queueFlat ctx _ _ _ (by simp [quadCorners]) _ _ ho
  | triangle o st => exact inBounds_queueFlat ctx _ _ _ (by simp) _ _ ho
  | quadColor o st => exact inBounds_queueColoredFlat ctx _ _ _ (by simp [quadCorners]) _ _ ho
  | triangleColor o st => exact inBounds_queueColoredFlat ctx _ _ _ (by simp) _ _ ho
  | triangles o st => exact inBounds_triangles ctx o ho
  -- the solids keep nothing, and put what their patches put
  | sphere o => exact ⟨trivial, htriangles _ _ _⟩
  | halfSphere o => exact ⟨trivial, htriangles _ _ _⟩
  | disk o => exact ⟨trivial, hpatches _ _ _⟩
  | cylinder o =>
    refine ⟨trivial, (hpatches _ _ _).append ?_⟩
    split_ifs
    · exact (inBounds_line _ o.coreLine _).2
    · exact puts_nil
  | tube o =>
    refine ⟨trivial, (hpatches _ _ _).append ?_⟩
    split_ifs
    · exact (inBounds_curve hT _ o.coreCurve (VertexData.inBounds_empty _)).2
    · exact puts_nil
  | curve o st => exact inBounds_curve hT ctx o ho
  | line o st => exact inBounds_line ctx o st
  | pixel o => exact ⟨trivial, putsInBounds_pixel ctx o⟩

end SceneObject

/-! ### Every frame -/

namespace V3dFile

variable [Scalar D] [Scalar F] [Rounding D F] {T : Tessellation D F}

/-- What every object keeps is in bounds. -/
def KeepsInBounds (file : V3dFile D F) : Prop := ∀ o ∈ file.objects, o.KeepsInBounds

/-- **A frame keeps the invariant**, object by object. -/
theorem KeepsInBounds.frame {file : V3dFile D F} (h : file.KeepsInBounds) (hT : T.InBounds)
    (ctx : QueueContext D F) : (file.frame T ctx).KeepsInBounds := by
  intro o ho
  simp only [V3dFile.frame, QueueMesh, List.map_map, List.mem_map] at ho
  obtain ⟨o, ho, rfl⟩ := ho
  exact (SceneObject.inBounds_queueMesh hT ctx (h o ho)).1

/-- What a frame puts into the buffers, its billboards turned. -/
theorem putsInBounds_queueMesh {file : V3dFile D F} (h : file.KeepsInBounds) (hT : T.InBounds)
    (ctx : QueueContext D F) : PutsInBounds (file.QueueMesh T ctx).2.flatten := by
  rw [queueMesh_snd, turned, rawEffects, List.zipWith_map_right, List.zipWith_self,
    ← List.flatMap_def]
  refine Puts.flatMap fun o ho => ?_
  have hputs := (SceneObject.inBounds_queueMesh hT ctx (h o ho)).2
  rw [turn]
  cases file.center? o with
  | none => exact hputs
  | some center => exact hputs.map fun _ _ hdata => hdata.mapPositions _

/-- **Sound indices after a frame**: in each of the five buffers that are cleared before it, every
index names a vertex, if the vertices can be counted. -/
def IndicesInBounds (T : Tessellation D F) (file : V3dFile D F) (ctx : QueueContext D F) : Prop :=
  ∀ (buffers : Buffers F) (k : BufferKind), k ≠ .triangle →
    (file.queueInto T ctx buffers.clear k).data.count k < 2 ^ 32 →
      (file.queueInto T ctx buffers.clear k).data.InBounds k

/-- And what it appends to the buffers lies within them. -/
theorem KeepsInBounds.indicesInBounds {file : V3dFile D F} (h : file.KeepsInBounds)
    (hT : T.InBounds) (ctx : QueueContext D F) : file.IndicesInBounds T ctx := by
  intro buffers k hk htotal
  rw [queueInto_eq] at htotal ⊢
  have hclear : (buffers.clear k).data.InBounds k := by
    rw [Buffers.clear, if_neg hk]
    exact VertexData.inBounds_empty k
  exact Buffers.inBounds_apply hclear (putsInBounds_queueMesh h hT ctx) htotal

end V3dFile

variable [Scalar D] [Scalar F] [Rounding D F] [Xdr64 D] [Xdr32 F]

/-- **No index out of bounds**: a file read from any stream, and any sequence of its frames. -/
theorem inBounds_along {T : Tessellation D F} (hT : T.InBounds) (measured : Bool)
    (bytes : List UInt8) {file : V3dFile D F}
    (hscene : (load measured bytes : Loaded D F × Stream).1.Scene file)
    (ctxs : List (QueueContext D F)) :
    Along (V3dFile.frame T) (V3dFile.IndicesInBounds T) file ctxs := by
  have hfile : file.KeepsInBounds := by
    intro o ho
    rw [hscene.unqueued o ho]
    exact SceneObject.keepsInBounds_ofObject _
  have hrun : Along (V3dFile.frame T) (fun _ _ => True) file ctxs :=
    Along.of_forall (fun _ _ => trivial) file ctxs
  exact hrun.of_invariant (fun _ ctx h _ => h.frame hT ctx)
    (fun _ ctx h _ => h.indicesInBounds hT ctx) hfile

end OkularV3d
