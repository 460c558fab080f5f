import OkularV3d.Lib.Subdivision
import OkularV3d.Scene.Tessellate

/-!
# What a rendering draws

A rendering only ever adds to its mesh: vertices and indices are appended, and `Onscreen` is never
set again (`Mesh.Extends`). So an index that refers to a vertex goes on referring to it, and what a
rendering draws is what its parts draw, one after the other (`Mesh.Draws`).

* `Refers` is an index that names a vertex at a place, and `Mesh.Draws` what the indices added
  between two meshes draw.
* `Makes` is the specification of a rendering: faces of a given kind, if nothing is culled and the
  indices fit. `makes_chain` composes renderings.
* `valid_stepQuarters` says that the corners of the parts of a piece are vertices of the mesh.
* For patches, triangles and curves, `makes_run` is the rule by which a property of the triangles
  drawn is proved: for a flat piece, and for a piece from its parts.
-/

namespace OkularV3d

open Adaptive

variable {D F : Type}

namespace Mesh

/-- `t` is `s` with more vertices and indices, or with something left out. -/
structure Extends (s t : Mesh F) : Prop where
  materialVertices : s.data.materialVertices <+: t.data.materialVertices
  colorVertices : s.data.colorVertices <+: t.data.colorVertices
  indices : s.data.indices <+: t.data.indices
  onscreen : t.onscreen = true → s.onscreen = true

theorem Extends.refl (s : Mesh F) : s.Extends s :=
  ⟨List.prefix_rfl, List.prefix_rfl, List.prefix_rfl, id⟩

/-- What is added and added to is added. -/
theorem Extends.trans {s t u : Mesh F} (h : s.Extends t) (h' : t.Extends u) : s.Extends u :=
  ⟨h.materialVertices.trans h'.materialVertices, h.colorVertices.trans h'.colorVertices,
    h.indices.trans h'.indices, h.onscreen ∘ h'.onscreen⟩

/-- To cull a part takes nothing away. -/
theorem extends_cull (M : Mesh F) : M.Extends M.cull :=
  ⟨List.prefix_rfl, List.prefix_rfl, List.prefix_rfl, fun h => nomatch h⟩

section Emit

variable [Scalar D] {projViewMat : Mat4 D} {v : Vec3 D} {vs : List (Vec3 D)} {is : List UInt32}

/-- A triangle is added at the end of the indices, or nothing is. -/
theorem extends_emit (M : Mesh F) : M.Extends (M.emit projViewMat v vs is) := by
  rw [emit]
  split_ifs with hoff
  · exact M.extends_cull
  · exact ⟨List.prefix_rfl, List.prefix_rfl, List.prefix_append .., id⟩

/-- What is still onscreen was drawn. -/
theorem emit_eq_of_onscreen {M : Mesh F} (h : (M.emit projViewMat v vs is).onscreen = true) :
    M.emit projViewMat v vs is =
      { M with data := { M.data with indices := M.data.indices ++ is } } := by
  rw [emit] at h ⊢
  split_ifs at h ⊢ with hoff
  · cases h
  · rfl

end Emit

section AddVertex

variable [Rounding D F]

theorem extends_addMaterialVertex (pos norm : Vec3 D) (word : Int32) (M : Mesh F) :
    M.Extends (M.addMaterialVertex pos norm word).1 :=
  ⟨List.prefix_append .., List.prefix_rfl, List.prefix_rfl, id⟩

theorem extends_addColorVertex (pos norm : Vec3 D) (word : Int32) (color : Vec4 F) (M : Mesh F) :
    M.Extends (M.addColorVertex pos norm word color).1 :=
  ⟨List.prefix_rfl, List.prefix_append .., List.prefix_rfl, id⟩

end AddVertex

/-! ### Reading a mesh -/

/-- The positions of the vertices of one format. -/
def positions (colored : Bool) (M : Mesh F) : List (Vec3 F) :=
  if colored then M.data.colorVertices.map ColorVertex.position
  else M.data.materialVertices.map MaterialVertex.position

/-- The vertices of a mesh are the first ones of what it is extended to. -/
theorem Extends.positions {s t : Mesh F} (h : s.Extends t) (colored : Bool) :
    s.positions colored <+: t.positions colored := by
  rw [Mesh.positions, Mesh.positions]
  split_ifs
  · exact h.colorVertices.map _
  · exact h.materialVertices.map _

/-- An index refers to a vertex at `v`. -/
def Refers (colored : Bool) (M : Mesh F) (i : UInt32) (v : Vec3 F) : Prop :=
  (M.positions colored)[i.toNat]? = some v

/-- **An index goes on referring to its vertex** as the mesh is extended. -/
theorem Refers.extend {colored : Bool} {s t : Mesh F} {i : UInt32} {v : Vec3 F}
    (h : s.Refers colored i v) (hst : s.Extends t) : t.Refers colored i v := by
  obtain ⟨l, hl⟩ := hst.positions colored
  have hlt := (List.getElem?_eq_some_iff.mp h).1
  rw [Refers, ← hl, List.getElem?_append_left hlt]
  exact h

/-- Between `s` and `t` the vertices at `vs` were drawn, in this order. -/
def Draws (colored : Bool) (s t : Mesh F) (vs : List (Vec3 F)) : Prop :=
  ∃ is, t.data.indices = s.data.indices ++ is ∧ List.Forall₂ (t.Refers colored) is vs

/-- The vertex added last is named by the number of those before it, unless that wraps around. -/
theorem Refers.of_append {colored : Bool} {M : Mesh F} {v : Vec3 F} {l : List (Vec3 F)}
    (h : M.positions colored = l ++ [v]) (hsize : (M.positions colored).length ≤ 2 ^ 32) :
    M.Refers colored (UInt32.ofNat l.length) v := by
  rw [h, List.length_append, List.length_singleton] at hsize
  have hlength : (UInt32.ofNat l.length).toNat = l.length := UInt32.toNat_ofNat_of_lt' hsize
  rw [Refers, h, hlength, List.getElem?_concat_length]

variable {colored : Bool} {s s' t u : Mesh F} {vs ws : List (Vec3 F)}

theorem Draws.refl (s : Mesh F) : s.Draws colored s [] := ⟨[], (List.append_nil _).symm, .nil⟩

/-- What is drawn in two steps is drawn one after the other. -/
theorem Draws.trans (h : s.Draws colored t vs) (h' : t.Draws colored u ws) (hext : t.Extends u) :
    s.Draws colored u (vs ++ ws) := by
  obtain ⟨is, hindices, hrefers⟩ := h
  obtain ⟨js, hindices', hrefers'⟩ := h'
  refine ⟨is ++ js, ?_, ?_⟩
  · rw [hindices', hindices, List.append_assoc]
  · exact List.rel_append (hrefers.imp fun i v hi => hi.extend hext) hrefers'

/-- Vertices that are added draw nothing. -/
theorem Draws.of_indices_eq (hdraws : s'.Draws colored t vs)
    (h : s'.data.indices = s.data.indices) : s.Draws colored t vs := by
  obtain ⟨is, hindices, hrefers⟩ := hdraws
  exact ⟨is, h ▸ hindices, hrefers⟩

/-- A rendering from `s` to `t`: it adds to the mesh, and if nothing was culled, the indices fit and
the piece was `valid`, it draws faces that are as `Faces` says. -/
structure Makes {τ : Type} (colored : Bool) (corners : τ → List (Vec3 F)) (valid : Prop)
    (Faces : List τ → Prop) (s t : Mesh F) : Prop where
  extends_mesh : s.Extends t
  draws : t.onscreen = true → (t.positions colored).length ≤ 2 ^ 32 → valid →
    ∃ ts, s.Draws colored t (ts.flatMap corners) ∧ Faces ts

/-- **Renderings one after the other** draw the faces of each of them. -/
theorem makes_chain {P τ : Type} (colored : Bool) (corners : τ → List (Vec3 F))
    {Valid : P → Mesh F → Prop} (Faces : P → List τ → Prop) (ps : List P) (s t : Mesh F)
    (hvalid : ∀ q s t, Valid q s → s.Extends t → Valid q t)
    (h : Chain (fun q s t => Makes colored corners (Valid q s) (Faces q) s t) ps s t) :
    Makes colored corners (∀ q ∈ ps, Valid q s)
      (fun ts => ∃ tss, List.Forall₂ Faces ps tss ∧ ts = tss.flatten) s t := by
  induction h with
  | nil s => exact ⟨.refl s, fun _ _ _ => ⟨[], .refl s, [], .nil, rfl⟩⟩
  | cons head tail ih =>
    refine ⟨head.extends_mesh.trans ih.extends_mesh, fun hon hsize hps => ?_⟩
    rw [List.forall_mem_cons] at hps
    have hmid := (ih.extends_mesh.positions colored).length_le.trans hsize
    obtain ⟨ts, hts, hfaces⟩ := head.draws (ih.extends_mesh.onscreen hon) hmid hps.1
    obtain ⟨ts', hts', tss, hall, rfl⟩ := ih.draws hon hsize fun q hq =>
      hvalid q _ _ (hps.2 q hq) head.extends_mesh
    refine ⟨ts ++ tss.flatten, ?_, ts :: tss, .cons hfaces hall, rfl⟩
    rw [List.flatMap_append]
    exact hts.trans hts' ih.extends_mesh

/-- A piece that is split draws what its parts draw. -/
theorem Makes.of_split {τ : Type} {corners : τ → List (Vec3 F)} {valid valid' : Prop}
    {Faces Faces' : List τ → Prop} (h : Makes colored corners valid' Faces' s' t)
    (hext : s.Extends s') (hindices : s'.data.indices = s.data.indices)
    (hvalid : (s'.positions colored).length ≤ 2 ^ 32 → valid → valid')
    (hfaces : ∀ ts, Faces' ts → Faces ts) : Makes colored corners valid Faces s t := by
  refine ⟨hext.trans h.extends_mesh, fun hon hsize hs => ?_⟩
  have hsize' := (h.extends_mesh.positions colored).length_le.trans hsize
  obtain ⟨ts, hts, hall⟩ := h.draws hon hsize (hvalid hsize' hs)
  exact ⟨ts, hts.of_indices_eq hindices, hfaces ts hall⟩

/-- A piece that is culled is not onscreen. -/
theorem makes_cull {τ : Type} {corners : τ → List (Vec3 F)} {valid : Prop} {Faces : List τ → Prop}
    (s : Mesh F) : Makes colored corners valid Faces s s.cull :=
  ⟨s.extends_cull, fun hon => nomatch hon⟩

end Mesh

/-- The indices of a buffer refer to vertices at `vs`, one by one. -/
def VertexData.Reads (colored : Bool) (data : VertexData F) (vs : List (Vec3 F)) : Prop :=
  List.Forall₂ ((⟨data, true⟩ : Mesh F).Refers colored) data.indices vs

/-- A mesh that began without indices reads what was drawn. -/
theorem Mesh.Draws.reads {colored : Bool} {s : Mesh F} {data : VertexData F} {on : Bool}
    {vs : List (Vec3 F)} (h : s.Draws colored ⟨data, on⟩ vs) (hs : s.data.indices = []) :
    data.Reads colored vs := by
  obtain ⟨is, hindices, hrefers⟩ := h
  rw [hs, List.nil_append] at hindices
  obtain rfl : data.indices = is := hindices
  exact hrefers

/-! ### Rendering adds to the mesh -/

section Steps

variable [Scalar D] [Rounding D F]

/-- A step of a curve adds to the mesh. -/
theorem BezierCurve.extends_step (R : CurveSetting D) (c : CurvePiece D) (M : Mesh F) :
    M.Extends (BezierCurve.step R c M).1 := by
  rw [BezierCurve.step]
  split_ifs
  · exact M.extends_emit
  · exact M.extends_cull
  · exact M.extends_addMaterialVertex ..

namespace BezierPatch

omit [Rounding D F] in
/-- A flat triangle adds to the mesh, or is left out. -/
theorem extends_emitTriangle (R : SurfaceSetting D)
    (a b c : SurfaceCorner UInt32 D F) (M : Mesh F) :
    M.Extends (emitTriangle R a b c M) :=
  M.extends_emit

variable [Scalar F]

omit [Scalar D] in
/-- A new vertex adds to the mesh. -/
theorem extends_addVertex (R : SurfaceSetting D) (pos norm : Vec3 D) (color : Option (Vec4 F))
    (M : Mesh F) : M.Extends (addVertex R pos norm color M).1 := by
  obtain _ | c := color
  · rw [addVertex]
    split_ifs
    · exact M.extends_addColorVertex ..
    · exact M.extends_addMaterialVertex ..
  · exact M.extends_addColorVertex ..

/-- **A step of a patch adds to the mesh.** -/
theorem extends_step (R : SurfaceSetting D) (s : PatchPiece UInt32 D F) (M : Mesh F) :
    M.Extends (step R s M).1 := by
  have hadd : ∀ pos norm color (M : Mesh F), M.Extends (addVertex R pos norm color M).1 :=
    fun pos norm color M => extends_addVertex R pos norm color M
  rw [step]
  split_ifs
  · exact (extends_emitTriangle R _ _ _ M).trans (extends_emitTriangle R _ _ _ _)
  · exact M.extends_cull
  · exact (hadd _ _ _ M).trans (hadd ..)
  · exact (hadd _ _ _ M).trans (hadd ..)
  · exact ((((hadd _ _ _ M).trans (hadd ..)).trans (hadd ..)).trans (hadd ..)).trans (hadd ..)

end BezierPatch

/-- **A step of a Bezier triangle adds to the mesh.** -/
theorem BezierTriangle.extends_step [Scalar F] (R : SurfaceSetting D)
    (s : TrianglePiece UInt32 D F) (M : Mesh F) :
    M.Extends (BezierTriangle.step R s M).1 := by
  rw [BezierTriangle.step]
  split_ifs
  · exact BezierPatch.extends_emitTriangle R _ _ _ M
  · exact M.extends_cull
  · exact ((BezierPatch.extends_addVertex R _ _ _ M).trans (BezierPatch.extends_addVertex ..)).trans
      (BezierPatch.extends_addVertex ..)

end Steps

/-! ### The corners of a piece -/

/-- The format of the vertices of a surface: those of a transparent one have a colour in any
case. -/
def SurfaceSetting.colored (R : SurfaceSetting D) (color : Bool) : Bool := R.transparent || color

/-- A corner is a vertex of the mesh, and has a colour where the surface has colours. -/
structure SurfaceCorner.Valid [Rounding D F] (R : SurfaceSetting D) (color : Bool) (M : Mesh F)
    (c : SurfaceCorner UInt32 D F) : Prop where
  refers : M.Refers (R.colored color) c.I c.P.narrow
  color_eq : c.C.isSome = color

section Corners

variable [Scalar D] [Scalar F] [Rounding D F] {R : SurfaceSetting D} {color : Bool} {M N : Mesh F}
  {a b c : SurfaceCorner UInt32 D F}

omit [Scalar D] [Scalar F] in
/-- A corner goes on naming its vertex. -/
theorem SurfaceCorner.Valid.extend (h : c.Valid R color M) (hext : M.Extends N) :
    c.Valid R color N :=
  ⟨h.refers.extend hext, h.color_eq⟩

namespace BezierPatch

/-- A point between two corners has a colour if both have one. -/
@[simp] theorem isSome_mixColors (C C' : Option (Vec4 F)) :
    (mixColors D C C').isSome = (C.isSome && C'.isSome) := by
  cases C <;> cases C' <;> rfl

omit [Scalar D] in
/-- A new vertex adds no index. -/
theorem indices_addVertex (pos norm : Vec3 D) (C : Option (Vec4 F)) :
    (addVertex R pos norm C M).1.data.indices = M.data.indices := by
  obtain _ | c := C
  · rw [addVertex]
    split_ifs <;> rfl
  · rfl

omit [Scalar D] in
/-- A new vertex is put behind the others, and named by their number. -/
theorem positions_addVertex (pos norm : Vec3 D) (C : Option (Vec4 F)) :
    (addVertex R pos norm C M).1.positions (R.colored C.isSome) =
        M.positions (R.colored C.isSome) ++ [pos.narrow] ∧
      (addVertex R pos norm C M).2.I = UInt32.ofNat (M.positions (R.colored C.isSome)).length := by
  obtain _ | c := C
  · rw [addVertex, SurfaceSetting.colored]
    cases R.transparent <;>
      simp [Mesh.addColorVertex, Mesh.addMaterialVertex, Mesh.positions]
  · simp [addVertex, SurfaceSetting.colored, Mesh.addColorVertex, Mesh.positions]

omit [Scalar D] in
/-- A vertex that is added is a corner, as long as its index fits. -/
theorem valid_addVertex {pos norm : Vec3 D} {C : Option (Vec4 F)} (hcolor : C.isSome = color)
    (hsize : ((addVertex R pos norm C M).1.positions (R.colored color)).length ≤ 2 ^ 32) :
    (addVertex R pos norm C M).2.Valid R color (addVertex R pos norm C M).1 := by
  subst hcolor
  obtain ⟨hpositions, hI⟩ := positions_addVertex (R := R) (M := M) pos norm C
  refine ⟨?_, rfl⟩
  rw [hI]
  exact Mesh.Refers.of_append hpositions hsize

omit [Scalar D] in
/-- It is still one when other vertices follow it. -/
theorem valid_addVertex_of_extends {pos norm : Vec3 D} {C : Option (Vec4 F)}
    (hcolor : C.isSome = color) (hext : (addVertex R pos norm C M).1.Extends N)
    (hsize : (N.positions (R.colored color)).length ≤ 2 ^ 32) :
    (addVertex R pos norm C M).2.Valid R color N :=
  (valid_addVertex hcolor ((hext.positions _).length_le.trans hsize)).extend hext

omit [Scalar F] in
/-- A triangle that is not culled is drawn. -/
theorem draws_emitTriangle (ha : a.Valid R color M) (hb : b.Valid R color M)
    (hc : c.Valid R color M) (hon : (emitTriangle R a b c M).onscreen = true) :
    M.Draws (R.colored color) (emitTriangle R a b c M) [a.P.narrow, b.P.narrow, c.P.narrow] := by
  have hext := extends_emitTriangle R a b c M
  refine ⟨[a.I, b.I, c.I], ?_, ?_⟩
  · rw [emitTriangle, Mesh.emit_eq_of_onscreen hon]
  · exact .cons (ha.extend hext).refers (.cons (hb.extend hext).refers
      (.cons (hc.extend hext).refers .nil))

end BezierPatch

end Corners

/-! ### Patches -/

/-- The triangle between three corners. -/
def SurfaceCorner.trigon [Rounding D F] (a b c : SurfaceCorner UInt32 D F) : Trigon (Vec3 F) :=
  ⟨a.P.narrow, b.P.narrow, c.P.narrow⟩

/-- The corners of a piece are vertices of the mesh. -/
structure PatchPiece.Valid [Rounding D F] (R : SurfaceSetting D) (color : Bool) (M : Mesh F)
    (q : PatchPiece UInt32 D F) : Prop where
  c0 : q.c0.Valid R color M
  c1 : q.c1.Valid R color M
  c2 : q.c2.Valid R color M
  c3 : q.c3.Valid R color M

/-- All four corners of a patch go on naming theirs. -/
theorem PatchPiece.Valid.extend [Rounding D F] {R : SurfaceSetting D} {color : Bool} {M N : Mesh F}
    {q : PatchPiece UInt32 D F} (h : q.Valid R color M) (hext : M.Extends N) : q.Valid R color N :=
  ⟨h.c0.extend hext, h.c1.extend hext, h.c2.extend hext, h.c3.extend hext⟩

namespace BezierPatch

variable [Scalar D] [Scalar F] [Rounding D F] {R : SurfaceSetting D} {color : Bool} {M N : Mesh F}
  {s : PatchPiece UInt32 D F}

/-- The corners of one surface agree on whether they have colours. -/
theorem isSome_mixColors_of_valid {a b : SurfaceCorner UInt32 D F} (ha : a.Valid R color M)
    (hb : b.Valid R color M) : (mixColors D a.C b.C).isSome = color := by
  rw [isSome_mixColors, ha.color_eq, hb.color_eq, Bool.and_self]

/-- The parts of a piece that is split across have valid corners: old ones, or ones just added. -/
theorem valid_stepVertically
    (hsize : ((stepVertically (addVertex R) R s M).1.positions (R.colored color)).length ≤ 2 ^ 32)
    (hs : s.Valid R color M) :
    ∀ q ∈ (stepVertically (addVertex R) R s M).2,
      q.Valid R color (stepVertically (addVertex R) R s M).1 := by
  have hext : M.Extends (stepVertically (addVertex R) R s M).1 :=
    (extends_addVertex R _ _ _ M).trans (extends_addVertex ..)
  obtain ⟨hc0, hc1, hc2, hc3⟩ := hs.extend hext
  change ∀ q ∈ [_, _], _
  simp only [List.forall_mem_cons, List.not_mem_nil, false_imp_iff, implies_true, and_true]
  refine ⟨⟨hc0, hc1, ?i0, ?i1⟩, ⟨?i1, ?i0, hc2, hc3⟩⟩
  · exact valid_addVertex_of_extends (isSome_mixColors_of_valid hs.c1 hs.c2) (extends_addVertex ..)
      hsize
  · exact valid_addVertex_of_extends (isSome_mixColors_of_valid hs.c3 hs.c0) (.refl _) hsize

/-- So have those of a piece that is split along. -/
theorem valid_stepHorizontally
    (hsize : ((stepHorizontally (addVertex R) R s M).1.positions (R.colored color)).length ≤ 2 ^ 32)
    (hs : s.Valid R color M) :
    ∀ q ∈ (stepHorizontally (addVertex R) R s M).2,
      q.Valid R color (stepHorizontally (addVertex R) R s M).1 := by
  have hext : M.Extends (stepHorizontally (addVertex R) R s M).1 :=
    (extends_addVertex R _ _ _ M).trans (extends_addVertex ..)
  obtain ⟨hc0, hc1, hc2, hc3⟩ := hs.extend hext
  change ∀ q ∈ [_, _], _
  simp only [List.forall_mem_cons, List.not_mem_nil, false_imp_iff, implies_true, and_true]
  refine ⟨⟨hc0, ?i0, ?i1, hc3⟩, ⟨?i0, hc1, hc2, ?i1⟩⟩
  · exact valid_addVertex_of_extends (isSome_mixColors_of_valid hs.c0 hs.c1) (extends_addVertex ..)
      hsize
  · exact valid_addVertex_of_extends (isSome_mixColors_of_valid hs.c2 hs.c3) (.refl _) hsize

theorem extends_stepQuarters : M.Extends (stepQuarters (addVertex R) R s M).1 := by
  have hadd : ∀ pos norm C (M : Mesh F), M.Extends (addVertex R pos norm C M).1 :=
    fun pos norm C M => extends_addVertex R pos norm C M
  exact ((((hadd _ _ _ M).trans (hadd ..)).trans (hadd ..)).trans (hadd ..)).trans (hadd ..)

/-- So have those of a piece that is split in both directions. -/
theorem valid_stepQuarters
    (hsize : ((stepQuarters (addVertex R) R s M).1.positions (R.colored color)).length ≤ 2 ^ 32)
    (hs : s.Valid R color M) :
    ∀ q ∈ (stepQuarters (addVertex R) R s M).2,
      q.Valid R color (stepQuarters (addVertex R) R s M).1 := by
  obtain ⟨hc0, hc1, hc2, hc3⟩ := hs.extend (extends_stepQuarters (R := R) (s := s))
  have h01 := isSome_mixColors_of_valid hs.c0 hs.c1
  have h12 := isSome_mixColors_of_valid hs.c1 hs.c2
  have h23 := isSome_mixColors_of_valid hs.c2 hs.c3
  have h30 := isSome_mixColors_of_valid hs.c3 hs.c0
  change ∀ q ∈ [_, _, _, _], _
  simp only [List.forall_mem_cons, List.not_mem_nil, false_imp_iff, implies_true, and_true]
  refine ⟨⟨hc0, ?i0, ?i4, ?i3⟩, ⟨?i0, hc1, ?i1, ?i4⟩, ⟨?i4, ?i1, hc2, ?i2⟩, ⟨?i3, ?i4, ?i2, hc3⟩⟩
  case i0 =>
    exact valid_addVertex_of_extends h01
      ((((extends_addVertex ..).trans (extends_addVertex ..)).trans
      (extends_addVertex ..)).trans (extends_addVertex ..)) hsize
  case i1 =>
    exact valid_addVertex_of_extends h12
      (((extends_addVertex ..).trans (extends_addVertex ..)).trans
      (extends_addVertex ..)) hsize
  case i2 =>
    exact valid_addVertex_of_extends h23 ((extends_addVertex ..).trans (extends_addVertex ..)) hsize
  case i3 => exact valid_addVertex_of_extends h30 (extends_addVertex ..) hsize
  case i4 =>
    refine valid_addVertex_of_extends ?_ (.refl _) hsize
    rw [isSome_mixColors, h01, h23, Bool.and_self]

/-- **Rule for a patch.** The triangles of a rendering are as `Faces` says if those of a flat piece
are, and those of a split piece are whenever those of its parts are. -/
theorem makes_run (Faces : ℕ → PatchPiece UInt32 D F → List (Trigon (Vec3 F)) → Prop)
    (hflat : ∀ n q, Scalar.lt (distance q.p).1 R.res2 = true →
      Scalar.lt (distance q.p).2 R.res2 = true →
      Faces (n + 1) q [q.c0.trigon q.c1 q.c2, q.c0.trigon q.c2 q.c3])
    (hvertically : ∀ n q M tss, List.Forall₂ (Faces n) (stepVertically (addVertex R) R q M).2 tss →
      Faces (n + 1) q tss.flatten)
    (hhorizontally : ∀ n q M tss,
      List.Forall₂ (Faces n) (stepHorizontally (addVertex R) R q M).2 tss →
      Faces (n + 1) q tss.flatten)
    (hquarters : ∀ n q M tss, List.Forall₂ (Faces n) (stepQuarters (addVertex R) R q M).2 tss →
      Faces (n + 1) q tss.flatten)
    {n : ℕ} (h : run (step R) n s M = some N) :
    Mesh.Makes (R.colored color) Trigon.corners (s.Valid R color M) (Faces n s) M N := by
  refine run_induct (R := fun n s M N =>
    Mesh.Makes (R.colored color) Trigon.corners (s.Valid R color M) (Faces n s) M N) ?_ h
  intro n s M N hparts
  -- the parts are rendered one after the other
  have hchain := fun {ps : List (PatchPiece UInt32 D F)} {M : Mesh F} =>
    Mesh.makes_chain (R.colored color) Trigon.corners (Faces n) ps M N
      fun (q : PatchPiece UInt32 D F) s t (hq : q.Valid R color s) hext => hq.extend hext
  rw [step] at hparts
  split_ifs at hparts with hdistance hoff hh hv
  · -- the piece is flat
    obtain rfl := chain_nil_iff.mp hparts
    have hext := extends_emitTriangle R s.c0 s.c1 s.c2 M
    have hext' := extends_emitTriangle R s.c0 s.c2 s.c3 (emitTriangle R s.c0 s.c1 s.c2 M)
    refine ⟨hext.trans hext', fun hon _ hs => ⟨_, ?_, hflat n s ?_ ?_⟩⟩
    · exact (draws_emitTriangle hs.c0 hs.c1 hs.c2 (hext'.onscreen hon)).trans
        (draws_emitTriangle (hs.c0.extend hext) (hs.c2.extend hext) (hs.c3.extend hext) hon) hext'
    · exact (Bool.and_eq_true_iff.mp hdistance).1
    · exact (Bool.and_eq_true_iff.mp hdistance).2
  · obtain rfl := chain_nil_iff.mp hparts
    exact M.makes_cull
  · refine (hchain hparts).of_split ?_ ?_ valid_stepVertically ?_
    · exact (extends_addVertex R _ _ _ M).trans (extends_addVertex ..)
    · exact (indices_addVertex ..).trans (indices_addVertex ..)
    · rintro _ ⟨tss, hall, rfl⟩
      exact hvertically n s M tss hall
  · refine (hchain hparts).of_split ?_ ?_ valid_stepHorizontally ?_
    · exact (extends_addVertex R _ _ _ M).trans (extends_addVertex ..)
    · exact (indices_addVertex ..).trans (indices_addVertex ..)
    · rintro _ ⟨tss, hall, rfl⟩
      exact hhorizontally n s M tss hall
  · refine (hchain hparts).of_split extends_stepQuarters ?_ valid_stepQuarters ?_
    · exact ((((indices_addVertex ..).trans (indices_addVertex ..)).trans
        (indices_addVertex ..)).trans
        (indices_addVertex ..)).trans (indices_addVertex ..)
    · rintro _ ⟨tss, hall, rfl⟩
      exact hquarters n s M tss hall

end BezierPatch

/-! ### Triangles -/

/-- The corners of a piece are vertices of the mesh. -/
structure TrianglePiece.Valid [Rounding D F] (R : SurfaceSetting D) (color : Bool) (M : Mesh F)
    (q : TrianglePiece UInt32 D F) : Prop where
  c0 : q.c0.Valid R color M
  c1 : q.c1.Valid R color M
  c2 : q.c2.Valid R color M

/-- All three corners of a triangle go on naming theirs. -/
theorem TrianglePiece.Valid.extend [Rounding D F] {R : SurfaceSetting D}
    {color : Bool} {M N : Mesh F}
    {q : TrianglePiece UInt32 D F} (h : q.Valid R color M) (hext : M.Extends N) :
    q.Valid R color N :=
  ⟨h.c0.extend hext, h.c1.extend hext, h.c2.extend hext⟩

namespace BezierTriangle

open BezierPatch

variable [Scalar D] [Scalar F] [Rounding D F] {R : SurfaceSetting D} {color : Bool} {M N : Mesh F}
  {s : TrianglePiece UInt32 D F}

theorem extends_stepQuarters : M.Extends (stepQuarters (addVertex R) R s M).1 := by
  have hadd : ∀ pos norm C (M : Mesh F), M.Extends (addVertex R pos norm C M).1 :=
    fun pos norm C M => extends_addVertex R pos norm C M
  exact ((hadd _ _ _ M).trans (hadd ..)).trans (hadd ..)

/-- The four parts of a triangle have valid corners. -/
theorem valid_stepQuarters
    (hsize : ((stepQuarters (addVertex R) R s M).1.positions (R.colored color)).length ≤ 2 ^ 32)
    (hs : s.Valid R color M) :
    ∀ q ∈ (stepQuarters (addVertex R) R s M).2,
      q.Valid R color (stepQuarters (addVertex R) R s M).1 := by
  obtain ⟨hc0, hc1, hc2⟩ := hs.extend (extends_stepQuarters (R := R) (s := s))
  have h12 := isSome_mixColors_of_valid hs.c1 hs.c2
  have h20 := isSome_mixColors_of_valid hs.c2 hs.c0
  have h01 := isSome_mixColors_of_valid hs.c0 hs.c1
  change ∀ q ∈ [_, _, _, _], _
  simp only [List.forall_mem_cons, List.not_mem_nil, false_imp_iff, implies_true, and_true]
  refine ⟨⟨hc0, ?i2, ?i1⟩, ⟨?i2, hc1, ?i0⟩, ⟨?i1, ?i0, hc2⟩, ⟨?i0, ?i1, ?i2⟩⟩
  case i0 =>
    exact valid_addVertex_of_extends h12 ((extends_addVertex ..).trans (extends_addVertex ..)) hsize
  case i1 => exact valid_addVertex_of_extends h20 (extends_addVertex ..) hsize
  case i2 => exact valid_addVertex_of_extends h01 (.refl _) hsize

/-- **Rule for a triangle.** The triangles of a rendering are as `Faces` says if that of a flat
piece is, and those of a split piece are whenever those of its parts are. -/
theorem makes_run (Faces : ℕ → TrianglePiece UInt32 D F → List (Trigon (Vec3 F)) → Prop)
    (hflat : ∀ n q, Scalar.lt (distance q.p) R.res2 = true →
      Faces (n + 1) q [q.c0.trigon q.c1 q.c2])
    (hquarters : ∀ n q M tss, List.Forall₂ (Faces n) (stepQuarters (addVertex R) R q M).2 tss →
      Faces (n + 1) q tss.flatten)
    {n : ℕ} (h : run (step R) n s M = some N) :
    Mesh.Makes (R.colored color) Trigon.corners (s.Valid R color M) (Faces n s) M N := by
  refine run_induct (R := fun n s M N =>
    Mesh.Makes (R.colored color) Trigon.corners (s.Valid R color M) (Faces n s) M N) ?_ h
  intro n s M N hparts
  have hchain := fun {ps : List (TrianglePiece UInt32 D F)} {M : Mesh F} =>
    Mesh.makes_chain (R.colored color) Trigon.corners (Faces n) ps M N
      fun (q : TrianglePiece UInt32 D F) s t (hq : q.Valid R color s) hext => hq.extend hext
  rw [step] at hparts
  split_ifs at hparts with hdistance hoff
  · obtain rfl := chain_nil_iff.mp hparts
    exact ⟨extends_emitTriangle .., fun hon _ hs =>
      ⟨[s.c0.trigon s.c1 s.c2], draws_emitTriangle hs.c0 hs.c1 hs.c2 hon, hflat n s hdistance⟩⟩
  · obtain rfl := chain_nil_iff.mp hparts
    exact M.makes_cull
  · refine (hchain hparts).of_split extends_stepQuarters ?_ valid_stepQuarters ?_
    · exact ((indices_addVertex ..).trans (indices_addVertex ..)).trans (indices_addVertex ..)
    · rintro _ ⟨tss, hall, rfl⟩
      exact hquarters n s M tss hall

end BezierTriangle

/-! ### Curves -/

namespace BezierCurve

variable [Scalar D] [Rounding D F] {R : CurveSetting D} {M N : Mesh F} {c : CurvePiece D}

/-- The ends of a piece are vertices of the mesh. -/
def Valid (M : Mesh F) (c : CurvePiece D) : Prop :=
  M.Refers false c.I0 (c.p.get 0).narrow ∧ M.Refers false c.I1 (c.p.get 3).narrow

/-- The ends of a segment. -/
def ends {V : Type} (e : V × V) : List V := [e.1, e.2]

omit [Scalar D] in
/-- A point of a curve is named by its number. -/
theorem refers_addMaterialVertex {pos norm : Vec3 D} {word : Int32}
    (hsize : ((M.addMaterialVertex pos norm word).1.positions false).length ≤ 2 ^ 32) :
    (M.addMaterialVertex pos norm word).1.Refers false (M.addMaterialVertex pos norm word).2
      pos.narrow := by
  have hpositions : (M.addMaterialVertex pos norm word).1.positions false =
      M.positions false ++ [pos.narrow] := by
    simp [Mesh.addMaterialVertex, Mesh.positions]
  have h := Mesh.Refers.of_append hpositions hsize
  simpa [Mesh.addMaterialVertex, Mesh.positions] using h

/-- **Rule for a curve.** -/
theorem makes_run (Faces : ℕ → Vector (Vec3 D) 4 → List (Vec3 F × Vec3 F) → Prop)
    (hflat : ∀ n p,
      Scalar.lt (straightness (p.get 0) (p.get 1) (p.get 2) (p.get 3)) R.res2 = true →
        Faces (n + 1) p [((p.get 0).narrow, (p.get 3).narrow)])
    (hsplit : ∀ n p ss ss',
      ¬ Scalar.lt (straightness (p.get 0) (p.get 1) (p.get 2) (p.get 3)) R.res2 = true →
        let s := split3 (p.get 0) (p.get 1) (p.get 2) (p.get 3)
        Faces n #v[p.get 0, s.m0, s.m3, s.m5] ss → Faces n #v[s.m5, s.m4, s.m2, p.get 3] ss' →
          Faces (n + 1) p (ss ++ ss'))
    {n : ℕ} (h : run (step R) n c M = some N) :
    Mesh.Makes false ends (Valid M c) (Faces n c.p) M N := by
  refine run_induct (R := fun n (c : CurvePiece D) (M N : Mesh F) =>
    Mesh.Makes false ends (Valid M c) (Faces n c.p) M N) ?_ h
  intro n c M N hparts
  have hchain := fun {ps : List (CurvePiece D)} {M : Mesh F} =>
    Mesh.makes_chain false ends (fun q => Faces n q.p) ps M N
      fun (q : CurvePiece D) s t (hq : Valid s q) hext => ⟨hq.1.extend hext, hq.2.extend hext⟩
  rw [step] at hparts
  split_ifs at hparts with hstraight hoff
  · obtain rfl := chain_nil_iff.mp hparts
    refine ⟨M.extends_emit, fun hon _ hc => ⟨_, ⟨[c.I0, c.I1], ?_, ?_⟩, hflat n c.p hstraight⟩⟩
    · rw [Mesh.emit_eq_of_onscreen hon]
    · exact .cons (hc.1.extend M.extends_emit) (.cons (hc.2.extend M.extends_emit) .nil)
  · obtain rfl := chain_nil_iff.mp hparts
    exact M.makes_cull
  · refine (hchain hparts).of_split (M.extends_addMaterialVertex ..) rfl ?_ ?_
    · intro hsize hc
      simp only [List.forall_mem_cons, List.not_mem_nil, false_imp_iff, implies_true, and_true]
      exact ⟨⟨hc.1.extend (M.extends_addMaterialVertex ..), refers_addMaterialVertex hsize⟩,
        refers_addMaterialVertex hsize, hc.2.extend (M.extends_addMaterialVertex ..)⟩
    · rintro _ ⟨tss, hall, rfl⟩
      obtain _ | ⟨h0, _ | ⟨h1, _ | _⟩⟩ := hall
      simp only [List.flatten_cons, List.flatten_nil, List.append_nil]
      exact hsplit n c.p _ _ hstraight h0 h1

end BezierCurve

/-! ### Where a rendering begins -/

section Render

variable [Scalar D] [Scalar F] [Rounding D F] {depth : ℕ} {projViewMat : Mat4 D} {res : D}
  {transparent : Bool} {word : Int32} {data : VertexData F} {on : Bool}

/-- The whole patch, with nothing drawn yet. -/
structure PatchPiece.Whole (R : SurfaceSetting D) (color : Bool) (p : Vector (Vec3 D) 16)
    (q : PatchPiece UInt32 D F) (M : Mesh F) : Prop where
  p_eq : q.p = p
  corners_eq : q.c0.P = p.get 0 ∧ q.c1.P = p.get 12 ∧ q.c2.P = p.get 15 ∧ q.c3.P = p.get 3
  flat_eq : q.flat0 = false ∧ q.flat1 = false ∧ q.flat2 = false ∧ q.flat3 = false
  indices_eq : M.data.indices = []
  valid : (M.positions (R.colored color)).length ≤ 2 ^ 32 → q.Valid R color M

/-- **A rendering of a patch is a recursion from a whole piece**, with four valid corners. -/
theorem BezierPatch.exists_run {colors : Option (Vector (Vec4 F) 4)} {p : Vector (Vec3 D) 16}
    (h : render depth projViewMat res transparent colors word p = some (data, on)) :
    let R := setting projViewMat res transparent word (p.get 0) p.toList.tail
    ∃ q M, q.Whole R colors.isSome p M ∧ run (step R) depth q M = some ⟨data, on⟩ := by
  intro R
  rw [render, Option.map_eq_some_iff] at h
  obtain ⟨⟨data', on'⟩, hrun, heq⟩ := h
  obtain ⟨rfl, rfl⟩ := Prod.mk.inj heq
  refine ⟨_, _, ⟨rfl, ⟨rfl, rfl, rfl, rfl⟩, ⟨rfl, rfl, rfl, rfl⟩, ?_, fun hsize => ?_⟩, hrun⟩
  · exact ((((indices_addVertex ..).trans (indices_addVertex ..)).trans
      (indices_addVertex ..)).trans
      (indices_addVertex ..))
  · have hcolor : ∀ i, (colors.map fun c => c.get i).isSome = colors.isSome :=
      fun i => Option.isSome_map ..
    exact ⟨valid_addVertex_of_extends (hcolor 0) (((extends_addVertex ..).trans
        (extends_addVertex ..)).trans (extends_addVertex ..)) hsize,
      valid_addVertex_of_extends (hcolor 1)
        ((extends_addVertex ..).trans (extends_addVertex ..)) hsize,
      valid_addVertex_of_extends (hcolor 2) (extends_addVertex ..) hsize,
      valid_addVertex_of_extends (hcolor 3) (.refl _) hsize⟩

/-- The whole triangle, with nothing drawn yet. -/
structure TrianglePiece.Whole (R : SurfaceSetting D) (color : Bool) (p : Vector (Vec3 D) 10)
    (q : TrianglePiece UInt32 D F) (M : Mesh F) : Prop where
  p_eq : q.p = p
  corners_eq : q.c0.P = p.get 0 ∧ q.c1.P = p.get 6 ∧ q.c2.P = p.get 9
  flat_eq : q.flat0 = false ∧ q.flat1 = false ∧ q.flat2 = false
  indices_eq : M.data.indices = []
  valid : (M.positions (R.colored color)).length ≤ 2 ^ 32 → q.Valid R color M

/-- A rendering of a Bezier triangle is one from a whole piece with three. -/
theorem BezierTriangle.exists_run {colors : Option (Vector (Vec4 F) 3)} {p : Vector (Vec3 D) 10}
    (h : render depth projViewMat res transparent colors word p = some (data, on)) :
    let R := BezierPatch.setting projViewMat res transparent word (p.get 0) p.toList.tail
    ∃ q M, q.Whole R colors.isSome p M ∧ run (step R) depth q M = some ⟨data, on⟩ := by
  intro R
  rw [render, Option.map_eq_some_iff] at h
  obtain ⟨⟨data', on'⟩, hrun, heq⟩ := h
  obtain ⟨rfl, rfl⟩ := Prod.mk.inj heq
  refine ⟨_, _, ⟨rfl, ⟨rfl, rfl, rfl⟩, ⟨rfl, rfl, rfl⟩, ?_, fun hsize => ?_⟩, hrun⟩
  · exact ((BezierPatch.indices_addVertex ..).trans (BezierPatch.indices_addVertex ..)).trans
      (BezierPatch.indices_addVertex ..)
  · have hcolor : ∀ i, (colors.map fun c => c.get i).isSome = colors.isSome :=
      fun i => Option.isSome_map ..
    exact ⟨BezierPatch.valid_addVertex_of_extends (hcolor 0)
      ((BezierPatch.extends_addVertex ..).trans
        (BezierPatch.extends_addVertex ..)) hsize,
      BezierPatch.valid_addVertex_of_extends (hcolor 1) (BezierPatch.extends_addVertex ..) hsize,
      BezierPatch.valid_addVertex_of_extends (hcolor 2) (.refl _) hsize⟩

/-- The whole curve, with nothing drawn yet. -/
structure CurvePiece.Whole (p : Vector (Vec3 D) 4) (q : CurvePiece D) (M : Mesh F) : Prop where
  p_eq : q.p = p
  indices_eq : M.data.indices = []
  valid : (M.positions false).length ≤ 2 ^ 32 → BezierCurve.Valid M q

omit [Scalar F] in
/-- A rendering of a curve is one from the curve with its two ends. -/
theorem BezierCurve.exists_run {p : Vector (Vec3 D) 4}
    (h : render depth projViewMat res word p = some (data, on)) :
    ∃ q M, q.Whole p M ∧ run (step ⟨projViewMat, res * res, word⟩) depth q M = some ⟨data, on⟩ := by
  rw [render, Option.map_eq_some_iff] at h
  obtain ⟨⟨data', on'⟩, hrun, heq⟩ := h
  obtain ⟨rfl, rfl⟩ := Prod.mk.inj heq
  refine ⟨_, _, ⟨rfl, rfl, fun hsize => ⟨?_, refers_addMaterialVertex hsize⟩⟩, hrun⟩
  have hext := Mesh.extends_addMaterialVertex (F := F) (D := D)
  exact (refers_addMaterialVertex
    (((hext ..).positions false).length_le.trans hsize)).extend (hext ..)

end Render

end OkularV3d
