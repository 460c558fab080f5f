import OkularV3d.Scene.Drawing
import OkularV3d.Scene.FastPath
import OkularV3d.Scene.IndexBuffers

/-!
# The complete mesh and a view of it

The subdivision of a surface with vertices that are named by themselves (`SurfaceSetting.name`)
makes no mesh: it gives the triangles of the complete surface, each with the tests that are made
before it is drawn (`pieces`). A view only decides which of these tests come out offscreen.
`cuts_run` proves that a rendering, with its indices and its culling, draws the pieces that pass all
of their tests, in their order, and is onscreen exactly when all pieces pass.

Nothing is assumed of the arithmetic. An index beyond 32 bits wraps around and names another vertex,
but always one of the mesh.

* `BezierPatch.pieces` and `BezierTriangle.pieces` are the complete meshes, by the recursion of the
  code with `SurfaceSetting.name` for the vertices.
* `Cuts` is the specification of a rendering against such a mesh. `cuts_cull` is a piece that is
  culled, `cuts_emitTriangle` one that is drawn, and `Cuts.append` composes.
* `PatchPiece.Matches` and `TrianglePiece.Matches` relate a piece of a view to the piece of the
  complete surface; `matches_stepQuarters` keeps them related.
* `patch_cut` and `triangle_cut` are the results, with `BezierPatch.mesh` and `BezierTriangle.mesh`
  for the one mesh of all views.
-/

namespace OkularV3d

open Adaptive

variable {D F : Type}

/-! ### The complete mesh -/

/-- A triangle of a complete mesh, with the tests that are made before it is drawn. -/
structure MeshPiece (D F : Type) where
  tests : List (Vec3 D × List (Vec3 D))
  facet : Facet F

namespace MeshPiece

/-- A test of a larger part of the surface comes first. -/
def under (test : Vec3 D × List (Vec3 D)) (m : MeshPiece D F) : MeshPiece D F :=
  { m with tests := test :: m.tests }

@[simp] theorem facet_under (test : Vec3 D × List (Vec3 D)) (m : MeshPiece D F) :
    (m.under test).facet = m.facet := rfl

variable [Scalar D]

/-- No test of the piece comes out offscreen. -/
def kept (projViewMat : Mat4 D) (m : MeshPiece D F) : Bool :=
  m.tests.all fun (v, vs) => !(BBox2.ofPoints projViewMat v vs).offscreen

/-- A piece below a test is kept if the test does not find it offscreen, and the ones below do not
either. -/
theorem kept_under (projViewMat : Mat4 D) (test : Vec3 D × List (Vec3 D)) (m : MeshPiece D F) :
    (m.under test).kept projViewMat =
      (!(BBox2.ofPoints projViewMat test.1 test.2).offscreen && m.kept projViewMat) := rfl

end MeshPiece

/-- The triangle between three corners, with its own test. -/
def SurfaceCorner.piece (a b c : SurfaceCorner (Vertex F) D F) : MeshPiece D F :=
  ⟨[(a.P, [b.P, c.P])], (a.I, b.I, c.I)⟩

section Pieces

variable [Scalar D] [Scalar F] [Rounding D F]

/-- The vertex `addVertex` adds. -/
def SurfaceSetting.vertex (R : SurfaceSetting D) (pos norm : Vec3 D) (C : Option (Vec4 F)) :
    Vertex F :=
  match C with
  | some c => .color ⟨pos.narrow, norm.narrow, R.word, c⟩
  | none =>
    if R.transparent then
      .color ⟨pos.narrow, norm.narrow, R.word,
        ⟨Scalar.lit 0, Scalar.lit 0, Scalar.lit 0, Scalar.lit 0⟩⟩
    else .material ⟨pos.narrow, norm.narrow, R.word⟩

/-- A corner whose vertex is named by itself. -/
def SurfaceSetting.name (R : SurfaceSetting D) (pos norm : Vec3 D)
    (C : Option (Vec4 F)) (_ : Unit) :
    Unit × SurfaceCorner (Vertex F) D F :=
  ((), ⟨R.vertex pos norm C, pos, C⟩)

/-- The complete mesh of a patch, at most `n` deep. -/
def BezierPatch.pieces (R : SurfaceSetting D) : ℕ → PatchPiece (Vertex F) D F → List (MeshPiece D F)
  | 0, s => [⟨[], (s.c0.I, s.c1.I, s.c2.I)⟩]
  | n + 1, s =>
    let d := distance s.p
    if Scalar.lt d.1 R.res2 && Scalar.lt d.2 R.res2 then
      [s.c0.piece s.c1 s.c2, s.c0.piece s.c2 s.c3]
    else
      let parts :=
        if Scalar.lt d.1 R.res2 then stepVertically R.name R s ()
        else if Scalar.lt d.2 R.res2 then stepHorizontally R.name R s ()
        else stepQuarters R.name R s ()
      (parts.2.flatMap (pieces R n)).map (.under (s.p.get 0, s.p.toList.tail))

/-- The complete mesh of a Bezier triangle, at most `n` deep. -/
def BezierTriangle.pieces (R : SurfaceSetting D) :
    ℕ → TrianglePiece (Vertex F) D F → List (MeshPiece D F)
  | 0, s => [⟨[], (s.c0.I, s.c1.I, s.c2.I)⟩]
  | n + 1, s =>
    if Scalar.lt (distance s.p) R.res2 then [s.c0.piece s.c1 s.c2]
    else
      ((stepQuarters R.name R s ()).2.flatMap (pieces R n)).map
        (.under (s.p.get 0, s.p.toList.tail))

end Pieces

/-! ### Indices -/

namespace Mesh

variable {k : BufferKind} {s s' t u : Mesh F}

theorem length_vdata (data : VertexData F) (k : BufferKind) :
    (data.vdata k).length = data.count k := by
  cases k <;> exact List.length_map ..

theorem Extends.vdata (h : s.Extends t) (hk : k ≠ .point) : s.data.vdata k <+: t.data.vdata k := by
  cases k with
  | material | line => exact h.materialVertices.map _
  | color | transparent | triangle => exact h.colorVertices.map _
  | point => contradiction

/-- An extended mesh has no fewer vertices. -/
theorem Extends.count_le (h : s.Extends t) (hk : k ≠ .point) : s.data.count k ≤ t.data.count k := by
  rw [← length_vdata, ← length_vdata]
  exact (h.vdata hk).length_le

/-- An index names the vertex `v`: it is that of a vertex of the mesh, and of `v` if no index wraps
around. -/
def Names (k : BufferKind) (M : Mesh F) (i : UInt32) (v : Vertex F) : Prop :=
  i.toNat < M.data.count k ∧ (M.data.count k ≤ 2 ^ 32 → (M.data.vdata k)[i.toNat]? = some v)

/-- An index goes on naming its vertex. -/
theorem Names.extend {i : UInt32} {v : Vertex F} (h : s.Names k i v) (hst : s.Extends t)
    (hk : k ≠ .point) : t.Names k i v := by
  have hcount := hst.count_le hk
  refine ⟨h.1.trans_le hcount, fun hsize => ?_⟩
  obtain ⟨l, hl⟩ := hst.vdata hk
  rw [← hl, List.getElem?_append_left (by rw [length_vdata]; exact h.1)]
  exact h.2 (hcount.trans hsize)

/-- The vertex that was added last. -/
theorem Names.of_append {v : Vertex F} {l : List (Vertex F)} (h : t.data.vdata k = l ++ [v]) :
    t.Names k (UInt32.ofNat l.length) v := by
  have hcount : t.data.count k = l.length + 1 := by
    rw [← length_vdata, h, List.length_append, List.length_singleton]
  have hmod : (UInt32.ofNat l.length).toNat = l.length % 2 ^ 32 := UInt32.toNat_ofNat
  rw [Names, hcount, hmod]
  refine ⟨(Nat.mod_le ..).trans_lt (Nat.lt_succ_self _), fun hsize => ?_⟩
  rw [Nat.mod_eq_of_lt hsize, h, List.getElem?_concat_length]

/-- A rendering from `s` to `t` draws those of the pieces that are kept. -/
structure Cuts [Scalar D] (k : BufferKind) (projViewMat : Mat4 D) (s t : Mesh F)
    (ms : List (MeshPiece D F)) : Prop where
  extends_mesh : s.Extends t
  draws : ∃ is, t.data.indices = s.data.indices ++ is ∧
    List.Forall₂ (t.Names k) is
      ((ms.filter (MeshPiece.kept projViewMat)).flatMap fun m =>
        [m.facet.1, m.facet.2.1, m.facet.2.2])
  onscreen : t.onscreen = (s.onscreen && ms.all (MeshPiece.kept projViewMat))

section Cuts

variable [Scalar D] {projViewMat : Mat4 D} {ms ms' : List (MeshPiece D F)}

theorem cuts_nil (s : Mesh F) : Cuts k projViewMat s s [] :=
  ⟨.refl s, ⟨[], (List.append_nil _).symm, .nil⟩, (Bool.and_true _).symm⟩

/-- **Cuts are cut one after the other**, as the parts of a piece are rendered. -/
theorem Cuts.append (hk : k ≠ .point) (h : Cuts k projViewMat s t ms)
    (h' : Cuts k projViewMat t u ms') :
    Cuts k projViewMat s u (ms ++ ms') := by
  obtain ⟨is, his, hnames⟩ := h.draws
  obtain ⟨js, hjs, hnames'⟩ := h'.draws
  refine ⟨h.extends_mesh.trans h'.extends_mesh, ⟨is ++ js, ?_, ?_⟩, ?_⟩
  · rw [hjs, his, List.append_assoc]
  · rw [List.filter_append, List.flatMap_append]
    exact List.rel_append (hnames.imp fun i v hi => hi.extend h'.extends_mesh hk) hnames'
  · rw [h'.onscreen, h.onscreen, List.all_append, Bool.and_assoc]

/-- Vertices that are added draw nothing. -/
theorem Cuts.of_added (h : Cuts k projViewMat s' t ms) (hext : s.Extends s')
    (hindices : s'.data.indices = s.data.indices) (hon : s'.onscreen = s.onscreen) :
    Cuts k projViewMat s t ms := by
  obtain ⟨is, his, hnames⟩ := h.draws
  exact ⟨hext.trans h.extends_mesh, ⟨is, hindices ▸ his, hnames⟩, hon ▸ h.onscreen⟩

/-- A test that comes out onscreen changes nothing. -/
theorem Cuts.under {test : Vec3 D × List (Vec3 D)}
    (hon : (BBox2.ofPoints projViewMat test.1 test.2).offscreen = false)
    (h : Cuts k projViewMat s t ms) : Cuts k projViewMat s t (ms.map (.under test)) := by
  have hkept : MeshPiece.kept projViewMat ∘ MeshPiece.under test =
    MeshPiece.kept (F := F) projViewMat := by
    funext m
    rw [Function.comp_apply, MeshPiece.kept_under, hon, Bool.not_false, Bool.true_and]
  refine ⟨h.extends_mesh, ?_, ?_⟩
  · rw [List.filter_map, List.flatMap_map, hkept]
    exact h.draws
  · rw [List.all_map, hkept]
    exact h.onscreen

/-- A test that comes out offscreen leaves out all that it is made for. -/
theorem cuts_cull {test : Vec3 D × List (Vec3 D)}
    (hoff : (BBox2.ofPoints projViewMat test.1 test.2).offscreen = true) (hms : ms ≠ []) :
    Cuts k projViewMat s s.cull (ms.map (.under test)) := by
  have hkept : ∀ m ∈ ms.map (MeshPiece.under test), m.kept projViewMat = false := by
    intro m hm
    obtain ⟨m', -, rfl⟩ := List.mem_map.mp hm
    rw [MeshPiece.kept_under, hoff]
    rfl
  refine ⟨s.extends_cull, ⟨[], (List.append_nil _).symm, ?_⟩, ?_⟩
  · rw [List.filter_eq_nil_iff.mpr fun m hm => by simp [hkept m hm]]
    exact .nil
  · obtain ⟨m, ms, rfl⟩ := List.exists_cons_of_ne_nil hms
    have hm := hkept _ (List.mem_map_of_mem (List.mem_cons_self (l := ms)))
    simp [cull, hm]

end Cuts

end Mesh

/-! ### Corners -/

/-- The buffer the vertices of a surface are in. -/
def SurfaceSetting.kind (R : SurfaceSetting D) (color : Bool) : BufferKind :=
  surfaceKind R.transparent color

/-- A corner and the corner it is of the complete surface. -/
inductive SurfaceCorner.Matches (R : SurfaceSetting D) (color : Bool) (M : Mesh F) :
    SurfaceCorner UInt32 D F → SurfaceCorner (Vertex F) D F → Prop
  | intro {i : UInt32} {v : Vertex F} {P : Vec3 D} {C : Option (Vec4 F)}
    (names : M.Names (R.kind color) i v) (isSome : C.isSome = color) :
      Matches R color M ⟨i, P, C⟩ ⟨v, P, C⟩

section Corners

variable {R : SurfaceSetting D} {color : Bool} {M N : Mesh F}

/-- A surface has no point vertices. -/
theorem SurfaceSetting.kind_ne (R : SurfaceSetting D) (color : Bool) : R.kind color ≠ .point :=
  (surfaceKind_ne ..).2

/-- A corner goes on naming the vertex of its counterpart. -/
theorem SurfaceCorner.Matches.extend {c : SurfaceCorner UInt32 D F}
    {a : SurfaceCorner (Vertex F) D F}
    (h : c.Matches R color M a) (hext : M.Extends N) : c.Matches R color N a := by
  obtain ⟨hnames, hsome⟩ := h
  exact ⟨hnames.extend hext (R.kind_ne color), hsome⟩

open BezierPatch

/-- A triangle, or what its test leaves of it. -/
theorem cuts_emitTriangle [Scalar D] {a b c : SurfaceCorner UInt32 D F}
    {a' b' c' : SurfaceCorner (Vertex F) D F} (ha : a.Matches R color M a')
    (hb : b.Matches R color M b')
    (hc : c.Matches R color M c') :
    Mesh.Cuts (R.kind color) R.projViewMat M (emitTriangle R a b c M) [a'.piece b' c'] := by
  have hext := extends_emitTriangle R a b c M
  obtain @⟨i, u, P, C, hi, -⟩ := ha.extend hext
  obtain @⟨j, v, Q, C', hj, -⟩ := hb.extend hext
  obtain @⟨l, w, S, C'', hl, -⟩ := hc.extend hext
  have hkept : (SurfaceCorner.piece ⟨u, P, C⟩ ⟨v, Q, C'⟩ ⟨w, S, C''⟩).kept R.projViewMat =
      !(BBox2.ofPoints R.projViewMat P [Q, S]).offscreen := Bool.and_true _
  rw [emitTriangle, Mesh.emit] at *
  obtain hoff | hoff := Bool.eq_false_or_eq_true (BBox2.ofPoints R.projViewMat P [Q, S]).offscreen
  · rw [if_pos hoff] at *
    exact ⟨hext, ⟨[], by simp [Mesh.cull], by simp [hkept, hoff]⟩, by simp [hkept, hoff, Mesh.cull]⟩
  · rw [if_neg (Bool.eq_false_iff.mp hoff)] at *
    refine ⟨hext, ⟨[i, j, l], rfl, ?_⟩, by simp [hkept, hoff]⟩
    rw [List.filter_cons_of_pos (by simp [hkept, hoff])]
    exact .cons hi (.cons hj (.cons hl .nil))

variable [Scalar F] [Rounding D F]

/-- A vertex that is added is the one that is named. -/
theorem matches_addVertex {pos norm : Vec3 D} {C : Option (Vec4 F)} (hcolor : C.isSome = color)
    (hext : (addVertex R pos norm C M).1.Extends N) :
    (addVertex R pos norm C M).2.Matches R color N (R.name pos norm C ()).2 := by
  have hadd : (addVertex R pos norm C M).1.data.vdata (R.kind C.isSome) =
        M.data.vdata (R.kind C.isSome) ++ [R.vertex pos norm C] ∧
      (addVertex R pos norm C M).2 =
        ⟨UInt32.ofNat (M.data.vdata (R.kind C.isSome)).length, pos, C⟩ := by
    obtain _ | c := C
    · rw [addVertex, SurfaceSetting.vertex, SurfaceSetting.kind]
      cases R.transparent <;>
        simp [Mesh.addColorVertex, Mesh.addMaterialVertex, VertexData.vdata, surfaceKind, flatKind]
    · rw [addVertex, SurfaceSetting.vertex, SurfaceSetting.kind]
      cases R.transparent <;> simp [Mesh.addColorVertex, VertexData.vdata, surfaceKind, colorKind]
  subst hcolor
  rw [hadd.2]
  exact ⟨(Mesh.Names.of_append hadd.1).extend hext (R.kind_ne _), rfl⟩

/-- A new vertex culls nothing. -/
theorem onscreen_addVertex (pos norm : Vec3 D) (C : Option (Vec4 F)) :
    (addVertex R pos norm C M).1.onscreen = M.onscreen := by
  obtain _ | c := C
  · rw [addVertex]
    split_ifs <;> rfl
  · rfl

end Corners

/-- **Pieces one after the other.** -/
theorem Mesh.cuts_chain [Scalar D] {P Q : Type} {k : BufferKind} (hk : k ≠ .point)
    {projViewMat : Mat4 D} {Match : Mesh F → P → Q → Prop} {pieces : Q → List (MeshPiece D F)}
    (hmatch : ∀ q a s t, Match s q a → s.Extends t → Match t q a) {qs : List P} {as : List Q}
    {s t : Mesh F}
    (h : Chain (fun q s t => ∀ a, Match s q a → Cuts k projViewMat s t (pieces a)) qs s t)
    (hqs : List.Forall₂ (Match s) qs as) : Cuts k projViewMat s t (as.flatMap pieces) := by
  induction h generalizing as with
  | nil s =>
    obtain _ | _ := hqs
    exact cuts_nil s
  | cons head tail ih =>
    obtain _ | ⟨hq, hqs⟩ := hqs
    have hhead := head _ hq
    exact hhead.append hk (ih (hqs.imp fun q a hq => hmatch q a _ _ hq hhead.extends_mesh))

/-! ### Patches -/

/-- A piece and the piece it is of the complete surface. -/
inductive PatchPiece.Matches (R : SurfaceSetting D) (color : Bool) (M : Mesh F) :
    PatchPiece UInt32 D F → PatchPiece (Vertex F) D F → Prop
  | intro {p : Vector (Vec3 D) 16} {c0 c1 c2 c3 : SurfaceCorner UInt32 D F}
    {a0 a1 a2 a3 : SurfaceCorner (Vertex F) D F} {flat0 flat1 flat2 flat3 : Bool}
    (h0 : c0.Matches R color M a0) (h1 : c1.Matches R color M a1) (h2 : c2.Matches R color M a2)
    (h3 : c3.Matches R color M a3) :
    Matches R color M ⟨p, c0, c1, c2, c3, flat0, flat1, flat2, flat3⟩
      ⟨p, a0, a1, a2, a3, flat0, flat1, flat2, flat3⟩

/-- All four corners go on naming theirs. -/
theorem PatchPiece.Matches.extend {R : SurfaceSetting D} {color : Bool} {M N : Mesh F}
    {q : PatchPiece UInt32 D F} {a : PatchPiece (Vertex F) D F} (h : q.Matches R color M a)
    (hext : M.Extends N) : q.Matches R color N a := by
  obtain ⟨h0, h1, h2, h3⟩ := h
  exact ⟨h0.extend hext, h1.extend hext, h2.extend hext, h3.extend hext⟩

namespace BezierPatch

variable [Scalar D] [Scalar F] [Rounding D F] {R : SurfaceSetting D} {color : Bool} {M N : Mesh F}
  {q : PatchPiece UInt32 D F} {a : PatchPiece (Vertex F) D F}

theorem isSome_mixColors_of_eq {C C' : Option (Vec4 F)} (h : C.isSome = color)
    (h' : C'.isSome = color) :
    (mixColors D C C').isSome = color := by
  rw [isSome_mixColors, h, h', Bool.and_self]

/-- Split across, a piece and its counterpart have parts that match. -/
theorem matches_stepVertically (h : q.Matches R color M a) :
    List.Forall₂ (PatchPiece.Matches R color (stepVertically (addVertex R) R q M).1)
      (stepVertically (addVertex R) R q M).2 (stepVertically R.name R a ()).2 := by
  have hext : M.Extends (stepVertically (addVertex R) R q M).1 :=
    (extends_addVertex R _ _ _ M).trans (extends_addVertex ..)
  obtain ⟨h0, h1, h2, h3⟩ := h.extend hext
  obtain ⟨_, hc0⟩ := id h0
  obtain ⟨_, hc1⟩ := id h1
  obtain ⟨_, hc2⟩ := id h2
  obtain ⟨_, hc3⟩ := id h3
  refine .cons ⟨h0, h1, ?i0, ?i1⟩ (.cons ⟨?i1, ?i0, h2, h3⟩ .nil)
  case i0 => exact matches_addVertex (isSome_mixColors_of_eq hc1 hc2) (extends_addVertex ..)
  case i1 => exact matches_addVertex (isSome_mixColors_of_eq hc3 hc0) (.refl _)

/-- So they have split along. -/
theorem matches_stepHorizontally (h : q.Matches R color M a) :
    List.Forall₂ (PatchPiece.Matches R color (stepHorizontally (addVertex R) R q M).1)
      (stepHorizontally (addVertex R) R q M).2 (stepHorizontally R.name R a ()).2 := by
  have hext : M.Extends (stepHorizontally (addVertex R) R q M).1 :=
    (extends_addVertex R _ _ _ M).trans (extends_addVertex ..)
  obtain ⟨h0, h1, h2, h3⟩ := h.extend hext
  obtain ⟨_, hc0⟩ := id h0
  obtain ⟨_, hc1⟩ := id h1
  obtain ⟨_, hc2⟩ := id h2
  obtain ⟨_, hc3⟩ := id h3
  refine .cons ⟨h0, ?i0, ?i1, h3⟩ (.cons ⟨?i0, h1, h2, ?i1⟩ .nil)
  case i0 => exact matches_addVertex (isSome_mixColors_of_eq hc0 hc1) (extends_addVertex ..)
  case i1 => exact matches_addVertex (isSome_mixColors_of_eq hc2 hc3) (.refl _)

/-- So they have split in both directions. -/
theorem matches_stepQuarters (h : q.Matches R color M a) :
    List.Forall₂ (PatchPiece.Matches R color (stepQuarters (addVertex R) R q M).1)
      (stepQuarters (addVertex R) R q M).2 (stepQuarters R.name R a ()).2 := by
  obtain ⟨h0, h1, h2, h3⟩ := h.extend (extends_stepQuarters (R := R) (s := q))
  obtain ⟨_, hc0⟩ := id h0
  obtain ⟨_, hc1⟩ := id h1
  obtain ⟨_, hc2⟩ := id h2
  obtain ⟨_, hc3⟩ := id h3
  have h01 := isSome_mixColors_of_eq (D := D) hc0 hc1
  have h23 := isSome_mixColors_of_eq (D := D) hc2 hc3
  refine .cons ⟨h0, ?i0, ?i4, ?i3⟩ (.cons ⟨?i0, h1, ?i1, ?i4⟩ (.cons ⟨?i4, ?i1, h2, ?i2⟩
    (.cons ⟨?i3, ?i4, ?i2, h3⟩ .nil)))
  case i0 =>
    exact matches_addVertex h01 ((((extends_addVertex ..).trans (extends_addVertex ..)).trans
      (extends_addVertex ..)).trans (extends_addVertex ..))
  case i1 =>
    exact matches_addVertex (isSome_mixColors_of_eq hc1 hc2) (((extends_addVertex ..).trans
      (extends_addVertex ..)).trans (extends_addVertex ..))
  case i2 => exact matches_addVertex h23 ((extends_addVertex ..).trans (extends_addVertex ..))
  case i3 => exact matches_addVertex (isSome_mixColors_of_eq hc3 hc0) (extends_addVertex ..)
  case i4 => exact matches_addVertex (isSome_mixColors_of_eq h01 h23) (.refl _)

/-- The complete mesh of a patch has some triangle. -/
theorem pieces_ne_nil (n : ℕ) (a : PatchPiece (Vertex F) D F) : pieces R n a ≠ [] := by
  induction n generalizing a with
  | zero => exact List.cons_ne_nil _ _
  | succ n ih =>
    rw [pieces]
    split_ifs
    · exact List.cons_ne_nil _ _
    all_goals
      simp only [stepVertically, stepHorizontally, stepQuarters, List.flatMap_cons, ne_eq,
        List.map_eq_nil_iff, List.append_eq_nil_iff, ih, false_and, not_false_eq_true]

/-- **What a view draws of a patch.** -/
theorem cuts_run {n : ℕ} (h : run (step R) n q M = some N) (hq : q.Matches R color M a) :
    Mesh.Cuts (R.kind color) R.projViewMat M N (pieces R n a) := by
  refine run_induct (R := fun n q M N => ∀ a, q.Matches R color M a →
    Mesh.Cuts (R.kind color) R.projViewMat M N (pieces R n a)) ?_ h a hq
  intro n q M N hparts a hq
  have hne := pieces_ne_nil (R := R) (n + 1) a
  obtain ⟨h0, h1, h2, h3⟩ := id hq
  -- the complete surface is split as the view splits it, since neither split depends on the view
  rw [step] at hparts
  rw [pieces] at hne ⊢
  split_ifs at hparts with hflat hoff hh hv
  · -- the piece is flat
    obtain rfl := chain_nil_iff.mp hparts
    rw [if_pos hflat]
    have hfirst := cuts_emitTriangle h0 h1 h2
    have hext := hfirst.extends_mesh
    exact hfirst.append (R.kind_ne color)
      (cuts_emitTriangle (h0.extend hext) (h2.extend hext) (h3.extend hext))
  · obtain rfl := chain_nil_iff.mp hparts
    rw [if_neg hflat] at hne ⊢
    exact Mesh.cuts_cull hoff fun hnil => hne (congrArg (List.map _) hnil)
  · rw [if_neg hflat, if_pos hh]
    refine (((Mesh.cuts_chain (R.kind_ne color) (fun q a s t h hext => h.extend hext) hparts
      (matches_stepVertically hq)).of_added ?_ ?_ ?_).under (Bool.eq_false_iff.mpr hoff))
    · exact (extends_addVertex R _ _ _ M).trans (extends_addVertex ..)
    · exact (indices_addVertex ..).trans (indices_addVertex ..)
    · exact (onscreen_addVertex ..).trans (onscreen_addVertex ..)
  · rw [if_neg hflat, if_neg hh, if_pos hv]
    refine (((Mesh.cuts_chain (R.kind_ne color) (fun q a s t h hext => h.extend hext) hparts
      (matches_stepHorizontally hq)).of_added ?_ ?_ ?_).under (Bool.eq_false_iff.mpr hoff))
    · exact (extends_addVertex R _ _ _ M).trans (extends_addVertex ..)
    · exact (indices_addVertex ..).trans (indices_addVertex ..)
    · exact (onscreen_addVertex ..).trans (onscreen_addVertex ..)
  · rw [if_neg hflat, if_neg hh, if_neg hv]
    refine (((Mesh.cuts_chain (R.kind_ne color) (fun q a s t h hext => h.extend hext) hparts
      (matches_stepQuarters hq)).of_added extends_stepQuarters ?_ ?_).under
        (Bool.eq_false_iff.mpr hoff))
    · exact ((((indices_addVertex ..).trans (indices_addVertex ..)).trans
        (indices_addVertex ..)).trans
        (indices_addVertex ..)).trans (indices_addVertex ..)
    · exact ((((onscreen_addVertex ..).trans (onscreen_addVertex ..)).trans
        (onscreen_addVertex ..)).trans
        (onscreen_addVertex ..)).trans (onscreen_addVertex ..)

/-- The complete mesh does not depend on the view. -/
theorem pieces_view (projViewMat : Mat4 D) (n : ℕ) (a : PatchPiece (Vertex F) D F) :
    pieces { R with projViewMat := projViewMat } n a = pieces R n a := by
  have hname : SurfaceSetting.name (F := F) { R with projViewMat := projViewMat } = R.name := rfl
  induction n generalizing a with
  | zero => rfl
  | succ n ih =>
    have hrec : pieces (F := F) { R with projViewMat := projViewMat } n = pieces R n := funext ih
    simp only [pieces, hrec, hname]
    rfl

theorem indices_start (colors : Option (Vector (Vec4 F) 4)) (p : Vector (Vec3 D) 16) :
    (start (addVertex R) R colors p Mesh.init).1.data.indices = [] :=
  (((indices_addVertex ..).trans (indices_addVertex ..)).trans (indices_addVertex ..)).trans
    (indices_addVertex ..)

theorem onscreen_start (colors : Option (Vector (Vec4 F) 4)) (p : Vector (Vec3 D) 16) :
    (start (addVertex R) R colors p Mesh.init).1.onscreen = true :=
  (((onscreen_addVertex ..).trans (onscreen_addVertex ..)).trans (onscreen_addVertex ..)).trans
    (onscreen_addVertex ..)

/-- The rendering begins at a piece that matches that of the complete mesh. -/
theorem matches_start {colors : Option (Vector (Vec4 F) 4)} (p : Vector (Vec3 D) 16) :
    (start (addVertex R) R colors p Mesh.init).2.Matches R colors.isSome
      (start (addVertex R) R colors p Mesh.init).1 (start R.name R colors p ()).2 := by
  have hcolor : ∀ i, (colors.map fun c => c.get i).isSome = colors.isSome :=
    fun i => Option.isSome_map ..
  exact ⟨matches_addVertex (hcolor 0) (((extends_addVertex ..).trans (extends_addVertex ..)).trans
      (extends_addVertex ..)),
    matches_addVertex (hcolor 1) ((extends_addVertex ..).trans (extends_addVertex ..)),
    matches_addVertex (hcolor 2) (extends_addVertex ..), matches_addVertex (hcolor 3) (.refl _)⟩

end BezierPatch

/-! ### Triangles -/

/-- A piece and the piece it is of the complete surface. -/
inductive TrianglePiece.Matches (R : SurfaceSetting D) (color : Bool) (M : Mesh F) :
    TrianglePiece UInt32 D F → TrianglePiece (Vertex F) D F → Prop
  | intro {p : Vector (Vec3 D) 10} {c0 c1 c2 : SurfaceCorner UInt32 D F}
    {a0 a1 a2 : SurfaceCorner (Vertex F) D F} {flat0 flat1 flat2 : Bool}
    (h0 : c0.Matches R color M a0) (h1 : c1.Matches R color M a1) (h2 : c2.Matches R color M a2) :
    Matches R color M ⟨p, c0, c1, c2, flat0, flat1, flat2⟩ ⟨p, a0, a1, a2, flat0, flat1, flat2⟩

/-- All three corners go on naming theirs. -/
theorem TrianglePiece.Matches.extend {R : SurfaceSetting D} {color : Bool} {M N : Mesh F}
    {q : TrianglePiece UInt32 D F} {a : TrianglePiece (Vertex F) D F} (h : q.Matches R color M a)
    (hext : M.Extends N) : q.Matches R color N a := by
  obtain ⟨h0, h1, h2⟩ := h
  exact ⟨h0.extend hext, h1.extend hext, h2.extend hext⟩

namespace BezierTriangle

open BezierPatch

variable [Scalar D] [Scalar F] [Rounding D F] {R : SurfaceSetting D} {color : Bool} {M N : Mesh F}
  {q : TrianglePiece UInt32 D F} {a : TrianglePiece (Vertex F) D F}

/-- The four parts of a triangle match those of its counterpart. -/
theorem matches_stepQuarters (h : q.Matches R color M a) :
    List.Forall₂ (TrianglePiece.Matches R color (stepQuarters (addVertex R) R q M).1)
      (stepQuarters (addVertex R) R q M).2 (stepQuarters R.name R a ()).2 := by
  obtain ⟨h0, h1, h2⟩ := h.extend (extends_stepQuarters (R := R) (s := q))
  obtain ⟨_, hc0⟩ := id h0
  obtain ⟨_, hc1⟩ := id h1
  obtain ⟨_, hc2⟩ := id h2
  refine .cons ⟨h0, ?i2, ?i1⟩
    (.cons ⟨?i2, h1, ?i0⟩ (.cons ⟨?i1, ?i0, h2⟩ (.cons ⟨?i0, ?i1, ?i2⟩ .nil)))
  case i0 =>
    exact matches_addVertex (isSome_mixColors_of_eq hc1 hc2) ((extends_addVertex ..).trans
      (extends_addVertex ..))
  case i1 => exact matches_addVertex (isSome_mixColors_of_eq hc2 hc0) (extends_addVertex ..)
  case i2 => exact matches_addVertex (isSome_mixColors_of_eq hc0 hc1) (.refl _)

theorem pieces_ne_nil (n : ℕ) (a : TrianglePiece (Vertex F) D F) : pieces R n a ≠ [] := by
  induction n generalizing a with
  | zero => exact List.cons_ne_nil _ _
  | succ n ih =>
    rw [pieces]
    split_ifs
    · exact List.cons_ne_nil _ _
    · simp only [stepQuarters, List.flatMap_cons, ne_eq, List.map_eq_nil_iff,
        List.append_eq_nil_iff, ih,
        false_and, not_false_eq_true]

/-- **What a view draws of a Bezier triangle.** -/
theorem cuts_run {n : ℕ} (h : run (step R) n q M = some N) (hq : q.Matches R color M a) :
    Mesh.Cuts (R.kind color) R.projViewMat M N (pieces R n a) := by
  refine run_induct (R := fun n q M N => ∀ a, q.Matches R color M a →
    Mesh.Cuts (R.kind color) R.projViewMat M N (pieces R n a)) ?_ h a hq
  intro n q M N hparts a hq
  have hne := pieces_ne_nil (R := R) (n + 1) a
  obtain ⟨h0, h1, h2⟩ := id hq
  rw [step] at hparts
  rw [pieces] at hne ⊢
  split_ifs at hparts with hflat hoff
  · obtain rfl := chain_nil_iff.mp hparts
    rw [if_pos hflat]
    exact cuts_emitTriangle h0 h1 h2
  · obtain rfl := chain_nil_iff.mp hparts
    rw [if_neg hflat] at hne ⊢
    exact Mesh.cuts_cull hoff fun hnil => hne (congrArg (List.map _) hnil)
  · rw [if_neg hflat]
    refine ((Mesh.cuts_chain (R.kind_ne color) (fun q a s t h hext => h.extend hext) hparts
      (matches_stepQuarters hq)).of_added extends_stepQuarters ?_ ?_).under
        (Bool.eq_false_iff.mpr hoff)
    · exact ((indices_addVertex ..).trans (indices_addVertex ..)).trans (indices_addVertex ..)
    · exact ((onscreen_addVertex ..).trans (onscreen_addVertex ..)).trans (onscreen_addVertex ..)

/-- The complete mesh of a Bezier triangle does not depend on the view. -/
theorem pieces_view (projViewMat : Mat4 D) (n : ℕ) (a : TrianglePiece (Vertex F) D F) :
    pieces { R with projViewMat := projViewMat } n a = pieces R n a := by
  have hname : SurfaceSetting.name (F := F) { R with projViewMat := projViewMat } = R.name := rfl
  induction n generalizing a with
  | zero => rfl
  | succ n ih =>
    have hrec : pieces (F := F) { R with projViewMat := projViewMat } n = pieces R n := funext ih
    simp only [pieces, hrec, hname]
    rfl

theorem indices_start (colors : Option (Vector (Vec4 F) 3)) (p : Vector (Vec3 D) 10) :
    (start (addVertex R) R colors p Mesh.init).1.data.indices = [] :=
  ((indices_addVertex ..).trans (indices_addVertex ..)).trans (indices_addVertex ..)

theorem onscreen_start (colors : Option (Vector (Vec4 F) 3)) (p : Vector (Vec3 D) 10) :
    (start (addVertex R) R colors p Mesh.init).1.onscreen = true :=
  ((onscreen_addVertex ..).trans (onscreen_addVertex ..)).trans (onscreen_addVertex ..)

/-- The rendering of a triangle begins at a piece that matches, too. -/
theorem matches_start {colors : Option (Vector (Vec4 F) 3)} (p : Vector (Vec3 D) 10) :
    (start (addVertex R) R colors p Mesh.init).2.Matches R colors.isSome
      (start (addVertex R) R colors p Mesh.init).1 (start R.name R colors p ()).2 := by
  have hcolor : ∀ i, (colors.map fun c => c.get i).isSome = colors.isSome :=
    fun i => Option.isSome_map ..
  exact ⟨matches_addVertex (hcolor 0) ((extends_addVertex ..).trans (extends_addVertex ..)),
    matches_addVertex (hcolor 1) (extends_addVertex ..), matches_addVertex (hcolor 2) (.refl _)⟩

end BezierTriangle

/-! ### Renderings -/

/-- The triangles of indices that name the corners of `fs`. -/
theorem filterMap_threes {k : BufferKind} {M : Mesh F}
    (hsize : M.data.count k ≤ 2 ^ 32) {is : List UInt32}
    {fs : List (Facet F)}
    (h : List.Forall₂ (M.Names k) is (fs.flatMap fun f => [f.1, f.2.1, f.2.2])) :
    (threes is).filterMap (facet? (M.data.vdata k)) = fs := by
  induction fs generalizing is with
  | nil =>
    obtain _ | _ := h
    rfl
  | cons f fs ih =>
    obtain _ | ⟨hi, _ | ⟨hj, _ | ⟨hl, htail⟩⟩⟩ := h
    rw [threes, List.filterMap_cons, facet?, hi.2 hsize, hj.2 hsize, hl.2 hsize, ih htail]

namespace Mesh.Cuts

variable [Scalar D] {k : BufferKind} {projViewMat : Mat4 D} {s : Mesh F}
    {data : VertexData F} {on : Bool}
  {ms : List (MeshPiece D F)}

/-- Every index of a rendering is that of one of its vertices. -/
theorem inBounds (h : Cuts k projViewMat s ⟨data, on⟩ ms) (hs : s.data.indices = []) :
    data.InBounds k := by
  obtain ⟨is, his, hnames⟩ := h.draws
  rw [hs, List.nil_append] at his
  have hlt := (List.forall₂_and_left (p := fun i : UInt32 => i.toNat < data.count k)
    (R := fun _ _ => True) is _).mp (hnames.imp fun i v hi => ⟨hi.1, trivial⟩)
  exact fun i hi => hlt.1 i (his ▸ hi)

/-- The triangles of a rendering are the pieces that are kept. -/
theorem facets_eq (h : Cuts k projViewMat s ⟨data, on⟩ ms) (hs : s.data.indices = [])
    (hon : s.onscreen = true) (hsize : data.count k ≤ 2 ^ 32) :
    data.facets k = (ms.filter (MeshPiece.kept projViewMat)).map MeshPiece.facet ∧
      on = ms.all (MeshPiece.kept projViewMat) := by
  obtain ⟨is, his, hnames⟩ := h.draws
  rw [hs, List.nil_append] at his
  constructor
  · rw [VertexData.facets, his]
    refine filterMap_threes (M := ⟨data, on⟩) hsize ?_
    rw [List.flatMap_map]
    exact hnames
  · have honscreen : on = (s.onscreen && ms.all (MeshPiece.kept projViewMat)) := h.onscreen
    rw [honscreen, hon, Bool.true_and]

end Mesh.Cuts

section Render

variable [Scalar D] [Scalar F] [Rounding D F] {depth : ℕ} {projViewMat : Mat4 D} {res : D}
  {transparent : Bool} {word : Int32} {data : VertexData F} {on : Bool}

/-- What a rendering leaves of the complete mesh. -/
theorem BezierPatch.cuts_render {colors : Option (Vector (Vec4 F) 4)} {p : Vector (Vec3 D) 16}
    (h : render depth projViewMat res transparent colors word p = some (data, on)) :
    let R := setting projViewMat res transparent word (p.get 0) p.toList.tail
    Mesh.Cuts (surfaceKind transparent colors.isSome) projViewMat
      (start (addVertex R) R colors p Mesh.init).1 ⟨data, on⟩
      (pieces R depth (start R.name R colors p ()).2) := by
  intro R
  rw [render, Option.map_eq_some_iff] at h
  obtain ⟨⟨data', on'⟩, hrun, heq⟩ := h
  obtain ⟨rfl, rfl⟩ := Prod.mk.inj heq
  exact cuts_run hrun (matches_start p)

/-- **Every rendering of a Bezier triangle is cut** out of its complete mesh. -/
theorem BezierTriangle.cuts_render {colors : Option (Vector (Vec4 F) 3)} {p : Vector (Vec3 D) 10}
    (h : render depth projViewMat res transparent colors word p = some (data, on)) :
    let R := BezierPatch.setting projViewMat res transparent word (p.get 0) p.toList.tail
    Mesh.Cuts (surfaceKind transparent colors.isSome) projViewMat
      (start (BezierPatch.addVertex R) R colors p Mesh.init).1 ⟨data, on⟩
      (pieces R depth (start R.name R colors p ()).2) := by
  intro R
  rw [render, Option.map_eq_some_iff] at h
  obtain ⟨⟨data', on'⟩, hrun, heq⟩ := h
  obtain ⟨rfl, rfl⟩ := Prod.mk.inj heq
  exact cuts_run hrun (matches_start p)

/-- A rendering that ends is the same with a greater depth. -/
theorem BezierPatch.render_mono {n : ℕ} (hn : n ≤ depth) {colors : Option (Vector (Vec4 F) 4)}
    {p : Vector (Vec3 D) 16} {built : VertexData F × Bool}
    (h : render n projViewMat res transparent colors word p = some built) :
    render depth projViewMat res transparent colors word p = some built := by
  rw [render, Option.map_eq_some_iff] at h ⊢
  exact h.imp fun M hM => ⟨run_mono hn hM.1, hM.2⟩

theorem BezierTriangle.render_mono {n : ℕ} (hn : n ≤ depth) {colors : Option (Vector (Vec4 F) 3)}
    {p : Vector (Vec3 D) 10} {built : VertexData F × Bool}
    (h : render n projViewMat res transparent colors word p = some built) :
    render depth projViewMat res transparent colors word p = some built := by
  rw [render, Option.map_eq_some_iff] at h ⊢
  exact h.imp fun M hM => ⟨run_mono hn hM.1, hM.2⟩

/-- The complete mesh of a patch as it is rendered, which no view decides. -/
def BezierPatch.mesh (depth : ℕ) (res : D) (transparent : Bool)
    (colors : Option (Vector (Vec4 F) 4))
    (word : Int32) (p : Vector (Vec3 D) 16) : List (MeshPiece D F) :=
  let R := setting (fun _ => Scalar.lit 0) res transparent word (p.get 0) p.toList.tail
  pieces R depth (start R.name R colors p ()).2

/-- The complete mesh of a Bezier triangle. -/
def BezierTriangle.mesh (depth : ℕ) (res : D) (transparent : Bool)
    (colors : Option (Vector (Vec4 F) 3)) (word : Int32) (p : Vector (Vec3 D) 10) :
    List (MeshPiece D F) :=
  let R := BezierPatch.setting (fun _ => Scalar.lit 0) res transparent word (p.get 0) p.toList.tail
  pieces R depth (start R.name R colors p ()).2

/-- The triangles of a rendering, as long as its indices do not wrap around. -/
theorem BezierPatch.facets_render {colors : Option (Vector (Vec4 F) 4)} {p : Vector (Vec3 D) 16}
    (h : render depth projViewMat res transparent colors word p = some (data, on))
    (hsize : data.count (surfaceKind transparent colors.isSome) ≤ 2 ^ 32) :
    data.facets (surfaceKind transparent colors.isSome) =
        ((mesh depth res transparent colors word p).filter (MeshPiece.kept projViewMat)).map
          MeshPiece.facet ∧
      on = (mesh depth res transparent colors word p).all (MeshPiece.kept projViewMat) := by
  let R := setting (fun _ => Scalar.lit 0) res transparent word (p.get 0) p.toList.tail
  have hview := pieces_view (R := R) projViewMat depth (start R.name R colors p ()).2
  rw [mesh, ← hview]
  exact (cuts_render h).facets_eq (indices_start ..) (onscreen_start ..) hsize

/-- What a rendering of a Bezier triangle draws are the triangles that no test cuts off. -/
theorem BezierTriangle.facets_render {colors : Option (Vector (Vec4 F) 3)} {p : Vector (Vec3 D) 10}
    (h : render depth projViewMat res transparent colors word p = some (data, on))
    (hsize : data.count (surfaceKind transparent colors.isSome) ≤ 2 ^ 32) :
    data.facets (surfaceKind transparent colors.isSome) =
        ((mesh depth res transparent colors word p).filter (MeshPiece.kept projViewMat)).map
          MeshPiece.facet ∧
      on = (mesh depth res transparent colors word p).all (MeshPiece.kept projViewMat) := by
  let R := BezierPatch.setting (fun _ => Scalar.lit 0) res transparent word (p.get 0) p.toList.tail
  have hview := pieces_view (R := R) projViewMat depth (start R.name R colors p ()).2
  rw [mesh, ← hview]
  exact (cuts_render h).facets_eq (indices_start ..) (onscreen_start ..) hsize

variable (depth res transparent word)

/-- **All views of a patch are cut out of one mesh**: the view decides only which tests come out
offscreen. -/
theorem patch_cut (colors : Option (Vector (Vec4 F) 4)) (p : Vector (Vec3 D) 16) :
    ∃ pieces : List (MeshPiece D F), ∀ n ≤ depth, ∀ projViewMat data on,
      BezierPatch.render n projViewMat res transparent colors word p = some (data, on) →
        data.count (surfaceKind transparent colors.isSome) ≤ 2 ^ 32 →
          data.facets (surfaceKind transparent colors.isSome) =
              (pieces.filter (MeshPiece.kept projViewMat)).map MeshPiece.facet ∧
            on = pieces.all (MeshPiece.kept projViewMat) :=
  ⟨BezierPatch.mesh depth res transparent colors word p, fun _ hn _ _ _ h hsize =>
    BezierPatch.facets_render (BezierPatch.render_mono hn h) hsize⟩

/-- **All views of a Bezier triangle are cut out of one mesh.** -/
theorem triangle_cut (colors : Option (Vector (Vec4 F) 3)) (p : Vector (Vec3 D) 10) :
    ∃ pieces : List (MeshPiece D F), ∀ n ≤ depth, ∀ projViewMat data on,
      BezierTriangle.render n projViewMat res transparent colors word p = some (data, on) →
        data.count (surfaceKind transparent colors.isSome) ≤ 2 ^ 32 →
          data.facets (surfaceKind transparent colors.isSome) =
              (pieces.filter (MeshPiece.kept projViewMat)).map MeshPiece.facet ∧
            on = pieces.all (MeshPiece.kept projViewMat) :=
  ⟨BezierTriangle.mesh depth res transparent colors word p, fun _ hn _ _ _ h hsize =>
    BezierTriangle.facets_render (BezierTriangle.render_mono hn h) hsize⟩

end Render

end OkularV3d
