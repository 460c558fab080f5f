import Mathlib.Algebra.Group.Nat.Defs
import OkularV3d.Lib.Runs
import OkularV3d.Scene.Billboards

/-!
# The material a vertex names

Every vertex carries an `int` that tells the shader which material to look up: the index of its
object's material, or in the buffers for vertices with colours one more than it, negated when the
vertex has a colour of its own. The index comes from the file as an unsigned word, and six places of
the code turn it into that `int`.

`SceneObject.carries_queueMesh` says what every object class puts into every buffer, on its fast and
its slow path; `V3dFile.words_along` follows a file through any sequence of frames.

* `signedWord` is the word with a sign, `objectWord` the word by buffer and `V3dObject.word` by
  object.
* `PutsWords` says that effects put no other words, and `KeepsWord` the same of what an object
  keeps; `words_queueSurface` to `words_pixel` are about the classes.
* `Tessellation.CarriesWord` is what is assumed of the subdivision.
* What the words are for a file that has been read is in `OkularV3d.File.QueuedIndices`.
-/

namespace OkularV3d

open Gate Runs

/-! ### Words and integers -/

section Words

variable {x : UInt32}

/-- An index below `2^31` is the same as a signed word. -/
theorem toInt_toInt32 (h : x.toNat < 2 ^ 31) : x.toInt32.toInt = x.toNat := by
  have hbits : x.toInt32.toInt = x.toBitVec.toInt := rfl
  rw [hbits, BitVec.toInt_eq_toNat_of_lt]
  · rfl
  · change 2 * x.toNat < 2 ^ 32
    omega

/-- So is its word for the opaque vertices with a colour, `1 + materialIndex`. -/
theorem toInt_one_add (h : x.toNat + 1 < 2 ^ 31) : (1 + x.toInt32).toInt = 1 + x.toNat := by
  have hone : (1 : Int32).toInt = 1 := rfl
  rw [Int32.toInt_add, toInt_toInt32 (by omega), hone, Int.bmod_eq_of_le]
  · omega
  · omega

/-- And its word for the transparent ones, `-1 - materialIndex`. -/
theorem toInt_neg_one_sub (h : x.toNat < 2 ^ 31) : (-1 - x.toInt32).toInt = -1 - x.toNat := by
  have hone : (-1 : Int32).toInt = -1 := rfl
  rw [Int32.toInt_sub, toInt_toInt32 h, hone, Int.bmod_eq_of_le]
  · omega
  · omega

end Words

variable {D F : Type}

/-- The word a vertex carries. -/
def Vertex.word : Vertex F → Int32
  | .material v => v.material
  | .color v => v.material
  | .point v => v.material

/-- A vertex that is moved keeps its word. -/
theorem Vertex.word_move (f : Vec3 F → Vec3 F) (v : Vertex F) : (v.move f).word = v.word := by
  cases v <;> rfl

/-- Every vertex of a piece carries the same word. -/
def VertexData.Carries (word : Int32) (data : VertexData F) : Prop :=
  (∀ v ∈ data.materialVertices, v.material = word) ∧
    (∀ v ∈ data.colorVertices, v.material = word) ∧ ∀ v ∈ data.pointVertices, v.material = word

theorem VertexData.carries_empty (word : Int32) : (empty : VertexData F).Carries word := by
  simp [Carries, empty]

theorem VertexData.Carries.vdata {word : Int32} {data : VertexData F} (h : data.Carries word)
    (k : BufferKind) : ∀ v ∈ data.vdata k, v.word = word := by
  intro v hv
  cases k <;> obtain ⟨u, hu, rfl⟩ := List.mem_map.mp hv
  case material | line => exact h.1 u hu
  case color | triangle | transparent => exact h.2.1 u hu
  case point => exact h.2.2 u hu

/-- Every piece that is put into a buffer carries the word of that buffer. -/
def PutsWords (word : BufferKind → Int32) (es : Effects F) : Prop :=
  ∀ k data, Effect.put k data ∈ es → data.Carries (word k)

section PutsWords

variable {word : BufferKind → Int32}

theorem putsWords_iff (es : Effects F) :
    PutsWords word es ↔ Puts (fun k data => data.Carries (word k)) es :=
  Iff.rfl

theorem putsWords_nil : PutsWords word ([] : Effects F) :=
  (putsWords_iff _).mpr puts_nil

theorem putsWords_mark (k : BufferKind) {es : Effects F} (h : PutsWords word es) :
    PutsWords word (.mark k :: es) :=
  (putsWords_iff _).mpr (puts_mark k h)

theorem putsWords_put {k : BufferKind} {data : VertexData F} (h : data.Carries (word k)) :
    PutsWords word [.put k data] :=
  (putsWords_iff _).mpr (puts_put h)

/-- Effects one after the other put the words if both do. -/
theorem PutsWords.append {es fs : Effects F} (h : PutsWords word es) (h' : PutsWords word fs) :
    PutsWords word (es ++ fs) :=
  Puts.append h h'

theorem PutsWords.flatMap {ι : Type} {xs : List ι} {f : ι → Effects F}
    (h : ∀ x ∈ xs, PutsWords word (f x)) : PutsWords word (xs.flatMap f) :=
  Puts.flatMap h

/-- A curve is put where its word belongs. -/
theorem putsWords_curve {data : VertexData F} (h : data.Carries (word .line)) :
    PutsWords word (BezierCurve.queue data) :=
  putsWords_mark _ (putsWords_put h)

/-- What effects put into a buffer are vertices with its word. -/
theorem PutsWords.content {es : Effects F} (h : PutsWords word es) (k : BufferKind) :
    ∀ v ∈ (content k es).vdata k, v.word = word k := by
  intro v hv
  rw [vdata_content] at hv
  obtain ⟨data, hdata, hv⟩ := List.mem_flatMap.mp hv
  have hcarries : data.Carries (word k) := ((putsWords_iff es).mp h).contrib k data hdata
  exact hcarries.vdata k v hv

end PutsWords

/-! ### The words of an object -/

namespace V3dObject

/-- The `materialIndex` of an object. -/
def materialIndex : V3dObject D F → UInt32
  | bezierPatch o => o.materialIndex
  | bezierTriangle o => o.materialIndex
  | bezierPatchColor o => o.materialIndex
  | bezierTriangleColor o => o.materialIndex
  | quad o => o.materialIndex
  | triangle o => o.materialIndex
  | quadColor o => o.materialIndex
  | triangleColor o => o.materialIndex
  | triangles o => o.materialIndex
  | sphere o => o.materialIndex
  | halfSphere o => o.materialIndex
  | disk o => o.materialIndex
  | cylinder o => o.materialIndex
  | tube o => o.materialIndex
  | curve o => o.materialIndex
  | line o => o.materialIndex
  | pixel o => o.materialIndex

/-- Whether the vertices of an object have colours of their own. -/
def colored : V3dObject D F → Bool
  | bezierPatchColor _ | bezierTriangleColor _ | quadColor _ | triangleColor _ => true
  | triangles o => !o.vertexColorArray.isEmpty
  | _ => false

/-- Whether an object is a Bezier surface with corner colours. -/
def coloredSurface : V3dObject D F → Bool
  | bezierPatchColor _ | bezierTriangleColor _ => true
  | _ => false

end V3dObject

/-- The word of an index in a buffer of vertices with colours: its sign tells whether they count. -/
def signedWord (colored : Bool) (materialIndex : UInt32) : Int32 :=
  if colored then -1 - materialIndex.toInt32 else 1 + materialIndex.toInt32

/-- The words of an object, buffer by buffer: an opaque Bezier surface with corner colours goes to
the colours with its plain index. -/
def objectWord (colored coloredSurface : Bool) (materialIndex : UInt32) : BufferKind → Int32
  | .material | .line | .point => materialIndex.toInt32
  | .color => if coloredSurface then materialIndex.toInt32 else signedWord colored materialIndex
  | .transparent | .triangle => signedWord colored materialIndex

/-- The word the vertices of an object carry in a buffer. -/
def V3dObject.word (o : V3dObject D F) : BufferKind → Int32 :=
  objectWord o.colored o.coloredSurface o.materialIndex

/-- The subdivision algorithms give every vertex the word they are called with. -/
structure Tessellation.CarriesWord (T : Tessellation D F) : Prop where
  patch : ∀ projViewMat ratio transparent corners word p,
    (T.patch projViewMat ratio transparent corners word p).1.Carries word
  triangle : ∀ projViewMat ratio transparent corners word p,
    (T.triangle projViewMat ratio transparent corners word p).1.Carries word
  curve : ∀ projViewMat ratio word p, (T.curve projViewMat ratio word p).1.Carries word

/-! ### Bezier surfaces -/

section Surfaces

variable {color : Bool} {materialIndex : UInt32}

/-- What a Bezier surface keeps carries the word of the buffer it is appended to, unless there is
nothing of it. -/
def BezierPatch.KeepsWord (color : Bool) (materialIndex : UInt32) (S : BezierPatch F) : Prop :=
  S.data.Carries (materialWord S.transparent color materialIndex) ∧
    (S.color = color ∨ S.data = .empty)

theorem BezierPatch.keepsWord_init (color : Bool) (materialIndex : UInt32) :
    (init : BezierPatch F).KeepsWord color materialIndex :=
  ⟨VertexData.carries_empty _, .inr rfl⟩

/-- On the fast path a surface puts what it has kept. -/
theorem BezierPatch.KeepsWord.append {S : BezierPatch F} (h : S.KeepsWord color materialIndex) :
    PutsWords (objectWord color color materialIndex) S.append := by
  refine putsWords_put ?_
  rcases h.2 with hcolor | hempty
  · have hword : objectWord color color materialIndex S.kind =
        materialWord S.transparent color materialIndex := by
      rw [kind, hcolor, materialWord]
      cases color <;> cases S.transparent <;>
        simp [objectWord, signedWord, colorKind, flatKind]
    rw [hword]
    exact h.1
  · rw [hempty]
    exact VertexData.carries_empty _

/-- A surface that leaves keeps nothing. -/
theorem BezierPatch.keepsWord_leave (transparent : Bool) :
    (leave transparent : BezierPatch F × Effects F).1.KeepsWord color materialIndex :=
  ⟨VertexData.carries_empty _, .inr rfl⟩

/-- A surface that is left out puts nothing. -/
theorem BezierPatch.putsWords_leave (transparent : Bool) (word : BufferKind → Int32) :
    PutsWords word (leave transparent : BezierPatch F × Effects F).2 :=
  putsWords_mark _ putsWords_nil

/-- A surface that appends what it keeps, or is built anew. -/
theorem BezierPatch.words_keptOrBuilt (fast : Bool) {S : BezierPatch F}
    (hS : S.KeepsWord color materialIndex) {built : VertexData F × Bool} {transparent : Bool}
    (hbuilt : built.1.Carries (materialWord transparent color materialIndex)) :
    (if fast then (S, S.append) else queue built transparent color).1.KeepsWord color
        materialIndex ∧
      PutsWords (objectWord color color materialIndex)
        (if fast then (S, S.append) else queue built transparent color).2 := by
  cases fast with
  | true => exact ⟨hS, hS.append⟩
  | false =>
    have hnew : KeepsWord color materialIndex ⟨built.1, transparent, color, built.2⟩ :=
      ⟨hbuilt, .inl rfl⟩
    exact ⟨hnew, putsWords_mark _ hnew.append⟩

variable [Scalar D] [Scalar F] {T : Tessellation D F}

/-- In `OUTLINE` mode a surface is drawn as lines only. -/
theorem putsWords_outline (hT : T.CarriesWord) {ctx : QueueContext D F}
    (hmode : ctx.drawMode = .outline) (box : Vec3 D × Vec3 D)
    (edges : List (Vector (Vec3 D) 4)) (tessellate : Bool → Int32 → VertexData F × Bool)
    (S : BezierPatch F) {word : BufferKind → Int32} (hword : word .line = materialIndex.toInt32) :
    PutsWords word (queueSurface T ctx box edges materialIndex tessellate S).2 := by
  simp only [queueSurface]
  split_ifs
  · exact BezierPatch.putsWords_leave _ word
  · refine PutsWords.flatMap fun edge _ => putsWords_curve ?_
    rw [hword]
    exact hT.curve ..

/-- **A surface without corner colours** puts its word and keeps it for the fast path. -/
theorem words_queueSurface (hT : T.CarriesWord) (ctx : QueueContext D F) (box : Vec3 D × Vec3 D)
    (edges : List (Vector (Vec3 D) 4)) {tessellate : Bool → Int32 → VertexData F × Bool}
    (htessellate : ∀ transparent word, (tessellate transparent word).1.Carries word)
    {S : BezierPatch F} (hS : S.KeepsWord false materialIndex) :
    (queueSurface T ctx box edges materialIndex tessellate S).1.KeepsWord false materialIndex ∧
      PutsWords (objectWord false false materialIndex)
        (queueSurface T ctx box edges materialIndex tessellate S).2 := by
  by_cases hmode : ctx.drawMode = .outline
  · refine ⟨?_, putsWords_outline hT hmode box edges tessellate S rfl⟩
    simp only [queueSurface]
    split_ifs
    · exact BezierPatch.keepsWord_leave _
    · exact hS
  simp only [queueSurface, if_neg hmode]
  by_cases hoffscreen : ctx.offscreen box = true
  · rw [if_pos hoffscreen]
    exact ⟨BezierPatch.keepsWord_leave _, BezierPatch.putsWords_leave _ _⟩
  · rw [if_neg hoffscreen]
    exact BezierPatch.words_keptOrBuilt _ hS (htessellate ..)

/-- **A surface with corner colours** does the same, with the words of colour vertices. -/
theorem words_queueColoredSurface (ctx : QueueContext D F) (box : Vec3 D × Vec3 D)
    {outline : Effects F}
    (houtline : ctx.drawMode = .outline → PutsWords (objectWord true true materialIndex) outline)
    (cornerColors : List (Vec4 F)) {tessellate : Bool → Int32 → VertexData F × Bool}
    (htessellate : ∀ transparent word, (tessellate transparent word).1.Carries word)
    {S : BezierPatch F} (hS : S.KeepsWord true materialIndex) :
    (queueColoredSurface ctx box outline cornerColors materialIndex tessellate S).1.KeepsWord true
        materialIndex ∧
      PutsWords (objectWord true true materialIndex)
        (queueColoredSurface ctx box outline cornerColors materialIndex tessellate S).2 := by
  simp only [queueColoredSurface]
  by_cases hmode : ctx.drawMode = .outline
  · rw [if_pos hmode]
    exact ⟨hS, houtline hmode⟩
  rw [if_neg hmode]
  by_cases hoffscreen : ctx.offscreen box = true
  · rw [if_pos hoffscreen]
    exact ⟨BezierPatch.keepsWord_leave _, BezierPatch.putsWords_leave _ _⟩
  · rw [if_neg hoffscreen]
    exact BezierPatch.words_keptOrBuilt _ hS (htessellate ..)

end Surfaces

/-! ### Straight polygons and groups -/

section Polygons

variable [Scalar D] [Scalar F] [Rounding D F] {materialIndex : UInt32}

omit [Scalar D] [Scalar F] [Rounding D F] in
/-- The word for the buffer of a surface without corner colours. -/
theorem objectWord_flatKind (transparent : Bool) (materialIndex : UInt32) :
    objectWord false false materialIndex (flatKind transparent) =
      BezierPatch.materialWord transparent false materialIndex := by
  cases transparent <;> simp [objectWord, signedWord, flatKind, BezierPatch.materialWord]

omit [Scalar D] [Scalar F] [Rounding D F] in
/-- The word for the buffer of one with them. -/
theorem objectWord_colorKind (colored transparent : Bool) (materialIndex : UInt32) :
    objectWord colored false materialIndex (colorKind transparent) =
      signedWord colored materialIndex := by
  cases transparent <;> simp [objectWord, colorKind]

omit [Scalar D] in
/-- The two ends of a line carry its word. -/
theorem carries_straightSegment (materialIndex : UInt32) (p q : Vec3 D) :
    (straightSegment materialIndex p q : VertexData F).Carries materialIndex.toInt32 := by
  simp [VertexData.Carries, straightSegment, VertexData.empty]

omit [Scalar D] in
/-- The boundary that is drawn in outline mode has the word of lines. -/
theorem putsWords_boundary {word : BufferKind → Int32} (hword : word .line = materialIndex.toInt32)
    (edges : List (Vec3 D × Vec3 D)) :
    PutsWords word (queueBoundary (F := F) materialIndex edges) := by
  refine PutsWords.flatMap fun edge _ => putsWords_curve ?_
  rw [hword]
  exact carries_straightSegment ..

/-- A straight polygon: what it keeps carries the word of the buffer it was built for. -/
theorem words_queueFlat (ctx : QueueContext D F) (box : Vec3 D × Vec3 D) (points : List (Vec3 D))
    (edges : List (Vec3 D × Vec3 D)) (ts : List (Corners D)) (normal : Vec3 D)
    (centerIndex : UInt32) {st : FlatState F}
    (hst : st.S.Carries (BezierPatch.materialWord st.S_color false materialIndex)) :
    let out := queueFlat ctx box points edges ts normal centerIndex materialIndex st
    out.1.S.Carries (BezierPatch.materialWord out.1.S_color false materialIndex) ∧
      PutsWords (objectWord false false materialIndex) out.2 := by
  simp only [queueFlat]
  split_ifs with hoffscreen hmode hfast htransparent
  · exact ⟨VertexData.carries_empty _, putsWords_mark _ putsWords_nil⟩
  · exact ⟨hst, putsWords_boundary rfl edges⟩
  · refine ⟨hst, putsWords_put ?_⟩
    rw [objectWord_flatKind]
    exact hst
  -- built anew, with the word of the buffer it goes to
  all_goals
    refine (and_iff_left_of_imp fun hnew => putsWords_mark _ (putsWords_put ?_)).mpr ?_
    · rw [objectWord_flatKind]
      exact hnew
  · have hword : (1 + materialIndex).toInt32 = 1 + materialIndex.toInt32 := UInt32.toInt32_add ..
    simp [VertexData.Carries, VertexData.empty, BezierPatch.materialWord, htransparent, hword]
  · simp [VertexData.Carries, VertexData.empty, BezierPatch.materialWord, htransparent]

/-- A straight polygon with corner colours always has the negative word. -/
theorem words_queueColoredFlat (ctx : QueueContext D F) (box : Vec3 D × Vec3 D)
    (points : List (Vec3 D × Vec4 F)) (edges : List (Vec3 D × Vec3 D)) (ts : List (Corners D))
    (normal : Vec3 D) (centerIndex : UInt32) {st : FlatState F}
    (hst : st.S.Carries (signedWord true materialIndex)) :
    let out := queueColoredFlat ctx box points edges ts normal centerIndex materialIndex st
    out.1.S.Carries (signedWord true materialIndex) ∧
      PutsWords (objectWord true false materialIndex) out.2 := by
  simp only [queueColoredFlat]
  split_ifs with hoffscreen hmode hfast
  · exact ⟨VertexData.carries_empty _, putsWords_mark _ putsWords_nil⟩
  · exact ⟨hst, putsWords_boundary rfl edges⟩
  · refine ⟨hst, putsWords_put ?_⟩
    rw [objectWord_colorKind]
    exact hst
  · refine (and_iff_left_of_imp fun hnew => putsWords_mark _ (putsWords_put ?_)).mpr ?_
    · rw [objectWord_colorKind]
      exact hnew
    · refine ⟨fun v hv => absurd hv List.not_mem_nil, fun v hv => ?_,
        fun v hv => absurd hv List.not_mem_nil⟩
      obtain ⟨point, -, rfl⟩ := List.mem_map.mp hv
      rfl

/-- The mesh of a group carries the word that its colours ask for. -/
theorem carries_mesh (o : V3dTriangleGroup D F) :
    (o.mesh : VertexData F).Carries (signedWord (!o.vertexColorArray.isEmpty) o.materialIndex) := by
  refine ⟨?_, ?_, ?_⟩
  · simp [V3dTriangleGroup.mesh, VertexData.empty]
  · intro v hv
    obtain ⟨i, hi, rfl⟩ := List.mem_mapIdx.mp hv
    rfl
  · simp [V3dTriangleGroup.mesh, VertexData.empty]

/-- **A triangle group** puts its word and keeps it. -/
theorem words_triangles (ctx : QueueContext D F) (o : V3dTriangleGroup D F) {st : KeptMesh F}
    (hst : st.vertexData.Carries (signedWord (!o.vertexColorArray.isEmpty) o.materialIndex)) :
    (o.QueueMesh ctx st).1.vertexData.Carries
        (signedWord (!o.vertexColorArray.isEmpty) o.materialIndex) ∧
      PutsWords (objectWord (!o.vertexColorArray.isEmpty) false o.materialIndex)
        (o.QueueMesh ctx st).2 := by
  simp only [V3dTriangleGroup.QueueMesh]
  split_ifs with hempty hmode hoffscreen hfast
  · exact ⟨hst, putsWords_nil⟩
  · exact ⟨hst, putsWords_nil⟩
  · exact ⟨VertexData.carries_empty _, putsWords_mark _ (putsWords_mark _ putsWords_nil)⟩
  · refine ⟨hst, putsWords_put ?_⟩
    rw [objectWord_colorKind]
    exact hst
  · refine ⟨carries_mesh o, putsWords_mark _ (putsWords_put ?_)⟩
    rw [objectWord_colorKind]
    exact carries_mesh o

/-! ### Curves, lines and pixels -/

omit [Scalar F] [Rounding D F] in
/-- **A curve** has one word for both buffers it may be put into. -/
theorem words_curve {T : Tessellation D F} (hT : T.CarriesWord) (ctx : QueueContext D F)
    (o : V3dBezierCurve D) {st : KeptMesh F}
    (hst : st.vertexData.Carries o.materialIndex.toInt32) {word : BufferKind → Int32}
    (hmaterial : word .material = o.materialIndex.toInt32)
    (hline : word .line = o.materialIndex.toInt32) :
    (o.QueueMesh T ctx st).1.vertexData.Carries o.materialIndex.toInt32 ∧
      PutsWords word (o.QueueMesh T ctx st).2 := by
  simp only [V3dBezierCurve.QueueMesh]
  split_ifs
  · exact ⟨VertexData.carries_empty _, putsWords_mark _ (putsWords_mark _ putsWords_nil)⟩
  · exact ⟨hst, putsWords_put (hmaterial ▸ hst)⟩
  · exact ⟨hT.curve .., putsWords_curve (hline ▸ hT.curve ..)⟩

/-- A line puts its word and keeps it. -/
theorem words_line (ctx : QueueContext D F) (o : V3dLineSegment D) (st : KeptMesh F)
    {word : BufferKind → Int32} (hline : word .line = o.materialIndex.toInt32) :
    (o.QueueMesh ctx st).1.vertexData.Carries o.materialIndex.toInt32 ∧
      PutsWords word (o.QueueMesh ctx st).2 := by
  simp only [V3dLineSegment.QueueMesh]
  split_ifs
  · exact ⟨VertexData.carries_empty _, putsWords_mark _ (putsWords_mark _ putsWords_nil)⟩
  · have hsegment := carries_straightSegment (F := F) o.materialIndex o.endpoints[0] o.endpoints[1]
    exact ⟨hsegment, putsWords_curve (hline ▸ hsegment)⟩

omit [Scalar F] in
/-- A pixel has its word for the buffer of points. -/
theorem words_pixel (ctx : QueueContext D F) (o : V3dPixel D) {word : BufferKind → Int32}
    (hpoint : word .point = o.materialIndex.toInt32) : PutsWords word (o.QueueMesh ctx) := by
  simp only [V3dPixel.QueueMesh]
  split_ifs
  · exact putsWords_mark _ putsWords_nil
  · refine putsWords_mark _ (putsWords_put ?_)
    rw [hpoint]
    simp [VertexData.Carries, VertexData.empty]

end Polygons

/-! ### Every object -/

namespace SceneObject

/-- What an object keeps between frames carries the word of the buffer it is appended to. -/
def KeepsWord : SceneObject D F → Prop
  | bezierPatch o S => S.KeepsWord false o.materialIndex
  | bezierTriangle o S => S.KeepsWord false o.materialIndex
  | bezierPatchColor o S => S.KeepsWord true o.materialIndex
  | bezierTriangleColor o S => S.KeepsWord true o.materialIndex
  | quad o st => st.S.Carries (BezierPatch.materialWord st.S_color false o.materialIndex)
  | triangle o st => st.S.Carries (BezierPatch.materialWord st.S_color false o.materialIndex)
  | quadColor o st => st.S.Carries (signedWord true o.materialIndex)
  | triangleColor o st => st.S.Carries (signedWord true o.materialIndex)
  | triangles o st =>
    st.vertexData.Carries (signedWord (!o.vertexColorArray.isEmpty) o.materialIndex)
  | curve o st => st.vertexData.Carries o.materialIndex.toInt32
  | line o st => st.vertexData.Carries o.materialIndex.toInt32
  | sphere _ | halfSphere _ | disk _ | cylinder _ | tube _ | pixel _ => True

/-- An object that has queued nothing yet. -/
theorem keepsWord_ofObject (o : V3dObject D F) : (ofObject o).KeepsWord := by
  cases o with
  | bezierPatch o | bezierTriangle o | bezierPatchColor o | bezierTriangleColor o =>
    exact BezierPatch.keepsWord_init ..
  | quad o | triangle o | quadColor o | triangleColor o | triangles o | curve o | line o =>
    exact VertexData.carries_empty _
  | _ => trivial

variable [Scalar D] [Scalar F] [Rounding D F] {T : Tessellation D F}

/-- **Step lemma**: in a frame every object puts vertices with its word into every buffer, and what
it keeps goes on carrying it. -/
theorem carries_queueMesh (hT : T.CarriesWord) (ctx : QueueContext D F) {o : SceneObject D F}
    (ho : o.KeepsWord) :
    (o.QueueMesh T ctx).1.KeepsWord ∧ PutsWords o.object.word (o.QueueMesh T ctx).2 := by
  have hpatch : ∀ (ctx : QueueContext D F) (o : V3dBezierPatch D) {S : BezierPatch F},
      S.KeepsWord false o.materialIndex →
        (o.QueueMesh T ctx S).1.KeepsWord false o.materialIndex ∧
          PutsWords (objectWord false false o.materialIndex) (o.QueueMesh T ctx S).2 :=
    fun ctx o _ hS => words_queueSurface hT ctx _ _ (fun _ _ => hT.patch ..) hS
  have htriangle : ∀ (ctx : QueueContext D F) (o : V3dBezierTriangle D) {S : BezierPatch F},
      S.KeepsWord false o.materialIndex →
        (o.QueueMesh T ctx S).1.KeepsWord false o.materialIndex ∧
          PutsWords (objectWord false false o.materialIndex) (o.QueueMesh T ctx S).2 :=
    fun ctx o _ hS => words_queueSurface hT ctx _ _ (fun _ _ => hT.triangle ..) hS
  -- the solids build each of their surfaces anew, from one that keeps nothing
  have hpatches : ∀ ps centerIndex materialIndex, PutsWords
      (objectWord false false materialIndex) (queuePatches T ctx ps centerIndex materialIndex) :=
    fun _ _ _ => PutsWords.flatMap fun _ _ => (hpatch _ _ (BezierPatch.keepsWord_init ..)).2
  have htriangles : ∀ ts centerIndex materialIndex, PutsWords
      (objectWord false false materialIndex) (queueTriangles T ctx ts centerIndex materialIndex) :=
    fun _ _ _ => PutsWords.flatMap fun _ _ => (htriangle _ _ (BezierPatch.keepsWord_init ..)).2
  cases o with
  | bezierPatch o S => exact hpatch ctx o ho
  | bezierTriangle o S => exact htriangle ctx o ho
  | bezierPatchColor o S =>
    have hcolored : (o.QueueMesh T ctx S).1.KeepsWord true o.materialIndex ∧
        PutsWords (objectWord true true o.materialIndex) (o.QueueMesh T ctx S).2 := by
      rw [V3dBezierPatchWithCornerColors.QueueMesh]
      refine words_queueColoredSurface ctx _ (fun hmode => ?_) _ (fun _ _ => hT.patch ..) ho
      refine putsWords_outline hT ?_ _ _ _ .init rfl
      exact hmode
    exact hcolored
  | bezierTriangleColor o S =>
    have hcolored : (o.QueueMesh T ctx S).1.KeepsWord true o.materialIndex ∧
        PutsWords (objectWord true true o.materialIndex) (o.QueueMesh T ctx S).2 := by
      rw [V3dBezierTriangleWithCornerColors.QueueMesh]
      refine words_queueColoredSurface ctx _ (fun hmode => ?_) _ (fun _ _ => hT.triangle ..) ho
      refine putsWords_outline hT ?_ _ _ _ .init rfl
      exact hmode
    exact hcolored
  | quad o st => exact words_queueFlat ctx _ _ _ _ _ _ ho
  | triangle o st => exact words_queueFlat ctx _ _ _ _ _ _ ho
  | quadColor o st => exact words_queueColoredFlat ctx _ _ _ _ _ _ ho
  | triangleColor o st => exact words_queueColoredFlat ctx _ _ _ _ _ _ ho
  | triangles o st => exact words_triangles ctx o ho
  | sphere o => exact ⟨trivial, htriangles _ _ _⟩
  | halfSphere o => exact ⟨trivial, htriangles _ _ _⟩
  | disk o => exact ⟨trivial, hpatches _ _ _⟩
  | cylinder o =>
    refine ⟨trivial, (hpatches _ _ _).append ?_⟩
    split_ifs
    · exact (words_line _ o.coreLine _ rfl).2
    · exact putsWords_nil
  | tube o =>
    refine ⟨trivial, (hpatches _ _ _).append ?_⟩
    split_ifs
    · exact (words_curve hT _ o.coreCurve (VertexData.carries_empty _) rfl rfl).2
    · exact putsWords_nil
  | curve o st => exact words_curve hT ctx o ho rfl rfl
  | line o st => exact words_line ctx o st rfl
  | pixel o => exact ⟨trivial, words_pixel ctx o rfl⟩

end SceneObject

/-! ### Every frame -/

namespace V3dFile

variable [Scalar D] [Scalar F] [Rounding D F]

/-- The vertices an object has in a buffer after a call of `V3dFile::QueueMesh`
(`vdata_queueInto`). -/
def appended (T : Tessellation D F) (ctx : QueueContext D F) (file : V3dFile D F)
    (o : SceneObject D F) (k : BufferKind) : List (Vertex F) :=
  (content k (file.turn ctx.normMat o (o.QueueMesh T ctx).2)).vdata k

/-- The file after a frame. -/
def frame (T : Tessellation D F) (file : V3dFile D F) (ctx : QueueContext D F) : V3dFile D F :=
  (file.QueueMesh T ctx).1

/-- What every object keeps carries its word. -/
def KeepsWords (file : V3dFile D F) : Prop := ∀ o ∈ file.objects, o.KeepsWord

/-- Turning a billboard does not change the words. -/
theorem word_appended {T : Tessellation D F} {ctx : QueueContext D F} {file : V3dFile D F}
    {o : SceneObject D F} {word : BufferKind → Int32} (h : PutsWords word (o.QueueMesh T ctx).2)
    (k : BufferKind) : ∀ v ∈ file.appended T ctx o k, v.word = word k := by
  have hmove : ∀ v, (file.turnVertex ctx.normMat o v).word = (v : Vertex F).word := by
    intro v
    rw [turnVertex]
    cases file.center? o with
    | none => rfl
    | some center => exact v.word_move _
  intro v hv
  rw [appended, vdata_turn] at hv
  split_ifs at hv
  · obtain ⟨u, hu, rfl⟩ := List.mem_map.mp hv
    rw [hmove]
    exact h.content k u hu
  · exact h.content k v hv

/-- **Run lemma**: in every frame of any sequence of frames, every vertex of every buffer carries
the word of its object. -/
theorem words_along {T : Tessellation D F} (hT : T.CarriesWord) {file : V3dFile D F}
    (hfile : file.KeepsWords) (ctxs : List (QueueContext D F)) :
    Along (frame T) (fun file ctx => ∀ o ∈ file.objects, ∀ k, ∀ v ∈ file.appended T ctx o k,
      v.word = o.object.word k) file ctxs := by
  have hrun : Along (frame T) (fun _ _ => True) file ctxs :=
    Along.of_forall (fun _ _ => trivial) file ctxs
  refine hrun.of_invariant (fun file ctx hfile _ => ?_) (fun file ctx hfile _ => ?_) hfile
  · intro o ho
    simp only [frame, QueueMesh, List.map_map, List.mem_map] at ho
    obtain ⟨o, ho, rfl⟩ := ho
    exact (SceneObject.carries_queueMesh hT ctx (hfile o ho)).1
  · intro o ho k
    exact word_appended (SceneObject.carries_queueMesh hT ctx (hfile o ho)).2 k

end V3dFile

end OkularV3d
