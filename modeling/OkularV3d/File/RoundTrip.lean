import OkularV3d.File.Writer

/-!
# What is written is read back

Every record the writer emits is read back by the constructor its type announces, field by field
(`reads_object`), every header entry by its `case` (`entered_headers`), and so the whole file. Two
things stand in the way. The reader's limits: a scene has to fit (`Scene.Fits`). And colour indices:
the writer never announces them, so a coloured triangle group is read back only when its colour
indices are its position indices (`ImplicitColors`).

* `reads_group` is the record with the most conditions, `reads_object` all of them by cases.
* `Entered.consumes` reads the entries of a header one after the other.
* `loadRecords_items` takes one round for each item, by induction.
* `load_write` puts the parts together; `not_load_write_someScene` has a scene beyond a limit, and
  one whose colour indices are not its position indices.
-/

namespace OkularV3d

open Wire Wire.Parser

/-! ### Fields -/

section Fields

variable {D F : Type} [Xdr64 D] [Xdr32 F] [Rounding D F]

/-- A real is read back as it is in double precision, and rounded in single precision. -/
theorem reads_real (sp : Bool) (x : D) :
    Reads (readReal F (precisionFlag sp)) (putReal F sp x) (roundReal F sp x) := by
  cases sp with
  | true =>
    have hr := (reads_word (Xdr32.bits (Rounding.narrow x : F))).ret
      fun val => (Rounding.widen (Xdr32.ofBits val : F) : D)
    rw [Xdr32.ofBits_bits] at hr
    exact hr
  | false =>
    have hr := (reads_doubleWord (Xdr64.bits x)).ret fun val => (Xdr64.ofBits val : D)
    rw [Xdr64.ofBits_bits] at hr
    exact hr

/-- A point is read back coordinate by coordinate. -/
theorem reads_triple (sp : Bool) (v : Vec3 D) :
    Reads (readTriple F (precisionFlag sp)) (putTriple F sp v) (v.map (roundReal F sp)) :=
  (reads_real sp v.x).bind ((reads_real sp v.y).bind ((reads_real sp v.z).ret _))

omit [Xdr64 D] [Rounding D F] in
theorem reads_float (x : F) : Reads readFloat (putFloat x) x := by
  have hr := (reads_word (Xdr32.bits x)).ret fun val => (Xdr32.ofBits val : F)
  rw [Xdr32.ofBits_bits] at hr
  exact hr

omit [Xdr64 D] [Rounding D F] in
/-- Four floats are read back as a colour. -/
theorem reads_vec4 (v : Vec4 F) : Reads readRGBA (addvec4 v) v :=
  (reads_float v.r).bind ((reads_float v.g).bind ((reads_float v.b).bind ((reads_float v.a).ret _)))

omit [Xdr64 D] in
/-- A colour is written with narrowed components, in either precision. -/
theorem reads_rgba (col : Vec4 D) :
    Reads readRGBA (putRGBA F col) (col.map (Rounding.narrow : D → F)) :=
  reads_vec4 (col.map Rounding.narrow)

theorem reads_triples (sp : Bool) {n : ℕ} (vs : Vector (Vec3 D) n) :
    Reads (vector (readTriple F (precisionFlag sp)) n) (addTriples F sp vs.toList)
      (vs.map (Vec3.map (roundReal F sp))) :=
  Reads.vector (reads_triple sp) vs

omit [Xdr64 D] in
theorem reads_colors {n : ℕ} (cs : Vector (Vec4 D) n) :
    Reads (vector (readRGBA (F := F)) n) (addColors F cs.toList)
      (cs.map (Vec4.map Rounding.narrow)) :=
  Reads.vector reads_rgba cs

/-- A flag is any word but 0. -/
theorem reads_core (b : Bool) {α : Type} (f : Bool → α) :
    Reads (word >>= fun core => pure (f (core != 0))) (putBool b) (f b) := by
  cases b with
  | true => exact (reads_word 1).ret fun core => f (core != 0)
  | false => exact (reads_word 0).ret fun core => f (core != 0)

end Fields

/-! ### Materials and objects -/

section Objects

variable {D F : Type} [Xdr64 D] [Xdr32 F] [Rounding D F]

omit [Xdr64 D] [Rounding D F] in
/-- A material is read back as it was: the writer writes the newest version. -/
theorem reads_material [Scalar F] (m : V3dMaterial F) :
    Reads (V3dMaterial.read v3dVersion)
      (addvec4 m.diffuse ++ (addvec4 m.emissive ++
        (addvec4 m.specular ++ addvec4 ⟨m.shininess, m.metallic, m.fresnel0, m.lightOn⟩))) m :=
  (reads_vec4 m.diffuse).bind <| (reads_vec4 m.emissive).bind <| (reads_vec4 m.specular).bind <|
    (reads_float m.shininess).bind <| (reads_float m.metallic).bind <|
    (reads_float m.fresnel0).bind <| (reads_float m.lightOn).ret _

/-- A record of points, a center and a material. -/
theorem reads_points (sp : Bool) {α : Type} {n : ℕ} (vs : Vector (Vec3 D) n)
    (ci mi : UInt32) (mk : Vector (Vec3 D) n → UInt32 → UInt32 → α) :
    Reads (do
        let points ← vector (readTriple F (precisionFlag sp)) n
        let centerIndex ← word
        let materialIndex ← word
        return mk points centerIndex materialIndex)
      (addTriples F sp vs.toList ++ addCenterIndexMat ci mi)
      (mk (vs.map (Vec3.map (roundReal F sp))) ci mi) :=
  (reads_triples sp vs).bind ((reads_word ci).bind ((reads_word mi).ret _))

/-- The same with corner colours. -/
theorem reads_colored (sp : Bool) {α : Type} {n k : ℕ} (vs : Vector (Vec3 D) n)
    (ci mi : UInt32) (cs : Vector (Vec4 D) k)
    (mk : Vector (Vec3 D) n → UInt32 → UInt32 → Vector (Vec4 F) k → α) :
    Reads (do
        let points ← vector (readTriple F (precisionFlag sp)) n
        let centerIndex ← word
        let materialIndex ← word
        let colors ← vector readRGBA k
        return mk points centerIndex materialIndex colors)
      (addTriples F sp vs.toList ++ (putWord ci ++ (putWord mi ++ addColors F cs.toList)))
      (mk (vs.map (Vec3.map (roundReal F sp))) ci mi (cs.map (Vec4.map Rounding.narrow))) :=
  (reads_triples sp vs).bind ((reads_word ci).bind ((reads_word mi).bind ((reads_colors cs).ret _)))

/-- The solids are read back with every real rounded. -/
theorem reads_sphere (sp : Bool) (o : V3dSphere D) :
    Reads (V3dSphere.read F (precisionFlag sp)) (addSphere F sp o)
      ⟨o.center.map (roundReal F sp), roundReal F sp o.radius, o.centerIndex, o.materialIndex⟩ :=
  (reads_triple sp o.center).bind <| (reads_real sp o.radius).bind <|
    (reads_word o.centerIndex).bind <| (reads_word o.materialIndex).ret _

theorem reads_hemisphere (sp : Bool) (o : V3dHemiSphere D) :
    Reads (V3dHemiSphere.read F (precisionFlag sp)) (addHemisphere F sp o)
      ⟨o.center.map (roundReal F sp), roundReal F sp o.radius, o.centerIndex, o.materialIndex,
        roundReal F sp o.polarAngle, roundReal F sp o.azimuthalAngle⟩ :=
  (reads_triple sp o.center).bind <| (reads_real sp o.radius).bind <|
    (reads_word o.centerIndex).bind <| (reads_word o.materialIndex).bind <|
    (reads_real sp o.polarAngle).bind <| (reads_real sp o.azimuthalAngle).ret _

theorem reads_disk (sp : Bool) (o : V3dDisk D) :
    Reads (V3dDisk.read F (precisionFlag sp)) (addDisk F sp o)
      ⟨o.center.map (roundReal F sp), roundReal F sp o.radius, o.centerIndex, o.materialIndex,
        roundReal F sp o.polarAngle, roundReal F sp o.azimuthalAngle⟩ :=
  (reads_triple sp o.center).bind <| (reads_real sp o.radius).bind <|
    (reads_word o.centerIndex).bind <| (reads_word o.materialIndex).bind <|
    (reads_real sp o.polarAngle).bind <| (reads_real sp o.azimuthalAngle).ret _

theorem reads_cylinder (sp : Bool) (o : V3dCylinder D) :
    Reads (V3dCylinder.read F (precisionFlag sp)) (addCylinder F sp o)
      ⟨o.center.map (roundReal F sp), roundReal F sp o.radius, roundReal F sp o.height,
        o.centerIndex, o.materialIndex, roundReal F sp o.polarAngle,
        roundReal F sp o.azimuthalAngle, o.core⟩ :=
  (reads_triple sp o.center).bind <| (reads_real sp o.radius).bind <|
    (reads_real sp o.height).bind <| (reads_word o.centerIndex).bind <|
    (reads_word o.materialIndex).bind <| (reads_real sp o.polarAngle).bind <|
    (reads_real sp o.azimuthalAngle).bind <| reads_core o.core _

/-- A tube keeps its width and all of its control points. -/
theorem reads_tube (sp : Bool) (o : V3dTube D) :
    Reads (V3dTube.read F (precisionFlag sp)) (addTube F sp o)
      ⟨o.controlPoints.map (Vec3.map (roundReal F sp)), roundReal F sp o.width, o.centerIndex,
        o.materialIndex, o.core⟩ :=
  (reads_triples sp o.controlPoints).bind <| (reads_real sp o.width).bind <|
    (reads_word o.centerIndex).bind <| (reads_word o.materialIndex).bind <| reads_core o.core _

theorem reads_pixel (sp : Bool) (o : V3dPixel D) :
    Reads (V3dPixel.read F (precisionFlag sp)) (addPixel F sp o)
      ⟨o.position.map (roundReal F sp), roundReal F sp o.width, o.materialIndex⟩ :=
  (reads_triple sp o.position).bind <| (reads_real sp o.width).bind <|
    (reads_word o.materialIndex).ret _

end Objects

/-! ### Triangle groups -/

namespace V3dTriangleGroup

variable {D F : Type} [Xdr64 D] [Xdr32 F] [Rounding D F]

/-- The group is within the reader's limits. -/
def Fits {G : Type} (o : V3dTriangleGroup D G) : Prop :=
  o.triangles.length ≤ maxCount ∧ o.vertexPositions.length ≤ maxCount ∧
    o.vertexNormalArray.length ≤ maxCount ∧ o.vertexColorArray.length ≤ maxCount

/-- The colour indices of a coloured group are its position indices. -/
def ImplicitColors {G : Type} (o : V3dTriangleGroup D G) : Prop :=
  o.vertexColorArray.length ≠ 0 → ∀ t ∈ o.triangles, t.colors = t.positions

instance {G : Type} (o : V3dTriangleGroup D G) : Decidable o.Fits :=
  inferInstanceAs (Decidable (_ ∧ _))

instance {G : Type} (o : V3dTriangleGroup D G) : Decidable o.ImplicitColors :=
  inferInstanceAs (Decidable (_ → _))

/-- The writer takes index triples for distinct unless they are equal. -/
theorem distinct_eq_false {I J : IndexTriple} : distinct I J = false ↔ I = J := by
  obtain ⟨i₀, i₁, i₂⟩ := I
  obtain ⟨j₀, j₁, j₂⟩ := J
  simp [distinct, and_assoc]

theorem toNat_count {n : ℕ} (hn : n ≤ maxCount) : (UInt32.ofNat n).toNat = n := by
  rw [UInt32.toNat_ofNat', Nat.mod_eq_of_lt]
  rw [maxCount] at hn
  omega

/-- A count within the limit is read whole. -/
theorem capped_count {n : ℕ} (hn : n ≤ maxCount) : capped (UInt32.ofNat n) = n := by
  rw [capped, toNat_count hn, if_neg (by omega)]

theorem reads_indices (v : IndexTriple) : Reads readIndices (addIndices v) v :=
  (reads_word v.1).bind ((reads_word v.2.1).bind ((reads_word v.2.2).ret _))

/-- Without normal indices the normals are those of the positions; colour indices are never
written. -/
theorem reads_triangle {explicitNI : Bool} {t : GroupTriangle}
    (h : explicitNI = false → t.normals = t.positions) :
    Reads (readTriangle explicitNI false) (addTriangleIndices explicitNI false t)
      { t with colors := t.positions } := by
  refine (reads_indices t.positions).bind ?_
  cases explicitNI with
  | true => exact (reads_indices t.normals).bind ((Reads.pure t.positions).ret _)
  | false =>
    rw [h rfl]
    exact (Reads.pure t.positions).bind ((Reads.pure t.positions).ret _)

omit [Xdr64 D] in
/-- The colours of a group, of which there may be none. -/
theorem reads_groupColors {cs : List (Vec4 D)} (hcs : cs.length ≤ maxCount) :
    Reads (readColors (F := F))
      (putWord (UInt32.ofNat cs.length) ++
        (if cs.length ≠ 0 then addColors F cs ++ putBool false else []))
      (cs.map (Vec4.map Rounding.narrow), false) := by
  refine (reads_word _).bind ?_
  rw [capped_count hcs]
  by_cases h0 : cs.length = 0
  · rw [if_neg (by omega), if_neg (by omega), List.length_eq_zero_iff.mp h0]
    exact Reads.pure _
  · rw [if_pos (by omega), if_pos h0]
    exact (Reads.list fun c _ => reads_rgba c).bind ((reads_word 0).ret _)

omit [Xdr64 D] in
/-- The flag of the normal indices that the writer uses is the one it has announced. -/
theorem explicitNI_eq {G : Type} {o : V3dTriangleGroup D G} (h : o.ImplicitColors)
    (explicitNI : Bool) :
    (explicitNI || (decide (o.vertexColorArray.length ≠ 0) &&
      o.triangles.any fun t => distinct t.colors t.positions)) = explicitNI := by
  by_cases h0 : o.vertexColorArray.length = 0
  · simp [h0]
  · have hany : (o.triangles.any fun t => distinct t.colors t.positions) = false := by
      rw [List.any_eq_false]
      intro t ht
      rw [distinct_eq_false.mpr (h h0 t ht)]
      exact Bool.false_ne_true
    rw [hany, Bool.and_false, Bool.or_false]

/-- The group the reader builds from an implicitly coloured one. -/
def readBack (sp : Bool) (o : V3dTriangleGroup D D) : V3dTriangleGroup D F where
  vertexPositions := o.vertexPositions.map (Vec3.map (roundReal F sp))
  vertexNormalArray := o.vertexNormalArray.map (Vec3.map (roundReal F sp))
  vertexColorArray := o.vertexColorArray.map (Vec4.map Rounding.narrow)
  triangles := o.triangles.map fun t => { t with colors := t.positions }
  centerIndex := o.centerIndex
  materialIndex := o.materialIndex

/-- **A triangle group is read back** if its counts fit and its colour indices are its position
indices. -/
theorem reads_group (sp : Bool) {o : V3dTriangleGroup D D} (hfits : o.Fits)
    (hcolors : o.ImplicitColors) :
    Reads (read (precisionFlag sp)) (addTriangles F sp o) (some (o.readBack (F := F) sp)) := by
  obtain ⟨hI, hP, hN, hC⟩ := hfits
  have htriangles : Reads
      (list (readTriangle (o.triangles.any fun t => distinct t.normals t.positions) false)
        o.triangles.length)
      (o.triangles.flatMap
        (addTriangleIndices (o.triangles.any fun t => distinct t.normals t.positions) false))
      (o.triangles.map fun t => { t with colors := t.positions }) := by
    refine Reads.list fun t ht => reads_triangle fun hNI => ?_
    have hdistinct := List.any_eq_false.mp hNI t ht
    exact distinct_eq_false.mp (Bool.eq_false_of_not_eq_true hdistinct)
  -- The writer's flags, and the counts the reader decodes from its words.
  simp only [addTriangles, explicitNI_eq hcolors, Bool.and_false]
  refine (reads_word _).bind ((reads_word _).bind ?_)
  rw [toNat_count hI, toNat_count hP, if_neg (by omega)]
  refine Reads.ret ?_ some
  rw [readBody, toNat_count hI, toNat_count hP]
  refine (Reads.list fun v _ => reads_triple sp v).bind ((reads_word _).bind ?_)
  rw [capped_count hN]
  refine (Reads.list fun v _ => reads_triple sp v).bind ?_
  cases hNI : o.triangles.any fun t => distinct t.normals t.positions <;> rw [hNI] at htriangles
  all_goals
    refine (reads_word _).bind ((reads_groupColors hC).bind (htriangles.bind ?_))
    exact (reads_word _).bind ((reads_word _).ret _)

omit [Xdr64 D] [Xdr32 F] in
/-- The group the reader builds is the written one up to rounding. -/
theorem rounded_eq_readBack (sp : Bool) {o : V3dTriangleGroup D D} (h : o.ImplicitColors) :
    (V3dObject.triangles o).rounded sp = V3dObject.triangles (o.readBack (F := F) sp) := by
  rw [V3dObject.rounded, V3dObject.colorless]
  by_cases h0 : o.vertexColorArray.length = 0
  · rw [if_pos h0]
    rfl
  · have htriangles : (o.triangles.map fun t => { t with colors := t.positions }) =
      o.triangles := by
      have ht : ∀ t ∈ o.triangles, { t with colors := t.positions } = t := fun t ht =>
        congrArg (GroupTriangle.mk t.positions t.normals) (h h0 t ht).symm
      exact (List.map_congr_left ht).trans (List.map_id' o.triangles)
    rw [if_neg h0, readBack, htriangles]
    rfl

end V3dTriangleGroup

/-! ### Objects -/

namespace V3dObject

variable {D F : Type} [Xdr64 D] [Xdr32 F] [Rounding D F]

/-- The object is within the reader's limits. -/
def Fits {G : Type} : V3dObject D G → Prop
  | .triangles o => o.Fits
  | _ => True

/-- Colour indices, where the object has colours, are position indices. -/
def ImplicitColors {G : Type} : V3dObject D G → Prop
  | .triangles o => o.ImplicitColors
  | _ => True

instance {G : Type} (o : V3dObject D G) : Decidable o.Fits := by
  cases o
  case triangles o => exact inferInstanceAs (Decidable o.Fits)
  all_goals exact inferInstanceAs (Decidable True)

instance {G : Type} (o : V3dObject D G) : Decidable o.ImplicitColors := by
  cases o
  case triangles o => exact inferInstanceAs (Decidable o.ImplicitColors)
  all_goals exact inferInstanceAs (Decidable True)

omit [Xdr64 D] [Xdr32 F] [Rounding D F] in
/-- An object whose record is read in one piece. -/
theorem reads_whole {α : Type} {p : Parser α} {bytes : List UInt8} {a : α} (h : Reads p bytes a)
    (mk : α → V3dObject D F) : Reads (whole mk p) bytes (some (mk a)) :=
  h.ret fun o => some (mk o)

/-- What the writer emits for an object is the word of a type, followed by what the constructor of
that type reads. -/
theorem reads_object (sp : Bool) (o : V3dObject D D) (hfits : o.Fits) (hcolors : o.ImplicitColors) :
    ∃ t p bytes, V3dObject.read (precisionFlag sp) t = some p ∧
      addObject F sp o = putWord t.code ++ bytes ∧
      Reads p bytes (some (o.rounded (F := F) sp)) := by
  cases o with
  | bezierPatch o =>
    exact ⟨.bezierPatch, _, _, rfl, rfl, reads_whole (reads_points sp _ _ _ _) .bezierPatch⟩
  | bezierTriangle o =>
    exact ⟨.bezierTriangle, _, _, rfl, rfl, reads_whole (reads_points sp _ _ _ _) .bezierTriangle⟩
  | bezierPatchColor o =>
    exact ⟨.bezierPatchColor, _, _, rfl, rfl,
      reads_whole (reads_colored sp _ _ _ _ _) .bezierPatchColor⟩
  | bezierTriangleColor o =>
    exact ⟨.bezierTriangleColor, _, _, rfl, rfl,
      reads_whole (reads_colored sp _ _ _ _ _) .bezierTriangleColor⟩
  | quad o => exact ⟨.quad, _, _, rfl, rfl, reads_whole (reads_points sp _ _ _ _) .quad⟩
  | triangle o => exact ⟨.triangle, _, _, rfl, rfl, reads_whole (reads_points sp _ _ _ _) .triangle⟩
  | quadColor o =>
    exact ⟨.quadColor, _, _, rfl, rfl, reads_whole (reads_colored sp _ _ _ _ _) .quadColor⟩
  | triangleColor o =>
    exact ⟨.triangleColor, _, _, rfl, rfl, reads_whole (reads_colored sp _ _ _ _ _) .triangleColor⟩
  | triangles o =>
    rw [V3dTriangleGroup.rounded_eq_readBack sp hcolors]
    exact ⟨.triangles, _, _, rfl, rfl,
      (V3dTriangleGroup.reads_group sp hfits hcolors).ret fun group => group.map triangles⟩
  | sphere o => exact ⟨.sphere, _, _, rfl, rfl, reads_whole (reads_sphere sp o) .sphere⟩
  | halfSphere o =>
    exact ⟨.halfSphere, _, _, rfl, rfl, reads_whole (reads_hemisphere sp o) .halfSphere⟩
  | disk o => exact ⟨.disk, _, _, rfl, rfl, reads_whole (reads_disk sp o) .disk⟩
  | cylinder o => exact ⟨.cylinder, _, _, rfl, rfl, reads_whole (reads_cylinder sp o) .cylinder⟩
  | tube o => exact ⟨.tube, _, _, rfl, rfl, reads_whole (reads_tube sp o) .tube⟩
  | curve o => exact ⟨.curve, _, _, rfl, rfl, reads_whole (reads_points sp _ _ _ _) .curve⟩
  | line o => exact ⟨.line, _, _, rfl, rfl, reads_whole (reads_points sp _ _ _ _) .line⟩
  | pixel o => exact ⟨.pixel, _, _, rfl, rfl, reads_whole (reads_pixel sp o) .pixel⟩

end V3dObject

/-! ### The header -/

section Header

variable {α σ : Type} {D F : Type} [Xdr64 D] [Xdr32 F] [Rounding D F]

/-- A variable that is read has what was written, whatever it had. -/
theorem consumes_assign {p : Parser α} {bytes : List UInt8} {a : α} (h : Reads p bytes a)
    (old : α) : Consumes (assign p old) bytes a :=
  (Consumes.read h).ret fun val => val.getD old

/-- A checked read of what was written goes on to what comes after it. -/
theorem consumes_orStop {p : Parser α} {bytes bytes' : List UInt8} {a : α} {s : σ}
    {k : α → StateM Stream (σ × Bool)} {r : σ × Bool} (h : Reads p bytes a)
    (h' : Consumes (k a) bytes' r) : Consumes (orStop s p k) (bytes ++ bytes') r :=
  (Consumes.read h).bind h'

theorem consumes_orStop_pure {p : Parser α} {bytes : List UInt8} {a : α} (h : Reads p bytes a)
    (s : σ) (f : α → σ × Bool) : Consumes (orStop s p fun a => pure (f a)) bytes (f a) := by
  have hr : Consumes (orStop s p fun a => pure (f a)) (bytes ++ []) (f a) :=
    consumes_orStop h (Consumes.pure (f a))
  rwa [List.append_nil] at hr

theorem consumes_real (sp : Bool) (x : D) :
    Consumes (Stream.read (readReal F (precisionFlag sp))) (putReal F sp x)
      (some (roundReal F sp x)) :=
  Consumes.read (reads_real sp x)

theorem consumes_pair (sp : Bool) (z : Vec2 D) :
    Consumes (loadPair F (precisionFlag sp)) (putPair F sp z)
      (z.map fun x => some (roundReal F sp x)) :=
  (consumes_real sp z.x).bind ((consumes_real sp z.y).ret _)

theorem consumes_triple (sp : Bool) (v : Vec3 D) :
    Consumes (loadTriple F (precisionFlag sp)) (putTriple F sp v)
      (v.map fun x => some (roundReal F sp x)) :=
  (consumes_real sp v.x).bind ((consumes_real sp v.y).bind ((consumes_real sp v.z).ret _))

omit [Xdr64 D] in
theorem consumes_rgba (col : Vec4 D) (old : Vec4 F) :
    Consumes (assignRGBA old) (putRGBA F col) (col.map Rounding.narrow) :=
  (consumes_assign (reads_float _) _).bind <| (consumes_assign (reads_float _) _).bind <|
    (consumes_assign (reads_float _) _).bind <| (consumes_assign (reads_float _) _).ret _

theorem consumes_light (sp : Bool) (direction color : Vec3 D) :
    Consumes (Stream.read (readLight (F := F) (precisionFlag sp)))
      (lightHeader F sp direction color).content
      (some ⟨direction.map (roundReal F sp), color.map Rounding.narrow⟩) :=
  Consumes.read <| (reads_triple sp direction).bind <| (reads_float _).bind <|
    (reads_float _).bind <| (reads_float _).ret _

theorem reads_bytes (s : List UInt8) : Reads (list byte s.length) s s := by
  have hr : Reads (list byte s.length) (s.flatMap fun b => [b]) (s.map id) :=
    Reads.list fun b _ => reads_byte b
  rwa [List.map_id, List.flatMap_singleton'] at hr

omit [Xdr64 D] [Xdr32 F] [Rounding D F] in
/-- The name of an image, with its length before it. -/
theorem consumes_image {str : ByteString} (hstr : str.length ≤ maxImageName)
    (info : LoadedInfo D F) :
    Consumes (loadImage info) (stringHeader .image str).content
      ({ info with imageName := str }, true) := by
  have hlen : (UInt64.ofNat str.length).toNat = str.length := by
    rw [UInt64.toNat_ofNat', Nat.mod_eq_of_lt]
    rw [maxImageName] at hstr
    omega
  refine consumes_orStop (reads_doubleWord _) ?_
  rw [hlen, if_neg (by omega)]
  have hpad := reads_bytes (List.replicate ((str.length + 3) / 4 * 4 - str.length) 0)
  rw [List.length_replicate] at hpad
  have hstring : Reads (readString str.length)
      (str ++ List.replicate ((str.length + 3) / 4 * 4 - str.length) 0) str :=
    (reads_bytes str).bind (hpad.ret fun _ => str)
  exact consumes_orStop_pure hstring info _

/-- Reading the entries `hs`, one after the other, turns `info` into `info'`. -/
inductive Entered (sp : Bool) : List AHeader → LoadedInfo D F → LoadedInfo D F → Prop
  | nil (info) : Entered sp [] info info
  | cons {h hs info info' info''} (head : Consumes (loadEntry (precisionFlag sp) info h.ty)
      h.content (info', true)) (tail : Entered sp hs info' info'') :
        Entered sp (h :: hs) info info''

/-- Entries take effect one after the other. -/
theorem Entered.append {sp : Bool} {hs hs' : List AHeader} {info info' info'' : LoadedInfo D F}
    (h : Entered sp hs info info') (h' : Entered sp hs' info' info'') :
    Entered sp (hs ++ hs') info info'' := by
  induction h with
  | nil => exact h'
  | cons head _ ih => exact .cons head (ih h')

/-- What entries take effect on is what reading them leaves. -/
theorem Entered.consumes {sp : Bool} {hs : List AHeader} {info info' : LoadedInfo D F}
    (h : Entered sp hs info info') (measured : Bool) :
    Consumes (loadEntries measured (precisionFlag sp) hs.length info) (hs.flatMap AHeader.put)
      (info', true) := by
  induction h with
  | nil info => exact Consumes.pure _
  | @cons h hs info info' info'' head _ ih =>
    rw [List.flatMap_cons, AHeader.put, List.append_assoc, List.append_assoc]
    refine consumes_orStop (reads_word _) (consumes_orStop (reads_word _) ?_)
    rw [loadKey, HeaderTypes.ofCode_code]
    exact head.bind ih

/-- The lights are appended in their order. -/
theorem entered_lights (sp : Bool) (lights : List (Vec3 D × Vec3 D)) (info : LoadedInfo D F) :
    Entered sp (lights.map fun l => lightHeader F sp l.1 l.2) info
      { info with lights := info.lights ++
          lights.map fun l => some ⟨l.1.map (roundReal F sp), l.2.map Rounding.narrow⟩ } := by
  induction lights generalizing info with
  | nil =>
    rw [List.map_nil, List.map_nil, List.append_nil]
    exact .nil info
  | cons l lights ih =>
    have htail := ih { info with lights := info.lights ++
      [some ⟨l.1.map (roundReal F sp), l.2.map Rounding.narrow⟩] }
    rw [List.append_assoc] at htail
    exact .cons ((consumes_light sp l.1 l.2).ret _) htail

/-- The entries of `addHeaders` turn the defaults into the values they were written from. -/
theorem entered_headers [Scalar D] [Scalar F] (sp : Bool) (h : HeaderSettings D F)
    (himage : h.imageWritten → h.image.length ≤ maxImageName) :
    Entered sp (h.headers sp) (.default D F) (h.expected sp) := by
  -- the two entries that are written under a condition
  have hshift (info : LoadedInfo D F) :
      Entered sp (if h.shifted then [pairHeader F sp .viewportShift h.viewportShift] else []) info
        { info with viewportShift :=
            if h.shifted then h.viewportShift.map fun x => some (roundReal F sp x)
            else info.viewportShift } := by
    cases h.shifted with
    | true => exact .cons ((consumes_pair sp _).ret _) (.nil _)
    | false => exact .nil _
  have himg (info : LoadedInfo D F) :
      Entered sp (if h.imageWritten then [stringHeader .image h.image] else []) info
        { info with imageName := if h.imageWritten then h.image else info.imageName } := by
    cases hw : h.imageWritten with
    | true => exact .cons (consumes_image (himage hw) info) (.nil _)
    | false => exact .nil _
  refine Entered.append
    (.cons ((consumes_assign (reads_word _) _).ret _) <|
      .cons ((consumes_assign (reads_word _) _).ret _) <|
      .cons ((consumes_assign (reads_word _) _).ret _) <|
      .cons ((consumes_triple sp _).ret _) <|
      .cons ((consumes_triple sp _).ret _) <|
      .cons ((consumes_assign (reads_word _) _).ret _) <|
      .cons ((consumes_real sp _).ret _) <|
      .cons ((consumes_real sp _).ret _) <| .nil _) ?_
  refine Entered.append (hshift _) ?_
  refine .cons ((consumes_pair sp _).ret _) ?_
  refine Entered.append (entered_lights sp h.lights _) ?_
  exact Entered.append
    (.cons ((consumes_rgba _ _).ret _) <|
      .cons ((consumes_real sp _).ret _) <|
      .cons ((consumes_real sp _).ret _) <|
      .cons ((consumes_real sp _).ret _) <|
      .cons ((consumes_real sp _).ret _) <|
      .cons ((consumes_real sp _).ret _) <|
      .cons ((consumes_real sp _).ret _) <|
      .cons ((consumes_real sp _).ret _) <| .nil _)
    (himg _)

end Header

/-! ### Records -/

section Records

variable {D F : Type} [Xdr64 D] [Xdr32 F] [Rounding D F] [Scalar D] [Scalar F]

omit [Scalar D] [Scalar F] in
/-- As many centers are read as were written. -/
theorem consumes_fillCenters (sp : Bool) {old : List (Option (Vec3 D))} {centers : List (Vec3 D)}
    (h : old.length = centers.length) :
    Consumes (fillCenters F (precisionFlag sp) old) (addTriples F sp centers)
      (centers.map fun c => some (c.map (roundReal F sp)), true) := by
  induction centers generalizing old with
  | nil =>
    rw [List.length_eq_zero_iff.mp h]
    exact Consumes.pure _
  | cons c centers ih =>
    obtain ⟨o, old, rfl⟩ := List.exists_cons_of_length_eq_add_one h
    refine (Consumes.read (reads_triple sp c)).bind ?_
    exact (ih (Nat.succ_injective h)).ret _

omit [Scalar F] in
/-- The centers of a file without centers. -/
theorem consumes_centers (sp : Bool) {centers : List (Vec3 D)} (h : centers.length ≤ maxCenters) :
    Consumes (loadCenters F (precisionFlag sp) [])
      (putWord (UInt32.ofNat centers.length) ++ addTriples F sp centers)
      (centers.map fun c => some (c.map (roundReal F sp)), true) := by
  have hlen : (UInt32.ofNat centers.length).toNat = centers.length := by
    rw [UInt32.toNat_ofNat', Nat.mod_eq_of_lt]
    rw [maxCenters] at h
    omega
  refine consumes_orStop (reads_word _) ?_
  rw [hlen, if_neg (by omega)]
  have hpos : 0 < UInt32.ofNat centers.length ↔ 0 < centers.length := by
    rw [UInt32.lt_iff_toNat_lt, hlen]
    rfl
  by_cases h0 : 0 < centers.length
  · rw [if_pos (hpos.mpr h0)]
    exact consumes_fillCenters sp (length_resizeCenters _ _)
  · obtain rfl : centers = [] := List.length_eq_zero_iff.mp (by omega)
    exact Consumes.pure _

/-- A record that the writer emits, put at the front of what `loadRecords` reads. -/
theorem loadRecords_cons {measured : Bool} {versionNumber doublePrecision : UInt32}
    {file file' : Loaded D F} (t : ObjectTypes) {bytes : List UInt8}
    (h : Consumes (loadRecord measured versionNumber doublePrecision file t) bytes (file', true))
    (fuel : ℕ) (rest : List UInt8) :
    (loadRecords measured versionNumber doublePrecision (fuel + 1) file).run
        ⟨putWord t.code ++ bytes ++ rest, true⟩ =
      (loadRecords measured versionNumber doublePrecision fuel file').run ⟨rest, true⟩ := by
  rw [loadRecords, StateT.run_bind, List.append_assoc, Consumes.read (reads_word t.code)]
  change (loadType measured versionNumber doublePrecision t.code file >>= _).run _ = _
  rw [StateT.run_bind, loadType, ObjectTypes.ofCode_code]
  change ((loadRecord measured versionNumber doublePrecision file t).run _ >>= _) = _
  rw [h rest]
  rfl

/-- The file after an item has been read. -/
def Loaded.addItem (sp : Bool) (file : Loaded D F) (item : Item D F) : Loaded D F :=
  match item with
  | .material m => { file with materials := file.materials ++ [some m] }
  | .object o => { file with objects := file.objects ++ [some (o.rounded sp)] }

omit [Xdr64 D] [Xdr32 F] [Scalar D] [Scalar F] in
/-- The items keep their order, materials and objects apart. -/
theorem Loaded.foldl_addItem (sp : Bool) (items : List (Item D F)) (file : Loaded D F) :
    items.foldl (Loaded.addItem sp) file =
      { file with
        materials := file.materials ++ (items.filterMap Item.material?).map some
        objects := file.objects ++
          (items.filterMap Item.object?).map fun o => some (o.rounded sp) } := by
  induction items generalizing file with
  | nil => simp
  | cons item items ih =>
    rw [List.foldl_cons, ih]
    cases item <;> simp [Loaded.addItem, List.filterMap_cons, Item.material?, Item.object?]

/-- The item is within the reader's limits. -/
def Item.Fits : Item D F → Prop
  | .material _ => True
  | .object o => o.Fits

/-- The colour indices of the item are position indices. -/
def Item.ImplicitColors : Item D F → Prop
  | .material _ => True
  | .object o => o.ImplicitColors

instance (item : Item D F) : Decidable item.Fits :=
  match item with
  | .material _ => inferInstanceAs (Decidable True)
  | .object o => inferInstanceAs (Decidable o.Fits)

instance (item : Item D F) : Decidable item.ImplicitColors :=
  match item with
  | .material _ => inferInstanceAs (Decidable True)
  | .object o => inferInstanceAs (Decidable o.ImplicitColors)

/-- One round of the loop over the records takes one item. -/
theorem loadRecords_item (measured sp : Bool) (file : Loaded D F) {item : Item D F}
    (hfits : item.Fits) (hcolors : item.ImplicitColors) (fuel : ℕ) (rest : List UInt8) :
    (loadRecords measured v3dVersion (precisionFlag sp) (fuel + 1) file).run
        ⟨addItem F sp item ++ rest, true⟩ =
      (loadRecords measured v3dVersion (precisionFlag sp) fuel (file.addItem sp item)).run
        ⟨rest, true⟩ := by
  cases item with
  | material m =>
    exact loadRecords_cons .material ((Consumes.read (reads_material m)).ret _) fuel rest
  | object o =>
    obtain ⟨t, p, bytes, hread, hbytes, hp⟩ := V3dObject.reads_object (F := F) sp o hfits hcolors
    have hcons : Consumes (loadRecord measured v3dVersion (precisionFlag sp) file t) bytes
        (file.addItem sp (.object o), true) := by
      rw [loadRecord_object hread]
      exact (Consumes.read hp).ret _
    rw [addItem, hbytes]
    exact loadRecords_cons t hcons fuel rest

/-- **All items**, by induction: each takes one round. -/
theorem loadRecords_items (measured sp : Bool) {items : List (Item D F)}
    (h : ∀ item ∈ items, item.Fits ∧ item.ImplicitColors) (file : Loaded D F) (fuel : ℕ)
    (rest : List UInt8) :
    (loadRecords measured v3dVersion (precisionFlag sp) (items.length + fuel) file).run
        ⟨items.flatMap (addItem F sp) ++ rest, true⟩ =
      (loadRecords measured v3dVersion (precisionFlag sp) fuel
        (items.foldl (Loaded.addItem sp) file)).run ⟨rest, true⟩ := by
  induction items generalizing file with
  | nil => rw [List.length_nil, Nat.zero_add]; rfl
  | cons item items ih =>
    obtain ⟨hfits, hcolors⟩ := h item List.mem_cons_self
    rw [List.length_cons, Nat.add_right_comm, List.flatMap_cons, List.append_assoc,
      loadRecords_item measured sp file hfits hcolors, List.foldl_cons]
    exact ih (fun i hi => h i (List.mem_cons_of_mem item hi)) _

omit [Scalar D] [Scalar F] in
/-- Every item takes some bytes, so that the file has enough rounds for all. -/
theorem length_addItem_pos (sp : Bool) (item : Item D F) : 0 < (addItem F sp item).length := by
  cases item with
  | material m => exact Nat.zero_lt_succ _
  | object o => cases o <;> exact Nat.zero_lt_succ _

omit [Scalar D] [Scalar F] in
theorem length_le_items (sp : Bool) (items : List (Item D F)) :
    items.length ≤ (items.flatMap (addItem F sp)).length := by
  induction items with
  | nil => exact Nat.zero_le _
  | cons item items ih =>
    have hpos := length_addItem_pos sp item
    rw [List.length_cons, List.flatMap_cons, List.length_append]
    omega

end Records

/-! ### The whole file -/

section File

variable {D F : Type} [Xdr64 D] [Xdr32 F] [Rounding D F] [Scalar D] [Scalar F]

/-- The scene is within the reader's limits. -/
structure Scene.Fits (sp : Bool) (scene : Scene D F) : Prop where
  headers : (scene.header.headers sp).length ≤ kMaxHeaderEntries
  image : scene.header.imageWritten → scene.header.image.length ≤ maxImageName
  items : ∀ item ∈ scene.items, item.Fits
  centers : scene.centers.length ≤ maxCenters

/-- The colour indices of every coloured triangle group are its position indices. -/
def Scene.ImplicitColors (scene : Scene D F) : Prop := ∀ item ∈ scene.items, item.ImplicitColors

instance (scene : Scene D F) : Decidable scene.ImplicitColors :=
  inferInstanceAs (Decidable (∀ item ∈ scene.items, item.ImplicitColors))

/-- `V3dFile::load` decodes all the bytes of the file (the read that ends its loop finds none) and
leaves the scene they were written from. -/
def Scene.RoundTrips (measured sp : Bool) (scene : Scene D F) : Prop :=
  load measured (scene.write sp) = (scene.expected sp, ⟨[], false⟩)

/-- **The header** is read back from the entries that are written of it. -/
theorem consumes_header (measured sp : Bool) {h : HeaderSettings D F}
    (hcount : (h.headers sp).length ≤ kMaxHeaderEntries)
    (himage : h.imageWritten → h.image.length ≤ maxImageName) :
    Consumes (loadHeader measured (precisionFlag sp) (.default D F))
      (putWord (UInt32.ofNat (h.headers sp).length) ++ (h.headers sp).flatMap AHeader.put)
      (h.expected sp, true) := by
  have hlen : (UInt32.ofNat (h.headers sp).length).toNat = (h.headers sp).length := by
    rw [UInt32.toNat_ofNat', Nat.mod_eq_of_lt]
    rw [kMaxHeaderEntries] at hcount
    omega
  refine consumes_orStop (reads_word _) ?_
  rw [hlen, if_neg (by omega)]
  exact (entered_headers sp h himage).consumes measured

/-- A scene within the reader's limits whose colour indices are implicit is read back as it was
written, in either precision. -/
theorem load_write (measured sp : Bool) (scene : Scene D F) (hfits : scene.Fits sp)
    (hcolors : scene.ImplicitColors) : scene.RoundTrips measured sp := by
  -- There are enough rounds for the header, the items, the centers and the read that ends the loop.
  obtain ⟨k, hk⟩ : ∃ k, (scene.write sp).length + 1 = scene.items.length + (k + 1 + 1) + 1 := by
    have hitems := length_le_items sp scene.items
    refine ⟨(scene.write sp).length - scene.items.length - 2, ?_⟩
    simp only [Scene.write, List.length_append, putWord, List.length_cons, List.length_nil]
    omega
  let file : Loaded D F := { Loaded.init D F with
    versionNumber := some v3dVersion, doublePrecisionFlag := some (precisionFlag sp) }
  let file' : Loaded D F := { file with headerInfo := scene.header.expected sp }
  have hheader : Consumes (loadRecord measured v3dVersion (precisionFlag sp) file .header)
      (putWord (UInt32.ofNat (scene.header.headers sp).length) ++
        (scene.header.headers sp).flatMap AHeader.put) (file', true) :=
    (consumes_header measured sp hfits.headers hfits.image).ret _
  have hitems := loadRecords_items measured sp
    (fun item hi => ⟨hfits.items item hi, hcolors item hi⟩) file' (k + 1 + 1)
    (addCenters F sp scene.centers)
  have hcenters : Consumes (loadRecord measured v3dVersion (precisionFlag sp)
      (scene.items.foldl (Loaded.addItem sp) file') .centers)
      (putWord (UInt32.ofNat scene.centers.length) ++ addTriples F sp scene.centers)
      (scene.expected sp, true) := by
    rw [Loaded.foldl_addItem]
    exact (consumes_centers sp hfits.centers).ret _
  rw [Scene.RoundTrips, load, hk, loadFrom, StateT.run_bind, Scene.write,
    Consumes.read (reads_word v3dVersion)]
  change (Stream.read word >>= _).run _ = _
  rw [StateT.run_bind, Consumes.read (reads_word (precisionFlag sp))]
  refine (loadRecords_cons .header hheader _ _).trans (hitems.trans ?_)
  have hend := loadRecords_cons .centers hcenters (k + 1) []
  rw [List.append_nil] at hend
  exact hend

end File

/-! ### Two scenes that are read back and two that are not -/

/-- Header values, with a light, a shifted viewport and the given image. -/
def someHeader (image : ByteString) : HeaderSettings Int64 Int32 where
  fullWidth := 640
  fullHeight := 480
  absolute := true
  minBound := ⟨-1, -2, -3⟩
  maxBound := ⟨1, 2, 3⟩
  orthographic := false
  angle := 1
  zoom0 := 2
  shift := ⟨3, 4⟩
  margin := ⟨5, 6⟩
  lights := [(⟨0, 0, 1⟩, ⟨1, 1, 1⟩)]
  background := ⟨1, 1, 1, 0⟩
  zoomFactor := 1
  zoomPinchFactor := 10
  zoomPinchCap := 100
  zoomStep := 0
  shiftHoldDistance := 20
  shiftWaitTime := 200
  vibrateTime := 25
  ibl := true
  image := image

/-- A triangle of three colours, whose corners have the given colour indices. -/
def colouredTriangle (colors : IndexTriple) : V3dTriangleGroup Int64 Int64 where
  vertexPositions := [⟨0, 0, 0⟩, ⟨1, 0, 0⟩, ⟨0, 1, 0⟩]
  vertexNormalArray := [⟨0, 0, 1⟩]
  vertexColorArray := [⟨1, 0, 0, 1⟩, ⟨0, 1, 0, 1⟩, ⟨0, 0, 1, 1⟩]
  triangles := [⟨(0, 1, 2), (0, 0, 0), colors⟩]
  centerIndex := 0
  materialIndex := 0

/-- A scene of one material, one coloured triangle, one sphere and one center. -/
def someScene (image : ByteString) (colors : IndexTriple) : Scene Int64 Int32 where
  header := someHeader image
  items := [
    .material ⟨⟨1, 1, 1, 1⟩, ⟨0, 0, 0, 1⟩, ⟨0, 0, 0, 1⟩, 1, 0, 0, 1⟩,
    .object (.triangles (colouredTriangle colors)),
    .object (.sphere ⟨⟨0, 0, 5⟩, 2, 1, 0⟩)]
  centers := [⟨0, 0, 5⟩]

/-- With an image and the colours in the order of the positions. -/
theorem load_write_someScene :
    (someScene [0x73, 0x6b, 0x79] (0, 1, 2)).RoundTrips true true ∧
      (someScene [0x73, 0x6b, 0x79] (0, 1, 2)).RoundTrips false false :=
  ⟨load_write true true _ ⟨by decide, by decide, by decide, by decide⟩ (by decide),
    load_write false false _ ⟨by decide, by decide, by decide, by decide⟩ (by decide)⟩

/-- An image name of 4097 bytes exceeds the reader's limit; colours in another order than the
positions are never announced. -/
theorem not_load_write_someScene :
    ¬ (someScene (List.replicate 4097 0x73) (0, 1, 2)).RoundTrips true false ∧
      ¬ (someScene [0x73, 0x6b, 0x79] (2, 1, 0)).RoundTrips true false := by
  rw [Scene.RoundTrips, Scene.RoundTrips]
  exact ⟨by decide +kernel, by decide +kernel⟩

end OkularV3d
