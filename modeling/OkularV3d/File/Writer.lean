import OkularV3d.File.Load

/-!
# Writing a V3D file

The Asymptote writer `v3dfile`: a version word, a precision word, one `HEADER` record, then a record
for every material and every object in the order in which they are added, and the centers last.
Reals are narrowed to words in single precision. The writer holds colours as `double`s and always
narrows them.

`Scene` is what is written; its objects have colours in `D`. What the file stands for, up to the
rounding of the reals and colours, is `Scene.expected`.

* `addObject` is the record of an object, `addHeaders` the header, `Scene.write` the file.
* `AHeader` is an entry with its key and its length, as the classes of `v3dfile.h` write it.
* `roundReal` is what a real becomes that is written and read again.
-/

namespace OkularV3d

open Wire Wire.Parser

/-- What `v3dfile::addHeaders` reads from the renderer and the settings. -/
structure HeaderSettings (D F : Type) where
  fullWidth : UInt32
  fullHeight : UInt32
  absolute : Bool
  minBound : Vec3 D
  maxBound : Vec3 D
  orthographic : Bool
  angle : D
  zoom0 : D
  shift : Vec2 D
  margin : Vec2 D
  /-- `Lights[i]` and the first three components of its `LightsDiffuse`. -/
  lights : List (Vec3 D × Vec3 D)
  background : Vec4 F
  zoomFactor : D
  zoomPinchFactor : D
  zoomPinchCap : D
  zoomStep : D
  shiftHoldDistance : D
  shiftWaitTime : D
  vibrateTime : D
  ibl : Bool
  image : ByteString

/-- What is added to a file between its header and its centers. -/
inductive Item (D F : Type) where
  | material (m : V3dMaterial F)
  | object (o : V3dObject D D)

/-- What is written to one file. -/
structure Scene (D F : Type) where
  header : HeaderSettings D F
  items : List (Item D F)
  centers : List (Vec3 D)

/-! ### Fields -/

section Fields

variable {D : Type} (F : Type) [Xdr64 D] [Xdr32 F] [Rounding D F]

/-- `getXDRFile() << x` for a `double`. -/
def putReal (singleprecision : Bool) (x : D) : List UInt8 :=
  if singleprecision then putWord (Xdr32.bits (Rounding.narrow x : F))
  else putDoubleWord (Xdr64.bits x)

/-- `getXDRFile() << z` for a `pair`. -/
def putPair (singleprecision : Bool) (z : Vec2 D) : List UInt8 :=
  putReal F singleprecision z.x ++ putReal F singleprecision z.y

/-- `getXDRFile() << v` for a `triple`. -/
def putTriple (singleprecision : Bool) (v : Vec3 D) : List UInt8 :=
  putReal F singleprecision v.x ++ (putReal F singleprecision v.y ++ putReal F singleprecision v.z)

variable {F} in
omit [Xdr64 D] [Rounding D F] in
/-- `getXDRFile() << x` for a `float`. -/
def putFloat (x : F) : List UInt8 := putWord (Xdr32.bits x)

variable {F} in
/-- `addvec4`. -/
def addvec4 (v : Vec4 F) : List UInt8 :=
  putFloat v.r ++ (putFloat v.g ++ (putFloat v.b ++ putFloat v.a))

/-- `getXDRFile() << col` for an `RGBAColour`. -/
def putRGBA (col : Vec4 D) : List UInt8 :=
  putFloat (Rounding.narrow col.r : F) ++ (putFloat (Rounding.narrow col.g : F) ++
    (putFloat (Rounding.narrow col.b : F) ++ putFloat (Rounding.narrow col.a : F)))

/-- `addTriples`. -/
def addTriples (singleprecision : Bool) (triples : List (Vec3 D)) : List UInt8 :=
  triples.flatMap (putTriple F singleprecision)

/-- `addColors`. -/
def addColors (col : List (Vec4 D)) : List UInt8 := col.flatMap (putRGBA F)

/-- `addCenterIndexMat`. -/
def addCenterIndexMat (centerIndex materialIndex : UInt32) : List UInt8 :=
  putWord centerIndex ++ putWord materialIndex

/-- A `bool` as a word. -/
def putBool (b : Bool) : List UInt8 := putWord (if b then 1 else 0)

end Fields

/-! ### Objects and materials -/

section Objects

variable {D : Type} (F : Type) [Xdr64 D] [Xdr32 F] [Rounding D F]

variable {F} in
omit [Xdr64 D] [Rounding D F] in
/-- `addMaterial`. -/
def addMaterial (mat : V3dMaterial F) : List UInt8 :=
  putWord ObjectTypes.material.code ++ (addvec4 mat.diffuse ++ (addvec4 mat.emissive ++
    (addvec4 mat.specular ++ addvec4 ⟨mat.shininess, mat.metallic, mat.fresnel0, mat.lightOn⟩)))

/-- `addPatch` with `c` null. -/
def addPatch (sp : Bool) (o : V3dBezierPatch D) : List UInt8 :=
  addTriples F sp o.controlPoints.toList ++ addCenterIndexMat o.centerIndex o.materialIndex

/-- `addPatch` with corner colours. -/
def addPatchColor (sp : Bool) (o : V3dBezierPatchWithCornerColors D D) : List UInt8 :=
  addTriples F sp o.controlPoints.toList ++ (putWord o.centerIndex ++ (putWord o.materialIndex ++
    addColors F o.cornerColors.toList))

/-- `addStraightPatch` with `c` null. -/
def addStraightPatch (sp : Bool) (o : V3dStraightPlanarQuad D) : List UInt8 :=
  addTriples F sp o.vertices.toList ++ addCenterIndexMat o.centerIndex o.materialIndex

/-- `addStraightPatch` with corner colours. -/
def addStraightPatchColor (sp : Bool) (o : V3dStraightPlanarQuadWithCornerColors D D) :
    List UInt8 :=
  addTriples F sp o.vertices.toList ++ (putWord o.centerIndex ++ (putWord o.materialIndex ++
    addColors F o.cornerColors.toList))

/-- `addBezierTriangle` with `c` null. -/
def addBezierTriangle (sp : Bool) (o : V3dBezierTriangle D) : List UInt8 :=
  addTriples F sp o.controlPoints.toList ++ addCenterIndexMat o.centerIndex o.materialIndex

/-- `addBezierTriangle` with corner colours. -/
def addBezierTriangleColor (sp : Bool) (o : V3dBezierTriangleWithCornerColors D D) : List UInt8 :=
  addTriples F sp o.controlPoints.toList ++ (putWord o.centerIndex ++ (putWord o.materialIndex ++
    addColors F o.cornerColors.toList))

/-- `addStraightBezierTriangle` with `c` null. -/
def addStraightBezierTriangle (sp : Bool) (o : V3dStraightTriangle D) : List UInt8 :=
  addTriples F sp o.vertices.toList ++ addCenterIndexMat o.centerIndex o.materialIndex

/-- `addStraightBezierTriangle` with corner colours. -/
def addStraightBezierTriangleColor (sp : Bool) (o : V3dStraightTriangleWithCornerColors D D) :
    List UInt8 :=
  addTriples F sp o.vertices.toList ++ (putWord o.centerIndex ++ (putWord o.materialIndex ++
    addColors F o.cornerColors.toList))

/-- `addSphere`. -/
def addSphere (sp : Bool) (o : V3dSphere D) : List UInt8 :=
  putTriple F sp o.center ++ (putReal F sp o.radius ++
    addCenterIndexMat o.centerIndex o.materialIndex)

/-- `addHemisphere`. -/
def addHemisphere (sp : Bool) (o : V3dHemiSphere D) : List UInt8 :=
  putTriple F sp o.center ++ (putReal F sp o.radius ++ (putWord o.centerIndex ++
    (putWord o.materialIndex ++ (putReal F sp o.polarAngle ++ putReal F sp o.azimuthalAngle))))

/-- `addDisk`. -/
def addDisk (sp : Bool) (o : V3dDisk D) : List UInt8 :=
  putTriple F sp o.center ++ (putReal F sp o.radius ++ (putWord o.centerIndex ++
    (putWord o.materialIndex ++ (putReal F sp o.polarAngle ++ putReal F sp o.azimuthalAngle))))

/-- `addCylinder`. -/
def addCylinder (sp : Bool) (o : V3dCylinder D) : List UInt8 :=
  putTriple F sp o.center ++ (putReal F sp o.radius ++ (putReal F sp o.height ++
    (putWord o.centerIndex ++ (putWord o.materialIndex ++ (putReal F sp o.polarAngle ++
      (putReal F sp o.azimuthalAngle ++ putBool o.core))))))

/-- `addTube`. -/
def addTube (sp : Bool) (o : V3dTube D) : List UInt8 :=
  addTriples F sp o.controlPoints.toList ++ (putReal F sp o.width ++ (putWord o.centerIndex ++
    (putWord o.materialIndex ++ putBool o.core)))

/-- `addCurve` with four points. -/
def addCurve (sp : Bool) (o : V3dBezierCurve D) : List UInt8 :=
  addTriples F sp o.controlPoints.toList ++ addCenterIndexMat o.centerIndex o.materialIndex

/-- `addCurve` with two points. -/
def addLine (sp : Bool) (o : V3dLineSegment D) : List UInt8 :=
  addTriples F sp o.endpoints.toList ++ addCenterIndexMat o.centerIndex o.materialIndex

/-- `addPixel`. -/
def addPixel (sp : Bool) (o : V3dPixel D) : List UInt8 :=
  putTriple F sp o.position ++ (putReal F sp o.width ++ putWord o.materialIndex)

/-! ### Triangle groups -/

/-- `distinct`. -/
def distinct (I J : IndexTriple) : Bool := I.1 != J.1 || I.2.1 != J.2.1 || I.2.2 != J.2.2

/-- `addIndices`. -/
def addIndices (v : IndexTriple) : List UInt8 := putWord v.1 ++ (putWord v.2.1 ++ putWord v.2.2)

/-- The indices of one triangle. -/
def addTriangleIndices (explicitNI explicitCI : Bool) (t : GroupTriangle) : List UInt8 :=
  addIndices t.positions ++ ((if explicitNI then addIndices t.normals else []) ++
    (if explicitCI then addIndices t.colors else []))

/-- `addTriangles`. The loop over the colour indices finds out that they differ from the position
indices, and then sets `explicitNI`, whose word has already been written; `explicitCI` stays
false. -/
def addTriangles (sp : Bool) (o : V3dTriangleGroup D D) : List UInt8 :=
  let nC := o.vertexColorArray.length
  let explicitNI := o.triangles.any fun t => distinct t.normals t.positions
  let explicitCI := false
  let explicitNI' :=
    explicitNI || (decide (nC ≠ 0) && o.triangles.any fun t => distinct t.colors t.positions)
  putWord (UInt32.ofNat o.triangles.length) ++
    (putWord (UInt32.ofNat o.vertexPositions.length) ++
    (addTriples F sp o.vertexPositions ++
    (putWord (UInt32.ofNat o.vertexNormalArray.length) ++
    (addTriples F sp o.vertexNormalArray ++
    (putBool explicitNI ++
    ((putWord (UInt32.ofNat nC) ++
      (if nC ≠ 0 then addColors F o.vertexColorArray ++ putBool explicitCI else [])) ++
    (o.triangles.flatMap
      (addTriangleIndices explicitNI' (decide (nC ≠ 0) && explicitCI)) ++
    addCenterIndexMat o.centerIndex o.materialIndex)))))))

/-- The record of an object: the word that announces it, and its fields. -/
def addObject (sp : Bool) : V3dObject D D → List UInt8
  | .bezierPatch o => putWord ObjectTypes.bezierPatch.code ++ addPatch F sp o
  | .bezierTriangle o => putWord ObjectTypes.bezierTriangle.code ++ addBezierTriangle F sp o
  | .bezierPatchColor o => putWord ObjectTypes.bezierPatchColor.code ++ addPatchColor F sp o
  | .bezierTriangleColor o =>
    putWord ObjectTypes.bezierTriangleColor.code ++ addBezierTriangleColor F sp o
  | .quad o => putWord ObjectTypes.quad.code ++ addStraightPatch F sp o
  | .triangle o => putWord ObjectTypes.triangle.code ++ addStraightBezierTriangle F sp o
  | .quadColor o => putWord ObjectTypes.quadColor.code ++ addStraightPatchColor F sp o
  | .triangleColor o =>
    putWord ObjectTypes.triangleColor.code ++ addStraightBezierTriangleColor F sp o
  | .triangles o => putWord ObjectTypes.triangles.code ++ addTriangles F sp o
  | .sphere o => putWord ObjectTypes.sphere.code ++ addSphere F sp o
  | .halfSphere o => putWord ObjectTypes.halfSphere.code ++ addHemisphere F sp o
  | .disk o => putWord ObjectTypes.disk.code ++ addDisk F sp o
  | .cylinder o => putWord ObjectTypes.cylinder.code ++ addCylinder F sp o
  | .tube o => putWord ObjectTypes.tube.code ++ addTube F sp o
  | .curve o => putWord ObjectTypes.curve.code ++ addCurve F sp o
  | .line o => putWord ObjectTypes.line.code ++ addLine F sp o
  | .pixel o => putWord ObjectTypes.pixel.code ++ addPixel F sp o

/-- The record of an item. -/
def addItem (sp : Bool) : Item D F → List UInt8
  | .material m => addMaterial m
  | .object o => addObject F sp o

end Objects

/-! ### The header -/

/-- `AHeader`: a key, `getWordSize` and what `writeContent` writes. -/
structure AHeader where
  ty : HeaderTypes
  wordSize : UInt32
  content : List UInt8

section Headers

variable {D F : Type} [Xdr64 D] [Xdr32 F] [Rounding D F]

/-- `getWordSize` of an entry of `reals` reals and `floats` floats. -/
def wordSize (sp : Bool) (reals floats : UInt32) : UInt32 := (if sp then 1 else 2) * reals + floats

/-- `Uint32Header`. -/
def uint32Header (sp : Bool) (ty : HeaderTypes) (obj : UInt32) : AHeader :=
  ⟨ty, wordSize sp 0 1, putWord obj⟩

variable (F)

/-- `DoubleHeader`. -/
def doubleHeader (sp : Bool) (ty : HeaderTypes) (obj : D) : AHeader :=
  ⟨ty, wordSize sp 1 0, putReal F sp obj⟩

/-- `PairHeader`. -/
def pairHeader (sp : Bool) (ty : HeaderTypes) (obj : Vec2 D) : AHeader :=
  ⟨ty, wordSize sp 2 0, putPair F sp obj⟩

/-- `TripleHeader`. -/
def tripleHeader (sp : Bool) (ty : HeaderTypes) (obj : Vec3 D) : AHeader :=
  ⟨ty, wordSize sp 3 0, putTriple F sp obj⟩

/-- `LightHeader`. -/
def lightHeader (sp : Bool) (direction color : Vec3 D) : AHeader :=
  ⟨.light, wordSize sp 3 3, putTriple F sp direction ++ (putFloat (Rounding.narrow color.x : F) ++
    (putFloat (Rounding.narrow color.y : F) ++ putFloat (Rounding.narrow color.z : F)))⟩

/-- `RGBAHeader`. -/
def rgbaHeader (sp : Bool) (ty : HeaderTypes) (obj : Vec4 D) : AHeader :=
  ⟨ty, wordSize sp 0 4, putRGBA F obj⟩

variable {F}

/-- `StringHeader`. -/
def stringHeader (ty : HeaderTypes) (str : ByteString) : AHeader :=
  ⟨ty, 2 + UInt32.ofNat ((str.length + 3) / 4),
    putDoubleWord (UInt64.ofNat str.length) ++
      (str ++ List.replicate ((str.length + 3) / 4 * 4 - str.length) 0)⟩

/-- The product of two `pair`s, which are complex numbers. -/
def pairMul [Scalar D] (z w : Vec2 D) : Vec2 D :=
  ⟨z.x * w.x - z.y * w.y, z.x * w.y + w.x * z.y⟩

namespace HeaderSettings

variable [Scalar D] (h : HeaderSettings D F)

omit [Xdr64 D] [Xdr32 F] [Rounding D F] in
/-- `gl->Shift != pair(0.0,0.0)`. -/
def shifted : Bool := !Scalar.eq h.shift.x (Scalar.lit 0) || !Scalar.eq h.shift.y (Scalar.lit 0)

omit [Xdr64 D] [Xdr32 F] [Rounding D F] in
/-- `gl->Shift*gl->Zoom0`. -/
def viewportShift : Vec2 D := pairMul h.shift ⟨h.zoom0, Scalar.lit 0⟩

omit [Xdr64 D] [Xdr32 F] [Rounding D F] [Scalar D] in
/-- Whether the name of the image is written. -/
def imageWritten : Bool := h.ibl && (!h.image.isEmpty && iblNameOK h.image)

omit [Scalar D] in
/-- `gl->Background` as an `RGBAColour`. -/
def backgroundColour : Vec4 D :=
  ⟨Rounding.widen h.background.r, Rounding.widen h.background.g, Rounding.widen h.background.b,
    Rounding.widen h.background.a⟩

/-- The entries of `v3dfile::addHeaders`. -/
def headers (sp : Bool) : List AHeader :=
  [uint32Header sp .canvasWidth h.fullWidth,
    uint32Header sp .canvasHeight h.fullHeight,
    uint32Header sp .absolute (if h.absolute then 1 else 0),
    tripleHeader F sp .minBound h.minBound,
    tripleHeader F sp .maxBound h.maxBound,
    uint32Header sp .orthographic (if h.orthographic then 1 else 0),
    doubleHeader F sp .angleOfView h.angle,
    doubleHeader F sp .initialZoom h.zoom0] ++
  ((if h.shifted then [pairHeader F sp .viewportShift h.viewportShift] else []) ++
  (pairHeader F sp .viewportMargin h.margin ::
  (h.lights.map (fun l => lightHeader F sp l.1 l.2) ++
  ([rgbaHeader F sp .background h.backgroundColour,
    doubleHeader F sp .zoomFactor h.zoomFactor,
    doubleHeader F sp .zoomPinchFactor h.zoomPinchFactor,
    doubleHeader F sp .zoomPinchCap h.zoomPinchCap,
    doubleHeader F sp .zoomStep h.zoomStep,
    doubleHeader F sp .shiftHoldDistance h.shiftHoldDistance,
    doubleHeader F sp .shiftWaitTime h.shiftWaitTime,
    doubleHeader F sp .vibrateTime h.vibrateTime] ++
  (if h.imageWritten then [stringHeader .image h.image] else [])))))

end HeaderSettings

/-- An entry as it is written. -/
def AHeader.put (header : AHeader) : List UInt8 :=
  putWord header.ty.code ++ (putWord header.wordSize ++ header.content)

variable [Scalar D]

/-- `v3dfile::addHeaders`. -/
def addHeaders (sp : Bool) (h : HeaderSettings D F) : List UInt8 :=
  putWord ObjectTypes.header.code ++ (putWord (UInt32.ofNat (h.headers sp).length) ++
    (h.headers sp).flatMap AHeader.put)

variable (F) in
omit [Scalar D] in
/-- `v3dfile::addCenters`. -/
def addCenters (sp : Bool) (centers : List (Vec3 D)) : List UInt8 :=
  putWord ObjectTypes.centers.code ++ (putWord (UInt32.ofNat centers.length) ++
    addTriples F sp centers)

/-- `v3dVersion`. -/
def v3dVersion : UInt32 := 2

/-- The precision word: `doubleprecision`. -/
def precisionFlag (sp : Bool) : UInt32 := if sp then 0 else 1

/-- The bytes of a file: `writeInit`, everything that is added, and `finalize`. -/
def Scene.write (sp : Bool) (scene : Scene D F) : List UInt8 :=
  putWord v3dVersion ++ (putWord (precisionFlag sp) ++ (addHeaders sp scene.header ++
    (scene.items.flatMap (addItem F sp) ++ addCenters F sp scene.centers)))

end Headers

/-! ### What the bytes stand for -/

section Maps

variable {D D' F F' : Type}

/-- Another type of coordinates. -/
def Vec2.map (f : D → D') (v : Vec2 D) : Vec2 D' := ⟨f v.x, f v.y⟩

/-- Another type of coordinates. -/
def Vec3.map (f : D → D') (v : Vec3 D) : Vec3 D' := ⟨f v.x, f v.y, f v.z⟩

/-- Another type of components. -/
def Vec4.map (f : D → D') (v : Vec4 D) : Vec4 D' := ⟨f v.r, f v.g, f v.b, f v.a⟩

/-- The object with `f` applied to its reals and `g` to its colours. -/
def V3dObject.map (f : D → D') (g : F → F') : V3dObject D F → V3dObject D' F'
  | .bezierPatch ⟨p, ci, mi⟩ => .bezierPatch ⟨p.map (Vec3.map f), ci, mi⟩
  | .bezierTriangle ⟨p, ci, mi⟩ => .bezierTriangle ⟨p.map (Vec3.map f), ci, mi⟩
  | .bezierPatchColor ⟨p, ci, mi, c⟩ =>
    .bezierPatchColor ⟨p.map (Vec3.map f), ci, mi, c.map (Vec4.map g)⟩
  | .bezierTriangleColor ⟨p, ci, mi, c⟩ =>
    .bezierTriangleColor ⟨p.map (Vec3.map f), ci, mi, c.map (Vec4.map g)⟩
  | .quad ⟨p, ci, mi⟩ => .quad ⟨p.map (Vec3.map f), ci, mi⟩
  | .triangle ⟨p, ci, mi⟩ => .triangle ⟨p.map (Vec3.map f), ci, mi⟩
  | .quadColor ⟨p, ci, mi, c⟩ => .quadColor ⟨p.map (Vec3.map f), ci, mi, c.map (Vec4.map g)⟩
  | .triangleColor ⟨p, ci, mi, c⟩ =>
    .triangleColor ⟨p.map (Vec3.map f), ci, mi, c.map (Vec4.map g)⟩
  | .triangles ⟨p, n, c, t, ci, mi⟩ =>
    .triangles ⟨p.map (Vec3.map f), n.map (Vec3.map f), c.map (Vec4.map g), t, ci, mi⟩
  | .sphere ⟨c, r, ci, mi⟩ => .sphere ⟨c.map f, f r, ci, mi⟩
  | .halfSphere ⟨c, r, ci, mi, p, a⟩ => .halfSphere ⟨c.map f, f r, ci, mi, f p, f a⟩
  | .disk ⟨c, r, ci, mi, p, a⟩ => .disk ⟨c.map f, f r, ci, mi, f p, f a⟩
  | .cylinder ⟨c, r, h, ci, mi, p, a, core⟩ =>
    .cylinder ⟨c.map f, f r, f h, ci, mi, f p, f a, core⟩
  | .tube ⟨p, w, ci, mi, core⟩ => .tube ⟨p.map (Vec3.map f), f w, ci, mi, core⟩
  | .curve ⟨p, ci, mi⟩ => .curve ⟨p.map (Vec3.map f), ci, mi⟩
  | .line ⟨p, ci, mi⟩ => .line ⟨p.map (Vec3.map f), ci, mi⟩
  | .pixel ⟨p, w, mi⟩ => .pixel ⟨p.map f, f w, mi⟩

end Maps

section Expected

variable {D F : Type} [Rounding D F]

variable (F) in
/-- A real after it has been written and read. -/
def roundReal (sp : Bool) (x : D) : D :=
  if sp then Rounding.widen (Rounding.narrow x : F) else x

/-- An object without colours has no colour indices: the corners count with their positions. -/
def V3dObject.colorless {G : Type} : V3dObject D G → V3dObject D G
  | .triangles o =>
    if o.vertexColorArray.length = 0 then
      .triangles { o with triangles := o.triangles.map fun t => { t with colors := t.positions } }
    else .triangles o
  | o => o

/-- An object up to the rounding of its reals and its colours. -/
def V3dObject.rounded (sp : Bool) (o : V3dObject D D) : V3dObject D F :=
  o.colorless.map (roundReal F sp) Rounding.narrow

/-- The header values up to rounding. What is not written keeps its default. -/
def HeaderSettings.expected [Scalar D] [Scalar F] (sp : Bool) (h : HeaderSettings D F) :
    LoadedInfo D F :=
  let real (x : D) : Option D := some (roundReal F sp x)
  { canvasWidth := h.fullWidth
    canvasHeight := h.fullHeight
    absolute := if h.absolute then 1 else 0
    minBound := h.minBound.map real
    maxBound := h.maxBound.map real
    orthographic := if h.orthographic then 1 else 0
    angleOfView := real h.angle
    initialZoom := real h.zoom0
    viewportShift :=
      if h.shifted then h.viewportShift.map real else (V3dHeaderInfo.default D F).viewportShift
    viewportMargin := h.margin.map real
    lights := h.lights.map fun l => some ⟨l.1.map (roundReal F sp), l.2.map Rounding.narrow⟩
    background := h.backgroundColour.map Rounding.narrow
    zoomFactor := real h.zoomFactor
    zoomPinchFactor := real h.zoomPinchFactor
    zoomPinchCap := real h.zoomPinchCap
    zoomStep := real h.zoomStep
    shiftHoldDistance := real h.shiftHoldDistance
    shiftWaitTime := real h.shiftWaitTime
    vibrateTime := real h.vibrateTime
    imageName := if h.imageWritten then h.image else [] }

/-- The materials among the items. -/
def Item.material? : Item D F → Option (V3dMaterial F)
  | .material m => some m
  | .object _ => none

/-- The objects among the items. -/
def Item.object? : Item D F → Option (V3dObject D D)
  | .material _ => none
  | .object o => some o

/-- The scene a file stands for: its header values, materials, centers and objects, in the same
order and with the same fields. -/
def Scene.expected [Scalar D] [Scalar F] (sp : Bool) (scene : Scene D F) : Loaded D F :=
  { versionNumber := some v3dVersion
    doublePrecisionFlag := some (precisionFlag sp)
    centers := scene.centers.map fun c => some (c.map (roundReal F sp))
    materials := (scene.items.filterMap Item.material?).map some
    objects := (scene.items.filterMap Item.object?).map fun o => some (o.rounded sp)
    headerInfo := scene.header.expected sp }

end Expected

end OkularV3d
