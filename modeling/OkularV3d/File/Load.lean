import OkularV3d.File.Records
import OkularV3d.Manager.IBLName

/-!
# Loading a V3D file

`V3dFile::load` reads the version, the precision flag and then records until the stream ends, a
count exceeds its limit, or a checked read fails. What it leaves in the scene is `Loaded`, where an
absent value is one that no read has assigned: a real whose read failed, or a record some of whose
reads failed. A read into a member (`xdrFile >> headerInfo.canvasWidth`) keeps the member's value
when it fails, and so is never absent.

A call returns whether parsing goes on (`!stopParsing`).

* `V3dHeaderInfo` are the header values, and `V3dHeaderInfo.loadEntry` reads one of them by its key.
* `loadType` is one round of the loop, by the type of the record.
* `load` is the whole file. Its fuel is the number of bytes, which is enough
  (`OkularV3d.File.Truncation`).

Fields of the class that no claim is about, such as its views, are not here.
-/

namespace OkularV3d

open Wire Wire.Parser

/-- `HeaderTypes`, `v3dheadertypes`. -/
inductive HeaderTypes where
  | canvasWidth | canvasHeight | absolute | minBound | maxBound | orthographic | angleOfView
  | initialZoom | viewportShift | viewportMargin | light | background
  | zoomFactor | zoomPinchFactor | zoomPinchCap | zoomStep | shiftHoldDistance | shiftWaitTime
  | vibrateTime | image
  deriving DecidableEq

namespace HeaderTypes

/-- The word that announces a header entry. -/
def code : HeaderTypes → UInt32
  | canvasWidth => 1
  | canvasHeight => 2
  | absolute => 3
  | minBound => 4
  | maxBound => 5
  | orthographic => 6
  | angleOfView => 7
  | initialZoom => 8
  | viewportShift => 9
  | viewportMargin => 10
  | light => 11
  | background => 12
  | zoomFactor => 13
  | zoomPinchFactor => 14
  | zoomPinchCap => 15
  | zoomStep => 16
  | shiftHoldDistance => 17
  | shiftWaitTime => 18
  | vibrateTime => 19
  | image => 20

/-- All of them. -/
def all : List HeaderTypes :=
  [canvasWidth, canvasHeight, absolute, minBound, maxBound, orthographic, angleOfView, initialZoom,
    viewportShift, viewportMargin, light, background, zoomFactor, zoomPinchFactor, zoomPinchCap,
    zoomStep, shiftHoldDistance, shiftWaitTime, vibrateTime, image]

/-- The key a word stands for; `none` is the `default` of the `switch`. -/
def ofCode (w : UInt32) : Option HeaderTypes := all.find? fun t => t.code == w

@[simp] theorem ofCode_code (t : HeaderTypes) : ofCode t.code = some t := by cases t <;> rfl

end HeaderTypes

/-- `V3dHeaderInfo`, over the reals `R`, the lights `L` and the floats `F` it holds. -/
structure V3dHeaderInfo (R L F : Type) where
  canvasWidth : UInt32
  canvasHeight : UInt32
  absolute : UInt32
  minBound : Vec3 R
  maxBound : Vec3 R
  orthographic : UInt32
  angleOfView : R
  initialZoom : R
  viewportShift : Vec2 R
  viewportMargin : Vec2 R
  lights : List L
  background : Vec4 F
  zoomFactor : R
  zoomPinchFactor : R
  zoomPinchCap : R
  zoomStep : R
  shiftHoldDistance : R
  shiftWaitTime : R
  vibrateTime : R
  imageName : ByteString
  deriving DecidableEq

/-- The header of a scene that is being loaded. -/
abbrev LoadedInfo (D F : Type) := V3dHeaderInfo (Option D) (Option (Light D F)) F

/-- What `V3dFile::load` leaves in the members of a `V3dFile`. -/
structure Loaded (D F : Type) where
  versionNumber : Option UInt32
  doublePrecisionFlag : Option UInt32
  centers : List (Option (Vec3 D))
  materials : List (Option (V3dMaterial F))
  objects : List (Option (V3dObject D F))
  headerInfo : LoadedInfo D F
  deriving DecidableEq

section Defaults

variable (D F : Type) [Scalar D] [Scalar F]

/-- The default member initialisers of `V3dHeaderInfo`. `angleOfView` is `glm::radians(45.0)`. -/
def V3dHeaderInfo.default : LoadedInfo D F :=
  let zero : Option D := some (Scalar.lit 0)
  let hundred : Option D := some (Scalar.lit 100)
  let one : Option D := some (Scalar.lit 1)
  { canvasWidth := 500
    canvasHeight := 500
    absolute := 0
    minBound := ⟨zero, zero, zero⟩
    maxBound := ⟨hundred, hundred, hundred⟩
    orthographic := 0
    angleOfView := some (Scalar.lit 45 * Scalar.lit (1745329251994329576923690768489 / 10 ^ 32))
    initialZoom := one
    viewportShift := ⟨zero, zero⟩
    viewportMargin := ⟨zero, zero⟩
    lights := []
    background := ⟨Scalar.lit 1, Scalar.lit 1, Scalar.lit 1, Scalar.lit 1⟩
    zoomFactor := one
    zoomPinchFactor := one
    zoomPinchCap := one
    zoomStep := one
    shiftHoldDistance := one
    shiftWaitTime := one
    vibrateTime := one
    imageName := [] }

/-- A `V3dFile` before anything is read. -/
def Loaded.init : Loaded D F :=
  { versionNumber := none, doublePrecisionFlag := none, centers := [], materials := [],
    objects := [], headerInfo := .default D F }

end Defaults

/-! ### Reads -/

section Reads

variable {α σ : Type}

/-- `xdrFile >> x` for a member `x`, which keeps its value `old` when the read fails. -/
def assign (p : Parser α) (old : α) : StateM Stream α := do
  let val ← Stream.read p
  return val.getD old

/-- `if(!(xdrFile >> x)) { stopParsing = true; break; }`. -/
def orStop (s : σ) (p : Parser α) (k : α → StateM Stream (σ × Bool)) : StateM Stream (σ × Bool) :=
  Stream.read p >>= fun
    | none => pure (s, false)
    | some a => k a

variable {D : Type} (F : Type) [Xdr64 D] [Xdr32 F] [Rounding D F]

/-- `readReal` into two members. -/
def loadPair (doublePrecision : UInt32) : StateM Stream (Vec2 (Option D)) := do
  let x ← Stream.read (readReal F doublePrecision)
  let y ← Stream.read (readReal F doublePrecision)
  return ⟨x, y⟩

/-- `readReal` into three members. -/
def loadTriple (doublePrecision : UInt32) : StateM Stream (Vec3 (Option D)) := do
  let x ← Stream.read (readReal F doublePrecision)
  let y ← Stream.read (readReal F doublePrecision)
  let z ← Stream.read (readReal F doublePrecision)
  return ⟨x, y, z⟩

variable {F}

/-- `xdrFile >> x` for the four members of a colour. -/
def assignRGBA (old : Vec4 F) : StateM Stream (Vec4 F) := do
  let r ← assign readFloat old.r
  let g ← assign readFloat old.g
  let b ← assign readFloat old.b
  let a ← assign readFloat old.a
  return ⟨r, g, b, a⟩

/-- The payload of a `LIGHT` entry. -/
def readLight (doublePrecision : UInt32) : Parser (Light D F) := do
  let direction ← readTriple F doublePrecision
  let r ← readFloat
  let g ← readFloat
  let b ← readFloat
  return { direction, color := ⟨r, g, b⟩ }

/-- The characters of an `IMAGE` entry, and the padding up to a whole word. -/
def readString (strLen : ℕ) : Parser ByteString := do
  let s ← list byte strLen
  let _ ← list byte ((strLen + 3) / 4 * 4 - strLen)
  return s

end Reads

/-! ### The header -/

/-- `kMaxHeaderEntries`. -/
def kMaxHeaderEntries : ℕ := 10000

/-- `kMaxUnknownHeaderWords`. -/
def kMaxUnknownHeaderWords : ℕ := 1000000

/-- The limit of an image name. -/
def maxImageName : ℕ := 4096

/-- The limit of the centers. -/
def maxCenters : ℕ := 1000000

section Load

variable {D F : Type} [Xdr64 D] [Xdr32 F] [Rounding D F]

/-- The words an unknown entry may have. `measured` says whether the size of the stream can be
measured, which `remainingBytes` finds out. -/
def maxWords (measured : Bool) (s : Stream) : ℕ :=
  if measured then min (s.rest.length / 4) kMaxUnknownHeaderWords else kMaxUnknownHeaderWords

/-- An entry whose key is unknown: its words are skipped. -/
def skipEntry (measured : Bool) (length : UInt32) (info : LoadedInfo D F) :
    StateM Stream (LoadedInfo D F × Bool) := do
  let s ← get
  if maxWords measured s < length.toNat then return (info, false)
  else orStop info (list word length.toNat) fun _ => pure (info, true)

/-- The `IMAGE` entry. -/
def loadImage (info : LoadedInfo D F) : StateM Stream (LoadedInfo D F × Bool) :=
  orStop info doubleWord fun strLen =>
    if maxImageName < strLen.toNat then pure (info, false)
    else orStop info (readString strLen.toNat) fun s => pure ({ info with imageName := s }, true)

/-- A header entry whose key is known. -/
def loadEntry (doublePrecision : UInt32) (info : LoadedInfo D F) :
    HeaderTypes → StateM Stream (LoadedInfo D F × Bool)
  | .canvasWidth => do
    let canvasWidth ← assign word info.canvasWidth
    return ({ info with canvasWidth }, true)
  | .canvasHeight => do
    let canvasHeight ← assign word info.canvasHeight
    return ({ info with canvasHeight }, true)
  | .absolute => do
    let absolute ← assign word info.absolute
    return ({ info with absolute }, true)
  | .minBound => do
    let minBound ← loadTriple F doublePrecision
    return ({ info with minBound }, true)
  | .maxBound => do
    let maxBound ← loadTriple F doublePrecision
    return ({ info with maxBound }, true)
  | .orthographic => do
    let orthographic ← assign word info.orthographic
    return ({ info with orthographic }, true)
  | .angleOfView => do
    let angleOfView ← Stream.read (readReal F doublePrecision)
    return ({ info with angleOfView }, true)
  | .initialZoom => do
    let initialZoom ← Stream.read (readReal F doublePrecision)
    return ({ info with initialZoom }, true)
  | .viewportShift => do
    let viewportShift ← loadPair F doublePrecision
    return ({ info with viewportShift }, true)
  | .viewportMargin => do
    let viewportMargin ← loadPair F doublePrecision
    return ({ info with viewportMargin }, true)
  | .light => do
    let l ← Stream.read (readLight doublePrecision)
    return ({ info with lights := info.lights ++ [l] }, true)
  | .background => do
    let background ← assignRGBA info.background
    return ({ info with background }, true)
  | .zoomFactor => do
    let zoomFactor ← Stream.read (readReal F doublePrecision)
    return ({ info with zoomFactor }, true)
  | .zoomPinchFactor => do
    let zoomPinchFactor ← Stream.read (readReal F doublePrecision)
    return ({ info with zoomPinchFactor }, true)
  | .zoomPinchCap => do
    let zoomPinchCap ← Stream.read (readReal F doublePrecision)
    return ({ info with zoomPinchCap }, true)
  | .zoomStep => do
    let zoomStep ← Stream.read (readReal F doublePrecision)
    return ({ info with zoomStep }, true)
  | .shiftHoldDistance => do
    let shiftHoldDistance ← Stream.read (readReal F doublePrecision)
    return ({ info with shiftHoldDistance }, true)
  | .shiftWaitTime => do
    let shiftWaitTime ← Stream.read (readReal F doublePrecision)
    return ({ info with shiftWaitTime }, true)
  | .vibrateTime => do
    let vibrateTime ← Stream.read (readReal F doublePrecision)
    return ({ info with vibrateTime }, true)
  | .image => loadImage info

/-- The body of the loop over the header entries: the `switch` on the key. -/
def loadKey (measured : Bool) (doublePrecision key length : UInt32) (info : LoadedInfo D F) :
    StateM Stream (LoadedInfo D F × Bool) :=
  match HeaderTypes.ofCode key with
  | some t => loadEntry doublePrecision info t
  | none => skipEntry measured length info

/-- The loop over the header entries. -/
def loadEntries (measured : Bool) (doublePrecision : UInt32) :
    ℕ → LoadedInfo D F → StateM Stream (LoadedInfo D F × Bool)
  | 0, info => pure (info, true)
  | n + 1, info =>
    orStop info word fun key =>
      orStop info word fun length =>
        loadKey measured doublePrecision key length info >>= fun r =>
          if r.2 then loadEntries measured doublePrecision n r.1 else pure r

/-- The `HEADER` record. -/
def loadHeader (measured : Bool) (doublePrecision : UInt32) (info : LoadedInfo D F) :
    StateM Stream (LoadedInfo D F × Bool) :=
  orStop info word fun headerEntryCount =>
    if kMaxHeaderEntries < headerEntryCount.toNat then pure (info, false)
    else loadEntries measured doublePrecision headerEntryCount.toNat info

/-! ### Centers -/

/-- `centers.resize(n)`: new centers are zero. -/
def resizeCenters [Scalar D] (n : ℕ) (centers : List (Option (Vec3 D))) : List (Option (Vec3 D)) :=
  centers.take n ++
    List.replicate (n - centers.length) (some ⟨Scalar.lit 0, Scalar.lit 0, Scalar.lit 0⟩)

omit [Xdr64 D] [Xdr32 F] [Rounding D F] in
theorem length_resizeCenters [Scalar D] (n : ℕ) (centers : List (Option (Vec3 D))) :
    (resizeCenters n centers).length = n := by
  rw [resizeCenters, List.length_append, List.length_take, List.length_replicate]
  omega

variable (F) in
/-- The loop that assigns the centers: a center is assigned before the stream is checked. -/
def fillCenters (doublePrecision : UInt32) :
    List (Option (Vec3 D)) → StateM Stream (List (Option (Vec3 D)) × Bool)
  | [] => pure ([], true)
  | _ :: cs => Stream.read (readTriple F doublePrecision) >>= fun
    | none => pure (none :: cs, false)
    | some c => fillCenters doublePrecision cs >>= fun r => pure (some c :: r.1, r.2)

variable (F) in
/-- The `CENTERS` record. -/
def loadCenters [Scalar D] (doublePrecision : UInt32) (centers : List (Option (Vec3 D))) :
    StateM Stream (List (Option (Vec3 D)) × Bool) :=
  orStop centers word fun centersLength =>
    if maxCenters < centersLength.toNat then pure (centers, false)
    else if 0 < centersLength then
      fillCenters F doublePrecision (resizeCenters centersLength.toNat centers)
    else pure (centers, true)

/-! ### Records -/

variable [Scalar D] [Scalar F]

/-- A record whose type is known. Materials and objects enter the scene unchecked. -/
def loadRecord (measured : Bool) (versionNumber doublePrecision : UInt32) (file : Loaded D F) :
    ObjectTypes → StateM Stream (Loaded D F × Bool)
  | .material => do
    let material ← Stream.read (V3dMaterial.read versionNumber)
    return ({ file with materials := file.materials ++ [material] }, true)
  | .centers => do
    let r ← loadCenters F doublePrecision file.centers
    return ({ file with centers := r.1 }, r.2)
  | .header => do
    let r ← loadHeader measured doublePrecision file.headerInfo
    return ({ file with headerInfo := r.1 }, r.2)
  | t =>
    match V3dObject.read doublePrecision t with
    | some p => do
      let object ← Stream.read p
      return ({ file with objects := file.objects ++ [object.join] }, true)
    | none => pure (file, true)

/-- Constructors of objects are reached through the last case of the `switch`. -/
theorem loadRecord_object {measured : Bool} {versionNumber doublePrecision : UInt32}
    {file : Loaded D F} {t : ObjectTypes} {p : Parser (Option (V3dObject D F))}
    (h : V3dObject.read doublePrecision t = some p) :
    loadRecord measured versionNumber doublePrecision file t = do
      let object ← Stream.read p
      return ({ file with objects := file.objects ++ [object.join] }, true) := by
  cases t <;> first | contradiction | (rw [← Option.some.inj h]; rfl)

/-- The body of the loop over the records: the `switch` on the type. -/
def loadType (measured : Bool) (versionNumber doublePrecision objectType : UInt32)
    (file : Loaded D F) : StateM Stream (Loaded D F × Bool) :=
  match ObjectTypes.ofCode objectType with
  | some t => loadRecord measured versionNumber doublePrecision file t
  | none => pure (file, true)

/-- The loop over the records. Every round reads a word, so as many rounds as there are bytes are
enough (`loadRecords_fuel`). -/
def loadRecords (measured : Bool) (versionNumber doublePrecision : UInt32) :
    ℕ → Loaded D F → StateM Stream (Loaded D F)
  | 0, file => pure file
  | fuel + 1, file => Stream.read word >>= fun
    | none => pure file
    | some objectType =>
      loadType measured versionNumber doublePrecision objectType file >>= fun r =>
        if r.2 then loadRecords measured versionNumber doublePrecision fuel r.1 else pure r.1

/-- `V3dFile::load`. -/
def loadFrom (measured : Bool) (fuel : ℕ) : StateM Stream (Loaded D F) :=
  Stream.read word >>= fun
    | none => pure (.init D F)
    | some versionNumber =>
      let file := { Loaded.init D F with versionNumber := some versionNumber }
      if versionNumber < 1 then pure file
      else Stream.read word >>= fun
        | none => pure file
        | some doublePrecisionFlag =>
          loadRecords measured versionNumber doublePrecisionFlag fuel
            { file with doublePrecisionFlag := some doublePrecisionFlag }

/-- A file whose version has been read. -/
def Loaded.withVersion (versionNumber : UInt32) : Loaded D F :=
  { Loaded.init D F with versionNumber := some versionNumber }

/-- A file whose version and precision have been read. -/
def Loaded.withFlags (versionNumber doublePrecisionFlag : UInt32) : Loaded D F :=
  { Loaded.init D F with
    versionNumber := some versionNumber, doublePrecisionFlag := some doublePrecisionFlag }

theorem loadFrom_of_old {bytes rest : List UInt8} {versionNumber : UInt32}
    (h : word.run bytes = some (versionNumber, rest)) (hold : versionNumber < 1) (measured : Bool)
    (fuel : ℕ) :
    (loadFrom measured fuel).run ⟨bytes, true⟩ =
      ((.withVersion versionNumber : Loaded D F), ⟨rest, true⟩) := by
  rw [loadFrom, StateT.run_bind, Stream.read_of_some h]
  change StateT.run (ite _ _ _) _ = _
  rw [if_pos hold]
  rfl

theorem loadFrom_of_unflagged {bytes rest : List UInt8} {versionNumber : UInt32}
    (h : word.run bytes = some (versionNumber, rest)) (hnew : ¬ versionNumber < 1)
    (hflag : word.run rest = none) (measured : Bool) (fuel : ℕ) :
    (loadFrom measured fuel).run ⟨bytes, true⟩ =
      ((.withVersion versionNumber : Loaded D F), ⟨rest, false⟩) := by
  rw [loadFrom, StateT.run_bind, Stream.read_of_some h]
  change StateT.run (ite _ _ _) _ = _
  rw [if_neg hnew, StateT.run_bind, Stream.read_of_none hflag]
  rfl

theorem loadFrom_of_flags {bytes rest rest' : List UInt8}
    {versionNumber doublePrecisionFlag : UInt32} (h : word.run bytes = some (versionNumber, rest))
    (hnew : ¬ versionNumber < 1) (hflag : word.run rest = some (doublePrecisionFlag, rest'))
    (measured : Bool) (fuel : ℕ) :
    (loadFrom measured fuel : StateM Stream (Loaded D F)).run ⟨bytes, true⟩ =
      (loadRecords measured versionNumber doublePrecisionFlag fuel
        (.withFlags versionNumber doublePrecisionFlag)).run ⟨rest', true⟩ := by
  rw [loadFrom, StateT.run_bind, Stream.read_of_some h]
  change StateT.run (ite _ _ _) _ = _
  rw [if_neg hnew, StateT.run_bind, Stream.read_of_some hflag]
  rfl

/-- `V3dFile::load` of a stream that holds the given bytes: the members it leaves, and the stream
after it. -/
def load (measured : Bool) (bytes : List UInt8) : Loaded D F × Stream :=
  (loadFrom measured (bytes.length + 1)).run ⟨bytes, true⟩

end Load

end OkularV3d
