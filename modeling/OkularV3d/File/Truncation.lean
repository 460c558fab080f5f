import OkularV3d.File.Load

/-!
# Truncated files

A file may end anywhere. `V3dFile::load` checks some reads and stops parsing where they fail, but it
adds materials, objects and lights to the scene, and assigns header reals and centers, without a
check. So a truncated file leaves values in the scene that no read has assigned, unless it ends at a
place where the reader looks.

`wholeRecords` finds this out from the sizes of the records alone: it walks over the file with
`Scan`, skipping every record by its size, and answers whether the bytes end inside an unchecked
record. `load_decoded_iff` says that the scene is decoded exactly then.

* `Follows` is the relation between a reading program and the scan; each constructor, header entry
  and record has a lemma that it follows.
* `decoded_loadRecords` is the loop, by induction on its rounds.
* `shrinks_type` says that no record gives bytes back, so that the rounds suffice.
-/

namespace OkularV3d

open Wire Wire.Parser

/-! ### Sizes -/

/-- The bytes of a real. -/
def realSize (doublePrecision : UInt32) : ℕ := if doublePrecision ≠ 0 then 8 else 4

section Sizes

variable {D F : Type} [Xdr64 D] [Xdr32 F] [Rounding D F]

/-- A real takes eight bytes in double precision and four otherwise. -/
theorem sized_real (doublePrecision : UInt32) :
    Sized (readReal F doublePrecision : Parser D) (realSize doublePrecision) := by
  rw [readReal, realSize]
  by_cases h : doublePrecision ≠ 0
  · rw [if_pos h, if_pos h]
    exact sized_doubleWord.ret _
  · rw [if_neg h, if_neg h]
    exact sized_word.ret _

theorem sized_triple (doublePrecision : UInt32) :
    Sized (readTriple F doublePrecision : Parser (Vec3 D)) (3 * realSize doublePrecision) :=
  ((sized_real doublePrecision).bind fun _ => (sized_real doublePrecision).bind fun _ =>
    (sized_real doublePrecision).ret _).cast (by omega)

omit [Xdr64 D] [Rounding D F] in
theorem sized_float : Sized (readFloat : Parser F) 4 := sized_word.ret _

omit [Xdr64 D] [Rounding D F] in
theorem sized_rgba : Sized (readRGBA : Parser (Vec4 F)) 16 :=
  sized_float.bind fun _ => sized_float.bind fun _ => sized_float.bind fun _ => sized_float.ret _

theorem sized_triples (doublePrecision : UInt32) (n : ℕ) :
    Sized (vector (readTriple F doublePrecision : Parser (Vec3 D)) n)
      (n * (3 * realSize doublePrecision)) :=
  Sized.vector (sized_triple doublePrecision) n

omit [Xdr64 D] [Rounding D F] in
/-- A material takes one word more from version 2 on. -/
theorem sized_material [Scalar F] (versionNumber : UInt32) :
    Sized (V3dMaterial.read versionNumber : Parser (V3dMaterial F))
      (if 2 ≤ versionNumber then 64 else 60) := by
  have hlightOn : Sized (if 2 ≤ versionNumber then readFloat else pure (Scalar.lit 1) : Parser F)
      (if 2 ≤ versionNumber then 4 else 0) := by
    by_cases h : 2 ≤ versionNumber
    · rw [if_pos h, if_pos h]
      exact sized_float
    · rw [if_neg h, if_neg h]
      exact Sized.pure _
  refine (sized_rgba.bind fun _ => sized_rgba.bind fun _ => sized_rgba.bind fun _ =>
    sized_float.bind fun _ => sized_float.bind fun _ => sized_float.bind fun _ =>
    hlightOn.ret _).cast ?_
  split_ifs <;> rfl

/-- The bytes of an object record without its type, over the bytes of a real. A triangle group has
no size of its own, and the other types announce no object. -/
def objectSize (real : ℕ) : ObjectTypes → Option ℕ
  | .line => some (2 * (3 * real) + 8)
  | .triangle => some (3 * (3 * real) + 8)
  | .quad => some (4 * (3 * real) + 8)
  | .curve => some (4 * (3 * real) + 8)
  | .bezierTriangle => some (10 * (3 * real) + 8)
  | .bezierPatch => some (16 * (3 * real) + 8)
  | .triangleColor => some (3 * (3 * real) + 56)
  | .quadColor => some (4 * (3 * real) + 72)
  | .bezierTriangleColor => some (10 * (3 * real) + 56)
  | .bezierPatchColor => some (16 * (3 * real) + 72)
  | .disk => some (6 * real + 8)
  | .cylinder => some (7 * real + 12)
  | .tube => some (13 * real + 12)
  | .sphere => some (4 * real + 8)
  | .halfSphere => some (6 * real + 8)
  | .pixel => some (4 * real + 4)
  | .material | .transform | .element | .centers | .header | .lineColor | .curveColor | .triangles
  | .animation => none

/-- A parser that reads `n` bytes and always returns an object. -/
def WholeSized {α : Type} (p : Parser (Option α)) (n : ℕ) : Prop :=
  Agree (fun a (_ : Unit) => a.isSome = true) p (skip n)

omit [Xdr64 D] [Xdr32 F] [Rounding D F] in
/-- An object whose record is read in one piece is as long as the record. -/
theorem wholeSized {α : Type} {p : Parser α} {n : ℕ} (h : Sized p n) (mk : α → V3dObject D F) :
    WholeSized (V3dObject.whole mk p) n := by
  intro bytes
  by_cases hn : n ≤ bytes.length
  · obtain ⟨a, ha⟩ := h.run_eq_some hn
    rw [V3dObject.whole, StateT.run_bind, ha, skip_run, if_pos hn]
    exact .some ⟨rfl, rfl⟩
  · rw [V3dObject.whole, StateT.run_bind, h.run_eq_none (by omega), skip_run, if_neg hn]
    exact .none

/-- Points, a center and a material. -/
theorem sized_points (doublePrecision : UInt32) {α : Type} (n : ℕ)
    (mk : Vector (Vec3 D) n → UInt32 → UInt32 → α) :
    Sized (do
        let points ← vector (readTriple F doublePrecision) n
        let centerIndex ← word
        let materialIndex ← word
        return mk points centerIndex materialIndex)
      (n * (3 * realSize doublePrecision) + 8) :=
  (sized_triples doublePrecision n).bind fun _ => sized_word.bind fun _ => sized_word.ret _

/-- The same with corner colours. -/
theorem sized_colored (doublePrecision : UInt32) {α : Type} (n k : ℕ)
    (mk : Vector (Vec3 D) n → UInt32 → UInt32 → Vector (Vec4 F) k → α) :
    Sized (do
        let points ← vector (readTriple F doublePrecision) n
        let centerIndex ← word
        let materialIndex ← word
        let colors ← vector readRGBA k
        return mk points centerIndex materialIndex colors)
      (n * (3 * realSize doublePrecision) + (4 + (4 + k * 16))) :=
  (sized_triples doublePrecision n).bind fun _ => sized_word.bind fun _ => sized_word.bind fun _ =>
    (Sized.vector sized_rgba k).ret _

/-- A sphere's center and radius and the indices after them, before the other fields. -/
theorem sized_round (doublePrecision : UInt32) {α : Type} {m : ℕ}
    {f : Vec3 D → D → UInt32 → UInt32 → Parser α} (h : ∀ c r ci mi, Sized (f c r ci mi) m) :
    Sized (do
        let center ← readTriple F doublePrecision
        let radius ← readReal F doublePrecision
        let centerIndex ← word
        let materialIndex ← word
        f center radius centerIndex materialIndex)
      (4 * realSize doublePrecision + 8 + m) :=
  ((sized_triple doublePrecision).bind fun _ => (sized_real doublePrecision).bind fun _ =>
    sized_word.bind fun _ => sized_word.bind fun _ => h _ _ _ _).cast (by omega)

/-- The two angles a solid ends with. -/
theorem sized_angles (doublePrecision : UInt32) {α : Type} (mk : D → D → α) :
    Sized (do
        let polarAngle ← readReal F doublePrecision
        let azimuthalAngle ← readReal F doublePrecision
        return mk polarAngle azimuthalAngle)
      (2 * realSize doublePrecision) :=
  ((sized_real doublePrecision).bind fun _ => (sized_real doublePrecision).ret _).cast (by omega)

theorem sized_cylinder (doublePrecision : UInt32) :
    Sized (V3dCylinder.read F doublePrecision : Parser (V3dCylinder D))
      (7 * realSize doublePrecision + 12) :=
  ((sized_triple doublePrecision).bind fun _ => (sized_real doublePrecision).bind fun _ =>
    (sized_real doublePrecision).bind fun _ => sized_word.bind fun _ => sized_word.bind fun _ =>
    (sized_real doublePrecision).bind fun _ => (sized_real doublePrecision).bind fun _ =>
    sized_word.ret _).cast (by omega)

theorem sized_tube (doublePrecision : UInt32) :
    Sized (V3dTube.read F doublePrecision : Parser (V3dTube D))
      (13 * realSize doublePrecision + 12) :=
  ((sized_triples doublePrecision 4).bind fun _ => (sized_real doublePrecision).bind fun _ =>
    sized_word.bind fun _ => sized_word.bind fun _ => sized_word.ret _).cast (by omega)

theorem sized_pixel (doublePrecision : UInt32) :
    Sized (V3dPixel.read F doublePrecision : Parser (V3dPixel D))
      (4 * realSize doublePrecision + 4) :=
  ((sized_triple doublePrecision).bind fun _ => (sized_real doublePrecision).bind fun _ =>
    sized_word.ret _).cast (by omega)

theorem sized_light (doublePrecision : UInt32) :
    Sized (readLight doublePrecision : Parser (Light D F)) (3 * realSize doublePrecision + 12) :=
  (sized_triple doublePrecision).bind fun _ => sized_float.bind fun _ => sized_float.bind fun _ =>
    sized_float.ret _

/-- The constructor of every class but the groups reads its size. -/
theorem wholeSized_object {doublePrecision : UInt32} {t : ObjectTypes} {n : ℕ}
    (ht : objectSize (realSize doublePrecision) t = some n) :
    ∃ p : Parser (Option (V3dObject D F)), V3dObject.read doublePrecision t = some p ∧
      WholeSized p n := by
  cases t <;> try contradiction
  all_goals obtain rfl := Option.some.inj ht
  case line => exact ⟨_, rfl, wholeSized (sized_points _ _ _) _⟩
  case triangle => exact ⟨_, rfl, wholeSized (sized_points _ _ _) _⟩
  case quad => exact ⟨_, rfl, wholeSized (sized_points _ _ _) _⟩
  case curve => exact ⟨_, rfl, wholeSized (sized_points _ _ _) _⟩
  case bezierTriangle => exact ⟨_, rfl, wholeSized (sized_points _ _ _) _⟩
  case bezierPatch => exact ⟨_, rfl, wholeSized (sized_points _ _ _) _⟩
  case triangleColor => exact ⟨_, rfl, wholeSized (sized_colored _ _ _ _) _⟩
  case quadColor => exact ⟨_, rfl, wholeSized (sized_colored _ _ _ _) _⟩
  case bezierTriangleColor => exact ⟨_, rfl, wholeSized (sized_colored _ _ _ _) _⟩
  case bezierPatchColor => exact ⟨_, rfl, wholeSized (sized_colored _ _ _ _) _⟩
  case disk =>
    exact ⟨_, rfl, wholeSized ((sized_round _ fun _ _ _ _ => sized_angles _ _).cast (by omega)) _⟩
  case cylinder => exact ⟨_, rfl, wholeSized (sized_cylinder _) _⟩
  case tube => exact ⟨_, rfl, wholeSized (sized_tube _) _⟩
  case sphere => exact ⟨_, rfl, wholeSized (sized_round _ fun _ _ _ _ => Sized.pure _) _⟩
  case halfSphere =>
    exact ⟨_, rfl, wholeSized ((sized_round _ fun _ _ _ _ => sized_angles _ _).cast (by omega)) _⟩
  case pixel => exact ⟨_, rfl, wholeSized (sized_pixel _) _⟩

end Sizes

/-! ### Triangle groups -/

namespace V3dTriangleGroup

/-- The bytes of the indices of one triangle. -/
def indicesSize (explicitNI explicitCI : Bool) : ℕ :=
  12 + ((if explicitNI then 12 else 0) + (if explicitCI then 12 else 0))

/-- The colours of a group are skipped: `nC > 0 && explicitCI`. -/
def scanColors : Parser Bool := do
  let nC ← word
  if 0 < capped nC then
    let _ ← skip (capped nC * 16)
    let explicitCI ← word
    return explicitCI != 0
  else
    return false

/-- What follows the two counts of a group is skipped. -/
def scanBody (real : ℕ) (nI nP : UInt32) : Parser Unit := do
  let _ ← skip (nP.toNat * (3 * real))
  let nN ← word
  let _ ← skip (capped nN * (3 * real))
  let explicitNI ← word
  let explicitCI ← scanColors
  let _ ← skip (nI.toNat * indicesSize (explicitNI != 0) explicitCI)
  skip 8

/-- A group is skipped; false where its counts are excessive. -/
def scan (real : ℕ) : Parser Bool := do
  let nI ← word
  let nP ← word
  if maxCount < nI.toNat ∨ maxCount < nP.toNat then
    return false
  else
    let _ ← scanBody real nI nP
    return true

variable {D F : Type} [Xdr64 D] [Xdr32 F] [Rounding D F]

theorem sized_indices : Sized readIndices 12 :=
  sized_word.bind fun _ => sized_word.bind fun _ => sized_word.ret _

theorem sized_triangle (explicitNI explicitCI : Bool) :
    Sized (readTriangle explicitNI explicitCI) (indicesSize explicitNI explicitCI) := by
  have hoptional (explicit : Bool) (positions : IndexTriple) :
      Sized (if explicit then readIndices else pure positions) (if explicit then 12 else 0) := by
    cases explicit with
    | true => exact sized_indices
    | false => exact Sized.pure positions
  exact sized_indices.bind fun _ => (hoptional _ _).bind fun _ => (hoptional _ _).ret _

omit [Xdr64 D] [Rounding D F] in
/-- The colours of a group, and what the scan takes for them. -/
theorem agree_colors :
    Agree (fun colors explicitCI => colors.2 = explicitCI) (readColors (F := F)) scanColors := by
  refine Agree.bind (Agree.refl word) ?_
  rintro nC _ rfl
  by_cases h : 0 < capped nC
  · rw [if_pos h, if_pos h]
    refine Agree.bind (Sized.list sized_rgba (capped nC)) fun colors _ _ => ?_
    refine Agree.bind (Agree.refl word) ?_
    rintro explicitCI _ rfl
    exact Agree.pure rfl
  · rw [if_neg h, if_neg h]
    exact Agree.pure rfl

/-- What follows the counts of a group takes the same bytes in the reader and in the scan. -/
theorem agree_body (doublePrecision nI nP : UInt32) :
    Agree (fun _ _ => True) (readBody doublePrecision nI nP : Parser (V3dTriangleGroup D F))
      (scanBody (realSize doublePrecision) nI nP) := by
  have htriples (n : ℕ) := Sized.list (sized_triple (D := D) (F := F) doublePrecision) n
  refine Agree.bind (htriples nP.toNat) fun _ _ _ => ?_
  refine Agree.bind (Agree.refl word) ?_
  rintro nN _ rfl
  refine Agree.bind (htriples (capped nN)) fun _ _ _ => ?_
  refine Agree.bind (Agree.refl word) ?_
  rintro explicitNI _ rfl
  refine Agree.bind agree_colors ?_
  rintro ⟨colors, explicitCI⟩ _ rfl
  refine Agree.bind (Sized.list (sized_triangle _ _) nI.toNat) fun _ _ _ => ?_
  exact sized_word.bind fun _ => sized_word.ret _

/-- The constructor and the scan take the same bytes, and the scan tells whether there is a
group. -/
theorem agree_read (doublePrecision : UInt32) :
    Agree (fun group whole => group.isSome = whole)
      (read doublePrecision : Parser (Option (V3dTriangleGroup D F)))
      (scan (realSize doublePrecision)) := by
  refine Agree.bind (Agree.refl word) ?_
  rintro nI _ rfl
  refine Agree.bind (Agree.refl word) ?_
  rintro nP _ rfl
  by_cases h : maxCount < nI.toNat ∨ maxCount < nP.toNat
  · rw [if_pos h, if_pos h]
    exact Agree.pure rfl
  · rw [if_neg h, if_neg h]
    exact Agree.bind (agree_body _ _ _) fun _ _ _ => Agree.pure rfl

end V3dTriangleGroup

/-! ### Walking over a file -/

/-- What a record is found to be: skipped, with the bytes behind it; the end of what the reader
decodes; or a record the reader adds to the scene although it is not whole. -/
inductive Scan where
  | more (rest : List UInt8)
  | ended
  | cut

namespace Scan

/-- Bytes that the reader decodes without a check. -/
def unchecked (n : ℕ) (bytes : List UInt8) : Scan :=
  if n ≤ bytes.length then more (bytes.drop n) else cut

/-- Bytes whose absence leaves the scene as it is. -/
def checked (n : ℕ) (bytes : List UInt8) : Scan :=
  if n ≤ bytes.length then more (bytes.drop n) else ended

/-- Two unchecked fields in a row are one of both lengths. -/
theorem unchecked_add {k n : ℕ} {bytes : List UInt8} (hk : k ≤ bytes.length) :
    unchecked (k + n) bytes = unchecked n (bytes.drop k) := by
  rw [unchecked, unchecked, List.length_drop, List.drop_drop]
  exact if_congr (by omega) rfl rfl

/-- A count or a key, whose absence leaves the scene as it is. -/
def field {α : Type} (p : Parser α) (bytes : List UInt8) (k : α → List UInt8 → Scan) : Scan :=
  match p.run bytes with
  | some (a, rest) => k a rest
  | none => ended

/-- What comes after a record that is skipped. -/
def andThen (c : Scan) (k : List UInt8 → Scan) : Scan :=
  match c with
  | more rest => k rest
  | ended => ended
  | cut => cut

/-- A header entry whose key is known. -/
def entry (real : ℕ) (bytes : List UInt8) : HeaderTypes → Scan
  | .canvasWidth | .canvasHeight | .absolute | .orthographic => checked 4 bytes
  | .background => checked 16 bytes
  | .minBound | .maxBound => unchecked (3 * real) bytes
  | .viewportShift | .viewportMargin => unchecked (2 * real) bytes
  | .light => unchecked (3 * real + 12) bytes
  | .angleOfView | .initialZoom | .zoomFactor | .zoomPinchFactor | .zoomPinchCap | .zoomStep
  | .shiftHoldDistance | .shiftWaitTime | .vibrateTime => unchecked real bytes
  | .image => field doubleWord bytes fun strLen rest =>
    if maxImageName < strLen.toNat then ended else checked ((strLen.toNat + 3) / 4 * 4) rest

/-- A header entry. -/
def key (real : ℕ) (key length : UInt32) (bytes : List UInt8) : Scan :=
  match HeaderTypes.ofCode key with
  | some t => entry real bytes t
  | none =>
    if kMaxUnknownHeaderWords < length.toNat then ended else checked (length.toNat * 4) bytes

/-- Header entries. -/
def entries (real : ℕ) : ℕ → List UInt8 → Scan
  | 0, bytes => more bytes
  | n + 1, bytes =>
    field word bytes fun k rest =>
      field word rest fun length rest =>
        (key real k length rest).andThen (entries real n)

/-- A record whose type is known. -/
def record (real : ℕ) (versionNumber : UInt32) (bytes : List UInt8) : ObjectTypes → Scan
  | .material => unchecked (if 2 ≤ versionNumber then 64 else 60) bytes
  | .centers => field word bytes fun n rest =>
    if maxCenters < n.toNat then ended else unchecked (n.toNat * (3 * real)) rest
  | .header => field word bytes fun n rest =>
    if kMaxHeaderEntries < n.toNat then ended else entries real n.toNat rest
  | .triangles =>
    match (V3dTriangleGroup.scan real).run bytes with
    | some (true, rest) => more rest
    | _ => cut
  | t =>
    match objectSize real t with
    | some n => unchecked n bytes
    | none => more bytes

/-- A record. -/
def type (real : ℕ) (versionNumber objectType : UInt32) (bytes : List UInt8) : Scan :=
  match ObjectTypes.ofCode objectType with
  | some t => record real versionNumber bytes t
  | none => more bytes

/-- No record is cut. -/
def records (real : ℕ) (versionNumber : UInt32) : ℕ → List UInt8 → Bool
  | 0, _ => true
  | fuel + 1, bytes =>
    match word.run bytes with
    | none => true
    | some (objectType, rest) =>
      match type real versionNumber objectType rest with
      | more rest => records real versionNumber fuel rest
      | ended => true
      | cut => false

/-- A file may end where the word of a record would begin. -/
theorem records_of_none {real : ℕ} {versionNumber : UInt32} {bytes : List UInt8}
    (h : word.run bytes = none) (fuel : ℕ) :
    records real versionNumber (fuel + 1) bytes = true := by
  rw [records, h]

/-- One round of the scan. -/
theorem records_of_some {real : ℕ} {versionNumber objectType : UInt32} {bytes rest : List UInt8}
    (h : word.run bytes = some (objectType, rest)) (fuel : ℕ) :
    records real versionNumber (fuel + 1) bytes =
      match type real versionNumber objectType rest with
      | more rest => records real versionNumber fuel rest
      | ended => true
      | cut => false := by
  rw [records, h]

end Scan

/-- The file does not end inside a material, an object, the centers it announces, a light or a
header real, and no triangle group announces an excessive count, as far as the reader gets. -/
def wholeRecords (bytes : List UInt8) : Bool :=
  match word.run bytes with
  | none => true
  | some (versionNumber, rest) =>
    if versionNumber < 1 then true
    else
      match word.run rest with
      | none => true
      | some (doublePrecisionFlag, rest) =>
        Scan.records (realSize doublePrecisionFlag) versionNumber (bytes.length + 1) rest

/-! ### The scan follows the reader -/

section Follows

variable {α σ : Type} {ok stuck : σ → Prop}

/-- The result of a reading program and what the scan has found. After a cut either parsing is over,
or the scene stays as it is. -/
def Follows (ok stuck : σ → Prop) (r : (σ × Bool) × Stream) : Scan → Prop
  | .more rest => ok r.1.1 ∧ r.1.2 = true ∧ r.2 = ⟨rest, true⟩
  | .ended => ok r.1.1 ∧ (r.1.2 = false ∨ r.2.good = false)
  | .cut => ¬ ok r.1.1 ∧ (r.1.2 = false ∨ r.2.good = false ∨ stuck r.1.1)

/-- **A checked read** is followed by a `field` of the scan, and by all that comes after it. -/
theorem Follows.orStop {s : σ} (hs : ok s) {p : Parser α} {k : α → StateM Stream (σ × Bool)}
    {c : α → List UInt8 → Scan} (h : ∀ a rest, Follows ok stuck ((k a).run ⟨rest, true⟩) (c a rest))
    (bytes : List UInt8) :
    Follows ok stuck ((OkularV3d.orStop s p k).run ⟨bytes, true⟩) (.field p bytes c) := by
  rw [OkularV3d.orStop, StateT.run_bind, Scan.field]
  rcases hp : p.run bytes with _ | ⟨a, rest⟩
  · rw [Stream.read_of_none hp]
    exact ⟨hs, .inl rfl⟩
  · rw [Stream.read_of_some hp]
    exact h a rest

/-- A program that spoils the scene when its bytes are missing. -/
theorem Follows.unchecked {m : StateM Stream (σ × Bool)} {n : ℕ}
    (h : Takes m n (fun r => ok r.1 ∧ r.2 = true) (fun r => ¬ ok r.1)) (bytes : List UInt8) :
    Follows ok stuck (m.run ⟨bytes, true⟩) (.unchecked n bytes) := by
  rw [Scan.unchecked]
  by_cases hn : n ≤ bytes.length
  · rw [if_pos hn]
    obtain ⟨⟨hok, hgo⟩, hs⟩ := h.enough bytes hn
    exact ⟨hok, hgo, hs⟩
  · rw [if_neg hn]
    obtain ⟨hok, hs⟩ := h.short bytes (by omega)
    exact ⟨hok, .inr (.inl hs)⟩

/-- A program that leaves the scene as it is when its bytes are missing. -/
theorem Follows.checked {m : StateM Stream (σ × Bool)} {n : ℕ}
    (h : Takes m n (fun r => ok r.1 ∧ r.2 = true) (fun r => ok r.1)) (bytes : List UInt8) :
    Follows ok stuck (m.run ⟨bytes, true⟩) (.checked n bytes) := by
  rw [Scan.checked]
  by_cases hn : n ≤ bytes.length
  · rw [if_pos hn]
    obtain ⟨⟨hok, hgo⟩, hs⟩ := h.enough bytes hn
    exact ⟨hok, hgo, hs⟩
  · rw [if_neg hn]
    obtain ⟨hok, hs⟩ := h.short bytes (by omega)
    exact ⟨hok, .inr hs⟩

/-- A loop goes on after a round that is skipped, and nothing is read after any other. -/
theorem Follows.andThen {m : StateM Stream (σ × Bool)} {k : σ → StateM Stream (σ × Bool)}
    {s : Stream} {c : Scan} {c' : List UInt8 → Scan} (h : Follows ok (fun _ => False) (m.run s) c)
    (hidle : ∀ x, Idle (k x) (fun r => r.1 = x))
    (hmore : ∀ x rest, ok x → Follows ok (fun _ => False) ((k x).run ⟨rest, true⟩) (c' rest)) :
    Follows ok (fun _ => False) ((m >>= fun r => if r.2 then k r.1 else pure r).run s)
      (c.andThen c') := by
  rw [StateT.run_bind]
  generalize m.run s = r at h
  obtain ⟨⟨x, goOn⟩, s'⟩ := r
  change Follows ok _ ((if goOn then k x else pure (x, goOn)).run s') _
  have hstop (hover : goOn = false ∨ s'.good = false) :
      ∃ goOn' s'', (if goOn then k x else pure (x, goOn)).run s' = ((x, goOn'), s'') ∧
        (goOn' = false ∨ s''.good = false) := by
    rcases hover with rfl | hs
    · exact ⟨false, s', rfl, .inl rfl⟩
    · cases goOn with
      | false => exact ⟨false, s', rfl, .inl rfl⟩
      | true =>
        obtain ⟨hx, hs'⟩ := hidle x s' hs
        exact ⟨_, s', Prod.ext (Prod.ext hx rfl) hs', .inr hs⟩
  cases c with
  | more rest =>
    obtain ⟨hx, rfl, rfl⟩ := h
    exact hmore x rest hx
  | ended =>
    obtain ⟨goOn', s'', hrun, hover⟩ := hstop h.2
    rw [hrun]
    exact ⟨h.1, hover⟩
  | cut =>
    obtain ⟨goOn', s'', hrun, hover⟩ := hstop (h.2.imp_right (Or.resolve_right · id))
    rw [hrun]
    exact ⟨h.1, hover.imp_right .inl⟩

/-- The scene that a program changes may be part of a larger one. -/
theorem Follows.map {τ : Type} {ok' stuck' : τ → Prop} {f : σ → τ} {m : StateM Stream (σ × Bool)}
    {s : Stream} {c : Scan} (h : Follows ok (fun _ => False) (m.run s) c)
    (hf : ∀ x, ok' (f x) ↔ ok x) :
    Follows ok' stuck' ((m >>= fun r => pure (f r.1, r.2)).run s) c := by
  rw [StateT.run_bind]
  generalize m.run s = r at h
  obtain ⟨⟨x, goOn⟩, s'⟩ := r
  change Follows ok' stuck' ((f x, goOn), s') c
  cases c with
  | more rest => exact ⟨(hf x).mpr h.1, h.2⟩
  | ended => exact ⟨(hf x).mpr h.1, h.2⟩
  | cut => exact ⟨fun hx => h.1 ((hf x).mp hx), h.2.imp_right (Or.imp_right False.elim)⟩

/-- A read into a variable that keeps its value where the read fails. -/
theorem takes_assign {p : Parser α} {n : ℕ} (h : Sized p n) (old : α) :
    Takes (assign p old) n (fun _ => True) (fun _ => True) :=
  (Takes.read h).ret (fun _ _ => trivial) (fun _ _ => trivial)

/-- A checked read of several fields. -/
theorem takes_orStop {p : Parser α} {n : ℕ} (h : Sized p n) {s : σ} {f : α → σ} (hs : ok s)
    (hf : ∀ a, ok (f a)) :
    Takes (OkularV3d.orStop s p fun a => pure (f a, true)) n (fun r => ok r.1 ∧ r.2 = true)
      (fun r => ok r.1) where
  enough bytes hn := by
    obtain ⟨a, ha⟩ := h.run_eq_some hn
    rw [OkularV3d.orStop, StateT.run_bind, Stream.read_of_some ha]
    exact ⟨⟨hf a, rfl⟩, rfl⟩
  short bytes hn := by
    rw [OkularV3d.orStop, StateT.run_bind, Stream.read_of_none (h.run_eq_none hn)]
    exact ⟨hs, rfl⟩
  idle := (Idle.read p).bind fun a ha => by
    subst ha
    exact Idle.pure hs

end Follows

/-! ### The header -/

section Header

variable {D F : Type} [Xdr64 D] [Xdr32 F] [Rounding D F]

namespace V3dHeaderInfo

/-- The reals of a header. -/
def reals {R L G : Type} (info : V3dHeaderInfo R L G) : List R :=
  [info.minBound.x, info.minBound.y, info.minBound.z, info.maxBound.x, info.maxBound.y,
    info.maxBound.z, info.angleOfView, info.initialZoom, info.viewportShift.x,
    info.viewportShift.y, info.viewportMargin.x, info.viewportMargin.y, info.zoomFactor,
    info.zoomPinchFactor, info.zoomPinchCap, info.zoomStep, info.shiftHoldDistance,
    info.shiftWaitTime, info.vibrateTime]

/-- Every real and every light has been assigned. -/
def Decoded (info : LoadedInfo D F) : Prop := none ∉ info.reals ∧ none ∉ info.lights

omit [Xdr64 D] [Xdr32 F] [Rounding D F] in
/-- A header is decoded when each of its reals is. -/
theorem decoded_iff (info : LoadedInfo D F) :
    info.Decoded ↔
      ((info.minBound.x ≠ none ∧ info.minBound.y ≠ none ∧ info.minBound.z ≠ none) ∧
      (info.maxBound.x ≠ none ∧ info.maxBound.y ≠ none ∧ info.maxBound.z ≠ none) ∧
      info.angleOfView ≠ none ∧ info.initialZoom ≠ none ∧
      (info.viewportShift.x ≠ none ∧ info.viewportShift.y ≠ none) ∧
      (info.viewportMargin.x ≠ none ∧ info.viewportMargin.y ≠ none) ∧
      info.zoomFactor ≠ none ∧ info.zoomPinchFactor ≠ none ∧ info.zoomPinchCap ≠ none ∧
      info.zoomStep ≠ none ∧ info.shiftHoldDistance ≠ none ∧ info.shiftWaitTime ≠ none ∧
      info.vibrateTime ≠ none) ∧ none ∉ info.lights := by
  simp only [Decoded, reals, List.mem_cons, List.not_mem_nil, not_or, or_false, ne_comm, ne_eq]
  tauto

end V3dHeaderInfo

/-- A real of the header is there after a read that goes through, and absent after a failed one. -/
theorem takes_real (doublePrecision : UInt32) :
    Takes (Stream.read (readReal F doublePrecision : Parser D)) (realSize doublePrecision)
      (fun x => x ≠ none) (fun x => x = none) :=
  Takes.read (sized_real doublePrecision)

/-- A pair is two reals, either of which may be absent. -/
theorem takes_pair (doublePrecision : UInt32) :
    Takes (loadPair F doublePrecision : StateM Stream (Vec2 (Option D)))
      (2 * realSize doublePrecision)
      (fun v => v.x ≠ none ∧ v.y ≠ none) (fun v => ¬ (v.x ≠ none ∧ v.y ≠ none)) := by
  have hreal := takes_real (D := D) (F := F) doublePrecision
  refine Takes.cast ?_ (Nat.two_mul _).symm
  refine hreal.bind (fun x hx => ?_) (fun x hx => ?_)
  · exact hreal.ret (fun y hy => ⟨hx, hy⟩) (fun y hy h => h.2 hy)
  · exact hreal.idle.ret fun y _ h => h.1 hx

/-- The corners of the scene are triples of reals. -/
theorem takes_triple (doublePrecision : UInt32) :
    Takes (loadTriple F doublePrecision : StateM Stream (Vec3 (Option D)))
      (3 * realSize doublePrecision)
      (fun v => v.x ≠ none ∧ v.y ≠ none ∧ v.z ≠ none)
      (fun v => ¬ (v.x ≠ none ∧ v.y ≠ none ∧ v.z ≠ none)) := by
  have hreal := takes_real (D := D) (F := F) doublePrecision
  have h3 : realSize doublePrecision + (realSize doublePrecision + realSize doublePrecision)
      = 3 * realSize doublePrecision := by omega
  refine Takes.cast ?_ h3
  refine hreal.bind (fun x hx => ?_) (fun x hx => ?_)
  · refine hreal.bind (fun y hy => ?_) (fun y hy => ?_)
    · exact hreal.ret (fun z hz => ⟨hx, hy, hz⟩) (fun z hz h => h.2.2 hz)
    · exact hreal.idle.ret fun z _ h => h.2.1 hy
  · exact hreal.idle.bind fun y _ => hreal.idle.ret fun z _ h => h.1 hx

omit [Xdr64 D] [Rounding D F] in
theorem takes_rgba (old : Vec4 F) :
    Takes (assignRGBA old) 16 (fun _ => True) (fun _ => True) := by
  have hfloat (x : F) := takes_assign (sized_float (F := F)) x
  have hidle : ∀ x : F, Idle (assign readFloat x) (fun _ => True) := fun x => (hfloat x).idle
  refine (hfloat _).bind (fun r _ => (hfloat _).bind (fun g _ => (hfloat _).bind
    (fun b _ => (hfloat _).ret (fun _ _ => trivial) (fun _ _ => trivial)) ?_) ?_) ?_
  · exact fun b _ => (hidle _).ret fun _ _ => trivial
  · exact fun g _ => (hidle _).bind fun b _ => (hidle _).ret fun _ _ => trivial
  · exact fun r _ => (hidle _).bind fun g _ => (hidle _).bind fun b _ => (hidle _).ret
      fun _ _ => trivial

variable {stuck : LoadedInfo D F → Prop} {info : LoadedInfo D F}

omit [Xdr64 D] [Xdr32 F] [Rounding D F] in
/-- An entry read into a member keeps the header decoded. -/
theorem follows_member {α : Type} {m : StateM Stream α} {n : ℕ}
    (h : Takes m n (fun _ => True) (fun _ => True)) {set : α → LoadedInfo D F}
    (hset : ∀ a, (set a).Decoded) (bytes : List UInt8) :
    Follows V3dHeaderInfo.Decoded stuck ((m >>= fun a => pure (set a, true)).run ⟨bytes, true⟩)
      (.checked n bytes) :=
  Follows.checked (h.ret (fun a _ => ⟨hset a, rfl⟩) (fun a _ => hset a)) bytes

omit [Xdr64 D] [Xdr32 F] [Rounding D F] in
/-- An entry of reals leaves the header decoded exactly when it is decoded itself. -/
theorem follows_value {α : Type} {m : StateM Stream α} {n : ℕ} {P Q : α → Prop}
    (h : Takes m n P Q) {set : α → LoadedInfo D F} (hP : ∀ a, P a → (set a).Decoded)
    (hQ : ∀ a, Q a → ¬ (set a).Decoded) (bytes : List UInt8) :
    Follows V3dHeaderInfo.Decoded stuck ((m >>= fun a => pure (set a, true)).run ⟨bytes, true⟩)
      (.unchecked n bytes) :=
  Follows.unchecked (h.ret (fun a ha => ⟨hP a ha, rfl⟩) (fun a ha => hQ a ha)) bytes

/-- Characters come in words of four. -/
theorem sized_string (n : ℕ) : Sized (readString n) ((n + 3) / 4 * 4) := by
  have h : Sized (readString n) (n * 1 + ((n + 3) / 4 * 4 - n) * 1) :=
    (Sized.list sized_byte n).bind fun s => (Sized.list sized_byte _).ret fun _ => s
  exact h.cast (by omega)

/-- The payload of an entry with a known key. -/
theorem follows_entry (hinfo : info.Decoded) (doublePrecision : UInt32) (bytes : List UInt8)
    (t : HeaderTypes) :
    Follows V3dHeaderInfo.Decoded stuck ((loadEntry doublePrecision info t).run ⟨bytes, true⟩)
      (.entry (realSize doublePrecision) bytes t) := by
  have hword (old : UInt32) := takes_assign sized_word old
  have hreal := takes_real (D := D) (F := F) doublePrecision
  have hpair := takes_pair (D := D) (F := F) doublePrecision
  have htriple := takes_triple (D := D) (F := F) doublePrecision
  have hlight := Takes.read (sized_light (D := D) (F := F) doublePrecision)
  have h := (V3dHeaderInfo.decoded_iff info).mp hinfo
  cases t
  case canvasWidth | canvasHeight | absolute | orthographic =>
    refine follows_member (hword _) (fun _ => ?_) bytes
    exact hinfo
  case background =>
    refine follows_member (takes_rgba _) (fun _ => ?_) bytes
    exact hinfo
  case minBound | maxBound =>
    refine follows_value htriple (fun v hv => ?_) (fun v hv hd => hv ?_) bytes
    · rw [V3dHeaderInfo.decoded_iff]
      grind
    · rw [V3dHeaderInfo.decoded_iff] at hd
      grind
  case viewportShift | viewportMargin =>
    refine follows_value hpair (fun v hv => ?_) (fun v hv hd => hv ?_) bytes
    · rw [V3dHeaderInfo.decoded_iff]
      grind
    · rw [V3dHeaderInfo.decoded_iff] at hd
      grind
  case light =>
    refine follows_value hlight (fun l hl => ?_) (fun l hl hd => ?_) bytes
    · exact ⟨hinfo.1, by simpa using ⟨hinfo.2, hl.symm⟩⟩
    · exact hd.2 (by simp [hl])
  -- the name is refused by its length before it is read
  case image =>
    rw [loadEntry, loadImage, Scan.entry]
    refine Follows.orStop hinfo (fun strLen rest => ?_) bytes
    by_cases hlen : maxImageName < strLen.toNat
    · rw [if_pos hlen, if_pos hlen]
      exact ⟨hinfo, .inl rfl⟩
    · rw [if_neg hlen, if_neg hlen]
      refine Follows.checked (takes_orStop (sized_string _) hinfo fun _ => ?_) rest
      exact hinfo
  all_goals
    refine follows_value hreal (fun x hx => ?_) (fun x hx hd => ?_) bytes
    · rw [V3dHeaderInfo.decoded_iff]
      grind
    · rw [V3dHeaderInfo.decoded_iff] at hd
      grind

omit [Xdr64 D] [Xdr32 F] [Rounding D F] in
/-- The payload of an entry with an unknown key, on a stream that has not failed. -/
theorem skipEntry_run (measured : Bool) (length : UInt32) (info : LoadedInfo D F)
    (bytes : List UInt8) :
    (skipEntry measured length info).run ⟨bytes, true⟩ =
      (if maxWords measured ⟨bytes, true⟩ < length.toNat then pure (info, false)
        else orStop info (list word length.toNat) fun _ => pure (info, true)).run
          ⟨bytes, true⟩ := by
  rw [skipEntry, StateT.run_bind]
  rfl

/-- Measuring the rest of the file can only lower the limit of words. -/
theorem maxWords_le (measured : Bool) (s : Stream) :
    maxWords measured s ≤ kMaxUnknownHeaderWords := by
  rw [maxWords]
  split_ifs <;> omega

/-- What is refused for the rest of the file alone would have run into its end. -/
theorem length_lt_of_maxWords_lt {measured : Bool} {bytes : List UInt8} {length : UInt32}
    (h : maxWords measured ⟨bytes, true⟩ < length.toNat)
    (hk : ¬ kMaxUnknownHeaderWords < length.toNat) : bytes.length < length.toNat * 4 := by
  rw [maxWords] at h
  split_ifs at h
  · change min (bytes.length / 4) _ < _ at h
    omega
  · omega

omit [Xdr64 D] [Xdr32 F] [Rounding D F] in
/-- An unknown entry: where the size of the stream is measured the reader stops before it skips too
much, and otherwise while it skips. -/
theorem follows_skip (hinfo : info.Decoded) (measured : Bool) (length : UInt32)
    (bytes : List UInt8) :
    Follows V3dHeaderInfo.Decoded stuck ((skipEntry measured length info).run ⟨bytes, true⟩)
      (if kMaxUnknownHeaderWords < length.toNat then .ended
        else .checked (length.toNat * 4) bytes) := by
  rw [skipEntry_run]
  have hlimit := maxWords_le measured ⟨bytes, true⟩
  by_cases hmax : maxWords measured ⟨bytes, true⟩ < length.toNat
  · rw [if_pos hmax]
    by_cases hk : kMaxUnknownHeaderWords < length.toNat
    · rw [if_pos hk]
      exact ⟨hinfo, .inl rfl⟩
    · have hshort := length_lt_of_maxWords_lt hmax hk
      rw [if_neg hk, Scan.checked, if_neg (by omega)]
      exact ⟨hinfo, .inl rfl⟩
  · rw [if_neg hmax, if_neg (by omega)]
    exact Follows.checked
      (takes_orStop (Sized.list sized_word _) hinfo fun _ => hinfo) bytes

/-- An entry, known or not. -/
theorem follows_key (hinfo : info.Decoded) (measured : Bool)
    (doublePrecision key length : UInt32) (bytes : List UInt8) :
    Follows V3dHeaderInfo.Decoded stuck
      ((loadKey measured doublePrecision key length info).run ⟨bytes, true⟩)
      (.key (realSize doublePrecision) key length bytes) := by
  rw [loadKey, Scan.key]
  cases HeaderTypes.ofCode key with
  | some t => exact follows_entry hinfo doublePrecision bytes t
  | none => exact follows_skip hinfo measured length bytes

/-- On a failed stream the loop over the entries reads nothing. -/
theorem idle_entries (measured : Bool) (doublePrecision : UInt32) (n : ℕ) :
    Idle (loadEntries measured doublePrecision n info) (fun r => r.1 = info) := by
  cases n with
  | zero => exact Idle.pure rfl
  | succ n =>
    refine (Idle.read word).bind fun key hkey => ?_
    subst hkey
    exact Idle.pure rfl

/-- The entries, as many as were announced. -/
theorem follows_entries (hinfo : info.Decoded) (measured : Bool) (doublePrecision : UInt32) (n : ℕ)
    (bytes : List UInt8) :
    Follows V3dHeaderInfo.Decoded (fun _ => False)
      ((loadEntries measured doublePrecision n info).run ⟨bytes, true⟩)
      (.entries (realSize doublePrecision) n bytes) := by
  induction n generalizing info bytes with
  | zero => exact ⟨hinfo, rfl, rfl⟩
  | succ n ih =>
    refine Follows.orStop hinfo (fun key rest => ?_) bytes
    refine Follows.orStop hinfo (fun length rest => ?_) rest
    exact (follows_key hinfo measured doublePrecision key length rest).andThen
      (fun _ => idle_entries measured doublePrecision n) (fun _ rest' hinfo' => ih hinfo' rest')

/-- **The header**: the scan follows its entries, up to a count above the limit. -/
theorem follows_header (hinfo : info.Decoded) (measured : Bool) (doublePrecision : UInt32)
    (bytes : List UInt8) :
    Follows V3dHeaderInfo.Decoded (fun _ => False)
      ((loadHeader measured doublePrecision info).run ⟨bytes, true⟩)
      (.field word bytes fun n rest =>
        if kMaxHeaderEntries < n.toNat then .ended
        else .entries (realSize doublePrecision) n.toNat rest) := by
  refine Follows.orStop hinfo (fun n rest => ?_) bytes
  by_cases hn : kMaxHeaderEntries < n.toNat
  · rw [if_pos hn, if_pos hn]
    exact ⟨hinfo, .inl rfl⟩
  · rw [if_neg hn, if_neg hn]
    exact follows_entries hinfo measured doublePrecision n.toNat rest

end Header

/-! ### Records -/

section Records

variable {D F : Type} [Xdr64 D] [Xdr32 F] [Rounding D F]

/-- Every element of the scene and every header value has been assigned. -/
def Loaded.Decoded (file : Loaded D F) : Prop :=
  none ∉ file.objects ∧ none ∉ file.materials ∧ none ∉ file.centers ∧ file.headerInfo.Decoded

instance [DecidableEq D] [DecidableEq F] (file : Loaded D F) : Decidable file.Decoded :=
  inferInstanceAs (Decidable (_ ∧ _ ∧ _ ∧ (_ ∧ _)))

/-- Centers are assigned one after the other, and the first whose read fails stays in the scene. -/
theorem follows_fillCenters (doublePrecision : UInt32) (old : List (Option (Vec3 D)))
    (bytes : List UInt8) :
    Follows (fun centers => none ∉ centers) (fun _ => False)
      ((fillCenters F doublePrecision old).run ⟨bytes, true⟩)
      (.unchecked (old.length * (3 * realSize doublePrecision)) bytes) := by
  induction old generalizing bytes with
  | nil =>
    rw [List.length_nil, Nat.zero_mul]
    exact ⟨List.not_mem_nil, rfl, rfl⟩
  | cons o old ih =>
    have htriple := sized_triple (D := D) (F := F) doublePrecision
    rw [fillCenters, StateT.run_bind, List.length_cons, Nat.succ_mul, Nat.add_comm]
    by_cases hlen : 3 * realSize doublePrecision ≤ bytes.length
    · obtain ⟨c, hc⟩ := htriple.run_eq_some hlen
      rw [Stream.read_of_some hc, Scan.unchecked_add hlen]
      refine (ih (bytes.drop _)).map fun centers => ?_
      rw [List.mem_cons, not_or]
      exact and_iff_right (Option.some_ne_none c).symm
    · rw [Stream.read_of_none (htriple.run_eq_none (by omega)), Scan.unchecked, if_neg (by omega)]
      exact ⟨fun h => h List.mem_cons_self, .inl rfl⟩

variable [Scalar D] [Scalar F]

omit [Scalar F] in
/-- The centers of billboards. None of them is absent unless the file ends among them. -/
theorem follows_centers {centers : List (Option (Vec3 D))} (hcenters : none ∉ centers)
    (doublePrecision : UInt32) (bytes : List UInt8) :
    Follows (fun centers => none ∉ centers) (fun _ => False)
      ((loadCenters F doublePrecision centers).run ⟨bytes, true⟩)
      (.field word bytes fun n rest =>
        if maxCenters < n.toNat then .ended
        else .unchecked (n.toNat * (3 * realSize doublePrecision)) rest) := by
  refine Follows.orStop (s := centers) hcenters (fun n rest => ?_) bytes
  by_cases hn : maxCenters < n.toNat
  · rw [if_pos hn, if_pos hn]
    exact ⟨hcenters, .inl rfl⟩
  · rw [if_neg hn, if_neg hn]
    by_cases h0 : 0 < n
    · rw [if_pos h0]
      have hfill := follows_fillCenters (F := F) doublePrecision
        (resizeCenters n.toNat centers) rest
      rwa [length_resizeCenters] at hfill
    · have hn0 : n.toNat = 0 := by
        rw [UInt32.lt_iff_toNat_lt] at h0
        exact Nat.eq_zero_of_not_pos h0
      rw [if_neg h0, hn0, Nat.zero_mul]
      exact ⟨hcenters, rfl, rfl⟩

/-- An object that was cut off stays in the list as an absent one. -/
theorem none_mem_append {α : Type} (as : List (Option α)) : none ∈ as ++ [none] :=
  List.mem_append_right as List.mem_cons_self

/-- A whole object leaves a list without absent ones as it was in that. -/
theorem none_not_mem_append {α : Type} {as : List (Option α)} (h : none ∉ as) (a : α) :
    none ∉ as ++ [some a] := by
  simpa using h

/-- A file that already holds an object with unassigned fields. -/
def Loaded.Spoiled (file : Loaded D F) : Prop := none ∈ file.objects

variable {file : Loaded D F}

omit [Xdr64 D] [Xdr32 F] [Rounding D F] [Scalar D] [Scalar F] in
/-- A class all of whose fields are read. -/
theorem follows_whole (hfile : file.Decoded) {p : Parser (Option (V3dObject D F))} {n : ℕ}
    (hp : WholeSized p n) (bytes : List UInt8) :
    Follows Loaded.Decoded Loaded.Spoiled ((Stream.read p >>= fun object =>
        pure ({ file with objects := file.objects ++ [object.join] }, true)).run ⟨bytes, true⟩)
      (.unchecked n bytes) := by
  have hrun := hp bytes
  rw [skip_run] at hrun
  rw [StateT.run_bind, Scan.unchecked]
  rcases hread : p.run bytes with _ | ⟨object, rest⟩ <;> rw [hread] at hrun
  · by_cases hn : n ≤ bytes.length
    · rw [if_pos hn] at hrun
      cases hrun
    · rw [Stream.read_of_none hread, if_neg hn]
      exact ⟨fun h => h.1 (none_mem_append file.objects), .inr (.inl rfl)⟩
  · by_cases hn : n ≤ bytes.length
    · rw [if_pos hn] at hrun
      obtain ⟨hsome, rfl⟩ : object.isSome = true ∧ rest = bytes.drop n := by
        cases hrun with | some h => exact h
      obtain ⟨o, rfl⟩ := Option.isSome_iff_exists.mp hsome
      rw [Stream.read_of_some hread, if_pos hn]
      exact ⟨⟨none_not_mem_append hfile.1 o, hfile.2⟩, rfl, rfl⟩
    · rw [if_neg hn] at hrun
      cases hrun

omit [Scalar D] [Scalar F] in
/-- A triangle group: where it is given up, its object stays in the scene. -/
theorem follows_group (hfile : file.Decoded) (doublePrecision : UInt32) (bytes : List UInt8) :
    Follows Loaded.Decoded Loaded.Spoiled
      ((Stream.read (V3dTriangleGroup.read doublePrecision >>= fun group =>
          pure (group.map V3dObject.triangles)) >>= fun object =>
        pure ({ file with objects := file.objects ++ [object.join] }, true)).run ⟨bytes, true⟩)
      (match (V3dTriangleGroup.scan (realSize doublePrecision)).run bytes with
        | some (true, rest) => .more rest
        | _ => .cut) := by
  have hrun := V3dTriangleGroup.agree_read (D := D) (F := F) doublePrecision bytes
  rw [StateT.run_bind]
  -- the parser and the scan of its words fail together, which leaves two of the four cases
  rcases hread : (V3dTriangleGroup.read doublePrecision :
      Parser (Option (V3dTriangleGroup D F))).run bytes with _ | ⟨group, rest⟩ <;>
    rcases hscan : (V3dTriangleGroup.scan (realSize doublePrecision)).run bytes with
      _ | ⟨whole, rest'⟩ <;>
    rw [hread, hscan] at hrun
  · rw [Stream.read_of_none (by rw [StateT.run_bind, hread]; rfl)]
    exact ⟨fun h => h.1 (none_mem_append file.objects), .inr (.inl rfl)⟩
  · cases hrun
  · cases hrun
  · obtain ⟨rfl, rfl⟩ : group.isSome = whole ∧ rest = rest' := by
      cases hrun with | some h => exact h
    have hobject : (V3dTriangleGroup.read doublePrecision >>= fun group =>
        pure (group.map V3dObject.triangles) : Parser (Option (V3dObject D F))).run bytes =
        some (group.map V3dObject.triangles, rest) := by
      rw [StateT.run_bind, hread]
      rfl
    rw [Stream.read_of_some hobject]
    cases group with
    | none =>
      have hspoiled := none_mem_append file.objects
      exact ⟨fun h => h.1 hspoiled, .inr (.inr hspoiled)⟩
    | some group => exact ⟨⟨none_not_mem_append hfile.1 _, hfile.2⟩, rfl, rfl⟩

/-- An object other than a triangle group is an unchecked field of its size. -/
theorem record_object {real n : ℕ} {t : ObjectTypes} (h : objectSize real t = some n)
    (versionNumber : UInt32) (bytes : List UInt8) :
    Scan.record real versionNumber bytes t = .unchecked n bytes := by
  cases t <;> first | contradiction | (rw [← Option.some.inj h]; rfl)

/-- Every record: what the reader does with it is what the scan finds. -/
theorem follows_record (hfile : file.Decoded) (measured : Bool)
    (versionNumber doublePrecision : UInt32) (bytes : List UInt8) (t : ObjectTypes) :
    Follows Loaded.Decoded Loaded.Spoiled
      ((loadRecord measured versionNumber doublePrecision file t).run ⟨bytes, true⟩)
      (.record (realSize doublePrecision) versionNumber bytes t) := by
  obtain ⟨hobjects, hmaterials, hcenters, hheader⟩ := hfile
  have hfile : file.Decoded := ⟨hobjects, hmaterials, hcenters, hheader⟩
  cases hsize : objectSize (realSize doublePrecision) t with
  | some n =>
    obtain ⟨p, hread, hp⟩ := wholeSized_object (D := D) (F := F) hsize
    rw [loadRecord_object hread, record_object hsize]
    exact follows_whole hfile hp bytes
  | none =>
    cases t <;> try contradiction
    case material =>
      have hread := Takes.read (sized_material (F := F) versionNumber)
      refine Follows.unchecked (hread.ret (fun m hm => ?_) fun m hm hd => ?_) bytes
      · obtain ⟨m, rfl⟩ := Option.ne_none_iff_exists'.mp hm
        exact ⟨⟨hobjects, none_not_mem_append hmaterials m, hcenters, hheader⟩, rfl⟩
      · subst hm
        exact hd.2.1 (none_mem_append file.materials)
    case centers =>
      refine (follows_centers (F := F) hcenters doublePrecision bytes).map
        (f := fun centers => { file with centers }) fun centers => ?_
      exact ⟨fun h => h.2.2.1, fun h => ⟨hobjects, hmaterials, h, hheader⟩⟩
    case header =>
      refine (follows_header hheader measured doublePrecision bytes).map
        (f := fun headerInfo => { file with headerInfo }) fun info => ?_
      exact ⟨fun h => h.2.2.2, fun h => ⟨hobjects, hmaterials, hcenters, h⟩⟩
    case triangles => exact follows_group hfile doublePrecision bytes
    all_goals exact ⟨hfile, rfl, rfl⟩

/-- **One record**: what the reader does with it is followed by the scan, by cases on its type. -/
theorem follows_type (hfile : file.Decoded) (measured : Bool)
    (versionNumber doublePrecision objectType : UInt32) (bytes : List UInt8) :
    Follows Loaded.Decoded Loaded.Spoiled
      ((loadType measured versionNumber doublePrecision objectType file).run ⟨bytes, true⟩)
      (.type (realSize doublePrecision) versionNumber objectType bytes) := by
  rw [loadType, Scan.type]
  cases ObjectTypes.ofCode objectType with
  | some t => exact follows_record hfile measured versionNumber doublePrecision bytes t
  | none => exact ⟨hfile, rfl, rfl⟩

/-- Objects are only ever appended. -/
theorem objects_loadType (measured : Bool) (versionNumber doublePrecision objectType : UInt32)
    (file : Loaded D F) (s : Stream) :
    ∃ os, ((loadType measured versionNumber doublePrecision objectType file).run s).1.1.objects =
      file.objects ++ os := by
  rw [loadType]
  cases ObjectTypes.ofCode objectType with
  | none => exact ⟨[], (List.append_nil _).symm⟩
  | some t =>
    cases hread : (V3dObject.read doublePrecision t : Option (Parser (Option (V3dObject D F)))) with
    | some p =>
      change ∃ os, ((loadRecord measured versionNumber doublePrecision file t).run s).1.1.objects =
        file.objects ++ os
      rw [loadRecord_object hread]
      exact ⟨_, rfl⟩
    | none =>
      cases t <;> first | contradiction | exact ⟨[], (List.append_nil _).symm⟩

/-- A file that holds an object with unassigned fields keeps it. -/
theorem spoiled_loadRecords (hfile : file.Spoiled) (measured : Bool)
    (versionNumber doublePrecision : UInt32) (fuel : ℕ) (s : Stream) :
    ((loadRecords measured versionNumber doublePrecision fuel file).run s).1.Spoiled := by
  induction fuel generalizing file s with
  | zero => exact hfile
  | succ fuel ih =>
    rw [loadRecords, StateT.run_bind]
    generalize (Stream.read word).run s = r
    obtain ⟨objectType, s'⟩ := r
    cases objectType with
    | none => exact hfile
    | some objectType =>
      change Loaded.Spoiled ((loadType measured versionNumber doublePrecision objectType file
        >>= _).run s').1
      obtain ⟨os, hos⟩ := objects_loadType measured versionNumber doublePrecision objectType file s'
      rw [StateT.run_bind]
      generalize (loadType measured versionNumber doublePrecision objectType file).run s' = r at hos
      obtain ⟨⟨file', goOn⟩, s''⟩ := r
      have hfile' : file'.Spoiled := by
        change file'.objects = _ at hos
        rw [Loaded.Spoiled, hos]
        exact List.mem_append_left os hfile
      cases goOn with
      | false => exact hfile'
      | true => exact ih hfile' s''

/-- On a failed stream the loop over the records reads nothing. -/
theorem idle_loadRecords (measured : Bool) (versionNumber doublePrecision : UInt32) (fuel : ℕ) :
    Idle (loadRecords measured versionNumber doublePrecision fuel file) (fun f => f = file) := by
  cases fuel with
  | zero => exact Idle.pure rfl
  | succ fuel =>
    refine (Idle.read word).bind fun objectType h => ?_
    subst h
    exact Idle.pure rfl

/-- **The loop**: it leaves a decoded scene exactly when the scan finds no record cut. -/
theorem decoded_loadRecords (hfile : file.Decoded) (measured : Bool)
    (versionNumber doublePrecision : UInt32) (fuel : ℕ) (bytes : List UInt8) :
    ((loadRecords measured versionNumber doublePrecision fuel file).run ⟨bytes, true⟩).1.Decoded ↔
      Scan.records (realSize doublePrecision) versionNumber fuel bytes = true := by
  induction fuel generalizing file bytes with
  | zero => exact iff_of_true hfile rfl
  | succ fuel ih =>
    rw [loadRecords, StateT.run_bind]
    rcases hword : word.run bytes with _ | ⟨objectType, rest⟩
    · rw [Stream.read_of_none hword, Scan.records_of_none hword]
      exact iff_of_true hfile rfl
    · rw [Stream.read_of_some hword, Scan.records_of_some hword]
      change Loaded.Decoded ((loadType measured versionNumber doublePrecision objectType file
        >>= _).run ⟨rest, true⟩).1 ↔ _
      have htype := follows_type hfile measured versionNumber doublePrecision objectType rest
      rw [StateT.run_bind]
      generalize (loadType measured versionNumber doublePrecision objectType file).run ⟨rest, true⟩
        = r at htype
      obtain ⟨⟨file', goOn⟩, s⟩ := r
      change Loaded.Decoded ((if goOn then loadRecords measured versionNumber doublePrecision fuel
        file' else pure file').run s).1 ↔ _
      -- After the last record that is looked at, nothing more is read.
      have hstop (hover : goOn = false ∨ s.good = false) :
          ((if goOn then loadRecords measured versionNumber doublePrecision fuel file'
            else pure file').run s).1 = file' := by
        rcases hover with rfl | hs
        · rfl
        · cases goOn with
          | false => rfl
          | true => exact (idle_loadRecords measured versionNumber doublePrecision fuel s hs).1
      cases hc : Scan.type (realSize doublePrecision) versionNumber objectType rest with
      | more rest' =>
        rw [hc] at htype
        obtain ⟨hfile', rfl, rfl⟩ := htype
        exact ih hfile' rest'
      | ended =>
        rw [hc] at htype
        rw [hstop htype.2]
        exact iff_of_true htype.1 rfl
      | cut =>
        rw [hc] at htype
        refine iff_of_false (fun hdecoded => ?_) Bool.false_ne_true
        obtain ⟨hnot, hover⟩ := htype
        rcases hover with hgo | hs | hspoiled
        · rw [hstop (.inl hgo)] at hdecoded
          exact hnot hdecoded
        · rw [hstop (.inr hs)] at hdecoded
          exact hnot hdecoded
        · cases goOn with
          | false => exact hnot hdecoded
          | true => exact hdecoded.1 (spoiled_loadRecords hspoiled measured versionNumber
              doublePrecision fuel s)

/-! ### Enough rounds -/

section Rounds

variable {α σ : Type}

theorem shrinks_assign {p : Parser α} (hp : Parser.Shrinks p) (old : α) : Shrinks (assign p old) :=
  (Shrinks.read hp).bind fun _ => Shrinks.pure _

/-- A checked read that goes through leaves fewer bytes, and a failed one stops. -/
theorem shrinks_orStop {p : Parser α} (hp : Parser.Shrinks p) (s : σ)
    {k : α → StateM Stream (σ × Bool)} (hk : ∀ a, Shrinks (k a)) : Shrinks (orStop s p k) := by
  refine (Shrinks.read hp).bind fun a => ?_
  cases a with
  | none => exact Shrinks.pure _
  | some a => exact hk a

theorem shrinks_ite {c : Prop} [Decidable c] {m m' : StateM Stream α} (h : Shrinks m)
    (h' : Shrinks m') : Shrinks (if c then m else m') := by
  by_cases hc : c
  · rwa [if_pos hc]
  · rwa [if_neg hc]

omit [Scalar D] [Scalar F]

/-- No entry gives bytes back. -/
theorem shrinks_entry (doublePrecision : UInt32) (info : LoadedInfo D F) (t : HeaderTypes) :
    Shrinks (loadEntry doublePrecision info t) := by
  have hword := sized_word.shrinks
  have hfloat := (sized_float (F := F)).shrinks
  have hreal := Shrinks.read (sized_real (D := D) (F := F) doublePrecision).shrinks
  have hlight := Shrinks.read (sized_light (D := D) (F := F) doublePrecision).shrinks
  cases t
  case canvasWidth | canvasHeight | absolute | orthographic =>
    exact (shrinks_assign hword _).bind fun _ => Shrinks.pure _
  case background =>
    refine Shrinks.bind ?_ fun _ => Shrinks.pure _
    exact (shrinks_assign hfloat _).bind fun _ => (shrinks_assign hfloat _).bind fun _ =>
      (shrinks_assign hfloat _).bind fun _ => (shrinks_assign hfloat _).bind fun _ =>
      Shrinks.pure _
  case minBound | maxBound =>
    refine Shrinks.bind ?_ fun _ => Shrinks.pure _
    exact hreal.bind fun _ => hreal.bind fun _ => hreal.bind fun _ => Shrinks.pure _
  case viewportShift | viewportMargin =>
    refine Shrinks.bind ?_ fun _ => Shrinks.pure _
    exact hreal.bind fun _ => hreal.bind fun _ => Shrinks.pure _
  case light => exact hlight.bind fun _ => Shrinks.pure _
  case image =>
    refine shrinks_orStop sized_doubleWord.shrinks _ fun strLen => ?_
    exact shrinks_ite (Shrinks.pure _)
      (shrinks_orStop (sized_string _).shrinks _ fun _ => Shrinks.pure _)
  all_goals exact hreal.bind fun _ => Shrinks.pure _

theorem shrinks_key (measured : Bool) (doublePrecision key length : UInt32)
    (info : LoadedInfo D F) : Shrinks (loadKey measured doublePrecision key length info) := by
  rw [loadKey]
  cases HeaderTypes.ofCode key with
  | some t => exact shrinks_entry doublePrecision info t
  | none =>
    refine Shrinks.bind (fun _ => le_rfl) fun s => ?_
    exact shrinks_ite (Shrinks.pure _)
      (shrinks_orStop (Sized.list sized_word _).shrinks _ fun _ => Shrinks.pure _)

/-- Nor do the entries together. -/
theorem shrinks_entries (measured : Bool) (doublePrecision : UInt32) (n : ℕ)
    (info : LoadedInfo D F) : Shrinks (loadEntries measured doublePrecision n info) := by
  induction n generalizing info with
  | zero => exact Shrinks.pure _
  | succ n ih =>
    refine shrinks_orStop sized_word.shrinks _ fun key => ?_
    refine shrinks_orStop sized_word.shrinks _ fun length => ?_
    exact (shrinks_key _ _ _ _ _).bind fun r => shrinks_ite (ih r.1) (Shrinks.pure r)

theorem shrinks_fillCenters (doublePrecision : UInt32) (old : List (Option (Vec3 D))) :
    Shrinks (fillCenters F doublePrecision old) := by
  induction old with
  | nil => exact Shrinks.pure _
  | cons o old ih =>
    refine (Shrinks.read (sized_triple doublePrecision).shrinks).bind fun c => ?_
    cases c with
    | none => exact Shrinks.pure _
    | some c => exact ih.bind fun _ => Shrinks.pure _

omit [Xdr64 D] [Rounding D F] in
theorem shrinks_groupColors : Parser.Shrinks (V3dTriangleGroup.readColors (F := F)) := by
  refine sized_word.shrinks.bind fun nC => ?_
  by_cases h : 0 < V3dTriangleGroup.capped nC
  · rw [if_pos h]
    exact (Sized.list sized_rgba _).shrinks.bind fun _ => sized_word.shrinks.bind fun _ =>
      Parser.Shrinks.pure _
  · rw [if_neg h]
    exact Parser.Shrinks.pure _

/-- Nor does a triangle group, whatever its counts. -/
theorem shrinks_group (doublePrecision : UInt32) :
    Parser.Shrinks (V3dTriangleGroup.read doublePrecision :
      Parser (Option (V3dTriangleGroup D F))) := by
  have hword := sized_word.shrinks
  have htriples (n : ℕ) := (Sized.list (sized_triple (D := D) (F := F) doublePrecision) n).shrinks
  refine hword.bind fun nI => hword.bind fun nP => ?_
  by_cases h : V3dTriangleGroup.maxCount < nI.toNat ∨ V3dTriangleGroup.maxCount < nP.toNat
  · rw [if_pos h]
    exact Parser.Shrinks.pure _
  · rw [if_neg h]
    refine Parser.Shrinks.bind ?_ fun _ => Parser.Shrinks.pure _
    exact (htriples _).bind fun _ => hword.bind fun _ => (htriples _).bind fun _ =>
      hword.bind fun _ => shrinks_groupColors.bind fun _ =>
      (Sized.list (V3dTriangleGroup.sized_triangle _ _) _).shrinks.bind fun _ =>
      hword.bind fun _ => hword.bind fun _ => Parser.Shrinks.pure _

/-- No object gives bytes back. -/
theorem shrinks_object {doublePrecision : UInt32} {t : ObjectTypes}
    {p : Parser (Option (V3dObject D F))} (h : V3dObject.read doublePrecision t = some p) :
    Parser.Shrinks p := by
  cases hsize : objectSize (realSize doublePrecision) t with
  | some n =>
    obtain ⟨p', hp', hwhole⟩ := wholeSized_object (D := D) (F := F) hsize
    obtain rfl := Option.some.inj (h.symm.trans hp')
    have hsized : Sized p n := Agree.mono hwhole fun _ _ _ => trivial
    exact hsized.shrinks
  | none =>
    cases t <;> try contradiction
    obtain rfl := Option.some.inj h
    exact (shrinks_group doublePrecision).bind fun _ => Parser.Shrinks.pure _

variable [Scalar D] [Scalar F]

/-- **A record never gives bytes back**, so the loop over the records ends. -/
theorem shrinks_type (measured : Bool) (versionNumber doublePrecision objectType : UInt32)
    (file : Loaded D F) :
    Shrinks (loadType measured versionNumber doublePrecision objectType file) := by
  rw [loadType]
  cases ObjectTypes.ofCode objectType with
  | none => exact Shrinks.pure _
  | some t =>
    cases hread : (V3dObject.read doublePrecision t : Option (Parser (Option (V3dObject D F)))) with
    | some p =>
      change Shrinks (loadRecord measured versionNumber doublePrecision file t)
      rw [loadRecord_object hread]
      exact (Shrinks.read (shrinks_object hread)).bind fun _ => Shrinks.pure _
    | none =>
      cases t <;> try contradiction
      case material =>
        exact (Shrinks.read (sized_material _).shrinks).bind fun _ => Shrinks.pure _
      case centers =>
        refine Shrinks.bind ?_ fun _ => Shrinks.pure _
        refine shrinks_orStop sized_word.shrinks _ fun n => shrinks_ite (Shrinks.pure _) ?_
        exact shrinks_ite (shrinks_fillCenters _ _) (Shrinks.pure _)
      case header =>
        refine Shrinks.bind ?_ fun _ => Shrinks.pure _
        exact shrinks_orStop sized_word.shrinks _ fun n =>
          shrinks_ite (Shrinks.pure _) (shrinks_entries _ _ _ _)
      all_goals exact Shrinks.pure _

/-- Every round reads a word, so more rounds than there are bytes change nothing. -/
theorem loadRecords_fuel (measured : Bool) (versionNumber doublePrecision : UInt32) {fuel : ℕ}
    {s : Stream} (h : s.rest.length < fuel) (file : Loaded D F) :
    (loadRecords measured versionNumber doublePrecision (fuel + 1) file).run s =
      (loadRecords measured versionNumber doublePrecision fuel file).run s := by
  induction fuel generalizing s file with
  | zero => omega
  | succ fuel ih =>
    rw [loadRecords, loadRecords, StateT.run_bind, StateT.run_bind]
    obtain ⟨bytes, good⟩ := s
    cases good with
    | false =>
      rw [Stream.read_of_failed rfl]
      rfl
    | true =>
      by_cases hlen : 4 ≤ bytes.length
      · obtain ⟨objectType, hword⟩ := sized_word.run_eq_some hlen
        rw [Stream.read_of_some hword]
        have hshrinks := shrinks_type measured versionNumber doublePrecision objectType file
          ⟨bytes.drop 4, true⟩
        change (loadType _ _ _ _ _ >>= _).run _ = (loadType _ _ _ _ _ >>= _).run _
        rw [StateT.run_bind, StateT.run_bind]
        generalize (loadType measured versionNumber doublePrecision objectType file).run
          ⟨bytes.drop 4, true⟩ = r at hshrinks
        obtain ⟨⟨file', goOn⟩, s'⟩ := r
        have hs' : s'.rest.length < fuel := by
          change s'.rest.length ≤ (bytes.drop 4).length at hshrinks
          rw [List.length_drop] at hshrinks
          change bytes.length < fuel + 1 at h
          omega
        cases goOn with
        | false => rfl
        | true => exact ih hs' file'
      · rw [Stream.read_of_none (sized_word.run_eq_none (by omega))]
        rfl

end Rounds

end Records

/-! ### The whole file -/

section File

variable {D F : Type} [Xdr64 D] [Xdr32 F] [Rounding D F] [Scalar D] [Scalar F]

omit [Xdr64 D] [Xdr32 F] [Rounding D F] in
/-- A new file has nothing absent. -/
theorem decoded_init : (Loaded.init D F).Decoded := by
  refine ⟨List.not_mem_nil, List.not_mem_nil, List.not_mem_nil, ?_, List.not_mem_nil⟩
  simp [Loaded.init, V3dHeaderInfo.default, V3dHeaderInfo.reals]

omit [Xdr64 D] [Xdr32 F] [Rounding D F] in
theorem decoded_withFlags (versionNumber doublePrecisionFlag : UInt32) :
    (Loaded.withFlags versionNumber doublePrecisionFlag : Loaded D F).Decoded := decoded_init

/-- **Truncation**: the scene that `V3dFile::load` leaves is decoded exactly when no record of the
stream is cut. -/
theorem load_decoded_iff (measured : Bool) (bytes : List UInt8) :
    (load measured bytes : Loaded D F × Stream).1.Decoded ↔ wholeRecords bytes = true := by
  rw [load, wholeRecords]
  rcases hversion : word.run bytes with _ | ⟨versionNumber, rest⟩
  · rw [loadFrom, StateT.run_bind, Stream.read_of_none hversion]
    exact iff_of_true (decoded_init (D := D) (F := F)) rfl
  · dsimp only
    by_cases hold : versionNumber < 1
    · rw [loadFrom_of_old hversion hold, if_pos hold]
      exact iff_of_true (decoded_init (D := D) (F := F)) rfl
    · rw [if_neg hold]
      rcases hflag : word.run rest with _ | ⟨doublePrecisionFlag, rest'⟩
      · rw [loadFrom_of_unflagged hversion hold hflag]
        exact iff_of_true (decoded_init (D := D) (F := F)) rfl
      · rw [loadFrom_of_flags hversion hold hflag]
        exact decoded_loadRecords (decoded_withFlags _ _) measured
          versionNumber doublePrecisionFlag _
          rest'

end File

/-- A single-precision file of version 2 that ends inside its first material: the material is in the
scene, with fields that no read has assigned. -/
theorem not_load_decoded_material :
    ¬ (load true [0, 0, 0, 2, 0, 0, 0, 0, 0, 0, 0, 1, 0, 0, 0, 1, 0, 0] :
      Loaded Int64 Int32 × Stream).1.Decoded := by
  decide +kernel

end OkularV3d
