import OkularV3d.File.Alignment
import OkularV3d.Lib.Metered

/-!
# The work of loading a file

What `V3dFile::load` spends on a file is counted read by read. Its loops are of two kinds: those
over the records, the header entries, the words of an unknown entry, the characters of a name and
the centers stop at the first failed read, and those of a triangle group go on to the counts of the
file, which are limited by `maxCount`. `bounded_load` bounds what any file costs.

`Work.load` has the control flow of the source and no values but those that decide it. It does with
the stream what `load` does (`alike_load`).

* `costs_type` is one record and `costs_load` the whole file, with the rules of
  `OkularV3d.Lib.Metered`.
* `limit` is the constant of the bound; it is made of the caps of the code.
* `mirrors_type` and `alike_load` say that nothing is counted that is not done, and the other way
  round.
-/

namespace OkularV3d

open Wire Wire.Parser

/-- What the variables that the constructor of a triangle group does not initialise happen to
hold. -/
structure Garbage where
  explicitNI : UInt32
  nC : UInt32
  explicitCI : UInt32

namespace Work

open Metered

/-- Values of `size` bytes each, read one by one. -/
def values (n size : ℕ) : Metered Unit :=
  times n (Metered.read (skip size) >>= fun _ => pure ())

/-- The fields of a record in their order: how many there are, and of how many bytes each is. -/
def fields : List (ℕ × ℕ) → Metered Unit
  | [] => pure ()
  | (n, size) :: fs => values n size >>= fun _ => fields fs

/-- The bytes of fields. -/
def size (fs : List (ℕ × ℕ)) : ℕ := (fs.map fun f => f.1 * f.2).sum

/-- How many fields there are. -/
def count (fs : List (ℕ × ℕ)) : ℕ := (fs.map Prod.fst).sum

/-! ### Objects -/

/-- The fields that the constructor of an object reads. -/
def objectFields (real : ℕ) : ObjectTypes → Option (List (ℕ × ℕ))
  | .line => some [(6, real), (2, 4)]
  | .triangle => some [(9, real), (2, 4)]
  | .quad | .curve => some [(12, real), (2, 4)]
  | .bezierTriangle => some [(30, real), (2, 4)]
  | .bezierPatch => some [(48, real), (2, 4)]
  | .triangleColor => some [(9, real), (2, 4), (12, 4)]
  | .quadColor => some [(12, real), (2, 4), (16, 4)]
  | .bezierTriangleColor => some [(30, real), (2, 4), (12, 4)]
  | .bezierPatchColor => some [(48, real), (2, 4), (16, 4)]
  | .disk | .halfSphere => some [(4, real), (2, 4), (2, real)]
  | .cylinder => some [(5, real), (2, 4), (2, real), (1, 4)]
  | .tube => some [(13, real), (3, 4)]
  | .sphere => some [(4, real), (2, 4)]
  | .pixel => some [(4, real), (1, 4)]
  | .material | .transform | .element | .centers | .header | .lineColor | .curveColor | .triangles
  | .animation => none

/-- An array of triples: it is resized, and then read. -/
def triples (real n : ℕ) : Metered Unit := alloc n >>= fun _ => times n (values 3 real)

/-- The colours of a triangle group that has any, and `nC > 0 && explicitCI`. -/
def someColors (garbage : Garbage) (nC : ℕ) : Metered Bool :=
  if 0 < nC then
    alloc nC >>= fun _ => times nC (values 4 4) >>= fun _ =>
      Metered.read word >>= fun explicitCI => pure (explicitCI.getD garbage.explicitCI != 0)
  else pure false

/-- The colours of a triangle group. -/
def colors (garbage : Garbage) : Metered Bool :=
  Metered.read word >>= fun nC =>
    someColors garbage (V3dTriangleGroup.capped (nC.getD garbage.nC))

/-- The indices of a triangle group, and the two words at its end. -/
def indices (nI : UInt32) (explicitNI explicitCI : Bool) : Metered Unit :=
  alloc (3 * nI.toNat) >>= fun _ =>
    times nI.toNat
      (values (3 + (if explicitNI then 3 else 0) + (if explicitCI then 3 else 0)) 4) >>= fun _ =>
        values 2 4

/-- What follows the two counts of a group that is not given up. -/
def groupBody (garbage : Garbage) (real : ℕ) (nI nP : UInt32) : Metered Unit :=
  triples real nP.toNat >>= fun _ =>
    Metered.read word >>= fun nN =>
      triples real (V3dTriangleGroup.capped (nN.getD 0)) >>= fun _ =>
        Metered.read word >>= fun explicitNI =>
          colors garbage >>= fun explicitCI =>
            indices nI (explicitNI.getD garbage.explicitNI != 0) explicitCI

/-- `V3dTriangleGroup::V3dTriangleGroup`. A read that fails leaves a count of points or normals
0. -/
def group (garbage : Garbage) (real : ℕ) : Metered Unit :=
  Metered.read word >>= fun nI =>
    Metered.read word >>= fun nP =>
      if V3dTriangleGroup.maxCount < (nI.getD 0).toNat ∨
          V3dTriangleGroup.maxCount < (nP.getD 0).toNat then pure ()
      else groupBody garbage real (nI.getD 0) (nP.getD 0)

/-! ### The header -/

/-- The fields of a header entry of a known key. -/
def entryFields (real : ℕ) : HeaderTypes → List (ℕ × ℕ)
  | .canvasWidth | .canvasHeight | .absolute | .orthographic => [(1, 4)]
  | .background => [(4, 4)]
  | .minBound | .maxBound => [(3, real)]
  | .viewportShift | .viewportMargin => [(2, real)]
  | .light => [(3, real), (3, 4)]
  | .angleOfView | .initialZoom | .zoomFactor | .zoomPinchFactor | .zoomPinchCap | .zoomStep
  | .shiftHoldDistance | .shiftWaitTime | .vibrateTime => [(1, real)]
  | .image => []

/-- One character. -/
def readByte : Metered Unit := Metered.read byte >>= fun _ => pure ()

/-- The `IMAGE` entry. -/
def image : Metered Bool :=
  Metered.orStop doubleWord fun strLen =>
    if maxImageName < strLen.toNat then pure false
    else
      alloc strLen.toNat >>= fun _ => timesWhileGood strLen.toNat readByte >>= fun goOn =>
        if goOn then timesWhileGood ((strLen.toNat + 3) / 4 * 4 - strLen.toNat) readByte
        else pure false

/-- A header entry of a known key. -/
def entry (real : ℕ) : HeaderTypes → Metered Bool
  | .image => image
  | .light => (fields (entryFields real .light) >>= fun _ => alloc 1) >>= fun _ => pure true
  | t => fields (entryFields real t) >>= fun _ => pure true

/-- An entry of an unknown key. -/
def skipEntry (measured : Bool) (length : UInt32) : Metered Bool :=
  get >>= fun s =>
    if maxWords measured s.toStream < length.toNat then pure false
    else timesWhileGood length.toNat (Metered.read word >>= fun _ => pure ())

/-- A header entry. -/
def key (measured : Bool) (real : ℕ) (key length : UInt32) : Metered Bool :=
  match HeaderTypes.ofCode key with
  | some t => entry real t
  | none => skipEntry measured length

/-- The loop over the header entries. -/
def entries (measured : Bool) (real : ℕ) : ℕ → Metered Bool :=
  Metered.rounds word fun k => Metered.orStop word fun length => key measured real k length

/-- The `HEADER` record. -/
def header (measured : Bool) (real : ℕ) : Metered Bool :=
  Metered.orStop word fun headerEntryCount =>
    if kMaxHeaderEntries < headerEntryCount.toNat then pure false
    else entries measured real headerEntryCount.toNat

/-! ### Records -/

/-- The `CENTERS` record. -/
def centers (real : ℕ) : Metered Bool :=
  Metered.orStop word fun centersLength =>
    if maxCenters < centersLength.toNat then pure false
    else if 0 < centersLength then
      alloc centersLength.toNat >>= fun _ => timesWhileGood centersLength.toNat (values 3 real)
    else pure true

/-- A record whose type is known. Its object is added to the scene. -/
def record (garbage : Garbage) (measured : Bool) (versionNumber : UInt32) (real : ℕ) :
    ObjectTypes → Metered Bool
  | .material =>
    (fields [(if 2 ≤ versionNumber then 16 else 15, 4)] >>= fun _ => alloc 1) >>= fun _ => pure true
  | .centers => centers real
  | .header => header measured real
  | .triangles => (group garbage real >>= fun _ => alloc 1) >>= fun _ => pure true
  | t =>
    match objectFields real t with
    | some fs => (fields fs >>= fun _ => alloc 1) >>= fun _ => pure true
    | none => pure true

/-- A record. -/
def type (garbage : Garbage) (measured : Bool) (versionNumber : UInt32) (real : ℕ)
    (objectType : UInt32) : Metered Bool :=
  match ObjectTypes.ofCode objectType with
  | some t => record garbage measured versionNumber real t
  | none => pure true

/-- `V3dFile::load`. -/
def load (garbage : Garbage) (measured : Bool) (fuel : ℕ) : Metered Bool :=
  Metered.orStop word fun versionNumber =>
    if versionNumber < 1 then pure false
    else Metered.orStop word fun doublePrecisionFlag =>
      Metered.rounds word (type garbage measured versionNumber (realSize doublePrecisionFlag)) fuel

/-! ### Costs -/

theorem sized_skip (n : ℕ) : Sized (skip n) n := Agree.mono (Agree.refl _) fun _ _ _ => trivial

/-- Values are paid for by the bytes they take. -/
theorem costs_values {size : ℕ} (hsize : 0 < size) (n : ℕ) :
    Costs (values n size) (n * size) 0 n := by
  have hvalue := (Costs.read (sized_skip size) hsize).ret fun _ => ()
  exact (hvalue.times n).cast rfl (Nat.mul_zero n) (Nat.mul_one n)

/-- So are the fields of a record. -/
theorem costs_fields {fs : List (ℕ × ℕ)} (hfs : ∀ f ∈ fs, 0 < f.2) :
    Costs (fields fs) (size fs) 0 (count fs) := by
  induction fs with
  | nil => exact Costs.pure ()
  | cons f fs ih =>
    obtain ⟨hf, hfs⟩ := List.forall_mem_cons.mp hfs
    refine ((costs_values hf f.1).bind fun _ => ih hfs).cast ?_ rfl ?_
    · simp [size]
    · simp [count]

/-- The points of a group are allocated before they are read, up to their limit. -/
theorem costs_triples {real : ℕ} (hreal : 0 < real) (n : ℕ) :
    Costs (triples real n) 0 n (3 * n) := by
  have htriple := (Costs.alloc n).bind fun _ => (costs_values hreal 3).times n
  have hgain : (n : ℤ) * 1 ≤ n * ((3 : ℕ) * real) :=
    mul_le_mul_of_nonneg_left (by omega) (Int.natCast_nonneg n)
  refine htriple.mono ?_ (by omega) (by omega) (by omega)
  omega

/-- No count exceeds its limit. -/
theorem capped_le (n : UInt32) : V3dTriangleGroup.capped n ≤ V3dTriangleGroup.maxCount := by
  rw [V3dTriangleGroup.capped]
  split_ifs <;> omega

/-- A group whose colours are announced allocates and reads them, failed or not. -/
theorem costs_someColors (garbage : Garbage) (nC : ℕ) :
    Costs (someColors garbage nC) 0 nC (4 * nC + 1) := by
  have hcolor : Costs (values 4 4) (4 * 4) 0 4 := costs_values (by omega) 4
  have hexplicitCI := (Costs.read sized_word (by omega)).ret
    fun explicitCI => explicitCI.getD garbage.explicitCI != 0
  rw [someColors]
  split_ifs
  · have hcolors := (Costs.alloc nC).bind fun _ => (hcolor.times nC).bind fun _ => hexplicitCI
    exact hcolors.mono (by omega) (by omega) (by omega) (by omega)
  · exact (Costs.pure false).mono le_rfl (by omega) (Nat.zero_le _) (Nat.zero_le _)

/-- The colours of a group, announced or not. -/
theorem costs_colors (garbage : Garbage) :
    Costs (colors garbage) 0 V3dTriangleGroup.maxCount (4 * V3dTriangleGroup.maxCount + 2) := by
  have hsome (nC : Option UInt32) :
      Costs (someColors garbage (V3dTriangleGroup.capped (nC.getD garbage.nC))) 0
        V3dTriangleGroup.maxCount (4 * V3dTriangleGroup.maxCount + 1) := by
    have hle := capped_le (nC.getD garbage.nC)
    exact (costs_someColors garbage _).mono le_rfl (by omega) hle (by omega)
  have hcolors := (Costs.read sized_word (by omega)).bind hsome
  exact hcolors.mono (by omega) (by omega) (by omega) (by omega)

/-- The index triples: three of each triangle at most. -/
theorem costs_indices {nI : UInt32} (hnI : nI.toNat ≤ V3dTriangleGroup.maxCount)
    (explicitNI explicitCI : Bool) :
    Costs (indices nI explicitNI explicitCI) 8 (3 * V3dTriangleGroup.maxCount)
      (9 * V3dTriangleGroup.maxCount + 2) := by
  have hwords : Costs (values 2 4) (2 * 4) 0 2 := costs_values (by omega) 2
  have htriangle : Costs
      (values (3 + (if explicitNI then 3 else 0) + (if explicitCI then 3 else 0)) 4) 12 0 9 := by
    refine (costs_values (by omega) _).mono ?_ (by omega) le_rfl ?_ <;> split_ifs <;> omega
  have hindices := (Costs.alloc (3 * nI.toNat)).bind fun _ => (htriangle.times nI.toNat).bind
    fun _ => hwords
  exact hindices.mono (by omega) (by omega) (by omega) (by omega)

/-- **What follows the counts of a group** has a fixed cost after a failure. -/
theorem costs_groupBody (garbage : Garbage) {real : ℕ} (hreal : 0 < real) {nI nP : UInt32}
    (hnI : nI.toNat ≤ V3dTriangleGroup.maxCount) (hnP : nP.toNat ≤ V3dTriangleGroup.maxCount) :
    Costs (groupBody garbage real nI nP) 16 (6 * V3dTriangleGroup.maxCount)
      (19 * V3dTriangleGroup.maxCount + 6) := by
  have hword := Costs.read sized_word (by omega)
  have htriples {n : ℕ} (hn : n ≤ V3dTriangleGroup.maxCount) :
      Costs (triples real n) 0 V3dTriangleGroup.maxCount (3 * V3dTriangleGroup.maxCount) :=
    (costs_triples hreal n).mono le_rfl (by omega) hn (by omega)
  have hbody := (htriples hnP).bind fun _ => hword.bind fun nN => (htriples (capped_le
    (nN.getD 0))).bind fun _ => hword.bind fun explicitNI => (costs_colors garbage).bind fun
    explicitCI => costs_indices hnI (explicitNI.getD garbage.explicitNI != 0) explicitCI
  exact hbody.mono (by omega) (by omega) (by omega) (by omega)

/-- A triangle group: its loops do not look at the stream, and are limited by `maxCount`. -/
theorem costs_group (garbage : Garbage) {real : ℕ} (hreal : 0 < real) :
    Costs (group garbage real) 8 (6 * V3dTriangleGroup.maxCount)
      (19 * V3dTriangleGroup.maxCount + 8) := by
  have hword := Costs.read sized_word (by omega)
  have hrest (nI nP : UInt32) : Costs (if V3dTriangleGroup.maxCount < nI.toNat ∨
      V3dTriangleGroup.maxCount < nP.toNat then pure () else groupBody garbage real nI nP)
      0 (6 * V3dTriangleGroup.maxCount) (19 * V3dTriangleGroup.maxCount + 6) := by
    split_ifs with hmax
    · exact (Costs.pure ()).mono le_rfl (by omega) (Nat.zero_le _) (Nat.zero_le _)
    · have hbody := costs_groupBody garbage hreal (Nat.not_lt.mp fun h => hmax (.inl h))
        (Nat.not_lt.mp fun h => hmax (.inr h))
      exact hbody.mono (by omega) (by omega) le_rfl le_rfl
  have hgroup := hword.bind fun nI => hword.bind fun nP => hrest (nI.getD 0) (nP.getD 0)
  exact hgroup.mono (by omega) (by omega) (by omega) (by omega)

theorem costs_readByte : Costs readByte 1 0 1 := (Costs.read sized_byte (by omega)).ret _

/-- The name of an image has a limit of its own. -/
theorem costs_image : Costs image 0 maxImageName 3 := by
  refine Costs.orStop sized_doubleWord (by omega) fun strLen => ?_
  split_ifs with hmax
  · exact (Costs.pure false).mono le_rfl (by simp) (Nat.zero_le _) (Nat.zero_le _)
  · have hloop (n : ℕ) := costs_readByte.timesWhileGood (by omega) n
    have hpad (n : ℕ) (goOn : Bool) :
        Costs (if goOn then timesWhileGood n readByte else pure false) 0 0 1 :=
      Costs.ite ((hloop n).mono (by omega) (by omega) le_rfl le_rfl)
        ((Costs.pure false).mono le_rfl le_rfl le_rfl (Nat.zero_le _))
    have hname := (Costs.alloc strLen.toNat).bind fun _ => (hloop strLen.toNat).bind
      (hpad ((strLen.toNat + 3) / 4 * 4 - strLen.toNat))
    exact hname.mono (by omega) (by omega) (by omega) (by omega)

theorem entryFields_pos {real : ℕ} (hreal : 0 < real) (t : HeaderTypes) :
    ∀ f ∈ entryFields real t, 0 < f.2 := by
  cases t <;> simp [entryFields, hreal]

/-- An entry has at most six reals. -/
theorem count_entryFields (real : ℕ) (t : HeaderTypes) : count (entryFields real t) ≤ 6 := by
  cases t <;> simp [entryFields, count]

/-- An entry with a known key. -/
theorem costs_entry {real : ℕ} (hreal : 0 < real) (t : HeaderTypes) :
    Costs (entry real t) 0 maxImageName 6 := by
  have hfields := (costs_fields (entryFields_pos hreal t)).ret fun _ => true
  have hcount := count_entryFields real t
  cases t
  case image => exact costs_image.mono le_rfl (by simp) le_rfl (by omega)
  case light =>
    have hlight := ((costs_fields (entryFields_pos hreal .light)).bind fun _ => Costs.alloc 1).ret
      fun _ => true
    exact hlight.mono (by simp [size, entryFields]; omega) (by simp) (by decide) hcount
  all_goals exact hfields.mono (by omega) (by simp) (Nat.zero_le _) hcount

/-- An entry with an unknown key costs its bytes, or one failed read. -/
theorem costs_skipEntry (measured : Bool) (length : UInt32) :
    Costs (skipEntry measured length) 0 0 1 := by
  intro s
  have hrun : (skipEntry measured length).run s =
      (if maxWords measured s.toStream < length.toNat then pure false
        else timesWhileGood length.toNat (Metered.read word >>= fun _ => pure ())).run s := rfl
  rw [hrun]
  split_ifs
  · exact ((Costs.pure false).mono le_rfl le_rfl le_rfl (Nat.zero_le _)) s
  · have hword := (Costs.read sized_word (by omega)).ret fun _ => ()
    exact ((hword.timesWhileGood (by omega) length.toNat).mono (by omega) le_rfl le_rfl le_rfl) s

/-- An entry of any key. -/
theorem costs_key (measured : Bool) {real : ℕ} (hreal : 0 < real) (k length : UInt32) :
    Costs (key measured real k length) 0 maxImageName 6 := by
  rw [key]
  cases HeaderTypes.ofCode k with
  | some t => exact costs_entry hreal t
  | none => exact (costs_skipEntry measured length).mono le_rfl (by simp) (Nat.zero_le _) (by omega)

/-- The entries stop at the first failed read, however many were announced. -/
theorem costs_entries (measured : Bool) {real : ℕ} (hreal : 0 < real) (n : ℕ) :
    Costs (entries measured real n) 0 maxImageName 8 :=
  Costs.rounds sized_word (by omega) (fun k => Costs.orStop sized_word (by omega) fun length =>
    costs_key measured hreal k length) n

/-- The header, with the read of its count. -/
theorem costs_header (measured : Bool) {real : ℕ} (hreal : 0 < real) :
    Costs (header measured real) 0 maxImageName 9 := by
  refine Costs.orStop sized_word (by omega) fun n => Costs.ite ?_ (costs_entries measured hreal _)
  exact (Costs.pure false).mono le_rfl (by simp) (Nat.zero_le _) (Nat.zero_le _)

/-- The centers stop at the first failed read; their list is allocated up to a limit. -/
theorem costs_centers {real : ℕ} (hreal : 0 < real) :
    Costs (centers real) 0 maxCenters 4 := by
  have hpure (goOn : Bool) : Costs (pure goOn : Metered Bool) 0 maxCenters 3 :=
    (Costs.pure goOn).mono le_rfl (by simp) (Nat.zero_le _) (Nat.zero_le _)
  refine Costs.orStop sized_word (by omega) fun n => ?_
  split_ifs with hmax
  · exact hpure false
  · have htriple := (costs_values hreal 3).timesWhileGood (by omega) n.toNat
    have hgain : (n.toNat : ℤ) * 1 ≤ n.toNat * ((3 : ℕ) * real) :=
      mul_le_mul_of_nonneg_left (by omega) (Int.natCast_nonneg _)
    have hfill := (Costs.alloc n.toNat).bind fun _ => htriple
    exact hfill.mono (by omega) (by simp) (by omega) (by omega)
  · exact hpure true

/-! ### Objects -/

theorem objectFields_pos {real : ℕ} (hreal : 0 < real) {t : ObjectTypes} {fs : List (ℕ × ℕ)}
    (h : objectFields real t = some fs) : ∀ f ∈ fs, 0 < f.2 := by
  cases t <;> simp only [objectFields, Option.some.injEq, reduceCtorEq] at h <;> subst h <;>
    simp [hreal]

/-- The constructor of an object reads its size. -/
theorem size_objectFields (real : ℕ) (t : ObjectTypes) :
    (objectFields real t).map size = objectSize real t := by
  cases t <;> simp [objectFields, objectSize, size] <;> omega

/-- No object has more fields than a coloured Bézier patch, and each has at least one byte. -/
theorem count_objectFields {real : ℕ} {t : ObjectTypes} {fs : List (ℕ × ℕ)}
    (h : objectFields real t = some fs) : count fs ≤ 66 ∧ 1 ≤ size fs := by
  cases t <;> simp only [objectFields, Option.some.injEq, reduceCtorEq] at h <;> subst h <;>
    simp [count, size] <;> omega

/-- What one record costs, when the file ends in it. -/
theorem costs_record (garbage : Garbage) (measured : Bool) (versionNumber : UInt32) {real : ℕ}
    (hreal : 0 < real) (t : ObjectTypes) :
    Costs (record garbage measured versionNumber real t) 0 (6 * V3dTriangleGroup.maxCount + 1)
      (19 * V3dTriangleGroup.maxCount + 8) := by
  have hwhole {fs : List (ℕ × ℕ)} (hfs : ∀ f ∈ fs, 0 < f.2) (hcount : count fs ≤ 66)
      (hsize : 1 ≤ size fs) :
      Costs ((fields fs >>= fun _ => alloc 1) >>= fun _ => pure true : Metered Bool) 0
        (6 * V3dTriangleGroup.maxCount + 1) (19 * V3dTriangleGroup.maxCount + 8) := by
    have hfields := ((costs_fields hfs).bind fun _ => Costs.alloc 1).ret fun _ => true
    exact hfields.mono (by omega) (by omega) (by omega) (hcount.trans (by decide))
  have hpure : Costs (pure true : Metered Bool) 0
      (6 * V3dTriangleGroup.maxCount + 1) (19 * V3dTriangleGroup.maxCount + 8) :=
    (Costs.pure true).mono le_rfl (by omega) (Nat.zero_le _) (Nat.zero_le _)
  cases hobject : objectFields real t with
  | some fs =>
    obtain ⟨hcount, hsize⟩ := count_objectFields hobject
    have hrecord : record garbage measured versionNumber real t =
        ((fields fs >>= fun _ => alloc 1) >>= fun _ => pure true) := by
      cases t <;> first | contradiction | (rw [← Option.some.inj hobject]; rfl)
    rw [hrecord]
    exact hwhole (objectFields_pos hreal hobject) hcount hsize
  | none =>
    cases t <;> try contradiction
    case material =>
      refine hwhole (by simp) ?_ ?_ <;> simp [count, size] <;> split_ifs <;> omega
    case centers =>
      exact (costs_centers hreal).mono le_rfl (by omega) (by decide) (by decide)
    case header =>
      exact (costs_header measured hreal).mono le_rfl (by omega) (by decide) (by decide)
    case triangles =>
      have hgroup := ((costs_group garbage hreal).bind fun _ => Costs.alloc 1).ret fun _ => true
      exact hgroup.mono (by omega) (by omega) (by omega) (by omega)
    all_goals exact hpure

theorem realSize_pos (doublePrecision : UInt32) : 0 < realSize doublePrecision := by
  rw [realSize]
  split_ifs <;> omega

/-- **One record**, of whatever type. -/
theorem costs_type (garbage : Garbage) (measured : Bool) (versionNumber : UInt32) {real : ℕ}
    (hreal : 0 < real) (objectType : UInt32) :
    Costs (type garbage measured versionNumber real objectType) 0
      (6 * V3dTriangleGroup.maxCount + 1) (19 * V3dTriangleGroup.maxCount + 8) := by
  rw [type]
  cases ObjectTypes.ofCode objectType with
  | some t => exact costs_record garbage measured versionNumber hreal t
  | none => exact (Costs.pure true).mono le_rfl (by omega) (Nat.zero_le _) (Nat.zero_le _)

/-- **The whole file**: after the first failed read no more is spent than by one record. -/
theorem costs_load (garbage : Garbage) (measured : Bool) (fuel : ℕ) :
    Costs (load garbage measured fuel) 0 (6 * V3dTriangleGroup.maxCount + 1)
      (19 * V3dTriangleGroup.maxCount + 11) := by
  refine Costs.orStop sized_word (by omega) fun versionNumber => Costs.ite ?_ ?_
  · exact (Costs.pure false).mono le_rfl (by omega) (Nat.zero_le _) (Nat.zero_le _)
  · exact Costs.orStop sized_word (by omega) fun doublePrecisionFlag =>
      Costs.rounds sized_word (by omega) (fun objectType =>
        costs_type garbage measured versionNumber (realSize_pos _) objectType) fuel

/-- What loading a file spends: no more reads than bytes until one fails, and no more elements than
bytes, but for what one record that is cut may cost. -/
theorem spent_load (garbage : Garbage) (measured : Bool) (fuel : ℕ) (bytes : List UInt8) :
    let s := ((load garbage measured fuel).run (.start bytes)).2
    s.reads ≤ bytes.length + 1 ∧ s.late ≤ 19 * V3dTriangleGroup.maxCount + 11 ∧
      s.elements ≤ bytes.length + (6 * V3dTriangleGroup.maxCount + 1) := by
  intro s
  have hload : Meter.Within _ _ _ _ s := costs_load garbage measured fuel (.start bytes)
  refine ⟨?_, ?_, ?_⟩
  · have h := hload.reads
    simp only [Meter.start, Meter.credit, if_true] at h
    omega
  · have h := hload.late
    simp only [Meter.start] at h
    split_ifs at h <;> omega
  · have h := hload.elements
    simp only [Meter.start] at h
    split_ifs at h <;> omega

/-- The constant of `bounded_load`. -/
def limit : ℕ := 19 * V3dTriangleGroup.maxCount + 12

/-- What loading `n` bytes may spend: reads and elements in proportion to the bytes, and a fixed
number of reads after the first one that has failed. -/
structure Bounded (n : ℕ) (s : Meter) : Prop where
  reads : s.reads + s.late ≤ limit * (n + 1)
  elements : s.elements ≤ limit * (n + 1)
  late : s.late ≤ limit

/-- **Loading is bounded by the file**, whatever counts are written in it. -/
theorem bounded_load (garbage : Garbage) (measured : Bool) (fuel : ℕ) (bytes : List UInt8) :
    Bounded bytes.length ((load garbage measured fuel).run (.start bytes)).2 := by
  obtain ⟨hreads, hlate, helements⟩ := spent_load garbage measured fuel bytes
  have hbytes : bytes.length ≤ limit * bytes.length := Nat.le_mul_of_pos_left _ (by decide)
  have hlimit : limit * (bytes.length + 1) = limit * bytes.length + limit := Nat.mul_succ _ _
  constructor
  · rw [hlimit]
    unfold limit at hbytes ⊢
    omega
  · rw [hlimit]
    unfold limit at hbytes ⊢
    omega
  · unfold limit
    omega

/-- Every round of the loop over the records reads a word, so as many as there are bytes are
enough. -/
theorem load_fuel (garbage : Garbage) (measured : Bool) {fuel fuel' : ℕ} {bytes : List UInt8}
    (h : bytes.length < fuel) (h' : bytes.length < fuel') :
    (load garbage measured fuel).run (.start bytes) =
      (load garbage measured fuel').run (.start bytes) := by
  refine orStop_congr fun versionNumber s hs => ?_
  have hversion := length_lt_of_read_eq_some sized_word (by omega) hs
  change s.rest.length < bytes.length at hversion
  split_ifs
  · rfl
  · refine orStop_congr fun doublePrecisionFlag s' hs' => ?_
    have hflag := length_lt_of_read_eq_some sized_word (by omega) hs'
    exact rounds_fuel sized_word (by omega) (fun objectType =>
      costs_type garbage measured versionNumber (realSize_pos _) objectType) (by omega) (by omega)

/-! ### The loader does the same with its stream -/

section Mirrors

variable {D F : Type} [Xdr64 D] [Xdr32 F] [Rounding D F]

omit [Xdr64 D] [Xdr32 F] [Rounding D F] in
/-- Values take their bytes, and leave a failed stream failed. -/
theorem takes_values (n k : ℕ) : Metered.Takes (values n k) (n * k) ∧ StaysFailed (values n k) := by
  have hread : Metered.Takes (Metered.read (skip k)) k := Metered.Takes.read (sized_skip k)
  have hvalue := hread.bind (fun _ => StaysFailed.pure ()) fun _ => Metered.Takes.pure ()
  exact hvalue.times ((StaysFailed.read _).bind fun _ => StaysFailed.pure ()) n

omit [Xdr64 D] [Xdr32 F] [Rounding D F] in
/-- So do the fields of a record. -/
theorem takes_fields (fs : List (ℕ × ℕ)) :
    Metered.Takes (fields fs) (size fs) ∧ StaysFailed (fields fs) := by
  induction fs with
  | nil => exact ⟨Metered.Takes.pure (), StaysFailed.pure ()⟩
  | cons f fs ih =>
    obtain ⟨hvalues, hfailed⟩ := takes_values f.1 f.2
    refine ⟨(hvalues.bind (fun _ => ih.2) fun _ => ih.1).cast ?_, hfailed.bind fun _ => ih.2⟩
    simp [size]

omit [Xdr64 D] [Xdr32 F] [Rounding D F] in
/-- The fields of an object, which is then added to the scene. -/
theorem takes_object (fs : List (ℕ × ℕ)) :
    Metered.Takes (fields fs >>= fun _ => alloc 1) (size fs) :=
  fun s hs => (takes_fields fs).1 s hs

omit [Xdr64 D] [Xdr32 F] [Rounding D F] in
/-- So do the points of a group. -/
theorem takes_triples (real n : ℕ) :
    Metered.Takes (triples real n) (n * (3 * real)) ∧ StaysFailed (triples real n) := by
  obtain ⟨hvalues, hfailed⟩ := takes_values 3 real
  obtain ⟨htimes, hfailed⟩ := hvalues.times hfailed n
  exact ⟨htimes.alloc n, (StaysFailed.alloc n).bind fun _ => hfailed⟩

omit [Xdr64 D] [Rounding D F] in
/-- The colours are counted as they are read, and found out to be there or not alike. -/
theorem follows_colors (garbage : Garbage) :
    Metered.Follows (colors garbage) (V3dTriangleGroup.readColors : Parser (List (Vec4 F) × Bool))
      (fun explicitCI r => explicitCI = r.2) := by
  refine Follows.bind (Follows.read word) (fun _ => (costs_someColors garbage _).staysFailed) ?_
  rintro _ nC rfl
  rw [Option.getD_some, someColors]
  split_ifs
  · have hcolors := ((takes_values 4 4).1.times (takes_values 4 4).2
      (V3dTriangleGroup.capped nC)).1.follows (Sized.list (sized_rgba (F := F)) _)
    refine (Follows.bind hcolors (fun _ => ?_) fun _ colors _ => ?_).alloc _
    · exact (StaysFailed.read word).bind fun _ => StaysFailed.pure _
    · refine Follows.bind (Follows.read word) (fun _ => StaysFailed.pure _) ?_
      rintro _ explicitCI rfl
      exact Follows.pure rfl
  · exact Follows.pure rfl

omit [Xdr64 D] [Xdr32 F] [Rounding D F] in
/-- The index triples take as many bytes as the flags say. -/
theorem takes_indices (nI : UInt32) (explicitNI explicitCI : Bool) :
    Metered.Takes (indices nI explicitNI explicitCI)
      (nI.toNat * V3dTriangleGroup.indicesSize explicitNI explicitCI + 8) := by
  have hsize : (3 + (if explicitNI then 3 else 0) + (if explicitCI then 3 else 0)) * 4 =
      V3dTriangleGroup.indicesSize explicitNI explicitCI := by
    cases explicitNI <;> cases explicitCI <;> rfl
  rw [← hsize]
  obtain ⟨htriangle, hfailed⟩ := takes_values
    (3 + (if explicitNI then 3 else 0) + (if explicitCI then 3 else 0)) 4
  obtain ⟨htriangles, -⟩ := htriangle.times hfailed nI.toNat
  exact (htriangles.bind (fun _ => (takes_values 2 4).2) fun _ => (takes_values 2 4).1).alloc _

/-- **What follows the counts of a group** is counted as it is read. -/
theorem follows_groupBody (garbage : Garbage) (doublePrecision : UInt32) {nI nP : UInt32}
    (hnI : nI.toNat ≤ V3dTriangleGroup.maxCount) :
    Metered.Follows (groupBody garbage (realSize doublePrecision) nI nP)
      (V3dTriangleGroup.readBody doublePrecision nI nP : Parser (V3dTriangleGroup D F))
      (fun _ _ => True) := by
  have htriples (n : ℕ) := (takes_triples (realSize doublePrecision) n).1.follows
    (Sized.list (sized_triple (D := D) (F := F) doublePrecision) n)
  have hfailed (n : ℕ) : StaysFailed (triples (realSize doublePrecision) n) :=
    (takes_triples (realSize doublePrecision) n).2
  have hindices (explicitNI explicitCI : Bool) : StaysFailed (indices nI explicitNI explicitCI) :=
    (costs_indices hnI explicitNI explicitCI).staysFailed
  have hcolors := (costs_colors garbage).staysFailed
  refine Follows.bind (htriples _) (fun _ => ?_) fun _ vertexPositions _ => ?_
  · exact (StaysFailed.read word).bind fun _ => (hfailed _).bind fun _ =>
      (StaysFailed.read word).bind fun _ => hcolors.bind fun _ => hindices _ _
  refine Follows.bind (Follows.read word) (fun _ => ?_) ?_
  · exact (hfailed _).bind fun _ => (StaysFailed.read word).bind fun _ => hcolors.bind fun _ =>
      hindices _ _
  rintro _ nN rfl
  refine Follows.bind (htriples _) (fun _ => ?_) fun _ vertexNormalArray _ => ?_
  · exact (StaysFailed.read word).bind fun _ => hcolors.bind fun _ => hindices _ _
  refine Follows.bind (Follows.read word) (fun _ => hcolors.bind fun _ => hindices _ _) ?_
  rintro _ explicitNI rfl
  refine Follows.bind (follows_colors garbage) (fun _ => hindices _ _) ?_
  rintro _ colors rfl
  exact (takes_indices nI _ _).follows ((Sized.list (V3dTriangleGroup.sized_triangle _ _) _).bind
    fun _ => sized_word.bind fun _ => sized_word.ret _)

/-- A triangle group, from its counts on. -/
theorem follows_group (garbage : Garbage) (doublePrecision : UInt32) :
    Metered.Follows (group garbage (realSize doublePrecision))
      (V3dTriangleGroup.read doublePrecision : Parser (Option (V3dTriangleGroup D F)))
      (fun _ _ => True) := by
  have hreal := realSize_pos doublePrecision
  have hrest (nI nP : UInt32) : StaysFailed (if V3dTriangleGroup.maxCount < nI.toNat ∨
      V3dTriangleGroup.maxCount < nP.toNat then pure ()
      else groupBody garbage (realSize doublePrecision) nI nP) := by
    split_ifs with hmax
    · exact StaysFailed.pure ()
    · obtain ⟨hnI, hnP⟩ := not_or.mp hmax
      exact (costs_groupBody garbage hreal (Nat.not_lt.mp hnI) (Nat.not_lt.mp hnP)).staysFailed
  refine Follows.bind (Follows.read word) (fun _ => ?_) ?_
  · exact (StaysFailed.read word).bind fun _ => hrest _ _
  rintro _ nI rfl
  refine Follows.bind (Follows.read word) (fun _ => hrest _ _) ?_
  rintro _ nP rfl
  rw [Option.getD_some, Option.getD_some]
  split_ifs with hmax
  · exact Follows.pure trivial
  · have hbody : Metered.Follows (groupBody garbage (realSize doublePrecision) nI nP)
        (V3dTriangleGroup.readBody doublePrecision nI nP : Parser (V3dTriangleGroup D F)) _ :=
      follows_groupBody garbage doublePrecision (Nat.not_lt.mp (not_or.mp hmax).1)
    exact hbody.ret some

omit [Xdr64 D] [Xdr32 F] [Rounding D F] in
/-- The reads of the name of an image are counted. -/
theorem mirrors_image (info : LoadedInfo D F) : Mirrors image (loadImage info) := by
  refine Mirrors.orStop fun strLen => ?_
  split_ifs with hmax
  · exact Mirrors.pure info false
  · have hbyte : Metered.Takes readByte 1 :=
      (Metered.Takes.read sized_byte).bind (fun _ => StaysFailed.pure ()) fun _ =>
        Metered.Takes.pure ()
    have hloop (n : ℕ) := Follows.timesWhileGood hbyte n
    have hfailed (n : ℕ) : StaysFailed (timesWhileGood n readByte) :=
      (costs_readByte.timesWhileGood (by omega) n).staysFailed
    refine Mirrors.checked ?_ (sized_string strLen.toNat) info _
    have hname : skip ((strLen.toNat + 3) / 4 * 4) = skip (strLen.toNat * 1) >>= fun _ =>
        skip (((strLen.toNat + 3) / 4 * 4 - strLen.toNat) * 1) := by
      rw [skip_bind_skip]
      congr 1
      omega
    rw [hname]
    refine Follows.alloc _ (Follows.bind (hloop _) (fun goOn => ?_) ?_)
    · split_ifs
      · exact hfailed _
      · exact StaysFailed.pure false
    · rintro _ _ rfl
      exact hloop _

/-- Those of an entry with a known key. -/
theorem mirrors_entry (doublePrecision : UInt32) (info : LoadedInfo D F) (t : HeaderTypes) :
    Mirrors (entry (realSize doublePrecision) t) (loadEntry doublePrecision info t) := by
  have hfields (t : HeaderTypes) := (takes_fields (entryFields (realSize doublePrecision) t)).1
  have hword (old : UInt32) := takes_assign sized_word old
  have hreal := (takes_real (D := D) (F := F) doublePrecision).cast (Nat.one_mul _).symm
  have hpair := takes_pair (D := D) (F := F) doublePrecision
  have htriple := takes_triple (D := D) (F := F) doublePrecision
  have hlight := Wire.Takes.read (sized_light (D := D) (F := F) doublePrecision)
  cases t
  case image => exact mirrors_image info
  case canvasWidth | canvasHeight | absolute | orthographic =>
    exact Mirrors.value (hfields _) (hword _) _
  case background => exact Mirrors.value (hfields _) (takes_rgba _) _
  case minBound | maxBound => exact Mirrors.value (hfields _) htriple _
  case viewportShift | viewportMargin => exact Mirrors.value (hfields _) hpair _
  case light => exact Mirrors.value (takes_object _) hlight _
  all_goals exact Mirrors.value (hfields _) hreal _

omit [Xdr64 D] [Xdr32 F] [Rounding D F] in
/-- Those of an entry with an unknown key. -/
theorem mirrors_skipEntry (measured : Bool) (length : UInt32) (info : LoadedInfo D F) :
    Mirrors (skipEntry measured length) (OkularV3d.skipEntry measured length info) := by
  rintro ⟨⟨bytes, good⟩, reads, late, elements⟩ hs
  obtain rfl : good = true := hs
  have hword : Metered.Takes (Metered.read word >>= fun _ => pure ()) 4 :=
    (Metered.Takes.read sized_word).bind (fun _ => StaysFailed.pure ()) fun _ =>
      Metered.Takes.pure ()
  have hwords := Mirrors.checked (Follows.timesWhileGood hword length.toNat)
    (Sized.list sized_word length.toNat) info (fun _ => info)
    ⟨⟨bytes, true⟩, reads, late, elements⟩ rfl
  have hrun : (skipEntry measured length).run ⟨⟨bytes, true⟩, reads, late, elements⟩ =
      (if maxWords measured ⟨bytes, true⟩ < length.toNat then pure false
        else timesWhileGood length.toNat (Metered.read word >>= fun _ => pure ())).run
          ⟨⟨bytes, true⟩, reads, late, elements⟩ := rfl
  rw [hrun, skipEntry_run]
  split_ifs
  · exact .inr ⟨rfl, rfl⟩
  · exact hwords

/-- Those of any entry. -/
theorem mirrors_key (measured : Bool) (doublePrecision k length : UInt32) (info : LoadedInfo D F) :
    Mirrors (key measured (realSize doublePrecision) k length)
      (loadKey measured doublePrecision k length info) := by
  rw [key, loadKey]
  cases HeaderTypes.ofCode k with
  | some t => exact mirrors_entry doublePrecision info t
  | none => exact mirrors_skipEntry measured length info

/-- Those of all entries. -/
theorem mirrors_entries (measured : Bool) (doublePrecision : UInt32) (n : ℕ)
    (info : LoadedInfo D F) :
    Mirrors (entries measured (realSize doublePrecision) n)
      (loadEntries measured doublePrecision n info) := by
  induction n generalizing info with
  | zero => exact Mirrors.pure info true
  | succ n ih =>
    have hfailed := (costs_entries measured (realSize_pos doublePrecision) n).staysFailed
    refine Mirrors.orStop fun k => ?_
    rw [orStop_bind]
    refine Mirrors.orStop fun length => (mirrors_key measured doublePrecision k length info).andThen
      hfailed (fun info' s hs => ?_) ih
    exact ⟨trivial, (idle_entries measured doublePrecision n s hs).2⟩

/-- Those of the centers. -/
theorem mirrors_fillCenters (doublePrecision : UInt32) (old : List (Option (Vec3 D))) :
    Mirrors (timesWhileGood old.length (values 3 (realSize doublePrecision)))
      (fillCenters F doublePrecision old) := by
  induction old with
  | nil => exact Mirrors.pure [] true
  | cons c cs ih =>
    rintro ⟨⟨bytes, good⟩, reads, late, elements⟩ hs
    obtain rfl : good = true := hs
    have htriple := (takes_values 3 (realSize doublePrecision)).1.follows
      (sized_triple (D := D) (F := F) doublePrecision) ⟨⟨bytes, true⟩, reads, late, elements⟩ rfl
    dsimp only at htriple
    rw [List.length_cons, timesWhileGood, fillCenters, StateT.run_bind, StateT.run_bind]
    generalize (values 3 (realSize doublePrecision)).run ⟨⟨bytes, true⟩, reads, late, elements⟩ = r
      at htriple
    obtain ⟨⟨⟩, s⟩ := r
    -- one center is read, and the rest only if the stream is still good
    rcases hp : (readTriple F doublePrecision : Parser (Vec3 D)).run bytes with _ | ⟨c', rest⟩ <;>
      rw [hp] at htriple
    · rw [Stream.read_of_none hp]
      have hbad : s.good = false := htriple
      left
      change _ ∧ ((if s.good then timesWhileGood cs.length _ else pure false).run s).2.good = false
      rw [if_neg (by simp [hbad])]
      exact ⟨rfl, hbad⟩
    · rw [Stream.read_of_some hp]
      obtain ⟨hs, -⟩ := htriple
      have hgood : s.good = true := congrArg Stream.good hs
      have hnext := ih s hgood
      dsimp only at hs
      rw [hs] at hnext
      change _ ∧
        ((if s.good then timesWhileGood cs.length _ else pure false).run s).2.good = false ∨
        _ = ((if s.good then timesWhileGood cs.length _ else pure false).run s).2.toStream ∧
        _ = ((if s.good then timesWhileGood cs.length _ else pure false).run s).1
      rw [if_pos hgood]
      exact hnext

variable [Scalar D] [Scalar F]

/-- Those of a record. -/
theorem mirrors_record (garbage : Garbage) (measured : Bool)
    (versionNumber doublePrecision : UInt32) (file : Loaded D F) (t : ObjectTypes) :
    Mirrors (record garbage measured versionNumber (realSize doublePrecision) t)
      (loadRecord measured versionNumber doublePrecision file t) := by
  have hreal := realSize_pos doublePrecision
  cases hsize : objectSize (realSize doublePrecision) t with
  | some n =>
    -- an object of fixed size is read field by field
    obtain ⟨p, hread, hp⟩ := wholeSized_object (D := D) (F := F) hsize
    have hfields := size_objectFields (realSize doublePrecision) t
    rw [hsize] at hfields
    obtain ⟨fs, hfs, rfl⟩ := Option.map_eq_some_iff.mp hfields
    have hrecord : record garbage measured versionNumber (realSize doublePrecision) t =
        ((fields fs >>= fun _ => alloc 1) >>= fun _ => pure true) := by
      cases t <;> first | contradiction | (rw [← Option.some.inj hfs]; rfl)
    have hsized : Sized p (size fs) := Agree.mono hp fun _ _ _ => trivial
    rw [loadRecord_object hread, hrecord]
    exact Mirrors.parser ((takes_object fs).follows hsized) _
  | none =>
    -- the records that are no objects of fixed size
    cases t <;> try contradiction
    case material =>
      have hfields := takes_object [(if 2 ≤ versionNumber then 16 else 15, 4)]
      have hsize : size [(if 2 ≤ versionNumber then 16 else 15, 4)] =
          if 2 ≤ versionNumber then 64 else 60 := by
        split_ifs <;> rfl
      rw [hsize] at hfields
      exact Mirrors.parser (hfields.follows (sized_material (F := F) versionNumber)) _
    case centers =>
      refine Mirrors.map (Mirrors.orStop fun n => ?_) fun centers => { file with centers }
      split_ifs with hmax hpos
      · exact Mirrors.pure _ false
      · have hfill := mirrors_fillCenters (F := F) doublePrecision
          (resizeCenters n.toNat file.centers)
        rw [length_resizeCenters] at hfill
        exact fun s hs => hfill { s with elements := s.elements + n.toNat } hs
      · exact Mirrors.pure _ true
    case header =>
      refine Mirrors.map (Mirrors.orStop fun n => ?_) fun headerInfo => { file with headerInfo }
      split_ifs with hmax
      · exact Mirrors.pure _ false
      · exact mirrors_entries measured doublePrecision n.toNat file.headerInfo
    case triangles =>
      have hgroup := (follows_group (D := D) (F := F) garbage doublePrecision).ret
        fun group => group.map V3dObject.triangles
      refine Mirrors.parser (m := group garbage (realSize doublePrecision) >>= fun _ => alloc 1)
        (R := fun _ _ => True) (fun s hs => ?_) _
      exact hgroup s hs
    all_goals exact Mirrors.pure file true

/-- **A record is counted as it is read**, whatever its type. -/
theorem mirrors_type (garbage : Garbage) (measured : Bool)
    (versionNumber doublePrecision objectType : UInt32) (file : Loaded D F) :
    Mirrors (type garbage measured versionNumber (realSize doublePrecision) objectType)
      (loadType measured versionNumber doublePrecision objectType file) := by
  rw [type, loadType]
  cases ObjectTypes.ofCode objectType with
  | some t => exact mirrors_record garbage measured versionNumber doublePrecision file t
  | none => exact Mirrors.pure file true

/-- So are all records: the loops stop at the same one. -/
theorem alike_records (garbage : Garbage) (measured : Bool)
    (versionNumber doublePrecision : UInt32) (fuel : ℕ) (file : Loaded D F) :
    Alike (Metered.rounds word
      (type garbage measured versionNumber (realSize doublePrecision)) fuel)
      (loadRecords measured versionNumber doublePrecision fuel file) := by
  induction fuel generalizing file with
  | zero => exact Alike.pure true file
  | succ fuel ih =>
    have hfailed := (Costs.rounds sized_word (by omega)
      (fun objectType => costs_type garbage measured
      versionNumber (realSize_pos doublePrecision) objectType) fuel).staysFailed
    exact Alike.orStop rfl fun objectType =>
      (mirrors_type garbage measured versionNumber doublePrecision objectType file).alike_andThen
        hfailed (fun _ => idle_loadRecords measured versionNumber doublePrecision fuel) ih

/-- **The reads that are counted are those of the loader**: both leave the same stream, unless both
leave one on which a read has failed. -/
theorem alike_load (garbage : Garbage) (measured : Bool) (fuel : ℕ) :
    Alike (load garbage measured fuel)
      (loadFrom measured fuel : StateM Stream (Loaded D F)) := by
  refine Alike.orStop rfl fun versionNumber => ?_
  dsimp only
  split_ifs
  · exact Alike.pure false _
  · exact Alike.orStop rfl fun doublePrecisionFlag =>
      alike_records garbage measured versionNumber doublePrecisionFlag fuel _

end Mirrors

end Work

end OkularV3d
