import OkularV3d.File.Truncation
import Mathlib.Data.List.Chain

/-!
# Misaligned files

`V3dFile::load` sets `stopParsing` where a count exceeds its limit, so that the bytes behind it are
not taken for records. A record of unknown or unsupported type and a triangle group with excessive
counts cannot set that flag, and parsing goes on inside their payload.

`Parse` says what the format makes of the bytes behind the word of a record, and `Round` what the
reader did in one round of its loop. The rounds of a file are `Aligned` when every word that is
taken for a type follows a payload that was consumed as the fields of its record, and nothing is
read behind a refusal. `aligned_iff` says for which files they are.

* `tracks_group`, `tracks_record` and `tracks_type` say that the reader follows the format as long
  as nothing is refused.
* `aligned_rounds` goes through the rounds of a file by induction.
* `Parse.accepted` is the condition: it is evaluated on the bytes, without the reader.

The length a header entry announces is not part of the format for a known key; `File/Framing` is
about that.
-/

namespace OkularV3d

open Wire Wire.Parser

/-! ### The format -/

/-- What the bytes behind the word of a record are: a whole payload, with the bytes behind it; too
few bytes; a count above its limit in `CENTERS`, `HEADER`, `IMAGE` or an unknown entry; or a payload
that the reader cannot parse, a type it does not support or an excessive count in a triangle
group. -/
inductive Parse where
  | more (rest : List UInt8)
  | short
  | capped (later : List UInt8)
  | refused (later : List UInt8)
  deriving DecidableEq

namespace Parse

/-- A payload of `n` bytes. -/
def sized (n : ℕ) (bytes : List UInt8) : Parse :=
  if n ≤ bytes.length then more (bytes.drop n) else short

/-- A count, a flag or a key. -/
def field {α : Type} (p : Parser α) (bytes : List UInt8) (k : α → List UInt8 → Parse) : Parse :=
  match p.run bytes with
  | some (a, rest) => k a rest
  | none => short

/-- What comes after a whole part. -/
def andThen (c : Parse) (k : List UInt8 → Parse) : Parse :=
  match c with
  | more rest => k rest
  | short => short
  | capped later => capped later
  | refused later => refused later

/-- A header entry whose key is known: its payload has the layout of the key, whatever length the
entry announces. -/
def entry (real : ℕ) (bytes : List UInt8) : HeaderTypes → Parse
  | .canvasWidth | .canvasHeight | .absolute | .orthographic => sized 4 bytes
  | .background => sized 16 bytes
  | .minBound | .maxBound => sized (3 * real) bytes
  | .viewportShift | .viewportMargin => sized (2 * real) bytes
  | .light => sized (3 * real + 12) bytes
  | .angleOfView | .initialZoom | .zoomFactor | .zoomPinchFactor | .zoomPinchCap | .zoomStep
  | .shiftHoldDistance | .shiftWaitTime | .vibrateTime => sized real bytes
  | .image => field doubleWord bytes fun strLen rest =>
    if maxImageName < strLen.toNat then capped rest else sized ((strLen.toNat + 3) / 4 * 4) rest

/-- A header entry. The announced length counts for an unknown key only: its payload has as many
words as it says. -/
def key (real : ℕ) (key length : UInt32) (bytes : List UInt8) : Parse :=
  match HeaderTypes.ofCode key with
  | some t => entry real bytes t
  | none =>
    if kMaxUnknownHeaderWords < length.toNat then capped bytes
    else sized (length.toNat * 4) bytes

/-- Header entries. -/
def entries (real : ℕ) : ℕ → List UInt8 → Parse
  | 0, bytes => more bytes
  | n + 1, bytes =>
    field word bytes fun k rest =>
      field word rest fun length rest => (key real k length rest).andThen (entries real n)

/-- The indices of a triangle group and the two words at its end. -/
def groupTail (nI : UInt32) (explicitNI explicitCI : Bool) (bytes : List UInt8) : Parse :=
  sized (nI.toNat * V3dTriangleGroup.indicesSize explicitNI explicitCI + 8) bytes

/-- The colours of a triangle group and what follows them. -/
def groupColors (nI explicitNI : UInt32) (bytes : List UInt8) : Parse :=
  field word bytes fun nC rest =>
    if V3dTriangleGroup.maxCount < nC.toNat then refused rest
    else if 0 < nC.toNat then
      (sized (nC.toNat * 16) rest).andThen fun rest =>
        field word rest fun explicitCI rest =>
          groupTail nI (explicitNI != 0) (explicitCI != 0) rest
    else groupTail nI (explicitNI != 0) false rest

/-- A triangle group. -/
def group (real : ℕ) (bytes : List UInt8) : Parse :=
  field word bytes fun nI rest =>
    field word rest fun nP rest =>
      if V3dTriangleGroup.maxCount < nI.toNat ∨ V3dTriangleGroup.maxCount < nP.toNat then
        refused rest
      else
        (sized (nP.toNat * (3 * real)) rest).andThen fun rest =>
          field word rest fun nN rest =>
            if V3dTriangleGroup.maxCount < nN.toNat then refused rest
            else
              (sized (nN.toNat * (3 * real)) rest).andThen fun rest =>
                field word rest fun explicitNI rest => groupColors nI explicitNI rest

/-- A record whose type is known. -/
def record (real : ℕ) (versionNumber : UInt32) (bytes : List UInt8) : ObjectTypes → Parse
  | .material => sized (if 2 ≤ versionNumber then 64 else 60) bytes
  | .centers => field word bytes fun n rest =>
    if maxCenters < n.toNat then capped rest else sized (n.toNat * (3 * real)) rest
  | .header => field word bytes fun n rest =>
    if kMaxHeaderEntries < n.toNat then capped rest else entries real n.toNat rest
  | .triangles => group real bytes
  | t =>
    match objectSize real t with
    | some n => sized n bytes
    | none => refused bytes

/-- A record. -/
def type (real : ℕ) (versionNumber objectType : UInt32) (bytes : List UInt8) : Parse :=
  match ObjectTypes.ofCode objectType with
  | some t => record real versionNumber bytes t
  | none => refused bytes

/-- No payload is refused with another word behind it. -/
def accepted (real : ℕ) (versionNumber : UInt32) : ℕ → List UInt8 → Bool
  | 0, _ => true
  | fuel + 1, bytes =>
    match word.run bytes with
    | none => true
    | some (objectType, rest) =>
      match type real versionNumber objectType rest with
      | more rest => accepted real versionNumber fuel rest
      | short => true
      | capped _ => true
      | refused later => decide (later.length < 4)

end Parse

/-- As far as the reader gets, the file has no record of unknown or unsupported type and no triangle
group with an excessive count, unless less than a word is left behind it. -/
def acceptedRecords (bytes : List UInt8) : Bool :=
  match word.run bytes with
  | none => true
  | some (versionNumber, rest) =>
    if versionNumber < 1 then true
    else
      match word.run rest with
      | none => true
      | some (doublePrecisionFlag, rest) =>
        Parse.accepted (realSize doublePrecisionFlag) versionNumber (bytes.length + 1) rest

/-! ### The rounds of the reader -/

/-- One round of the loop over the records: the word it has taken for a type, the bytes behind that
word, the scene and the stream it leaves, and whether parsing goes on. -/
structure Round (D F : Type) where
  versionNumber : UInt32
  doublePrecision : UInt32
  objectType : UInt32
  payload : List UInt8
  file : Loaded D F
  goOn : Bool
  after : Stream

namespace Round

variable {D F : Type}

/-- What the format makes of the payload. -/
def parse (r : Round D F) : Parse :=
  .type (realSize r.doublePrecision) r.versionNumber r.objectType r.payload

/-- The payload was consumed as the fields of the record, and nothing else was. -/
def Consumed (r : Round D F) : Prop := r.parse = .more r.after.rest ∧ r.after.good = true

/-- Behind a count above its limit, or a payload the reader cannot parse, nothing is read. -/
def Stops (r : Round D F) : Prop :=
  ∀ later, r.parse = .capped later ∨ r.parse = .refused later → 4 ≤ later.length →
    r.goOn = false ∧ r.after.rest = later

/-- Every word taken for a type follows a consumed payload, and refusals end the parse. -/
structure Aligned (rounds : List (Round D F)) : Prop where
  consumed : rounds.IsChain fun r _ => r.Consumed
  stops : ∀ r ∈ rounds, r.Stops

end Round

section Rounds

variable {D F : Type} [Xdr64 D] [Xdr32 F] [Rounding D F] [Scalar D] [Scalar F]

/-- The rounds of `loadRecords`. -/
def rounds (measured : Bool) (versionNumber doublePrecision : UInt32) :
    ℕ → Loaded D F → Stream → List (Round D F)
  | 0, _, _ => []
  | fuel + 1, file, s =>
    match (Stream.read word).run s with
    | (none, _) => []
    | (some objectType, s) =>
      let r := (loadType measured versionNumber doublePrecision objectType file).run s
      { versionNumber, doublePrecision, objectType, payload := s.rest, file := r.1.1,
        goOn := r.1.2, after := r.2 } ::
        if r.1.2 then rounds measured versionNumber doublePrecision fuel r.1.1 r.2 else []

variable (D F) in
/-- The rounds of `V3dFile::load`. -/
def loadRounds (measured : Bool) (bytes : List UInt8) : List (Round D F) :=
  match word.run bytes with
  | none => []
  | some (versionNumber, rest) =>
    if versionNumber < 1 then []
    else
      match word.run rest with
      | none => []
      | some (doublePrecisionFlag, rest) =>
        rounds measured versionNumber doublePrecisionFlag (bytes.length + 1)
          (.withFlags versionNumber doublePrecisionFlag) ⟨rest, true⟩

/-- The scene of the last round is the one that `loadRecords` leaves. -/
theorem loadRecords_eq_rounds (measured : Bool) (versionNumber doublePrecision : UInt32) (fuel : ℕ)
    (file : Loaded D F) (s : Stream) :
    ((loadRecords measured versionNumber doublePrecision fuel file).run s).1 =
      ((rounds measured versionNumber doublePrecision fuel file s).getLast?.map Round.file).getD
        file := by
  induction fuel generalizing file s with
  | zero => rfl
  | succ fuel ih =>
    rw [loadRecords, StateT.run_bind, rounds]
    generalize (Stream.read word).run s = r
    obtain ⟨_ | objectType, s'⟩ := r
    · rfl
    · change ((loadType measured versionNumber doublePrecision objectType file >>= _).run s').1 = _
      rw [StateT.run_bind]
      dsimp only
      generalize (loadType measured versionNumber doublePrecision objectType file).run s' = r
      obtain ⟨⟨file', _ | _⟩, s''⟩ := r
      · rfl
      · change ((loadRecords measured versionNumber doublePrecision fuel file').run s'').1 = _
        rw [ih, if_pos rfl, List.getLast?_cons]
        cases (rounds measured versionNumber doublePrecision fuel file' s'').getLast? <;> rfl

end Rounds

/-! ### Constructors follow the format -/

section Tracks

variable {α β : Type}

/-- A constructor and the format of its payload. Where the format refuses it and less than a word is
left, the constructor leaves less than a word. -/
def ParserTracks (r : Option (α × List UInt8)) : Parse → Prop
  | .more rest => ∃ a, r = some (a, rest)
  | .short => r = none
  | .capped _ => False
  | .refused later => later.length < 4 → ∀ a rest, r = some (a, rest) → rest.length < 4

/-- A record of a fixed size fails only where the file ends in it. -/
theorem ParserTracks.sized {p : Parser α} {n : ℕ} (h : Sized p n) (bytes : List UInt8) :
    ParserTracks (p.run bytes) (.sized n bytes) := by
  rw [Parse.sized]
  by_cases hn : n ≤ bytes.length
  · rw [if_pos hn]
    exact h.run_eq_some hn
  · rw [if_neg hn]
    exact h.run_eq_none (by omega)

/-- A parser tracks a field if what comes after it tracks the rest. -/
theorem ParserTracks.field {p : Parser α} {f : α → Parser β} {k : α → List UInt8 → Parse}
    (h : ∀ a rest, ParserTracks ((f a).run rest) (k a rest)) (bytes : List UInt8) :
    ParserTracks ((p >>= f).run bytes) (.field p bytes k) := by
  rw [StateT.run_bind, Parse.field]
  rcases p.run bytes with _ | ⟨a, rest⟩
  · exact rfl
  · exact h a rest

/-- A part of a fixed size, and then the rest. -/
theorem ParserTracks.andThen {p : Parser α} {f : α → Parser β} {n : ℕ} (hp : Sized p n)
    {k : List UInt8 → Parse} (h : ∀ a rest, ParserTracks ((f a).run rest) (k rest))
    (bytes : List UInt8) :
    ParserTracks ((p >>= f).run bytes) ((Parse.sized n bytes).andThen k) := by
  rw [StateT.run_bind, Parse.sized]
  by_cases hn : n ≤ bytes.length
  · obtain ⟨a, ha⟩ := hp.run_eq_some hn
    rw [ha, if_pos hn]
    exact h a _
  · rw [hp.run_eq_none (by omega), if_neg hn]
    exact rfl

/-- A refusal with less than a word behind it: whatever is read shrinks what is left. -/
theorem ParserTracks.refused {p : Parser α} (h : Parser.Shrinks p) (bytes : List UInt8) :
    ParserTracks (p.run bytes) (.refused bytes) :=
  fun hlen a rest hp => (h bytes a rest hp).trans_lt hlen

/-- What is done with the result reads nothing. -/
theorem ParserTracks.ret {p : Parser α} {bytes : List UInt8} {c : Parse}
    (h : ParserTracks (p.run bytes) c) (f : α → β) :
    ParserTracks ((p >>= fun a => pure (f a)).run bytes) c := by
  rw [StateT.run_bind]
  generalize p.run bytes = r at h
  cases c with
  | more rest =>
    obtain ⟨a, rfl⟩ := h
    exact ⟨f a, rfl⟩
  | short =>
    obtain rfl : r = none := h
    exact rfl
  | capped later => exact h
  | refused later =>
    intro hlen b rest hb
    obtain _ | ⟨a, rest'⟩ := r
    · cases hb
    · cases hb
      exact h hlen a _ rfl

variable {D F : Type} [Xdr64 D] [Xdr32 F] [Rounding D F]

namespace V3dTriangleGroup

/-- A count within the limit is taken as it is. -/
theorem capped_of_le {n : UInt32} (h : ¬ maxCount < n.toNat) : capped n = n.toNat := if_neg h

omit [Xdr64 D] [Xdr32 F] [Rounding D F] in
/-- The index triples of a group, and its two indices. -/
theorem tracks_tail (nI : UInt32) (explicitNI explicitCI : Bool)
    (mk : List GroupTriangle → UInt32 → UInt32 → V3dTriangleGroup D F) (bytes : List UInt8) :
    ParserTracks ((do
        let triangles ← list (readTriangle explicitNI explicitCI) nI.toNat
        let centerIndex ← word
        let materialIndex ← word
        return mk triangles centerIndex materialIndex : Parser (V3dTriangleGroup D F)).run bytes)
      (.groupTail nI explicitNI explicitCI bytes) :=
  ParserTracks.sized ((Sized.list (sized_triangle _ _) _).bind fun _ => sized_word.bind fun _ =>
    sized_word.ret _) bytes

omit [Xdr64 D] [Rounding D F] in
/-- The colours of a group, if there are any, and what comes after them. -/
theorem tracks_colors (nI explicitNI : UInt32)
    (mk : List (Vec4 F) → List GroupTriangle → UInt32 → UInt32 → V3dTriangleGroup D F)
    (bytes : List UInt8) :
    ParserTracks ((do
        let colors ← readColors
        let triangles ← list (readTriangle (explicitNI != 0) colors.2) nI.toNat
        let centerIndex ← word
        let materialIndex ← word
        return mk colors.1 triangles centerIndex materialIndex :
          Parser (V3dTriangleGroup D F)).run bytes)
      (.groupColors nI explicitNI bytes) := by
  rw [readColors, bind_assoc]
  refine ParserTracks.field (fun nC rest => ?_) bytes
  by_cases hmax : maxCount < nC.toNat
  · rw [if_pos hmax]
    refine ParserTracks.refused ?_ rest
    rw [capped, if_pos hmax]
    exact (Parser.Shrinks.pure _).bind fun _ =>
      (Sized.list (sized_triangle _ _) _).shrinks.bind fun _ => sized_word.shrinks.bind fun _ =>
      sized_word.shrinks.bind fun _ => Parser.Shrinks.pure _
  · rw [if_neg hmax, capped_of_le hmax]
    by_cases hpos : 0 < nC.toNat
    · rw [if_pos hpos, if_pos hpos, bind_assoc]
      refine ParserTracks.andThen (Sized.list sized_rgba _) (fun colors rest => ?_) rest
      rw [bind_assoc]
      refine ParserTracks.field (fun explicitCI rest => ?_) rest
      rw [pure_bind]
      exact tracks_tail nI _ _ (mk colors) rest
    · rw [if_neg hpos, if_neg hpos, pure_bind]
      exact tracks_tail nI _ _ (mk []) rest

/-- **A triangle group** follows the format, up to a count above the limit: there it returns. -/
theorem tracks_group (doublePrecision : UInt32) (bytes : List UInt8) :
    ParserTracks ((read doublePrecision : Parser (Option (V3dTriangleGroup D F))).run bytes)
      (.group (realSize doublePrecision) bytes) := by
  have htriples (n : ℕ) := Sized.list (sized_triple (D := D) (F := F) doublePrecision) n
  refine ParserTracks.field (fun nI rest => ParserTracks.field (fun nP rest => ?_) rest) bytes
  by_cases hmax : maxCount < nI.toNat ∨ maxCount < nP.toNat
  · rw [if_pos hmax, if_pos hmax]
    exact ParserTracks.refused (Parser.Shrinks.pure _) rest
  · rw [if_neg hmax, if_neg hmax]
    refine ParserTracks.ret ?_ some
    refine ParserTracks.andThen (htriples _) (fun vertexPositions rest => ?_) rest
    refine ParserTracks.field (fun nN rest => ?_) rest
    by_cases hN : maxCount < nN.toNat
    · rw [if_pos hN]
      refine ParserTracks.refused ?_ rest
      exact (htriples _).shrinks.bind fun _ => sized_word.shrinks.bind fun _ =>
        shrinks_groupColors.bind fun _ => (Sized.list (sized_triangle _ _) _).shrinks.bind fun _ =>
        sized_word.shrinks.bind fun _ => sized_word.shrinks.bind fun _ => Parser.Shrinks.pure _
    · rw [if_neg hN, capped_of_le hN]
      refine ParserTracks.andThen (htriples _) (fun vertexNormalArray rest => ?_) rest
      refine ParserTracks.field (fun explicitNI rest => ?_) rest
      exact tracks_colors nI explicitNI
        (fun colors triangles => V3dTriangleGroup.mk vertexPositions vertexNormalArray colors
          triangles) rest

end V3dTriangleGroup

/-! ### The reader follows the format -/

variable {σ τ : Type}

/-- The result of a part of the loop and the format of what it reads. -/
def Tracks (r : (σ × Bool) × Stream) : Parse → Prop
  | .more rest => r.1.2 = true ∧ r.2 = ⟨rest, true⟩
  | .short => r.1.2 = false ∨ r.2.good = false
  | .capped later => r.1.2 = false ∧ r.2 = ⟨later, true⟩
  | .refused later => r.1.2 = true ∧ (later.length < 4 → r.2.good = false ∨ r.2.rest.length < 4)

/-- **A checked read** tracks a field, and what comes after it. -/
theorem Tracks.orStop {s : σ} {p : Parser α} {k : α → StateM Stream (σ × Bool)}
    {c : α → List UInt8 → Parse} (h : ∀ a rest, Tracks ((k a).run ⟨rest, true⟩) (c a rest))
    (bytes : List UInt8) :
    Tracks ((OkularV3d.orStop s p k).run ⟨bytes, true⟩) (.field p bytes c) := by
  rw [OkularV3d.orStop, StateT.run_bind, Parse.field]
  rcases hp : p.run bytes with _ | ⟨a, rest⟩
  · rw [Stream.read_of_none hp]
    exact .inl rfl
  · rw [Stream.read_of_some hp]
    exact h a rest

/-- So does a part of a fixed size that is read unchecked. -/
theorem Tracks.sized {m : StateM Stream (σ × Bool)} {n : ℕ}
    (h : Takes m n (fun r => r.2 = true) (fun _ => True)) (bytes : List UInt8) :
    Tracks (m.run ⟨bytes, true⟩) (.sized n bytes) := by
  rw [Parse.sized]
  by_cases hn : n ≤ bytes.length
  · rw [if_pos hn]
    exact h.enough bytes hn
  · rw [if_neg hn]
    exact .inr (h.short bytes (by omega)).2

/-- A part of the scene that is read without a check. -/
theorem Tracks.value {m : StateM Stream α} {n : ℕ} {P Q : α → Prop} (h : Takes m n P Q)
    (set : α → σ) (bytes : List UInt8) :
    Tracks ((m >>= fun a => pure (set a, true)).run ⟨bytes, true⟩) (.sized n bytes) :=
  Tracks.sized (h.ret (fun _ _ => rfl) (fun _ _ => trivial)) bytes

/-- A checked read. -/
theorem Tracks.checked {p : Parser α} {n : ℕ} (h : Sized p n) (s : σ) (f : α → σ)
    (bytes : List UInt8) :
    Tracks ((OkularV3d.orStop s p fun a => pure (f a, true)).run ⟨bytes, true⟩)
      (.sized n bytes) := by
  rw [OkularV3d.orStop, StateT.run_bind, Parse.sized]
  by_cases hn : n ≤ bytes.length
  · obtain ⟨a, ha⟩ := h.run_eq_some hn
    rw [Stream.read_of_some ha, if_pos hn]
    exact ⟨rfl, rfl⟩
  · rw [Stream.read_of_none (h.run_eq_none (by omega)), if_neg hn]
    exact .inl rfl

/-- An object, which is added to the scene without a check. -/
theorem Tracks.object {p : Parser α} {bytes : List UInt8} {c : Parse}
    (h : ParserTracks (p.run bytes) c) (set : Option α → σ) :
    Tracks ((Stream.read p >>= fun a => pure (set a, true)).run ⟨bytes, true⟩) c := by
  rw [StateT.run_bind]
  rcases hp : p.run bytes with _ | ⟨a, rest⟩ <;> rw [hp] at h
  · rw [Stream.read_of_none hp]
    cases c with
    | more rest =>
      obtain ⟨a, ha⟩ := h
      cases ha
    | short => exact .inr rfl
    | capped later => exact h.elim
    | refused later => exact ⟨rfl, fun _ => .inl rfl⟩
  · rw [Stream.read_of_some hp]
    cases c with
    | more rest' =>
      obtain ⟨a', ha⟩ := h
      cases ha
      exact ⟨rfl, rfl⟩
    | short => cases h
    | capped later => exact h.elim
    | refused later => exact ⟨rfl, fun hlen => .inr (h hlen a rest rfl)⟩

/-- One part of a record after the other, where the first is never refused. -/
theorem Tracks.andThen {m : StateM Stream (σ × Bool)} {k : σ → StateM Stream (σ × Bool)}
    {s : Stream} {c : Parse} {c' : List UInt8 → Parse} (h : Tracks (m.run s) c)
    (hc : ∀ later, c ≠ .refused later) (hidle : ∀ x, Idle (k x) (fun _ => True))
    (hmore : ∀ x rest, Tracks ((k x).run ⟨rest, true⟩) (c' rest)) :
    Tracks ((m >>= fun r => if r.2 then k r.1 else pure r).run s) (c.andThen c') := by
  rw [StateT.run_bind]
  generalize m.run s = r at h
  obtain ⟨⟨x, goOn⟩, s'⟩ := r
  change Tracks ((if goOn then k x else pure (x, goOn)).run s') _
  cases c with
  | more rest =>
    obtain ⟨rfl, rfl⟩ := h
    exact hmore x rest
  | short =>
    cases goOn with
    | false => exact .inl rfl
    | true =>
      obtain hgo | hs := h
      · cases hgo
      · exact .inr ((congrArg Stream.good (hidle x s' hs).2).trans hs)
  | capped later =>
    obtain ⟨rfl, rfl⟩ := h
    exact ⟨rfl, rfl⟩
  | refused later => exact absurd rfl (hc later)

/-- What is done with the state reads nothing. -/
theorem Tracks.map {f : σ → τ} {m : StateM Stream (σ × Bool)} {s : Stream} {c : Parse}
    (h : Tracks (m.run s) c) : Tracks ((m >>= fun r => pure (f r.1, r.2)).run s) c := by
  rw [StateT.run_bind]
  generalize m.run s = r at h
  obtain ⟨⟨x, goOn⟩, s'⟩ := r
  cases c <;> exact h

end Tracks

section Reader

variable {D F : Type} [Xdr64 D] [Xdr32 F] [Rounding D F]

/-- The payload of an entry with a known key has the layout of the key. -/
theorem tracks_entry (doublePrecision : UInt32) (info : LoadedInfo D F) (bytes : List UInt8)
    (t : HeaderTypes) :
    Tracks ((loadEntry doublePrecision info t).run ⟨bytes, true⟩)
      (.entry (realSize doublePrecision) bytes t) := by
  have hword (old : UInt32) := takes_assign sized_word old
  have hreal := takes_real (D := D) (F := F) doublePrecision
  have hpair := takes_pair (D := D) (F := F) doublePrecision
  have htriple := takes_triple (D := D) (F := F) doublePrecision
  have hlight := Takes.read (sized_light (D := D) (F := F) doublePrecision)
  cases t
  case canvasWidth | canvasHeight | absolute | orthographic => exact Tracks.value (hword _) _ bytes
  case background => exact Tracks.value (takes_rgba _) _ bytes
  case minBound | maxBound => exact Tracks.value htriple _ bytes
  case viewportShift | viewportMargin => exact Tracks.value hpair _ bytes
  case light => exact Tracks.value hlight _ bytes
  case image =>
    rw [loadEntry, loadImage, Parse.entry]
    refine Tracks.orStop (fun strLen rest => ?_) bytes
    by_cases hlen : maxImageName < strLen.toNat
    · rw [if_pos hlen, if_pos hlen]
      exact ⟨rfl, rfl⟩
    · rw [if_neg hlen, if_neg hlen]
      exact Tracks.checked (sized_string _) _ _ rest
  all_goals exact Tracks.value hreal _ bytes

omit [Xdr64 D] [Xdr32 F] [Rounding D F] in
/-- That of an entry with an unknown key has as many words as it says, unless these are too many. -/
theorem tracks_skip (measured : Bool) (length : UInt32) (info : LoadedInfo D F)
    (bytes : List UInt8) :
    Tracks ((skipEntry measured length info).run ⟨bytes, true⟩)
      (if kMaxUnknownHeaderWords < length.toNat then .capped bytes
        else .sized (length.toNat * 4) bytes) := by
  rw [skipEntry_run]
  have hlimit := maxWords_le measured ⟨bytes, true⟩
  by_cases hmax : maxWords measured ⟨bytes, true⟩ < length.toNat
  · rw [if_pos hmax]
    by_cases hk : kMaxUnknownHeaderWords < length.toNat
    · rw [if_pos hk]
      exact ⟨rfl, rfl⟩
    · have hshort := length_lt_of_maxWords_lt hmax hk
      rw [if_neg hk, Parse.sized, if_neg (by omega)]
      exact .inl rfl
  · rw [if_neg hmax, if_neg (by omega)]
    exact Tracks.checked (Sized.list sized_word _) info (fun _ => info) bytes

/-- An entry, known or not. -/
theorem tracks_key (measured : Bool) (doublePrecision key length : UInt32) (info : LoadedInfo D F)
    (bytes : List UInt8) :
    Tracks ((loadKey measured doublePrecision key length info).run ⟨bytes, true⟩)
      (.key (realSize doublePrecision) key length bytes) := by
  rw [loadKey, Parse.key]
  cases HeaderTypes.ofCode key with
  | some t => exact tracks_entry doublePrecision info bytes t
  | none => exact tracks_skip measured length info bytes

/-- The format refuses no header entry. -/
theorem entry_ne_refused (real : ℕ) (key length : UInt32) (bytes later : List UInt8) :
    Parse.key real key length bytes ≠ .refused later := by
  have hsized (n : ℕ) (bytes : List UInt8) : Parse.sized n bytes ≠ .refused later := by
    rw [Parse.sized]
    split_ifs <;> exact Parse.noConfusion
  rw [Parse.key]
  cases HeaderTypes.ofCode key with
  | none =>
    dsimp only
    split_ifs
    · exact Parse.noConfusion
    · exact hsized _ _
  | some t =>
    cases t
    case image =>
      change Parse.field _ _ _ ≠ _
      rw [Parse.field]
      rcases doubleWord.run bytes with _ | ⟨strLen, rest⟩
      · exact Parse.noConfusion
      · dsimp only
        split_ifs
        · exact Parse.noConfusion
        · exact hsized _ _
    all_goals exact hsized _ _

/-- The entries of a header, as many as it announces. -/
theorem tracks_entries (measured : Bool) (doublePrecision : UInt32) (n : ℕ)
    (info : LoadedInfo D F) (bytes : List UInt8) :
    Tracks ((loadEntries measured doublePrecision n info).run ⟨bytes, true⟩)
      (.entries (realSize doublePrecision) n bytes) := by
  induction n generalizing info bytes with
  | zero => exact ⟨rfl, rfl⟩
  | succ n ih =>
    refine Tracks.orStop (fun key rest => Tracks.orStop (fun length rest => ?_) rest) bytes
    have hkey := tracks_key measured doublePrecision key length info rest
    refine hkey.andThen (entry_ne_refused _ _ _ _) (fun info' s hs => ?_) (fun info' => ih info')
    exact ⟨trivial, (idle_entries measured doublePrecision n s hs).2⟩

/-- The centers, as many as were announced. -/
theorem tracks_fillCenters (doublePrecision : UInt32) (old : List (Option (Vec3 D)))
    (bytes : List UInt8) :
    Tracks ((fillCenters F doublePrecision old).run ⟨bytes, true⟩)
      (.sized (old.length * (3 * realSize doublePrecision)) bytes) := by
  have hfollows := follows_fillCenters (F := F) doublePrecision old bytes
  rw [Scan.unchecked] at hfollows
  rw [Parse.sized]
  by_cases hn : old.length * (3 * realSize doublePrecision) ≤ bytes.length
  · rw [if_pos hn] at hfollows ⊢
    exact hfollows.2
  · rw [if_neg hn] at hfollows ⊢
    exact hfollows.2.imp_right fun h => h.resolve_right id

variable [Scalar D] [Scalar F]

/-- **A record other than an object**, by cases on its type. -/
theorem tracks_record (measured : Bool) (versionNumber doublePrecision : UInt32)
    (file : Loaded D F) (bytes : List UInt8) (t : ObjectTypes) :
    Tracks ((loadRecord measured versionNumber doublePrecision file t).run ⟨bytes, true⟩)
      (.record (realSize doublePrecision) versionNumber bytes t) := by
  cases hsize : objectSize (realSize doublePrecision) t with
  | some n =>
    -- an object of fixed size is read whole
    obtain ⟨p, hread, hp⟩ := wholeSized_object (D := D) (F := F) hsize
    have hrecord : Parse.record (realSize doublePrecision) versionNumber bytes t
        = .sized n bytes := by
      cases t <;> first | contradiction | (rw [← Option.some.inj hsize]; rfl)
    have hsized : Sized p n := Agree.mono hp fun _ _ _ => trivial
    rw [loadRecord_object hread, hrecord]
    exact Tracks.value (Takes.read hsized) _ bytes
  | none =>
    -- the records that are no objects of fixed size
    cases t <;> try contradiction
    case material => exact Tracks.value (Takes.read (sized_material (F := F) versionNumber)) _ bytes
    case centers =>
      refine Tracks.map (f := fun centers => { file with centers }) ?_
      refine Tracks.orStop (fun n rest => ?_) bytes
      by_cases hn : maxCenters < n.toNat
      · rw [if_pos hn, if_pos hn]
        exact ⟨rfl, rfl⟩
      · rw [if_neg hn, if_neg hn]
        by_cases h0 : 0 < n
        · rw [if_pos h0]
          have hfill := tracks_fillCenters (F := F) doublePrecision
            (resizeCenters n.toNat file.centers) rest
          rwa [length_resizeCenters] at hfill
        · have hn0 : n.toNat = 0 := by
            rw [UInt32.lt_iff_toNat_lt] at h0
            exact Nat.eq_zero_of_not_pos h0
          rw [if_neg h0, hn0, Nat.zero_mul]
          exact ⟨rfl, rfl⟩
    case header =>
      refine Tracks.map (f := fun headerInfo => { file with headerInfo }) ?_
      refine Tracks.orStop (fun n rest => ?_) bytes
      by_cases hn : kMaxHeaderEntries < n.toNat
      · rw [if_pos hn, if_pos hn]
        exact ⟨rfl, rfl⟩
      · rw [if_neg hn, if_neg hn]
        exact tracks_entries measured doublePrecision n.toNat file.headerInfo rest
    case triangles =>
      exact Tracks.object ((V3dTriangleGroup.tracks_group doublePrecision bytes).ret _)
        fun object => { file with objects := file.objects ++ [object.join] }
    all_goals exact ⟨rfl, .inr⟩

/-- **Any record**: the reader consumes what the format says, or stops. -/
theorem tracks_type (measured : Bool) (versionNumber doublePrecision objectType : UInt32)
    (file : Loaded D F) (bytes : List UInt8) :
    Tracks ((loadType measured versionNumber doublePrecision objectType file).run ⟨bytes, true⟩)
      (.type (realSize doublePrecision) versionNumber objectType bytes) := by
  rw [loadType, Parse.type]
  cases ObjectTypes.ofCode objectType with
  | some t => exact tracks_record measured versionNumber doublePrecision file bytes t
  | none => exact ⟨rfl, .inr⟩

/-! ### The rounds of a file -/

/-- There is no round without a word to begin it. -/
theorem rounds_eq_nil (measured : Bool) (versionNumber doublePrecision : UInt32) (fuel : ℕ)
    (file : Loaded D F) {s : Stream} (h : s.good = false ∨ s.rest.length < 4) :
    rounds measured versionNumber doublePrecision fuel file s = [] := by
  have hread : ((Stream.read word).run s).1 = none := by
    obtain ⟨bytes, _ | _⟩ := s
    · rw [Stream.read_of_failed rfl]
    · have hlen := h.resolve_left Bool.noConfusion
      rw [Stream.read_of_none (sized_word.run_eq_none hlen)]
  cases fuel with
  | zero => rfl
  | succ fuel =>
    rw [rounds]
    generalize (Stream.read word).run s = r at hread
    obtain ⟨_ | objectType, s'⟩ := r
    · rfl
    · cases hread

omit [Xdr64 D] [Xdr32 F] [Rounding D F] [Scalar D] [Scalar F] in
/-- A round in front of others. -/
theorem Round.aligned_cons {r : Round D F} {rs : List (Round D F)} :
    Round.Aligned (r :: rs) ↔ (rs ≠ [] → r.Consumed) ∧ r.Stops ∧ Round.Aligned rs := by
  constructor
  · rintro ⟨hchain, hstops⟩
    rw [List.isChain_cons] at hchain
    refine ⟨fun hrs => ?_, hstops r List.mem_cons_self, hchain.2, fun r' hr' =>
      hstops r' (List.mem_cons_of_mem r hr')⟩
    obtain ⟨r', rs', rfl⟩ := List.exists_cons_of_ne_nil hrs
    exact hchain.1 r' rfl
  · rintro ⟨hconsumed, hr, hchain, hstops⟩
    refine ⟨List.isChain_cons.mpr ⟨fun r' hr' => hconsumed ?_, hchain⟩, fun r' hr' => ?_⟩
    · rintro rfl
      cases hr'
    · obtain rfl | hr' := List.mem_cons.mp hr'
      · exact hr
      · exact hstops r' hr'

omit [Xdr64 D] [Xdr32 F] [Rounding D F] [Scalar D] [Scalar F] in
/-- A file without rounds is aligned. -/
theorem Round.aligned_nil : Round.Aligned ([] : List (Round D F)) :=
  ⟨List.IsChain.nil, fun _ hr => absurd hr List.not_mem_nil⟩

/-- **The rounds of a file are aligned** where no record is refused with a word behind it, by
induction on them. -/
theorem aligned_rounds (measured : Bool) (versionNumber doublePrecision : UInt32) (fuel : ℕ)
    (file : Loaded D F) (bytes : List UInt8) :
    Round.Aligned (rounds measured versionNumber doublePrecision fuel file ⟨bytes, true⟩) ↔
      Parse.accepted (realSize doublePrecision) versionNumber fuel bytes = true := by
  induction fuel generalizing file bytes with
  | zero => exact iff_of_true Round.aligned_nil rfl
  | succ fuel ih =>
    rcases hword : word.run bytes with _ | ⟨objectType, rest⟩
    · rw [rounds, Stream.read_of_none hword, Parse.accepted, hword]
      exact iff_of_true Round.aligned_nil rfl
    · have htracks := tracks_type measured versionNumber doublePrecision objectType file rest
      rw [rounds, Stream.read_of_some hword, Parse.accepted, hword]
      dsimp only
      generalize (loadType measured versionNumber doublePrecision objectType file).run ⟨rest, true⟩
        = r at htracks
      obtain ⟨⟨file', goOn⟩, s⟩ := r
      rw [Round.aligned_cons]
      -- A round whose payload is not refused has nothing to stop for.
      have hstops {c : Parse} (hc : Parse.type (realSize doublePrecision) versionNumber objectType
          rest = c) (hcapped : ∀ later, c ≠ .capped later) (hrefused : ∀ later, c ≠ .refused later)
          {file'' : Loaded D F} {goOn' : Bool} {s' : Stream} :
          Round.Stops ⟨versionNumber, doublePrecision, objectType, rest, file'', goOn', s'⟩ := by
        rintro later (h | h) _
        · exact absurd (hc.symm.trans h) (hcapped later)
        · exact absurd (hc.symm.trans h) (hrefused later)
      have hlast (hs : goOn = false ∨ s.good = false ∨ s.rest.length < 4) :
          (if goOn then rounds measured versionNumber doublePrecision fuel
            file' s else []) = [] := by
        cases goOn with
        | false => rfl
        | true => exact rounds_eq_nil _ _ _ _ _ (hs.resolve_left Bool.noConfusion)
      cases hparse : Parse.type (realSize doublePrecision) versionNumber objectType rest with
      | more rest' =>
        rw [hparse] at htracks
        obtain ⟨rfl, rfl⟩ := htracks
        have hconsumed : Round.Consumed ⟨versionNumber, doublePrecision, objectType, rest, file',
            true, ⟨rest', true⟩⟩ := ⟨hparse, rfl⟩
        refine Iff.trans ⟨fun h => h.2.2, fun h => ⟨fun _ => hconsumed, ?_, h⟩⟩ (ih file' rest')
        exact hstops hparse (fun _ => Parse.noConfusion) (fun _ => Parse.noConfusion)
      | short =>
        rw [hparse] at htracks
        rw [hlast (htracks.imp_right .inl)]
        refine iff_of_true ⟨fun h => absurd rfl h, ?_, Round.aligned_nil⟩ rfl
        exact hstops hparse (fun _ => Parse.noConfusion) (fun _ => Parse.noConfusion)
      | capped later =>
        rw [hparse] at htracks
        obtain ⟨rfl, rfl⟩ := htracks
        refine iff_of_true ⟨fun h => absurd rfl h, ?_, Round.aligned_nil⟩ rfl
        rintro later' (h | h) _
        · cases hparse.symm.trans h
          exact ⟨rfl, rfl⟩
        · cases hparse.symm.trans h
      | refused later =>
        rw [hparse] at htracks
        obtain ⟨rfl, hshort⟩ := htracks
        by_cases hlen : later.length < 4
        · rw [hlast (.inr (hshort hlen))]
          refine iff_of_true ⟨fun h => absurd rfl h, ?_, Round.aligned_nil⟩ (decide_eq_true hlen)
          rintro later' (h | h) hlater
          · cases hparse.symm.trans h
          · cases hparse.symm.trans h
            omega
        · refine iff_of_false (fun h => ?_) (by simpa using hlen)
          have hgo := (h.2.1 later (.inr hparse) (by omega)).1
          cases hgo

/-- **Alignment**: every word that is taken for a type follows a consumed payload, and nothing is
read behind a refusal, exactly when no type and no triangle group is refused with another word
behind it. -/
theorem aligned_iff (measured : Bool) (bytes : List UInt8) :
    Round.Aligned (loadRounds D F measured bytes) ↔ acceptedRecords bytes = true := by
  rw [loadRounds, acceptedRecords]
  rcases word.run bytes with _ | ⟨versionNumber, rest⟩
  · exact iff_of_true Round.aligned_nil rfl
  · dsimp only
    by_cases hold : versionNumber < 1
    · rw [if_pos hold, if_pos hold]
      exact iff_of_true Round.aligned_nil rfl
    · rw [if_neg hold, if_neg hold]
      rcases word.run rest with _ | ⟨doublePrecisionFlag, rest'⟩
      · exact iff_of_true Round.aligned_nil rfl
      · exact aligned_rounds measured versionNumber doublePrecisionFlag _ _ rest'

end Reader

/-- A single-precision file of version 2 with one triangle group, which announces 16777216
triangles. The payload goes on with the bytes of a pixel record. -/
def excessiveGroup : List UInt8 :=
  [0, 0, 0, 2, 0, 0, 0, 0, 0, 0, 2, 0, 1, 0, 0, 0, 0, 0, 0, 0] ++
    [0, 0, 0x10, 0, 0, 0, 0, 1, 0, 0, 0, 2, 0, 0, 0, 3, 0, 0, 0, 4, 0, 0, 0, 0]

/-- The group is given up, and the bytes behind its counts become a pixel of the scene. -/
theorem not_aligned_excessiveGroup :
    ¬ Round.Aligned (loadRounds Int64 Int32 true excessiveGroup) ∧
      some (V3dObject.pixel ⟨⟨1, 2, 3⟩, 4, 0⟩) ∈
        (load true excessiveGroup : Loaded Int64 Int32 × Stream).1.objects := by
  have hround : ∃ r ∈ loadRounds Int64 Int32 true excessiveGroup,
      r.parse = .refused (excessiveGroup.drop 20) ∧ r.goOn = true := by decide +kernel
  refine ⟨fun h => ?_, by decide +kernel⟩
  obtain ⟨r, hr, hparse, hgo⟩ := hround
  have hstops := h.stops r hr (excessiveGroup.drop 20) (.inr hparse) (by decide)
  exact Bool.noConfusion (hgo.symm.trans hstops.1)

end OkularV3d
