import OkularV3d.File.Alignment

/-!
# The frames of header entries

A header entry announces its length in words, so that a reader can skip an entry it does not know.
`V3dFile::load` does that for unknown keys only: an entry of a known key is read in the layout of
this version, whatever length it announces.

`entries` are the entries that `load` meets in a file. `framesHeader_iff` says when each that is
processed ends where its length says: iff every entry of a known key whose payload is there
announces the size of its layout.

To limit the words of an unknown entry, `remainingBytes` moves the stream to its end and back.
`XStream` is a stream with a position and its flags, over a file, a pipe or a block of memory;
`remainingBytes` leaves it as it was (`snd_remainingBytes`), and `maxWords` is what the limit comes
to (`maxUnknownWords_eq`).

* `HeaderEntry` is an entry that is met, and `Framed` the property of one.
* `frames_iff` is the exact condition for one entry.
* `Source` tells files, pipes and memory apart: a pipe cannot be positioned, and its size is
  unknown.
-/

namespace OkularV3d

open Wire Wire.Parser

/-! ### Positions -/

/-- What is behind an `xdr::ixstream`: a file or a block of memory behind a `FILE` that can be
positioned, a pipe, or a block of memory that XDR reads itself, as on Windows. -/
inductive Source where
  | file
  | pipe
  | memory
  deriving DecidableEq

/-- An `xdr::ixstream`: where its bytes come from, how many there are, where it is, and its
flags. -/
structure XStream where
  source : Source
  size : ℕ
  position : ℕ
  eofbit : Bool
  failbit : Bool
  badbit : Bool
  deriving DecidableEq

namespace XStream

/-- `xios::good`. -/
def good (s : XStream) : Bool := !s.eofbit && !s.failbit && !s.badbit

/-- `xios::clear`. -/
def clear (s : XStream) : XStream := { s with eofbit := false, failbit := false, badbit := false }

/-- `xios::seekdir`, as far as it is used. -/
inductive SeekDir where
  | beg
  | «end»

/-- `tell`. A pipe has no position. -/
def tell (s : XStream) : ℤ :=
  match s.source with
  | .file | .memory => s.position
  | .pipe => -1

/-- `seek` to a position that is not negative. A pipe cannot be positioned, and the memory stream
does not look at the direction. -/
def seek (s : XStream) (pos : ℕ) (dir : SeekDir) : XStream :=
  match s.source with
  | .file =>
    match dir with
    | .beg => { s.clear with position := pos }
    | .end => { s.clear with position := s.size + pos }
  | .pipe => { s.clear with failbit := true }
  | .memory =>
    if pos ≤ s.size then { s.clear with position := pos } else { s.clear with eofbit := true }

/-- `remainingBytes`. -/
def remainingBytes (s : XStream) : ℤ × XStream :=
  if !s.good then (-1, s)
  else
    let cur := s.tell
    if cur < 0 then (-1, s)
    else
      let s := s.seek 0 .end
      let size := s.tell
      let s := s.seek cur.toNat .beg
      (if size ≥ cur then size - cur else -1, s)

/-- `maxWords`, as `load` computes it. -/
def maxUnknownWords (s : XStream) : ℕ :=
  let remaining := s.remainingBytes.1
  if 0 ≤ remaining ∧ (remaining / 4).toNat < kMaxUnknownHeaderWords then (remaining / 4).toNat
  else kMaxUnknownHeaderWords

end XStream

/-! ### Entries -/

/-- A header entry that is met: its key, its length, the bytes behind the length, whether parsing
goes on after it, and the stream it leaves. -/
structure HeaderEntry where
  doublePrecision : UInt32
  key : UInt32
  length : UInt32
  payload : List UInt8
  goOn : Bool
  after : Stream
  deriving DecidableEq

namespace HeaderEntry

/-- The entry is processed: parsing goes on, and no read of it has failed. -/
def Processed (e : HeaderEntry) : Prop := e.goOn = true ∧ e.after.good = true

/-- **The entry ends where its length says**: as many words have been read behind it. -/
def Framed (e : HeaderEntry) : Prop :=
  ∃ words, e.payload = words ++ e.after.rest ∧ words.length = 4 * e.length.toNat

/-- The bytes of an entry of a known key, unless it is a name that is too long. -/
def layout (real : ℕ) (payload : List UInt8) : HeaderTypes → Option ℕ
  | .canvasWidth | .canvasHeight | .absolute | .orthographic => some 4
  | .background => some 16
  | .minBound | .maxBound => some (3 * real)
  | .viewportShift | .viewportMargin => some (2 * real)
  | .light => some (3 * real + 12)
  | .angleOfView | .initialZoom | .zoomFactor | .zoomPinchFactor | .zoomPinchCap | .zoomStep
  | .shiftHoldDistance | .shiftWaitTime | .vibrateTime => some real
  | .image =>
    match doubleWord.run payload with
    | some (strLen, _) =>
      if maxImageName < strLen.toNat then none else some (8 + (strLen.toNat + 3) / 4 * 4)
    | none => none

/-- The condition on an entry: where its key is known and its payload is there, it announces the
words of its layout. -/
def DeclaresLayout (e : HeaderEntry) : Prop :=
  ∀ t ∈ HeaderTypes.ofCode e.key, ∀ size ∈ layout (realSize e.doublePrecision) e.payload t,
    size ≤ e.payload.length → size = 4 * e.length.toNat

end HeaderEntry

section Entries

variable {D F : Type} [Xdr64 D] [Xdr32 F] [Rounding D F]

/-- The entries of the loop over the header entries. -/
def headerEntries (measured : Bool) (doublePrecision : UInt32) :
    ℕ → LoadedInfo D F → Stream → List HeaderEntry
  | 0, _, _ => []
  | n + 1, info, s =>
    match (Stream.read word).run s with
    | (none, _) => []
    | (some key, s) =>
      match (Stream.read word).run s with
      | (none, _) => []
      | (some length, s) =>
        let r := (loadKey measured doublePrecision key length info).run s
        { doublePrecision, key, length, payload := s.rest, goOn := r.1.2, after := r.2 } ::
          if r.1.2 then headerEntries measured doublePrecision n r.1.1 r.2 else []

/-- The entries of a record, if it is a header. -/
def recordEntries (measured : Bool) (doublePrecision objectType : UInt32) (info : LoadedInfo D F)
    (s : Stream) : List HeaderEntry :=
  match ObjectTypes.ofCode objectType with
  | some .header =>
    match (Stream.read word).run s with
    | (none, _) => []
    | (some headerEntryCount, s) =>
      if kMaxHeaderEntries < headerEntryCount.toNat then []
      else headerEntries measured doublePrecision headerEntryCount.toNat info s
  | _ => []

variable [Scalar D] [Scalar F]

/-- The entries of the loop over the records. -/
def recordsEntries (measured : Bool) (versionNumber doublePrecision : UInt32) :
    ℕ → Loaded D F → Stream → List HeaderEntry
  | 0, _, _ => []
  | fuel + 1, file, s =>
    match (Stream.read word).run s with
    | (none, _) => []
    | (some objectType, s) =>
      let r := (loadType measured versionNumber doublePrecision objectType file).run s
      recordEntries measured doublePrecision objectType file.headerInfo s ++
        if r.1.2 then recordsEntries measured versionNumber doublePrecision fuel r.1.1 r.2 else []

variable (D F) in
/-- The header entries that `V3dFile::load` meets. -/
def loadHeaderEntries (measured : Bool) (bytes : List UInt8) : List HeaderEntry :=
  match word.run bytes with
  | none => []
  | some (versionNumber, rest) =>
    if versionNumber < 1 then []
    else
      match word.run rest with
      | none => []
      | some (doublePrecisionFlag, rest) =>
        recordsEntries measured versionNumber doublePrecisionFlag (bytes.length + 1)
          (.withFlags versionNumber doublePrecisionFlag : Loaded D F) ⟨rest, true⟩

variable (D F) in
/-- **The header is read by frames**: every entry that is processed ends where its length says, and
measuring what is left of a stream leaves the stream where and as it was. -/
structure FramesHeader (measured : Bool) (bytes : List UInt8) : Prop where
  entries : ∀ e ∈ loadHeaderEntries D F measured bytes, e.Processed → e.Framed
  measure : ∀ s : XStream, s.position ≤ s.size → s.remainingBytes.2 = s

end Entries

/-! ### Measuring a stream -/

namespace XStream

theorem clear_of_good {s : XStream} (h : s.good = true) : s.clear = s := by
  obtain ⟨source, size, position, eofbit, failbit, badbit⟩ := s
  simp only [good, Bool.and_eq_true, Bool.not_eq_true'] at h
  obtain ⟨⟨rfl, rfl⟩, rfl⟩ := h
  rfl

/-- **Measuring leaves the stream where it was**, with the same flags. -/
theorem snd_remainingBytes {s : XStream} (h : s.position ≤ s.size) : s.remainingBytes.2 = s := by
  rw [remainingBytes]
  by_cases hgood : s.good = true
  · have hclear : s.clear = s := clear_of_good hgood
    rw [if_neg (by simp [hgood])]
    obtain ⟨source, size, position, eofbit, failbit, badbit⟩ := s
    cases source with
    | file => exact hclear
    | pipe => rfl
    | memory =>
      change (if position ≤ size then _ else _) = _
      rw [if_pos h]
      exact hclear
  · rw [if_pos (by simpa using hgood)]

/-- What it returns: the bytes that are left of a file, and no measure of anything else. -/
theorem fst_remainingBytes {s : XStream} (hgood : s.good = true) (hpos : 0 < s.position)
    (h : s.position ≤ s.size) :
    s.remainingBytes.1 = if s.source = .file then ((s.size - s.position : ℕ) : ℤ) else -1 := by
  rw [remainingBytes, if_neg (by simp [hgood])]
  obtain ⟨source, size, position, eofbit, failbit, badbit⟩ := s
  cases source with
  | file =>
    change (if ((size + 0 : ℕ) : ℤ) ≥ position then ((size + 0 : ℕ) : ℤ) - position else -1) = _
    have hle : ((size + 0 : ℕ) : ℤ) ≥ position := by exact_mod_cast h
    rw [if_pos hle, if_pos rfl]
    change ((size + 0 : ℕ) : ℤ) - position = ((size - position : ℕ) : ℤ)
    omega
  | pipe => rfl
  | memory =>
    change (if ((0 : ℕ) : ℤ) ≥ position then _ else (-1 : ℤ)) = -1
    exact if_neg (by simpa using hpos.ne')

/-- The limit of an unknown entry is `maxWords` of the bytes behind its length. -/
theorem maxUnknownWords_eq {s : XStream} (hgood : s.good = true) (hpos : 0 < s.position)
    {rest : List UInt8} (hrest : s.position + rest.length = s.size) :
    s.maxUnknownWords = maxWords (s.source = .file) ⟨rest, true⟩ := by
  have hlen : s.size - s.position = rest.length := by omega
  rw [maxUnknownWords, fst_remainingBytes hgood hpos (by omega), hlen, maxWords]
  by_cases hfile : s.source = .file
  · simp only [hfile, if_true, decide_true]
    split_ifs <;> omega
  · simp only [hfile, if_false, decide_false]
    rfl

end XStream

/-! ### The frame of an entry -/

namespace HeaderEntry

/-- Where an entry of a known key has a layout, the format asks for its bytes and for no others. -/
theorem parse_of_layout {real size : ℕ} {payload : List UInt8} {t : HeaderTypes}
    (h : layout real payload t = some size) : Parse.entry real payload t = .sized size payload := by
  cases t
  case image =>
    change Parse.field doubleWord payload _ = _
    rw [layout] at h
    rw [Parse.field]
    rcases hname : doubleWord.run payload with _ | ⟨strLen, rest⟩ <;> rw [hname] at h
    · cases h
    · dsimp only at h ⊢
      by_cases hmax : maxImageName < strLen.toNat
      · rw [if_pos hmax] at h
        cases h
      · rw [if_neg hmax] at h ⊢
        -- the length of the name stands in front of its bytes
        have hsize : 8 + (strLen.toNat + 3) / 4 * 4 = size := Option.some.inj h
        have hle : 8 ≤ payload.length := by
          by_contra hlt
          rw [sized_doubleWord.run_eq_none (by omega)] at hname
          cases hname
        obtain ⟨w, hw⟩ := sized_doubleWord.run_eq_some hle
        obtain rfl : payload.drop 8 = rest := by
          rw [hw] at hname
          cases hname
          rfl
        rw [← hsize, Parse.sized, Parse.sized, List.length_drop, List.drop_drop]
        exact if_congr (by omega) rfl rfl
  all_goals
    cases h
    rfl

/-- An entry without one is a name that is too short or too long. -/
theorem parse_of_no_layout {real : ℕ} {payload : List UInt8} {t : HeaderTypes}
    (h : layout real payload t = none) :
    Parse.entry real payload t = .short ∨ ∃ later, Parse.entry real payload t = .capped later := by
  cases t
  case image =>
    change Parse.field doubleWord payload _ = _ ∨ ∃ later, Parse.field doubleWord payload _ = _
    rw [layout] at h
    rw [Parse.field]
    rcases hname : doubleWord.run payload with _ | ⟨strLen, rest⟩ <;> rw [hname] at h
    · exact .inl rfl
    · dsimp only at h ⊢
      by_cases hmax : maxImageName < strLen.toNat
      · rw [if_pos hmax]
        exact .inr ⟨rest, rfl⟩
      · rw [if_neg hmax] at h
        cases h
  all_goals cases h

/-- Behind the first `n` bytes of its payload, an entry is framed iff it announces as many. -/
theorem framed_drop {e : HeaderEntry} {n : ℕ} (h : e.after.rest = e.payload.drop n)
    (hn : n ≤ e.payload.length) : e.Framed ↔ n = 4 * e.length.toNat := by
  constructor
  · rintro ⟨words, hwords, hlen⟩
    have hlength := congrArg List.length hwords
    rw [List.length_append, h, List.length_drop] at hlength
    omega
  · intro hlen
    refine ⟨e.payload.take n, ?_, ?_⟩
    · rw [h, List.take_append_drop]
    · rw [List.length_take, min_eq_left hn, hlen]

/-- An entry whose payload is short or given up is not processed. -/
theorem not_processed {e : HeaderEntry} {c : Parse}
    (h : Tracks (((), e.goOn), e.after) c) (hc : c = .short ∨ ∃ later, c = .capped later) :
    ¬ e.Processed := by
  rintro ⟨hgo, hgood⟩
  obtain rfl | ⟨later, rfl⟩ := hc
  · obtain hstop | hbad := h
    · exact Bool.noConfusion (hgo.symm.trans hstop)
    · exact Bool.noConfusion (hgood.symm.trans hbad)
  · exact Bool.noConfusion (hgo.symm.trans h.1)

/-- A payload of `n` bytes: the entry is framed when processed iff it announces them, if they are
there. -/
theorem frames_sized {e : HeaderEntry} {n : ℕ}
    (h : Tracks (((), e.goOn), e.after) (.sized n e.payload)) :
    (e.Processed → e.Framed) ↔ (n ≤ e.payload.length → n = 4 * e.length.toNat) := by
  rw [Parse.sized] at h
  by_cases hn : n ≤ e.payload.length
  · rw [if_pos hn] at h
    obtain ⟨hgo, hafter⟩ := h
    have hrest : e.after.rest = e.payload.drop n := congrArg Stream.rest hafter
    have hprocessed : e.Processed := ⟨hgo, congrArg Stream.good hafter⟩
    rw [framed_drop hrest hn]
    exact ⟨fun hframed _ => hframed hprocessed, fun hlen _ => hlen hn⟩
  · rw [if_neg hn] at h
    exact iff_of_true (fun hp => absurd hp (not_processed h (.inl rfl))) fun hle => absurd hle hn

/-- **Frames**: an entry that follows the format is framed when processed iff it announces the
layout of its key. -/
theorem frames_iff {e : HeaderEntry}
    (h : Tracks (((), e.goOn), e.after)
      (.key (realSize e.doublePrecision) e.key e.length e.payload)) :
    (e.Processed → e.Framed) ↔ e.DeclaresLayout := by
  rw [Parse.key] at h
  rw [DeclaresLayout]
  cases hkey : HeaderTypes.ofCode e.key with
  | none =>
    rw [hkey] at h
    refine iff_of_true ?_ fun t ht => absurd ht (Option.not_mem_none t)
    dsimp only at h
    by_cases hmax : kMaxUnknownHeaderWords < e.length.toNat
    · rw [if_pos hmax] at h
      exact fun hp => absurd hp (not_processed h (.inr ⟨_, rfl⟩))
    · rw [if_neg hmax] at h
      exact (frames_sized h).mpr fun _ => Nat.mul_comm _ _
  | some t =>
    rw [hkey] at h
    dsimp only at h
    simp only [Option.mem_some, forall_eq']
    cases hlayout : layout (realSize e.doublePrecision) e.payload t with
    | none =>
      refine iff_of_true (fun hp => absurd hp (not_processed h (parse_of_no_layout hlayout))) ?_
      exact fun size hsize => absurd hsize (Option.not_mem_none size)
    | some size =>
      rw [parse_of_layout hlayout] at h
      rw [frames_sized h]
      simp only [Option.mem_some, forall_eq']

end HeaderEntry

/-! ### The frames of a file -/

section Frames

variable {D F : Type} [Xdr64 D] [Xdr32 F] [Rounding D F]

omit [Xdr64 D] [Xdr32 F] [Rounding D F] in
/-- A read that succeeds leaves a good stream. -/
theorem good_of_read {α : Type} {p : Parser α} {s s' : Stream} {a : α}
    (h : (Stream.read p).run s = (some a, s')) : s' = ⟨s'.rest, true⟩ := by
  obtain ⟨bytes, _ | _⟩ := s
  · rw [Stream.read_of_failed rfl] at h
    cases h
  · rcases hp : p.run bytes with _ | ⟨b, rest⟩
    · rw [Stream.read_of_none hp] at h
      cases h
    · rw [Stream.read_of_some hp] at h
      cases h
      rfl

/-- The entries of a header, one by one. -/
theorem frames_headerEntries (measured : Bool) (doublePrecision : UInt32) (n : ℕ)
    (info : LoadedInfo D F) (s : Stream) :
    ∀ e ∈ headerEntries measured doublePrecision n info s,
      (e.Processed → e.Framed) ↔ e.DeclaresLayout := by
  induction n generalizing info s with
  | zero => exact fun e he => absurd he List.not_mem_nil
  | succ n ih =>
    intro e he
    rw [headerEntries] at he
    rcases hkey : (Stream.read word).run s with ⟨_ | key, s'⟩ <;> rw [hkey] at he
    · exact absurd he List.not_mem_nil
    dsimp only at he
    rcases hlength : (Stream.read word).run s' with ⟨_ | length, s''⟩ <;> rw [hlength] at he
    · exact absurd he List.not_mem_nil
    obtain rfl | he := List.mem_cons.mp he
    · -- the first entry: its payload is on a good stream
      apply HeaderEntry.frames_iff
      rw [good_of_read hlength]
      exact tracks_key measured doublePrecision key length info s''.rest
    · split_ifs at he
      · exact ih _ _ e he
      · exact absurd he List.not_mem_nil

/-- The entries of a record. -/
theorem frames_recordEntries (measured : Bool) (doublePrecision objectType : UInt32)
    (info : LoadedInfo D F) (s : Stream) :
    ∀ e ∈ recordEntries measured doublePrecision objectType info s,
      (e.Processed → e.Framed) ↔ e.DeclaresLayout := by
  intro e he
  rw [recordEntries] at he
  split at he
  · rcases hcount : (Stream.read word).run s with ⟨_ | headerEntryCount, s'⟩ <;> rw [hcount] at he
    · exact absurd he List.not_mem_nil
    · dsimp only at he
      split_ifs at he
      · exact absurd he List.not_mem_nil
      · exact frames_headerEntries measured doublePrecision _ info s' e he
  · exact absurd he List.not_mem_nil

variable [Scalar D] [Scalar F]

/-- The entries of the records. -/
theorem frames_recordsEntries (measured : Bool) (versionNumber doublePrecision : UInt32)
    (fuel : ℕ) (file : Loaded D F) (s : Stream) :
    ∀ e ∈ recordsEntries measured versionNumber doublePrecision fuel file s,
      (e.Processed → e.Framed) ↔ e.DeclaresLayout := by
  induction fuel generalizing file s with
  | zero => exact fun e he => absurd he List.not_mem_nil
  | succ fuel ih =>
    intro e he
    rw [recordsEntries] at he
    rcases htype : (Stream.read word).run s with ⟨_ | objectType, s'⟩ <;> rw [htype] at he
    · exact absurd he List.not_mem_nil
    · obtain he | he := List.mem_append.mp he
      · exact frames_recordEntries measured doublePrecision objectType file.headerInfo s' e he
      · split_ifs at he
        · exact ih _ _ e he
        · exact absurd he List.not_mem_nil

/-- The entries of a file. -/
theorem frames_loadHeaderEntries (measured : Bool) (bytes : List UInt8) :
    ∀ e ∈ loadHeaderEntries D F measured bytes,
      (e.Processed → e.Framed) ↔ e.DeclaresLayout := by
  intro e he
  rw [loadHeaderEntries] at he
  split at he
  · exact absurd he List.not_mem_nil
  · split_ifs at he
    · exact absurd he List.not_mem_nil
    · split at he
      · exact absurd he List.not_mem_nil
      · exact frames_recordsEntries measured _ _ _ _ _ e he

/-- **Framing**: every header entry that is processed ends where its length says, and measuring
keeps the stream, exactly when every entry of a known key whose payload is there announces the words
of its layout. -/
theorem framesHeader_iff (measured : Bool) (bytes : List UInt8) :
    FramesHeader D F measured bytes ↔
      ∀ e ∈ loadHeaderEntries D F measured bytes, e.DeclaresLayout := by
  constructor
  · intro h e he
    exact (frames_loadHeaderEntries measured bytes e he).mp (h.entries e he)
  · intro h
    refine ⟨fun e he => ?_, fun s hs => XStream.snd_remainingBytes hs⟩
    exact (frames_loadHeaderEntries measured bytes e he).mpr (h e he)

end Frames

/-- A single-precision file of version 2 with one header: a canvas width of 640 that announces two
words, the second 0, and a canvas height of 480. -/
def wideEntry : List UInt8 :=
  [0, 0, 0, 2, 0, 0, 0, 0, 0, 0, 0, 5, 0, 0, 0, 2] ++
    [0, 0, 0, 1, 0, 0, 0, 2, 0, 0, 2, 0x80, 0, 0, 0, 0] ++
    [0, 0, 0, 2, 0, 0, 0, 1, 0, 0, 1, 0xe0]

/-- The second word of the width becomes the key of the next entry, and the height is skipped. -/
theorem not_framesHeader_wideEntry :
    ¬ FramesHeader Int64 Int32 true wideEntry ∧
      (load true wideEntry : Loaded Int64 Int32 × Stream).1.headerInfo.canvasHeight = 500 := by
  have hentry : ∃ e ∈ loadHeaderEntries Int64 Int32 true wideEntry,
      e.goOn = true ∧ e.after.good = true ∧ e.length = 2 ∧ e.payload.length = 20 ∧
        e.after.rest.length = 16 := by decide +kernel
  refine ⟨fun h => ?_, by decide +kernel⟩
  obtain ⟨e, he, hgo, hgood, hlength, hpayload, hrest⟩ := hentry
  obtain ⟨words, hwords, hlen⟩ := h.entries e he ⟨hgo, hgood⟩
  have hsum := congrArg List.length hwords
  rw [List.length_append, hpayload, hrest, hlen, hlength] at hsum
  exact absurd hsum (by decide)

end OkularV3d
