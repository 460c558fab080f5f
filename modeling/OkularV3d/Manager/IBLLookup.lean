import OkularV3d.Lib.SamePath
import OkularV3d.Manager.IBLConfinement

/-!
# What is downloaded is found

`performIBLDownload` writes the files of an image where `resolveIBLPath` is to find them. The one
builds its paths of `QString`s and puts `refl.exr` into the base directory; the other builds them of
bytes and looks for `refl.exr` in the directory above the image.

A disk is a set of files under paths that lead the same way (`SamePath`). `findsDownload_iff` says
for which names the files that are written are those that are found: for the names that are not
empty once they are normalised, that Qt reads as the same path (with the base directory), and that
have no directory of their own in front of the last slash.

* `FileNames` says how Qt and the file system name files, as far as this is relied on.
* `resolveIBLPath_eq` is what the lookup returns, `taskFile_eq` where the download writes.
* `forall_samePath_iff` compares the two, file by file.

Whether paths stay within the library is the subject of `OkularV3d.Manager.IBLConfinement`; here a
name may lead anywhere, as long as both ways lead there.
-/

namespace OkularV3d

namespace IBLConfinement

open ByteString IBLDownload RelativePath

/-- How Qt and the file system name files: Qt reads UTF-8 and encodes what it has read again, in an
ASCII-compatible encoding, character by character. -/
structure FileNames extends Utf8Reader where
  encodeName : QString → ByteString
  encodes : ∀ q, Decodes UInt16.toNat UInt8.toNat q (encodeName q)
  encode_append : ∀ p q, encodeName (p ++ qslash :: q) = encodeName p ++ slash :: encodeName q

/-- The files that can be opened, under every path that leads to them. -/
structure Disk where
  good : ByteString → Bool
  good_congr : ∀ p q, SamePath UInt8.toNat p q → good p = good q

namespace Disk

/-- A disk without files. -/
def empty : Disk where
  good _ := false
  good_congr _ _ _ := rfl

/-- The disk after files have been written. -/
def write (disk : Disk) (paths : List ByteString) : Disk where
  good p := disk.good p || paths.any fun q => decide (SamePath UInt8.toNat q p)
  good_congr p q h := by
    have hsame : ∀ r, decide (SamePath UInt8.toNat r p) = decide (SamePath UInt8.toNat r q) :=
      fun r => decide_eq_decide.mpr ⟨fun hr => hr.trans h, fun hr => hr.trans h.symm⟩
    simp only [disk.good_congr p q h, hsame]

/-- A file that is written can be opened, under every path that leads to it. -/
theorem good_write {disk : Disk} {paths : List ByteString} {p q : ByteString} (hq : q ∈ paths)
    (h : SamePath UInt8.toNat q p) : (disk.write paths).good p = true := by
  have hany : (paths.any fun q => decide (SamePath UInt8.toNat q p)) = true :=
    List.any_eq_true.mpr ⟨q, hq, decide_eq_true h⟩
  change (disk.good p || _) = true
  rw [hany, Bool.or_true]

end Disk

/-- `getIBLBase`: the value of `OKULAR_V3D_IMAGE_DIR`, or the `okular/ibl` of the data directory. -/
def getIBLBase (N : FileNames) (envDir : ByteString) (dataDir : QString) : ByteString :=
  if envDir.isEmpty then N.encodeName (dataDir ++ qslash :: qstring "okular/ibl") else envDir

/-- The file of a task that belongs to a directory that `resolveIBLPath` returns: inside it, and
`refl.exr` above it. -/
def requiredFile (dir : ByteString) (task : DownloadTask) : ByteString :=
  if task = .refl then
    match findLastSlash dir with
    | some lastSlash => dir.take (lastSlash + 1) ++ bytes (fileName .refl)
    | none => bytes (fileName .refl)
  else dir ++ slash :: bytes (fileName task)

namespace FileNames

variable (N : FileNames)

/-- What is found outside by a download that is wanted and that goes well: nothing fails. -/
def goesWell (disk : Disk) (dataDir : QString) (reflExists : Bool) : Outside where
  good := disk.good
  declined := false
  pending := false
  yes := true
  dataDir := dataDir
  mkpath _ := true
  baseExists := true
  reflExists := reflExists
  outcome _ := .body false true

/-- The file of a task, where `performIBLDownload` puts it. -/
def taskFile (base imageName : ByteString) (task : DownloadTask) : ByteString :=
  N.encodeName (localPath (N.fromStdString base)
    (N.fromStdString (normalizeIBLName imageName)) task)

/-- The files that a download writes that goes well. -/
def writtenFiles (disk : Disk) (envDir : ByteString) (dataDir : QString) (imageName : ByteString) :
    List ByteString :=
  let base := getIBLBase N envDir dataDir
  let out := goesWell disk dataDir (disk.good (N.taskFile base imageName .refl))
  let paths := performIBLDownload N.toUtf8Reader out ⟨[], [], [], [], []⟩ imageName base
  paths.written.map N.encodeName

/-- **The download is found**: on every disk on which the image is missing, once its files are
written, the lookup returns a directory, and the files that belong to it are those of the batch. -/
def FindsDownload (envDir : ByteString) (dataDir : QString) (imageName : ByteString) : Prop :=
  let base := getIBLBase N envDir dataDir
  ∀ disk : Disk, (resolveIBLPath disk.good base imageName).1 = [] →
    let after := disk.write (N.writtenFiles disk envDir dataDir imageName)
    let found := (resolveIBLPath after.good base imageName).1
    found ≠ [] ∧ ∀ task,
      SamePath UInt8.toNat (requiredFile found task) (N.taskFile base imageName task)

/-- What becomes of a text that Qt reads and encodes again. -/
def roundTrip (s : ByteString) : ByteString := N.encodeName (N.fromStdString s)

/-- The steps of a name in front of its last slash. -/
def above (name : ByteString) : List ByteString :=
  match findLastSlash name with
  | some lastSlash => steps UInt8.toNat (name.take lastSlash)
  | none => []

/-- The condition on a name: something is left of it, Qt reads it and the base directory as the same
paths, and it has no directory in front of its last slash. -/
structure PathsMeet (base imageName : ByteString) : Prop where
  ne_nil : normalizeIBLName imageName ≠ []
  base : SamePath UInt8.toNat (N.roundTrip base) base
  name : steps UInt8.toNat (N.roundTrip (normalizeIBLName imageName)) =
    steps UInt8.toNat (normalizeIBLName imageName)
  flat : above (normalizeIBLName imageName) = []

end FileNames

theorem getIBLBase_ne_nil (N : FileNames) (envDir : ByteString) (dataDir : QString) :
    getIBLBase N envDir dataDir ≠ [] := by
  unfold getIBLBase
  split_ifs with hempty
  · rw [N.encode_append]
    exact List.append_ne_nil_of_right_ne_nil _ (List.cons_ne_nil _ _)
  · exact fun h => hempty (List.isEmpty_iff.mpr h)

/-! ### What is looked up -/

section Lookup

variable {good : ByteString → Bool} {base imageName : ByteString}

theorem probe_of_forall {files : List ByteString} (h : ∀ file ∈ files, good file = true) :
    (probe good files).1 = true := by
  induction files with
  | nil => rfl
  | cons file files ih =>
    rw [probe, if_pos (h file List.mem_cons_self)]
    exact ih fun file hfile => h file (List.mem_cons_of_mem _ hfile)

/-- A normalised name does not end in a slash, nor does a directory that ends in it. -/
theorem getLast?_directory (base : ByteString) (hne : normalizeIBLName imageName ≠ []) :
    (base ++ slash :: normalizeIBLName imageName).getLast? ≠ some slash := by
  rw [List.getLast?_append_of_ne_nil _ (List.cons_ne_nil _ _), List.getLast?_cons_of_ne_nil hne]
  exact getLast?_normalizeIBLName imageName

theorem findLastSlash_eq_none {name : ByteString} (h : slash ∉ name) :
    findLastSlash name = none := by
  have hnone : name.reverse.findIdx? (· == slash) = none := by
    rw [List.findIdx?_eq_none_iff]
    rintro c hc
    rw [beq_eq_false_iff_ne]
    rintro rfl
    exact h (List.mem_reverse.mp hc)
  rw [findLastSlash, hnone, Option.map_none]

/-- **What `resolveIBLPath` returns** is nothing, or the directory of the name. -/
theorem resolveIBLPath_eq (h : (resolveIBLPath good base imageName).1 ≠ []) :
    normalizeIBLName imageName ≠ [] ∧
      (resolveIBLPath good base imageName).1 = base ++ slash :: normalizeIBLName imageName := by
  unfold resolveIBLPath at h ⊢
  dsimp only at h ⊢
  split_ifs at h ⊢ with hraw hempty hok
  · exact absurd rfl h
  · exact absurd rfl h
  · exact absurd rfl h
  · have hne : normalizeIBLName imageName ≠ [] := fun hnil => hempty (List.isEmpty_iff.mpr hnil)
    refine ⟨hne, ?_⟩
    unfold tryIBLDir at h ⊢
    rw [if_neg (getLast?_directory base hne)] at h ⊢
    dsimp only at h ⊢
    split_ifs at h ⊢ with hall
    · exact absurd rfl h
    · cases hlast : findLastSlash (base ++ slash :: normalizeIBLName imageName) with
      | none =>
        rw [hlast] at h
        exact absurd rfl h
      | some lastSlash =>
        rw [hlast] at h
        dsimp only at h ⊢
        split_ifs at h ⊢
        · rfl
        · exact absurd rfl h

/-- It returns the directory when every file that belongs to it can be opened. -/
theorem resolveIBLPath_of_forall (hraw : imageName ≠ [])
    (hok : iblNameOK (normalizeIBLName imageName) = true) (hne : normalizeIBLName imageName ≠ [])
    (h : ∀ task, good (requiredFile (base ++ slash :: normalizeIBLName imageName) task) = true) :
    (resolveIBLPath good base imageName).1 = base ++ slash :: normalizeIBLName imageName := by
  set dir := base ++ slash :: normalizeIBLName imageName with hdir
  obtain ⟨lastSlash, hlast⟩ : ∃ lastSlash, findLastSlash dir = some lastSlash := by
    obtain hnone | ⟨front, back, hname, hback⟩ := eq_append_slash (normalizeIBLName imageName)
    · exact ⟨_, findLastSlash_append base hnone⟩
    · have heq : dir = (base ++ slash :: front) ++ slash :: back := by rw [hdir, hname]; simp
      exact ⟨_, heq ▸ findLastSlash_append _ hback⟩
  have hfiles : (probe good ((DownloadTask.diffuse :: (List.finRange 11).map .level).map
      fun task => dir ++ slash :: bytes (fileName task))).1 = true := by
    refine probe_of_forall fun file hfile => ?_
    obtain ⟨task, htask, rfl⟩ := List.mem_map.mp hfile
    have hrefl : task ≠ .refl := by
      rintro rfl
      exact absurd htask (by decide)
    have hgood := h task
    rwa [requiredFile, if_neg hrefl] at hgood
  have hrefl := h .refl
  rw [requiredFile, if_pos rfl, hlast] at hrefl
  have hend : dir.getLast? ≠ some slash := getLast?_directory base hne
  unfold resolveIBLPath tryIBLDir
  simp only [List.isEmpty_iff, hraw, hne, hok, ← hdir, hend, hfiles, hlast,
    hrefl, if_false, if_true,
    Bool.not_true, Bool.false_eq_true]

end Lookup

/-! ### Where the files lead -/

section Paths

variable {N : FileNames} {base imageName : ByteString}

private theorem slash_code : UInt8.toNat slash = 0x2f := rfl

/-- The names of the files are encoded as themselves. -/
theorem encodeName_fileName (task : DownloadTask) :
    N.encodeName (qstring (fileName task)) = bytes (fileName task) := by
  have hlevel : ∀ i : Fin 11, (qstring (fileName (.level i))).map UInt16.toNat =
      (bytes (fileName (.level i))).map UInt8.toNat ∧
        ∀ k ∈ (bytes (fileName (.level i))).map UInt8.toNat, k < 0x80 := by
    decide
  have hcodes : (qstring (fileName task)).map UInt16.toNat =
      (bytes (fileName task)).map UInt8.toNat ∧
        ∀ k ∈ (bytes (fileName task)).map UInt8.toNat, k < 0x80 := by
    cases task with
    | refl => decide
    | diffuse => decide
    | level i => exact hlevel i
  have hinj : Function.Injective (List.map UInt8.toNat) :=
    List.map_injective_iff.mpr fun _ _ h => UInt8.toNat_inj.mp h
  exact hinj (((N.encodes _).map_code_eq_iff hcodes.2).mp hcodes.1)

/-- **Where a task's file is written**: behind what becomes of the base directory and of the
name. -/
theorem taskFile_eq (task : DownloadTask) :
    N.taskFile base imageName task =
      if task = .refl then N.roundTrip base ++ slash :: bytes (fileName .refl)
      else N.roundTrip base ++ slash ::
        (N.roundTrip (normalizeIBLName imageName) ++ slash :: bytes (fileName task)) := by
  cases task with
  | refl =>
    rw [if_pos rfl, ← encodeName_fileName (N := N) .refl]
    exact N.encode_append _ _
  | diffuse | level i =>
    rw [if_neg (by simp), ← encodeName_fileName (N := N)]
    exact (N.encode_append _ _).trans (congrArg _ (congrArg _ (N.encode_append _ _)))

/-- Where `refl.exr` is looked for: in the directory above the image. -/
theorem samePath_requiredFile_refl (hbase : base ≠ []) (name : ByteString) :
    absolute UInt8.toNat (requiredFile (base ++ slash :: name) .refl) =
        absolute UInt8.toNat base ∧
      steps UInt8.toNat (requiredFile (base ++ slash :: name) .refl) =
        steps UInt8.toNat base ++ FileNames.above name ++
          steps UInt8.toNat (bytes (fileName .refl)) := by
  -- the last slash is the one before the name, or one within it
  obtain hnone | ⟨front, back, rfl, hback⟩ := eq_append_slash name
  · have habove : FileNames.above name = [] := by
      rw [FileNames.above, findLastSlash_eq_none hnone]
    have hfile : requiredFile (base ++ slash :: name) .refl =
        base ++ slash :: bytes (fileName .refl) := by
      rw [requiredFile, if_pos rfl, findLastSlash_append base hnone]
      dsimp only
      rw [take_append_slash, List.append_assoc, List.singleton_append]
    rw [hfile, habove, List.append_nil, absolute_append hbase, steps_append slash_code]
    exact ⟨rfl, rfl⟩
  · have habove : FileNames.above (front ++ slash :: back) = steps UInt8.toNat front := by
      rw [FileNames.above, findLastSlash_append front hback]
      dsimp only
      rw [List.take_left]
    have hfile : requiredFile (base ++ slash :: (front ++ slash :: back)) .refl =
        base ++ slash :: (front ++ slash :: bytes (fileName .refl)) := by
      have heq : base ++ slash :: (front ++ slash :: back) =
          (base ++ slash :: front) ++ slash :: back := by simp
      rw [requiredFile, if_pos rfl, heq, findLastSlash_append _ hback]
      dsimp only
      rw [take_append_slash]
      simp
    rw [hfile, habove, absolute_append hbase, steps_append slash_code, steps_append slash_code,
      List.append_assoc]
    exact ⟨rfl, rfl⟩

/-- What becomes of a text has not more steps than the text. -/
theorem length_steps_roundTrip (s : ByteString) :
    (steps UInt8.toNat (N.roundTrip s)).length ≤ (steps UInt8.toNat s).length := by
  have hencoded : (steps UInt8.toNat (N.roundTrip s)).length =
      (steps UInt8.toNat (N.afterMark s)).length :=
    ((N.decodes (N.afterMark s)).length_steps.trans (N.encodes _).length_steps).symm
  rw [hencoded]
  unfold Utf8Reader.afterMark
  split_ifs with hmark
  · -- the mark that is skipped is no step by itself
    obtain ⟨rest, hrest⟩ := List.isPrefixOf_iff_prefix.mp (Bool.and_eq_true_iff.mp hmark).2
    rw [← hrest, List.drop_left]
    exact length_steps_le_append (by decide +kernel) rest
  · exact le_rfl

/-- A base directory that is read as the same path does not vanish. -/
theorem roundTrip_ne_nil (hbase : base ≠ [])
    (hsteps : steps UInt8.toNat (N.roundTrip base) = steps UInt8.toNat base) :
    N.roundTrip base ≠ [] := by
  intro hnil
  have hread : N.fromStdString base = [] := (N.encodes _).eq_nil_iff.mpr hnil
  have hafter : N.afterMark base = [] := (fromStdString_eq_nil_iff base).mp hread
  rw [hnil, steps_nil] at hsteps
  unfold Utf8Reader.afterMark at hafter
  split_ifs at hafter with hmark
  · -- the base directory is a mark, which is a step
    obtain ⟨rest, hrest⟩ := List.isPrefixOf_iff_prefix.mp (Bool.and_eq_true_iff.mp hmark).2
    rw [← hrest, List.drop_left] at hafter
    rw [← hrest, hafter] at hsteps
    exact absurd hsteps (by decide)
  · exact hbase hafter

/-- **The files that are written are those that are looked up** iff the paths meet. -/
theorem forall_samePath_iff (hbase : base ≠ []) (hne : normalizeIBLName imageName ≠ []) :
    (∀ task, SamePath UInt8.toNat
        (requiredFile (base ++ slash :: normalizeIBLName imageName) task)
        (N.taskFile base imageName task)) ↔
      N.PathsMeet base imageName := by
  set name := normalizeIBLName imageName with hname
  have hother : ∀ task ≠ .refl, requiredFile (base ++ slash :: name) task =
      base ++ slash :: (name ++ slash :: bytes (fileName task)) := by
    intro task htask
    rw [requiredFile, if_neg htask, List.append_assoc, List.cons_append]
  obtain ⟨habsolute, hsteps⟩ := samePath_requiredFile_refl hbase name
  constructor
  · intro h
    have hrefl := h .refl
    have hdiffuse := (h .diffuse).steps
    rw [taskFile_eq, if_pos rfl] at hrefl
    rw [taskFile_eq, if_neg (by decide), hother _ (by decide), ← hname, steps_append slash_code,
      steps_append slash_code, steps_append slash_code,
        steps_append slash_code, ← List.append_assoc,
      ← List.append_assoc] at hdiffuse
    have hall := List.append_cancel_right hdiffuse
    have hparent : steps UInt8.toNat base ++ FileNames.above name =
        steps UInt8.toNat (N.roundTrip base) := by
      have hsame := hrefl.steps
      rw [hsteps, steps_append slash_code] at hsame
      exact List.append_cancel_right hsame
    -- no step is added to the base directory, so none is above the image
    have hle := length_steps_roundTrip (N := N) base
    rw [← hparent, List.length_append] at hle
    have hflat : FileNames.above name = [] := List.length_eq_zero_iff.mp (by omega)
    rw [hflat, List.append_nil] at hparent
    rw [← hparent] at hall
    refine ⟨hne, ⟨?_, hparent.symm⟩, (List.append_cancel_left hall).symm, hflat⟩
    have hsame := hrefl.absolute
    rw [habsolute, absolute_append (roundTrip_ne_nil hbase hparent.symm)] at hsame
    exact hsame.symm
  · rintro ⟨-, hkept, hnameKept, hflat⟩ task
    have hround : N.roundTrip base ≠ [] := roundTrip_ne_nil hbase hkept.steps
    rw [taskFile_eq]
    split_ifs with htask
    · subst htask
      constructor
      · rw [habsolute, absolute_append hround, hkept.absolute]
      · rw [hsteps, hflat, List.append_nil, steps_append slash_code, hkept.steps]
    · rw [hother task htask]
      refine hkept.symm.append slash_code hbase hround ?_
      rw [steps_append slash_code, steps_append slash_code, hnameKept]

/-- Once a download has gone well, every file of the batch can be opened: it was written, or is the
`refl.exr` that existed. -/
theorem good_taskFile (hok : iblNameOK (normalizeIBLName imageName) = true) (disk : Disk)
    (envDir : ByteString) (dataDir : QString) (task : DownloadTask) :
    (disk.write (N.writtenFiles disk envDir dataDir imageName)).good
      (N.taskFile (getIBLBase N envDir dataDir) imageName task) = true := by
  set base := getIBLBase N envDir dataDir with hbase
  have hempty : base.isEmpty = false := by
    rw [Bool.eq_false_iff, ne_eq, List.isEmpty_iff]
    exact getIBLBase_ne_nil N envDir dataDir
  have hwritten : N.writtenFiles disk envDir dataDir imageName =
      (requests (disk.good (N.taskFile base imageName .refl))).map
        (N.taskFile base imageName) := by
    unfold FileNames.writtenFiles performIBLDownload qIblBase
    simp [FileNames.goesWell, hok, ← hbase, hempty, FileNames.taskFile, Function.comp_def]
  rw [hwritten]
  by_cases hskipped : task = .refl ∧ disk.good (N.taskFile base imageName .refl) = true
  · obtain ⟨rfl, hexists⟩ := hskipped
    change (disk.good _ || _) = true
    rw [hexists, Bool.true_or]
  · have hall : ∀ i : Fin 11, DownloadTask.level i ∈ tasks := by decide
    have htask : task ∈ tasks := by
      cases task with
      | refl => decide
      | diffuse => decide
      | level i => exact hall i
    have hrequested : task ∈ requests (disk.good (N.taskFile base imageName .refl)) := by
      rw [requests, List.mem_filter]
      refine ⟨htask, ?_⟩
      simpa using not_and_or.mp hskipped
    exact Disk.good_write (List.mem_map_of_mem hrequested) (.refl _)

end Paths

/-- An encoder to go with `asciiReader`: anything but ASCII is the replacement character. -/
def asciiNames : FileNames where
  toUtf8Reader := asciiReader
  encodeName q := q.flatMap fun u => if u < 0x80 then [u.toUInt8] else [0xef, 0xbf, 0xbd]
  encodes q := by
    induction q with
    | nil => exact .nil
    | cons u q ih =>
      rw [List.flatMap_cons]
      split_ifs with hu
      · have hlt : u.toNat < 0x80 := hu
        have hcode : u.toUInt8.toNat = u.toNat := by
          rw [UInt16.toNat_toUInt8]
          omega
        exact .ascii hlt hcode ih
      · have hread : ∀ u' ∈ [u], 0x80 ≤ u'.toNat := by
          intro u' hu'
          rw [List.mem_singleton.mp hu']
          exact Nat.le_of_not_lt hu
        exact .other (List.cons_ne_nil _ _) (List.cons_ne_nil _ _) hread (by decide +kernel) ih
  encode_append p q := by
    rw [List.flatMap_append, List.flatMap_cons]
    rfl

end IBLConfinement

end OkularV3d
