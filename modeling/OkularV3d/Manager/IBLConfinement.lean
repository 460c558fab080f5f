import OkularV3d.Lib.RelativePath
import OkularV3d.Manager.IBLDownload
import Mathlib.Data.List.DropRight

/-!
# Paths built from an image name

The image name of a document selects a directory of the image library, on the disk and on the
server. `RenderModel` follows the name from the header to every path that is built from it: the
files `resolveIBLPath` tries, the directories and files `performIBLDownload` makes, the paths it
asks the server for, and the path that goes to the renderer.

The library names local paths by bytes, and `performIBLDownload` by `QString`s. What
`QString::fromStdString` does is a parameter, `Utf8Reader`: it reads ASCII as itself and anything
else as something else, and it may drop a byte order mark. `confined_iff` says for which names all
paths stay inside the library, whatever the disk, the user and the server do.

* `iblNameOK_iff` says what the check of the source accepts.
* `tryIBLDir_inside` and `performIBLDownload_confined` follow a name along its two ways.
* `requested_nothingThere` shows that the condition cannot be weakened: where nothing is there, the
  whole download is asked for.
* `confined_iff` puts them together.
-/

namespace OkularV3d

namespace IBLConfinement

open ByteString IBLDownload RelativePath

/-- A `QString`: its UTF-16 units. -/
abbrev QString := List UInt16

/-- The bytes of a string literal. -/
def bytes (literal : String) : ByteString := literal.toList.map fun c => UInt8.ofNat c.toNat

/-- `QStringLiteral`. -/
def qstring (literal : String) : QString := literal.toList.map fun c => UInt16.ofNat c.toNat

/-- The unit `'/'`. -/
def qslash : UInt16 := 0x2f

/-- The UTF-8 byte order mark. -/
def byteOrderMark : ByteString := [0xef, 0xbb, 0xbf]

/-- How Qt reads UTF-8: a decoder of an ASCII-compatible encoding, which never suppresses what it
cannot read, and whether a byte order mark in front is skipped. -/
structure Utf8Reader where
  fromUtf8 : ByteString → QString
  decodes : ∀ s, Decodes UInt8.toNat UInt16.toNat s (fromUtf8 s)
  skipsMark : Bool

namespace Utf8Reader

/-- What is left of a string once its byte order mark is skipped. -/
def afterMark (D : Utf8Reader) (s : ByteString) : ByteString :=
  if D.skipsMark && byteOrderMark.isPrefixOf s then s.drop byteOrderMark.length else s

/-- `QString::fromStdString`. -/
def fromStdString (D : Utf8Reader) (s : ByteString) : QString := D.fromUtf8 (D.afterMark s)

end Utf8Reader

/-! ### The paths -/

/-- Tries to open files one after another, up to the first that cannot be: whether all can, and
which have been tried. -/
def probe (good : ByteString → Bool) : List ByteString → Bool × List ByteString
  | [] => (true, [])
  | path :: paths =>
    if good path then ((probe good paths).1, path :: (probe good paths).2) else (false, [path])

/-- The name of a file of the library. -/
def fileName : DownloadTask → String
  | .refl => "refl.exr"
  | .diffuse => "diffuse.exr"
  | .level i => "refl" ++ toString i.val ++ ".exr"

/-- `tryIBLDir` of `resolveIBLPath`: `dir` if it has every file and its parent has `refl.exr`, else
the empty path; and the paths tried. -/
def tryIBLDir (good : ByteString → Bool) (dir : ByteString) : ByteString × List ByteString :=
  if dir.getLast? = some slash then (dir, [])
  else
    let files := (DownloadTask.diffuse :: (List.finRange 11).map .level).map fun task =>
      dir ++ slash :: bytes (fileName task)
    let (all, tried) := probe good files
    if !all then ([], tried)
    else
      match findLastSlash dir with
      | none => ([], tried)
      | some lastSlash =>
        let refl := dir.take (lastSlash + 1) ++ bytes (fileName .refl)
        (if good refl then dir else [], tried ++ [refl])

/-- `V3dModelManager::resolveIBLPath`, with the paths it tries. -/
def resolveIBLPath (good : ByteString → Bool) (iblBase imageName : ByteString) :
    ByteString × List ByteString :=
  if imageName.isEmpty then ([], [])
  else
    let name := normalizeIBLName imageName
    if name.isEmpty then ([], [])
    else if !iblNameOK name then ([], [])
    else tryIBLDir good (iblBase ++ slash :: name)

/-- What the code finds outside.

* `good`: the files that can be opened.
* `declined`, `pending`: whether the name is in `m_IBLDeclinedNames` or in `pendingPrompts`.
* `yes`: the answer to the prompt.
* `dataDir`: where the library is when no base directory is given.
* `mkpath`, `baseExists`, `reflExists`: which directories can be made, and what exists.
* `outcome`: how each reply finishes. -/
structure Outside where
  good : ByteString → Bool
  declined : Bool
  pending : Bool
  yes : Bool
  dataDir : QString
  mkpath : QString → Bool
  baseExists : Bool
  reflExists : Bool
  outcome : DownloadTask → ReplyOutcome

/-- The paths that leave the code.

* `tried`: the files opened for reading.
* `rendered`: the `iblPath` that goes to the renderer, empty if none.
* `made`: the directories passed to `mkpath`.
* `requested`: the paths on the server, behind the base URL and a slash.
* `written`: the files opened for writing. -/
structure Paths where
  tried : List ByteString
  rendered : ByteString
  made : List QString
  requested : List QString
  written : List QString

section Download

variable (D : Utf8Reader) (out : Outside)

/-- `qIblBase` of `performIBLDownload`. -/
def qIblBase (iblBase : ByteString) : QString :=
  if iblBase.isEmpty then out.dataDir else D.fromStdString iblBase

/-- `DownloadTask::remoteFile`. -/
def remoteFile (qImageName : QString) : DownloadTask → QString
  | .refl => qstring (fileName .refl)
  | task => qImageName ++ qslash :: qstring (fileName task)

/-- `DownloadTask::localPath`. -/
def localPath (qIblBase qImageName : QString) (task : DownloadTask) : QString :=
  qIblBase ++ qslash :: remoteFile qImageName task

/-- `V3dModelManager::performIBLDownload`, with the replies it starts. -/
def performIBLDownload (paths : Paths) (imageName iblBase : ByteString) : Paths :=
  let name := normalizeIBLName imageName
  if !iblNameOK name || !out.yes then paths
  else
    let base := qIblBase D out iblBase
    let envDir := base ++ qslash :: D.fromStdString name
    if !out.mkpath envDir then { paths with made := [envDir] }
    else if !out.baseExists && !out.mkpath base then { paths with made := [envDir, base] }
    else
      let requests := requests out.reflExists
      { paths with
        made := if out.baseExists then [envDir] else [envDir, base]
        requested := requests.map (remoteFile (D.fromStdString name))
        written := (requests.filter fun task => out.outcome task matches .body false _).map
          (localPath base (D.fromStdString name)) }

/-- The image of a model in `RenderModel`, up to the end of the download its prompt may start. -/
def RenderModel (imageName iblBase : ByteString) : Paths :=
  let none : Paths := ⟨[], [], [], [], []⟩
  if imageName.isEmpty || !iblNameOK (normalizeIBLName imageName) then none
  else
    let (iblPath, tried) := resolveIBLPath out.good iblBase imageName
    let paths := { none with tried, rendered := iblPath }
    if !iblPath.isEmpty || out.declined || out.pending then paths
    else performIBLDownload D out paths imageName iblBase

/-- **Every path stays in the library**: local paths inside the base directory, paths on the server
relative and without `'%'`. -/
structure Confined (iblBase : ByteString) (paths : Paths) : Prop where
  tried : ∀ path ∈ paths.tried, Inside UInt8.toNat iblBase path
  rendered : paths.rendered = [] ∨ Inside UInt8.toNat iblBase paths.rendered
  made : ∀ path ∈ paths.made, Inside UInt16.toNat (qIblBase D out iblBase) path
  requested : ∀ path ∈ paths.requested,
    Relative UInt16.toNat path ∧ ¬ ∃ u ∈ path, u.toNat = 0x25
  written : ∀ path ∈ paths.written, Inside UInt16.toNat (qIblBase D out iblBase) path

/-- The condition on a name: it is rejected, or what `QString::fromStdString` reads of it is not
empty and would be accepted as well. -/
def ReadsAsName (imageName : ByteString) : Prop :=
  imageName = [] ∨ iblNameOK (normalizeIBLName imageName) = false ∨
    D.afterMark (normalizeIBLName imageName) ≠ [] ∧
      iblNameOK (D.afterMark (normalizeIBLName imageName)) = true

instance (imageName : ByteString) : Decidable (ReadsAsName D imageName) :=
  inferInstanceAs (Decidable (_ ∨ _))

end Download

/-! ### Accepted names -/

theorem isDotDot_bytes_iff (part : ByteString) :
    IsDotDot UInt8.toNat part ↔ part = dotDot := by
  have hinj : Function.Injective (List.map UInt8.toNat) :=
    List.map_injective_iff.mpr fun _ _ h => UInt8.toNat_inj.mp h
  rw [IsDotDot, ← hinj.eq_iff]
  rfl

theorem isSeparator_bytes_iff (c : UInt8) :
    isSeparator UInt8.toNat c = true ↔ c = slash ∨ c = backslash := by
  simp only [isSeparator, Bool.or_eq_true, beq_iff_eq, ← UInt8.toNat_inj]
  rfl

/-- The components of `iblNameOK` are the text between separators. -/
theorem componentsFrom_eq (cur name : ByteString) :
    componentsFrom cur name =
      (RelativePath.components UInt8.toNat name).modifyHead (cur.reverse ++ ·) := by
  induction name generalizing cur with
  | nil => simp [componentsFrom, RelativePath.components]
  | cons c name ih =>
    obtain ⟨part, parts, hparts⟩ := exists_components UInt8.toNat name
    rw [RelativePath.components] at hparts ih ⊢
    rw [componentsFrom, List.splitOnP_cons_eq_if_modifyHead]
    simp only [isSeparator_bytes_iff]
    split_ifs
    · rw [ih, hparts]
      simp
    · rw [ih, hparts]
      simp

/-- **What `iblNameOK` accepts** are the relative paths without `'%'`. -/
theorem iblNameOK_iff (name : ByteString) :
    iblNameOK name = true ↔
      Relative UInt8.toNat name ∧ ¬ ∃ c ∈ name, c.toNat = 0x25 := by
  have hpercent : name.contains percent = true ↔ ∃ c ∈ name, c.toNat = 0x25 := by
    rw [List.contains_iff_mem]
    constructor
    · exact fun h => ⟨percent, h, rfl⟩
    · rintro ⟨c, hc, hcode⟩
      rwa [show c = percent from UInt8.toNat_inj.mp hcode] at hc
  have hcontrol : name.any (fun c => c < 0x20 || c == 0x7f) = false ↔
      ∀ c ∈ name, isControl UInt8.toNat c = false := by
    rw [List.any_eq_false]
    refine forall₂_congr fun c _ => ?_
    simp only [isControl, Bool.or_eq_true, Bool.or_eq_false_iff, decide_eq_true_eq, beq_iff_eq,
      decide_eq_false_iff_not, beq_eq_false_iff_ne, not_or, UInt8.lt_iff_toNat_lt,
      ← UInt8.toNat_inj, Ne]
    rfl
  -- the four tests of the code, one after the other
  have hhead : (name.head?.any fun c => c == slash || c == backslash) = false ↔
      ∀ c ∈ name.head?, isSeparator UInt8.toNat c = false := by
    cases name with
    | nil => simp
    | cons c name =>
      simp only [List.head?_cons, Option.any_some, Option.mem_def, Option.some.injEq, forall_eq',
        ← Bool.not_eq_true, isSeparator_bytes_iff, Bool.or_eq_true, beq_iff_eq]
  have hdots : (ByteString.components name).contains dotDot = false ↔
      ∀ part ∈ RelativePath.components UInt8.toNat name, ¬ IsDotDot UInt8.toNat part := by
    have heq : ByteString.components name = RelativePath.components UInt8.toNat name := by
      obtain ⟨part, parts, hparts⟩ := exists_components UInt8.toNat name
      rw [ByteString.components, componentsFrom_eq, hparts]
      rfl
    rw [heq, ← Bool.not_eq_true, List.contains_iff_mem]
    constructor
    · intro h part hmem hpart
      rw [isDotDot_bytes_iff] at hpart
      exact h (hpart ▸ hmem)
    · exact fun h hmem => h _ hmem ((isDotDot_bytes_iff _).mpr rfl)
  simp only [iblNameOK, Bool.and_eq_true, Bool.not_eq_true', hcontrol, hhead, hdots]
  rw [← Bool.not_eq_true, hpercent]
  constructor
  · rintro ⟨⟨⟨hpercent, hcontrol⟩, hhead⟩, hdots⟩
    exact ⟨⟨hhead, hdots, hcontrol⟩, hpercent⟩
  · rintro ⟨⟨hhead, hdots, hcontrol⟩, hpercent⟩
    exact ⟨⟨⟨hpercent, hcontrol⟩, hhead⟩, hdots⟩

/-! ### The paths tried -/

/-- A name that can stand behind a directory: no `".."`, no control character, no `'%'`. -/
def Plain {α : Type*} (code : α → Nat) (file : List α) : Prop :=
  (∀ part ∈ RelativePath.components code file, ¬ IsDotDot code part) ∧
    (∀ c ∈ file, isControl code c = false) ∧ ∀ c ∈ file, code c ≠ 0x25

instance {α : Type*} (code : α → Nat) (file : List α) : Decidable (Plain code file) :=
  inferInstanceAs (Decidable (_ ∧ _))

/-- The files of the library are plain, named by bytes or by UTF-16. -/
theorem plain_fileName (task : DownloadTask) :
    Plain UInt8.toNat (bytes (fileName task)) ∧ Plain UInt16.toNat (qstring (fileName task)) := by
  have hlevel : ∀ i : Fin 11, Plain UInt8.toNat (bytes (fileName (.level i))) ∧
      Plain UInt16.toNat (qstring (fileName (.level i))) := by
    decide
  cases task with
  | refl => decide
  | diffuse => decide
  | level i => exact hlevel i

/-- A file of the library behind a relative path. -/
theorem relative_append_fileName {name : ByteString} (hne : name ≠ [])
    (hname : Relative UInt8.toNat name) (task : DownloadTask) :
    Relative UInt8.toNat (name ++ slash :: bytes (fileName task)) := by
  have hslash : UInt8.toNat slash = 0x2f := rfl
  obtain ⟨hdots, hcontrol, -⟩ := (plain_fileName task).1
  exact (relative_append_iff hslash _ _).mpr ⟨hne, hname, hdots, hcontrol⟩

theorem mem_of_mem_probe {good : ByteString → Bool} {files : List ByteString} {path : ByteString}
    (h : path ∈ (probe good files).2) : path ∈ files := by
  induction files with
  | nil => exact absurd h List.not_mem_nil
  | cons file files ih =>
    unfold probe at h
    split_ifs at h
    · rcases List.mem_cons.mp h with rfl | h
      · exact List.mem_cons_self
      · exact List.mem_cons_of_mem _ (ih h)
    · rw [List.mem_singleton.mp h]
      exact List.mem_cons_self

/-- What `find_last_of('/')` finds, and what `substr` keeps up to it. -/
theorem findLastSlash_append (front : ByteString) {back : ByteString} (h : slash ∉ back) :
    findLastSlash (front ++ slash :: back) = some front.length := by
  have hback : back.reverse.findIdx? (· == slash) = none := by
    rw [List.findIdx?_eq_none_iff]
    intro c hc
    simp only [beq_eq_false_iff_ne]
    rintro rfl
    exact h (List.mem_reverse.mp hc)
  have hfront : (slash :: front.reverse).findIdx? (· == slash) = some 0 := by
    simp [List.findIdx?_cons]
  rw [findLastSlash, List.reverse_append, List.reverse_cons, List.append_assoc,
    List.findIdx?_append, hback, List.singleton_append, hfront]
  simp

theorem take_append_slash (front back : ByteString) :
    (front ++ slash :: back).take (front.length + 1) = front ++ [slash] := by
  rw [List.append_cons, List.take_left' (by simp)]

/-- A name is cut at its last slash, if it has one. -/
theorem eq_append_slash (name : ByteString) :
    slash ∉ name ∨ ∃ front back, name = front ++ slash :: back ∧ slash ∉ back := by
  by_cases h : slash ∈ name
  · right
    obtain ⟨as, bs, hrev, has⟩ := List.eq_append_cons_of_mem (List.mem_reverse.mpr h)
    refine ⟨bs.reverse, as.reverse, ?_, by simpa using has⟩
    rw [← List.reverse_reverse name, hrev]
    simp
  · exact .inl h

/-- The directory above a directory of the library is inside it. -/
theorem inside_parent {name : ByteString} (hname : Relative UInt8.toNat name) (base : ByteString)
    {lastSlash : Nat} (h : findLastSlash (base ++ slash :: name) = some lastSlash) :
    Inside UInt8.toNat base
      ((base ++ slash :: name).take (lastSlash + 1) ++ bytes (fileName .refl)) := by
  have hslash : UInt8.toNat slash = 0x2f := rfl
  rcases eq_append_slash name with hnone | ⟨front, back, rfl, hback⟩
  · -- a name of one component: the directory above is the base directory
    rw [findLastSlash_append base hnone, Option.some.injEq] at h
    rw [← h, take_append_slash, List.append_assoc, List.singleton_append]
    refine (inside_append_iff hslash _ _).mpr ⟨by decide +kernel, ?_, ?_⟩
    · exact (plain_fileName .refl).1.1
    · exact (plain_fileName .refl).1.2.1
  · have heq : base ++ slash :: (front ++ slash :: back) =
        (base ++ slash :: front) ++ slash :: back := by simp
    rw [heq, findLastSlash_append _ hback, Option.some.injEq] at h
    rw [heq, ← h, take_append_slash]
    obtain ⟨hne, hfront, -⟩ := (relative_append_iff hslash _ _).mp hname
    have hrel := relative_append_fileName hne hfront .refl
    have hpath : base ++ slash :: front ++ [slash] ++ bytes (fileName .refl) =
        base ++ slash :: (front ++ slash :: bytes (fileName .refl)) := by simp
    rw [hpath]
    exact (inside_append_iff hslash _ _).mpr hrel

/-- **The probe stays inside**: every file tried for a relative name, and the directory found. -/
theorem tryIBLDir_inside (good : ByteString → Bool) (base : ByteString) {name : ByteString}
    (hne : name ≠ []) (hname : Relative UInt8.toNat name) :
    (∀ path ∈ (tryIBLDir good (base ++ slash :: name)).2, Inside UInt8.toNat base path) ∧
      ((tryIBLDir good (base ++ slash :: name)).1 = [] ∨
        Inside UInt8.toNat base (tryIBLDir good (base ++ slash :: name)).1) := by
  have hslash : UInt8.toNat slash = 0x2f := rfl
  have hdir : Inside UInt8.toNat base (base ++ slash :: name) :=
    (inside_append_iff hslash _ _).mpr hname
  have hfile : ∀ task, Inside UInt8.toNat base
      (base ++ slash :: name ++ slash :: bytes (fileName task)) := by
    intro task
    have hrel := relative_append_fileName hne hname task
    rw [List.append_assoc, List.cons_append]
    exact (inside_append_iff hslash _ _).mpr hrel
  -- the files are probed in the directory, and after them its parent
  have hprobe : ∀ path ∈ (probe good ((DownloadTask.diffuse :: (List.finRange 11).map .level).map
      fun task => base ++ slash :: name ++ slash :: bytes (fileName task))).2,
      Inside UInt8.toNat base path := by
    intro path hpath
    obtain ⟨task, -, rfl⟩ := List.mem_map.mp (mem_of_mem_probe hpath)
    exact hfile task
  unfold tryIBLDir
  dsimp only
  split_ifs
  · exact ⟨fun _ h => absurd h List.not_mem_nil, .inr hdir⟩
  · exact ⟨hprobe, .inl rfl⟩
  · cases hlast : findLastSlash (base ++ slash :: name) with
    | none => exact ⟨hprobe, .inl rfl⟩
    | some lastSlash =>
      have hparent := inside_parent hname base hlast
      dsimp only
      constructor
      · intro path hpath
        rcases List.mem_append.mp hpath with hpath | hpath
        · exact hprobe path hpath
        · rw [List.mem_singleton.mp hpath]
          exact hparent
      · split_ifs
        · exact .inr hdir
        · exact .inl rfl

/-- Whatever the name, `resolveIBLPath` stays inside the library. -/
theorem resolveIBLPath_inside (good : ByteString → Bool) (base imageName : ByteString) :
    (∀ path ∈ (resolveIBLPath good base imageName).2, Inside UInt8.toNat base path) ∧
      ((resolveIBLPath good base imageName).1 = [] ∨
        Inside UInt8.toNat base (resolveIBLPath good base imageName).1) := by
  have hnothing : (∀ path ∈ ([] : List ByteString), Inside UInt8.toNat base path) ∧
      (([] : ByteString) = [] ∨ Inside UInt8.toNat base []) :=
    ⟨fun _ h => absurd h List.not_mem_nil, .inl rfl⟩
  unfold resolveIBLPath
  dsimp only
  split_ifs with hempty hname hok
  · exact hnothing
  · exact hnothing
  · exact hnothing
  · rw [Bool.not_eq_true', Bool.not_eq_false] at hok
    refine tryIBLDir_inside good base (fun h => hname ?_) ((iblNameOK_iff _).mp hok).1
    rw [h]
    rfl

/-! ### The paths made -/

section Download

variable {D : Utf8Reader}

/-- **What Qt reads is a name** without `'%'` behind which nothing leaves the library iff the bytes
behind the mark are accepted. -/
theorem fromStdString_iff (name : ByteString) :
    Relative UInt16.toNat (D.fromStdString name) ∧
        (¬ ∃ u ∈ D.fromStdString name, u.toNat = 0x25) ↔
      iblNameOK (D.afterMark name) = true := by
  have hdecodes := D.decodes (D.afterMark name)
  rw [iblNameOK_iff, hdecodes.relative_iff, hdecodes.exists_code_iff (by decide)]
  rfl

theorem fromStdString_eq_nil_iff (name : ByteString) :
    D.fromStdString name = [] ↔ D.afterMark name = [] :=
  (D.decodes (D.afterMark name)).eq_nil_iff.symm

/-- The path of a file of the image is relative iff the name read is, and is not empty. -/
theorem remoteFile_iff (name : QString) {task : DownloadTask} (htask : task ≠ .refl) :
    Relative UInt16.toNat (remoteFile name task) ∧
        (¬ ∃ u ∈ remoteFile name task, u.toNat = 0x25) ↔
      name ≠ [] ∧ Relative UInt16.toNat name ∧ ¬ ∃ u ∈ name, u.toNat = 0x25 := by
  have hslash : UInt16.toNat qslash = 0x2f := rfl
  obtain ⟨hdots, hcontrol, hpercent⟩ := (plain_fileName task).2
  have hpath : remoteFile name task = name ++ qslash :: qstring (fileName task) := by
    cases task with
    | refl => exact absurd rfl htask
    | diffuse | level i => rfl
  rw [hpath, relative_append_iff hslash]
  constructor
  · rintro ⟨⟨hne, hname, -, -⟩, hnone⟩
    refine ⟨hne, hname, ?_⟩
    rintro ⟨u, hu, hcode⟩
    exact hnone ⟨u, List.mem_append_left _ hu, hcode⟩
  · rintro ⟨hne, hname, hnone⟩
    refine ⟨⟨hne, hname, hdots, hcontrol⟩, ?_⟩
    rintro ⟨u, hu, hcode⟩
    rcases List.mem_append.mp hu with hu | hu
    · exact hnone ⟨u, hu, hcode⟩
    rcases List.mem_cons.mp hu with rfl | hu
    · exact absurd hcode (by decide)
    · exact hpercent u hu hcode

/-- The path of any file, once the name read is relative and not empty. -/
theorem relative_remoteFile {name : QString}
    (h : name ≠ [] ∧ Relative UInt16.toNat name ∧ ¬ ∃ u ∈ name, u.toNat = 0x25)
    (task : DownloadTask) :
    Relative UInt16.toNat (remoteFile name task) ∧
      ¬ ∃ u ∈ remoteFile name task, u.toNat = 0x25 := by
  by_cases htask : task = .refl
  · subst htask
    obtain ⟨hdots, hcontrol, hpercent⟩ := (plain_fileName .refl).2
    have hhead : ∀ c ∈ (qstring (fileName .refl)).head?, isSeparator UInt16.toNat c = false := by
      intro c hc
      have hfirst : (qstring (fileName .refl)).head? = some 0x72 := by decide
      rw [hfirst, Option.mem_some_iff] at hc
      rw [← hc]
      decide
    exact ⟨⟨hhead, hdots, hcontrol⟩, fun ⟨u, hu, hcode⟩ => hpercent u hu hcode⟩
  · exact (remoteFile_iff name htask).mpr h

/-- **The download stays inside** once the name read is relative and not empty. -/
theorem performIBLDownload_confined (out : Outside) {imageName iblBase : ByteString} {paths : Paths}
    (hname : D.fromStdString (normalizeIBLName imageName) ≠ [] ∧
      Relative UInt16.toNat (D.fromStdString (normalizeIBLName imageName)) ∧
        ¬ ∃ u ∈ D.fromStdString (normalizeIBLName imageName), u.toNat = 0x25)
    (htried : ∀ path ∈ paths.tried, Inside UInt8.toNat iblBase path)
    (hrendered : paths.rendered = [] ∨ Inside UInt8.toNat iblBase paths.rendered)
    (hnone : paths.made = [] ∧ paths.requested = [] ∧ paths.written = []) :
    Confined D out iblBase (performIBLDownload D out paths imageName iblBase) := by
  have hslash : UInt16.toNat qslash = 0x2f := rfl
  obtain ⟨hmade, hrequested, hwritten⟩ := hnone
  have henv : Inside UInt16.toNat (qIblBase D out iblBase)
      (qIblBase D out iblBase ++ qslash :: D.fromStdString (normalizeIBLName imageName)) :=
    (inside_append_iff hslash _ _).mpr hname.2.1
  have hself : Inside UInt16.toNat (qIblBase D out iblBase) (qIblBase D out iblBase) := .inl rfl
  -- the server sees relative names, the disk files of the directory
  have hrequests : ∀ path ∈ (requests out.reflExists).map
      (remoteFile (D.fromStdString (normalizeIBLName imageName))),
      Relative UInt16.toNat path ∧ ¬ ∃ u ∈ path, u.toNat = 0x25 := by
    intro path hpath
    obtain ⟨task, -, rfl⟩ := List.mem_map.mp hpath
    exact relative_remoteFile hname task
  have hwrites : ∀ tasks : List DownloadTask, ∀ path ∈ tasks.map
      (localPath (qIblBase D out iblBase) (D.fromStdString (normalizeIBLName imageName))),
      Inside UInt16.toNat (qIblBase D out iblBase) path := by
    intro tasks path hpath
    obtain ⟨task, -, rfl⟩ := List.mem_map.mp hpath
    exact (inside_append_iff hslash _ _).mpr (relative_remoteFile hname task).1
  unfold performIBLDownload
  dsimp only
  split_ifs
  · exact ⟨htried, hrendered, by simp [hmade], by simp [hrequested], by simp [hwritten]⟩
  · exact ⟨htried, hrendered, by simpa using henv, by simp [hrequested], by simp [hwritten]⟩
  · exact ⟨htried, hrendered, by simpa using ⟨henv, hself⟩, by simp [hrequested],
      by simp [hwritten]⟩
  · exact ⟨htried, hrendered, by simpa using henv, hrequests, hwrites _⟩
  · exact ⟨htried, hrendered, by simpa using ⟨henv, hself⟩, hrequests, hwrites _⟩

/-! ### The condition is exact -/

/-- Outside, nothing of the library is there, every prompt is answered with Yes, and no reply
comes back. -/
def nothingThere : Outside where
  good _ := false
  declined := false
  pending := false
  yes := true
  dataDir := []
  mkpath _ := true
  baseExists := true
  reflExists := true
  outcome _ := .networkError

/-- A normalised name does not end in a slash, so `resolveIBLPath` looks at the files. -/
theorem getLast?_normalizeIBLName (imageName : ByteString) :
    (normalizeIBLName imageName).getLast? ≠ some slash := by
  intro h
  have hne : normalizeIBLName imageName ≠ [] := by
    intro hnil
    simp [hnil] at h
  have hnot := List.rdropWhile_last_not _ _ hne
  rw [List.getLast?_eq_some_getLast hne, Option.some.injEq] at h
  exact hnot (beq_iff_eq.mpr h)

/-- No directory is found where no file can be opened. -/
theorem resolveIBLPath_nothingThere (base imageName : ByteString) :
    (resolveIBLPath nothingThere.good base imageName).1 = [] := by
  unfold resolveIBLPath
  dsimp only
  split_ifs with hempty hname hok
  · rfl
  · rfl
  · rfl
  · have hne : normalizeIBLName imageName ≠ [] := fun h => hname (by rw [h]; rfl)
    have hlast : (base ++ slash :: normalizeIBLName imageName).getLast? ≠ some slash := by
      rw [List.getLast?_append_of_ne_nil _ (List.cons_ne_nil _ _), List.getLast?_cons_of_ne_nil hne]
      exact getLast?_normalizeIBLName imageName
    unfold tryIBLDir
    rw [if_neg hlast]
    rfl

/-- **Where nothing is there, the whole download of an accepted name is asked for.** -/
theorem requested_nothingThere {imageName : ByteString} (base : ByteString) (hne : imageName ≠ [])
    (hok : iblNameOK (normalizeIBLName imageName) = true) :
    (RenderModel D nothingThere imageName base).requested =
      (requests true).map (remoteFile (D.fromStdString (normalizeIBLName imageName))) := by
  have hresolve : (resolveIBLPath (fun _ => false) base imageName).1 = [] :=
    resolveIBLPath_nothingThere base imageName
  unfold RenderModel
  simp [hne, hok, hresolve, performIBLDownload, nothingThere]

variable (D)

/-- **The paths built from an image name stay in the library**, whatever is found outside, iff the
name is rejected or what is read of it is a name. -/
theorem confined_iff (iblBase imageName : ByteString) :
    (∀ out, Confined D out iblBase (RenderModel D out imageName iblBase)) ↔
      ReadsAsName D imageName := by
  constructor
  · intro h
    by_cases hne : imageName = []
    · exact .inl hne
    by_cases hok : iblNameOK (normalizeIBLName imageName) = true
    swap
    · exact .inr (.inl (Bool.not_eq_true _ ▸ hok))
    have hrequested := (h nothingThere).requested
    rw [requested_nothingThere iblBase hne hok] at hrequested
    have hdiffuse := hrequested (remoteFile _ .diffuse) (List.mem_map_of_mem (by decide))
    rw [remoteFile_iff _ (by decide), fromStdString_iff, Ne, fromStdString_eq_nil_iff] at hdiffuse
    exact .inr (.inr hdiffuse)
  · intro hname out
    have hnothing : Confined D out iblBase ⟨[], [], [], [], []⟩ := by
      constructor <;> simp
    obtain ⟨htried, hrendered⟩ := resolveIBLPath_inside out.good iblBase imageName
    unfold RenderModel
    dsimp only
    split_ifs with hrejected hfound
    · exact hnothing
    · exact ⟨htried, hrendered, by simp, by simp, by simp⟩
    · refine performIBLDownload_confined out ?_ htried hrendered ⟨rfl, rfl, rfl⟩
      simp only [Bool.or_eq_true, List.isEmpty_iff, Bool.not_eq_true', not_or] at hrejected
      obtain ⟨hne, hok⟩ := hrejected
      have hread := (hname.resolve_left hne).resolve_left hok
      rw [fromStdString_iff, Ne, fromStdString_eq_nil_iff]
      exact hread

end Download

/-- A reader that replaces every byte it cannot read as ASCII, and skips the mark. -/
def asciiReader : Utf8Reader where
  fromUtf8 s := s.map fun c => if c < 0x80 then c.toUInt16 else 0xfffd
  decodes s := by
    induction s with
    | nil => exact .nil
    | cons c s ih =>
      rw [List.map_cons]
      split_ifs with hc
      · exact .ascii hc rfl ih
      · have hread : ∀ c' ∈ [c], 0x80 ≤ c'.toNat := by
          intro c' hc'
          rw [List.mem_singleton.mp hc']
          exact Nat.le_of_not_lt hc
        have hunits : ∀ u ∈ [(0xfffd : UInt16)], 0x80 ≤ u.toNat := by
          intro u hu
          rw [List.mem_singleton.mp hu]
          decide
        exact .other (List.cons_ne_nil _ _) (List.cons_ne_nil _ _) hread hunits ih
  skipsMark := true

/-- The name `/` is empty once it is normalised, and asks the server for `/diffuse.exr`; behind a
byte order mark `..` is no component that `iblNameOK` sees. -/
theorem not_confined_slash :
    ¬ Confined asciiReader nothingThere (bytes "/ibl")
        (RenderModel asciiReader nothingThere (bytes "/") (bytes "/ibl")) ∧
      ¬ Confined asciiReader nothingThere (bytes "/ibl")
        (RenderModel asciiReader nothingThere (byteOrderMark ++ bytes "../x") (bytes "/ibl")) := by
  constructor
  · intro h
    have hpath := (h.requested (qstring "/diffuse.exr") (by decide +kernel)).1.head
    exact absurd hpath (by decide +kernel)
  · intro h
    have hpath := (h.requested (qstring "../x/diffuse.exr") (by decide +kernel)).1.no_dotDot
    exact absurd hpath (by decide +kernel)

/-- A relative name with a directory in it is fine, and so is one with a trailing slash. -/
example : ReadsAsName asciiReader (bytes "snowyField/refl0/") := by decide

end IBLConfinement

end OkularV3d
