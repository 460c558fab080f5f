import Mathlib.Data.List.Forall2

/-!
# Relative paths as text

What a path names is decided by its text alone, before any file system sees it: its components
between separators, its first character, its control characters. `Relative` says of a text that it
can be put behind a directory without leaving it, and `Inside base path` that a path is such a text
put behind `base`.

Everything is stated over an arbitrary alphabet, of which only the code of a character is read, so
that a path of bytes and a path of UTF-16 units are instances. `Decodes` relates a text to what a
decoder of an ASCII-compatible encoding makes of it; `Decodes.relative_iff` says that decoding
cannot move a path out of its directory.

* `components` cuts a text at its separators; `Relative` is a property of the components and of the
  characters.
* `Inside` composes: a relative path behind a directory is inside it.
* `Decodes.components` and `Decodes.relative_iff` are about decoding.
-/

namespace OkularV3d.RelativePath

variable {α β : Type*} (code : α → Nat) (code' : β → Nat)

/-- A separator of either kind: `'/'` or `'\\'`. -/
def isSeparator (c : α) : Bool := code c == 0x2f || code c == 0x5c

/-- A control character of ASCII. -/
def isControl (c : α) : Bool := decide (code c < 0x20) || code c == 0x7f

/-- The text between separators. -/
def components (path : List α) : List (List α) := path.splitOnP (isSeparator code)

/-- The component `".."`. -/
def IsDotDot (component : List α) : Prop := component.map code = [0x2e, 0x2e]

instance (component : List α) : Decidable (IsDotDot code component) :=
  inferInstanceAs (Decidable (_ = _))

/-- A **relative** path that does not leave the directory it is put behind. -/
structure Relative (path : List α) : Prop where
  head : ∀ c ∈ path.head?, isSeparator code c = false
  no_dotDot : ∀ component ∈ components code path, ¬ IsDotDot code component
  no_control : ∀ c ∈ path, isControl code c = false

/-- A path **inside** a directory: the directory itself or a relative path behind it. -/
def Inside (base path : List α) : Prop :=
  path = base ∨ ∃ slash rel, code slash = 0x2f ∧ path = base ++ slash :: rel ∧ Relative code rel

/-- There is always a first component. -/
theorem exists_components (path : List α) :
    ∃ part parts, components code path = part :: parts :=
  List.exists_cons_of_ne_nil (List.splitOnP_ne_nil (isSeparator code) path)

/-- A text has no control character iff none of their codes occurs in it. -/
theorem forall_isControl_iff (path : List α) :
    (∀ c ∈ path, isControl code c = false) ↔
      ∀ k, k < 0x20 ∨ k = 0x7f → ¬ ∃ c ∈ path, code c = k := by
  constructor
  · rintro hpath k hk ⟨c, hc, rfl⟩
    have hcontrol := hpath c hc
    simp only [isControl, Bool.or_eq_false_iff, decide_eq_false_iff_not,
      beq_eq_false_iff_ne] at hcontrol
    omega
  · intro hpath c hc
    by_contra hcontrol
    simp only [isControl, Bool.not_eq_false, Bool.or_eq_true, decide_eq_true_eq,
      beq_iff_eq] at hcontrol
    exact hpath (code c) hcontrol ⟨c, hc, rfl⟩

/-! ### Joining -/

section Join

variable {code}

theorem isSeparator_of_slash {slash : α} (h : code slash = 0x2f) :
    isSeparator code slash = true := by
  simp [isSeparator, h]

theorem components_append {slash : α} (h : code slash = 0x2f) (p q : List α) :
    components code (p ++ slash :: q) = components code p ++ components code q :=
  List.splitOnP_append_cons p q (isSeparator_of_slash h)

/-- A path is relative iff what stands before a slash is, is not empty, and what stands after it
has no `".."` and no control character. -/
theorem relative_append_iff {slash : α} (h : code slash = 0x2f) (p q : List α) :
    Relative code (p ++ slash :: q) ↔ p ≠ [] ∧ Relative code p ∧
      (∀ component ∈ components code q, ¬ IsDotDot code component) ∧
        ∀ c ∈ q, isControl code c = false := by
  have hslash : isControl code slash = false := by simp [isControl, h]
  constructor
  · rintro ⟨hhead, hdots, hcontrol⟩
    rw [components_append h] at hdots
    have hne : p ≠ [] := by
      rintro rfl
      simp [isSeparator, h] at hhead
    refine ⟨hne, ⟨?_, ?_, ?_⟩, ?_, ?_⟩
    · rwa [List.head?_append_of_ne_nil _ hne] at hhead
    · exact fun component hmem => hdots component (List.mem_append_left _ hmem)
    · exact fun c hc => hcontrol c (List.mem_append_left _ hc)
    · exact fun component hmem => hdots component (List.mem_append_right _ hmem)
    · exact fun c hc => hcontrol c (List.mem_append_right _ (List.mem_cons_of_mem _ hc))
  · rintro ⟨hne, hp, hdots, hcontrol⟩
    refine ⟨?_, ?_, ?_⟩
    · rw [List.head?_append_of_ne_nil _ hne]
      exact hp.head
    · rw [components_append h]
      exact fun component hmem => (List.mem_append.mp hmem).elim (hp.no_dotDot component)
        (hdots component)
    · intro c hc
      rcases List.mem_append.mp hc with hc | hc
      · exact hp.no_control c hc
      rcases List.mem_cons.mp hc with rfl | hc
      · exact hslash
      · exact hcontrol c hc

/-- A relative path behind a directory stays inside it, and only such a path does. -/
theorem inside_append_iff {slash : α} (h : code slash = 0x2f) (base rel : List α) :
    Inside code base (base ++ slash :: rel) ↔ Relative code rel := by
  constructor
  · rintro (hbase | ⟨slash', rel', -, hpath, hrel⟩)
    · simp at hbase
    · obtain ⟨-, rfl⟩ := List.cons.inj (List.append_cancel_left hpath)
      exact hrel
  · exact fun hrel => .inr ⟨slash, rel, h, rfl, hrel⟩

end Join

/-! ### Decoding -/

/-- `Decodes s q`: an ASCII-compatible decoder may read the text `s` as `q`. ASCII characters stand
for themselves, and any others are read, a few at a time, as others. -/
inductive Decodes : List α → List β → Prop where
  | nil : Decodes [] []
  | ascii {c : α} {u : β} {s : List α} {q : List β} (hc : code c < 0x80) (hu : code' u = code c)
      (rest : Decodes s q) : Decodes (c :: s) (u :: q)
  | other {read : List α} {units : List β} {s : List α} {q : List β} (hread : read ≠ [])
      (hunits : units ≠ []) (hc : ∀ c ∈ read, 0x80 ≤ code c) (hu : ∀ u ∈ units, 0x80 ≤ code' u)
      (rest : Decodes s q) : Decodes (read ++ s) (units ++ q)

namespace Decodes

variable {code code'} {s : List α} {q : List β}

theorem eq_nil_iff (h : Decodes code code' s q) : s = [] ↔ q = [] := by
  induction h with
  | nil => simp
  | ascii => simp
  | other hread hunits => simp [hread, hunits]

/-- The same ASCII characters occur. -/
theorem exists_code_iff (h : Decodes code code' s q) {k : Nat} (hk : k < 0x80) :
    (∃ c ∈ s, code c = k) ↔ ∃ u ∈ q, code' u = k := by
  induction h with
  | nil => simp
  | ascii hc hu rest ih =>
    simp only [List.mem_cons, or_and_right, exists_or, exists_eq_left, ih, hu]
  | @other read units s q hread hunits hc hu rest ih =>
    have hnone : ¬ ∃ c ∈ read, code c = k := by
      rintro ⟨c, hmem, hcode⟩
      have hge := hc c hmem
      omega
    have hnone' : ¬ ∃ u ∈ units, code' u = k := by
      rintro ⟨u, hmem, hcode⟩
      have hge := hu u hmem
      omega
    simp only [List.mem_append, or_and_right, exists_or, ih, hnone, hnone', false_or]

/-- A text of ASCII characters only is read as itself. -/
theorem map_code_eq_iff (h : Decodes code code' s q) {codes : List Nat}
    (hcodes : ∀ k ∈ codes, k < 0x80) : s.map code = codes ↔ q.map code' = codes := by
  induction h generalizing codes with
  | nil => simp
  | ascii hc hu rest ih =>
    cases codes with
    | nil => simp
    | cons k codes =>
      rw [List.map_cons, List.map_cons, List.cons.injEq, List.cons.injEq, hu,
        ih fun k hk => hcodes k (List.mem_cons_of_mem _ hk)]
  | @other read units s q hread hunits hc hu rest ih =>
    constructor
    · rintro rfl
      obtain ⟨c, hmem⟩ := List.exists_mem_of_ne_nil _ hread
      have hlt := hcodes (code c) (List.mem_map_of_mem (List.mem_append_left _ hmem))
      have hge := hc c hmem
      omega
    · rintro rfl
      obtain ⟨u, hmem⟩ := List.exists_mem_of_ne_nil _ hunits
      have hlt := hcodes (code' u) (List.mem_map_of_mem (List.mem_append_left _ hmem))
      have hge := hu u hmem
      omega

theorem isDotDot_iff (h : Decodes code code' s q) : IsDotDot code s ↔ IsDotDot code' q :=
  h.map_code_eq_iff (by decide)

/-- Behind characters that do not separate, the first piece grows. -/
theorem splitOnP_append_of_forall {p : α → Bool} {read : List α} (hread : ∀ c ∈ read, p c = false)
    (s : List α) : (read ++ s).splitOnP p = (s.splitOnP p).modifyHead (read ++ ·) := by
  induction read with
  | nil =>
    obtain ⟨part, parts, hparts⟩ := List.exists_cons_of_ne_nil (List.splitOnP_ne_nil p s)
    simp [hparts]
  | cons c read ih =>
    have hc : ¬ p c = true := by simp [hread c List.mem_cons_self]
    rw [List.cons_append, List.splitOnP_cons_eq_if_modifyHead, if_neg hc,
      ih fun c hc => hread c (List.mem_cons_of_mem _ hc), List.modifyHead_modifyHead]
    rfl

/-- **Decoding goes piece by piece**, as it moves no separator of ASCII. -/
theorem splitOnP (sep : Nat → Bool) (hsep : ∀ k, sep k = true → k < 0x80)
    (h : Decodes code code' s q) :
    List.Forall₂ (Decodes code code') (s.splitOnP fun c => sep (code c))
      (q.splitOnP fun u => sep (code' u)) := by
  have hother : ∀ k, 0x80 ≤ k → sep k = false := fun k hk =>
    Bool.not_eq_true _ ▸ fun htrue => absurd (hsep k htrue) (Nat.not_lt.mpr hk)
  induction h with
  | nil => exact .cons .nil .nil
  | @ascii c u s q hc hu rest ih =>
    simp only [List.splitOnP_cons_eq_if_modifyHead, hu]
    split_ifs
    · exact .cons .nil ih
    · obtain ⟨part, parts, hparts⟩ := List.exists_cons_of_ne_nil
        (List.splitOnP_ne_nil (fun c => sep (code c)) s)
      obtain ⟨part', parts', hparts'⟩ := List.exists_cons_of_ne_nil
        (List.splitOnP_ne_nil (fun u => sep (code' u)) q)
      rw [hparts, hparts', List.forall₂_cons] at ih
      rw [hparts, hparts']
      exact .cons (.ascii hc hu ih.1) ih.2
  | @other read units s q hread hunits hc hu rest ih =>
    rw [splitOnP_append_of_forall fun c hmem => hother _ (hc c hmem),
      splitOnP_append_of_forall fun u hmem => hother _ (hu u hmem)]
    obtain ⟨part, parts, hparts⟩ := List.exists_cons_of_ne_nil
      (List.splitOnP_ne_nil (fun c => sep (code c)) s)
    obtain ⟨part', parts', hparts'⟩ := List.exists_cons_of_ne_nil
      (List.splitOnP_ne_nil (fun u => sep (code' u)) q)
    rw [hparts, hparts', List.forall₂_cons] at ih
    rw [hparts, hparts']
    exact .cons (.other hread hunits hc hu ih.1) ih.2

/-- **Decoding goes component by component.** -/
theorem components (h : Decodes code code' s q) :
    List.Forall₂ (Decodes code code') (components code s) (components code' q) := by
  refine h.splitOnP (fun k => k == 0x2f || k == 0x5c) fun k hk => ?_
  simp only [Bool.or_eq_true, beq_iff_eq] at hk
  omega

/-- The first characters are both separators or both none. -/
theorem head_iff (h : Decodes code code' s q) :
    (∀ c ∈ s.head?, isSeparator code c = false) ↔
      ∀ u ∈ q.head?, isSeparator code' u = false := by
  cases h with
  | nil => simp
  | ascii hc hu rest => simp [isSeparator, hu]
  | @other read units s q hread hunits hc hu rest =>
    obtain ⟨c, read, rfl⟩ := List.exists_cons_of_ne_nil hread
    obtain ⟨u, units, rfl⟩ := List.exists_cons_of_ne_nil hunits
    have hge := hc c List.mem_cons_self
    have hge' := hu u List.mem_cons_self
    simp only [List.cons_append, List.head?_cons, Option.mem_def, Option.some.injEq,
      forall_eq', isSeparator, Bool.or_eq_false_iff, beq_eq_false_iff_ne]
    omega

theorem dotDot_iff (h : Decodes code code' s q) :
    (∀ component ∈ RelativePath.components code s, ¬ IsDotDot code component) ↔
      ∀ component ∈ RelativePath.components code' q, ¬ IsDotDot code' component := by
  have hparts := h.components
  revert hparts
  generalize RelativePath.components code s = parts
  generalize RelativePath.components code' q = parts'
  intro hparts
  induction hparts with
  | nil => simp
  | cons hpart _ ih => simp only [List.forall_mem_cons, ih, hpart.isDotDot_iff]

theorem control_iff (h : Decodes code code' s q) :
    (∀ c ∈ s, isControl code c = false) ↔ ∀ u ∈ q, isControl code' u = false := by
  rw [forall_isControl_iff, forall_isControl_iff]
  refine forall₂_congr fun k hk => not_congr (h.exists_code_iff ?_)
  omega

/-- **Decoding neither moves a path out of its directory nor back into it.** -/
theorem relative_iff (h : Decodes code code' s q) : Relative code s ↔ Relative code' q := by
  constructor
  · exact fun ⟨hhead, hdots, hcontrol⟩ =>
      ⟨h.head_iff.mp hhead, h.dotDot_iff.mp hdots, h.control_iff.mp hcontrol⟩
  · exact fun ⟨hhead, hdots, hcontrol⟩ =>
      ⟨h.head_iff.mpr hhead, h.dotDot_iff.mpr hdots, h.control_iff.mpr hcontrol⟩

end Decodes

end OkularV3d.RelativePath
