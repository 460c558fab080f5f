import OkularV3d.Lib.RelativePath

/-!
# Texts that name the same file

A file system follows a path step by step: from the root if it begins with a slash, and skipping
what is empty or a single dot between slashes. `SamePath` says that two texts lead the same way.
Links and `".."` are followed alike from the same directory, so texts that are the same path name
the same file.

Appending is about steps (`steps_append`), and a decoder of an ASCII-compatible encoding keeps their
number (`Decodes.length_steps`).

* `steps` are what lies between the slashes, without what leads nowhere.
* `SamePath` asks for the same steps and the same beginning.

It is finer than what a file system does: two paths that are the same by a link are not the same
here. A claim that a file is found again needs no more.
-/

namespace OkularV3d.RelativePath

variable {α β : Type*} (code : α → Nat) (code' : β → Nat)

/-- What lies between two slashes leads to another directory. -/
def isStep (part : List α) : Bool := !part.isEmpty && part.map code != [0x2e]

/-- The steps of a path. -/
def steps (path : List α) : List (List α) :=
  (path.splitOnP fun c => code c == 0x2f).filter (isStep code)

/-- The path begins at the root. -/
def absolute (path : List α) : Bool := path.head?.any fun c => code c == 0x2f

/-- **The same path**: the same steps from the same place. -/
structure SamePath (p q : List α) : Prop where
  absolute : absolute code p = absolute code q
  steps : steps code p = steps code q

instance [DecidableEq α] (p q : List α) : Decidable (SamePath code p q) :=
  decidable_of_iff (absolute code p = absolute code q ∧ steps code p = steps code q)
    ⟨fun h => ⟨h.1, h.2⟩, fun h => ⟨h.absolute, h.steps⟩⟩

namespace SamePath

variable {code} {p q r : List α}

@[refl] theorem refl (p : List α) : SamePath code p p := ⟨rfl, rfl⟩

@[symm] theorem symm (h : SamePath code p q) : SamePath code q p := ⟨h.1.symm, h.2.symm⟩

theorem trans (h : SamePath code p q) (h' : SamePath code q r) : SamePath code p r :=
  ⟨h.1.trans h'.1, h.2.trans h'.2⟩

end SamePath

section Append

variable {code} {slash : α}

@[simp] theorem steps_nil : steps code ([] : List α) = [] := rfl

/-- The steps of a path behind a directory. -/
theorem steps_append (h : code slash = 0x2f) (p q : List α) :
    steps code (p ++ slash :: q) = steps code p ++ steps code q := by
  have hslash : (fun c => code c == 0x2f) slash = true := beq_iff_eq.mpr h
  rw [steps, List.splitOnP_append_cons p q hslash, List.filter_append]
  rfl

/-- A path behind a directory begins where the directory does. -/
theorem absolute_append {p : List α} (hp : p ≠ []) (q : List α) :
    absolute code (p ++ q) = absolute code p := by
  rw [absolute, List.head?_append_of_ne_nil _ hp, absolute]

theorem SamePath.append (h : code slash = 0x2f) {p p' q q' : List α} (hp : p ≠ []) (hp' : p' ≠ [])
    (hsame : SamePath code p p') (hq : RelativePath.steps code q = RelativePath.steps code q') :
    SamePath code (p ++ slash :: q) (p' ++ slash :: q') := by
  constructor
  · rw [absolute_append hp, absolute_append hp', hsame.absolute]
  · rw [steps_append h, steps_append h, hsame.steps, hq]

/-- In front of a text with a first step, characters that are neither slash nor dot keep the number
of steps or add one. -/
theorem length_steps_le_append {read : List α} (hread : ∀ c ∈ read, 0x80 ≤ code c) (s : List α) :
    (steps code s).length ≤ (steps code (read ++ s)).length := by
  have hnoslash : ∀ c ∈ read, (code c == 0x2f) = false := by
    intro c hc
    have hge := hread c hc
    rw [beq_eq_false_iff_ne]
    omega
  obtain ⟨part, parts, hparts⟩ := List.exists_cons_of_ne_nil
    (List.splitOnP_ne_nil (fun c => code c == 0x2f) s)
  rw [steps, steps, Decodes.splitOnP_append_of_forall hnoslash, hparts, List.modifyHead_cons]
  cases read with
  | nil => exact Nat.le_refl _
  | cons c read =>
    -- the first part is longer, so it is a step
    have hge : 0x80 ≤ code c := hread c List.mem_cons_self
    have hstep : isStep code (c :: read ++ part) = true := by
      simp only [isStep, List.cons_append, List.isEmpty_cons, Bool.not_false, Bool.true_and,
        bne_iff_ne, ne_eq, List.map_cons, List.cons.injEq, not_and]
      omega
    rw [List.filter_cons_of_pos hstep, List.length_cons]
    have hle : (List.filter (isStep code) (part :: parts)).length ≤
        (List.filter (isStep code) parts).length + 1 := by
      rw [List.filter_cons]
      split_ifs
      · exact Nat.le_refl _
      · exact Nat.le_succ _
    exact hle

end Append

/-- **Decoding keeps the number of steps.** -/
theorem Decodes.length_steps {code : α → Nat} {code' : β → Nat} {s : List α} {q : List β}
    (h : Decodes code code' s q) : (steps code s).length = (steps code' q).length := by
  have hparts := h.splitOnP (fun k => k == 0x2f) fun k hk => by
    rw [beq_iff_eq] at hk
    omega
  rw [steps, steps]
  generalize (s.splitOnP fun c => code c == 0x2f) = parts at hparts
  generalize (q.splitOnP fun u => code' u == 0x2f) = parts' at hparts
  induction hparts with
  | nil => rfl
  | @cons part part' parts parts' hpart _ ih =>
    have hempty : part.isEmpty = part'.isEmpty := by
      rw [Bool.eq_iff_iff, List.isEmpty_iff, List.isEmpty_iff, hpart.eq_nil_iff]
    have hdot : (part.map code != [0x2e]) = (part'.map code' != [0x2e]) := by
      rw [Bool.eq_iff_iff, bne_iff_ne, bne_iff_ne, ne_eq, ne_eq,
        hpart.map_code_eq_iff (by decide)]
    have hstep : isStep code part = isStep code' part' := by rw [isStep, isStep, hempty, hdot]
    rw [List.filter_cons, List.filter_cons, hstep]
    split_ifs
    · rw [List.length_cons, List.length_cons, ih]
    · exact ih

end OkularV3d.RelativePath
