import Mathlib.Algebra.BigOperators.Group.Finset.Basic
import Mathlib.Algebra.GroupWithZero.Nat
import Mathlib.Logic.Function.Basic
import Mathlib.Logic.Relation

/-!
# Work groups

The threads of a kernel run in groups, over one memory, and their instructions interleave in any
order. A barrier makes the threads of one group wait for each other: between two barriers every
thread runs a `Phase` of its code. Groups do not wait for each other.

A phase is *safe* where every cell has at most one thread that writes it, and no other thread reads
it. `result` says that the memory a safe program leaves then does not depend on the order: it is
that of `lockstep`, where in every phase each thread runs alone, from the memory at the beginning of
the phase. Atomic operations are not part of that memory. They are issued, and `issuedBy_of_run`
says that each thread issues what it issues in lockstep, in the same order; the log has them in the
order in which they happen.

* `Machine.Step` is one instruction of one thread, or a barrier; `Run` any number of them.
* `Phase.SafeIn` is safety, and `Layout` says whose cells are whose.
* `Ends.step` is the step lemma: what is left of a machine, run in lockstep, ends as before.
* `exists_finished` says that every run goes on to an end, so that `result` is not about nothing.
-/

namespace OkularV3d.WorkGroups

variable {G T C V P E : Type}

/-! ### Instructions -/

/-- One access to memory, by a thread with the registers `P`: a cell is read, a cell is written, or
an atomic operation is issued. -/
inductive Instr (C V P E : Type) where
  | load (c : C) (f : P → V → P)
  | store (c : C) (f : P → V)
  | issue (f : P → E)

/-- The registers of a thread, and the atomic operations it has issued. -/
structure Thread (P E : Type) where
  registers : P
  issued : List E

namespace Instr

/-- The atomic operation of an instruction. -/
def events : Instr C V P E → Thread P E → List E
  | .issue f, t => [f t.registers]
  | .load .., _ | .store .., _ => []

variable [DecidableEq C]

/-- What an instruction makes of its thread and of the memory. -/
def exec : Instr C V P E → Thread P E × (C → V) → Thread P E × (C → V)
  | .load c f, (t, m) => ({ t with registers := f t.registers (m c) }, m)
  | .store c f, (t, m) => (t, Function.update m c (f t.registers))
  | .issue f, (t, m) => ({ t with issued := t.issued ++ [f t.registers] }, m)

/-- An instruction issues its events, after those issued before. -/
theorem issued_exec (i : Instr C V P E) (t : Thread P E) (m : C → V) :
    (i.exec (t, m)).1.issued = t.issued ++ i.events t := by
  rcases i with ⟨c, f⟩ | ⟨c, f⟩ | f <;> simp [exec, events]

end Instr

/-- A thread runs its code alone. -/
def alone [DecidableEq C] (code : List (Instr C V P E)) (s : Thread P E × (C → V)) :
    Thread P E × (C → V) :=
  code.foldl (fun s i => i.exec s) s

/-- The code of every thread between two barriers, and the thread that may write a cell. -/
structure Phase (T C V P E : Type) where
  code : T → List (Instr C V P E)
  owner : C → Option T

/-- The threads and the memory. -/
abbrev State (T C V P E : Type) := (T → Thread P E) × (C → V)

/-- Each thread runs alone, and every cell is left as its owner leaves it. -/
def Phase.run [DecidableEq C] (ph : Phase T C V P E) (s : State T C V P E) : State T C V P E :=
  (fun t => (alone (ph.code t) (s.1 t, s.2)).1,
    fun c => match ph.owner c with
      | some t => (alone (ph.code t) (s.1 t, s.2)).2 c
      | none => s.2 c)

/-- One phase after the other. -/
def lockstep [DecidableEq C] (program : List (Phase T C V P E)) (s : State T C V P E) :
    State T C V P E :=
  program.foldl (fun s ph => ph.run s) s

section Equations

variable [DecidableEq C] (s : State T C V P E)

@[simp] theorem alone_nil (s : Thread P E × (C → V)) : alone [] s = s := rfl

@[simp] theorem alone_cons (i : Instr C V P E) (code : List (Instr C V P E))
    (s : Thread P E × (C → V)) : alone (i :: code) s = alone code (i.exec s) := rfl

/-- In lockstep a thread runs alone, from the memory at the beginning of the phase. -/
@[simp] theorem Phase.run_thread (ph : Phase T C V P E) (t : T) :
    (ph.run s).1 t = (alone (ph.code t) (s.1 t, s.2)).1 := rfl

/-- A cell has what its owner leaves there. -/
theorem Phase.run_owned (ph : Phase T C V P E) {c : C} {t : T} (h : ph.owner c = some t) :
    (ph.run s).2 c = (alone (ph.code t) (s.1 t, s.2)).2 c := by
  simp only [Phase.run, h]

/-- A cell without an owner keeps its value. -/
theorem Phase.run_unowned (ph : Phase T C V P E) {c : C} (h : ph.owner c = none) :
    (ph.run s).2 c = s.2 c := by
  simp only [Phase.run, h]

/-- Code is run one part after the other. -/
theorem alone_append (code code' : List (Instr C V P E)) (s : Thread P E × (C → V)) :
    alone (code ++ code') s = alone code' (alone code s) := List.foldl_append

/-- A loop, up to one round more. -/
theorem alone_flatMap_range_succ (body : ℕ → List (Instr C V P E)) (n : ℕ)
    (s : Thread P E × (C → V)) : alone ((List.range (n + 1)).flatMap body) s =
      alone (body n) (alone ((List.range n).flatMap body) s) := by
  rw [List.range_succ, List.flatMap_append, alone_append, List.flatMap_singleton]

/-- One more iteration of a loop. -/
theorem alone_map_range_succ (body : ℕ → Instr C V P E) (n : ℕ) (s : Thread P E × (C → V)) :
    alone ((List.range (n + 1)).map body) s =
      (body n).exec (alone ((List.range n).map body) s) := by
  rw [List.range_succ, List.map_append, alone_append]
  rfl

/-- Code that issues nothing. -/
theorem issued_alone {code : List (Instr C V P E)} (h : ∀ i ∈ code, ∀ t, i.events t = [])
    (s : Thread P E × (C → V)) : (alone code s).1.issued = s.1.issued := by
  induction code generalizing s with
  | nil => rfl
  | cons i code ih =>
    rw [List.forall_mem_cons] at h
    rw [alone_cons, ih h.2, Instr.issued_exec, h.1, List.append_nil]

@[simp] theorem lockstep_nil : lockstep [] s = s := rfl

@[simp] theorem lockstep_cons (ph : Phase T C V P E) (program : List (Phase T C V P E)) :
    lockstep (ph :: program) s = lockstep program (ph.run s) := rfl

/-- So are programs. -/
theorem lockstep_append (program program' : List (Phase T C V P E)) :
    lockstep (program ++ program') s = lockstep program' (lockstep program s) := List.foldl_append

/-- A program that issues nothing. -/
theorem issued_lockstep {program : List (Phase T C V P E)}
    (h : ∀ ph ∈ program, ∀ t, ∀ i ∈ ph.code t, ∀ th, i.events th = []) (t : T) :
    ((lockstep program s).1 t).issued = (s.1 t).issued := by
  induction program generalizing s with
  | nil => rfl
  | cons ph program ih =>
    rw [List.forall_mem_cons] at h
    rw [lockstep_cons, ih _ h.2, Phase.run_thread, issued_alone (h.1 t)]

end Equations

/-! ### Machines -/

/-- A kernel while it runs: what is left of the code of a phase, and the phases that a group has
still to begin. -/
structure Machine (G T C V P E : Type) where
  threads : T → Thread P E
  memory : C → V
  code : T → List (Instr C V P E)
  phases : G → List (Phase T C V P E)
  log : List (T × E)

namespace Machine

/-- Before the first phase. -/
def start (program : List (Phase T C V P E)) (s : State T C V P E) : Machine G T C V P E where
  threads := s.1
  memory := s.2
  code := fun _ => []
  phases := fun _ => program
  log := []

/-- Nothing is left. -/
structure Finished (M : Machine G T C V P E) : Prop where
  code : ∀ t, M.code t = []
  phases : ∀ g, M.phases g = []

end Machine

section Step

variable [DecidableEq G] [DecidableEq T] [DecidableEq C] (group : T → G)

/-- One instruction of some thread, or a barrier that all threads of some group have reached. -/
inductive Step : Machine G T C V P E → Machine G T C V P E → Prop where
  | exec {M : Machine G T C V P E} {t : T} {i : Instr C V P E} {rest : List (Instr C V P E)}
      (h : M.code t = i :: rest) :
      Step M
        { M with
          threads := Function.update M.threads t (i.exec (M.threads t, M.memory)).1
          memory := (i.exec (M.threads t, M.memory)).2
          code := Function.update M.code t rest
          log := M.log ++ (i.events (M.threads t)).map (Prod.mk t) }
  | barrier {M : Machine G T C V P E} {g : G} {ph : Phase T C V P E} {rest : List (Phase T C V P E)}
      (h : M.phases g = ph :: rest) (hreached : ∀ t, group t = g → M.code t = []) :
      Step M
        { M with
          code := fun t => if group t = g then ph.code t else M.code t
          phases := Function.update M.phases g rest }

/-- Any number of steps. -/
abbrev Run : Machine G T C V P E → Machine G T C V P E → Prop := Relation.ReflTransGen (Step group)

end Step

/-! ### Safe phases -/

/-- The group of a thread, and the group whose threads may write a cell: none where nobody does. -/
structure Layout (G T C : Type) where
  group : T → G
  home : C → Option G

section Safe

variable (L : Layout G T C)

/-- A cell that a thread may read in a phase. -/
def Readable (owner : C → Option T) (t : T) (c : C) : Prop :=
  (L.home c = none ∨ L.home c = some (L.group t)) ∧ (owner c = none ∨ owner c = some t)

/-- An instruction that keeps to the cells of its thread. -/
def Instr.Safe (owner : C → Option T) (t : T) : Instr C V P E → Prop
  | .load c _ => Readable L owner t c
  | .store c _ => owner c = some t
  | .issue _ => True

/-- The threads of one group keep to their cells. -/
structure Phase.SafeIn (ph : Phase T C V P E) (g : G) : Prop where
  home : ∀ c t, ph.owner c = some t → L.home c = some (L.group t)
  safe : ∀ t, L.group t = g → ∀ i ∈ ph.code t, i.Safe L ph.owner t

/-- Two states that are the same for the threads of a group. -/
structure Agree (g : G) (s s' : State T C V P E) : Prop where
  threads : ∀ t, L.group t = g → s.1 t = s'.1 t
  memory : ∀ c, L.home c = none ∨ L.home c = some g → s.2 c = s'.2 c

end Safe

section Agree

variable {L : Layout G T C} {g : G} {s s' s'' : State T C V P E}

theorem Agree.refl (s : State T C V P E) : Agree L g s s := ⟨fun _ _ => rfl, fun _ _ => rfl⟩

/-- Agreement on what a group sees is an equivalence. -/
theorem Agree.symm (h : Agree L g s s') : Agree L g s' s :=
  ⟨fun t ht => (h.threads t ht).symm, fun c hc => (h.memory c hc).symm⟩

theorem Agree.trans (h : Agree L g s s') (h' : Agree L g s' s'') : Agree L g s s'' :=
  ⟨fun t ht => (h.threads t ht).trans (h'.threads t ht),
    fun c hc => (h.memory c hc).trans (h'.memory c hc)⟩

variable [DecidableEq C] {owner : C → Option T} {t : T} {i : Instr C V P E}
  {code : List (Instr C V P E)} {m m' : C → V}

/-- An instruction depends on nothing but what its thread may read. -/
theorem Instr.Safe.exec_congr (hi : i.Safe L owner t) (th : Thread P E)
    (h : ∀ c, Readable L owner t c → m c = m' c) :
    (i.exec (th, m)).1 = (i.exec (th, m')).1 ∧
      ∀ c, Readable L owner t c → (i.exec (th, m)).2 c = (i.exec (th, m')).2 c := by
  rcases i with ⟨a, f⟩ | ⟨a, f⟩ | f
  · exact ⟨by rw [Instr.exec, Instr.exec, h a hi], h⟩
  · refine ⟨rfl, fun c hc => ?_⟩
    simp only [Instr.exec, Function.update_apply, h c hc]
  · exact ⟨rfl, h⟩

/-- An instruction leaves the cells of others alone. -/
theorem Instr.Safe.exec_frame (hi : i.Safe L owner t) (th : Thread P E) {c : C}
    (hc : owner c ≠ some t) : (i.exec (th, m)).2 c = m c := by
  rcases i with ⟨a, f⟩ | ⟨a, f⟩ | f
  · rfl
  · exact Function.update_of_ne (fun h : c = a => hc (h ▸ hi)) ..
  · rfl

/-- So does a thread's code. -/
theorem alone_congr (hcode : ∀ i ∈ code, i.Safe L owner t) (th : Thread P E)
    (h : ∀ c, Readable L owner t c → m c = m' c) :
    (alone code (th, m)).1 = (alone code (th, m')).1 ∧
      ∀ c, Readable L owner t c → (alone code (th, m)).2 c = (alone code (th, m')).2 c := by
  induction code generalizing th m m' with
  | nil => exact ⟨rfl, h⟩
  | cons i code ih =>
    rw [List.forall_mem_cons] at hcode
    obtain ⟨hthread, hmemory⟩ := hcode.1.exec_congr th h
    have hrest := ih hcode.2 (i.exec (th, m)).1 hmemory
    rw [alone_cons, alone_cons, ← Prod.eta (i.exec (th, m')), ← hthread]
    exact hrest

omit [DecidableEq C] in
/-- What a group can reach in a phase is written by its own threads. -/
theorem Phase.SafeIn.group_eq {ph : Phase T C V P E} (hph : ph.SafeIn L g) {c : C}
    (hc : L.home c = none ∨ L.home c = some g) (hown : ph.owner c = some t) : L.group t = g := by
  have hhome := hph.home c t hown
  rcases hc with hnone | hg
  · exact absurd (hhome.symm.trans hnone) (Option.some_ne_none _)
  · exact Option.some.inj (hhome.symm.trans hg)

/-- A phase of one group depends on nothing but that group. -/
theorem Phase.SafeIn.run_congr {code' : T → List (Instr C V P E)} {ph : Phase T C V P E}
    (hph : ph.SafeIn L g) (hcode : ∀ t, L.group t = g → ph.code t = code' t) (h : Agree L g s s') :
    Agree L g (ph.run s) ({ ph with code := code' }.run s') := by
  have halone : ∀ t, L.group t = g →
      (alone (ph.code t) (s.1 t, s.2)).1 = (alone (code' t) (s'.1 t, s'.2)).1 ∧
        ∀ c, Readable L ph.owner t c → (alone (ph.code t) (s.1 t, s.2)).2 c =
          (alone (code' t) (s'.1 t, s'.2)).2 c := by
    intro t ht
    rw [← hcode t ht, ← h.threads t ht]
    exact alone_congr (hph.safe t ht) (s.1 t) fun c hc => h.memory c (ht ▸ hc.1)
  refine ⟨fun t ht => (halone t ht).1, fun c hc => ?_⟩
  rcases hown : ph.owner c with _ | t
  · rw [Phase.run_unowned s ph hown, Phase.run_unowned s' { ph with code := code' } hown]
    exact h.memory c hc
  · rw [Phase.run_owned s ph hown, Phase.run_owned s' { ph with code := code' } hown]
    exact (halone t (hph.group_eq hc hown)).2 c ⟨.inr (hph.home c t hown), .inr hown⟩

/-- **What a group does depends on what it sees only**, if its phases are safe. -/
theorem lockstep_congr {program : List (Phase T C V P E)} (hsafe : ∀ ph ∈ program, ph.SafeIn L g)
    (h : Agree L g s s') : Agree L g (lockstep program s) (lockstep program s') := by
  induction program generalizing s s' with
  | nil => exact h
  | cons ph program ih =>
    rw [List.forall_mem_cons] at hsafe
    exact ih hsafe.2 (hsafe.1.run_congr (fun _ _ => rfl) h)

/-- Threads that have nothing to do. -/
theorem Phase.agree_run_of_nil {ph : Phase T C V P E} (hph : ph.SafeIn L g)
    (hnil : ∀ t, L.group t = g → ph.code t = []) : Agree L g (ph.run s) s := by
  refine ⟨fun t ht => by rw [Phase.run_thread, hnil t ht, alone_nil], fun c hc => ?_⟩
  rcases hown : ph.owner c with _ | t
  · exact Phase.run_unowned s ph hown
  · rw [Phase.run_owned s ph hown, hnil t (hph.group_eq hc hown), alone_nil]

variable [DecidableEq T]

/-- What is left of a phase comes to the same before and after an instruction of it. -/
theorem Phase.SafeIn.run_exec {ph : Phase T C V P E} (hph : ph.SafeIn L (L.group t))
    {rest : List (Instr C V P E)} (hcode : ph.code t = i :: rest) (s : State T C V P E) :
    Agree L (L.group t)
      ({ ph with code := Function.update ph.code t rest }.run
        (Function.update s.1 t (i.exec (s.1 t, s.2)).1, (i.exec (s.1 t, s.2)).2)) (ph.run s) := by
  have hi : i.Safe L ph.owner t := hph.safe t rfl i (hcode ▸ List.mem_cons_self ..)
  -- what another thread may read, the instruction does not write
  have hother : ∀ u ≠ t, ∀ c, Readable L ph.owner u c → (i.exec (s.1 t, s.2)).2 c = s.2 c := by
    intro u hu c hc
    refine hi.exec_frame _ fun hown => ?_
    rcases hc.2 with hnone | hsome
    · exact Option.some_ne_none _ (hown.symm.trans hnone)
    · exact hu (Option.some.inj (hsome.symm.trans hown))
  -- so every thread of the group, run alone, does what it did before
  have halone : ∀ u, L.group u = L.group t →
      (alone (Function.update ph.code t rest u)
          (Function.update s.1 t (i.exec (s.1 t, s.2)).1 u, (i.exec (s.1 t, s.2)).2)).1 =
        (alone (ph.code u) (s.1 u, s.2)).1 ∧
      ∀ c, Readable L ph.owner u c →
        (alone (Function.update ph.code t rest u)
          (Function.update s.1 t (i.exec (s.1 t, s.2)).1 u, (i.exec (s.1 t, s.2)).2)).2 c =
        (alone (ph.code u) (s.1 u, s.2)).2 c := by
    intro u hu
    by_cases htu : u = t
    · subst htu
      rw [Function.update_self, Function.update_self, hcode, alone_cons]
      exact ⟨rfl, fun _ _ => rfl⟩
    · rw [Function.update_of_ne htu, Function.update_of_ne htu]
      exact alone_congr (hph.safe u hu) (s.1 u) (hother u htu)
  refine ⟨fun u hu => (halone u hu).1, fun c hc => ?_⟩
  rcases hown : ph.owner c with _ | u
  · rw [Phase.run_unowned s ph hown,
      Phase.run_unowned _ { ph with code := Function.update ph.code t rest } hown]
    exact hi.exec_frame _ (by simp [hown])
  · rw [Phase.run_owned s ph hown,
      Phase.run_owned _ { ph with code := Function.update ph.code t rest } hown]
    exact (halone u (hph.group_eq hc hown)).2 c ⟨.inr (hph.home c u hown), .inr hown⟩

end Agree

/-! ### Every run -/

section Run

variable [DecidableEq C] {L : Layout G T C}
  {program : List (Phase T C V P E)} {s : State T C V P E} {M M' : Machine G T C V P E}

/-- What is left of a machine, run in lockstep, ends as the whole program does. -/
structure Ends (L : Layout G T C) (program : List (Phase T C V P E)) (s : State T C V P E)
    (M : Machine G T C V P E) (g : G) : Prop where
  exists_owner : ∃ owner : C → Option T, (Phase.mk M.code owner).SafeIn L g ∧
    Agree L g (lockstep (M.phases g) ((Phase.mk M.code owner).run (M.threads, M.memory)))
      (lockstep program s)
  phases : ∀ ph ∈ M.phases g, ph.SafeIn L g

theorem ends_start (hsafe : ∀ ph ∈ program, ∀ g, ph.SafeIn L g) (g : G) :
    Ends L program s (Machine.start program s) g := by
  have hidle : (Phase.mk (Machine.start program s : Machine G T C V P E).code
    fun _ => none).SafeIn L g :=
    ⟨(fun _ _ h => nomatch h), (fun _ _ _ h => nomatch h)⟩
  exact ⟨⟨fun _ => none, hidle, lockstep_congr (fun ph hph => hsafe ph hph g)
    (Phase.agree_run_of_nil hidle fun _ _ => rfl)⟩, fun ph hph => hsafe ph hph g⟩

variable [DecidableEq G] [DecidableEq T]

/-- Every step preserves it, for every group. -/
theorem Ends.step (h : ∀ g, Ends L program s M g) (hstep : Step L.group M M') (g : G) :
    Ends L program s M' g := by
  obtain ⟨⟨owner, hsafe, hends⟩, hphases⟩ := h g
  induction hstep with
  | @exec t i rest hcode =>
    refine ⟨⟨owner, ⟨hsafe.home, fun u hu j hj => hsafe.safe u hu j ?_⟩, ?_⟩, hphases⟩
    · by_cases htu : u = t
      · subst htu
        have hmem : j ∈ rest := by simpa only [Function.update_self] using hj
        simpa only [hcode] using List.mem_cons_of_mem i hmem
      · simpa only [Function.update_of_ne htu] using hj
    refine (lockstep_congr hphases ?_).trans hends
    by_cases hg : L.group t = g
    · subst hg
      exact hsafe.run_exec hcode (M.threads, M.memory)
    · -- an instruction of another group changes nothing that this group can read
      obtain ⟨⟨owner', hsafe', -⟩, -⟩ := h (L.group t)
      have hi : i.Safe L owner' t := hsafe'.safe t rfl i (by
        simp only [hcode, List.mem_cons_self])
      refine (hsafe.run_congr (fun u hu => ?_) ⟨fun u hu => ?_, fun c hc => ?_⟩).symm
      · exact (Function.update_of_ne (fun hut : u = t => hg (hut ▸ hu)) ..).symm
      · exact (Function.update_of_ne (fun hut : u = t => hg (hut ▸ hu)) ..).symm
      · refine (hi.exec_frame _ fun hown => ?_).symm
        have hhome := hsafe'.home c t hown
        rcases hc with hnone | hsome
        · exact Option.some_ne_none _ (hhome.symm.trans hnone)
        · exact hg (Option.some.inj (hhome.symm.trans hsome))
  | @barrier g' ph rest hph hreached =>
    by_cases hg : g = g'
    · -- the group begins its next phase, with nothing left of the one before
      subst hg
      rw [hph, lockstep_cons] at hends
      rw [hph, List.forall_mem_cons] at hphases
      refine ⟨⟨ph.owner, ⟨hphases.1.home, fun u hu j hj => hphases.1.safe u hu j ?_⟩, ?_⟩, ?_⟩
      · simpa only [if_pos hu] using hj
      · simp only [Function.update_self]
        refine (lockstep_congr hphases.2 ?_).trans hends
        exact (hphases.1.run_congr (fun u hu => (if_pos hu).symm)
          (Phase.agree_run_of_nil hsafe hreached)).symm
      · simpa only [Function.update_self] using hphases.2
    · refine ⟨⟨owner, ⟨hsafe.home, fun u hu j hj => hsafe.safe u hu j ?_⟩, ?_⟩, ?_⟩
      · simpa only [if_neg (fun h : L.group u = g' => hg (hu.symm.trans h))] using hj
      · simp only [Function.update_of_ne hg]
        refine (lockstep_congr hphases ?_).trans hends
        exact (hsafe.run_congr (fun u hu => (if_neg fun h : L.group u = g' =>
          hg (hu.symm.trans h)).symm) (Agree.refl _)).symm
      · simpa only [Function.update_of_ne hg] using hphases

theorem Ends.run (hsafe : ∀ ph ∈ program, ∀ g, ph.SafeIn L g)
    (hrun : Run L.group (Machine.start program s) M) (g : G) : Ends L program s M g := by
  induction hrun generalizing g with
  | refl => exact ends_start hsafe g
  | tail _ hstep ih => exact Ends.step ih hstep g

omit [DecidableEq G] [DecidableEq T] in
/-- A group whose machine has nothing left is where lockstep ends. -/
theorem Ends.agree {g : G} (h : Ends L program s M g) (hfinished : M.Finished) :
    Agree L g (M.threads, M.memory) (lockstep program s) := by
  obtain ⟨⟨owner, hsafe, hends⟩, -⟩ := h
  rw [hfinished.phases g, lockstep_nil] at hends
  exact (Phase.agree_run_of_nil hsafe fun t _ => hfinished.code t).symm.trans hends

/-- **Whatever the order, a safe program ends as it does in lockstep.** -/
theorem result [Nonempty G] (hsafe : ∀ ph ∈ program, ∀ g, ph.SafeIn L g)
    (hrun : Run L.group (Machine.start program s) M) (hfinished : M.Finished) :
    (M.threads, M.memory) = lockstep program s := by
  have hagree := fun g => (Ends.run hsafe hrun g).agree hfinished
  refine Prod.ext (funext fun t => (hagree (L.group t)).threads t rfl) (funext fun c => ?_)
  rcases hhome : L.home c with _ | g
  · exact (hagree (Classical.arbitrary G)).memory c (.inl hhome)
  · exact (hagree g).memory c (.inr hhome)

/-! ### The order of atomic operations -/

/-- The operations of a thread, in the order in which they happened. -/
def Machine.issuedBy (M : Machine G T C V P E) (t : T) : List E :=
  (M.log.filter fun e => e.1 = t).map Prod.snd

theorem Step.issuedBy {group : T → G} (hstep : Step group M M') (t : T) :
    ∃ es, M'.issuedBy t = M.issuedBy t ++ es ∧
      (M'.threads t).issued = (M.threads t).issued ++ es := by
  induction hstep with
  | @exec u i rest hcode =>
    by_cases htu : t = u
    · subst htu
      refine ⟨i.events (M.threads t), ?_, ?_⟩
      · simp [Machine.issuedBy, List.filter_map, Function.comp_def]
      · simp only [Function.update_self, Instr.issued_exec]
    · refine ⟨[], ?_, ?_⟩
      · simp [Machine.issuedBy, List.filter_map, Function.comp_def, Ne.symm htu]
      · simp only [Function.update_of_ne htu, List.append_nil]
  | barrier => exact ⟨[], (List.append_nil _).symm, (List.append_nil _).symm⟩

/-- **The log has the operations of every thread, in the order of its code.** -/
theorem issuedBy_of_run {group : T → G} (hs : ∀ t, (s.1 t).issued = [])
    (hrun : Run group (Machine.start program s) M) (t : T) :
    M.issuedBy t = (M.threads t).issued := by
  induction hrun with
  | refl => exact (hs t).symm
  | tail _ hstep ih =>
    obtain ⟨es, hlog, hissued⟩ := hstep.issuedBy t
    rw [hlog, hissued, ih]

end Run

/-! ### Every run ends -/

section Progress

variable [Fintype G] [Fintype T] [DecidableEq G] {group : T → G}

/-- The instructions and barriers of a phase of a group. -/
def Phase.work (group : T → G) (g : G) (ph : Phase T C V P E) : ℕ :=
  ∑ t with group t = g, (ph.code t).length + 1

/-- The instructions and barriers that are left. -/
def Machine.work (group : T → G) (M : Machine G T C V P E) : ℕ :=
  ∑ t, (M.code t).length + ∑ g, ((M.phases g).map (Phase.work group g)).sum

variable [DecidableEq T] [DecidableEq C] {M M' : Machine G T C V P E}

/-- Every step leaves one less. -/
theorem Step.work (hstep : Step group M M') : M'.work group + 1 = M.work group := by
  induction hstep with
  | @exec t i rest hcode =>
    have hrest : ∀ u ∈ Finset.univ.erase t,
        (Function.update M.code t rest u).length = (M.code u).length :=
      fun u hu => by rw [Function.update_of_ne (Finset.ne_of_mem_erase hu)]
    simp only [Machine.work]
    rw [← Finset.add_sum_erase _ _ (Finset.mem_univ t),
      ← Finset.add_sum_erase _ (fun u => (M.code u).length) (Finset.mem_univ t),
      Finset.sum_congr rfl hrest, Function.update_self, hcode, List.length_cons]
    omega
  | @barrier g ph rest hph hreached =>
    have hrest : ∀ h ∈ Finset.univ.erase g,
        ((Function.update M.phases g rest h).map (Phase.work group h)).sum =
          ((M.phases h).map (Phase.work group h)).sum :=
      fun h hh => by rw [Function.update_of_ne (Finset.ne_of_mem_erase hh)]
    have hcode : ∑ t, (if group t = g then ph.code t else M.code t).length =
        ∑ t with group t = g, (ph.code t).length + ∑ t, (M.code t).length := by
      rw [Finset.sum_filter, ← Finset.sum_add_distrib]
      refine Finset.sum_congr rfl fun t _ => ?_
      split_ifs with ht
      · rw [hreached t ht, List.length_nil, add_zero]
      · rw [zero_add]
    simp only [Machine.work]
    rw [hcode, ← Finset.add_sum_erase _ _ (Finset.mem_univ g),
      ← Finset.add_sum_erase _ (fun h => ((M.phases h).map (Phase.work group h)).sum)
        (Finset.mem_univ g), Finset.sum_congr rfl hrest, Function.update_self, hph,
      List.map_cons, List.sum_cons, Phase.work]
    omega

/-- Threads do not wait for each other in vain. -/
theorem exists_step (group : T → G) (h : ¬ M.Finished) : ∃ M', Step group M M' := by
  by_cases hcode : ∀ t, M.code t = []
  · obtain ⟨g, hg⟩ : ∃ g, M.phases g ≠ [] := by
      by_contra hall
      exact h ⟨hcode, fun g => not_not.mp fun hg => hall ⟨g, hg⟩⟩
    obtain ⟨ph, rest, hph⟩ := List.exists_cons_of_ne_nil hg
    exact ⟨_, .barrier hph fun t _ => hcode t⟩
  · obtain ⟨t, ht⟩ := not_forall.mp hcode
    obtain ⟨i, rest, hi⟩ := List.exists_cons_of_ne_nil ht
    exact ⟨_, .exec hi⟩

/-- **Every run goes on to an end.** -/
theorem exists_finished (M : Machine G T C V P E) : ∃ M', Run group M M' ∧ M'.Finished := by
  induction hwork : M.work group using Nat.strong_induction_on generalizing M with
  | _ n ih =>
    by_cases h : M.Finished
    · exact ⟨M, .refl, h⟩
    · obtain ⟨M₁, hstep⟩ := exists_step group h
      have hlt : M₁.work group < n := by
        rw [← hwork, ← hstep.work]
        exact Nat.lt_succ_self _
      obtain ⟨M', hrun, hfinished⟩ := ih _ hlt M₁ rfl
      exact ⟨M', .head hstep hrun, hfinished⟩

end Progress

end OkularV3d.WorkGroups
