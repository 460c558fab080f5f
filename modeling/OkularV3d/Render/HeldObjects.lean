import Mathlib.Algebra.Order.Group.Nat
import Mathlib.Tactic.Common
import OkularV3d.Lib.SyncObjects

/-!
# The objects a renderer holds

A renderer holds one live timeline semaphore, one live binary semaphore and two live fences.
`Holds` says so of a history that follows the rules, with the states the objects are in (`View`).
Each lemma below appends what the renderer does with its objects, an operation or the replacement
of an object, and gives the states after it.

`Sound` is the part that does not speak of handles. It keeps account of the signals left pending
on semaphores that are gone: each was to be waited for by a submission the device rejected.

* `Rejected` says of a binary semaphore that a submission which was to wait for it has failed.
* `Sound.step` is the rule for one operation. `Holds.idle`, `Holds.waitFence`,
  `Holds.submitTransfer`, `Holds.submitWork` and the lemmas `Holds.renewTimeline` to
  `Holds.renewBinary` apply it to what the renderer does.
* `transferInfo`, `workInfo` and `onceInfo` are the three shapes of a submission, with the lemma
  that each is valid where the renderer makes it.
-/

namespace OkularV3d.Synchronisation

open SyncObjects Runs

/-- A submission that was to wait for the semaphore has been rejected. -/
def Rejected (log : List Op) (b : Nat) : Prop :=
  ∃ info : Submission, info.wait = some b ∧ Op.submit info false ∈ log

/-- What was rejected stays so. -/
theorem Rejected.append {log : List Op} {b : Nat} (h : Rejected log b) (ops : List Op) :
    Rejected (log ++ ops) b := by
  obtain ⟨info, hwait, hmem⟩ := h
  exact ⟨info, hwait, List.mem_append_left _ hmem⟩

/-- The history `log` follows the rules and has used the first `created` identifiers; no binary
semaphore is live but `b`, and one that was destroyed with a signal pending was to be waited for
by a rejected submission. -/
structure Sound (log : List Op) (created b : Nat) : Prop where
  disciplined : Disciplined log
  timeline_unborn : ∀ id, created ≤ id → (objects log).timeline id = .unborn
  binary_unborn : ∀ id, created ≤ id → (objects log).binary id = .unborn
  fence_unborn : ∀ id, created ≤ id → (objects log).fence id = .unborn
  single : ∀ id p, (objects log).binary id = .live p → id = b
  lost : ∀ id, (objects log).binary id = .destroyed true → Rejected log id

namespace Sound

variable {log : List Op} {n b : Nat}

/-- **Step lemma.** A valid operation that creates no other identifier than the next one, and
destroys a binary semaphore with a pending signal only after a rejection. -/
theorem step (h : Sound log n b) {op : Op} {n' b' : Nat} (hvalid : op.Valid (objects log))
    (hn : n ≤ n') (ht : ∀ id, n' ≤ id → op ≠ .createTimeline id)
    (hb : ∀ id, n' ≤ id → op ≠ .createBinary id)
    (hf : ∀ id signalled, n' ≤ id → op ≠ .createFence id signalled)
    (hsingle : ∀ id p, ((objects log).apply op).binary id = .live p → id = b')
    (hlost : ∀ id, op = .destroyBinary id → (objects log).binary id = .live true →
      Rejected log id) : Sound (log ++ [op]) n' b' where
  disciplined := (disciplined_concat _ _).mpr ⟨h.disciplined, hvalid⟩
  timeline_unborn id hid := by
    rw [objects_concat]
    exact Objects.timeline_unborn_of_apply (h.timeline_unborn id (hn.trans hid)) (ht id hid)
  binary_unborn id hid := by
    rw [objects_concat]
    exact Objects.binary_unborn_of_apply (h.binary_unborn id (hn.trans hid)) (hb id hid)
  fence_unborn id hid := by
    rw [objects_concat]
    exact Objects.fence_unborn_of_apply (h.fence_unborn id (hn.trans hid))
      fun signalled => hf id signalled hid
  single id p hp := hsingle id p (by rwa [objects_concat] at hp)
  lost id hid := by
    rw [objects_concat] at hid
    rcases Objects.binary_destroyed_of_apply hid with hold | ⟨hop, hlive⟩
    · exact (h.lost id hold).append _
    · exact (hlost id hop hlive).append _

/-- An operation that neither creates nor destroys. -/
theorem use (h : Sound log n b) {op : Op} (hvalid : op.Valid (objects log))
    (hop : (∃ f, op = .resetFence f) ∨ (∃ s accepted, op = .submit s accepted) ∨
      (∃ t v, op = .waitTimeline t v) ∨ ∃ f, op = .waitFence f) : Sound (log ++ [op]) n b := by
  refine h.step hvalid le_rfl ?_ ?_ ?_ ?_ ?_
  · rintro id - rfl
    simp at hop
  · rintro id - rfl
    simp at hop
  · rintro id signalled - rfl
    simp at hop
  · intro id p hp
    rcases Objects.binary_live_of_apply hp with rfl | ⟨p', hold⟩
    · simp at hop
    · exact h.single id p' hold
  · rintro id rfl
    simp at hop

/-- A live timeline semaphore may be destroyed. -/
theorem destroyTimeline (h : Sound log n b) {t : Nat} {vs : List Nat}
    (ht : (objects log).timeline t = .live vs) : Sound (log ++ [.destroyTimeline t]) n b :=
  h.step ⟨vs, ht⟩ le_rfl (by simp) (by simp) (by simp) (fun id p hp => h.single id p hp) (by simp)

/-- A new one has an identifier that was not used. -/
theorem createTimeline (h : Sound log n b) : Sound (log ++ [.createTimeline n]) (n + 1) b :=
  h.step (h.timeline_unborn n le_rfl) n.le_succ
    (fun id hid heq => by
      injection heq with hn
      omega)
    (by simp) (by simp) (fun id p hp => h.single id p hp) (by simp)

/-- A live fence may be destroyed. -/
theorem destroyFence (h : Sound log n b) {f : Nat} {r : Bool}
    (hf : (objects log).fence f = .live r) : Sound (log ++ [.destroyFence f]) n b :=
  h.step ⟨r, hf⟩ le_rfl (by simp) (by simp) (by simp) (fun id p hp => h.single id p hp) (by simp)

/-- A new one has an identifier that was not used. -/
theorem createFence (h : Sound log n b) (signalled : Bool) :
    Sound (log ++ [.createFence n signalled]) (n + 1) b :=
  h.step (h.fence_unborn n le_rfl) n.le_succ (by simp) (by simp)
    (fun id _ hid heq => by
      injection heq with hn
      omega)
    (fun id p hp => h.single id p hp) (by simp)

/-- The one live binary semaphore is replaced. -/
theorem renewBinary (h : Sound log n b) {p : Bool} (hb : (objects log).binary b = .live p)
    (hlost : p = true → Rejected log b) :
    Sound (log ++ [.destroyBinary b] ++ [.createBinary n]) (n + 1) n := by
  have hgone : ∀ id q, ((objects log).apply (.destroyBinary b)).binary id ≠ .live q := by
    intro id q hq
    change Function.update _ b _ id = _ at hq
    rw [Function.update_apply, hb] at hq
    split_ifs at hq with hid
    · simp [Life.destroy] at hq
    · exact hid (h.single id q hq)
  have hdestroyed : Sound (log ++ [.destroyBinary b]) n n := by
    refine h.step ⟨p, hb⟩ le_rfl (by simp) (by simp) (by simp)
      (fun id q hq => absurd hq (hgone id q)) fun id hop hlive => ?_
    injection hop with hid
    subst hid
    rw [hb] at hlive
    injection hlive with hp
    exact hlost hp
  refine hdestroyed.step (hdestroyed.binary_unborn n le_rfl) n.le_succ (by simp) ?_ (by simp) ?_
    (by simp)
  · intro id hid heq
    injection heq with hn
    omega
  · intro id q hq
    rcases Objects.binary_live_of_apply hq with heq | ⟨q', hq'⟩
    · injection heq with hid
      exact hid.symm
    · rw [objects_concat] at hq'
      exact absurd hq' (hgone id q')

/-- A live fence has been created. -/
theorem fence_lt (h : Sound log n b) {id : Nat} {r : Bool}
    (hlive : (objects log).fence id = .live r) : id < n := by
  by_contra hge
  have hunborn := h.fence_unborn id (not_lt.mp hge)
  rw [hlive] at hunborn
  exact absurd hunborn (by simp)

end Sound

/-- The states of the objects held: the values submitted on the timeline semaphore, whether a
signal is pending on `transferDoneSemaphore`, and for each fence whether it is signalled or
attached to a submission. -/
structure View where
  values : List Nat
  pending : Bool
  inCompute : Bool
  transfer : Bool

/-- After a sound history the timeline semaphore `t`, the binary semaphore `b` and the fences `c`
(`inComputeFence`) and `f` (`transferFence`) are live, in the states `v`. -/
structure Holds (log : List Op) (created t b c f : Nat) (v : View) : Prop where
  sound : Sound log created b
  timeline : (objects log).timeline t = .live v.values
  binary : (objects log).binary b = .live v.pending
  inCompute : (objects log).fence c = .live v.inCompute
  transfer : (objects log).fence f = .live v.transfer
  distinct : c ≠ f

namespace Holds

variable {log : List Op} {n t b c f : Nat} {v : View}

/-- A valid operation without effect on the objects. -/
theorem idle (h : Holds log n t b c f v) {op : Op} (hsound : Sound (log ++ [op]) n b)
    (hsame : (objects log).apply op = objects log) : Holds (log ++ [op]) n t b c f v where
  sound := hsound
  timeline := by rw [objects_concat, hsame]; exact h.timeline
  binary := by rw [objects_concat, hsame]; exact h.binary
  inCompute := by rw [objects_concat, hsame]; exact h.inCompute
  transfer := by rw [objects_concat, hsame]; exact h.transfer
  distinct := h.distinct

/-- A fence that is signalled or attached may be waited for, which changes nothing. -/
theorem waitFence (h : Holds log n t b c f v) {id : Nat}
    (hready : (objects log).fence id = .live true) :
    Holds (log ++ [.waitFence id]) n t b c f v :=
  h.idle (h.sound.use hready (by simp)) rfl

/-- So may a value that has been submitted. -/
theorem waitTimeline (h : Holds log n t b c f v) {value : Nat} (hvalue : value ∈ v.values) :
    Holds (log ++ [.waitTimeline t value]) n t b c f v :=
  h.idle (h.sound.use ⟨v.values, h.timeline, hvalue⟩ (by simp)) rfl

/-- A rejected submission. -/
theorem reject (h : Holds log n t b c f v) {info : Submission}
    (hvalid : info.Valid (objects log)) :
    Holds (log ++ [.submit info false]) n t b c f v :=
  h.idle (h.sound.use hvalid (by simp)) rfl

/-- The transfer fence is unsignalled after a reset. -/
theorem resetTransfer (h : Holds log n t b c f v) :
    Holds (log ++ [.resetFence f]) n t b c f { v with transfer := false } where
  sound := h.sound.use ⟨v.transfer, h.transfer⟩ (by simp)
  timeline := by simpa [Objects.apply] using h.timeline
  binary := by simpa [Objects.apply] using h.binary
  inCompute := by
    simpa [Objects.apply, Objects.setReady, Function.update_of_ne h.distinct] using h.inCompute
  transfer := by simp [Objects.apply, Objects.setReady, h.transfer, Life.map]
  distinct := h.distinct

/-- So is the compute fence. -/
theorem resetInCompute (h : Holds log n t b c f v) :
    Holds (log ++ [.resetFence c]) n t b c f { v with inCompute := false } where
  sound := h.sound.use ⟨v.inCompute, h.inCompute⟩ (by simp)
  timeline := by simpa [Objects.apply] using h.timeline
  binary := by simpa [Objects.apply] using h.binary
  inCompute := by simp [Objects.apply, Objects.setReady, h.inCompute, Life.map]
  transfer := by
    simpa [Objects.apply, Objects.setReady, Function.update_of_ne h.distinct.symm]
      using h.transfer
  distinct := h.distinct

/-! #### Submissions -/

/-- What a transfer submission carries: the signal if there is one, and the transfer fence. -/
def transferInfo (b f : Nat) (signals : Bool) : Submission :=
  { wait := none
    signal := if signals then some b else none
    advance := none
    fence := some f }

/-- What a submission to the render queue carries: the wait if there is one, the next value of the
timeline, and a fence if it is the count pass. -/
def workInfo (t b c value : Nat) (waits fenced : Bool) : Submission :=
  { wait := if waits then some b else none
    signal := none
    advance := some (t, value)
    fence := if fenced then some c else none }

/-- Transfers may be submitted when no signal is pending and their fence is unsignalled. -/
theorem transferInfo_valid (h : Holds log n t b c f v) (hpending : v.pending = false)
    (htransfer : v.transfer = false) (signals : Bool) :
    (transferInfo b f signals).Valid (objects log) where
  wait _ hwait := by simp [transferInfo] at hwait
  signal id hsignal := by
    cases signals with
    | false => simp [transferInfo] at hsignal
    | true =>
      obtain rfl : b = id := by simpa [transferInfo] using hsignal
      rw [h.binary, hpending]
  advance _ _ hadvance := by simp [transferInfo] at hadvance
  fence id hfence := by
    obtain rfl : f = id := by simpa [transferInfo] using hfence
    rw [h.transfer, htransfer]

/-- Work may be submitted when it waits for the signal that is pending, and its value is new. -/
theorem workInfo_valid (h : Holds log n t b c f v) {value : Nat} (waits fenced : Bool)
    (hpending : v.pending = waits) (hvalue : ∀ u ∈ v.values, u < value)
    (hfence : fenced = true → v.inCompute = false) :
    (workInfo t b c value waits fenced).Valid (objects log) where
  wait id hwait := by
    cases waits with
    | false => simp [workInfo] at hwait
    | true =>
      obtain rfl : b = id := by simpa [workInfo] using hwait
      rw [h.binary, hpending]
  signal _ hsignal := by simp [workInfo] at hsignal
  advance t' value' hadvance := by
    obtain ⟨rfl, rfl⟩ : t = t' ∧ value = value' := by simpa [workInfo] using hadvance
    exact ⟨v.values, h.timeline, hvalue⟩
  fence id hid := by
    cases fenced with
    | false => simp [workInfo] at hid
    | true =>
      obtain rfl : c = id := by simpa [workInfo] using hid
      rw [h.inCompute, hfence rfl]

/-- A transfer submission leaves its signal pending. -/
theorem submitTransfer (h : Holds log n t b c f v) (hpending : v.pending = false)
    (htransfer : v.transfer = false) (signals : Bool) :
    Holds (log ++ [.submit (transferInfo b f signals) true]) n t b c f
      { v with pending := signals, transfer := true } where
  sound := h.sound.use (h.transferInfo_valid hpending htransfer signals) (by simp)
  timeline := by
    simpa [Objects.apply, Objects.accept_timeline, transferInfo, Objects.raise] using h.timeline
  binary := by
    cases signals <;>
      simp [Objects.apply, Objects.accept_binary, transferInfo, Objects.setPending, h.binary,
        hpending, Life.map]
  inCompute := by
    simpa [Objects.apply, Objects.accept_fence, transferInfo, Objects.setReady,
      Function.update_of_ne h.distinct] using h.inCompute
  transfer := by
    simp [Objects.apply, Objects.accept_fence, transferInfo, Objects.setReady, h.transfer,
      Life.map]
  distinct := h.distinct

/-- A submission to the render queue takes the pending signal. -/
theorem submitWork (h : Holds log n t b c f v) {value : Nat} (waits fenced : Bool)
    (hpending : v.pending = waits) (hvalue : ∀ u ∈ v.values, u < value)
    (hfence : fenced = true → v.inCompute = false) :
    Holds (log ++ [.submit (workInfo t b c value waits fenced) true]) n t b c f
      { v with values := value :: v.values, pending := false,
               inCompute := v.inCompute || fenced } where
  sound := h.sound.use (h.workInfo_valid waits fenced hpending hvalue hfence) (by simp)
  timeline := by
    simp [Objects.apply, Objects.accept_timeline, workInfo, Objects.raise, h.timeline, Life.map]
  binary := by
    cases waits <;>
      simp [Objects.apply, Objects.accept_binary, workInfo, Objects.setPending, h.binary,
        hpending, Life.map]
  inCompute := by
    cases fenced <;>
      simp [Objects.apply, Objects.accept_fence, workInfo, Objects.setReady, h.inCompute, Life.map]
  transfer := by
    cases fenced <;>
      simp [Objects.apply, Objects.accept_fence, workInfo, Objects.setReady, h.transfer,
        Function.update_of_ne h.distinct.symm]
  distinct := h.distinct

/-! #### Objects made anew -/

/-- A new timeline semaphore has no values yet. -/
theorem renewTimeline (h : Holds log n t b c f v) :
    Holds (log ++ [.destroyTimeline t] ++ [.createTimeline n]) (n + 1) n b c f
      { v with values := [] } where
  sound := (h.sound.destroyTimeline h.timeline).createTimeline
  timeline := by simp [Objects.apply]
  binary := by simpa [Objects.apply] using h.binary
  inCompute := by simpa [Objects.apply] using h.inCompute
  transfer := by simpa [Objects.apply] using h.transfer
  distinct := h.distinct

/-- A new compute fence is signalled. -/
theorem renewInCompute (h : Holds log n t b c f v) :
    Holds (log ++ [.destroyFence c] ++ [.createFence n true]) (n + 1) t b n f
      { v with inCompute := true } where
  sound := (h.sound.destroyFence h.inCompute).createFence true
  timeline := by simpa [Objects.apply] using h.timeline
  binary := by simpa [Objects.apply] using h.binary
  inCompute := by simp [Objects.apply]
  transfer := by
    have hf := h.sound.fence_lt h.transfer
    simp [Objects.apply, Function.update_of_ne hf.ne, Function.update_of_ne h.distinct.symm,
      h.transfer]
  distinct := (h.sound.fence_lt h.transfer).ne'

/-- So is a new transfer fence. -/
theorem renewTransfer (h : Holds log n t b c f v) :
    Holds (log ++ [.destroyFence f] ++ [.createFence n true]) (n + 1) t b c n
      { v with transfer := true } where
  sound := (h.sound.destroyFence h.transfer).createFence true
  timeline := by simpa [Objects.apply] using h.timeline
  binary := by simpa [Objects.apply] using h.binary
  inCompute := by
    have hc := h.sound.fence_lt h.inCompute
    simp [Objects.apply, Function.update_of_ne hc.ne, Function.update_of_ne h.distinct,
      h.inCompute]
  transfer := by simp [Objects.apply]
  distinct := (h.sound.fence_lt h.inCompute).ne

/-- A new binary semaphore has no signal pending; the old one had none, unless its wait was
rejected. -/
theorem renewBinary (h : Holds log n t b c f v) (hlost : v.pending = true → Rejected log b) :
    Holds (log ++ [.destroyBinary b] ++ [.createBinary n]) (n + 1) t n c f
      { v with pending := false } where
  sound := h.sound.renewBinary h.binary hlost
  timeline := by simpa [Objects.apply] using h.timeline
  binary := by simp [Objects.apply]
  inCompute := by simpa [Objects.apply] using h.inCompute
  transfer := by simpa [Objects.apply] using h.transfer
  distinct := h.distinct

/-! #### A fence of a one-time submission -/

/-- An operation on a fence that the renderer does not hold as a member. -/
theorem other (h : Holds log n t b c f v) {op : Op} {n' : Nat} (id : Nat)
    (hsound : Sound (log ++ [op]) n' b)
    (htimeline : ((objects log).apply op).timeline = (objects log).timeline)
    (hbinary : ((objects log).apply op).binary = (objects log).binary)
    (hfence : ∀ j, j ≠ id → ((objects log).apply op).fence j = (objects log).fence j)
    (hc : c ≠ id) (hf : f ≠ id) : Holds (log ++ [op]) n' t b c f v where
  sound := hsound
  timeline := by rw [objects_concat, htimeline]; exact h.timeline
  binary := by rw [objects_concat, hbinary]; exact h.binary
  inCompute := by rw [objects_concat, hfence c hc]; exact h.inCompute
  transfer := by rw [objects_concat, hfence f hf]; exact h.transfer
  distinct := h.distinct

/-- The objects held do not notice another fence. -/
theorem createOther (h : Holds log n t b c f v) (signalled : Bool) :
    Holds (log ++ [.createFence n signalled]) (n + 1) t b c f v :=
  h.other n (h.sound.createFence signalled) rfl rfl (fun _ hj => Function.update_of_ne hj _ _)
    (h.sound.fence_lt h.inCompute).ne (h.sound.fence_lt h.transfer).ne

/-- What a one-time submission carries: its fence. -/
def onceInfo (fence : Nat) : Submission :=
  { wait := none, signal := none, advance := none, fence := some fence }

/-- A one-time submission needs nothing but an unsignalled fence. -/
theorem onceInfo_valid {id : Nat} (hid : (objects log).fence id = .live false) :
    (onceInfo id).Valid (objects log) where
  wait _ hwait := by simp [onceInfo] at hwait
  signal _ hsignal := by simp [onceInfo] at hsignal
  advance _ _ hadvance := by simp [onceInfo] at hadvance
  fence j hj := by
    obtain rfl : id = j := by simpa [onceInfo] using hj
    exact hid

/-- Nor do they notice a submission with that fence. -/
theorem submitOther (h : Holds log n t b c f v) {id : Nat}
    (hid : (objects log).fence id = .live false) (hc : c ≠ id) (hf : f ≠ id) :
    Holds (log ++ [.submit (onceInfo id) true]) n t b c f v := by
  refine h.other id (h.sound.use (onceInfo_valid hid) (by simp)) ?_ ?_ ?_ hc hf
  · simp [Objects.apply, Objects.accept_timeline, onceInfo, Objects.raise]
  · simp [Objects.apply, Objects.accept_binary, onceInfo, Objects.setPending]
  · intro j hj
    simp [Objects.apply, Objects.accept_fence, onceInfo, Objects.setReady,
      Function.update_of_ne hj]

/-- Nor its end. -/
theorem destroyOther (h : Holds log n t b c f v) {id : Nat} {r : Bool}
    (hid : (objects log).fence id = .live r) (hc : c ≠ id) (hf : f ≠ id) :
    Holds (log ++ [.destroyFence id]) n t b c f v :=
  h.other id (h.sound.destroyFence hid) rfl rfl (fun _ hj => Function.update_of_ne hj _ _) hc hf

end Holds

end OkularV3d.Synchronisation
