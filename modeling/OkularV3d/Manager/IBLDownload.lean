import OkularV3d.Lib.Runs
import OkularV3d.Manager.IBLName

/-!
# Batches of IBL downloads

Every accepted prompt starts a batch of requests on a `QNetworkAccessManager` of its own
(`performIBLDownload`), and every finished reply counts the outstanding ones down
(`onIBLDownloadReplyFinished`) until the last one completes the batch (`onIBLDownloadComplete`). The
counter and the pointer to the network manager are members of the `V3dModelManager`: all its batches
share them.

`Downloads` is that state together with what Qt owns: the network managers that are alive and the
replies that are outstanding. All of it happens on the main thread, so a run is a list of accepted
prompts and finished replies in any order. `stepSound_along_iff` is the result: the batches are
accounted for, along a run, iff none is started while a reply of an earlier one is outstanding.

* `Downloads` is the state, with what Qt owns; `DownloadStep` is an accepted prompt or a finished
  reply.
* `StepSound` is the property of a step, `StartsAlone` the condition on it.
* `Downloads.Single` is the invariant: one batch at most.
* `Downloads.step` is the source, one reply at a time.
-/

namespace OkularV3d

open Runs

namespace IBLDownload

/-- `DownloadTask`: `refl.exr` of the library, and `diffuse.exr` and `refl0.exr` to `refl10.exr` of
the image. -/
inductive DownloadTask where
  | refl
  | diffuse
  | level (i : Fin 11)
  deriving DecidableEq, Repr

/-- The tasks of a batch. -/
def tasks : List DownloadTask := .refl :: .diffuse :: (List.finRange 11).map .level

/-- The requests of a batch: `refl.exr` is skipped if it exists. -/
def requests (reflExists : Bool) : List DownloadTask :=
  tasks.filter fun task => !(task = .refl && reflExists)

/-- Only `refl.exr` is ever skipped. -/
theorem requests_ne_nil (reflExists : Bool) : requests reflExists ≠ [] := by
  cases reflExists <;> decide

/-- An outstanding `QNetworkReply`: the network manager that owns it, by the number of its
construction, the normalised image name of its batch and its file. -/
structure Reply where
  manager : Nat
  imageName : ByteString
  task : DownloadTask
  deriving DecidableEq, Repr

/-- How a reply finishes: a network error, an HTML page, or a body that is empty or not and is
written or not. -/
inductive ReplyOutcome where
  | networkError
  | html
  | body (empty written : Bool)
  deriving DecidableEq, Repr

/-- What a step does that is not seen in the state after it.

* `write reply`: the file of a reply is written.
* `complete outstanding`: `onIBLDownloadComplete` is entered, with these replies outstanding.
* `deleteManager manager outstanding`: a network manager is deleted, with these replies of its own
  outstanding. -/
inductive Event where
  | write (reply : Reply)
  | complete (outstanding : List Reply)
  | deleteManager (manager : Nat) (outstanding : List Reply)
  deriving DecidableEq, Repr

/-- The download state of a `V3dModelManager`.

* `pendingDownloadCount`: `m_PendingDownloadCount`.
* `netManager`: `m_IBLNetManager`.
* `created`: the network managers constructed so far.
* `alive`: those not yet deleted.
* `replies`: the replies not yet finished.
* `unserved`: the batches started since `onIBLDownloadComplete` ran last. It is history: nothing in
  the source. -/
structure Downloads where
  pendingDownloadCount : Int
  netManager : Option Nat
  created : Nat
  alive : List Nat
  replies : List Reply
  unserved : List Nat
  deriving DecidableEq, Repr

namespace Downloads

/-- A manager that has downloaded nothing. -/
def init : Downloads := ⟨0, none, 0, [], [], []⟩

/-- `delete` of a `QNetworkAccessManager`: its replies are its children and go with it. -/
def deleteManager (s : Downloads) (manager : Nat) : Downloads × List Event :=
  ({ s with
      alive := s.alive.erase manager
      replies := s.replies.filter fun r => r.manager ≠ manager },
    [.deleteManager manager (s.replies.filter fun r => r.manager = manager)])

/-- `delete m_IBLNetManager; m_IBLNetManager = nullptr`. -/
def dropManager (s : Downloads) : Downloads × List Event :=
  match s.netManager with
  | some manager =>
    let (s, events) := s.deleteManager manager
    ({ s with netManager := none }, events)
  | none => (s, [])

/-- `V3dModelManager::onIBLDownloadComplete`, as far as the downloads go. -/
def onIBLDownloadComplete (s : Downloads) : Downloads × List Event :=
  let (s', events) := s.dropManager
  ({ s' with unserved := [] }, .complete s.replies :: events)

/-- The decrement and the test of each of the three exits of `onIBLDownloadReplyFinished`. -/
def countDown (s : Downloads) (reply : Reply) : Downloads × List Event :=
  let s :=
    { s with
      pendingDownloadCount := s.pendingDownloadCount - 1
      replies := s.replies.erase reply }
  if s.pendingDownloadCount = 0 then s.onIBLDownloadComplete else (s, [])

/-- `V3dModelManager::onIBLDownloadReplyFinished`. -/
def onIBLDownloadReplyFinished (s : Downloads) (reply : Reply) :
    ReplyOutcome → Downloads × List Event
  | .networkError => s.countDown reply
  | .html => s.countDown reply
  | .body empty written =>
    let (s, events) := s.countDown reply
    (s, if !empty && written then .write reply :: events else events)

/-- `V3dModelManager::performIBLDownload` from an accepted prompt on: `directories` is whether the
two directories exist or could be made. -/
def performIBLDownload (s : Downloads) (imageName : ByteString) (directories reflExists : Bool) :
    Downloads × List Event :=
  if !directories then (s, [])
  else
    let replies := (requests reflExists).map (Reply.mk s.created imageName)
    let s : Downloads :=
      { pendingDownloadCount := replies.length
        netManager := some s.created
        created := s.created + 1
        alive := s.created :: s.alive
        replies := s.replies ++ replies
        unserved := s.created :: s.unserved }
    if s.pendingDownloadCount = 0 then
      let (s, events) := s.dropManager
      let (s, completed) := s.onIBLDownloadComplete
      (s, events ++ completed)
    else (s, [])

end Downloads

/-- A step of the main thread.

* `accept`: a prompt for this image is answered with Yes.
* `finish`: an outstanding reply finishes. -/
inductive DownloadStep where
  | accept (imageName : ByteString) (directories reflExists : Bool)
  | finish (reply : Reply) (outcome : ReplyOutcome)
  deriving DecidableEq, Repr

/-- One step. A reply that is not outstanding does not finish. -/
def step (s : Downloads) : DownloadStep → Downloads × List Event
  | .accept imageName directories reflExists =>
    s.performIBLDownload imageName directories reflExists
  | .finish reply outcome =>
    if reply ∈ s.replies then s.onIBLDownloadReplyFinished reply outcome else (s, [])

/-- The state after a step. -/
def next (s : Downloads) (a : DownloadStep) : Downloads := (step s a).1

/-- **A step accounts for its batches**: the counter is the number of outstanding replies, every
network manager that is alive is the one that will be deleted, a batch without outstanding replies
has been completed, and neither is anything completed nor a network manager deleted while replies
are outstanding. -/
structure StepSound (s : Downloads) (a : DownloadStep) : Prop where
  counted : (next s a).pendingDownloadCount = (next s a).replies.length
  held : ∀ manager ∈ (next s a).alive, (next s a).netManager = some manager
  served : ∀ batch ∈ (next s a).unserved, ∃ r ∈ (next s a).replies, r.manager = batch
  complete : ∀ outstanding, .complete outstanding ∈ (step s a).2 → outstanding = []
  deleteManager : ∀ manager outstanding,
    .deleteManager manager outstanding ∈ (step s a).2 → outstanding = []

/-- The condition on a step: **no batch is started** while a reply of an earlier one is
outstanding. -/
def StartsAlone (s : Downloads) : DownloadStep → Prop
  | .accept _ directories _ => directories = true → s.replies = []
  | .finish .. => True

instance : ∀ s a, Decidable (StartsAlone s a)
  | _, .accept .. => by unfold StartsAlone; infer_instance
  | _, .finish .. => inferInstanceAs (Decidable True)

/-! ### One batch at a time -/

/-- The downloads of a manager with one batch at most: all outstanding replies are those of the
network manager pointed to, which is the only one alive, and the counter counts them. -/
structure Downloads.Single (s : Downloads) : Prop where
  counted : s.pendingDownloadCount = s.replies.length
  owned : ∀ r ∈ s.replies, s.netManager = some r.manager
  alive : s.alive = s.netManager.toList
  unserved : ∀ batch ∈ s.unserved, s.netManager = some batch
  idle : s.replies = [] → s.netManager = none
  image : ∃ imageName, ∀ r ∈ s.replies, r.imageName = imageName

theorem Downloads.single_init : Downloads.init.Single := by
  constructor <;> simp [Downloads.init]

namespace Downloads

variable {s : Downloads}

/-- With nothing outstanding, completing deletes the network manager and leaves nothing behind. -/
theorem onIBLDownloadComplete_of_nil (hreplies : s.replies = [])
    (halive : s.alive = s.netManager.toList) :
    s.onIBLDownloadComplete.1 = { s with netManager := none, alive := [], unserved := [] } ∧
      ∀ e ∈ s.onIBLDownloadComplete.2, e = .complete [] ∨ ∃ n, e = .deleteManager n [] := by
  obtain ⟨count, netManager, created, alive, replies, unserved⟩ := s
  obtain rfl : replies = [] := hreplies
  obtain rfl : alive = netManager.toList := halive
  cases netManager with
  | none => simp [onIBLDownloadComplete, dropManager]
  | some n => simp [onIBLDownloadComplete, dropManager, deleteManager]

namespace Single

/-- What is left of a batch when one of its replies has finished. -/
theorem countDown (hs : s.Single) {reply : Reply} (hreply : reply ∈ s.replies) :
    (s.countDown reply).1.Single ∧
      ∀ e ∈ (s.countDown reply).2, e = .complete [] ∨ ∃ n, e = .deleteManager n [] := by
  have hlength : (s.replies.erase reply).length + 1 = s.replies.length := by
    have := List.length_pos_of_mem hreply
    rw [List.length_erase_of_mem hreply]
    omega
  have hcounted := hs.counted
  obtain ⟨imageName, himage⟩ := hs.image
  unfold Downloads.countDown
  dsimp only
  split_ifs with hzero
  · -- the last one
    have hnil : s.replies.erase reply = [] := by
      rw [← List.length_eq_zero_iff]
      omega
    obtain ⟨hstate, hevents⟩ := onIBLDownloadComplete_of_nil
      (s := { s with
        pendingDownloadCount := s.pendingDownloadCount - 1
        replies := s.replies.erase reply }) hnil hs.alive
    refine ⟨?_, hevents⟩
    rw [hstate]
    refine ⟨?_, ?_, rfl, ?_, fun _ => rfl, ⟨imageName, ?_⟩⟩
    · simp only [hnil, List.length_nil]
      omega
    all_goals simp [hnil]
  · have hne : s.replies.erase reply ≠ [] := by
      intro hnil
      rw [hnil] at hlength
      simp only [List.length_nil] at hlength
      omega
    refine ⟨⟨?_, fun r hr => hs.owned r (List.mem_of_mem_erase hr), hs.alive, hs.unserved,
      fun hnil => absurd hnil hne, ⟨imageName, fun r hr => himage r (List.mem_of_mem_erase hr)⟩⟩,
      fun e he => absurd he List.not_mem_nil⟩
    simp only
    omega

/-- A finished reply, whatever its outcome. -/
theorem onIBLDownloadReplyFinished (hs : s.Single) {reply : Reply} (hreply : reply ∈ s.replies)
    (outcome : ReplyOutcome) :
    (s.onIBLDownloadReplyFinished reply outcome).1.Single ∧
      ∀ e ∈ (s.onIBLDownloadReplyFinished reply outcome).2,
        e = .write reply ∨ e = .complete [] ∨ ∃ n, e = .deleteManager n [] := by
  obtain ⟨hsingle, hevents⟩ := hs.countDown hreply
  cases outcome with
  | networkError | html => exact ⟨hsingle, fun e he => .inr (hevents e he)⟩
  | body empty written =>
    refine ⟨hsingle, fun e he => ?_⟩
    simp only [Downloads.onIBLDownloadReplyFinished] at he
    split_ifs at he
    · rcases List.mem_cons.mp he with rfl | he
      · exact .inl rfl
      · exact .inr (hevents e he)
    · exact .inr (hevents e he)

/-- A finished reply completes the batch, or leaves some of its replies. -/
theorem complete_or_replies (hs : s.Single) {reply : Reply} (hreply : reply ∈ s.replies)
    (outcome : ReplyOutcome) :
    (∃ rs, .complete rs ∈ (s.onIBLDownloadReplyFinished reply outcome).2) ∨
      (s.onIBLDownloadReplyFinished reply outcome).1.replies ≠ [] ∧
        ∀ r ∈ (s.onIBLDownloadReplyFinished reply outcome).1.replies, r ∈ s.replies := by
  have hlength := List.length_erase_of_mem hreply
  have hcounted := hs.counted
  have hcount : (∃ rs, .complete rs ∈ (s.countDown reply).2) ∨
      (s.countDown reply).1.replies ≠ [] ∧ ∀ r ∈ (s.countDown reply).1.replies, r ∈ s.replies := by
    unfold Downloads.countDown
    dsimp only
    split_ifs with hzero
    · exact .inl ⟨_, List.mem_cons_self⟩
    · refine .inr ⟨fun hnil => hzero ?_, fun r hr => List.mem_of_mem_erase hr⟩
      rw [← List.length_eq_zero_iff] at hnil
      simp only at hnil
      have := List.length_pos_of_mem hreply
      omega
  cases outcome with
  | networkError | html => exact hcount
  | body empty written =>
    refine hcount.imp (fun ⟨rs, hrs⟩ => ⟨rs, ?_⟩) id
    simp only [Downloads.onIBLDownloadReplyFinished]
    split_ifs
    · exact List.mem_cons_of_mem _ hrs
    · exact hrs

/-- The state in which a batch has just been started. -/
theorem performIBLDownload_eq (s : Downloads) (imageName : ByteString) (reflExists : Bool) :
    s.performIBLDownload imageName true reflExists =
      ({ pendingDownloadCount := (requests reflExists).length
         netManager := some s.created
         created := s.created + 1
         alive := s.created :: s.alive
         replies := s.replies ++ (requests reflExists).map (Reply.mk s.created imageName)
         unserved := s.created :: s.unserved }, []) := by
  simp [Downloads.performIBLDownload, requests_ne_nil]

/-- A batch started with nothing outstanding. -/
theorem performIBLDownload (hs : s.Single) (hreplies : s.replies = []) (imageName : ByteString)
    (reflExists : Bool) : (s.performIBLDownload imageName true reflExists).1.Single := by
  have hnone := hs.idle hreplies
  rw [performIBLDownload_eq]
  refine ⟨by simp [hreplies], ?_, by simp [hs.alive, hnone], ?_, ?_, ⟨imageName, ?_⟩⟩
  · intro r hr
    simp only [hreplies, List.nil_append, List.mem_map] at hr
    obtain ⟨task, -, rfl⟩ := hr
    rfl
  · intro batch hbatch
    rcases List.mem_cons.mp hbatch with rfl | hbatch
    · rfl
    · exact absurd (hs.unserved batch hbatch) (by simp [hnone])
  · intro hnil
    simp [hreplies, requests_ne_nil] at hnil
  · intro r hr
    simp only [hreplies, List.nil_append, List.mem_map] at hr
    obtain ⟨task, -, rfl⟩ := hr
    rfl

/-- Every batch not yet completed has an outstanding reply. -/
theorem served (hs : s.Single) : ∀ batch ∈ s.unserved, ∃ r ∈ s.replies, r.manager = batch := by
  intro batch hbatch
  have hmanager := hs.unserved batch hbatch
  obtain ⟨r, hr⟩ := List.exists_mem_of_ne_nil s.replies fun hnil => by
    simp [hs.idle hnil] at hmanager
  exact ⟨r, hr, Option.some.inj ((hs.owned r hr).symm.trans hmanager)⟩

theorem held (hs : s.Single) : ∀ manager ∈ s.alive, s.netManager = some manager := by
  intro manager hmanager
  rw [hs.alive] at hmanager
  exact Option.mem_toList.mp hmanager

/-- **Step lemma**: a step that starts no batch beside another keeps the invariant, and everything
that it completes or deletes is finished. -/
theorem step (hs : s.Single) {a : DownloadStep} (ha : StartsAlone s a) :
    (next s a).Single ∧ ∀ e ∈ (IBLDownload.step s a).2,
      (∃ r, e = .write r) ∨ e = .complete [] ∨ ∃ n, e = .deleteManager n [] := by
  cases a with
  | accept imageName directories reflExists =>
    cases directories with
    | false => exact ⟨hs, fun e he => absurd he List.not_mem_nil⟩
    | true =>
      refine ⟨hs.performIBLDownload (ha rfl) imageName reflExists, fun e he => ?_⟩
      rw [IBLDownload.step, performIBLDownload_eq] at he
      exact absurd he List.not_mem_nil
  | finish reply outcome =>
    unfold next IBLDownload.step
    dsimp only
    split_ifs with hreply
    · obtain ⟨hsingle, hevents⟩ := hs.onIBLDownloadReplyFinished hreply outcome
      exact ⟨hsingle, fun e he => (hevents e he).imp (fun h => ⟨reply, h⟩) id⟩
    · exact ⟨hs, fun e he => absurd he List.not_mem_nil⟩

/-- Under the invariant a step is sound iff it starts no batch beside another. -/
theorem stepSound_iff (hs : s.Single) (a : DownloadStep) : StepSound s a ↔ StartsAlone s a := by
  constructor
  · intro h
    cases a with
    | finish reply outcome => trivial
    | accept imageName directories reflExists =>
      rintro rfl
      -- the counter is set to the number of new requests
      have hcounted := h.counted
      rw [next, IBLDownload.step, performIBLDownload_eq] at hcounted
      simp only [List.length_append, List.length_map] at hcounted
      rw [← List.length_eq_zero_iff]
      omega
  · intro ha
    obtain ⟨hsingle, hevents⟩ := hs.step ha
    refine ⟨hsingle.counted, hsingle.held, hsingle.served, ?_, ?_⟩
    · intro outstanding he
      rcases hevents _ he with ⟨r, h⟩ | h | ⟨n, h⟩
      · cases h
      · exact Event.complete.inj h
      · cases h
    · intro manager outstanding he
      rcases hevents _ he with ⟨r, h⟩ | h | ⟨n, h⟩
      · cases h
      · cases h
      · exact (Event.deleteManager.inj h).2

end Single

end Downloads

/-! ### Runs -/

/-- **Every batch is accounted for**, along a run of accepted prompts and finished replies, iff no
batch is started while a reply of an earlier one is outstanding. -/
theorem stepSound_along_iff (as : List DownloadStep) :
    Along next StepSound .init as ↔ Along next StartsAlone .init as :=
  along_iff_of_invariant (fun _ a hs => hs.stepSound_iff a) (fun _ _ hs ha => (hs.step ha).1)
    Downloads.single_init as

/-- Two images are missing and both prompts are accepted; then the replies of the first batch finish
one after another. -/
def twoBatches : List DownloadStep :=
  [.accept [0x61] true true, .accept [0x62] true true] ++
    (requests true).map fun task => .finish ⟨0, [0x61], task⟩ (.body false true)

/-- With the first batch the completion runs, and deletes the network manager of the second one,
none of whose replies has finished. -/
example :
    (step (runState next .init (twoBatches.take 13))
      (.finish ⟨0, [0x61], .level 10⟩ (.body false true))).2 =
    [.write ⟨0, [0x61], .level 10⟩,
      .complete ((requests true).map (Reply.mk 1 [0x62])),
      .deleteManager 1 ((requests true).map (Reply.mk 1 [0x62]))] := by
  decide +kernel

theorem not_stepSound_twoBatches : ¬ Along next StepSound .init twoBatches := by
  intro h
  exact absurd h.2.1.counted (by decide)

end IBLDownload

end OkularV3d
