import OkularV3d.Render.HeldObjects
import OkularV3d.Render.Synchronisation

/-!
# The renderer keeps the rules of its fences and semaphores

`Frame pending inCompute transfer` relates the members of the renderer to the objects they name
(`Holds`) and the counters to the values submitted. Every function of the model takes one such
state to another, or throws in a state with `Aborted`, from which `cleanup` gets back to where a
call starts (`Ready`). A signal is pending only between `endAndSubmitTransfers` and the next
submission, so the one signal that can be lost is the one a rejected submission was to wait for.

* Each function has a specification `Triple P f Q R`: from `P` it ends in `Q`, or throws in `R`.
  They compose by the rules of `OkularV3d.Lib.Fallible`.
* `Counted` relates `currentTimelineValue` and the two values waited for to the values submitted.
* `cleanup_spec` is the recovery, `submitMain_spec`, `refreshBuffers_spec` and `recreate_spec` the
  parts with most cases; `draw_spec` and `renderFrame_spec` put them together.
* `ready_render` and `ready_run` are the step and the run lemma; `synchronised` reads the discipline
  off the history a run leaves.
-/

namespace OkularV3d.Synchronisation

open Fallible SyncObjects Runs

/-! ### States of the renderer -/

/-- The members and the objects they name are in the states `v`. -/
def Sync.Shows (s : Sync) (v : View) : Prop :=
  Holds s.log s.created s.timelineSemaphore s.transferDoneSemaphore s.inComputeFence
    s.transferFence v

/-- The counters against the values submitted on the timeline semaphore: none exceeds
`currentTimelineValue`, and the two values to wait for are zero or submitted. -/
def Counted (current compute frame : Nat) (values : List Nat) : Prop :=
  (∀ u ∈ values, u ≤ current) ∧ (compute = 0 ∨ compute ∈ values) ∧ (frame = 0 ∨ frame ∈ values)

/-- Within a frame: whether the signal of a transfer is pending, and whether the two fences are
signalled or attached. -/
def Frame (pending inCompute transfer : Bool) (s : Sync) : Prop :=
  ∃ values, s.Shows ⟨values, pending, inCompute, transfer⟩ ∧
    Counted s.currentTimelineValue s.computeTimelineValue s.timelineValue values

/-- Where a call starts: no signal is pending, and the transfer fence can be waited for. -/
def Ready (s : Sync) : Prop := ∃ inCompute, Frame false inCompute true s

/-- Where an exception leaves the renderer: a signal is pending only if the submission that was to
wait for it has been rejected. -/
def Aborted (s : Sync) : Prop :=
  ∃ v, s.Shows v ∧ (v.pending = true → Rejected s.log s.transferDoneSemaphore)

/-- A frame without a pending signal can be given up. -/
theorem Frame.aborted {c f : Bool} {s : Sync} (h : Frame false c f s) : Aborted s := by
  obtain ⟨values, hshows, -⟩ := h
  exact ⟨_, hshows, fun hpending => absurd hpending Bool.false_ne_true⟩

/-- So can a renderer between two calls. -/
theorem Ready.aborted {s : Sync} (h : Ready s) : Aborted s := by
  obtain ⟨c, hframe⟩ := h
  exact hframe.aborted

/-! ### Vulkan calls -/

section Calls

variable {P Q R : Sync → Prop}

/-- The result of a call says nothing about fences and semaphores. -/
theorem vkCall_spec (hP : ∀ s answers, P s → P { s with answers := answers }) :
    Triple P vkCall (fun _ => P) R := by
  refine Triple.modifyGet fun s hs => ?_
  cases hanswers : s.answers with
  | nil => exact hs
  | cons res answers => exact hP s answers hs

/-- What is checked goes on only after a success. -/
theorem vkCheckResult_spec {f : Vk VkResult} {T : VkResult → Sync → Prop} (h : Triple P f T R)
    (hok : ∀ s, T .success s → Q s) (herr : ∀ res s, res ≠ .success → T res s → R s) :
    Triple P (vkCheckResult f) (fun _ => Q) R := by
  refine h.bind fun res => Triple.ite (fun hres => ?_) fun hres => ?_
  · subst hres
    exact Triple.pure hok
  · exact Triple.throw fun s => herr res s hres

/-- A checked call that touches neither fences nor semaphores. -/
theorem checked_spec (hP : ∀ s answers, P s → P { s with answers := answers })
    (hR : ∀ s, P s → R s) : Triple P (vkCheckResult vkCall) (fun _ => P) R :=
  vkCheckResult_spec (vkCall_spec hP) (fun _ => id) fun _ s _ => hR s

theorem vkResetFences_spec {fence : Nat} (hP : ∀ s answers, P s → P { s with answers := answers })
    (hreset : ∀ s, P s → Q (s.emit (.resetFence fence))) :
    Triple P (vkResetFences fence) (fun res s => if res = .success then Q s else P s) R := by
  refine (vkCall_spec hP).bind fun res => Triple.ite (fun hres => ?_) fun hres => ?_
  · refine Triple.bind (Q := fun _ => Q) (Triple.modify hreset) fun _ => Triple.pure fun s hs => ?_
    rwa [if_pos hres]
  · refine Triple.pure fun s hs => ?_
    rwa [if_neg hres]

/-- A reset that is checked has reset the fence, or throws. -/
theorem checkedReset_spec {fence : Nat} (hP : ∀ s answers, P s → P { s with answers := answers })
    (hreset : ∀ s, P s → Q (s.emit (.resetFence fence))) (hR : ∀ s, P s → R s) :
    Triple P (vkCheckResult (vkResetFences fence)) (fun _ => Q) R := by
  refine vkCheckResult_spec (vkResetFences_spec hP hreset) (fun s hs => ?_) fun res s hres hs => ?_
  · rwa [if_pos rfl] at hs
  · rw [if_neg hres] at hs
    exact hR s hs

/-- A checked submission: accepted, or rejected and thrown out. -/
theorem checkedSubmit_spec {info : Submission}
    (hP : ∀ s answers, P s → P { s with answers := answers })
    (hok : ∀ s, P s → Q (s.emit (.submit info true)))
    (herr : ∀ s, P s → R (s.emit (.submit info false))) :
    Triple P (vkCheckResult (vkQueueSubmit info)) (fun _ => Q) R := by
  have hsubmit : Triple P (vkQueueSubmit info)
      (fun res s => if res = .success then Q s else R s) R := by
    refine (vkCall_spec hP).bind fun res => ?_
    refine Triple.bind (Q := fun _ s => if res = .success then Q s else R s)
      (Triple.modify fun s hs => ?_) fun _ => Triple.pure fun _ => id
    by_cases hres : res = .success
    · rw [if_pos hres, decide_eq_true hres]
      exact hok s hs
    · rw [if_neg hres, decide_eq_false hres]
      exact herr s hs
  refine vkCheckResult_spec hsubmit (fun s hs => ?_) fun res s hres hs => ?_
  · rwa [if_pos rfl] at hs
  · rwa [if_neg hres] at hs

/-- Waiting for a fence, with the recovery that resets it. -/
theorem safeWaitForFences_spec {fence : Nat}
    (hQ : ∀ s answers, Q s → Q { s with answers := answers })
    (hwait : ∀ s, P s → Q (s.emit (.waitFence fence)))
    (hreset : ∀ s, Q s → Q (s.emit (.resetFence fence))) :
    Triple P (safeWaitForFences fence) (fun _ => Q) R := by
  have hcall : Triple P (vkWaitForFences fence) (fun _ => Q) R :=
    (Triple.modify hwait).bind fun _ => vkCall_spec hQ
  refine hcall.bind fun res => Triple.ite (fun _ => Triple.pure fun _ => id) fun _ => ?_
  refine (vkCall_spec hQ).bind fun _ => ?_
  refine (vkResetFences_spec hQ hreset).bind fun res' => Triple.pure fun s hs => ?_
  split_ifs at hs <;> exact hs

/-- The retry loop only waits. -/
theorem retryWait_spec {value : Nat} (hP : ∀ s answers, P s → P { s with answers := answers })
    (hwait : ∀ s, P s → P (s.emit (.waitTimeline s.timelineSemaphore value))) (retries : Nat) :
    Triple P (retryWait value retries) (fun _ => P) R := by
  induction retries with
  | zero => exact Triple.pure fun _ => id
  | succ retries ih =>
    have hcall : Triple P (vkWaitSemaphores value) (fun _ => P) R :=
      (Triple.modify hwait).bind fun _ => vkCall_spec hP
    refine hcall.bind fun res => ?_
    cases res with
    | timeout => exact ih
    | success => exact Triple.pure fun _ => id
    | outOfMemory => exact Triple.pure fun _ => id
    | error => exact Triple.pure fun _ => id

/-- Buffers are created without fences and semaphores. -/
theorem createBuffers_spec (hP : ∀ s answers, P s → P { s with answers := answers })
    (hR : ∀ s, P s → R s) (count : Nat) : Triple P (createBuffers count) (fun _ => P) R := by
  have hone : Triple P createBuffer (fun _ => P) R := by
    refine (checked_spec hP hR).bind fun _ => (vkCall_spec hP).bind fun res => ?_
    refine Triple.ite (fun _ => ?_) fun _ => Triple.pure fun _ => id
    exact (checked_spec hP hR).bind fun _ => Triple.pure fun _ => id
  induction count with
  | zero => exact Triple.pure fun _ => id
  | succ count ih =>
    exact hone.bind fun allocated => Triple.ite (fun _ => ih) fun _ => Triple.pure fun _ => id

end Calls

/-! ### Recovering -/

/-- After the timeline semaphore has been made anew: nothing is submitted on it. -/
def Restarted (inCompute transfer : Bool) (s : Sync) : Prop :=
  ∃ pending, s.Shows ⟨[], pending, inCompute, transfer⟩ ∧
    Counted s.currentTimelineValue s.computeTimelineValue s.timelineValue [] ∧
    (pending = true → Rejected s.log s.transferDoneSemaphore)

/-- Nothing has been submitted yet. -/
theorem counted_nil : Counted 0 0 0 [] := ⟨by simp, .inl rfl, .inl rfl⟩

/-- **`cleanup` recovers from every exception**, and does not throw. -/
theorem cleanup_spec : Triple Aborted cleanup (fun _ => Frame false true true) fun _ => False := by
  refine (vkCall_spec (P := Aborted) fun _ _ => id).bind fun _ => ?_
  refine Triple.bind (Q := fun _ s => ∃ c f, Restarted c f s) (Triple.modify ?_) fun _ => ?_
  · rintro s ⟨⟨values, pending, c, f⟩, hshows, hpending⟩
    exact ⟨c, f, pending, hshows.renewTimeline, counted_nil, fun h =>
      ((hpending h).append _).append _⟩
  refine Triple.bind (Q := fun _ s => ∃ f, Restarted true f s) (Triple.modify ?_) fun _ => ?_
  · rintro s ⟨c, f, pending, hshows, hcounted, hpending⟩
    exact ⟨f, pending, hshows.renewInCompute, hcounted, fun h => ((hpending h).append _).append _⟩
  refine Triple.bind (Q := fun _ => Restarted true true) (Triple.modify ?_) fun _ => ?_
  · rintro s ⟨f, pending, hshows, hcounted, hpending⟩
    exact ⟨pending, hshows.renewTransfer, hcounted, fun h => ((hpending h).append _).append _⟩
  refine Triple.modify ?_
  rintro s ⟨pending, hshows, hcounted, hpending⟩
  exact ⟨[], hshows.renewBinary hpending, hcounted⟩

/-- A value the renderer may wait for: zero, or one that has been submitted. -/
def Submitted (value : Nat) (p c f : Bool) (s : Sync) : Prop :=
  ∃ values, s.Shows ⟨values, p, c, f⟩ ∧
    Counted s.currentTimelineValue s.computeTimelineValue s.timelineValue values ∧
    (value = 0 ∨ value ∈ values)

/-- A value to wait for is known in a state of the frame. -/
theorem Submitted.frame {value : Nat} {p c f : Bool} {s : Sync} (h : Submitted value p c f s) :
    Frame p c f s := by
  obtain ⟨values, hshows, hcounted, -⟩ := h
  exact ⟨values, hshows, hcounted⟩

/-- The value of the compute queue is one to wait for. -/
theorem Frame.submitted_compute {p c f : Bool} {s : Sync} (h : Frame p c f s) :
    Submitted s.computeTimelineValue p c f s := by
  obtain ⟨values, hshows, hcounted⟩ := h
  exact ⟨values, hshows, hcounted, hcounted.2.1⟩

/-- So is that of the last frame. -/
theorem Frame.submitted_frame {p c f : Bool} {s : Sync} (h : Frame p c f s) :
    Submitted s.timelineValue p c f s := by
  obtain ⟨values, hshows, hcounted⟩ := h
  exact ⟨values, hshows, hcounted, hcounted.2.2⟩

/-- **A wait for a value that was submitted** leaves the fences and signals as they are. -/
theorem safeWaitTimelineSemaphore_spec {value : Nat} {p c f : Bool} {R : Sync → Prop} :
    Triple (Submitted value p c f) (safeWaitTimelineSemaphore value) (fun _ => Frame p c f) R := by
  refine Triple.ite (fun _ => Triple.pure fun _ h => h.frame) fun hvalue => ?_
  have hwait : ∀ s, Submitted value p c f s →
      Submitted value p c f (s.emit (.waitTimeline s.timelineSemaphore value)) := by
    rintro s ⟨values, hshows, hcounted, hmem⟩
    exact ⟨values, hshows.waitTimeline (hmem.resolve_left hvalue), hcounted, hmem⟩
  refine (retryWait_spec (fun _ _ => id) hwait maxRetries).bind fun reached => ?_
  refine Triple.ite (fun _ => Triple.pure fun _ h => h.frame) fun _ => ?_
  refine (vkCall_spec fun _ _ => id).bind fun _ => Triple.modify ?_
  rintro s ⟨values, hshows, -, -⟩
  exact ⟨[], hshows.renewTimeline, counted_nil⟩

/-! ### One-time submissions -/

/-- Between calls of a frame, with one more fence. -/
def WithFence (fence : Nat) (ready : Bool) (s : Sync) : Prop :=
  Ready s ∧ (objects s.log).fence fence = .live ready ∧ s.inComputeFence ≠ fence ∧
    s.transferFence ≠ fence

/-- A one-time submission has a fence of its own and no signal. -/
theorem submitOnce_spec : Triple Ready submitOnce (fun _ => Ready) Aborted := by
  have haborted : ∀ fence ready s, WithFence fence ready s → Aborted s :=
    fun _ _ _ h => h.1.aborted
  -- the fence of its own is created unsignalled, submitted with, waited for and destroyed
  refine (checked_spec (fun _ _ => id) fun _ h => h.aborted).bind fun _ => ?_
  refine Triple.bind (Q := fun fence => WithFence fence false) (Triple.modifyGet ?_) fun fence => ?_
  · rintro s ⟨c, values, hshows, hcounted⟩
    refine ⟨⟨c, values, hshows.createOther false, hcounted⟩, ?_,
      (hshows.sound.fence_lt hshows.inCompute).ne, (hshows.sound.fence_lt hshows.transfer).ne⟩
    change (objects (s.log ++ _)).fence s.created = _
    simp [Objects.apply]
  refine Triple.bind (Q := fun _ => WithFence fence true) (checkedSubmit_spec (fun _ _ => id) ?_ ?_)
    fun _ => ?_
  · rintro s ⟨⟨c, values, hshows, hcounted⟩, hfence, hc, hf⟩
    refine ⟨⟨c, values, hshows.submitOther hfence hc hf, hcounted⟩, ?_, hc, hf⟩
    change (objects (s.log ++ _)).fence fence = _
    simp [Objects.apply, Objects.accept_fence, Objects.setReady, hfence, Life.map]
  · rintro s ⟨⟨c, values, hshows, hcounted⟩, hfence, -, -⟩
    exact Frame.aborted (c := c) (f := true)
      ⟨values, hshows.reject (Holds.onceInfo_valid hfence), hcounted⟩
  have hwait : Triple (WithFence fence true) (vkWaitForFences fence)
      (fun _ => WithFence fence true) Aborted := by
    refine Triple.bind (Q := fun _ => WithFence fence true) (Triple.modify ?_) fun _ =>
      vkCall_spec fun _ _ => id
    rintro s ⟨⟨c, values, hshows, hcounted⟩, hfence, hc, hf⟩
    refine ⟨⟨c, values, hshows.waitFence hfence, hcounted⟩, ?_, hc, hf⟩
    change (objects (s.log ++ _)).fence fence = _
    simpa [Objects.apply] using hfence
  refine (vkCheckResult_spec hwait (fun _ => id) fun _ s _ => haborted fence true s).bind
    fun _ => Triple.modify ?_
  rintro s ⟨⟨c, values, hshows, hcounted⟩, hfence, hc, hf⟩
  exact ⟨c, values, hshows.destroyOther hfence hc hf, hcounted⟩

/-- Loading an environment map is made of such submissions. -/
theorem updateIBL_spec (reload : Option Nat) :
    Triple Ready (updateIBL reload) (fun _ => Ready) Aborted := by
  cases reload with
  | none => exact Triple.pure fun _ => id
  | some submissions =>
    refine (vkCall_spec fun _ _ => id).bind fun _ => ?_
    refine (submitOnce_spec.times submissions).bind fun _ => ?_
    exact checked_spec (fun _ _ => id) fun _ h => h.aborted

/-! ### Transfers -/

/-- The transfer fence is waited for and reset. -/
theorem beginTransferRecording_spec (c : Bool) :
    Triple (Frame false c true) beginTransferRecording (fun _ => Frame false c false) Aborted := by
  refine Triple.bind (Q := fun _ => Frame false c true) (Triple.modify fun _ => id) fun _ => ?_
  refine Triple.get_bind fun r => ?_
  have hwait : Triple (fun s => r = s ∧ Frame false c true s) (safeWaitForFences r.transferFence)
      (fun _ s => r.transferFence = s.transferFence ∧ ∃ f, Frame false c f s) Aborted := by
    refine safeWaitForFences_spec (fun _ _ => id) ?_ ?_
    · rintro s ⟨rfl, values, hshows, hcounted⟩
      exact ⟨rfl, true, values, hshows.waitFence hshows.transfer, hcounted⟩
    · rintro s ⟨hr, f, values, hshows, hcounted⟩
      rw [hr]
      exact ⟨rfl, false, values, hshows.resetTransfer, hcounted⟩
  refine hwait.bind fun _ => ?_
  refine Triple.bind (Q := fun _ => Frame false c false)
    (checkedReset_spec (fun _ _ => id) ?_ fun _ h => h.2.choose_spec.aborted) fun _ => ?_
  · rintro s ⟨hr, f, values, hshows, hcounted⟩
    rw [hr]
    exact ⟨values, hshows.resetTransfer, hcounted⟩
  · exact checked_spec (fun _ _ => id) fun _ h => h.aborted

/-- An upload is recorded; it submits nothing. -/
theorem upload_spec (c : Bool) :
    Triple (Frame false c false) upload (fun _ => Frame false c false) Aborted :=
  (checked_spec (fun _ _ => id) fun _ h => h.aborted).bind fun _ => Triple.modify fun _ => id

/-- While transfers are recorded: the handles and the flag read in the state `r` are still those
of the members. -/
def Recording (r : Sync) (work c : Bool) (s : Sync) : Prop :=
  r.transferFence = s.transferFence ∧ r.transferDoneSemaphore = s.transferDoneSemaphore ∧
    r.transferHasPendingWork = s.transferHasPendingWork ∧ s.transferHasPendingWork = work ∧
    Frame false c false s

/-- After `endAndSubmitTransfers` a signal is pending exactly if work was recorded. -/
theorem endAndSubmitTransfers_spec (work c : Bool) :
    Triple (fun s => s.transferHasPendingWork = work ∧ Frame false c false s)
      endAndSubmitTransfers
      (fun _ s => s.transferHasPendingWork = work ∧ Frame work c true s) Aborted := by
  refine (checked_spec (fun _ _ => id) fun _ h => h.2.aborted).bind fun _ => ?_
  refine Triple.get_bind fun r => ?_
  have hread : ∀ s, r = s ∧ s.transferHasPendingWork = work ∧ Frame false c false s →
      Recording r work c s := by
    rintro s ⟨rfl, hwork, hframe⟩
    exact ⟨rfl, rfl, rfl, hwork, hframe⟩
  refine Triple.pre ?_ hread
  refine Triple.bind (Q := fun _ => Recording r work c)
    (checkedReset_spec (fun _ _ => id) ?_ fun _ h => h.2.2.2.2.aborted) fun _ => ?_
  · rintro s ⟨hfence, hdone, hflag, hwork, values, hshows, hcounted⟩
    rw [hfence]
    exact ⟨hfence, hdone, hflag, hwork, values, hshows.resetTransfer, hcounted⟩
  refine checkedSubmit_spec (fun _ _ => id) ?_ ?_
  · rintro s ⟨hfence, hdone, hflag, hwork, values, hshows, hcounted⟩
    rw [hfence, hdone, hflag, hwork]
    exact ⟨hwork, values, hshows.submitTransfer rfl rfl work, hcounted⟩
  · rintro s ⟨hfence, hdone, hflag, hwork, values, hshows, hcounted⟩
    rw [hfence, hdone, hflag, hwork]
    exact Frame.aborted (c := c) (f := false)
      ⟨values, hshows.reject (hshows.transferInfo_valid rfl rfl work), hcounted⟩

/-! ### The count pass and the main pass -/

/-- While a submission to the render queue is prepared: the handles and the counter read in the
state `r` are those of the members, and its value exceeds all that were submitted. -/
def Numbered (r : Sync) (work c : Bool) (s : Sync) : Prop :=
  r.timelineSemaphore = s.timelineSemaphore ∧
    r.transferDoneSemaphore = s.transferDoneSemaphore ∧ r.inComputeFence = s.inComputeFence ∧
    r.currentTimelineValue = s.currentTimelineValue ∧
    ∃ values, s.Shows ⟨values, work, c, true⟩ ∧ (∀ u ∈ values, u < s.currentTimelineValue) ∧
      (s.computeTimelineValue = 0 ∨ s.computeTimelineValue ∈ s.currentTimelineValue :: values) ∧
      (s.timelineValue = 0 ∨ s.timelineValue ∈ values)

/-- After a submission to the render queue: its value has been submitted. -/
def Advanced (c : Bool) (s : Sync) : Prop :=
  ∃ values, s.Shows ⟨values, false, c, true⟩ ∧
    Counted s.currentTimelineValue s.computeTimelineValue s.timelineValue values ∧
    s.currentTimelineValue ∈ values

/-- A submission to the render queue takes the signal of the transfers, or throws with the
submission that was to take it rejected. -/
theorem submitNext_spec (r : Sync) (work c fenced : Bool) (hfence : fenced = true → c = false) :
    Triple (Numbered r work c)
      (vkCheckResult (vkQueueSubmit (Holds.workInfo r.timelineSemaphore r.transferDoneSemaphore
        r.inComputeFence r.currentTimelineValue work fenced)))
      (fun _ => Advanced (c || fenced)) Aborted := by
  refine checkedSubmit_spec (fun _ _ => id) ?_ ?_
  · rintro s ⟨ht, hb, hc, hr, values, hshows, hlt, hcompute, hframe⟩
    rw [ht, hb, hc, hr]
    refine ⟨_, hshows.submitWork work fenced rfl hlt hfence, ⟨?_, hcompute, ?_⟩,
      List.mem_cons_self⟩
    · intro u hu
      rcases List.mem_cons.mp hu with rfl | hu
      · exact le_rfl
      · exact (hlt u hu).le
    · exact hframe.imp_right (List.mem_cons_of_mem _)
  · rintro s ⟨ht, hb, hc, hr, values, hshows, hlt, -, -⟩
    rw [ht, hb, hc, hr]
    have hvalid := hshows.workInfo_valid work fenced rfl hlt hfence
    refine ⟨_, hshows.reject hvalid, fun hpending => ⟨_, ?_, List.mem_append_right _
      (List.mem_singleton_self _)⟩⟩
    have hwork : work = true := hpending
    rw [hwork]
    rfl

/-- The count pass takes the signal of the transfers, if there were any, and attaches the compute
fence. -/
theorem submitCount_spec (work : Bool) :
    Triple (Frame work false true) (submitCount work) (fun _ => Frame false true true) Aborted := by
  refine Triple.bind (Q := fun _ s => Numbered s work false s ∧
    s.computeTimelineValue = s.currentTimelineValue) (Triple.modify ?_) fun _ => ?_
  · rintro s ⟨values, hshows, hle, -, hframe⟩
    exact ⟨⟨rfl, rfl, rfl, rfl, values, hshows, fun u hu => Nat.lt_succ_of_le (hle u hu),
      .inr List.mem_cons_self, hframe⟩, rfl⟩
  refine Triple.get_bind fun r => ?_
  by_cases hvalue : r.computeTimelineValue = r.currentTimelineValue
  · rw [hvalue]
    refine ((submitNext_spec r work false true fun _ => rfl).pre ?_).post ?_
    · rintro s ⟨rfl, hnumbered, -⟩
      exact hnumbered
    · rintro _ s ⟨values, hshows, hcounted, -⟩
      exact ⟨values, hshows, hcounted⟩
  · rintro s ⟨rfl, -, heq⟩
    exact absurd heq hvalue

/-- The main pass takes the signal of the transfers, and is waited for. -/
theorem submitMain_spec (work c : Bool) :
    Triple (Frame work c true) (submitMain work) (fun _ => Frame false c true) Aborted := by
  refine Triple.bind (Q := fun _ s => Numbered s work c s) (Triple.modify ?_) fun _ => ?_
  · rintro s ⟨values, hshows, hle, hcompute, hframe⟩
    exact ⟨rfl, rfl, rfl, rfl, values, hshows, fun u hu => Nat.lt_succ_of_le (hle u hu),
      hcompute.imp_right (List.mem_cons_of_mem _), hframe⟩
  refine Triple.get_bind fun r => ?_
  have hread : ∀ s, r = s ∧ Numbered s work c s → Numbered r work c s := by
    rintro s ⟨rfl, hnumbered⟩
    exact hnumbered
  refine ((submitNext_spec r work c false (by simp)).pre hread).bind fun _ => ?_
  refine Triple.bind (Q := fun _ => Frame false c true) (Triple.modify ?_) fun _ => ?_
  · rintro s ⟨values, hshows, ⟨hle, hcompute, -⟩, hmem⟩
    rw [Bool.or_false] at hshows
    exact ⟨values, hshows, hle, hcompute, .inr hmem⟩
  refine Triple.get_bind fun r => safeWaitTimelineSemaphore_spec.pre ?_
  rintro s ⟨rfl, hframe⟩
  exact hframe.submitted_frame

/-- The main pass, from the recording of its transfers on. -/
theorem drawMain_spec (call : Call) (c : Bool) :
    Triple (Frame false c true) (drawMain call) (fun _ => Frame false c true) Aborted := by
  refine (beginTransferRecording_spec c).bind fun _ => ?_
  refine (checked_spec (fun _ _ => id) fun _ h => h.aborted).bind fun _ => ?_
  refine ((upload_spec c).times call.mainUploads).bind fun _ => ?_
  refine (checked_spec (fun _ _ => id) fun _ h => h.aborted).bind fun _ => ?_
  refine Triple.get_bind fun r => ?_
  have hread : ∀ s, r = s ∧ Frame false c false s →
      s.transferHasPendingWork = r.transferHasPendingWork ∧ Frame false c false s := by
    rintro s ⟨rfl, hframe⟩
    exact ⟨rfl, hframe⟩
  refine ((endAndSubmitTransfers_spec _ c).pre hread).bind fun _ => ?_
  exact (submitMain_spec _ c).pre fun s h => h.2

/-- **The count pass** is skipped when nothing is transparent; else both fences are attached after
it. -/
theorem refreshBuffers_spec (call : Call) :
    Triple Ready (refreshBuffers call)
      (fun _ s => if call.isOpaque then Ready s else Frame false true true s) Aborted := by
  refine Triple.ite (fun hopaque => Triple.pure fun s hs => ?_) fun hopaque => ?_
  · rwa [if_pos hopaque]
  simp only [if_neg hopaque]
  refine Triple.of_exists fun c => Triple.get_bind fun r => ?_
  -- the fence of the last count pass is free once its timeline value is reached
  have hwait : Triple (fun s => r = s ∧ Frame false c true s)
      (safeWaitTimelineSemaphore r.computeTimelineValue) (fun _ => Frame false c true)
      Aborted := by
    refine safeWaitTimelineSemaphore_spec.pre ?_
    rintro s ⟨rfl, hframe⟩
    exact hframe.submitted_compute
  refine hwait.bind fun _ => Triple.get_bind fun r => ?_
  have hreset : Triple (fun s => r = s ∧ Frame false c true s)
      (vkCheckResult (vkResetFences r.inComputeFence)) (fun _ => Frame false false true)
      Aborted := by
    have hread : ∀ s, r = s ∧ Frame false c true s →
        r.inComputeFence = s.inComputeFence ∧ Frame false c true s := by
      rintro s ⟨rfl, hframe⟩
      exact ⟨rfl, hframe⟩
    refine (checkedReset_spec (fun _ _ => id) ?_ fun _ h => h.2.aborted).pre hread
    rintro s ⟨hr, values, hshows, hcounted⟩
    rw [hr]
    exact ⟨values, hshows.resetInCompute, hcounted⟩
  -- from here on a transfer may be recorded, and its signal is pending when the pass is submitted
  refine hreset.bind fun _ => (beginTransferRecording_spec false).bind fun _ => ?_
  refine (checked_spec (fun _ _ => id) fun _ h => h.aborted).bind fun _ => ?_
  refine ((upload_spec false).times call.countUploads).bind fun _ => ?_
  refine (checked_spec (fun _ _ => id) fun _ h => h.aborted).bind fun _ => ?_
  refine Triple.bind (Q := fun _ s => Frame s.transferHasPendingWork false true s) ?_ fun _ => ?_
  · intro s hs
    refine (endAndSubmitTransfers_spec s.transferHasPendingWork false s ⟨rfl, hs⟩).mono ?_ ?_
    · rintro _ s' ⟨hwork, hframe⟩
      rwa [hwork]
    · exact fun _ => id
  · refine Triple.get_bind fun r => (submitCount_spec r.transferHasPendingWork).pre ?_
    rintro s ⟨rfl, hframe⟩
    exact hframe

/-- The feedback is read after the compute fence has been waited for. -/
theorem readFeedback_spec (call : Call) :
    Triple (Frame false true true) (readFeedback call) (fun _ => Ready) Aborted := by
  refine Triple.get_bind fun r => ?_
  have hwait : Triple (fun s => r = s ∧ Frame false true true s)
      (safeWaitForFences r.inComputeFence)
      (fun _ s => r.inComputeFence = s.inComputeFence ∧ Ready s) Aborted := by
    refine safeWaitForFences_spec (fun _ _ => id) ?_ ?_
    · rintro s ⟨rfl, values, hshows, hcounted⟩
      exact ⟨rfl, true, values, hshows.waitFence hshows.inCompute, hcounted⟩
    · rintro s ⟨hr, c, values, hshows, hcounted⟩
      rw [hr]
      exact ⟨rfl, false, values, hshows.resetInCompute, hcounted⟩
  refine (hwait.post fun _ _ h => h.2).bind fun _ => ?_
  refine (checked_spec (fun _ _ => id) fun _ h => h.aborted).bind fun _ => ?_
  refine Triple.ite (fun _ => ?_) fun _ => Triple.pure fun _ => id
  exact createBuffers_spec (fun _ _ => id) (fun _ h => h.aborted) 2

/-! ### A call -/

theorem createShaderModules_spec : Triple Ready createShaderModules (fun _ => Ready) Aborted := by
  refine Triple.get_bind fun r => ?_
  refine Triple.pre (P := Ready) (Triple.ite (fun _ => Triple.pure fun _ => id) fun _ => ?_)
    fun _ h => h.2
  refine Triple.bind (Q := fun _ => Ready) (Triple.modify fun _ => id) fun _ => ?_
  refine (vkCall_spec fun _ _ => id).bind fun res => Triple.ite (fun _ => ?_) fun _ => ?_
  · exact checked_spec (fun _ _ => id) fun _ h => h.aborted
  · exact Triple.bind (Q := fun _ => Ready) (Triple.modify fun _ => id) fun _ =>
      Triple.throw fun _ h => h.aborted

/-- New pipelines touch no fence and no signal. -/
theorem recreateGraphicsPipelines_spec (drawMode : DrawMode) :
    Triple Ready (recreateGraphicsPipelines drawMode) (fun _ => Ready) Aborted := by
  refine Triple.bind (Q := fun _ => Ready) (Triple.modify fun _ => id) fun _ => ?_
  refine (vkCall_spec fun _ _ => id).bind fun _ => createShaderModules_spec.bind fun _ => ?_
  exact checked_spec (fun _ _ => id) fun _ h => h.aborted

/-- Nor do new buffers for transparency, but for their one-time submissions. -/
theorem createTransparencyBuffers_spec :
    Triple Ready createTransparencyBuffers (fun _ => Ready) Aborted := by
  refine (createBuffers_spec (fun _ _ => id) (fun _ h => h.aborted) 8).bind fun allocated => ?_
  refine Triple.ite (fun _ => ?_) fun _ => Triple.pure fun _ => id
  exact submitOnce_spec.bind fun _ => Triple.pure fun _ => id

/-- After an out-of-memory return or an exception, the next call starts anew. -/
theorem forgetTarget_spec {R : Sync → Prop} : Triple Ready forgetTarget (fun _ => Ready) R :=
  Triple.modify fun _ => id

/-- `cleanup` in the middle of a call. -/
theorem cleanup_ready {P R : Sync → Prop} (hP : ∀ s, P s → Aborted s) :
    Triple P cleanup (fun _ => Ready) R :=
  cleanup_spec.weaken hP (fun _ _ h => ⟨true, h⟩) fun _ => False.elim

/-- Nor does releasing what was made. -/
theorem release_spec : Triple Ready release (fun _ => Ready) Aborted := by
  refine (vkCall_spec fun _ _ => id).bind fun _ => Triple.get_bind fun r => ?_
  refine Triple.pre (P := Ready) ?_ fun _ h => h.2
  refine Triple.ite (fun _ => ?_) fun _ => Triple.pure fun _ => id
  exact (cleanup_ready fun _ h => h.aborted).bind fun _ => Triple.modify fun _ => id

/-- **A full recreation** leaves the renderer ready, also where it runs out of memory. -/
theorem recreate_spec (call : Call) : Triple Ready (recreate call) (fun _ => Ready) Aborted := by
  refine release_spec.bind fun _ => ?_
  refine (createBuffers_spec (fun _ _ => id) (fun _ h => h.aborted) 3).bind fun attached => ?_
  refine Triple.ite (fun _ => ?_) fun _ => forgetTarget_spec.bind fun _ => Triple.pure fun _ => id
  have hcheck : Triple Ready (vkCheckResult vkCall) (fun _ => Ready) Aborted :=
    checked_spec (fun _ _ => id) fun _ h => h.aborted
  refine hcheck.bind fun _ => (submitOnce_spec.times call.iblSubmissions).bind fun _ => ?_
  refine hcheck.bind fun _ => ?_
  refine Triple.bind (Q := fun _ => Ready) (Triple.modify fun _ => id) fun _ => ?_
  refine createShaderModules_spec.bind fun _ => hcheck.bind fun _ => ?_
  refine createTransparencyBuffers_spec.bind fun buffered => Triple.ite (fun _ => ?_) fun _ => ?_
  · refine hcheck.bind fun _ => ?_
    exact Triple.bind (Q := fun _ => Ready) (Triple.modify fun _ => id) fun _ =>
      Triple.pure fun _ => id
  · refine (cleanup_ready fun _ h => h.aborted).bind fun _ => ?_
    exact forgetTarget_spec.bind fun _ => Triple.pure fun _ => id

/-- The start of a call does so, whatever had to be recreated. -/
theorem prepare_spec (call : Call) : Triple Ready (prepare call) (fun _ => Ready) Aborted := by
  refine Triple.get_bind fun r => Triple.ite (fun _ => ?_) fun _ =>
    Triple.ite (fun _ => ?_) fun _ => ?_
  · refine Triple.pre (P := Ready) ?_ fun _ h => h.2
    exact (recreateGraphicsPipelines_spec call.drawMode).bind fun _ => Triple.pure fun _ => id
  · exact (recreate_spec call).pre fun _ h => h.2
  · refine Triple.bind (Q := fun _ => Ready) ?_ fun _ => Triple.pure fun _ => id
    rintro s ⟨rfl, c, hframe⟩
    exact (safeWaitTimelineSemaphore_spec _ hframe.submitted_frame).mono (fun _ _ h => ⟨c, h⟩)
      fun _ => id

/-- After the count pass and its feedback no signal is pending. -/
theorem countPass_spec (call : Call) :
    Triple Ready (countPass call) (fun _ => Ready) Aborted := by
  refine (refreshBuffers_spec call).bind fun _ => ?_
  refine Triple.ite (fun hopaque => Triple.pure fun s hs => ?_) fun hopaque => ?_
  · rwa [if_pos hopaque] at hs
  · refine (readFeedback_spec call).pre fun s hs => ?_
    rwa [if_neg hopaque] at hs

/-- **A frame** leaves the renderer ready, or it can be given up. -/
theorem draw_spec (call : Call) : Triple Ready (draw call) (fun _ => Ready) Aborted := by
  refine (updateIBL_spec call.reload).bind fun _ => (countPass_spec call).bind fun enough => ?_
  refine Triple.ite (fun _ => ?_) fun _ => ?_
  · refine Triple.bind (Q := fun _ => Ready) ?_ fun _ => Triple.pure fun _ => id
    exact Triple.of_exists fun c => (drawMain_spec call c).post fun _ _ h => ⟨c, h⟩
  · refine (cleanup_ready fun _ h => h.aborted).bind fun _ => ?_
    exact forgetTarget_spec.bind fun _ => Triple.pure fun _ => id

/-- **Every call ends where the next one can start**, however its Vulkan calls end. -/
theorem renderFrame_spec (call : Call) :
    Triple Ready (renderFrame call) (fun _ => Ready) fun _ => False := by
  have hbody : Triple Ready (renderBody call) (fun _ => Ready) Aborted := by
    refine Triple.get_bind fun r => Triple.pre (P := Ready) ?_ fun _ h => h.2
    refine Triple.ite (fun _ => Triple.pure fun _ => id) fun _ => ?_
    refine (prepare_spec call).bind fun prepared => ?_
    exact Triple.ite (fun _ => draw_spec call) fun _ => Triple.pure fun _ => id
  refine hbody.tryCatch fun _ => ?_
  refine Triple.bind (Q := fun _ => Ready) ?_ fun _ => ?_
  · exact (cleanup_ready fun _ => id).tryCatch fun _ => Triple.pure fun _ => id
  · exact forgetTarget_spec.bind fun _ => Triple.pure fun _ => id

/-- **Step lemma**: a call keeps `Ready`. -/
theorem ready_render {s : Sync} (h : Ready s) (call : Call) : Ready (render s call) := by
  have hend := renderFrame_spec call { s with answers := call.answers } h
  unfold render
  cases hrun : (renderFrame call).run.run { s with answers := call.answers } with
  | mk res s' =>
    rw [hrun] at hend
    cases res with
    | ok image => exact hend
    | error e => exact hend.elim

/-- What the constructor has done with fences and semaphores. -/
theorem sound_init (initFailed : Bool) : Sound (init initFailed).log 4 3 where
  disciplined := by
    simp [Disciplined, init, Op.Valid, Objects.apply, Objects.empty]
  timeline_unborn id hid := by
    have hne : id ≠ 0 := by omega
    simp [init, objects, Objects.apply, Objects.empty, hne]
  binary_unborn id hid := by
    have hne : id ≠ 3 := by omega
    simp [init, objects, Objects.apply, Objects.empty, hne]
  fence_unborn id hid := by
    have hone : id ≠ 1 := by omega
    have htwo : id ≠ 2 := by omega
    simp [init, objects, Objects.apply, Objects.empty, hone, htwo]
  single id p hp := by
    by_contra hne
    simp [init, objects, Objects.apply, Objects.empty, hne] at hp
  lost id hid := by
    by_cases hb : id = 3
    · subst hb
      simp [init, objects, Objects.apply, Objects.empty] at hid
    · simp [init, objects, Objects.apply, Objects.empty, hb] at hid

/-- A new renderer is ready. -/
theorem ready_init (initFailed : Bool) : Ready (init initFailed) := by
  refine ⟨true, [], ⟨sound_init initFailed, ?_, ?_, ?_, ?_, ?_⟩, counted_nil⟩
  · simp [init, objects, Objects.apply]
  · simp [init, objects, Objects.apply]
  · simp [init, objects, Objects.apply]
  · simp [init, objects, Objects.apply]
  · simp [init]

/-- **Run lemma**: a renderer is `Ready` after any sequence of calls. -/
theorem ready_run (initFailed : Bool) (calls : List Call) :
    Ready (runState render (init initFailed) calls) := by
  have hstep : ∀ s call, Ready s → True → Ready (render s call) :=
    fun _ call h _ => ready_render h call
  have hok : Along render (fun _ _ => True) (init initFailed) calls :=
    Along.of_forall (fun _ _ => trivial) _ _
  exact runState_invariant hstep (ready_init initFailed) hok

/-- **Synchronisation discipline**: over any sequence of calls, whatever times out, runs out of
memory or fails, every operation on a fence or a semaphore follows the rules; between two calls
no signal is pending on a live semaphore, and one that was left pending on a destroyed semaphore
was to be waited for by a rejected submission. -/
theorem synchronised (initFailed : Bool) (calls : List Call) :
    Disciplined (runState render (init initFailed) calls).log ∧
      ∀ b, (objects (runState render (init initFailed) calls).log).binary b ≠ .live true ∧
        ((objects (runState render (init initFailed) calls).log).binary b = .destroyed true →
          Rejected (runState render (init initFailed) calls).log b) := by
  obtain ⟨c, values, hshows, -⟩ := ready_run initFailed calls
  refine ⟨hshows.sound.disciplined, fun b => ⟨fun hlive => ?_, hshows.sound.lost b⟩⟩
  have hb := hshows.sound.single b true hlive
  rw [hb, hshows.binary] at hlive
  injection hlive with hpending
  exact Bool.false_ne_true hpending

/-- A first call that uploads once, in which every Vulkan call succeeds up to the submission of
the main command buffer, which fails. -/
def failingSubmit : Call :=
  { targetSize := (1, 1)
    drawMode := .normal
    isOpaque := true
    iblSubmissions := 0
    reload := none
    countUploads := 0
    mainUploads := 1
    grows := false
    answers := List.replicate 52 .success ++ [.error] }

/-- The signal of its transfers is never waited for: the submission that was to wait for it is
rejected, and `cleanup` destroys the semaphore. -/
theorem not_settled_failingSubmit :
    ¬ ∀ (initFailed : Bool) (calls : List Call),
      Disciplined (runState render (init initFailed) calls).log ∧
        Settled (runState render (init initFailed) calls).log := by
  intro h
  have hlost : (objects (runState render (init false) [failingSubmit]).log).binary 3 =
      .destroyed true := by decide +kernel
  exact ((h false [failingSubmit]).2 3).2 hlost

end OkularV3d.Synchronisation
