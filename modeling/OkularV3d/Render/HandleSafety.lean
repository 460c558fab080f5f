import OkularV3d.Lib.Runs
import OkularV3d.Render.HandleLayout

/-!
# Handles over runs of `render()`

`Code.render` is run once for every call. Between two calls the renderer keeps its members, the
target size, the draw mode and the size of the readback image; a call brings its own size and draw
mode, and the answers to every question its course depends on.

A call is safe where it misuses no handle. `Spared` leaves out the calls that do: those that meet a
failure from which `cleanup()` and the next recreation do not recover (`fatal`), and those that
come after a failure which has left something behind. The invariant `Settled` has the three kinds
of states in between: everything set up, nothing set up, and something left behind.

* `Safe` says that a call misuses no handle: none is used or destroyed after its destruction, and
  none is overwritten while it is live.
* `settles` is the decidable statement that every course of `Code.render` without a fatal failure
  leaves a settled state. `settles_initialised` and `settles_clearTables` evaluate it for the two
  kinds of states a call can start in, all stores of a kind at once.
* `exists_settled` and `Settled.exists_exit` carry this to a single call, and `safe_of_spared` to
  runs.
* `shortResize` is a call that is not spared: memory runs out in the resize of a running renderer.
-/

namespace OkularV3d

namespace HandleSafety

open Chunks Handles Runs

/-! ### Calls -/

/-- The renderer between two calls.

* `store`: the members that hold handles, and the flags.
* `currentTargetSize`, `currentDrawMode`, `hostReadableDestinationImageSize`: the members of these
  names. -/
structure State where
  store : Store Member Flag
  currentTargetSize : Int × Int
  currentDrawMode : DrawMode
  hostReadableDestinationImageSize : Int × Int

/-- A `render()` call.

* `targetSize` (within the framebuffer limits), `drawMode`: the arguments.
* `isOpaque`: there is nothing transparent to draw.
* `answers`: which Vulkan calls fail, and the tests on data. -/
structure Call where
  targetSize : Int × Int
  drawMode : DrawMode
  isOpaque : Bool
  answers : Question → Bool

/-- The flags with which a call starts. -/
def State.enterFlag (s : State) (call : Call) : Flag → Bool
  | .isOpaque => call.isOpaque
  | .sized => s.currentTargetSize == call.targetSize
  | .reset => false
  | .drawModeChanged => call.drawMode != s.currentDrawMode
  | .hostSized => s.hostReadableDestinationImageSize == call.targetSize
  | f => s.store.flag f

/-- The store a call starts from. -/
def State.enter (s : State) (call : Call) : Store Member Flag :=
  { s.store with flag := s.enterFlag call }

/-- The renderer after a call that has left it with this store. -/
def State.leave (s : State) (call : Call) (store : Store Member Flag) : State where
  store := store
  currentTargetSize :=
    if store.flag .reset then (0, 0)
    else if store.flag .sized then call.targetSize
    else s.currentTargetSize
  currentDrawMode := if store.flag .drawModeChanged then s.currentDrawMode else call.drawMode
  hostReadableDestinationImageSize :=
    if store.flag .hostSized then call.targetSize else s.hostReadableDestinationImageSize

/-- What a call comes to. -/
def State.outcome (s : State) (call : Call) : Outcome Member Flag :=
  exec call.answers Code.render (s.enter call)

/-- One call. After a misuse nothing is said of the renderer any more. -/
def step (s : State) (call : Call) : State :=
  match s.outcome call with
  | .exit _ store => s.leave call store
  | .misuse _ _ => s

/-- The call destroys every handle once at most, uses none after its end, and overwrites none while
it lives. -/
def Safe (s : State) (call : Call) : Prop := ∀ misuse m, s.outcome call ≠ .misuse misuse m

instance (s : State) (call : Call) : Decidable (Safe s call) :=
  match h : s.outcome call with
  | .exit _ _ => isTrue fun _ _ hmisuse => nomatch h.symm.trans hmisuse
  | .misuse misuse m => isFalse fun hsafe => hsafe misuse m h

/-- What the members hold after the constructor. -/
def initialSlot : Member → Slot
  | .attachment _ _ | .hostReadableDestinationImage | .hostReadableDestinationImageMemory
  | .hostReadableDestinationImageMapped | .descriptorSetLayout | .descriptorPool
  | .buffer .uniform | .memory .uniform | .buffer .material | .memory .material
  | .buffer .light | .memory .light => .unset
  | .timelineSemaphore | .fence _ | .transferDoneSemaphore => .live
  | _ => .null

/-- The flags after the constructor. -/
def initialFlag (initFailed interlock : Bool) : Flag → Bool
  | .initFailed => initFailed
  | .interlock => interlock
  | .isOpaque => true
  | _ => false

/-- The renderer after its constructor. One that failed (`initFailed`) may have created less; it
does nothing with it. -/
def init (initFailed interlock : Bool) : State where
  store := ⟨initialSlot, initialFlag initFailed interlock⟩
  currentTargetSize := (0, 0)
  currentDrawMode := .normal
  hostReadableDestinationImageSize := (0, 0)

/-! ### Failures that are not recovered from -/

/-- The failures after which a handle is misused, in this call or whatever the next one does. Some
are so only where an initialised renderer recreates its resources.

* `recreateGraphicsPipelines` has destroyed every pipeline and reset none.
* The fences and semaphores are renewed a second time by the `catch` block.
* The attachments, the opaque framebuffer and the point pipeline are destroyed and not reset by
  `cleanup()`: until they are created again, a second `cleanup()` destroys them again.
* `readFeedback` has destroyed both fragment buffers and reset neither.
* `uploadToPersistentBuffer` ignores that a buffer could not be created again. -/
def fatal (initialized : Bool) : Question → Bool
  | .fails .drawMode (.pipeline p) => p != .blendBig
  | .keeps .drawMode (.pipeline .blendBig) => true
  | .fails .resize _ | .fails .transparencyOOM _ | .fails .feedbackOOM _ => true
  | .fails .recreate (.attachment a part) => initialized || (a, part) != (.resolve, .view)
  | .keeps .recreate (.attachment .resolve .view) => true
  | .throws .recreate (.bind (.attachment _ _)) => true
  | .fails .recreate .descriptorSetLayout | .fails .recreate (.ibl _ _)
  | .fails .recreate (.renderPass _) | .fails .recreate (.framebuffer _)
  | .fails .recreate .graphicsPipelineLayout | .throws .recreate (.load _)
  | .throws .recreate (.bind (.ibl _ _)) | .keeps .recreate (.pipeline .point) => initialized
  | .fails .recreate (.pipeline p) =>
    initialized && (p == .material || p == .color || p == .line)
  | .fails .feedback (.buffer .fragment) | .fails .feedback (.memory .fragment)
  | .throws .feedback (.bind (.memory .fragment)) | .keeps .feedback (.buffer .depthFrag) => true
  | .keeps .count (.buffer _) | .keeps .main (.buffer _) => true
  | _ => false

/-- What is known of the answers to the questions of a call without fatal failures. -/
def may (initialized : Bool) (q : Question) : Option Bool :=
  if fatal initialized q then some false else none

/-- An uninitialised renderer is ready for a recreation at this size: no earlier call has left its
`descriptorSetLayout` behind, and with it what was made after it, and no destroyed fence or
semaphore is still held. -/
structure Clear (s : State) (call : Call) : Prop where
  targetSize : call.targetSize ≠ (0, 0)
  descriptorSetLayout : s.store.held .descriptorSetLayout ≠ .live
  fence : ∀ f, s.store.held (.fence f) ≠ .dangling
  transferDoneSemaphore : s.store.held .transferDoneSemaphore ≠ .dangling

/-- The condition under which a call is safe: the renderer is disabled, or it is initialised or
clear and no failure is fatal. -/
def Spared (s : State) (call : Call) : Prop :=
  s.store.flag .initFailed = true ∨
    (s.store.flag .initialized = true ∨ Clear s call) ∧
      ∀ q, fatal (s.store.flag .initialized) q = true → call.answers q = false

/-! ### States between calls -/

/-- What is known of the renderer between two calls. -/
inductive Settled (s : State) : Prop where
  /-- The renderer is disabled. -/
  | disabled (h : s.store.flag .initFailed = true)
  /-- The last call has set everything up. -/
  | initialised (h : layout.Shows initialised s.store)
  /-- No call has come further than the attachments. -/
  | blank (targetSize : s.currentTargetSize = (0, 0))
      (host : s.hostReadableDestinationImageSize = (0, 0)) (h : layout.Shows blank s.store)
  /-- A call that failed has left its `descriptorSetLayout` behind. -/
  | left (initialized : s.store.flag .initialized = false)
      (held : s.store.held .descriptorSetLayout = .live)

/-- The fences and the semaphore that the `catch` block may leave destroyed. -/
def renewed : List Member :=
  [.fence .inCompute, .fence .transfer, .fence .inFlight, .transferDoneSemaphore]

/-- The tables a recreation starts from where nothing is set up. -/
def clearTables : List Nat :=
  layout.restrictAll (· != .dangling) renewed
    [layout.setFlag .hostSized false (layout.setFlag .sized false blank)]

/-- The stores of the table are those of settled states, after a call that started initialised or
not. -/
def settledTable (initialized : Bool) (S : Nat) : Bool :=
  chunk (flagGroup .initFailed) S == 2 || (S ||| initialised) == initialised ||
    (chunk (flagGroup .initialized) S == 1 &&
      (chunk (memberGroup .descriptorSetLayout) S == 4 ||
        (!initialized && chunk (flagGroup .reset) S == 2 &&
          chunk (flagGroup .hostSized) S == 1 && (S ||| blank) == blank)))

/-- Every call without fatal failures from the stores of the tables misuses nothing, and leaves a
settled state. -/
def settles (initialized : Bool) (starts : List Nat) : Bool :=
  match layout.explore (may initialized) Code.render starts with
  | some o => (o.done ++ o.threw ++ o.returned).all (settledTable initialized)
  | none => false

theorem settles_initialised : settles true [initialised] = true := by decide +kernel

theorem settles_clearTables : settles false clearTables = true := by decide +kernel

/-- The members that share a group with `m`. -/
def groupMembers : Member → List Member
  | .buffer .uniform => [.buffer .uniform, .memory .uniform, .mapped .uniform]
  | .buffer .material => [.buffer .material, .memory .material, .mapped .material]
  | .buffer .light => [.buffer .light, .memory .light, .mapped .light]
  | .buffer .feedback => [.buffer .feedback, .memory .feedback, .mapped .feedback]
  | .buffer b => [.buffer b, .memory b]
  | m => [m]

/-- The table of the renderer after its constructor. -/
def start : Nat := table (fun m => [(groupMembers m).map initialSlot]) fun _ => []

/-- The renderer starts with nothing set up. -/
theorem shows_blank_init (interlock : Bool) : layout.Shows blank (init false interlock).store where
  held m := by
    have hall : ∀ m ∈ allMembers,
        (chunk (memberGroup m) blank).testBit (chunk (memberGroup m) start).log2 = true ∧
          slotAt (memberPlace m) (chunk (memberGroup m) start).log2 = initialSlot m := by
      decide +kernel
    refine ⟨_, (hall m (mem_allMembers m)).1, fun m' hgroup => ?_⟩
    have hm' := (hall m' (mem_allMembers m')).2
    rwa [show memberGroup m' = memberGroup m from hgroup] at hm'
  flag f := by
    cases f <;> cases interlock <;> decide +kernel

/-- The flags a call sets may have either value in the tables of `initialised` and `blank`. -/
theorem testBit_enterFlag {S : Nat} {s : State} (h : layout.Shows S s.store)
    (hfree : ∀ f ∈ [Flag.isOpaque, .sized, .reset, .drawModeChanged, .hostSized],
      chunk (flagGroup f) S = 3) (call : Call) (f : Flag) :
    (chunk (flagGroup f) S).testBit (s.enterFlag call f).toNat = true := by
  have hboth : ∀ b : Bool, Nat.testBit 3 b.toNat = true := by decide
  by_cases hf : f ∈ [Flag.isOpaque, .sized, .reset, .drawModeChanged, .hostSized]
  · rw [hfree f hf]
    exact hboth _
  · -- the other flags are left as they are
    have hkept : s.enterFlag call f = s.store.flag f := by
      cases f <;> first | rfl | exact absurd (by decide) hf
    rw [hkept]
    exact h.flag f

/-- A call on an initialised renderer starts from `initialised`. -/
theorem showsAny_enter_initialised {s : State} (h : layout.Shows initialised s.store)
    (call : Call) : layout.ShowsAny [initialised] (s.enter call) :=
  ⟨_, List.mem_singleton_self _,
    h.withFlags (testBit_enterFlag h (by decide +kernel) call)⟩

/-- A call on a clear renderer starts from `clearTables`. -/
theorem showsAny_enter_clear {s : State} (h : layout.Shows blank s.store)
    (hsize : s.currentTargetSize = (0, 0)) (hhost : s.hostReadableDestinationImageSize = (0, 0))
    {call : Call} (hclear : Clear s call) : layout.ShowsAny clearTables (s.enter call) := by
  have hother : ((0, 0) == call.targetSize) = false :=
    beq_eq_false_iff_ne.mpr (Ne.symm hclear.targetSize)
  have hsized : (s.enter call).flag .sized = false := by
    rw [← hother, ← hsize]
    rfl
  have hhostSized : (s.enter call).flag .hostSized = false := by
    rw [← hother, ← hhost]
    rfl
  have henter : layout.Shows blank (s.enter call) :=
    h.withFlags (testBit_enterFlag h (by decide +kernel) call)
  have hstart := (henter.flag_eq hsized).flag_eq hhostSized
  refine Layout.ShowsAny.restrictAll ⟨_, List.mem_singleton_self _, hstart⟩ fun m hm => ?_
  rw [bne_iff_ne]
  simp only [renewed, List.mem_cons, List.not_mem_nil, or_false] at hm
  obtain rfl | rfl | rfl | rfl := hm
  · exact hclear.fence .inCompute
  · exact hclear.fence .transfer
  · exact hclear.fence .inFlight
  · exact hclear.transferDoneSemaphore

/-- The stores of a settled table are those of settled states. -/
theorem settled_leave {initialized : Bool} {S : Nat} (hS : settledTable initialized S = true)
    {s : State} (hhost : initialized = false → s.hostReadableDestinationImageSize = (0, 0))
    {call : Call} {store : Store Member Flag} (h : layout.Shows S store) :
    Settled (s.leave call store) := by
  simp only [settledTable, Bool.or_eq_true, Bool.and_eq_true, beq_iff_eq, Bool.not_eq_true'] at hS
  obtain (hfailed | hready) | ⟨hinit, hheld | ⟨⟨⟨hfirst, hreset⟩, hsized⟩, hblank⟩⟩ := hS
  · exact .disabled (h.flag_of_chunk (b := true) hfailed)
  · exact .initialised (h.mono hready)
  · exact .left (h.flag_of_chunk (b := false) hinit) (h.held_of_chunk (t := 2) hheld)
  · have hflag : store.flag .reset = true := h.flag_of_chunk (b := true) hreset
    have hnot : store.flag .hostSized = false := h.flag_of_chunk (b := false) hsized
    refine .blank (if_pos hflag) ?_ (h.mono hblank)
    rw [State.leave, hnot]
    exact hhost hfirst

/-- A call without fatal failures that starts in one of the tables ends in a settled state. -/
theorem exists_settled {initialized : Bool} {starts : List Nat}
    (hsettles : settles initialized starts = true) {s : State} {call : Call}
    (hstart : layout.ShowsAny starts (s.enter call))
    (hhost : initialized = false → s.hostReadableDestinationImageSize = (0, 0))
    (hfatal : ∀ q, fatal initialized q = true → call.answers q = false) :
    ∃ e store, s.outcome call = .exit e store ∧ Settled (s.leave call store) := by
  have hmay : ∀ q b, may initialized q = some b → call.answers q = b := by
    intro q b hq
    rw [may] at hq
    split at hq
    · next hf =>
      rw [← Option.some.inj hq]
      exact hfatal q hf
    · cases hq
  rw [settles] at hsettles
  split at hsettles
  · next o ho =>
    obtain ⟨e, store, hexec, S, hmem, hshows⟩ := layout.exists_exit hmay ho hstart
    have hall := List.all_eq_true.mp hsettles S
    refine ⟨e, store, hexec, settled_leave (hall ?_) hhost hshows⟩
    cases e
    · exact List.mem_append_left _ (List.mem_append_left _ hmem)
    · exact List.mem_append_left _ (List.mem_append_right _ hmem)
    · exact List.mem_append_right _ hmem
  · cases hsettles

/-- A disabled renderer returns at once. -/
theorem outcome_of_initFailed {s : State} (h : s.store.flag .initFailed = true) (call : Call) :
    s.outcome call = .exit .returned (s.enter call) := by
  have henter : (s.enter call).flag .initFailed = true := h
  simp [State.outcome, Code.render, Prog.block, exec, Cond.eval, henter]

/-- **Step lemma**: from a settled state, a spared call misuses no handle and leaves a settled
state. -/
theorem Settled.exists_exit {s : State} (hs : Settled s) {call : Call} (hcall : Spared s call) :
    ∃ e store, s.outcome call = .exit e store ∧ Settled (s.leave call store) := by
  by_cases hfailed : s.store.flag .initFailed = true
  · exact ⟨_, _, outcome_of_initFailed hfailed call, .disabled hfailed⟩
  obtain hdisabled | ⟨hready, hfatal⟩ := hcall
  · exact absurd hdisabled hfailed
  cases hs with
  | disabled h => exact absurd h hfailed
  | initialised h =>
    have hinit : s.store.flag .initialized = true := h.flag_of_chunk (by decide +kernel)
    rw [hinit] at hfatal
    exact exists_settled settles_initialised (showsAny_enter_initialised h call) (nofun) hfatal
  | blank hsize hhost h =>
    have hinit : s.store.flag .initialized = false := h.flag_of_chunk (by decide +kernel)
    rw [hinit] at hready hfatal
    have hclear : Clear s call := hready.resolve_left Bool.false_ne_true
    exact exists_settled settles_clearTables (showsAny_enter_clear h hsize hhost hclear)
      (fun _ => hhost) hfatal
  | left hinit hheld =>
    rw [hinit] at hready
    have hclear : Clear s call := hready.resolve_left Bool.false_ne_true
    exact absurd hheld hclear.descriptorSetLayout

theorem Settled.step {s : State} (hs : Settled s) {call : Call} (hcall : Spared s call) :
    Settled (step s call) := by
  obtain ⟨e, store, hexit, hleave⟩ := hs.exists_exit hcall
  rwa [HandleSafety.step, hexit]

theorem Settled.safe {s : State} (hs : Settled s) {call : Call} (hcall : Spared s call) :
    Safe s call := by
  obtain ⟨e, store, hexit, -⟩ := hs.exists_exit hcall
  intro misuse m hmisuse
  cases hexit.symm.trans hmisuse

theorem settled_init (initFailed interlock : Bool) : Settled (init initFailed interlock) := by
  cases initFailed with
  | true => exact .disabled rfl
  | false => exact .blank rfl rfl (shows_blank_init interlock)

/-- **Every call of a run is safe**, where every call is spared. -/
theorem safe_of_spared (initFailed interlock : Bool) {calls : List Call}
    (h : Along step Spared (init initFailed interlock) calls) :
    Along step Safe (init initFailed interlock) calls :=
  Along.of_invariant (fun _ _ hs hcall => hs.step hcall) (fun _ _ hs hcall => hs.safe hcall)
    (settled_init initFailed interlock) h

/-- A call of this size in which nothing fails. -/
def quietCall (size : Int) : Call where
  targetSize := (size, size)
  drawMode := .normal
  isOpaque := true
  answers _ := false

/-- A first call and a resize are safe where nothing fails. -/
theorem safe_quietCalls :
    Along step Spared (init false false) [quietCall 1, quietCall 2] ∧
      Along step Safe (init false false) [quietCall 1, quietCall 2] := by
  have hclear : Clear (init false false) (quietCall 1) :=
    ⟨by decide, by decide, fun f => by cases f <;> decide, by decide⟩
  have hinit : (step (init false false) (quietCall 1)).store.flag .initialized = true := by
    decide +kernel
  have hspared : Along step Spared (init false false) [quietCall 1, quietCall 2] :=
    ⟨.inr ⟨.inr hclear, fun _ _ => rfl⟩, .inr ⟨.inl hinit, fun _ _ => rfl⟩, trivial⟩
  exact ⟨hspared, safe_of_spared false false hspared⟩

/-- A resize whose first attachment gets no memory. -/
def shortResize : Call :=
  { quietCall 2 with answers := fun q => q == .fails .recreate (.attachment .color .memory) }

/-- The view that `cleanup()` has destroyed is destroyed again by `createAttachments`. -/
theorem not_safe_shortResize :
    ¬ ∀ (initFailed interlock : Bool) (calls : List Call),
      Along step Safe (init initFailed interlock) calls := by
  intro h
  have hmisuse : ¬ Along step Safe (init false false) [quietCall 1, shortResize] := by
    decide +kernel
  exact hmisuse (h false false _)

end HandleSafety

end OkularV3d
