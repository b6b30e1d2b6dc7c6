import DevolutionsGateway.Handlers
import DevolutionsGateway.DisconnectedTtl

/-!
# `recording_manager_task`: the actor loop as a step function

The manager's task runs a `tokio::select!` loop over three branches: the eviction timer
`next_remove_sleep` (enabled while the heap `disconnected` is not empty), the message
channel, and the shutdown signal. After the signal, or when every sender is gone, it
drains the channel, handling only `Disconnect`, until the channel is closed.

A `ManagerState` holds the task, the heap, the timer and the phase of the loop, together
with the environment the handlers read: the disk and the two clocks. A `ManagerEvent` is one
thing that can happen: a branch of the `select!` is taken, the channel yields a message (with
the I/O errors its file system steps meet), or time passes. `step` is one event, and `run`
a sequence of them from any state. An event that is not enabled (the timer branch when the
heap is empty or the timer is not elapsed, a shutdown after the main loop) changes nothing,
so every sequence of events is a run, and every order in which `select!` may pick among
ready branches is one of them.

The two clocks are `tokio::time::Instant::now()` (`mono`, in whole seconds) and
`OffsetDateTime::now_utc().unix_timestamp()` (`unix`). Time passing moves both; the wall
clock can also be set forwards or backwards on its own (`setWallClock`).

## Main results

* `run_induction`: a property that every enabled step preserves holds after every run.
* `step_recordingsPath`: the recordings root never changes.
-/

namespace DevolutionsGateway

/-- The monotonic clock and the wall clock, in seconds. -/
structure Clock where
  mono : Int
  unix : Int

/-- `tokio::time::Sleep`: a timer with a deadline on the monotonic clock. -/
structure Sleep where
  deadline : Int

/-- `Sleep::is_elapsed`: the clock has reached the deadline. -/
def Sleep.isElapsed (s : Sleep) (now : Int) : Bool := decide (s.deadline ≤ now)

/-- `Sleep::reset`. -/
def Sleep.reset (_ : Sleep) (deadline : Int) : Sleep := ⟨deadline⟩

/-- `DISCONNECTED_TTL_DURATION`: `DISCONNECTED_TTL_SECS` on the monotonic clock. -/
def disconnectedTtlDuration : Int := disconnectedTtlSecs

/-- Where the task is: in the main `select!` loop, in the drain loop after it, or returned. -/
inductive Phase
  | running
  | draining
  | stopped
deriving DecidableEq

/-- The state of `recording_manager_task` and of what it reads. -/
structure ManagerState where
  manager : RecordingManagerTask
  disconnected : BinaryHeap DisconnectedTtl
  nextRemoveSleep : Sleep
  phase : Phase
  disk : Disk
  clock : Clock

/-- The state on entering the main loop: no recordings, an empty heap, and the initial
`sleep_until(Instant::now())` already consumed. -/
def ManagerState.init (root : Utf8PathBuf) (disk : Disk) (clock : Clock) : ManagerState :=
  ⟨RecordingManagerTask.new root, BinaryHeap.empty, ⟨clock.mono⟩, .running, disk, clock⟩

/-- `RecordingManagerMessage`; a `channel` is the receiving end of the request's one-shot
reply channel. -/
inductive RecordingManagerMessage
  | connect (id : Uuid) (fileType : RecordingFileType) (channel : Nat)
  | disconnect (id : Uuid)
  | getState (id : Uuid) (channel : Nat)
  | getCount (channel : Nat)

/-- What a request's one-shot channel receives: a value, or the sender dropped unused. -/
inductive Reply
  | path (channel : Nat) (path : Utf8PathBuf)
  | state (channel : Nat) (state : Option OnGoingRecordingState)
  | count (channel : Nat) (count : Nat)
  | dropped (channel : Nat)
deriving DecidableEq

/-- One thing that can happen to the task. -/
inductive ManagerEvent
  /-- The channel yields a message; `faults` are the I/O errors its handling meets. -/
  | recv (msg : RecordingManagerMessage) (faults : FsFaults)
  /-- The `select!` takes the `next_remove_sleep` branch. -/
  | timer
  /-- The `select!` takes the shutdown branch. -/
  | shutdown
  /-- The channel yields `None`: all senders are dead. -/
  | closed
  /-- Time passes on both clocks. -/
  | elapse (secs : Nat)
  /-- The wall clock is set, by `delta` seconds. -/
  | setWallClock (delta : Int)

namespace ManagerState

variable (s : ManagerState)

/-- The `Connect` arm of the main loop: the path goes to the reply channel, or the channel
is dropped with the error. -/
def onConnect (id : Uuid) (fileType : RecordingFileType) (channel : Nat) (faults : FsFaults) :
    ManagerState × Option Reply :=
  match handleConnect s.manager s.disk s.clock.unix faults id fileType with
  | (disk, .ok (manager, recordingFile)) => ({ s with manager, disk }, some (.path channel recordingFile))
  | (disk, .error _) => ({ s with disk }, some (.dropped channel))

/-- The deadline `next_remove_sleep` has after pushing an eviction due at `deadline`: reset
if the new deadline is sooner or the timer is already elapsed. -/
def rearmOnPush (deadline : Int) : Sleep :=
  if s.nextRemoveSleep.isElapsed s.clock.mono || decide (deadline < s.nextRemoveSleep.deadline) then
    s.nextRemoveSleep.reset deadline
  else s.nextRemoveSleep

/-- The `Disconnect` arm of the main loop: `handle_disconnect`, whatever its outcome, then an
eviction due `DISCONNECTED_TTL_DURATION` from now. -/
def onDisconnect (id : Uuid) (faults : FsFaults) : ManagerState :=
  let (manager, disk, _) := handleDisconnect s.manager s.disk s.clock.unix faults.writeFails id
  let deadline := s.clock.mono + disconnectedTtlDuration
  { s with
    manager, disk
    disconnected := s.disconnected.push ⟨deadline, id⟩
    nextRemoveSleep := s.rearmOnPush deadline }

/-- The timer arm: pop the eviction due first, `handle_remove` it, and re-arm the timer with
the next deadline if there is one. -/
def onTimer : ManagerState :=
  match s.disconnected.pop with
  | none => s
  | some (toRemove, disconnected) =>
    { s with
      manager := handleRemove s.manager s.clock.unix toRemove.id
      disconnected
      nextRemoveSleep := match disconnected.peek with
        | some next => s.nextRemoveSleep.reset next.deadline
        | none => s.nextRemoveSleep }

/-- A message in the main loop. -/
def runningRecv : RecordingManagerMessage → FsFaults → ManagerState × Option Reply
  | .connect id fileType channel, faults => s.onConnect id fileType channel faults
  | .disconnect id, faults => (s.onDisconnect id faults, none)
  | .getState id channel, _ => (s, some (.state channel ((s.manager.ongoing id).map (·.state))))
  | .getCount channel, _ => (s, some (.count channel s.manager.ongoingRecordings.keys.card))

/-- A message in the drain loop: a `Disconnect` is handled and its recording dropped from
`ongoing_recordings`; any other message is dropped with its reply channel. -/
def drainRecv : RecordingManagerMessage → FsFaults → ManagerState × Option Reply
  | .disconnect id, faults =>
    let (manager, disk, _) := handleDisconnect s.manager s.disk s.clock.unix faults.writeFails id
    ({ s with
      manager := { manager with ongoingRecordings := manager.ongoingRecordings.erase id }
      disk }, none)
  | .connect _ _ channel, _ => (s, some (.dropped channel))
  | .getState _ channel, _ => (s, some (.dropped channel))
  | .getCount channel, _ => (s, some (.dropped channel))

/-- The timer branch is ready: the heap is not empty and the timer has elapsed. -/
def timerReady : Bool := !s.disconnected.isEmpty && s.nextRemoveSleep.isElapsed s.clock.mono

theorem timerReady_iff : s.timerReady = true ↔
    s.disconnected.elems ≠ [] ∧ s.nextRemoveSleep.deadline ≤ s.clock.mono := by
  simp [timerReady, BinaryHeap.isEmpty, Sleep.isElapsed]

end ManagerState

open ManagerState in
/-- One event, with the reply it sends. -/
def step (s : ManagerState) : ManagerEvent → ManagerState × Option Reply
  | .recv msg faults =>
    match s.phase with
    | .running => s.runningRecv msg faults
    | .draining => s.drainRecv msg faults
    | .stopped => (s, none)
  | .timer => if s.phase = .running ∧ s.timerReady then (s.onTimer, none) else (s, none)
  | .shutdown => if s.phase = .running then ({ s with phase := .draining }, none) else (s, none)
  | .closed => ({ s with phase := .stopped }, none)
  | .elapse secs => ({ s with clock := ⟨s.clock.mono + secs, s.clock.unix + secs⟩ }, none)
  | .setWallClock delta => ({ s with clock := { s.clock with unix := s.clock.unix + delta } }, none)

/-- A sequence of events from `s`: the state it ends in and the replies sent, in order. -/
def run (s : ManagerState) : List ManagerEvent → ManagerState × List Reply
  | [] => (s, [])
  | e :: es => ((run (step s e).1 es).1, (step s e).2.toList ++ (run (step s e).1 es).2)

@[simp] theorem run_nil (s : ManagerState) : run s [] = (s, []) := rfl

@[simp] theorem run_cons (s : ManagerState) (e : ManagerEvent) (es : List ManagerEvent) :
    run s (e :: es) = ((run (step s e).1 es).1, (step s e).2.toList ++ (run (step s e).1 es).2) :=
  rfl

/-- **Induction over runs**: what holds initially and is preserved by every step of an
admitted event holds at the end of every run of admitted events. -/
theorem run_induction (P : ManagerState → Prop) (Q : ManagerEvent → Prop)
    (hstep : ∀ s e, Q e → P s → P (step s e).1) :
    ∀ (evs : List ManagerEvent) (s : ManagerState), (∀ e ∈ evs, Q e) → P s → P (run s evs).1
  | [], _, _, hs => hs
  | e :: es, s, hq, hs =>
    run_induction P Q hstep es _ (fun e' he' => hq e' (List.mem_cons_of_mem _ he'))
      (hstep s e (hq e (List.mem_cons_self _ _)) hs)

/-! ### Frame facts -/

theorem handleConnect_recordingsPath {m m' : RecordingManagerTask} {disk disk' : Disk} {now : Int}
    {faults : FsFaults} {id : Uuid} {fileType : RecordingFileType} {file : Utf8PathBuf}
    (h : handleConnect m disk now faults id fileType = (disk', .ok (m', file))) :
    m'.recordingsPath = m.recordingsPath := by
  obtain ⟨-, mf, -, rfl⟩ := handleConnect_eq_ok h
  rfl

theorem handleDisconnect_recordingsPath (m : RecordingManagerTask) (disk : Disk) (now : Int)
    (writeFails : Bool) (id : Uuid) :
    (handleDisconnect m disk now writeFails id).1.recordingsPath = m.recordingsPath := by
  unfold handleDisconnect
  split
  · rfl
  · split
    · rfl
    · dsimp only
      split
      · rfl
      · split <;> rfl

theorem handleRemove_recordingsPath (m : RecordingManagerTask) (now : Int) (id : Uuid) :
    (handleRemove m now id).recordingsPath = m.recordingsPath := by
  rcases handleRemove_cases m now id with ⟨h, -⟩ | ⟨ts, -, -, h⟩ <;> rw [h]

/-- The recordings root is fixed for the life of the task. -/
theorem step_recordingsPath (s : ManagerState) (e : ManagerEvent) :
    (step s e).1.manager.recordingsPath = s.manager.recordingsPath := by
  cases e with
  | recv msg faults =>
    simp only [step]
    split
    · cases msg with
      | connect id fileType channel =>
        simp only [ManagerState.runningRecv, ManagerState.onConnect]
        split
        · rename_i h; exact handleConnect_recordingsPath h
        · rfl
      | disconnect id => exact handleDisconnect_recordingsPath _ _ _ _ _
      | getState id channel => rfl
      | getCount channel => rfl
    · cases msg with
      | disconnect id => exact handleDisconnect_recordingsPath _ _ _ _ _
      | _ => rfl
    · rfl
  | timer =>
    simp only [step]
    split
    · simp only [ManagerState.onTimer]
      split
      · rfl
      · exact handleRemove_recordingsPath _ _ _
    · rfl
  | shutdown => simp only [step]; split <;> rfl
  | closed => rfl
  | elapse secs => rfl
  | setWallClock delta => rfl

/-- The `Connect` arm changes only the task and the disk. -/
theorem onConnect_eq (s : ManagerState) (id : Uuid) (fileType : RecordingFileType)
    (channel : Nat) (faults : FsFaults) :
    ∃ manager disk, (s.onConnect id fileType channel faults).1 = { s with manager, disk } := by
  unfold ManagerState.onConnect
  split
  · exact ⟨_, _, rfl⟩
  · exact ⟨_, _, rfl⟩

/-- The drain loop changes only the task and the disk. -/
theorem drainRecv_eq (s : ManagerState) (msg : RecordingManagerMessage) (faults : FsFaults) :
    ∃ manager disk, (s.drainRecv msg faults).1 = { s with manager, disk } := by
  cases msg with
  | disconnect id => exact ⟨_, _, rfl⟩
  | _ => exact ⟨_, _, rfl⟩

/-- **What a step does to the heap and the timer**: nothing; or the `Disconnect` arm of the
main loop pushes an eviction due `DISCONNECTED_TTL_DURATION` from now and re-arms the timer
for it; or the timer arm, when its branch is ready, pops the eviction due first and re-arms
the timer with the next one, if any. -/
theorem step_heap_cases (s : ManagerState) (e : ManagerEvent) :
    ((step s e).1.disconnected = s.disconnected ∧
        (step s e).1.nextRemoveSleep = s.nextRemoveSleep) ∨
      (∃ id faults, e = .recv (.disconnect id) faults ∧ s.phase = .running ∧
        (step s e).1.disconnected =
          s.disconnected.push ⟨s.clock.mono + disconnectedTtlDuration, id⟩ ∧
        (step s e).1.nextRemoveSleep = s.rearmOnPush (s.clock.mono + disconnectedTtlDuration)) ∨
      (e = .timer ∧ s.phase = .running ∧ s.timerReady = true ∧ ∃ g, s.disconnected.peek = some g ∧
        (step s e).1.disconnected = ⟨s.disconnected.elems.erase g⟩ ∧
        (∀ n, BinaryHeap.peek ⟨s.disconnected.elems.erase g⟩ = some n →
          (step s e).1.nextRemoveSleep = ⟨n.deadline⟩) ∧
        (BinaryHeap.peek ⟨s.disconnected.elems.erase g⟩ = none →
          (step s e).1.nextRemoveSleep = s.nextRemoveSleep)) := by
  cases e with
  | recv msg faults =>
    cases hp : s.phase with
    | running =>
      cases msg with
      | connect id fileType channel =>
        obtain ⟨manager, disk, h⟩ := onConnect_eq s id fileType channel faults
        exact .inl (by simp [step, hp, ManagerState.runningRecv, h])
      | disconnect id =>
        exact .inr (.inl ⟨id, faults, rfl, rfl, by
          simp [step, hp, ManagerState.runningRecv, ManagerState.onDisconnect]⟩)
      | getState id channel => exact .inl (by simp [step, hp, ManagerState.runningRecv])
      | getCount channel => exact .inl (by simp [step, hp, ManagerState.runningRecv])
    | draining =>
      obtain ⟨manager, disk, h⟩ := drainRecv_eq s msg faults
      exact .inl (by simp [step, hp, h])
    | stopped => exact .inl (by simp [step, hp])
  | timer =>
    by_cases h : s.phase = .running ∧ s.timerReady = true
    · cases hg : s.disconnected.peek with
      | none => exact .inl (by simp [step, h, ManagerState.onTimer, BinaryHeap.pop, hg])
      | some g =>
        have hs : (step s .timer).1 = s.onTimer := by simp [step, h]
        refine .inr (.inr ⟨rfl, h.1, h.2, g, rfl, ?_, fun n hn => ?_, fun hn => ?_⟩)
        · simp [hs, ManagerState.onTimer, BinaryHeap.pop, hg]
        · simp [hs, ManagerState.onTimer, BinaryHeap.pop, hg, hn, Sleep.reset]
        · simp [hs, ManagerState.onTimer, BinaryHeap.pop, hg, hn]
    · exact .inl (by simp [step, h])
  | shutdown => exact .inl (by simp only [step]; split <;> exact ⟨rfl, rfl⟩)
  | closed => exact .inl ⟨rfl, rfl⟩
  | elapse secs => exact .inl ⟨rfl, rfl⟩
  | setWallClock delta => exact .inl ⟨rfl, rfl⟩

/-- **What a step does to the task and the disk**: nothing; or a `Connect` in the main loop
runs `handle_connect`, whose path is the reply and whose task is kept only on success; or a
`Disconnect` runs `handle_disconnect`, in the drain followed by dropping the session; or the
timer runs `handle_remove` on the eviction it pops. -/
theorem step_task_cases (s : ManagerState) (e : ManagerEvent) :
    ((step s e).1.manager = s.manager ∧ (step s e).1.disk = s.disk) ∨
      (∃ id fileType channel faults, e = .recv (.connect id fileType channel) faults ∧
        s.phase = .running ∧
        ((∃ file, handleConnect s.manager s.disk s.clock.unix faults id fileType =
            ((step s e).1.disk, .ok ((step s e).1.manager, file)) ∧
            (step s e).2 = some (.path channel file)) ∨
          (∃ err, handleConnect s.manager s.disk s.clock.unix faults id fileType =
            ((step s e).1.disk, .error err) ∧ (step s e).1.manager = s.manager ∧
            (step s e).2 = some (.dropped channel)))) ∨
      (∃ id faults, e = .recv (.disconnect id) faults ∧ s.phase = .running ∧
        (step s e).1.manager = (handleDisconnect s.manager s.disk s.clock.unix faults.writeFails id).1 ∧
        (step s e).1.disk = (handleDisconnect s.manager s.disk s.clock.unix faults.writeFails id).2.1) ∨
      (∃ id faults, e = .recv (.disconnect id) faults ∧ s.phase = .draining ∧
        (step s e).1.manager =
          { (handleDisconnect s.manager s.disk s.clock.unix faults.writeFails id).1 with
            ongoingRecordings :=
              (handleDisconnect s.manager s.disk s.clock.unix faults.writeFails id).1.ongoingRecordings.erase id } ∧
        (step s e).1.disk = (handleDisconnect s.manager s.disk s.clock.unix faults.writeFails id).2.1) ∨
      (∃ g, e = .timer ∧ s.phase = .running ∧ s.timerReady = true ∧ s.disconnected.peek = some g ∧
        (step s e).1.manager = handleRemove s.manager s.clock.unix g.id ∧ (step s e).1.disk = s.disk) := by
  cases e with
  | recv msg faults =>
    cases hp : s.phase with
    | running =>
      cases msg with
      | connect id fileType channel =>
        refine .inr (.inl ⟨id, fileType, channel, faults, rfl, rfl, ?_⟩)
        simp only [step, hp, ManagerState.runningRecv, ManagerState.onConnect]
        split
        · rename_i disk m file h
          exact .inl ⟨file, h, rfl⟩
        · rename_i disk err h
          exact .inr ⟨err, h, rfl, rfl⟩
      | disconnect id =>
        exact .inr (.inr (.inl ⟨id, faults, rfl, rfl, by
          simp [step, hp, ManagerState.runningRecv, ManagerState.onDisconnect]⟩))
      | getState id channel => exact .inl (by simp [step, hp, ManagerState.runningRecv])
      | getCount channel => exact .inl (by simp [step, hp, ManagerState.runningRecv])
    | draining =>
      cases msg with
      | disconnect id =>
        exact .inr (.inr (.inr (.inl ⟨id, faults, rfl, rfl, by
          simp [step, hp, ManagerState.drainRecv]⟩)))
      | _ => exact .inl (by simp [step, hp, ManagerState.drainRecv])
    | stopped => exact .inl (by simp [step, hp])
  | timer =>
    by_cases h : s.phase = .running ∧ s.timerReady = true
    · cases hg : s.disconnected.peek with
      | none => exact .inl (by simp [step, h, ManagerState.onTimer, BinaryHeap.pop, hg])
      | some g =>
        exact .inr (.inr (.inr (.inr ⟨g, rfl, h.1, h.2, rfl, by
          simp [step, h, ManagerState.onTimer, BinaryHeap.pop, hg]⟩)))
    · exact .inl (by simp [step, h])
  | shutdown => exact .inl (by simp only [step]; split <;> exact ⟨rfl, rfl⟩)
  | closed => exact .inl ⟨rfl, rfl⟩
  | elapse secs => exact .inl ⟨rfl, rfl⟩
  | setWallClock delta => exact .inl ⟨rfl, rfl⟩

/-- A path is sent only in answer to a `Connect`, on that request's channel. -/
theorem step_reply_path {s : ManagerState} {e : ManagerEvent} {channel : Nat} {p : Utf8PathBuf}
    (h : (step s e).2 = some (.path channel p)) :
    ∃ id fileType faults, e = .recv (.connect id fileType channel) faults := by
  cases e with
  | recv msg faults =>
    cases hp : s.phase <;> cases msg <;>
      simp [step, hp, ManagerState.runningRecv, ManagerState.drainRecv] at h
    rename_i id fileType channel'
    unfold ManagerState.onConnect at h
    split at h <;> simp only [Option.some.injEq, Reply.path.injEq, reduceCtorEq] at h
    exact ⟨id, fileType, faults, h.1 ▸ rfl⟩
  | timer => simp only [step] at h; split at h <;> cases h
  | shutdown => simp only [step] at h; split at h <;> cases h
  | closed => cases h
  | elapse secs => cases h
  | setWallClock delta => cases h

/-- Only time passing and setting the wall clock move the clocks. -/
theorem step_clock (s : ManagerState) (e : ManagerEvent) :
    (step s e).1.clock = s.clock ∨
      (∃ secs : Nat, e = .elapse secs ∧ (step s e).1.clock = ⟨s.clock.mono + secs, s.clock.unix + secs⟩) ∨
      ∃ delta, e = .setWallClock delta ∧ (step s e).1.clock = { s.clock with unix := s.clock.unix + delta } := by
  cases e with
  | recv msg faults =>
    left
    cases hp : s.phase with
    | running =>
      cases msg with
      | connect id fileType channel =>
        obtain ⟨manager, disk, h⟩ := onConnect_eq s id fileType channel faults
        simp [step, hp, ManagerState.runningRecv, h]
      | _ => simp [step, hp, ManagerState.runningRecv, ManagerState.onDisconnect]
    | draining =>
      obtain ⟨manager, disk, h⟩ := drainRecv_eq s msg faults
      simp [step, hp, h]
    | stopped => simp [step, hp]
  | timer =>
    left
    simp only [step]
    split
    · unfold ManagerState.onTimer; split <;> rfl
    · rfl
  | shutdown => left; simp only [step]; split <;> rfl
  | closed => exact .inl rfl
  | elapse secs => exact .inr (.inl ⟨secs, rfl, rfl⟩)
  | setWallClock delta => exact .inr (.inr ⟨delta, rfl, rfl⟩)

/-- The monotonic clock never goes back. -/
theorem mono_le_step (s : ManagerState) (e : ManagerEvent) :
    s.clock.mono ≤ (step s e).1.clock.mono := by
  rcases step_clock s e with h | ⟨secs, -, h⟩ | ⟨delta, -, h⟩ <;> simp [h]

theorem phase_onConnect (s : ManagerState) (id : Uuid) (fileType : RecordingFileType)
    (channel : Nat) (faults : FsFaults) : (s.onConnect id fileType channel faults).1.phase = s.phase := by
  unfold ManagerState.onConnect
  split <;> rfl

theorem phase_onTimer (s : ManagerState) : s.onTimer.phase = s.phase := by
  unfold ManagerState.onTimer
  split <;> rfl

/-- The loop only moves forwards: a step either keeps the phase, leaves the main loop on the
shutdown signal, or stops on `closed`. -/
theorem step_phase (s : ManagerState) (e : ManagerEvent) :
    (step s e).1.phase = s.phase ∨ (e = .shutdown ∧ s.phase = .running ∧
      (step s e).1.phase = .draining) ∨ (e = .closed ∧ (step s e).1.phase = .stopped) := by
  cases e with
  | recv msg faults =>
    left
    simp only [step]
    split
    · cases msg <;> simp [ManagerState.runningRecv, phase_onConnect, ManagerState.onDisconnect]
    · cases msg <;> simp [ManagerState.drainRecv]
    · rfl
  | timer => left; simp only [step]; split <;> simp [phase_onTimer]
  | shutdown => simp only [step]; split <;> simp_all
  | closed => simp [step]
  | elapse secs => simp [step]
  | setWallClock delta => simp [step]

theorem phase_running_of_step {s : ManagerState} {e : ManagerEvent}
    (h : (step s e).1.phase = .running) : s.phase = .running := by
  rcases step_phase s e with h' | ⟨-, h', -⟩ | ⟨-, h'⟩ <;> simp_all

theorem run_recordingsPath (s : ManagerState) (evs : List ManagerEvent) :
    (run s evs).1.manager.recordingsPath = s.manager.recordingsPath :=
  run_induction (fun t => t.manager.recordingsPath = s.manager.recordingsPath) (fun _ => True)
    (fun t e _ ht => (step_recordingsPath t e).trans ht) evs s (fun _ _ => trivial) rfl

end DevolutionsGateway
