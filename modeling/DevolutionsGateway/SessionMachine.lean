import DevolutionsGateway.ManagerLoop

/-!
# The per-session machine

§4.3 of the specification draws the life of one recording as a small machine: absent, then
`Connected` on a `Connect`, `LastSeen(ts)` on a `Disconnect`, back to `Connected` on a
reconnect within the grace period, and absent again when an eviction fires late enough. This
module states that machine (`SessionStep`), with the drain loop's extra edge (a `Disconnect`
handled after shutdown drops the recording), and proves that every step of
`recording_manager_task`, from any state, moves every session along it.

The abstraction is `ManagerState.sessionState`, the state of a session's entry in
`ongoing_recordings`; what a concrete event means for one session is
`ManagerState.actionOn`.

## Main results

* `ManagerState.onConnect_cases`, `ManagerState.onTimer_manager`: inversion of the two arms
  whose effect depends on more than the handler.
* `sessionStep_of_step`: **every step refines the per-session machine**, for every session.
* `ongoing_step_of_idle`: a step leaves the entry of every session it does not act on
  exactly as it was.
-/

namespace DevolutionsGateway

/-- What one step of the manager does to one session, as the per-session machine sees it. -/
inductive SessionAction
  /-- A `Connect` of the session is handled in the main loop. -/
  | connect
  /-- A `Disconnect` of the session is handled in the main loop, at wall-clock time `now`. -/
  | disconnect (now : Int)
  /-- The timer pops an eviction of the session, at wall-clock time `now`. -/
  | evict (now : Int)
  /-- A `Disconnect` of the session is handled in the drain loop. -/
  | drainDisconnect
  /-- The step does not concern the session. -/
  | idle
deriving DecidableEq

/-- **The per-session machine** of §4.3, with the edge of the drain loop: how the state of a
session (absent, `Connected`, `LastSeen`) may change under each action. Every action may
also leave it as it is. -/
inductive SessionStep : SessionAction → Option OnGoingRecordingState →
    Option OnGoingRecordingState → Prop
  | stutter {a st} : SessionStep a st st
  | connect {st} : st ≠ some .connected → SessionStep .connect st (some .connected)
  | disconnect {now} : SessionStep (.disconnect now) (some .connected) (some (.lastSeen now))
  | evict {ts now} : ts + disconnectedTtlSecs - 1 ≤ now →
      SessionStep (.evict now) (some (.lastSeen ts)) none
  | drain {st} : SessionStep .drainDisconnect st none

namespace ManagerState

/-- The state of session `id` in `ongoing_recordings`: absent, `Connected` or `LastSeen`. -/
def sessionState (s : ManagerState) (id : Uuid) : Option OnGoingRecordingState :=
  (s.manager.ongoing id).map (·.state)

/-- What event `e` in state `s` does to session `id`. -/
def actionOn (s : ManagerState) (e : ManagerEvent) (id : Uuid) : SessionAction :=
  match e, s.phase with
  | .recv (.connect id' _ _) _, .running => if id' = id then .connect else .idle
  | .recv (.disconnect id') _, .running => if id' = id then .disconnect s.clock.unix else .idle
  | .recv (.disconnect id') _, .draining => if id' = id then .drainDisconnect else .idle
  | .timer, .running =>
    if s.timerReady then
      match s.disconnected.peek with
      | some t => if t.id = id then .evict s.clock.unix else .idle
      | none => .idle
    else .idle
  | _, _ => .idle

/-- **Inversion of the `Connect` arm**: either the reply channel is dropped and the task is
unchanged, or the path is sent and the session, which was not `Connected`, is recorded as
`Connected` in both structures. -/
theorem onConnect_cases (s : ManagerState) (id : Uuid) (fileType : RecordingFileType)
    (channel : Nat) (faults : FsFaults) :
    ((s.onConnect id fileType channel faults).2 = some (.dropped channel) ∧
        (s.onConnect id fileType channel faults).1.manager = s.manager) ∨
      ∃ file mf, (s.onConnect id fileType channel faults).2 = some (.path channel file) ∧
        (s.manager.ongoing id).any (·.state.isConnected) = false ∧
        connectManifest s.disk s.manager.recordingsPath s.clock.unix faults id fileType =
          ((s.onConnect id fileType channel faults).1.disk, .ok (mf, file)) ∧
        (s.onConnect id fileType channel faults).1.manager =
          { s.manager.setOngoing id ⟨.connected, mf, manifestPath s.manager.recordingsPath id⟩ with
            activeRecordings := ⟨insert id s.manager.activeRecordings.ids⟩ } := by
  unfold onConnect
  split
  · rename_i disk m' file h
    obtain ⟨hc, mf, hcm, rfl⟩ := handleConnect_eq_ok h
    exact .inr ⟨file, mf, rfl, hc, hcm, rfl⟩
  · exact .inl ⟨rfl, rfl⟩

/-- The timer arm hands the eviction due first to `handle_remove`. -/
theorem onTimer_manager {s : ManagerState} {t : DisconnectedTtl} (ht : s.disconnected.peek = some t) :
    s.onTimer.manager = handleRemove s.manager s.clock.unix t.id := by
  simp [onTimer, BinaryHeap.pop, ht]

theorem actionOn_timer {s : ManagerState} {t : DisconnectedTtl} {id : Uuid}
    (hrun : s.phase = .running) (hready : s.timerReady = true) (ht : s.disconnected.peek = some t) :
    s.actionOn .timer id = if t.id = id then .evict s.clock.unix else .idle := by
  simp [actionOn, hrun, hready, ht]

end ManagerState

open ManagerState

/-- One step's effect on the entry of one session: it follows the machine, and an action
that does not concern the session leaves the entry exactly as it was. -/
def EntryStep (a : SessionAction) (o o' : Option OnGoingRecording) : Prop :=
  SessionStep a (o.map (·.state)) (o'.map (·.state)) ∧ (a = .idle → o' = o)

theorem EntryStep.of_eq {a : SessionAction} {o o' : Option OnGoingRecording} (h : o' = o) :
    EntryStep a o o' :=
  ⟨h ▸ .stutter, fun _ => h⟩

theorem EntryStep.of_step {a : SessionAction} {o o' : Option OnGoingRecording}
    (h : SessionStep a (o.map (·.state)) (o'.map (·.state))) (ha : a ≠ .idle) : EntryStep a o o' :=
  ⟨h, fun h' => absurd h' ha⟩

/-- The `Connect` arm moves every session along the machine. -/
theorem entryStep_onConnect (s : ManagerState) (id : Uuid) (fileType : RecordingFileType)
    (channel : Nat) (faults : FsFaults) (j : Uuid) :
    EntryStep (if id = j then .connect else .idle) (s.manager.ongoing j)
      ((s.onConnect id fileType channel faults).1.manager.ongoing j) := by
  rcases onConnect_cases s id fileType channel faults with ⟨-, h⟩ | ⟨file, mf, -, hc, -, h⟩
  · exact .of_eq (by rw [h])
  · by_cases hj : id = j
    · subst hj
      simp only [h, ↓reduceIte, RecordingManagerTask.ongoing_mk,
        RecordingManagerTask.ongoingRecordings_setOngoing, Finmap.lookup_insert, Option.map_some']
      refine .of_step (.connect fun hs => ?_) (by decide)
      obtain ⟨o, ho, hst⟩ := Option.map_eq_some'.mp hs
      simp [ho, hst] at hc
    · simp only [hj, ↓reduceIte]
      refine .of_eq ?_
      simp only [h, RecordingManagerTask.ongoing_mk, RecordingManagerTask.ongoingRecordings_setOngoing]
      exact Finmap.lookup_insert_of_ne _ (Ne.symm hj)

/-- `handle_disconnect` moves the session it handles from `Connected` to `LastSeen`. -/
theorem entryStep_handleDisconnect (m : RecordingManagerTask) (disk : Disk) (now : Int)
    (writeFails : Bool) (id j : Uuid) :
    EntryStep (if id = j then .disconnect now else .idle) (m.ongoing j)
      ((handleDisconnect m disk now writeFails id).1.ongoing j) := by
  rw [handleDisconnect_ongoing]
  by_cases hj : j = id
  · subst hj
    simp only [↓reduceIte]
    refine .of_step ?_ (by simp)
    cases m.ongoing j with
    | none => exact .stutter
    | some o =>
      by_cases hc : o.state = .connected
      · simp only [hc, ↓reduceIte, Option.map_some']
        exact .disconnect
      · simp only [hc, ↓reduceIte, Option.map_some']
        exact .stutter
  · simp only [hj, ↓reduceIte, Ne.symm hj]
    exact .of_eq rfl

/-- The timer arm moves the session it evicts from `LastSeen` to absent. -/
theorem entryStep_handleRemove (m : RecordingManagerTask) (now : Int) (id j : Uuid) :
    EntryStep (if id = j then .evict now else .idle) (m.ongoing j) ((handleRemove m now id).ongoing j) := by
  by_cases hj : j = id
  · subst hj
    simp only [↓reduceIte]
    refine .of_step ?_ (by simp)
    rcases handleRemove_cases m now j with ⟨h, -⟩ | ⟨ts, hts, hle, h⟩
    · rw [h]; exact .stutter
    · rw [h, hts]
      simp only [RecordingManagerTask.ongoing_mk, Finmap.lookup_erase, Option.map_none']
      exact .evict hle
  · simp only [Ne.symm hj, ↓reduceIte]
    exact .of_eq (handleRemove_ongoing_of_ne m now hj)

/-- The `Disconnect` arm of the drain loop drops the session it handles. -/
theorem entryStep_drainDisconnect (s : ManagerState) (id : Uuid) (faults : FsFaults) (j : Uuid) :
    EntryStep (if id = j then .drainDisconnect else .idle) (s.manager.ongoing j)
      ((s.drainRecv (.disconnect id) faults).1.manager.ongoing j) := by
  by_cases hj : id = j
  · subst hj
    simp only [↓reduceIte, drainRecv, RecordingManagerTask.ongoing_mk, Finmap.lookup_erase,
      Option.map_none']
    exact .of_step .drain (by decide)
  · simp only [hj, ↓reduceIte, drainRecv, RecordingManagerTask.ongoing_mk]
    refine .of_eq ?_
    rw [Finmap.lookup_erase_ne (Ne.symm hj)]
    exact (handleDisconnect_ongoing _ _ _ _ _ _).trans (by simp [Ne.symm hj])

/-- **What a step does to one entry**: every step of the manager moves every session along
the machine, labelled by what the event does to it, and leaves the entry of a session it
does not act on exactly as it was. -/
theorem entryStep_of_step (s : ManagerState) (e : ManagerEvent) (id : Uuid) :
    EntryStep (s.actionOn e id) (s.manager.ongoing id) ((step s e).1.manager.ongoing id) := by
  cases e with
  | recv msg faults =>
    cases hp : s.phase with
    | running =>
      cases msg with
      | connect id' fileType channel =>
        simpa [actionOn, hp, step, runningRecv] using
          entryStep_onConnect s id' fileType channel faults id
      | disconnect id' =>
        simpa [actionOn, hp, step, runningRecv, onDisconnect] using
          entryStep_handleDisconnect s.manager s.disk s.clock.unix faults.writeFails id' id
      | getState id' channel => simpa [actionOn, hp, step, runningRecv] using EntryStep.of_eq rfl
      | getCount channel => simpa [actionOn, hp, step, runningRecv] using EntryStep.of_eq rfl
    | draining =>
      cases msg with
      | disconnect id' =>
        simpa [actionOn, hp, step] using entryStep_drainDisconnect s id' faults id
      | _ => simpa [actionOn, hp, step, drainRecv] using EntryStep.of_eq rfl
    | stopped => simpa [actionOn, hp, step] using EntryStep.of_eq rfl
  | timer =>
    by_cases h : s.phase = .running ∧ s.timerReady = true
    · obtain ⟨hrun, hready⟩ := h
      cases ht : s.disconnected.peek with
      | none => simpa [actionOn, hrun, hready, ht, step, onTimer, BinaryHeap.pop] using
          EntryStep.of_eq rfl
      | some t =>
        rw [actionOn_timer hrun hready ht]
        simpa [step, hrun, hready, onTimer_manager ht] using
          entryStep_handleRemove s.manager s.clock.unix t.id id
    · have hs : (step s .timer).1 = s := by simp [step, h]
      rw [hs]; exact .of_eq rfl
  | shutdown =>
    have : (step s .shutdown).1.manager = s.manager := by simp only [step]; split <;> rfl
    exact .of_eq (by rw [this])
  | closed => exact .of_eq rfl
  | elapse secs => exact .of_eq rfl
  | setWallClock delta => exact .of_eq rfl

/-- **Every step of the manager refines the per-session machine.** -/
theorem sessionStep_of_step (s : ManagerState) (e : ManagerEvent) (id : Uuid) :
    SessionStep (s.actionOn e id) (s.sessionState id) ((step s e).1.sessionState id) :=
  (entryStep_of_step s e id).1

/-- A step leaves the entry of every session it does not act on exactly as it was. -/
theorem ongoing_step_of_idle {s : ManagerState} {e : ManagerEvent} {id : Uuid}
    (h : s.actionOn e id = .idle) : (step s e).1.manager.ongoing id = s.manager.ongoing id :=
  (entryStep_of_step s e id).2 h

/-- A `Connect` whose reply channel is dropped (refused, failed, or met by the drain loop)
leaves the task as it was. -/
theorem step_connect_dropped {s : ManagerState} {id : Uuid} {fileType : RecordingFileType}
    {channel : Nat} {faults : FsFaults}
    (h : (step s (.recv (.connect id fileType channel) faults)).2 = some (.dropped channel)) :
    (step s (.recv (.connect id fileType channel) faults)).1.manager = s.manager := by
  simp only [step] at h ⊢
  split
  · rename_i hp
    simp only [hp, runningRecv] at h ⊢
    rcases onConnect_cases s id fileType channel faults with ⟨-, hm⟩ | ⟨file, mf, hr, -⟩
    · exact hm
    · rw [hr] at h; cases h
  · rfl
  · rfl

/-- A `Disconnect` of a session that is not `Connected`, in the main loop, leaves
`ongoing_recordings` as it was. -/
theorem step_disconnect_not_connected {s : ManagerState} {id : Uuid} {faults : FsFaults}
    (hp : s.phase = .running) (hc : s.sessionState id ≠ some .connected) :
    (step s (.recv (.disconnect id) faults)).1.manager.ongoingRecordings =
      s.manager.ongoingRecordings := by
  have hnc : (s.manager.ongoing id).any (·.state.isConnected) = false := by
    cases ho : s.manager.ongoing id with
    | none => rfl
    | some o => simpa [sessionState, ho] using hc
  obtain ⟨e, he⟩ := handleDisconnect_of_not_connected s.manager s.disk s.clock.unix
    faults.writeFails hnc
  simp [step, hp, runningRecv, onDisconnect, he]

/-- `GetState` and `GetCount` change nothing, in any phase. -/
theorem step_getState (s : ManagerState) (id : Uuid) (channel : Nat) (faults : FsFaults) :
    (step s (.recv (.getState id channel) faults)).1 = s := by
  simp only [step]; split <;> rfl

theorem step_getCount (s : ManagerState) (channel : Nat) (faults : FsFaults) :
    (step s (.recv (.getCount channel) faults)).1 = s := by
  simp only [step]; split <;> rfl

/-- **`recording_manager_task` refines the per-session machine of §4.3.** In every state and
under every event: every session moves along an edge of `SessionStep` (absent or `LastSeen`
to `Connected` on a `Connect` of it, `Connected` to `LastSeen { now }` on a `Disconnect` of
it, `LastSeen { ts }` to absent only when the timer pops an eviction of it with
`now ≥ ts + 9`, and, in the drain only, to absent on a `Disconnect` of it); the entries of
sessions the event does not act on are untouched; a refused or failed `Connect` and a
main-loop `Disconnect` of a session that is not `Connected` leave `ongoing_recordings` as it
was; and `GetState` and `GetCount` change nothing. -/
theorem manager_refines_session_machine (s : ManagerState) (e : ManagerEvent) :
    (∀ id, SessionStep (s.actionOn e id) (s.sessionState id) ((step s e).1.sessionState id)) ∧
    (∀ id, s.actionOn e id = .idle → (step s e).1.manager.ongoing id = s.manager.ongoing id) ∧
    (∀ id fileType channel faults, e = .recv (.connect id fileType channel) faults →
      (step s e).2 = some (.dropped channel) →
      (step s e).1.manager.ongoingRecordings = s.manager.ongoingRecordings) ∧
    (∀ id faults, e = .recv (.disconnect id) faults → s.phase = .running →
      s.sessionState id ≠ some .connected →
      (step s e).1.manager.ongoingRecordings = s.manager.ongoingRecordings) ∧
    (∀ id channel faults, e = .recv (.getState id channel) faults → (step s e).1 = s) ∧
    (∀ channel faults, e = .recv (.getCount channel) faults → (step s e).1 = s) := by
  refine ⟨sessionStep_of_step s e, fun _ => ongoing_step_of_idle, ?_, ?_, ?_, ?_⟩
  · rintro id fileType channel faults rfl h
    rw [step_connect_dropped h]
  · rintro id faults rfl hp hc
    exact step_disconnect_not_connected hp hc
  · rintro id channel faults rfl
    exact step_getState s id channel faults
  · rintro channel faults rfl
    exact step_getCount s channel faults

end DevolutionsGateway
