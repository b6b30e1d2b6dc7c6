import DevolutionsGateway.SessionMachine

/-!
# `ActiveRecordings` against `ongoing_recordings`

`ActiveRecordings` is meant as a read-through index of `ongoing_recordings` for callers
that cannot wait on the actor: `contains(id)` should answer whether `GetState(id)` would
return a state. In the main loop the two agree: `handle_connect` inserts into both,
`handle_remove` removes from both, and nothing else changes the keys (`indexSynced_run`).

The drain loop breaks this. It removes the session from `ongoing_recordings` after
`handle_disconnect` (line 565) but never from `ActiveRecordings`, unlike its sibling
`handle_remove`; after a shutdown, `contains` keeps answering `true` for a recording that
is gone (`drain_disconnect_leaves_active_id`). What survives the drain is one inclusion:
every ongoing recording is in `ActiveRecordings` (`indexCovers_run`).

## Main results

* `indexSynced_run`: in every state of the main loop, the two structures hold the same ids.
* `indexCovers_run`: in every state, every key of `ongoing_recordings` is active.
* `drain_disconnect_leaves_active_id`: the drain loop leaves a removed id in the set.
-/

namespace DevolutionsGateway

open ManagerState

theorem Finmap.keys_insert' (o : Finmap (fun _ : Uuid => OnGoingRecording)) (id : Uuid)
    (v : OnGoingRecording) : (o.insert id v).keys = insert id o.keys := by
  ext j
  simp [Finmap.mem_keys, Finmap.mem_insert]

/-- Keys depend only on which lookups succeed. -/
theorem Finmap.keys_eq_of_isSome {o o' : Finmap (fun _ : Uuid => OnGoingRecording)}
    (h : ∀ j, (o'.lookup j).isSome = (o.lookup j).isSome) : o'.keys = o.keys := by
  ext j
  rw [Finmap.mem_keys, Finmap.mem_keys, ← Finmap.lookup_isSome, ← Finmap.lookup_isSome, h]

theorem handleDisconnect_keys (m : RecordingManagerTask) (disk : Disk) (now : Int)
    (writeFails : Bool) (id : Uuid) :
    (handleDisconnect m disk now writeFails id).1.ongoingRecordings.keys =
      m.ongoingRecordings.keys :=
  Finmap.keys_eq_of_isSome fun j => by
    have := handleDisconnect_ongoing m disk now writeFails id j
    simp only [RecordingManagerTask.ongoing] at this
    rw [this]
    split
    · subst_vars; cases m.ongoingRecordings.lookup j <;> rfl
    · rfl

theorem handleDisconnect_activeRecordings (m : RecordingManagerTask) (disk : Disk) (now : Int)
    (writeFails : Bool) (id : Uuid) :
    (handleDisconnect m disk now writeFails id).1.activeRecordings = m.activeRecordings := by
  unfold handleDisconnect
  split
  · rfl
  · split
    · rfl
    · dsimp only
      split
      · rfl
      · split <;> rfl

namespace ManagerState

/-- **The index is exact**: `ActiveRecordings` holds exactly the keys of
`ongoing_recordings`. -/
def IndexSynced (s : ManagerState) : Prop :=
  s.manager.activeRecordings.ids = s.manager.ongoingRecordings.keys

/-- Every key of `ongoing_recordings` is in `ActiveRecordings`. -/
def IndexCovers (s : ManagerState) : Prop :=
  s.manager.ongoingRecordings.keys ⊆ s.manager.activeRecordings.ids

end ManagerState

/-- A relation between the two structures that `handle_connect` and `handle_remove` keep,
and that the drain's `Disconnect` keeps if the drain is reached, holds after every step. -/
theorem index_step (R : Finset Uuid → Finset Uuid → Prop)
    (hins : ∀ a k id, R a k → R (insert id a) (insert id k))
    (hrem : ∀ a k id, R a k → R (a.erase id) (k.erase id)) (s : ManagerState)
    (hdrain : s.phase = .draining → ∀ a k id, R a k → R a (k.erase id)) (e : ManagerEvent)
    (h : R s.manager.activeRecordings.ids s.manager.ongoingRecordings.keys) :
    R (step s e).1.manager.activeRecordings.ids (step s e).1.manager.ongoingRecordings.keys := by
  cases e with
  | recv msg faults =>
    cases hp : s.phase with
    | running =>
      cases msg with
      | connect id fileType channel =>
        simp only [step, hp, runningRecv]
        rcases onConnect_cases s id fileType channel faults with ⟨-, hm⟩ | ⟨file, mf, -, -, -, hm⟩
        · rwa [hm]
        · rw [hm]
          simpa [Finmap.keys_insert'] using hins _ _ id h
      | disconnect id =>
        simpa [step, hp, runningRecv, onDisconnect, handleDisconnect_keys,
          handleDisconnect_activeRecordings] using h
      | getState id channel => simpa [step, hp, runningRecv] using h
      | getCount channel => simpa [step, hp, runningRecv] using h
    | draining =>
      cases msg with
      | disconnect id =>
        simpa [step, hp, drainRecv, Finmap.keys_erase, handleDisconnect_keys,
          handleDisconnect_activeRecordings] using hdrain hp _ _ id h
      | _ => simpa [step, hp, drainRecv] using h
    | stopped => simpa [step, hp] using h
  | timer =>
    simp only [step]
    split
    · cases ht : s.disconnected.peek with
      | none => simpa [onTimer, BinaryHeap.pop, ht] using h
      | some t =>
        rw [onTimer_manager ht]
        rcases handleRemove_cases s.manager s.clock.unix t.id with ⟨hr, -⟩ | ⟨ts, -, -, hr⟩
        · rwa [hr]
        · rw [hr]
          simpa [ActiveRecordings.remove, Finmap.keys_erase] using hrem _ _ t.id h
    · exact h
  | shutdown => simp only [step]; split <;> exact h
  | closed => exact h
  | elapse secs => exact h
  | setWallClock delta => exact h

theorem indexSynced_init (root : Utf8PathBuf) (disk : Disk) (clock : Clock) :
    (ManagerState.init root disk clock).IndexSynced := by
  simp [IndexSynced, ManagerState.init, RecordingManagerTask.new]

/-- **In the main loop the index is exact**, over every run from a fresh task: every message
sequence, every failure of the file system steps, every order of the `select!` branches. -/
theorem indexSynced_run (root : Utf8PathBuf) (disk : Disk) (clock : Clock)
    (evs : List ManagerEvent) :
    (run (ManagerState.init root disk clock) evs).1.phase = .running →
      (run (ManagerState.init root disk clock) evs).1.IndexSynced :=
  run_induction (fun s => s.phase = .running → s.IndexSynced) (fun _ => True)
    (fun s e _ ih hrun =>
      have hs := phase_running_of_step hrun
      index_step (· = ·) (fun _ _ _ h => h ▸ rfl) (fun _ _ _ h => h ▸ rfl) s
        (fun hd => absurd (hs.symm.trans hd) (by decide)) e (ih hs))
    evs _ (fun _ _ => trivial) (fun _ => indexSynced_init root disk clock)

theorem indexSynced_run_after_connect :
    let s := (run (ManagerState.init ⟨["recordings"]⟩ Disk.empty ⟨0, 0⟩)
      [.recv (.connect ⟨0, by decide⟩ ⟨"webm", by decide⟩ 0) .none]).1
    s.phase = .running ∧ s.IndexSynced :=
  ⟨by decide, indexSynced_run _ _ _ _ (by decide)⟩

/-- Every step keeps every ongoing recording active, the drain's `Disconnect` included. -/
theorem indexCovers_step {s : ManagerState} (h : s.IndexCovers) (e : ManagerEvent) :
    (step s e).1.IndexCovers :=
  index_step (fun a k => k ⊆ a) (fun _ _ _ h => Finset.insert_subset_insert _ h)
    (fun _ _ _ h => Finset.erase_subset_erase _ h) s
    (fun _ _ _ _ h => (Finset.erase_subset _ _).trans h) e h

theorem indexCovers_init (root : Utf8PathBuf) (disk : Disk) (clock : Clock) :
    (ManagerState.init root disk clock).IndexCovers := by
  simp [IndexCovers, ManagerState.init, RecordingManagerTask.new]

/-- A session with an entry in `ongoing_recordings` is in `ActiveRecordings`. -/
theorem ManagerState.IndexCovers.contains_of_sessionState {s : ManagerState} (h : s.IndexCovers)
    {id : Uuid} {st : OnGoingRecordingState} (hs : s.sessionState id = some st) :
    s.manager.activeRecordings.contains id = true := by
  obtain ⟨o, ho, -⟩ := Option.map_eq_some'.mp hs
  have hmem : id ∈ s.manager.ongoingRecordings.keys :=
    Finmap.mem_keys.mpr (Finmap.mem_of_lookup_eq_some ho)
  simpa [ActiveRecordings.contains] using h hmem

/-- **Every ongoing recording is active**, in every state, drain included. -/
theorem indexCovers_run (root : Utf8PathBuf) (disk : Disk) (clock : Clock)
    (evs : List ManagerEvent) : (run (ManagerState.init root disk clock) evs).1.IndexCovers :=
  run_induction IndexCovers (fun _ => True) (fun _ e _ ih => indexCovers_step ih e)
    evs _ (fun _ _ => trivial) (indexCovers_init root disk clock)

/-- **The drain loop leaves a removed id in `ActiveRecordings`**: a session that connects, sees
the shutdown, then disconnects in the drain is gone from `ongoing_recordings`, while
`ActiveRecordings::contains` still answers `true` for it. -/
theorem drain_disconnect_leaves_active_id :
    let id : Uuid := ⟨0, by decide⟩
    let s := (run (ManagerState.init ⟨["recordings"]⟩ Disk.empty ⟨0, 0⟩)
      [.recv (.connect id ⟨"webm", by decide⟩ 0) .none, .shutdown, .recv (.disconnect id) .none]).1
    s.manager.activeRecordings.contains id = true ∧ s.manager.ongoing id = none := by
  decide

end DevolutionsGateway
