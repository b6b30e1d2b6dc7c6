import DevolutionsGateway.Manifests

/-!
# A failed first manifest write blocks the session

`handle_connect` decides between appending to a manifest and creating one by whether the
session directory exists (`recording_path.exists()`). On a first connection it creates the
directory and then writes the initial manifest; if that write fails, the directory stays,
empty. From then on every `Connect` of the session takes the appending branch, whose
`read_from_file` finds no manifest, and fails: the session can never be recorded again, even
with every later file system step succeeding.

`ManagerState.Blocked` is that situation: the session directory exists, it holds no manifest,
and the session is not ongoing. Every step keeps it (`blocked_step`), and every `Connect` of a
blocked session in the main loop has its reply channel dropped (`connect_dropped_of_blocked`).
One failed write reaches it from an empty root (`failed_manifest_write_blocks_session`).

Only a failed write does this. `Disk.Recordable` says that a session has nothing on disk yet,
with no file above its directory, or a manifest that reads back; a step in which no write fails keeps every session recordable
(`recordable_step`), a failed read or directory creation included, and the main loop answers a
`Connect` of a recordable session that is not `Connected` with its next payload file.

What does hold on the error path: a refused or failed `handle_connect` leaves
`ongoing_recordings` and `ActiveRecordings` as they were (`step_connect_dropped`), and every
stored manifest too (`handleConnect_read_of_error`).

## Main results

* `blocked_step`, `connect_dropped_of_blocked`.
* `failed_manifest_write_blocks_session`: one failed write of the initial manifest, and every
  later `Connect` of the session fails, in every run that follows.
* `connect_answered_without_failed_writes`: over every run in which no write fails, from a root
  where every session is recordable, every `Connect` of a session that is not `Connected` is
  answered with the session's next payload file.
-/

namespace DevolutionsGateway

open ManagerState

/-- The appending branch of `handle_connect` fails when the session directory holds no
manifest, whatever the faults, and touches nothing. -/
theorem connectManifest_of_exists_of_read_none {disk : Disk} {root : Utf8PathBuf} {now : Int}
    {faults : FsFaults} {id : Uuid} {fileType : RecordingFileType}
    (hex : disk.exists (recordingPath root id) = true) (hr : disk.read (manifestPath root id) = none) :
    connectManifest disk root now faults id fileType = (disk, .error "read manifest from disk") := by
  have : JrecManifest.readFromFile disk (manifestPath root id) faults.readFails = none := by
    unfold JrecManifest.readFromFile; split <;> simp [hr]
  simp [connectManifest, hex, this]

theorem handleRemove_of_ongoing_none {m : RecordingManagerTask} {now : Int} {id : Uuid}
    (h : m.ongoing id = none) : handleRemove m now id = m := by
  simp [handleRemove, h]

namespace ManagerState

/-- Session `id` is blocked: its directory exists, holds no manifest, and the session is not
ongoing. -/
structure Blocked (s : ManagerState) (id : Uuid) : Prop where
  dirExists : s.disk.exists (recordingPath s.manager.recordingsPath id) = true
  noManifest : s.persistedManifest id = none
  notOngoing : s.manager.ongoing id = none

end ManagerState

/-- Nothing but a write of the session's manifest or a change of its directory unblocks it. -/
theorem ManagerState.Blocked.of_disk {s s' : ManagerState} {id : Uuid} (h : s.Blocked id)
    (hp : s'.manager.recordingsPath = s.manager.recordingsPath)
    (hrec : s'.disk.entry (recordingPath s.manager.recordingsPath id) =
      s.disk.entry (recordingPath s.manager.recordingsPath id))
    (hman : s'.disk.entry (manifestPath s.manager.recordingsPath id) =
      s.disk.entry (manifestPath s.manager.recordingsPath id))
    (hon : s'.manager.ongoing id = none) : s'.Blocked id := by
  refine ⟨?_, ?_, hon⟩
  · rw [hp, Disk.exists, hrec]; exact h.dirExists
  · rw [persistedManifest, hp, Disk.read_congr hman]; exact h.noManifest

/-- `handle_disconnect` leaves a blocked session absent. -/
theorem ManagerState.Blocked.ongoing_handleDisconnect {s : ManagerState} {id : Uuid}
    (h : s.Blocked id) (now : Int) (writeFails : Bool) (j : Uuid) :
    (handleDisconnect s.manager s.disk now writeFails j).1.ongoing id = none := by
  rw [DevolutionsGateway.handleDisconnect_ongoing]
  split
  · subst_vars; simp [h.notOngoing]
  · exact h.notOngoing

/-- `handle_disconnect` writes no path but the manifest of an ongoing session, which a blocked
session is not. -/
theorem ManagerState.Blocked.entry_handleDisconnect {s : ManagerState}
    (hs : s.manager.ManifestSynced s.disk) {id : Uuid} (h : s.Blocked id) (writeFails : Bool)
    (j : Uuid) {q : Utf8PathBuf} (hq : ∀ j', j' ≠ id → q ≠ manifestPath s.manager.recordingsPath j') :
    (handleDisconnect s.manager s.disk s.clock.unix writeFails j).2.1.entry q = s.disk.entry q := by
  rcases handleDisconnect_disk_cases s.manager s.disk s.clock.unix writeFails j with ⟨hd, -⟩ |
    ⟨o, mf, ho, hc, -, hsave, -⟩
  · rw [hd]
  · have hj : j ≠ id := by rintro rfl; rw [h.notOngoing] at ho; cases ho
    rw [JrecManifest.saveToFile, (hs j o ho hc).1] at hsave
    exact Disk.entry_write_of_ne hsave (hq j hj)

/-- **A blocked session stays blocked**, whatever the step. -/
theorem blocked_step {s : ManagerState} (hs : s.manager.ManifestSynced s.disk) {id : Uuid}
    (h : s.Blocked id) (e : ManagerEvent) : (step s e).1.Blocked id := by
  have hp := step_recordingsPath s e
  have hrec_ne : ∀ j, j ≠ id → recordingPath s.manager.recordingsPath id ≠
      recordingPath s.manager.recordingsPath j := fun j hj he => hj (recordingPath_injective he).symm
  have hman_ne : ∀ j, j ≠ id → manifestPath s.manager.recordingsPath id ≠
      manifestPath s.manager.recordingsPath j := fun j hj he => hj (manifestPath_injective he).symm
  have hblocked : ∀ faults fileType, connectManifest s.disk s.manager.recordingsPath s.clock.unix
      faults id fileType = (s.disk, .error "read manifest from disk") := fun _ _ =>
    connectManifest_of_exists_of_read_none h.dirExists h.noManifest
  rcases step_task_cases s e with ⟨hm, hd⟩ | ⟨j, fileType, channel, faults, -, -,
      ⟨file, hc, -⟩ | ⟨err, hc, hm, -⟩⟩ | ⟨j, faults, -, -, hm, hd⟩ |
    ⟨j, faults, -, -, hm, hd⟩ | ⟨g, -, -, -, -, hm, hd⟩
  · exact h.of_disk hp (by rw [hd]) (by rw [hd]) (by rw [hm]; exact h.notOngoing)
  · obtain ⟨-, mf, hcm, hm⟩ := handleConnect_eq_ok hc
    have hj : j ≠ id := by
      rintro rfl
      rw [hblocked] at hcm
      simp at hcm
    have hframe := (connectManifest_eq_ok hcm).2.1
    refine h.of_disk hp (hframe _ (hrec_ne j hj) (recordingPath_ne_manifestPath _ _ _))
      (hframe _ (recordingPath_ne_manifestPath _ _ _).symm (hman_ne j hj)) ?_
    rw [hm, RecordingManagerTask.ongoing_mk, Finmap.lookup_insert_of_ne _ (Ne.symm hj)]
    exact h.notOngoing
  · have hon : (step s e).1.manager.ongoing id = none := by rw [hm]; exact h.notOngoing
    rcases handleConnect_eq_error hc with hd | ⟨e', hcm⟩
    · exact h.of_disk hp (by rw [hd]) (by rw [hd]) hon
    · by_cases hj : j = id
      · subst hj
        rw [hblocked] at hcm
        obtain ⟨hd, -⟩ := Prod.mk.inj hcm
        exact h.of_disk hp (by rw [← hd]) (by rw [← hd]) hon
      · exact h.of_disk hp (connectManifest_eq_error hcm _ (hrec_ne j hj))
          (connectManifest_eq_error hcm _ (recordingPath_ne_manifestPath _ _ _).symm) hon
  · have hrec := h.entry_handleDisconnect hs faults.writeFails j
      (q := recordingPath s.manager.recordingsPath id) fun _ _ => recordingPath_ne_manifestPath _ _ _
    have hman := h.entry_handleDisconnect hs faults.writeFails j hman_ne
    exact h.of_disk hp (by rw [hd]; exact hrec) (by rw [hd]; exact hman)
      (by rw [hm]; exact h.ongoing_handleDisconnect _ _ _)
  · have hrec := h.entry_handleDisconnect hs faults.writeFails j
      (q := recordingPath s.manager.recordingsPath id) fun _ _ => recordingPath_ne_manifestPath _ _ _
    have hman := h.entry_handleDisconnect hs faults.writeFails j hman_ne
    refine h.of_disk hp (by rw [hd]; exact hrec) (by rw [hd]; exact hman) ?_
    rw [hm, RecordingManagerTask.ongoing_mk, Finmap.lookup_erase_ite]
    split
    · rfl
    · exact h.ongoing_handleDisconnect _ _ _
  · refine h.of_disk hp (by rw [hd]) (by rw [hd]) ?_
    rw [hm]
    by_cases hg : g.id = id
    · rw [hg, handleRemove_of_ongoing_none h.notOngoing]; exact h.notOngoing
    · rw [handleRemove_ongoing_of_ne _ _ (Ne.symm hg)]; exact h.notOngoing

/-- **A `Connect` of a blocked session fails**, whatever the faults: its reply channel is
dropped. -/
theorem connect_dropped_of_blocked {s : ManagerState} {id : Uuid} (h : s.Blocked id)
    (hrun : s.phase = .running) (fileType : RecordingFileType) (channel : Nat) (faults : FsFaults) :
    (step s (.recv (.connect id fileType channel) faults)).2 = some (.dropped channel) := by
  have hc : handleConnect s.manager s.disk s.clock.unix faults id fileType =
      (s.disk, .error "read manifest from disk") := by
    simp [handleConnect, h.notOngoing, connectManifest_of_exists_of_read_none h.dirExists h.noManifest]
  simp [step, hrun, runningRecv, onConnect, hc]

/-- **One failed write of the initial manifest blocks the session for good.** From an empty
root, a first `Connect` whose manifest write fails leaves the session directory without a
manifest; after that, in every state the main loop reaches, every `Connect` of the session
fails, even one whose file system steps all succeed. -/
theorem failed_manifest_write_blocks_session :
    let root : Utf8PathBuf := ⟨["recordings"]⟩
    let a : Uuid := ⟨0, by decide⟩
    let s := (run (ManagerState.init root Disk.empty ⟨0, 0⟩)
      [.recv (.connect a ⟨"webm", by decide⟩ 0) ⟨false, false, true⟩]).1
    s.disk.exists (recordingPath root a) = true ∧ s.disk.read (manifestPath root a) = none ∧
      s.manager.ongoing a = none ∧
      ∀ evs fileType channel faults, (run s evs).1.phase = .running →
        (step (run s evs).1 (.recv (.connect a fileType channel) faults)).2 = some (.dropped channel) := by
  intro root a s
  have hb : s.Blocked a := ⟨by decide, by decide, by decide⟩
  refine ⟨by decide, by decide, by decide, fun evs fileType channel faults hrun => ?_⟩
  have := run_induction (fun t => t.manager.ManifestSynced t.disk ∧ t.Blocked a) (fun _ => True)
    (fun t e _ ht => ⟨manifestSynced_step ht.1 e, blocked_step ht.1 ht.2 e⟩) evs s
    (fun _ _ => trivial) ⟨manifestSynced_run root Disk.empty ⟨0, 0⟩ _, hb⟩
  exact connect_dropped_of_blocked this.2 hrun fileType channel faults

/-! ### Only a failed manifest write blocks a session -/

/-- Session `id` can be recorded on `disk`: nothing of it is there yet and no file stands above
its directory, or its manifest reads back. -/
def Disk.Recordable (disk : Disk) (root : Utf8PathBuf) (id : Uuid) : Prop :=
  (disk.entry (recordingPath root id) = none ∧ disk.entry (manifestPath root id) = none ∧
      (recordingPath root id).properAncestors.any disk.isFile = false) ∨
    disk.read (manifestPath root id) ≠ none

/-- Whether the handling of `e` meets a failed write. -/
def ManagerEvent.writeFails : ManagerEvent → Bool
  | .recv _ faults => faults.writeFails
  | _ => false

theorem Disk.entry_of_read_eq_some {d : Disk} {p : Utf8PathBuf} {m : JrecManifest}
    (h : d.read p = some m) : d.entry p = some (.file (some m)) := by
  unfold Disk.read at h
  split at h <;> simp_all

/-- The paths above a session directory are no path of a session. -/
theorem ne_of_mem_properAncestors {root q : Utf8PathBuf} {id : Uuid}
    (hq : q ∈ (recordingPath root id).properAncestors) (j : Uuid) :
    q ≠ recordingPath root j ∧ q ≠ manifestPath root j := by
  have hlt := Utf8PathBuf.length_lt_of_mem_properAncestors hq
  constructor <;> rintro rfl <;>
    simp only [manifestPath, recordingPath, Utf8PathBuf.join, List.length_append,
      List.length_singleton] at hlt <;> omega

namespace Disk.Recordable

variable {disk disk' : Disk} {root : Utf8PathBuf} {id : Uuid}

theorem of_entries (h : disk.Recordable root id)
    (hrec : disk'.entry (recordingPath root id) = disk.entry (recordingPath root id))
    (hman : disk'.entry (manifestPath root id) = disk.entry (manifestPath root id))
    (hanc : ∀ q ∈ (recordingPath root id).properAncestors, disk'.entry q = disk.entry q) :
    disk'.Recordable root id := by
  rwa [Disk.Recordable, hrec, hman, Disk.read_congr hman, Disk.any_isFile_congr hanc]

/-- Writing the manifest of any session keeps a session recordable. -/
theorem write (h : disk.Recordable root id) {j : Uuid} {mf : JrecManifest} {fails : Bool}
    (hw : disk.write (manifestPath root j) (some mf) fails = some disk') :
    disk'.Recordable root id := by
  by_cases hj : j = id
  · subst hj
    exact .inr (by simp [Disk.read_write_self hw])
  · exact h.of_entries (Disk.entry_write_of_ne hw (recordingPath_ne_manifestPath _ _ _))
      (Disk.entry_write_of_ne hw fun he => hj (manifestPath_injective he).symm)
      fun q hq => Disk.entry_write_of_ne hw (ne_of_mem_properAncestors hq j).2

/-- `handle_connect`'s own file system steps on a recordable session, with no failed write:
they succeed, or they fail on a read or a directory creation and leave the disk as it was. -/
theorem connectManifest_self (h : disk.Recordable root id) {now : Int} {faults : FsFaults}
    (hw : faults.writeFails = false) (fileType : RecordingFileType) :
    (∃ disk' mf file, connectManifest disk root now faults id fileType = (disk', .ok (mf, file))) ∨
      ((connectManifest disk root now faults id fileType).1 = disk ∧
        (faults.readFails = true ∨ faults.createDirFails = true)) := by
  have hwrite : ∀ d : Disk, d.entry (recordingPath root id) = some .dir →
      d.entry (manifestPath root id) = disk.entry (manifestPath root id) →
      ∀ mf : JrecManifest, ∃ d', mf.saveToFile d (manifestPath root id) faults.writeFails = some d' :=
    fun d hdir hman mf => by
      rw [JrecManifest.saveToFile, hw]
      refine Disk.write_of_parent _ (by rwa [manifestPath, Utf8PathBuf.parent_join]) ?_
      rw [hman]
      rcases h with ⟨-, h, -⟩ | h
      · simp [h]
      · obtain ⟨m, hm⟩ := Option.ne_none_iff_exists'.mp h
        simp [Disk.entry_of_read_eq_some hm]
  unfold connectManifest
  by_cases hex : disk.exists (recordingPath root id) = true
  · obtain ⟨old, hold⟩ : ∃ old, disk.read (manifestPath root id) = some old := by
      rcases h with ⟨h, -⟩ | h
      · simp [Disk.exists, h] at hex
      · exact Option.ne_none_iff_exists'.mp h
    have hdir := disk.parent_isDir _ _ (Disk.entry_of_read_eq_some hold)
    rw [manifestPath, Utf8PathBuf.parent_join] at hdir
    cases hr : faults.readFails
    · obtain ⟨d', hd'⟩ := hwrite disk hdir rfl
        { old with files := old.files ++ [newRecordingFile old.files.length fileType now] }
      simp [hex, JrecManifest.readFromFile, hr, hold, hd']
    · simp [hex, JrecManifest.readFromFile, hr]
  · cases hcd : faults.createDirFails
    · have habs : disk.entry (recordingPath root id) = none := by simpa [Disk.exists] using hex
      have hanc : (recordingPath root id).properAncestors.any disk.isFile = false := by
        rcases h with ⟨-, -, h⟩ | h
        · exact h
        · exact absurd (Disk.read_manifestPath_eq_none habs) h
      obtain ⟨d₁, hd₁⟩ := Disk.createDirAll_of_absent habs hanc
      obtain ⟨-, hdir, hframe⟩ := Disk.createDirAll_eq_some hd₁
      obtain ⟨d₂, hd₂⟩ := hwrite d₁ hdir (hframe _ (recordingPath_ne_manifestPath _ _ _).symm)
        ⟨id, now, 0, [newRecordingFile 0 fileType now]⟩
      simp [hex, hcd, hd₁, hd₂]
    · simp [hex, hcd, Disk.createDirAll]

/-- `handle_connect`, for any session, keeps a session recordable when no write fails. -/
theorem handleConnect {m : RecordingManagerTask} (h : disk.Recordable m.recordingsPath id)
    {now : Int} {faults : FsFaults} (hw : faults.writeFails = false) (j : Uuid)
    (fileType : RecordingFileType) :
    (DevolutionsGateway.handleConnect m disk now faults j fileType).1.Recordable m.recordingsPath id := by
  have hcm : (connectManifest disk m.recordingsPath now faults j fileType).1.Recordable
      m.recordingsPath id := by
    by_cases hj : j = id
    · subst hj
      rcases h.connectManifest_self hw fileType with ⟨d', mf, file, hc⟩ | ⟨hd, -⟩
      · rw [hc]; exact .inr (by simp [(connectManifest_eq_ok hc).1])
      · rwa [hd]
    · have hrec : recordingPath m.recordingsPath id ≠ recordingPath m.recordingsPath j :=
        fun he => hj (recordingPath_injective he).symm
      have hman := (recordingPath_ne_manifestPath m.recordingsPath j id).symm
      rcases hc : connectManifest disk m.recordingsPath now faults j fileType with
        ⟨d', e | ⟨mf, file⟩⟩
      · exact h.of_entries (connectManifest_eq_error hc _ hrec) (connectManifest_eq_error hc _ hman)
          fun q hq => connectManifest_eq_error hc _ (ne_of_mem_properAncestors hq j).1
      · have hframe := (connectManifest_eq_ok hc).2.1
        exact h.of_entries (hframe _ hrec (recordingPath_ne_manifestPath _ _ _))
          (hframe _ hman fun he => hj (manifestPath_injective he).symm)
          fun q hq => hframe q (ne_of_mem_properAncestors hq j).1 (ne_of_mem_properAncestors hq j).2
  unfold DevolutionsGateway.handleConnect
  split
  · exact h
  · split <;> rename_i hc <;> rw [hc] at hcm <;> exact hcm

/-- `handle_disconnect` writes only the manifest of a `Connected` session, which keeps every
session recordable. -/
theorem handleDisconnect {m : RecordingManagerTask} (hs : m.ManifestSynced disk)
    (h : disk.Recordable m.recordingsPath id) (now : Int) (writeFails : Bool) (j : Uuid) :
    (DevolutionsGateway.handleDisconnect m disk now writeFails j).2.1.Recordable m.recordingsPath id := by
  rcases handleDisconnect_disk_cases m disk now writeFails j with ⟨hd, -⟩ | ⟨o, mf, ho, hc, -, hsave, -⟩
  · rwa [hd]
  · rw [JrecManifest.saveToFile, (hs j o ho hc).1] at hsave
    exact h.write hsave

end Disk.Recordable

/-- **No step but a failed write makes a session unrecordable.** -/
theorem recordable_step {s : ManagerState} (hs : s.manager.ManifestSynced s.disk) {id : Uuid}
    (h : s.disk.Recordable s.manager.recordingsPath id) (e : ManagerEvent)
    (hw : e.writeFails = false) :
    (step s e).1.disk.Recordable (step s e).1.manager.recordingsPath id := by
  rw [step_recordingsPath]
  rcases step_task_cases s e with ⟨-, hd⟩ | ⟨j, fileType, channel, faults, rfl, -,
      ⟨file, hc, -⟩ | ⟨err, hc, -, -⟩⟩ | ⟨j, faults, -, -, -, hd⟩ | ⟨j, faults, -, -, -, hd⟩ |
    ⟨g, -, -, -, -, -, hd⟩
  · rwa [hd]
  · rw [show (step _ _).1.disk = _ from (congrArg Prod.fst hc).symm]
    exact h.handleConnect hw j fileType
  · rw [show (step _ _).1.disk = _ from (congrArg Prod.fst hc).symm]
    exact h.handleConnect hw j fileType
  · rw [hd]; exact h.handleDisconnect hs _ _ j
  · rw [hd]; exact h.handleDisconnect hs _ _ j
  · rwa [hd]

/-- **Only a failed manifest write blocks a session.** Start from a root where each session
has nothing on disk, with no file above its directory, or a manifest that reads back (an empty
root, say), and let the manager run through any events in which no write fails: reads and
directory creations may fail, and the `select!` may take its branches in any order. Then in the
main loop every `Connect` of a session that is not `Connected`, met by a file system that does
not fail, is answered with the session's next payload file. -/
theorem connect_answered_without_failed_writes (root : Utf8PathBuf) (disk : Disk) (clock : Clock)
    (hdisk : ∀ id, disk.Recordable root id) (evs : List ManagerEvent)
    (hw : ∀ e ∈ evs, e.writeFails = false) (id : Uuid) (fileType : RecordingFileType)
    (channel : Nat) :
    let s := (run (ManagerState.init root disk clock) evs).1
    s.phase = .running → s.sessionState id ≠ some .connected →
      (step s (.recv (.connect id fileType channel) .none)).2 =
        some (.path channel (recordingFile root id (s.fileCount id) fileType)) := by
  intro s hrun hnc
  have hroot : s.manager.recordingsPath = root := run_recordingsPath _ evs
  have hinv : s.manager.ManifestSynced s.disk ∧ ∀ j, s.disk.Recordable s.manager.recordingsPath j :=
    run_induction (fun t => t.manager.ManifestSynced t.disk ∧
        ∀ j, t.disk.Recordable t.manager.recordingsPath j) (fun e => e.writeFails = false)
      (fun t e he ht => ⟨manifestSynced_step ht.1 e, fun j => recordable_step ht.1 (ht.2 j) e he⟩)
      evs _ hw ⟨manifestSynced_init root disk clock, hdisk⟩
  obtain ⟨d', mf, file, hcm⟩ : ∃ d' mf file, connectManifest s.disk s.manager.recordingsPath
      s.clock.unix .none id fileType = (d', .ok (mf, file)) := by
    rcases (hinv.2 id).connectManifest_self (rfl : FsFaults.none.writeFails = false) fileType with h | ⟨-, h⟩
    · exact h
    · simp [FsFaults.none] at h
  have hnc' : (s.manager.ongoing id).any (·.state.isConnected) = false := by
    cases ho : s.manager.ongoing id with
    | none => rfl
    | some o => simpa [sessionState, ho] using hnc
  have hr : (step s (.recv (.connect id fileType channel) .none)).2 = some (.path channel file) := by
    simp [step, hrun, runningRecv, onConnect, DevolutionsGateway.handleConnect, hnc', hcm]
  rw [hr, ← hroot]
  rcases step_connect_path hr with ⟨h0, hp, -⟩ | ⟨m, h0, hp, -⟩ <;> simp [fileCount, h0, hp]


/-- A session recorded once, disconnected, and connecting again is handed `recording-1.webm`. -/
theorem connect_answered_without_failed_writes_on_reconnect :
    let root : Utf8PathBuf := ⟨["recordings"]⟩
    let a : Uuid := ⟨0, by decide⟩
    let evs : List ManagerEvent :=
      [.recv (.connect a ⟨"webm", by decide⟩ 0) .none, .recv (.disconnect a) .none]
    let s := (run (ManagerState.init root Disk.empty ⟨0, 0⟩) evs).1
    ((∀ id, Disk.empty.Recordable root id) ∧ (∀ e ∈ evs, e.writeFails = false) ∧
      s.phase = .running ∧ s.sessionState a ≠ some .connected) ∧
      (step s (.recv (.connect a ⟨"webm", by decide⟩ 1) .none)).2 =
        some (.path 1 (recordingFile root a (s.fileCount a) ⟨"webm", by decide⟩)) :=
  ⟨⟨fun _ => .inl ⟨rfl, rfl, rfl⟩, by decide, by decide, by decide⟩,
    connect_answered_without_failed_writes ⟨["recordings"]⟩ Disk.empty ⟨0, 0⟩
      (fun _ => .inl ⟨rfl, rfl, rfl⟩) _ (by decide) _ _ _ (by decide) (by decide)⟩


end DevolutionsGateway
