import DevolutionsGateway.Disk
import Mathlib.Data.Finmap

/-!
# The recording manager's state and its three handlers

`RecordingManagerTask` owns `ongoing_recordings`, the map from session ids to
`OnGoingRecording`, and writes the `ActiveRecordings` set it shares with every
`RecordingMessageSender`. This module models the three methods that change them,
`handle_connect`, `handle_disconnect` and `handle_remove`, each with the file system steps
it performs and the unix clock reading it takes (`now`).

`HashMap` is modelled by `Finmap` and `HashSet` by `Finset`. Log lines (`debug!`, `warn!`,
the length-threshold warning of `handle_connect`) are not modelled.

## Main results

For each handler an inversion lemma says everything one call can do:

* `handleConnect_eq_ok`, `handleConnect_eq_error`, with `connectManifest_eq_ok` and
  `connectManifest_eq_error` for the file system part (lines 336-388);
* `handleDisconnect_of_not_connected`, `handleDisconnect_of_connected`, and
  `handleDisconnect_ongoing` for its effect on `ongoing_recordings`;
* `handleRemove_cases`.

The properties of whole runs are derived from these in the later modules.
-/

namespace DevolutionsGateway

/-- `DISCONNECTED_TTL_SECS`: how long a disconnected recording waits for a reconnect. -/
def disconnectedTtlSecs : Int := 10

/-- `OnGoingRecordingState`. -/
inductive OnGoingRecordingState
  | connected
  | lastSeen (timestamp : Int)
deriving DecidableEq

/-- `matches!(state, OnGoingRecordingState::Connected)`. -/
def OnGoingRecordingState.isConnected : OnGoingRecordingState → Bool
  | .connected => true
  | .lastSeen _ => false

@[simp] theorem OnGoingRecordingState.isConnected_iff (s : OnGoingRecordingState) :
    s.isConnected = true ↔ s = .connected := by
  cases s <;> simp [isConnected]

@[simp] theorem OnGoingRecordingState.isConnected_eq_false_iff (s : OnGoingRecordingState) :
    s.isConnected = false ↔ s ≠ .connected := by
  cases s <;> simp [isConnected]

/-- `OnGoingRecording`: the state of a recording, its live manifest, and where it is stored. -/
structure OnGoingRecording where
  state : OnGoingRecordingState
  manifest : JrecManifest
  manifestPath : Utf8PathBuf
deriving DecidableEq

/-- `ActiveRecordings`: the ids of the ongoing recordings, behind a mutex shared with every
sender. -/
structure ActiveRecordings where
  ids : Finset Uuid

/-- `ActiveRecordings::contains`. -/
def ActiveRecordings.contains (a : ActiveRecordings) (id : Uuid) : Bool := id ∈ a.ids

/-- `ActiveRecordings::insert`: the set with `id`, and its new size. -/
def ActiveRecordings.insert (a : ActiveRecordings) (id : Uuid) : ActiveRecordings × Nat :=
  (⟨Insert.insert id a.ids⟩, (Insert.insert id a.ids).card)

/-- `ActiveRecordings::remove`. -/
def ActiveRecordings.remove (a : ActiveRecordings) (id : Uuid) : ActiveRecordings :=
  ⟨a.ids.erase id⟩

/-- `RecordingManagerTask`: the ongoing recordings, the shared set of their ids, and the
recordings root. -/
structure RecordingManagerTask where
  activeRecordings : ActiveRecordings
  ongoingRecordings : Finmap (fun _ : Uuid => OnGoingRecording)
  recordingsPath : Utf8PathBuf

/-- `RecordingManagerTask::new`, with the empty set `recording_message_channel` creates. -/
def RecordingManagerTask.new (recordingsPath : Utf8PathBuf) : RecordingManagerTask :=
  ⟨⟨∅⟩, ∅, recordingsPath⟩

/-- `ongoing_recordings.get(&id)`. -/
def RecordingManagerTask.ongoing (m : RecordingManagerTask) (id : Uuid) : Option OnGoingRecording :=
  m.ongoingRecordings.lookup id

/-- Writing the entry of `id` in place, as `get_mut` does. -/
def RecordingManagerTask.setOngoing (m : RecordingManagerTask) (id : Uuid) (o : OnGoingRecording) :
    RecordingManagerTask :=
  { m with ongoingRecordings := m.ongoingRecordings.insert id o }

@[simp] theorem RecordingManagerTask.ongoing_setOngoing (m : RecordingManagerTask) (id j : Uuid)
    (o : OnGoingRecording) : (m.setOngoing id o).ongoing j = if j = id then some o else m.ongoing j := by
  by_cases h : j = id
  · subst h; simp [setOngoing, ongoing, Finmap.lookup_insert]
  · simp [setOngoing, ongoing, Finmap.lookup_insert_of_ne _ h, h]

@[simp] theorem RecordingManagerTask.ongoing_mk (a : ActiveRecordings)
    (o : Finmap (fun _ : Uuid => OnGoingRecording)) (r : Utf8PathBuf) (id : Uuid) :
    (RecordingManagerTask.mk a o r).ongoing id = o.lookup id := rfl

theorem Finmap.lookup_erase_ite (o : Finmap (fun _ : Uuid => OnGoingRecording)) (id j : Uuid) :
    (o.erase id).lookup j = if j = id then none else o.lookup j := by
  split
  · subst_vars; exact Finmap.lookup_erase _ o
  · exact Finmap.lookup_erase_ne ‹_›

@[simp] theorem RecordingManagerTask.ongoingRecordings_setOngoing (m : RecordingManagerTask)
    (id : Uuid) (o : OnGoingRecording) :
    (m.setOngoing id o).ongoingRecordings = m.ongoingRecordings.insert id o := rfl

@[simp] theorem RecordingManagerTask.activeRecordings_setOngoing (m : RecordingManagerTask)
    (id : Uuid) (o : OnGoingRecording) : (m.setOngoing id o).activeRecordings = m.activeRecordings :=
  rfl

@[simp] theorem RecordingManagerTask.recordingsPath_setOngoing (m : RecordingManagerTask)
    (id : Uuid) (o : OnGoingRecording) : (m.setOngoing id o).recordingsPath = m.recordingsPath :=
  rfl

/-- Which file system steps of one request fail with an I/O error. -/
structure FsFaults where
  createDirFails : Bool
  readFails : Bool
  writeFails : Bool
deriving DecidableEq

/-- No file system step fails. -/
def FsFaults.none : FsFaults := ⟨false, false, false⟩

/-- `JrecManifest::read_from_file`. -/
def JrecManifest.readFromFile (disk : Disk) (path : Utf8PathBuf) (fails : Bool) :
    Option JrecManifest :=
  if fails then none else disk.read path

/-- `JrecManifest::save_to_file`. -/
def JrecManifest.saveToFile (m : JrecManifest) (disk : Disk) (path : Utf8PathBuf) (fails : Bool) :
    Option Disk :=
  disk.write path (some m) fails

/-! ### `handle_connect` -/

/-- The entry `handle_connect` appends for the file of index `idx`, started at `now`. -/
def newRecordingFile (idx : Nat) (fileType : RecordingFileType) (now : Int) : JrecFile :=
  ⟨recordingFileName idx fileType, now, 0⟩

/-- Lines 336-388 of `handle_connect`: the manifest of the new connection and its payload
file, after appending to the manifest on disk or creating the directory and a first
manifest; with the disk after these steps, also when one of them fails. -/
def connectManifest (disk : Disk) (root : Utf8PathBuf) (now : Int) (faults : FsFaults) (id : Uuid)
    (fileType : RecordingFileType) : Disk × Except String (JrecManifest × Utf8PathBuf) :=
  if disk.exists (recordingPath root id) then
    match JrecManifest.readFromFile disk (manifestPath root id) faults.readFails with
    | none => (disk, .error "read manifest from disk")
    | some existing =>
      let nextFileIdx := existing.files.length
      let manifest :=
        { existing with files := existing.files ++ [newRecordingFile nextFileIdx fileType now] }
      match manifest.saveToFile disk (manifestPath root id) faults.writeFails with
      | none => (disk, .error "override existing manifest")
      | some disk' => (disk', .ok (manifest, recordingFile root id nextFileIdx fileType))
  else
    match disk.createDirAll (recordingPath root id) faults.createDirFails with
    | none => (disk, .error s!"failed to create recording path: {recordingPath root id}")
    | some disk₁ =>
      let initialManifest : JrecManifest := ⟨id, now, 0, [newRecordingFile 0 fileType now]⟩
      match initialManifest.saveToFile disk₁ (manifestPath root id) faults.writeFails with
      | none => (disk₁, .error "write initial manifest to disk")
      | some disk₂ => (disk₂, .ok (initialManifest, recordingFile root id 0 fileType))

/-- `RecordingManagerTask::handle_connect`: refuses a session that is `Connected`, else
prepares the manifest and the payload file and records the session as `Connected`. The
task changes only on success, after every fallible step; the disk may change either way. -/
def handleConnect (m : RecordingManagerTask) (disk : Disk) (now : Int) (faults : FsFaults)
    (id : Uuid) (fileType : RecordingFileType) :
    Disk × Except String (RecordingManagerTask × Utf8PathBuf) :=
  if (m.ongoing id).any (·.state.isConnected) then
    (disk, .error "concurrent recording for the same session is not supported")
  else
    match connectManifest disk m.recordingsPath now faults id fileType with
    | (disk', .error e) => (disk', .error e)
    | (disk', .ok (manifest, recordingFile)) =>
      let (activeRecordings, _activeRecordingCount) := m.activeRecordings.insert id
      (disk', .ok ({ m with
        activeRecordings
        ongoingRecordings := m.ongoingRecordings.insert id
          ⟨.connected, manifest, manifestPath m.recordingsPath id⟩ }, recordingFile))

/-! ### `handle_disconnect` -/

/-- Lines 424-431 of `handle_disconnect`: the current (last) file and the manifest end at
`endTime`; `none` when there is no file. -/
def JrecManifest.closeCurrentFile (m : JrecManifest) (endTime : Int) : Option JrecManifest :=
  match m.files.getLast? with
  | none => none
  | some current => some { m with
      files := m.files.dropLast ++ [{ current with duration := endTime - current.startTime }]
      duration := endTime - m.startTime }

/-- `RecordingManagerTask::handle_disconnect`: a `Connected` recording becomes
`LastSeen { timestamp: now }` and its manifest, with the durations up to `now`, is written
back. The state changes before the steps that can fail. -/
def handleDisconnect (m : RecordingManagerTask) (disk : Disk) (now : Int) (writeFails : Bool)
    (id : Uuid) : RecordingManagerTask × Disk × Except String Unit :=
  match m.ongoing id with
  | none => (m, disk, .error s!"unknown recording for ID {id}")
  | some ongoing =>
    if !ongoing.state.isConnected then
      (m, disk, .error "a recording not connected can’t be disconnected (there is probably a bug)")
    else
      let lastSeen := { ongoing with state := .lastSeen now }
      match lastSeen.manifest.closeCurrentFile now with
      | none => (m.setOngoing id lastSeen, disk, .error "no recording file (this is a bug)")
      | some manifest =>
        let updated := { lastSeen with manifest }
        match manifest.saveToFile disk updated.manifestPath writeFails with
        | none =>
          (m.setOngoing id updated, disk, .error s!"write manifest at {updated.manifestPath}")
        | some disk' => (m.setOngoing id updated, disk', .ok ())

/-! ### `handle_remove` -/

/-- `RecordingManagerTask::handle_remove`: a recording `LastSeen` at least
`DISCONNECTED_TTL_SECS - 1` seconds ago is dropped from both structures. -/
def handleRemove (m : RecordingManagerTask) (now : Int) (id : Uuid) : RecordingManagerTask :=
  match m.ongoing id with
  | some ⟨.lastSeen timestamp, _, _⟩ =>
    if now ≥ timestamp + disconnectedTtlSecs - 1 then
      { m with
        activeRecordings := m.activeRecordings.remove id
        ongoingRecordings := m.ongoingRecordings.erase id }
    else m
  | _ => m

/-! ### What one call of a handler can do -/

section Spec

variable {disk disk' : Disk} {root : Utf8PathBuf} {now : Int} {faults : FsFaults} {id : Uuid}
  {fileType : RecordingFileType}

theorem Disk.read_congr {d d' : Disk} {p : Utf8PathBuf} (h : d'.entry p = d.entry p) :
    d'.read p = d.read p := by
  simp [Disk.read, h]

/-- A manifest is only ever found inside an existing session directory. -/
theorem Disk.read_manifestPath_eq_none {d : Disk} (h : d.entry (recordingPath root id) = none) :
    d.read (manifestPath root id) = none := by
  unfold Disk.read
  split
  · rename_i c hc
    have := d.parent_isDir _ _ hc
    simp [manifestPath, h] at this
  · rfl

/-- **A successful `connectManifest`** writes the manifest it returns, touches nothing but the
session directory and the manifest, and either appends one file to the manifest found on
disk or creates a first manifest with the file of index 0. -/
theorem connectManifest_eq_ok {mf : JrecManifest} {file : Utf8PathBuf}
    (h : connectManifest disk root now faults id fileType = (disk', .ok (mf, file))) :
    disk'.read (manifestPath root id) = some mf ∧
    (∀ q, q ≠ recordingPath root id → q ≠ manifestPath root id → disk'.entry q = disk.entry q) ∧
    ((∃ old, disk.read (manifestPath root id) = some old ∧
        mf = { old with files := old.files ++ [newRecordingFile old.files.length fileType now] } ∧
        file = recordingFile root id old.files.length fileType) ∨
      (disk.entry (recordingPath root id) = none ∧
        mf = ⟨id, now, 0, [newRecordingFile 0 fileType now]⟩ ∧
        file = recordingFile root id 0 fileType)) := by
  unfold connectManifest at h
  split at h
  · split at h
    · cases h
    · rename_i old hold
      dsimp only at h
      split at h
      · cases h
      · rename_i d hd
        simp only [Prod.mk.injEq, Except.ok.injEq] at h
        obtain ⟨rfl, rfl, rfl⟩ := h
        have hread : disk.read (manifestPath root id) = some old := by
          unfold JrecManifest.readFromFile at hold; split at hold <;> simp_all
        exact ⟨Disk.read_write_self hd, fun q _ hq => Disk.entry_write_of_ne hd hq,
          .inl ⟨old, hread, rfl, rfl⟩⟩
  · rename_i hex
    split at h
    · cases h
    · rename_i d₁ hd₁
      dsimp only at h
      split at h
      · cases h
      · rename_i d₂ hd₂
        simp only [Prod.mk.injEq, Except.ok.injEq] at h
        obtain ⟨rfl, rfl, rfl⟩ := h
        refine ⟨Disk.read_write_self hd₂, fun q hq hq' => ?_, .inr ⟨?_, rfl, rfl⟩⟩
        · rw [Disk.entry_write_of_ne hd₂ hq', Disk.entry_createDirAll_of_ne hd₁ hq]
        · simpa [Disk.exists] using hex

/-- A failed `connectManifest` changes at most the session directory: the manifest and
every other path are as they were. -/
theorem connectManifest_eq_error {e : String}
    (h : connectManifest disk root now faults id fileType = (disk', .error e)) :
    ∀ q, q ≠ recordingPath root id → disk'.entry q = disk.entry q := by
  intro q hq
  unfold connectManifest at h
  split at h
  · split at h
    · cases h; rfl
    · dsimp only at h
      split at h
      · cases h; rfl
      · cases h
  · split at h
    · cases h; rfl
    · rename_i d₁ hd₁
      dsimp only at h
      split at h
      · cases h
        exact Disk.entry_createDirAll_of_ne hd₁ hq
      · cases h

variable {m m' : RecordingManagerTask}

/-- **A successful `handle_connect`** found the session not `Connected`, and records it as
`Connected` with the manifest `connectManifest` wrote, in both structures. -/
theorem handleConnect_eq_ok {file : Utf8PathBuf}
    (h : handleConnect m disk now faults id fileType = (disk', .ok (m', file))) :
    (m.ongoing id).any (·.state.isConnected) = false ∧
    ∃ mf, connectManifest disk m.recordingsPath now faults id fileType = (disk', .ok (mf, file)) ∧
      m' = { m with
        activeRecordings := ⟨insert id m.activeRecordings.ids⟩
        ongoingRecordings := m.ongoingRecordings.insert id
          ⟨.connected, mf, manifestPath m.recordingsPath id⟩ } := by
  unfold handleConnect at h
  split at h
  · cases h
  · rename_i hc
    refine ⟨by simpa using hc, ?_⟩
    split at h
    · cases h
    · rename_i d r mf f hcm
      simp only [Prod.mk.injEq, Except.ok.injEq] at h
      obtain ⟨rfl, rfl, rfl⟩ := h
      exact ⟨mf, hcm, rfl⟩

/-- A failed `handle_connect` leaves the task as it was; the disk is the one the failed
`connectManifest` left, or untouched when the session was refused. -/
theorem handleConnect_eq_error {e : String}
    (h : handleConnect m disk now faults id fileType = (disk', .error e)) :
    disk' = disk ∨ ∃ e', connectManifest disk m.recordingsPath now faults id fileType = (disk', .error e') := by
  unfold handleConnect at h
  split at h
  · cases h; exact .inl rfl
  · split at h
    · rename_i hcm
      cases h
      exact .inr ⟨_, hcm⟩
    · cases h

/-- `handle_disconnect` of a session that is not `Connected` changes nothing. -/
theorem handleDisconnect_of_not_connected (m : RecordingManagerTask) (disk : Disk) (now : Int)
    (writeFails : Bool) {id : Uuid} (h : (m.ongoing id).any (·.state.isConnected) = false) :
    ∃ e, handleDisconnect m disk now writeFails id = (m, disk, .error e) := by
  unfold handleDisconnect
  split
  · exact ⟨_, rfl⟩
  · rename_i o ho
    simp only [ho, Option.any_some] at h
    simp [h]

/-- **`handle_disconnect` of a `Connected` session** makes it `LastSeen { timestamp: now }`
with the durations up to `now`, and either writes that manifest to the recording's
manifest path and succeeds, or leaves the disk as it was and fails. -/
theorem handleDisconnect_of_connected (disk : Disk) (now : Int) (writeFails : Bool)
    {o : OnGoingRecording} (ho : m.ongoing id = some o) (hc : o.state = .connected) :
    (handleDisconnect m disk now writeFails id).1 = m.setOngoing id
      { o with state := .lastSeen now, manifest := (o.manifest.closeCurrentFile now).getD o.manifest } ∧
    (((handleDisconnect m disk now writeFails id).2.1 = disk ∧
        ∃ e, (handleDisconnect m disk now writeFails id).2.2 = .error e) ∨
      ∃ mf, o.manifest.closeCurrentFile now = some mf ∧
        mf.saveToFile disk o.manifestPath writeFails = some (handleDisconnect m disk now writeFails id).2.1 ∧
        (handleDisconnect m disk now writeFails id).2.2 = .ok ()) := by
  unfold handleDisconnect
  simp only [ho, hc, OnGoingRecordingState.isConnected, Bool.not_true, Bool.false_eq_true,
    ↓reduceIte]
  split
  · rename_i hcl
    simp [hcl]
  · rename_i mf hcl
    simp only [hcl, Option.getD_some]
    split
    · simp
    · rename_i d hd
      simp [hd]

/-- **What `handle_disconnect` does to `ongoing_recordings`**: only the entry of `id`
changes, and only when it is `Connected`. -/
theorem handleDisconnect_ongoing (m : RecordingManagerTask) (disk : Disk) (now : Int)
    (writeFails : Bool) (id j : Uuid) :
    (handleDisconnect m disk now writeFails id).1.ongoing j =
      if j = id then (m.ongoing id).map fun o =>
        if o.state = .connected then
          { o with state := .lastSeen now, manifest := (o.manifest.closeCurrentFile now).getD o.manifest }
        else o
      else m.ongoing j := by
  cases ho : m.ongoing id with
  | none =>
    obtain ⟨e, he⟩ := handleDisconnect_of_not_connected m disk now writeFails
      (by simp [ho] : (m.ongoing id).any (·.state.isConnected) = false)
    rw [he]
    split <;> simp_all
  | some o =>
    by_cases hc : o.state = .connected
    · rw [(handleDisconnect_of_connected disk now writeFails ho hc).1, RecordingManagerTask.ongoing_setOngoing]
      simp [hc]
    · obtain ⟨e, he⟩ := handleDisconnect_of_not_connected m disk now writeFails
        (by simp [ho, hc] : (m.ongoing id).any (·.state.isConnected) = false)
      rw [he]
      split <;> simp_all

/-- **What `handle_disconnect` does to the disk**: nothing, and it fails; or it writes the
manifest of a `Connected` session, with its current file closed, to the session's manifest
path, and succeeds. -/
theorem handleDisconnect_disk_cases (m : RecordingManagerTask) (disk : Disk) (now : Int)
    (writeFails : Bool) (id : Uuid) :
    ((handleDisconnect m disk now writeFails id).2.1 = disk ∧
        ∃ e, (handleDisconnect m disk now writeFails id).2.2 = .error e) ∨
      ∃ o mf, m.ongoing id = some o ∧ o.state = .connected ∧ o.manifest.closeCurrentFile now = some mf ∧
        mf.saveToFile disk o.manifestPath writeFails = some (handleDisconnect m disk now writeFails id).2.1 ∧
        (handleDisconnect m disk now writeFails id).2.2 = .ok () := by
  cases ho : m.ongoing id with
  | none =>
    obtain ⟨e, he⟩ := handleDisconnect_of_not_connected m disk now writeFails
      (by simp [ho] : (m.ongoing id).any (·.state.isConnected) = false)
    exact .inl ⟨by rw [he], e, by rw [he]⟩
  | some o =>
    by_cases hc : o.state = .connected
    · rcases (handleDisconnect_of_connected disk now writeFails ho hc).2 with h | ⟨mf, hmf, hsave, hok⟩
      · exact .inl h
      · exact .inr ⟨o, mf, rfl, hc, hmf, hsave, hok⟩
    · obtain ⟨e, he⟩ := handleDisconnect_of_not_connected m disk now writeFails
        (by simp [ho, hc] : (m.ongoing id).any (·.state.isConnected) = false)
      exact .inl ⟨by rw [he], e, by rw [he]⟩

/-- `handle_remove` drops a session exactly when it is `LastSeen` for long enough, and
changes nothing otherwise. -/
theorem handleRemove_cases (m : RecordingManagerTask) (now : Int) (id : Uuid) :
    (handleRemove m now id = m ∧ ∀ ts, (m.ongoing id).map (·.state) = some (.lastSeen ts) →
        now < ts + disconnectedTtlSecs - 1) ∨
      ∃ ts, (m.ongoing id).map (·.state) = some (.lastSeen ts) ∧
        ts + disconnectedTtlSecs - 1 ≤ now ∧
        handleRemove m now id = { m with
          activeRecordings := m.activeRecordings.remove id
          ongoingRecordings := m.ongoingRecordings.erase id } := by
  unfold handleRemove
  split
  · rename_i ts mf p ho
    split
    · exact .inr ⟨ts, by simp [ho], by omega, rfl⟩
    · exact .inl ⟨rfl, by simp [ho]; omega⟩
  · rename_i hno
    refine .inl ⟨rfl, fun ts hts => ?_⟩
    obtain ⟨⟨st, mf, p⟩, ho, rfl⟩ := Option.map_eq_some'.mp hts
    exact absurd ho (hno ts mf p)

/-- A recording `LastSeen` at least `DISCONNECTED_TTL_SECS - 1` seconds ago is evicted. -/
theorem handleRemove_evicts {m : RecordingManagerTask} {now ts : Int} {id : Uuid}
    (hts : (m.ongoing id).map (·.state) = some (.lastSeen ts))
    (hle : ts + disconnectedTtlSecs - 1 ≤ now) : (handleRemove m now id).ongoing id = none := by
  rcases handleRemove_cases m now id with ⟨-, hlt⟩ | ⟨ts', -, -, h⟩
  · exact absurd (hlt ts hts) (not_lt.mpr hle)
  · rw [h]
    exact Finmap.lookup_erase _ _

theorem handleRemove_ongoing_of_ne (m : RecordingManagerTask) (now : Int) {id j : Uuid}
    (hj : j ≠ id) : (handleRemove m now id).ongoing j = m.ongoing j := by
  rcases handleRemove_cases m now id with ⟨h, -⟩ | ⟨ts, -, -, h⟩
  · rw [h]
  · rw [h]
    exact Finmap.lookup_erase_ne hj

end Spec

end DevolutionsGateway
