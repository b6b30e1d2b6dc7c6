import DevolutionsGateway.SessionMachine

/-!
# Manifests on disk only grow

`recording.json` indexes the payload files of a session. `handle_connect` appends the entry of
the file it hands out, `recording-{n}.{ext}` with `n` the number of entries already there, or
creates the directory and a manifest whose only entry has index 0. `handle_disconnect` writes
the in-memory copy back, with the durations of the current file and of the manifest brought
up to date. Nothing else writes a manifest.

Writing the in-memory copy back is safe only because it is the copy on disk:
`RecordingManagerTask.ManifestSynced` says that the manifest a `Connected` recording holds in
`ongoing_recordings` is the one stored at its manifest path, and every step keeps this
(`manifestSynced_step`), failed writes and reconnects included. So a write by
`handle_disconnect` changes at most the last entry's duration and the manifest's
(`JrecManifest.ClosedFrom`).

Every session's stored manifest therefore moves along `ManifestStep`: kept, created with one
entry, appended one entry, or closed (`manifestStep_of_step`). Its number of entries never
decreases and the index handed out is that number, so no two replies of a run name the same
payload file, and none names a file the manifests listed before the run.

## Main results

* `manifestSynced_run`: the in-memory manifest of a `Connected` recording is the stored one.
* `step_connect_path`: what a successful `Connect` hands out and stores.
* `manifestStep_of_step`: every step moves every session's manifest along `ManifestStep`.
* `manifests_append_only`: appends, closes, dense indices and distinct payload files, over
  every run.
-/

namespace DevolutionsGateway

open ManagerState

/-! ### Closing the current file -/

/-- `m'` is `m` with at most the duration of its last entry and its own duration changed: the
session, the start time, and the name and start time of every entry are kept, and no entry is
removed, reordered or added. -/
structure JrecManifest.ClosedFrom (m m' : JrecManifest) : Prop where
  sessionId : m'.sessionId = m.sessionId
  startTime : m'.startTime = m.startTime
  entries : m'.files.map (fun f => (f.fileName, f.startTime)) =
    m.files.map (fun f => (f.fileName, f.startTime))
  dropLast : m'.files.dropLast = m.files.dropLast

theorem JrecManifest.closeCurrentFile_eq_some {m m' : JrecManifest} {now : Int}
    (h : m.closeCurrentFile now = some m') :
    ∃ current, m.files = m.files.dropLast ++ [current] ∧
      m' = { m with
        files := m.files.dropLast ++ [{ current with duration := now - current.startTime }]
        duration := now - m.startTime } := by
  unfold closeCurrentFile at h
  split at h
  · cases h
  · rename_i current hc
    cases h
    exact ⟨current, (List.dropLast_append_getLast? current hc).symm, rfl⟩

theorem JrecManifest.closedFrom_of_closeCurrentFile {m m' : JrecManifest} {now : Int}
    (h : m.closeCurrentFile now = some m') : m.ClosedFrom m' := by
  obtain ⟨current, hm, rfl⟩ := closeCurrentFile_eq_some h
  refine ⟨rfl, rfl, ?_, List.dropLast_concat⟩
  conv_rhs => rw [hm]
  simp

theorem JrecManifest.ClosedFrom.length_eq {m m' : JrecManifest} (h : m.ClosedFrom m') :
    m'.files.length = m.files.length := by
  simpa using congrArg List.length h.entries

/-- Entry `i` of a closed manifest has the name and start time entry `i` had. -/
theorem JrecManifest.ClosedFrom.getElem? {m m' : JrecManifest} (h : m.ClosedFrom m') {i : Nat}
    {f : JrecFile} (hf : m'.files[i]? = some f) :
    ∃ f₀, m.files[i]? = some f₀ ∧ f₀.fileName = f.fileName ∧ f₀.startTime = f.startTime := by
  have := congrArg (·[i]?) h.entries
  simp only [List.getElem?_map, hf, Option.map_some'] at this
  obtain ⟨f₀, hf₀, he⟩ := Option.map_eq_some'.mp this.symm
  simp only [Prod.mk.injEq] at he
  exact ⟨f₀, hf₀, he⟩

/-! ### The stored manifests -/

namespace ManagerState

/-- The manifest stored for session `id`, if its `recording.json` holds one. -/
def persistedManifest (s : ManagerState) (id : Uuid) : Option JrecManifest :=
  s.disk.read (manifestPath s.manager.recordingsPath id)

/-- The number of entries of the manifest stored for `id`; none when there is no manifest. -/
def fileCount (s : ManagerState) (id : Uuid) : Nat :=
  ((s.persistedManifest id).map (·.files.length)).getD 0

end ManagerState

/-- The manifest a `Connected` recording holds in `ongoing_recordings` is the one stored at its
manifest path, which is the session's. -/
def RecordingManagerTask.ManifestSynced (m : RecordingManagerTask) (disk : Disk) : Prop :=
  ∀ id o, m.ongoing id = some o → o.state = .connected →
    o.manifestPath = manifestPath m.recordingsPath id ∧
      disk.read (manifestPath m.recordingsPath id) = some o.manifest

section Frame

variable {disk disk' : Disk} {root : Utf8PathBuf} {now : Int} {faults : FsFaults} {id j : Uuid}
  {fileType : RecordingFileType}

/-- `handle_connect`'s file system steps touch no other session's manifest. -/
theorem connectManifest_read_of_ne {r : Except String (JrecManifest × Utf8PathBuf)}
    (h : connectManifest disk root now faults id fileType = (disk', r)) (hj : j ≠ id) :
    disk'.read (manifestPath root j) = disk.read (manifestPath root j) := by
  apply Disk.read_congr
  have hrec := (recordingPath_ne_manifestPath root id j).symm
  rcases r with e | ⟨mf, file⟩
  · exact connectManifest_eq_error h _ hrec
  · exact (connectManifest_eq_ok h).2.1 _ hrec (fun he => hj (manifestPath_injective he))

/-- A failed `handle_connect` leaves every manifest as it was. -/
theorem handleConnect_read_of_error {m : RecordingManagerTask} {e : String}
    (h : handleConnect m disk now faults id fileType = (disk', .error e)) (j : Uuid) :
    disk'.read (manifestPath m.recordingsPath j) = disk.read (manifestPath m.recordingsPath j) := by
  rcases handleConnect_eq_error h with rfl | ⟨e', hcm⟩
  · rfl
  · exact Disk.read_congr (connectManifest_eq_error hcm _
      (recordingPath_ne_manifestPath _ id j).symm)

end Frame

namespace RecordingManagerTask.ManifestSynced

variable {m m' : RecordingManagerTask} {disk disk' : Disk} {now : Int} {faults : FsFaults}
  {id : Uuid} {fileType : RecordingFileType}

/-- Dropping recordings keeps the manifests in sync. -/
theorem of_sub (h : m.ManifestSynced disk) (hp : m'.recordingsPath = m.recordingsPath)
    (hsub : ∀ j o, m'.ongoing j = some o → m.ongoing j = some o) : m'.ManifestSynced disk :=
  fun j o ho hc => hp ▸ h j o (hsub j o ho) hc

theorem erase (h : m.ManifestSynced disk) (id : Uuid) :
    ({ m with ongoingRecordings := m.ongoingRecordings.erase id } : RecordingManagerTask).ManifestSynced
      disk :=
  h.of_sub rfl fun j o ho => by
    simp only [RecordingManagerTask.ongoing_mk, Finmap.lookup_erase_ite] at ho
    split at ho
    · cases ho
    · exact ho

theorem handleRemove (h : m.ManifestSynced disk) (now : Int) (id : Uuid) :
    (DevolutionsGateway.handleRemove m now id).ManifestSynced disk := by
  rcases handleRemove_cases m now id with ⟨hr, -⟩ | ⟨ts, -, -, hr⟩ <;> rw [hr]
  · exact h
  · exact h.erase id

theorem handleConnect_ok {file : Utf8PathBuf} (h : m.ManifestSynced disk)
    (hc : DevolutionsGateway.handleConnect m disk now faults id fileType = (disk', .ok (m', file))) :
    m'.ManifestSynced disk' := by
  obtain ⟨-, mf, hcm, rfl⟩ := handleConnect_eq_ok hc
  intro j o ho hst
  by_cases hj : j = id
  · subst hj
    simp only [RecordingManagerTask.ongoing_mk, Finmap.lookup_insert, Option.some.injEq] at ho
    subst ho
    exact ⟨rfl, (connectManifest_eq_ok hcm).1⟩
  · rw [RecordingManagerTask.ongoing_mk, Finmap.lookup_insert_of_ne _ hj] at ho
    obtain ⟨hp, hr⟩ := h j o ho hst
    exact ⟨hp, (connectManifest_read_of_ne hcm hj).trans hr⟩

theorem handleConnect_error {e : String} (h : m.ManifestSynced disk)
    (hc : DevolutionsGateway.handleConnect m disk now faults id fileType = (disk', .error e)) :
    m.ManifestSynced disk' :=
  fun j o ho hst => ⟨(h j o ho hst).1, (handleConnect_read_of_error hc j).trans (h j o ho hst).2⟩

/-- **What `handle_disconnect` does to a manifest**: the one of the session it handles may be
replaced by itself with the current file closed; every other is kept. -/
theorem read_handleDisconnect (h : m.ManifestSynced disk) (now : Int) (writeFails : Bool)
    (id j : Uuid) :
    (DevolutionsGateway.handleDisconnect m disk now writeFails id).2.1.read
        (manifestPath m.recordingsPath j) = disk.read (manifestPath m.recordingsPath j) ∨
      ∃ mf mf', disk.read (manifestPath m.recordingsPath j) = some mf ∧
        mf.closeCurrentFile now = some mf' ∧
        (DevolutionsGateway.handleDisconnect m disk now writeFails id).2.1.read
          (manifestPath m.recordingsPath j) = some mf' := by
  rcases handleDisconnect_disk_cases m disk now writeFails id with ⟨hd, -⟩ | ⟨o, mf, ho, hc, hmf, hsave, -⟩
  · exact .inl (by rw [hd])
  · obtain ⟨hp, hr⟩ := h id o ho hc
    rw [JrecManifest.saveToFile, hp] at hsave
    by_cases hj : j = id
    · subst hj
      exact .inr ⟨o.manifest, mf, hr, hmf, Disk.read_write_self hsave⟩
    · exact .inl (Disk.read_congr (Disk.entry_write_of_ne hsave
        fun he => hj (manifestPath_injective he)))

theorem handleDisconnect (h : m.ManifestSynced disk) (now : Int) (writeFails : Bool) (id : Uuid) :
    (DevolutionsGateway.handleDisconnect m disk now writeFails id).1.ManifestSynced
      (DevolutionsGateway.handleDisconnect m disk now writeFails id).2.1 := by
  intro j o ho hst
  rw [handleDisconnect_recordingsPath]
  have hj : j ≠ id := by
    rintro rfl
    rw [handleDisconnect_ongoing, if_pos rfl] at ho
    obtain ⟨o₀, -, rfl⟩ := Option.map_eq_some'.mp ho
    split at hst
    · simp at hst
    · contradiction
  rw [handleDisconnect_ongoing, if_neg hj] at ho
  obtain ⟨hp, hr⟩ := h j o ho hst
  refine ⟨hp, ?_⟩
  rcases h.read_handleDisconnect now writeFails id j with he | ⟨mf, mf', hmf, -, -⟩
  · exact he.trans hr
  · -- the session written is `Connected`, so it is `j` only if `j` is the session handled
    rcases handleDisconnect_disk_cases m disk now writeFails id with ⟨hd, -⟩ |
      ⟨o', mf₁, ho', hc', -, hsave, -⟩
    · rw [hd]; exact hr
    · rw [JrecManifest.saveToFile, (h id o' ho' hc').1] at hsave
      exact (Disk.read_congr (Disk.entry_write_of_ne hsave
        fun he => hj (manifestPath_injective he))).trans hr

end RecordingManagerTask.ManifestSynced

/-- **Every step keeps the manifests in sync.** -/
theorem manifestSynced_step {s : ManagerState} (h : s.manager.ManifestSynced s.disk)
    (e : ManagerEvent) : (step s e).1.manager.ManifestSynced (step s e).1.disk := by
  rcases step_task_cases s e with ⟨hm, hd⟩ | ⟨id, fileType, channel, faults, -, -,
      ⟨file, hc, -⟩ | ⟨err, hc, hm, -⟩⟩ | ⟨id, faults, -, -, hm, hd⟩ |
    ⟨id, faults, -, -, hm, hd⟩ | ⟨g, -, -, -, -, hm, hd⟩
  · rw [hm, hd]; exact h
  · exact h.handleConnect_ok hc
  · rw [hm]; exact h.handleConnect_error hc
  · rw [hm, hd]; exact h.handleDisconnect _ _ _
  · rw [hm, hd]; exact (h.handleDisconnect _ _ _).erase id
  · rw [hm, hd]; exact h.handleRemove _ _

theorem manifestSynced_init (root : Utf8PathBuf) (disk : Disk) (clock : Clock) :
    (ManagerState.init root disk clock).manager.ManifestSynced disk := fun _ _ ho => by
  simp [ManagerState.init, RecordingManagerTask.new, RecordingManagerTask.ongoing] at ho

theorem manifestSynced_run (root : Utf8PathBuf) (disk : Disk) (clock : Clock)
    (evs : List ManagerEvent) :
    (run (ManagerState.init root disk clock) evs).1.manager.ManifestSynced
      (run (ManagerState.init root disk clock) evs).1.disk :=
  run_induction (fun s => s.manager.ManifestSynced s.disk) (fun _ => True)
    (fun _ e _ h => manifestSynced_step h e) evs _ (fun _ _ => trivial)
    (manifestSynced_init root disk clock)

/-! ### One step on one manifest -/

/-- What one step may do to the manifest stored for session `id`, at wall-clock time `now`. -/
inductive ManifestStep (id : Uuid) (now : Int) : Option JrecManifest → Option JrecManifest → Prop
  /-- It is left as it was. -/
  | keep {o} : ManifestStep id now o o
  /-- `handle_connect` creates it, with the entry of index 0. -/
  | create (fileType : RecordingFileType) :
      ManifestStep id now none (some ⟨id, now, 0, [newRecordingFile 0 fileType now]⟩)
  /-- `handle_connect` appends the entry of the next index. -/
  | append (fileType : RecordingFileType) (m : JrecManifest) :
      ManifestStep id now (some m)
        (some { m with files := m.files ++ [newRecordingFile m.files.length fileType now] })
  /-- `handle_disconnect` writes it back with its current file closed. -/
  | close {m m' : JrecManifest} :
      m.closeCurrentFile now = some m' → ManifestStep id now (some m) (some m')

/-- **A `Connect` answered with a path** hands out the file whose index is the number of
entries of the session's manifest, and stores that manifest with the file's entry appended,
or, when there is none, a new manifest with the entry of index 0. -/
theorem step_connect_path {s : ManagerState} {id : Uuid} {fileType : RecordingFileType}
    {channel : Nat} {faults : FsFaults} {file : Utf8PathBuf}
    (h : (step s (.recv (.connect id fileType channel) faults)).2 = some (.path channel file)) :
    (s.persistedManifest id = none ∧ file = recordingFile s.manager.recordingsPath id 0 fileType ∧
        (step s (.recv (.connect id fileType channel) faults)).1.persistedManifest id =
          some ⟨id, s.clock.unix, 0, [newRecordingFile 0 fileType s.clock.unix]⟩) ∨
      ∃ m, s.persistedManifest id = some m ∧
        file = recordingFile s.manager.recordingsPath id m.files.length fileType ∧
        (step s (.recv (.connect id fileType channel) faults)).1.persistedManifest id =
          some { m with files := m.files ++ [newRecordingFile m.files.length fileType s.clock.unix] } := by
  have hrun : s.phase = .running := by
    cases hp : s.phase <;> simp [step, hp, drainRecv] at h ⊢
  simp only [persistedManifest, step, hrun, runningRecv] at h ⊢
  rcases onConnect_cases s id fileType channel faults with ⟨hd, -⟩ | ⟨file', mf, hr, -, hcm, hm⟩
  · rw [hd] at h; cases h
  · rw [hr] at h
    cases h
    rw [hm]
    obtain ⟨hread, -, ⟨old, hold, rfl, rfl⟩ | ⟨habs, rfl, rfl⟩⟩ := connectManifest_eq_ok hcm
    · exact .inr ⟨old, hold, rfl, hread⟩
    · exact .inl ⟨Disk.read_manifestPath_eq_none habs, rfl, hread⟩

/-- **Every other step closes the manifest or keeps it**: unless the step is a `Connect` of the
session answered with a path, the manifest stored for it is kept, or replaced by itself with
the current file closed. -/
theorem persistedManifest_step_of_not_connect {s : ManagerState}
    (h : s.manager.ManifestSynced s.disk) {e : ManagerEvent} {id : Uuid}
    (hno : ∀ fileType channel faults file, e = .recv (.connect id fileType channel) faults →
      (step s e).2 ≠ some (.path channel file)) :
    (step s e).1.persistedManifest id = s.persistedManifest id ∨
      ∃ m m', s.persistedManifest id = some m ∧ m.closeCurrentFile s.clock.unix = some m' ∧
        (step s e).1.persistedManifest id = some m' := by
  simp only [persistedManifest, step_recordingsPath]
  rcases step_task_cases s e with ⟨-, hd⟩ | ⟨id', fileType, channel, faults, rfl, -,
      ⟨file, hc, hr⟩ | ⟨err, hc, -, -⟩⟩ | ⟨id', faults, -, -, -, hd⟩ |
    ⟨id', faults, -, -, -, hd⟩ | ⟨g, -, -, -, -, -, hd⟩
  · exact .inl (by rw [hd])
  · by_cases hid : id' = id
    · subst hid
      exact absurd hr (hno _ _ _ _ rfl)
    · obtain ⟨-, mf, hcm, -⟩ := handleConnect_eq_ok hc
      exact .inl (connectManifest_read_of_ne hcm (Ne.symm hid))
  · exact .inl (handleConnect_read_of_error hc id)
  · rw [hd]; exact h.read_handleDisconnect _ _ _ _
  · rw [hd]; exact h.read_handleDisconnect _ _ _ _
  · exact .inl (by rw [hd])

/-- **Every step moves every session's manifest along `ManifestStep`.** -/
theorem manifestStep_of_step {s : ManagerState} (h : s.manager.ManifestSynced s.disk)
    (e : ManagerEvent) (id : Uuid) :
    ManifestStep id s.clock.unix (s.persistedManifest id) ((step s e).1.persistedManifest id) := by
  by_cases hc : ∃ fileType channel faults file, e = .recv (.connect id fileType channel) faults ∧
      (step s e).2 = some (.path channel file)
  · obtain ⟨fileType, channel, faults, file, rfl, hr⟩ := hc
    rcases step_connect_path hr with ⟨h0, -, h1⟩ | ⟨m, h0, -, h1⟩ <;> rw [h0, h1]
    exacts [.create fileType, .append fileType m]
  · push_neg at hc
    rcases persistedManifest_step_of_not_connect h (fun ft ch f p he => hc ft ch f p he) with
      he | ⟨m, m', h0, hcl, h1⟩
    · rw [he]; exact .keep
    · rw [h0, h1]; exact .close hcl

/-- The number of entries never decreases. -/
theorem ManifestStep.count_le {id : Uuid} {now : Int} {o o' : Option JrecManifest}
    (h : ManifestStep id now o o') :
    (o.map (·.files.length)).getD 0 ≤ (o'.map (·.files.length)).getD 0 := by
  cases h with
  | keep => exact le_rfl
  | create => simp
  | append => simp
  | close hcl => simp [(JrecManifest.closedFrom_of_closeCurrentFile hcl).length_eq]

/-! ### Dense indices -/

/-- A manifest of session `id` as the layout has it: it names the session, and its entry of
index `i` names the payload file `recording-{i}.{ext}`. -/
def JrecManifest.WellFormed (id : Uuid) (m : JrecManifest) : Prop :=
  m.sessionId = id ∧
    ∀ i f, m.files[i]? = some f → ∃ fileType : RecordingFileType, f.fileName = recordingFileName i fileType

/-- Every manifest under `root` is well formed for its session. -/
def ManifestsWellFormed (root : Utf8PathBuf) (disk : Disk) : Prop :=
  ∀ id m, disk.read (manifestPath root id) = some m → m.WellFormed id

/-- **Every step keeps a manifest well formed.** -/
theorem ManifestStep.wellFormed {id : Uuid} {now : Int} {o o' : Option JrecManifest}
    (h : ManifestStep id now o o') (hwf : ∀ m, o = some m → m.WellFormed id) :
    ∀ m', o' = some m' → m'.WellFormed id := by
  cases h with
  | keep => exact hwf
  | create fileType =>
    rintro _ ⟨⟩
    refine ⟨rfl, fun i f hf => ⟨fileType, ?_⟩⟩
    cases i with
    | zero => cases hf; rfl
    | succ i => simp at hf
  | append fileType m =>
    rintro _ ⟨⟩
    obtain ⟨hid, hfiles⟩ := hwf m rfl
    refine ⟨hid, fun i f hf => ?_⟩
    by_cases hi : i < m.files.length
    · rw [List.getElem?_append_left hi] at hf
      exact hfiles i f hf
    · rw [List.getElem?_append_right (not_lt.mp hi)] at hf
      have hi' : i - m.files.length = 0 := by
        by_contra hne; simp [List.getElem?_eq_none (by simp; omega : [newRecordingFile m.files.length fileType now].length ≤ i - m.files.length)] at hf
      obtain rfl : i = m.files.length := by omega
      simp only [hi', List.getElem?_cons_zero, Option.some.injEq] at hf
      exact ⟨fileType, hf ▸ rfl⟩
  | close hcl =>
    rintro _ ⟨⟩
    have hc := JrecManifest.closedFrom_of_closeCurrentFile hcl
    obtain ⟨hid, hfiles⟩ := hwf _ rfl
    refine ⟨hc.sessionId.trans hid, fun i f hf => ?_⟩
    obtain ⟨f₀, hf₀, hname, -⟩ := hc.getElem? hf
    obtain ⟨fileType, hft⟩ := hfiles i f₀ hf₀
    exact ⟨fileType, hname ▸ hft⟩

theorem manifestsWellFormed_step {s : ManagerState} (h : s.manager.ManifestSynced s.disk)
    (hwf : ManifestsWellFormed s.manager.recordingsPath s.disk) (e : ManagerEvent) :
    ManifestsWellFormed (step s e).1.manager.recordingsPath (step s e).1.disk := fun id =>
  (manifestStep_of_step h e id).wellFormed (hwf id)

/-! ### Distinct payload files -/

/-- The path a reply carries, if it is a `Connect`'s path. -/
def Reply.sentPath : Reply → Option Utf8PathBuf
  | .path _ p => some p
  | _ => none

/-- **The paths a run hands out are distinct**, and each is a payload file of an index no
smaller than its session's number of entries at the start of the run. -/
theorem sentPaths_run : ∀ (evs : List ManagerEvent) (s : ManagerState),
    s.manager.ManifestSynced s.disk →
    ((run s evs).2.filterMap Reply.sentPath).Nodup ∧
      ∀ p ∈ (run s evs).2.filterMap Reply.sentPath, ∃ id k fileType,
        p = recordingFile s.manager.recordingsPath id k fileType ∧ s.fileCount id ≤ k
  | [], _, _ => by simp
  | e :: es, s, h => by
    obtain ⟨ihn, ihk⟩ := sentPaths_run es (step s e).1 (manifestSynced_step h e)
    rw [step_recordingsPath] at ihk
    have hrest : ∀ p ∈ (run (step s e).1 es).2.filterMap Reply.sentPath, ∃ id k fileType,
        p = recordingFile s.manager.recordingsPath id k fileType ∧ s.fileCount id ≤ k :=
      fun p hp => let ⟨id, k, ft, hp, hk⟩ := ihk p hp
        ⟨id, k, ft, hp, ((manifestStep_of_step h e id).count_le).trans hk⟩
    simp only [run_cons, List.filterMap_append]
    cases hr : (step s e).2 with
    | none =>
      simp only [Option.toList_none, List.filterMap_nil, List.nil_append]
      exact ⟨ihn, hrest⟩
    | some r =>
      cases r with
      | path channel p =>
        obtain ⟨id, fileType, faults, rfl⟩ := step_reply_path hr
        have hnext : s.fileCount id + 1 ≤
              (step s (.recv (.connect id fileType channel) faults)).1.fileCount id ∧
            p = recordingFile s.manager.recordingsPath id (s.fileCount id) fileType := by
          rcases step_connect_path hr with ⟨h0, hp, h1⟩ | ⟨m, h0, hp, h1⟩ <;>
            simp [fileCount, h0, h1, hp]
        simp only [Option.toList_some, List.filterMap_cons, Reply.sentPath, List.filterMap_nil,
          List.singleton_append, List.nodup_cons, List.mem_cons, forall_eq_or_imp]
        refine ⟨⟨fun hmem => ?_, ihn⟩, ⟨id, _, fileType, hnext.2, le_rfl⟩, hrest⟩
        obtain ⟨id', k, ft', heq, hk⟩ := ihk p hmem
        obtain ⟨rfl, rfl, -⟩ := recordingFile_injective (hnext.2.symm.trans heq)
        omega
      | _ =>
        simp only [Option.toList_some, List.filterMap_cons, Reply.sentPath, List.filterMap_nil,
          List.nil_append]
        exact ⟨ihn, hrest⟩

/-- **The manifests only grow, and no payload file is handed out twice.** Over every run
from a recordings root whose manifests are well formed: (a) a `Connect` answered with a path
hands out `recording-{n}.{ext}` with `n` the number of entries the session's manifest had just
before, and stores it with exactly that entry appended, or a new manifest when there was
none; (b) every other step keeps the manifest of every session, or rewrites it with only the
last entry's duration and the manifest's changed; the manifests stay well formed, file `i`
named `recording-{i}.{ext}`; and (c) the paths a run hands out are pairwise distinct, and
none is a file listed in a manifest before the run. -/
theorem manifests_append_only (root : Utf8PathBuf) (disk : Disk) (clock : Clock)
    (hwf : ManifestsWellFormed root disk) :
    (∀ evs e id, let s := (run (ManagerState.init root disk clock) evs).1
      (∀ fileType channel faults file, e = .recv (.connect id fileType channel) faults →
        (step s e).2 = some (.path channel file) →
        (s.disk.read (manifestPath root id) = none ∧ file = recordingFile root id 0 fileType ∧
            (step s e).1.disk.read (manifestPath root id) =
              some ⟨id, s.clock.unix, 0, [newRecordingFile 0 fileType s.clock.unix]⟩) ∨
          ∃ m, s.disk.read (manifestPath root id) = some m ∧
            file = recordingFile root id m.files.length fileType ∧
            (step s e).1.disk.read (manifestPath root id) =
              some { m with files := m.files ++ [newRecordingFile m.files.length fileType s.clock.unix] }) ∧
      ((∀ fileType channel faults file, e = .recv (.connect id fileType channel) faults →
          (step s e).2 ≠ some (.path channel file)) →
        (step s e).1.disk.read (manifestPath root id) = s.disk.read (manifestPath root id) ∨
          ∃ m m', s.disk.read (manifestPath root id) = some m ∧
            (step s e).1.disk.read (manifestPath root id) = some m' ∧ m.ClosedFrom m')) ∧
    (∀ evs, ManifestsWellFormed root (run (ManagerState.init root disk clock) evs).1.disk) ∧
    ∀ evs, let ps := (run (ManagerState.init root disk clock) evs).2.filterMap Reply.sentPath
      ps.Nodup ∧ ∀ p ∈ ps, ∀ id m, disk.read (manifestPath root id) = some m →
        ∀ f ∈ m.files, p ≠ (recordingPath root id).join f.fileName := by
  have hroot : ∀ evs, (run (ManagerState.init root disk clock) evs).1.manager.recordingsPath = root :=
    fun evs => run_recordingsPath _ evs
  refine ⟨fun evs e id => ⟨fun fileType channel faults file he hr => ?_, fun hno => ?_⟩,
    fun evs => ?_, fun evs => ?_⟩
  · subst he
    simpa [persistedManifest, step_recordingsPath, hroot] using step_connect_path hr
  · rcases persistedManifest_step_of_not_connect (manifestSynced_run root disk clock evs) hno with
      he | ⟨m, m', h0, hcl, h1⟩
    · left; simpa [persistedManifest, step_recordingsPath, hroot] using he
    · right
      refine ⟨m, m', ?_, ?_, JrecManifest.closedFrom_of_closeCurrentFile hcl⟩
      · simpa [persistedManifest, hroot] using h0
      · simpa [persistedManifest, step_recordingsPath, hroot] using h1
  · have := run_induction (fun s => s.manager.ManifestSynced s.disk ∧
        ManifestsWellFormed s.manager.recordingsPath s.disk) (fun _ => True)
      (fun _ e _ h => ⟨manifestSynced_step h.1 e, manifestsWellFormed_step h.1 h.2 e⟩) evs _
      (fun _ _ => trivial) ⟨manifestSynced_init root disk clock, hwf⟩
    obtain ⟨-, h2⟩ := this
    rwa [hroot evs] at h2
  · obtain ⟨hn, hk⟩ := sentPaths_run evs _ (manifestSynced_init root disk clock)
    refine ⟨hn, fun p hp id m hm f hf heq => ?_⟩
    obtain ⟨id', k, fileType, rfl, hcount⟩ := hk p hp
    obtain ⟨hpath, hname⟩ := Utf8PathBuf.join_inj heq
    obtain rfl := recordingPath_injective hpath
    obtain ⟨i, hi⟩ := List.mem_iff_getElem?.mp hf
    obtain ⟨ft', hft'⟩ := (hwf id' m hm).2 i f hi
    obtain ⟨rfl, -⟩ := recordingFileName_injective (hname.trans hft')
    have hlt : k < m.files.length := (List.getElem?_eq_some_iff.mp hi).1
    simp [fileCount, persistedManifest, ManagerState.init, RecordingManagerTask.new, hm] at hcount
    omega

/-- `manifests_append_only` from an empty recordings root. -/
theorem manifests_append_only_empty_root :
    let root : Utf8PathBuf := ⟨["recordings"]⟩
    let clock : Clock := ⟨0, 0⟩
    ManifestsWellFormed root Disk.empty ∧
    (∀ evs e id, let s := (run (ManagerState.init root Disk.empty clock) evs).1
      (∀ fileType channel faults file, e = .recv (.connect id fileType channel) faults →
        (step s e).2 = some (.path channel file) →
        (s.disk.read (manifestPath root id) = none ∧ file = recordingFile root id 0 fileType ∧
            (step s e).1.disk.read (manifestPath root id) =
              some ⟨id, s.clock.unix, 0, [newRecordingFile 0 fileType s.clock.unix]⟩) ∨
          ∃ m, s.disk.read (manifestPath root id) = some m ∧
            file = recordingFile root id m.files.length fileType ∧
            (step s e).1.disk.read (manifestPath root id) =
              some { m with files := m.files ++ [newRecordingFile m.files.length fileType s.clock.unix] }) ∧
      ((∀ fileType channel faults file, e = .recv (.connect id fileType channel) faults →
          (step s e).2 ≠ some (.path channel file)) →
        (step s e).1.disk.read (manifestPath root id) = s.disk.read (manifestPath root id) ∨
          ∃ m m', s.disk.read (manifestPath root id) = some m ∧
            (step s e).1.disk.read (manifestPath root id) = some m' ∧ m.ClosedFrom m')) ∧
    (∀ evs, ManifestsWellFormed root (run (ManagerState.init root Disk.empty clock) evs).1.disk) ∧
    ∀ evs, let ps := (run (ManagerState.init root Disk.empty clock) evs).2.filterMap Reply.sentPath
      ps.Nodup ∧ ∀ p ∈ ps, ∀ id m, Disk.empty.read (manifestPath root id) = some m →
        ∀ f ∈ m.files, p ≠ (recordingPath root id).join f.fileName :=
  have hwf : ManifestsWellFormed ⟨["recordings"]⟩ Disk.empty := fun _ _ h => by
    simp [Disk.read, Disk.empty] at h
  ⟨hwf, manifests_append_only _ _ _ hwf⟩

end DevolutionsGateway
