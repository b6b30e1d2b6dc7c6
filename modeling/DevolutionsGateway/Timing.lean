import DevolutionsGateway.Manifests

/-!
# The times in the manifests

`handle_connect` stamps a new entry with the wall-clock time it reads, and `handle_disconnect`
sets the current entry's duration and the manifest's from the time it reads. When the wall
clock does not go back, the times of every stored manifest are ordered: the manifest's start,
then the starts of its entries in order, then the present; and every entry has ended by the
present (`JrecManifest.Timed`). Every step keeps this, through `ManifestStep`: a new entry
starts now with duration 0, and closing the current file ends it now. So right after a
successful `handle_disconnect` the durations it wrote are consistent: the last entry's is not
negative, and the manifest's covers every entry.

The wall clock is `OffsetDateTime::now_utc()`, which an administrator may set back; the
statements here assume it does not (every `setWallClock` moves it forwards), and that the
manifests on disk at start were written under that clock.

## Main results

* `manifestsTimed_step`: every step that does not set the wall clock back keeps the times of
  every stored manifest ordered.
* `manifest_times_ordered`: over every such run, the stored manifests are ordered, and every
  successful `handle_disconnect` writes consistent durations.
-/

namespace DevolutionsGateway

open ManagerState

theorem sorted_append_singleton_iff {l : List Int} {n : Int} :
    List.Sorted (· ≤ ·) (l ++ [n]) ↔ List.Sorted (· ≤ ·) l ∧ ∀ t ∈ l, t ≤ n := by
  simp [List.Sorted, List.pairwise_append]

/-- The times of manifest `m` at wall-clock time `now`: its start and its entries' starts are
in order and not in the future, and every entry has ended by `now`. -/
structure JrecManifest.Timed (m : JrecManifest) (now : Int) : Prop where
  sorted : List.Sorted (· ≤ ·) (m.startTime :: m.files.map (·.startTime))
  le_now : ∀ t ∈ m.startTime :: m.files.map (·.startTime), t ≤ now
  ended : ∀ f ∈ m.files, f.startTime + f.duration ≤ now

namespace JrecManifest.Timed

variable {m : JrecManifest} {now : Int}

theorem mono (h : m.Timed now) {now' : Int} (hle : now ≤ now') : m.Timed now' :=
  ⟨h.sorted, fun t ht => (h.le_now t ht).trans hle, fun f hf => (h.ended f hf).trans hle⟩

theorem start_le (h : m.Timed now) {f : JrecFile} (hf : f ∈ m.files) : f.startTime ≤ now :=
  h.le_now _ (List.mem_cons_of_mem _ (List.mem_map_of_mem _ hf))

/-- An entry started now, of duration 0, keeps the times ordered. -/
theorem append (h : m.Timed now) {x : JrecFile} (hx : x.startTime = now) (hd : x.duration = 0) :
    ({ m with files := m.files ++ [x] } : JrecManifest).Timed now := by
  have hl : m.startTime :: (m.files ++ [x]).map (·.startTime) =
      (m.startTime :: m.files.map (·.startTime)) ++ [now] := by simp [hx]
  refine ⟨?_, ?_, ?_⟩
  · simp only [hl]
    exact sorted_append_singleton_iff.mpr ⟨h.sorted, h.le_now⟩
  · simp only [hl, List.mem_append, List.mem_singleton]
    rintro t (ht | rfl)
    exacts [h.le_now t ht, le_rfl]
  · simp only [List.mem_append, List.mem_singleton]
    rintro f (hf | rfl)
    exacts [h.ended f hf, by omega]

/-- Closing the current file now keeps the times ordered. -/
theorem closeCurrentFile (h : m.Timed now) {m' : JrecManifest}
    (hc : m.closeCurrentFile now = some m') : m'.Timed now := by
  obtain ⟨current, hm, rfl⟩ := JrecManifest.closeCurrentFile_eq_some hc
  have hst : (m.files.dropLast ++ [{ current with duration := now - current.startTime }]).map
      (fun f : JrecFile => f.startTime) = m.files.map (·.startTime) := by
    conv_rhs => rw [hm]
    simp
  refine ⟨by simpa only [hst] using h.sorted, by simpa only [hst] using h.le_now, ?_⟩
  simp only [List.mem_append, List.mem_singleton]
  rintro f (hf | rfl)
  · exact h.ended f (List.mem_of_mem_dropLast hf)
  · show current.startTime + (now - current.startTime) ≤ now
    omega

end JrecManifest.Timed

theorem JrecManifest.timed_initial (id : Uuid) (fileType : RecordingFileType) (now : Int) :
    (⟨id, now, 0, [newRecordingFile 0 fileType now]⟩ : JrecManifest).Timed now :=
  ⟨by simp [newRecordingFile], by simp [newRecordingFile], by simp [newRecordingFile]⟩

/-- **Every step keeps a manifest's times ordered.** -/
theorem ManifestStep.timed {id : Uuid} {now : Int} {o o' : Option JrecManifest}
    (h : ManifestStep id now o o') (ht : ∀ m, o = some m → m.Timed now) :
    ∀ m', o' = some m' → m'.Timed now := by
  cases h with
  | keep => exact ht
  | create fileType => rintro _ ⟨⟩; exact JrecManifest.timed_initial id fileType now
  | append fileType m => rintro _ ⟨⟩; exact (ht m rfl).append rfl rfl
  | close hcl => rintro _ ⟨⟩; exact (ht _ rfl).closeCurrentFile hcl

/-- The wall clock goes back only when it is set back. -/
theorem unix_le_step (s : ManagerState) {e : ManagerEvent}
    (he : ∀ delta, e = .setWallClock delta → 0 ≤ delta) : s.clock.unix ≤ (step s e).1.clock.unix := by
  rcases step_clock s e with h | ⟨secs, -, h⟩ | ⟨delta, rfl, h⟩ <;> rw [h]
  · simp
  · simpa using he delta rfl

namespace ManagerState

/-- The times of every stored manifest are ordered at the present wall-clock time. -/
def ManifestsTimed (s : ManagerState) : Prop :=
  ∀ id m, s.persistedManifest id = some m → m.Timed s.clock.unix

end ManagerState

theorem manifestsTimed_step {s : ManagerState} (hs : s.manager.ManifestSynced s.disk)
    (ht : s.ManifestsTimed) {e : ManagerEvent} (he : ∀ delta, e = .setWallClock delta → 0 ≤ delta) :
    (step s e).1.ManifestsTimed := fun id m' h' =>
  ((manifestStep_of_step hs e id).timed (ht id) m' h').mono (unix_le_step s he)

/-- **A successful `handle_disconnect` writes consistent durations**: the manifest it stores
ends with an entry of non-negative duration, and its own duration covers every entry. -/
theorem handleDisconnect_ok_durations {s : ManagerState} (hs : s.manager.ManifestSynced s.disk)
    (ht : s.ManifestsTimed) {writeFails : Bool} {id : Uuid}
    (h : (handleDisconnect s.manager s.disk s.clock.unix writeFails id).2.2 = .ok ()) :
    ∃ m last, (handleDisconnect s.manager s.disk s.clock.unix writeFails id).2.1.read
        (manifestPath s.manager.recordingsPath id) = some m ∧
      m.files.getLast? = some last ∧ 0 ≤ last.duration ∧
      ∀ f ∈ m.files, f.startTime + f.duration - m.startTime ≤ m.duration := by
  rcases handleDisconnect_disk_cases s.manager s.disk s.clock.unix writeFails id with
    ⟨-, e, he⟩ | ⟨o, mf, ho, hc, hmf, hsave, -⟩
  · rw [he] at h; cases h
  obtain ⟨hp, hr⟩ := hs id o ho hc
  rw [JrecManifest.saveToFile, hp] at hsave
  have htimed := ht id _ hr
  have hend := (htimed.closeCurrentFile hmf).ended
  obtain ⟨current, hm, rfl⟩ := JrecManifest.closeCurrentFile_eq_some hmf
  have hcur : current.startTime ≤ s.clock.unix :=
    htimed.start_le (by rw [hm]; exact List.mem_append_right _ (List.mem_singleton_self _))
  refine ⟨_, _, Disk.read_write_self hsave, List.getLast?_concat _, by simp; omega,
    fun f hf => ?_⟩
  have := hend f hf
  simp only
  omega

/-- **The times in the manifests are ordered.** Over every run in which the wall clock is never
set back, from a root whose manifests were written under that clock: every stored manifest
has its start, then its entries' starts in order, then the present; and every successful
`handle_disconnect` stores a manifest whose last entry has a non-negative duration and whose
duration covers every entry, `start_time + duration - manifest.start_time`. -/
theorem manifest_times_ordered (root : Utf8PathBuf) (disk : Disk) (clock : Clock)
    (evs : List ManagerEvent) (hclock : ∀ delta, ManagerEvent.setWallClock delta ∈ evs → 0 ≤ delta)
    (htimed : ∀ id m, disk.read (manifestPath root id) = some m → m.Timed clock.unix) :
    let s := (run (ManagerState.init root disk clock) evs).1
    (∀ id m, s.disk.read (manifestPath root id) = some m →
      List.Sorted (· ≤ ·) (m.startTime :: m.files.map (·.startTime) ++ [s.clock.unix])) ∧
    ∀ id writeFails, (handleDisconnect s.manager s.disk s.clock.unix writeFails id).2.2 = .ok () →
      ∃ m last, (handleDisconnect s.manager s.disk s.clock.unix writeFails id).2.1.read
          (manifestPath root id) = some m ∧
        m.files.getLast? = some last ∧ 0 ≤ last.duration ∧
        ∀ f ∈ m.files, f.startTime + f.duration - m.startTime ≤ m.duration := by
  intro s
  have hroot : s.manager.recordingsPath = root := run_recordingsPath _ evs
  have hinv : s.manager.ManifestSynced s.disk ∧ s.ManifestsTimed :=
    run_induction (fun s => s.manager.ManifestSynced s.disk ∧ s.ManifestsTimed)
      (fun e => ∀ delta, e = .setWallClock delta → 0 ≤ delta)
      (fun _ e he h => ⟨manifestSynced_step h.1 e, manifestsTimed_step h.1 h.2 he⟩) evs _
      (fun e he delta hd => hclock delta (hd ▸ he)) ⟨manifestSynced_init root disk clock, htimed⟩
  refine ⟨fun id m hm => ?_, fun id writeFails h => ?_⟩
  · have ht := hinv.2 id m (by rw [persistedManifest, hroot]; exact hm)
    exact sorted_append_singleton_iff.mpr ⟨ht.sorted, ht.le_now⟩
  · rw [← hroot]
    exact handleDisconnect_ok_durations hinv.1 hinv.2 h

/-- `manifest_times_ordered` on a run of a connect and a disconnect ten seconds later, from an
empty root. -/
theorem manifest_times_ordered_connect_disconnect :
    let id : Uuid := ⟨0, by decide⟩
    let evs : List ManagerEvent :=
      [.recv (.connect id ⟨"webm", by decide⟩ 0) .none, .elapse 10, .recv (.disconnect id) .none]
    (∀ delta, ManagerEvent.setWallClock delta ∈ evs → 0 ≤ delta) ∧
    (∀ id m, Disk.empty.read (manifestPath ⟨["recordings"]⟩ id) = some m → m.Timed 0) ∧
    let s := (run (ManagerState.init ⟨["recordings"]⟩ Disk.empty ⟨0, 0⟩) evs).1
    (∀ id m, s.disk.read (manifestPath ⟨["recordings"]⟩ id) = some m →
      List.Sorted (· ≤ ·) (m.startTime :: m.files.map (·.startTime) ++ [s.clock.unix])) ∧
    ∀ id writeFails, (handleDisconnect s.manager s.disk s.clock.unix writeFails id).2.2 = .ok () →
      ∃ m last, (handleDisconnect s.manager s.disk s.clock.unix writeFails id).2.1.read
          (manifestPath ⟨["recordings"]⟩ id) = some m ∧
        m.files.getLast? = some last ∧ 0 ≤ last.duration ∧
        ∀ f ∈ m.files, f.startTime + f.duration - m.startTime ≤ m.duration :=
  have hclock : ∀ delta, ManagerEvent.setWallClock delta ∈
      [.recv (.connect ⟨0, by decide⟩ ⟨"webm", by decide⟩ 0) .none, .elapse 10,
        .recv (.disconnect ⟨0, by decide⟩) .none] → 0 ≤ delta := by simp
  have htimed : ∀ id m, Disk.empty.read (manifestPath ⟨["recordings"]⟩ id) = some m →
      m.Timed 0 := fun _ _ h => by simp [Disk.read, Disk.empty] at h
  ⟨hclock, htimed, manifest_times_ordered _ _ _ _ hclock htimed⟩

end DevolutionsGateway
