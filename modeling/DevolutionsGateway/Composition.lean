import DevolutionsGateway.Completion
import DevolutionsGateway.Index
import DevolutionsGateway.Manifests

/-!
# The manager's guarantees across interleavings

The invariants of the index (Index) and of the manifests (Manifests) are stated over runs of
`recording_manager_task` alone. In `PushSystem` the task steps only when the channel delivers or
one of its own branches fires, and `PushSystem.manager_step_cases` says so once: a step of the
system is no step of the task, or one step of the task's own. The runs' replies, for their part,
change only when the task answers the `Connect` at the head of the channel, and then only for the
run that sent it (`PushSystem.reply_step`).

From these two inversion lemmas the manager's invariants carry over to every interleaving, where
they meet the protocol invariant `PushSystem.Inv`:

* `ActiveRecordings` keeps every ongoing recording (`PushSystem.indexCovers_manager_run`); since
  the session of every streaming run is `Connected`, `ActiveRecordings::contains` answers `true`
  for it.
* The task hands out each payload file at the index its session's manifest has reached, and the
  manifests only grow (`PushSystem.PathsInv`): no two runs are ever handed the same file, so no
  two concurrent `ClientPush::run`s truncate and write the same `recording-{n}.{ext}`.

## Main results

* `contains_of_live`: over every interleaving, the session of every run that holds its path and
  has not had its `Disconnect` handled is in `ActiveRecordings`.
* `recording_files_distinct`: over every interleaving, every run holding a path holds a new
  payload file of its own session and file type, and no two runs hold the same one.
-/

namespace DevolutionsGateway

open ManagerState

namespace PushSystem

variable {n : Nat} {pushes : Fin n → ClientPush} {σ : PushSystem n}

/-! ### The index over every interleaving -/

theorem indexCovers_manager_step (h : σ.manager.IndexCovers) (e : PushEvent n) :
    (σ.step pushes e).manager.IndexCovers := by
  rcases manager_step_cases σ e with hm | ⟨me, hm, -⟩ <;> rw [hm]
  exacts [h, DevolutionsGateway.indexCovers_step h me]

theorem indexCovers_manager_run (h : σ.manager.IndexCovers) (evs : List (PushEvent n)) :
    (σ.run pushes evs).manager.IndexCovers := by
  induction evs generalizing σ with
  | nil => exact h
  | cons e es ih => exact ih (indexCovers_manager_step h e)

end PushSystem

/-- **`ActiveRecordings::contains` answers `true` for the session of every run that is
recording**, over every interleaving: a run that holds its path and has not had its `Disconnect`
handled has its session in the set, after a shutdown too. -/
theorem contains_of_live (root : Utf8PathBuf) (disk : Disk) (clock : Clock) {n : Nat}
    (pushes : Fin n → ClientPush) (evs : List (PushEvent n)) (i : Fin n) :
    let σ := (PushSystem.init root disk clock : PushSystem n).run pushes evs
    σ.Live i → σ.manager.manager.activeRecordings.contains (pushes i).sessionId = true := by
  intro σ hl
  have hinv : σ.Inv pushes := PushSystem.inv_run (PushSystem.inv_init root disk clock) evs
  have hcov : σ.manager.IndexCovers :=
    @PushSystem.indexCovers_manager_run _ pushes (.init root disk clock)
      (indexCovers_init root disk clock) evs
  exact hcov.contains_of_sessionState ((hinv.connected _).mpr ⟨i, rfl, hl⟩)

theorem contains_of_live_while_recording :
    let a : Uuid := ⟨0, by decide⟩
    let webm : RecordingFileType := ⟨"webm", by decide⟩
    let σ := (PushSystem.init ⟨["recordings"]⟩ Disk.empty ⟨0, 0⟩ : PushSystem 1).run
      (fun _ => ⟨a, a, webm⟩) [.connect 0, .deliver .none, .receive 0]
    σ.Live 0 ∧ σ.manager.manager.activeRecordings.contains a = true :=
  have hl := ⟨⟨recordingFile ⟨["recordings"]⟩ ⟨0, by decide⟩ 0 ⟨"webm", by decide⟩, by decide⟩,
    by decide⟩
  ⟨hl, contains_of_live _ _ _ _ _ 0 hl⟩

namespace PushSystem

variable {n : Nat} {pushes : Fin n → ClientPush} {σ : PushSystem n}

/-! ### The payload files the runs are handed -/

/-- A run's change that keeps its reply keeps every run's reply. -/
theorem reply_setPusher (σ : PushSystem n) (i j : Fin n) (p : PusherState)
    (hp : p.reply = (σ.pushers i).reply) : ((σ.setPusher i p).pushers j).reply = (σ.pushers j).reply := by
  rw [pushers_setPusher]
  split_ifs with hj
  · rw [hj]; exact hp
  · rfl

/-- **What a step of the system does to the replies**: nothing, or the task answers the
`Connect` at the head of the channel, and the answer reaches the run that sent it. -/
theorem reply_step (h : σ.Inv pushes) (e : PushEvent n) (j : Fin n) :
    ((σ.step pushes e).pushers j).reply = (σ.pushers j).reply ∨
      ∃ faults rest, e = .deliver faults ∧ σ.queue = (j, connectMsg pushes j) :: rest ∧
        (σ.step pushes e).manager =
          (DevolutionsGateway.step σ.manager (.recv (connectMsg pushes j) faults)).1 ∧
        ((σ.step pushes e).pushers j).reply =
          (DevolutionsGateway.step σ.manager (.recv (connectMsg pushes j) faults)).2 := by
  cases e with
  | deliver faults =>
    simp only [step]
    split
    · exact .inl rfl
    · rename_i i msg rest hq
      split_ifs with hph
      · exact .inl rfl
      rcases (h.head hq).2 with ⟨-, -, rfl⟩ | ⟨-, -, rfl⟩
      · obtain ⟨r, hr, hch⟩ : ∃ r, (DevolutionsGateway.step σ.manager
            (.recv (connectMsg pushes i) faults)).2 = some r ∧ r.channel = i := by
          rcases connect_reply hph (pushes i).sessionId (pushes i).fileType i faults with hd | ⟨p, hp⟩
          exacts [⟨_, hd, rfl⟩, ⟨_, hp, rfl⟩]
        rw [connectMsg] at hr ⊢
        rw [deliverMsg_connect, hr, routeReply_of_channel _ hch]
        by_cases hj : j = i
        · subst hj
          exact .inr ⟨faults, rest, rfl, hq, rfl, by rw [pushers_setPusher, if_pos rfl]; exact hr.symm⟩
        · exact .inl (by rw [pushers_setPusher, if_neg hj])
      · rw [disconnectMsg, deliverMsg_disconnect]
        exact .inl (reply_setPusher _ _ j _ rfl)
  | receive i =>
    simp only [step]
    split_ifs
    · split
      all_goals first | exact .inl rfl | exact .inl (reply_setPusher _ _ j _ rfl)
    · exact .inl rfl
  | refuse i | connect i | disconnect i =>
    simp only [step]
    split_ifs
    · exact .inl (reply_setPusher _ _ j _ rfl)
    · exact .inl rfl
  | closed => simp only [step]; split_ifs <;> exact .inl rfl
  | _ => exact .inl rfl

/-- A step of the system keeps the manager's manifests in sync and its recordings root, and the
number of entries of every manifest never decreases. -/
theorem manifests_manager_step (hs : σ.manager.manager.ManifestSynced σ.manager.disk)
    (e : PushEvent n) :
    (σ.step pushes e).manager.manager.ManifestSynced (σ.step pushes e).manager.disk ∧
      (σ.step pushes e).manager.manager.recordingsPath = σ.manager.manager.recordingsPath ∧
      ∀ id, σ.manager.fileCount id ≤ (σ.step pushes e).manager.fileCount id := by
  rcases manager_step_cases σ e with hm | ⟨me, hm, -⟩ <;> rw [hm]
  · exact ⟨hs, rfl, fun _ => le_rfl⟩
  · exact ⟨manifestSynced_step hs me, step_recordingsPath _ _,
      fun id => (manifestStep_of_step hs me id).count_le⟩

/-- What the system keeps of the paths the runs hold, against the recordings root and `c₀`, the
number of entries of each session's manifest at start: every path held is a payload file of the
run's own session and file type, of an index from `c₀` up to the session's current number of
entries, and no two runs hold the same one. -/
structure PathsInv (pushes : Fin n → ClientPush) (root : Utf8PathBuf) (c₀ : Uuid → Nat)
    (σ : PushSystem n) : Prop where
  synced : σ.manager.manager.ManifestSynced σ.manager.disk
  rootPath : σ.manager.manager.recordingsPath = root
  count_ge : ∀ id, c₀ id ≤ σ.manager.fileCount id
  held : ∀ i p, (σ.pushers i).reply = some (.path i p) → ∃ k,
    p = recordingFile root (pushes i).sessionId k (pushes i).fileType ∧
      c₀ (pushes i).sessionId ≤ k ∧ k < σ.manager.fileCount (pushes i).sessionId
  distinct : ∀ i j p, (σ.pushers i).reply = some (.path i p) →
    (σ.pushers j).reply = some (.path j p) → i = j

variable {root : Utf8PathBuf} {c₀ : Uuid → Nat}

/-- A path a run holds after a step it did not hold before is the next payload file of its
session, and the step is the delivery of its `Connect`, which counts the new entry. -/
theorem PathsInv.new_path (h : σ.Inv pushes) (hp : σ.PathsInv pushes root c₀) {e : PushEvent n}
    {j : Fin n} {p : Utf8PathBuf} (hj : ((σ.step pushes e).pushers j).reply = some (.path j p)) :
    (σ.pushers j).reply = some (.path j p) ∨
      (p = recordingFile root (pushes j).sessionId (σ.manager.fileCount (pushes j).sessionId)
          (pushes j).fileType ∧
        σ.manager.fileCount (pushes j).sessionId <
          (σ.step pushes e).manager.fileCount (pushes j).sessionId ∧
        ∃ faults rest, e = .deliver faults ∧ σ.queue = (j, connectMsg pushes j) :: rest) := by
  rcases reply_step h e j with hr | ⟨faults, rest, he, hq, hm, hr⟩
  · exact .inl (hr ▸ hj)
  · rw [hr, connectMsg] at hj
    rw [hm, connectMsg, ← hp.rootPath]
    refine .inr ⟨?_, ?_, faults, rest, he, hq⟩ <;>
      rcases step_connect_path hj with ⟨h0, hpath, h1⟩ | ⟨m, h0, hpath, h1⟩ <;>
      simp [fileCount, h0, h1, hpath]

/-- **Every step keeps `PathsInv`.** -/
theorem PathsInv.step (h : σ.Inv pushes) (hp : σ.PathsInv pushes root c₀) (e : PushEvent n) :
    (σ.step pushes e).PathsInv pushes root c₀ := by
  obtain ⟨hsync, hroot, hmono⟩ := @manifests_manager_step _ pushes _ hp.synced e
  refine ⟨hsync, hroot.trans hp.rootPath, fun id => (hp.count_ge id).trans (hmono id),
    fun j p hj => ?_, fun i j p hi hj => ?_⟩
  · rcases hp.new_path h hj with hold | ⟨rfl, hlt, -⟩
    · obtain ⟨k, hk, hc, hlt⟩ := hp.held j p hold
      exact ⟨k, hk, hc, hlt.trans_le (hmono _)⟩
    · exact ⟨_, rfl, hp.count_ge _, hlt⟩
  · -- a new path is past every index held before
    have hfresh : ∀ i j p, (σ.pushers i).reply = some (.path i p) →
        p = recordingFile root (pushes j).sessionId (σ.manager.fileCount (pushes j).sessionId)
          (pushes j).fileType → False := fun i j p hi hpj => by
      obtain ⟨k, hk, -, hlt⟩ := hp.held i p hi
      obtain ⟨hid, hkeq, -⟩ := recordingFile_injective (hk.symm.trans hpj)
      rw [hid] at hlt
      omega
    rcases hp.new_path h hi with hi' | ⟨hpi, -, fi, ri, -, hqi⟩ <;>
      rcases hp.new_path h hj with hj' | ⟨hpj, -, fj, rj, -, hqj⟩
    · exact hp.distinct i j p hi' hj'
    · exact (hfresh i j p hi' hpj).elim
    · exact (hfresh j i p hj' hpi).elim
    · rw [hqi] at hqj
      exact (Prod.mk.inj (List.cons.inj hqj).1).1

theorem PathsInv.run (h : σ.Inv pushes) (hp : σ.PathsInv pushes root c₀) (evs : List (PushEvent n)) :
    (σ.run pushes evs).PathsInv pushes root c₀ := by
  induction evs generalizing σ with
  | nil => exact hp
  | cons e es ih => exact ih (inv_step h e) (hp.step h e)

end PushSystem

/-- **No two runs are handed the same file**, over every interleaving: every run holding a path
holds a payload file of its own session and file type, of an index no smaller than the number of
entries its session's manifest had at start, and no two runs hold the same path. -/
theorem recording_files_distinct (root : Utf8PathBuf) (disk : Disk) (clock : Clock) {n : Nat}
    (pushes : Fin n → ClientPush) (evs : List (PushEvent n)) :
    let σ := (PushSystem.init root disk clock : PushSystem n).run pushes evs
    (∀ i p, (σ.pushers i).reply = some (.path i p) → ∃ k,
      p = recordingFile root (pushes i).sessionId k (pushes i).fileType ∧
        (ManagerState.init root disk clock).fileCount (pushes i).sessionId ≤ k) ∧
    ∀ i j p, (σ.pushers i).reply = some (.path i p) → (σ.pushers j).reply = some (.path j p) →
      i = j := by
  intro σ
  have h₀ : (PushSystem.init root disk clock : PushSystem n).PathsInv pushes root
      (ManagerState.init root disk clock).fileCount :=
    ⟨manifestSynced_init root disk clock, rfl, fun _ => le_rfl, fun i p h => by
      simp [PushSystem.init] at h, fun i j p h => by simp [PushSystem.init] at h⟩
  have hp : σ.PathsInv pushes root (ManagerState.init root disk clock).fileCount :=
    h₀.run (PushSystem.inv_init root disk clock) evs
  exact ⟨fun i p hi => let ⟨k, hk, hc, _⟩ := hp.held i p hi; ⟨k, hk, hc⟩, hp.distinct⟩

end DevolutionsGateway
