import DevolutionsGateway.Protocol
import Mathlib.Algebra.Order.BigOperators.Group.Finset

/-!
# Every interleaving of the runs can be completed

`PushSystem` lets the runs and the manager take their steps in any order, and the invariant
`PushSystem.Inv` says what holds in every state it reaches. This module shows the other
half: the system never gets stuck. From every state it reaches, some continuation finishes every
`ClientPush::run`, empties the manager's channel and ends the manager task. No run waits for ever
for room in the bounded channel, since the manager can always take the oldest message until it
has stopped, which it does only once every run has finished and the channel is empty; and no run
waits for ever for its one-shot reply, since the manager answers every `Connect` it takes, with a
path or by dropping the channel.

The argument is a ranking. `PusherState.rank` counts the protocol steps a run has left, and
`PushSystem.rank` sums it over the runs; it is zero exactly when every run has finished and the
channel is empty (`PushSystem.done_of_rank_eq_zero`). While it is not zero, some event lowers it
(`PushSystem.exists_step_rank_lt`), and the invariants still hold after that event.

## Main results

* `PushSystem.exists_step_rank_lt`: in a state with work left, some step lowers the rank.
* `client_push_runs_complete`: from every reachable state, some continuation finishes every run,
  has every `Disconnect` handled, leaves no session `Connected`, empties the channel and stops the
  manager.
-/

namespace DevolutionsGateway

/-- The protocol steps run `p` has left: sending `Connect`, the manager answering it, reading the
answer, sending `Disconnect`, and the manager handling it. -/
def PusherState.rank (p : PusherState) : Nat :=
  match p.pc with
  | .start => 5
  | .awaitingPath => if p.reply.isSome then 3 else 4
  | .recording => 2
  | .disconnected => if p.disconnectHandled then 0 else 1
  | .refused | .unableToStart => 0

/-- A consistent run has no step left exactly when it has returned and none of its messages is
in flight. -/
theorem PusherState.Consistent.rank_eq_zero_iff {p : PusherState} {i : Nat}
    {c d : RecordingManagerMessage} {sent queued : List RecordingManagerMessage}
    (h : p.Consistent i c d sent queued) : p.rank = 0 ↔ p.pc.isFinished = true ∧ queued = [] := by
  unfold PusherState.Consistent at h
  unfold PusherState.rank
  split at h <;> rename_i hpc <;> simp only [hpc, PushPc.isFinished]
  · simp
  · simp [h.2.1]
  · split <;> simp
  · simp
  · simp [h.2.1]
  · cases hh : p.disconnectHandled <;> simp [h.2.1, hh]

namespace PushSystem

variable {n : Nat} {pushes : Fin n → ClientPush} {σ : PushSystem n}

/-- The steps left to all the runs. -/
def rank (σ : PushSystem n) : Nat := ∑ i, (σ.pushers i).rank

/-- Every run has returned and no message is in flight. -/
def Done (σ : PushSystem n) : Prop := (∀ i, (σ.pushers i).pc.isFinished = true) ∧ σ.queue = []

theorem run_append (σ : PushSystem n) (xs ys : List (PushEvent n)) :
    σ.run pushes (xs ++ ys) = (σ.run pushes xs).run pushes ys := by
  induction xs generalizing σ with
  | nil => rfl
  | cons e es ih => exact ih _

theorem queue_ne_nil_of_queuedBy (i : Fin n) (h : σ.queuedBy i ≠ []) : σ.queue ≠ [] :=
  fun hq => h (by simp [queuedBy, hq])

/-- Changing one run to a state with fewer steps left lowers the rank. -/
theorem rank_setPusher_lt (σ σ' : PushSystem n) (hp : σ'.pushers = σ.pushers) (i : Fin n)
    (p : PusherState) (h : p.rank < (σ.pushers i).rank) : (σ'.setPusher i p).rank < σ.rank := by
  simp only [rank, pushers_setPusher, hp]
  refine Finset.sum_lt_sum (fun j _ => ?_) ⟨i, Finset.mem_univ _, by simpa using h⟩
  split_ifs with hj
  · exact hj ▸ h.le
  · exact le_rfl

/-- **A state whose rank is zero is done**: every run has returned, and the channel is empty. -/
theorem done_of_rank_eq_zero (h : σ.Inv pushes) (hr : σ.rank = 0) : σ.Done := by
  have hzero : ∀ i, (σ.pushers i).rank = 0 := fun i =>
    (Finset.sum_eq_zero_iff.mp hr) i (Finset.mem_univ _)
  refine ⟨fun i => (((h.consistent i).rank_eq_zero_iff).mp (hzero i)).1, ?_⟩
  by_contra hq
  obtain ⟨⟨i, msg⟩, rest, hqe⟩ := List.exists_cons_of_ne_nil hq
  have := (((h.consistent i).rank_eq_zero_iff).mp (hzero i)).2
  simp [queuedBy, hqe] at this

/-- A run with steps left stops the state from being done. -/
theorem not_done_of_rank_ne_zero (h : σ.Inv pushes) {i : Fin n} (hi : (σ.pushers i).rank ≠ 0) :
    ¬σ.Done :=
  fun hd => hi (((h.consistent i).rank_eq_zero_iff).mpr ⟨hd.1 i, by simp [queuedBy, hd.2]⟩)

/-- Outside the stopped task, the manager taking the oldest message lowers the rank: it answers
the `Connect` of a run awaiting its reply, or handles the `Disconnect` of a run. -/
theorem rank_deliver_lt (h : σ.Inv pushes) (hph : σ.manager.phase ≠ .stopped)
    (hq : σ.queue ≠ []) : (σ.step pushes (.deliver .none)).rank < σ.rank := by
  obtain ⟨⟨i, msg⟩, rest, hqe⟩ := List.exists_cons_of_ne_nil hq
  have hstep : σ.step pushes (.deliver .none) = σ.deliverMsg i msg rest .none := by
    simp [step, hqe, hph]
  rw [hstep]
  obtain ⟨-, ⟨hpc, hr, rfl⟩ | ⟨hpc, hh, rfl⟩⟩ := h.head hqe
  · rw [connectMsg, deliverMsg_connect]
    rcases connect_reply hph (pushes i).sessionId (pushes i).fileType i .none with hd | ⟨p, hp⟩
    · rw [hd, routeReply_of_channel _ rfl]
      exact rank_setPusher_lt _ _ rfl i _ (by simp [PusherState.rank, hpc, hr])
    · rw [hp, routeReply_of_channel _ rfl]
      exact rank_setPusher_lt _ _ rfl i _ (by simp [PusherState.rank, hpc, hr])
  · rw [disconnectMsg, deliverMsg_disconnect]
    exact rank_setPusher_lt _ _ rfl i _ (by simp [PusherState.rank, hpc, hh])

/-- **Some step lowers the rank of a state with work left**, when the task has not stopped
before every run finished: the run with steps left moves, or, when its next step waits on the
channel, the manager takes the oldest message. -/
theorem exists_step_rank_lt (h : σ.Inv pushes) (hs : σ.manager.phase = .stopped → σ.Done)
    (hr : 0 < σ.rank) : ∃ e, (σ.step pushes e).rank < σ.rank := by
  obtain ⟨i, -, hi⟩ := Finset.exists_ne_zero_of_sum_ne_zero hr.ne'
  have hph : σ.manager.phase ≠ .stopped := fun hst => not_done_of_rank_ne_zero h hi (hs hst)
  have hdeliver : σ.queue ≠ [] → ∃ e, (σ.step pushes e).rank < σ.rank :=
    fun hq => ⟨.deliver .none, rank_deliver_lt h hph hq⟩
  have hci := h.consistent i
  unfold PusherState.rank at hi
  unfold PusherState.Consistent at hci
  split at hci <;> rename_i hpc <;> simp only [hpc] at hi
  · -- not started: refused, or sends its `Connect` when there is room
    by_cases hid : (pushes i).sessionId = (pushes i).jetAid
    · by_cases hroom : σ.queue.length < channelCapacity
      · refine ⟨.connect i, ?_⟩
        rw [step, if_pos ⟨hpc, hid, hroom⟩]
        exact rank_setPusher_lt _ _ rfl i _ (by simp [PusherState.rank, hpc, hci.2.2.1])
      · exact hdeliver fun hq => hroom (by simp [hq, channelCapacity])
    · refine ⟨.refuse i, ?_⟩
      rw [step, if_pos ⟨hpc, hid⟩]
      exact rank_setPusher_lt _ _ rfl i _ (by simp [PusherState.rank, hpc])
  · exact absurd rfl hi
  · -- awaiting: its `Connect` is in flight, or the answer is there to read
    obtain ⟨-, -, ⟨hq, -⟩ | ⟨-, ⟨path, hp⟩ | hd⟩⟩ := hci
    · exact hdeliver (queue_ne_nil_of_queuedBy i (by simp [hq]))
    · refine ⟨.receive i, ?_⟩
      simp only [step, hpc, if_true, hp]
      exact rank_setPusher_lt _ _ rfl i _ (by simp [PusherState.rank, hpc, hp])
    · refine ⟨.receive i, ?_⟩
      simp only [step, hpc, if_true, hd]
      exact rank_setPusher_lt _ _ rfl i _ (by simp [PusherState.rank, hpc, hd])
  · -- recording: sends its `Disconnect` when there is room
    by_cases hroom : σ.queue.length < channelCapacity
    · refine ⟨.disconnect i, ?_⟩
      rw [step, if_pos ⟨hpc, hroom⟩]
      exact rank_setPusher_lt _ _ rfl i _ (by simp [PusherState.rank, hpc, hci.2.2.1])
    · exact hdeliver fun hq => hroom (by simp [hq, channelCapacity])
  · exact absurd rfl hi
  · -- returned, its `Disconnect` not yet handled: it is in flight
    cases hh : (σ.pushers i).disconnectHandled
    · obtain ⟨-, hq, -⟩ := hci
      exact hdeliver (queue_ne_nil_of_queuedBy i (by simp [hq, hh]))
    · simp [hh] at hi

/-! ### The task stops only when the runs are done -/

@[simp] theorem manager_routeReply (σ : PushSystem n) (r : Option Reply) :
    (σ.routeReply r).manager = σ.manager := by
  unfold routeReply
  split
  · split <;> rfl
  · rfl

@[simp] theorem manager_deliverMsg (σ : PushSystem n) (i : Fin n) (msg : RecordingManagerMessage)
    (rest : List (Fin n × RecordingManagerMessage)) (faults : FsFaults) :
    (σ.deliverMsg i msg rest faults).manager = (DevolutionsGateway.step σ.manager (.recv msg faults)).1 := by
  unfold deliverMsg
  cases msg <;> simp

/-- **What a step of the system does to the task**: nothing, or one step of the task's own,
which is the end of the channel only on `closed`. -/
theorem manager_step_cases (σ : PushSystem n) (e : PushEvent n) :
    (σ.step pushes e).manager = σ.manager ∨
      ∃ me, (σ.step pushes e).manager = (DevolutionsGateway.step σ.manager me).1 ∧
        (me = .closed → e = .closed) := by
  cases e with
  | deliver faults =>
    simp only [step]
    split
    · exact .inl rfl
    · split_ifs
      · exact .inl rfl
      · exact .inr ⟨_, manager_deliverMsg .., nofun⟩
  | timer => exact .inr ⟨_, rfl, nofun⟩
  | shutdown => exact .inr ⟨_, rfl, nofun⟩
  | elapse secs => exact .inr ⟨_, rfl, nofun⟩
  | setWallClock delta => exact .inr ⟨_, rfl, nofun⟩
  | closed =>
    simp only [step]
    split_ifs
    · exact .inr ⟨_, rfl, fun _ => trivial⟩
    · exact .inl rfl
  | receive i =>
    simp only [step]
    split_ifs
    · split <;> exact .inl rfl
    · exact .inl rfl
  | _ => simp only [step]; split_ifs <;> exact .inl rfl

/-- A step leaves the task stopped only if it was stopped, or the step is the end of the
channel. -/
theorem phase_step_stopped {e : PushEvent n} (h : (σ.step pushes e).manager.phase = .stopped) :
    σ.manager.phase = .stopped ∨ e = .closed := by
  rcases manager_step_cases σ e with hm | ⟨me, hm, hc⟩
  · exact .inl (hm ▸ h)
  · rw [hm] at h
    rcases step_phase σ.manager me with h' | ⟨-, -, h'⟩ | ⟨h', -⟩
    exacts [.inl (h'.symm.trans h), absurd (h'.symm.trans h) (by decide), .inr (hc h')]

/-- In a done state no run can move and nothing can be delivered: a step changes only the
manager's own fields. -/
theorem step_of_done (hd : σ.Done) (e : PushEvent n) :
    (σ.step pushes e).pushers = σ.pushers ∧ (σ.step pushes e).queue = σ.queue := by
  have hpc : ∀ i, (σ.pushers i).pc ≠ .start ∧ (σ.pushers i).pc ≠ .awaitingPath ∧
      (σ.pushers i).pc ≠ .recording := fun i => by
    have := hd.1 i
    refine ⟨?_, ?_, ?_⟩ <;> intro h <;> simp [h, PushPc.isFinished] at this
  cases e <;> simp [step, managerStep, hpc, hd.1, hd.2]

/-- **The task stops only once every run has finished and the channel is empty**, and then the
runs stay finished and the channel empty. -/
theorem stoppedDone_step (hs : σ.manager.phase = .stopped → σ.Done) (e : PushEvent n) :
    (σ.step pushes e).manager.phase = .stopped → (σ.step pushes e).Done := by
  intro hst
  rcases phase_step_stopped hst with h0 | rfl
  · obtain ⟨hp, hq⟩ := step_of_done (hs h0) e
    exact ⟨fun i => hp ▸ (hs h0).1 i, hq ▸ (hs h0).2⟩
  · by_cases hc : σ.queue.isEmpty ∧ ∀ i, (σ.pushers i).pc.isFinished = true
    · have hd : σ.Done := ⟨hc.2, List.isEmpty_iff.mp hc.1⟩
      obtain ⟨hp, hq⟩ := @step_of_done _ pushes _ hd .closed
      exact ⟨fun i => hp ▸ hd.1 i, hq ▸ hd.2⟩
    · have : σ.step pushes .closed = σ := by simp only [step, if_neg hc]
      rw [this] at hst ⊢
      exact hs hst

theorem stoppedDone_run {σ : PushSystem n} (hs : σ.manager.phase = .stopped → σ.Done)
    (evs : List (PushEvent n)) :
    (σ.run pushes evs).manager.phase = .stopped → (σ.run pushes evs).Done := by
  induction evs generalizing σ with
  | nil => exact hs
  | cons e es ih => exact ih (stoppedDone_step hs e)

/-- From a state that keeps both invariants, some continuation reaches a done state. -/
theorem exists_run_done (h : σ.Inv pushes) (hs : σ.manager.phase = .stopped → σ.Done) :
    ∃ evs, (σ.run pushes evs).Done := by
  obtain ⟨k, hk⟩ : ∃ k, σ.rank = k := ⟨_, rfl⟩
  induction k using Nat.strong_induction_on generalizing σ with
  | _ k ih =>
    rcases Nat.eq_zero_or_pos σ.rank with h0 | hpos
    · exact ⟨[], done_of_rank_eq_zero h h0⟩
    · obtain ⟨e, he⟩ := exists_step_rank_lt h hs hpos
      obtain ⟨evs, hd⟩ := ih _ (hk ▸ he) (inv_step h e) (stoppedDone_step hs e) rfl
      exact ⟨e :: evs, hd⟩

/-- The end of the channel, taken in a done state, stops the manager; every run is finished,
every run that was given a path has had its `Disconnect` handled, and no session is `Connected`. -/
theorem closed_of_done (h : σ.Inv pushes) (hd : σ.Done) :
    let τ := σ.step pushes .closed
    (∀ i, (τ.pushers i).pc.isFinished = true ∧
      ((∃ path, (τ.pushers i).reply = some (.path i path)) → (τ.pushers i).disconnectHandled = true)) ∧
    (∀ id, τ.manager.sessionState id ≠ some .connected) ∧ τ.queue = [] ∧ τ.manager.phase = .stopped := by
  have hlive : ∀ i, ¬σ.Live i := fun i =>
    (h.consistent i).not_live_of_finished (hd.1 i) (by simp [queuedBy, hd.2])
  have hτ : σ.step pushes .closed = σ.managerStep .closed := by simp [step, hd.1, hd.2]
  simp only [hτ]
  refine ⟨fun i => ⟨hd.1 i, fun ⟨path, hp⟩ => ?_⟩, fun id hc => ?_, hd.2, rfl⟩
  · exact Bool.of_not_eq_false fun hf => hlive i ⟨⟨path, hp⟩, hf⟩
  · obtain ⟨i, -, hl⟩ := (h.connected id).mp hc
    exact hlive i hl

end PushSystem

/-- **Every interleaving can be completed.** After any sequence of steps of the runs, the
manager, its timer, time and the shutdown signal, some continuation reaches a state where every
run has returned, every run that was given a path has had its `Disconnect` handled, no session is
`Connected`, the channel is empty and the manager task has returned: no run is ever stuck on the
bounded channel or on its reply. -/
theorem client_push_runs_complete (root : Utf8PathBuf) (disk : Disk) (clock : Clock) {n : Nat}
    (pushes : Fin n → ClientPush) (evs : List (PushEvent n)) :
    ∃ more, let σ := (PushSystem.init root disk clock : PushSystem n).run pushes (evs ++ more)
      (∀ i, (σ.pushers i).pc.isFinished = true ∧
        ((∃ path, (σ.pushers i).reply = some (.path i path)) →
          (σ.pushers i).disconnectHandled = true)) ∧
      (∀ id, σ.manager.sessionState id ≠ some .connected) ∧
      σ.queue = [] ∧ σ.manager.phase = .stopped := by
  let σ₀ := (PushSystem.init root disk clock : PushSystem n).run pushes evs
  have h₀ : σ₀.Inv pushes := PushSystem.inv_run (PushSystem.inv_init root disk clock) evs
  have hs₀ : σ₀.manager.phase = .stopped → σ₀.Done := PushSystem.stoppedDone_run
    (fun h => absurd h (by simp [PushSystem.init, ManagerState.init])) evs
  obtain ⟨more, hd⟩ := PushSystem.exists_run_done h₀ hs₀
  refine ⟨more ++ [.closed], ?_⟩
  rw [← List.append_assoc, PushSystem.run_append, PushSystem.run_append]
  exact PushSystem.closed_of_done (PushSystem.inv_run h₀ more) hd

end DevolutionsGateway
