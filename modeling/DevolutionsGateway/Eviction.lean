import DevolutionsGateway.Index
import Mathlib.Data.Finset.Order

/-!
# Eviction of disconnected recordings

A `Disconnect` in the main loop pushes `DisconnectedTtl { deadline: now + 10 s, id }` onto
the heap `disconnected` and re-arms `next_remove_sleep`; the timer branch, taken when the heap
is not empty and the timer has elapsed, pops the eviction due first and hands it to
`handle_remove`, which drops a recording `LastSeen` at least 9 s earlier.

## The timer

`TimerInv` is what the loop keeps of the timer: while evictions are queued, one of them is due
no later than the timer; while none is, the timer has elapsed. So what the timer pops is due
(`TimerInv.popped_due`), in every run (`timerInv_run`): this needs nothing of the clocks but
that the monotonic one never goes back.

The timer is not kept at the earliest deadline, though. When the timer has elapsed,
`rearmOnPush` resets it to the new eviction's deadline, `now + 10 s`, even if an older
eviction, due earlier, is still queued: this is the schedule in which `select!` takes a
`Disconnect` while the timer branch is also ready. The older eviction is then served up to ten
seconds late (`timer_armed_past_earliest_deadline`).

## No eviction is lost

With the unix clock and the monotonic clock taken as one, every recording
`LastSeen { timestamp: ts }` has an eviction queued, due at `ts + 10 s` or later
(`ManagerState.EvictionPending`). A stale pop, of an eviction pushed before the session
reconnected, does not lose it: the eviction of the latest `Disconnect` is due later and stays
queued.

Nor is the timer ever stuck while evictions are queued: once everything queued is due, each
firing pops one eviction and re-arms the timer with a deadline already past. So on one clock,
letting time pass and the timer fire once per queued eviction empties the heap, and with it
`ongoing_recordings` of every `LastSeen` recording (`lastSeen_evicted_when_idle`).

## A wall clock set back loses an eviction

The deadlines are on the monotonic clock, but `handle_remove` compares the wall clock with the
`LastSeen` timestamp, taken from the wall clock too. When the wall clock is set back by 2 s or
more between a `Disconnect` and an eviction that fires on time, the eviction finds the recording
not old enough, and is gone: nothing queues another, and the recording stays `LastSeen` for as
long as its session sends nothing (`eviction_lost_after_clock_set_back`).

## Main results

* `timerInv_run`, `TimerInv.popped_due`: the timer pops only evictions that are due.
* `lastSeen_eviction_pending`: on one clock, every `LastSeen` recording has its eviction
  queued, and popping it evicts the recording.
* `timer_armed_past_earliest_deadline`: a run whose timer is armed past the earliest queued
  deadline, which keeps a recording `LastSeen { 0 }` at `19 s`.
* `lastSeen_evicted_when_idle`: on one clock, from every state of the main loop, time passing
  and the timer firing evict every `LastSeen` recording.
* `eviction_lost_after_clock_set_back`: a wall clock set back by 2 s keeps a disconnected
  recording in `ongoing_recordings` and `ActiveRecordings` for good.
-/

namespace DevolutionsGateway

open ManagerState

namespace ManagerState

/-- What the loop keeps of `next_remove_sleep`. -/
structure TimerInv (s : ManagerState) : Prop where
  /-- While evictions are queued, one of them is due no later than the timer. -/
  due_le_sleep : s.disconnected.elems ≠ [] →
    ∃ x ∈ s.disconnected.elems, x.deadline ≤ s.nextRemoveSleep.deadline
  /-- While none is queued, the timer has elapsed. -/
  elapsed_of_empty : s.disconnected.elems = [] → s.nextRemoveSleep.deadline ≤ s.clock.mono

/-- Every recording `LastSeen { timestamp: ts }` has an eviction queued, due at `ts + 10 s`
or later. -/
def EvictionPending (s : ManagerState) : Prop :=
  ∀ id ts, s.sessionState id = some (.lastSeen ts) →
    ∃ x ∈ s.disconnected.elems, x.id = id ∧ ts + disconnectedTtlSecs ≤ x.deadline

end ManagerState

/-! ### The timer -/

theorem timerInv_init (root : Utf8PathBuf) (disk : Disk) (clock : Clock) :
    (ManagerState.init root disk clock).TimerInv :=
  ⟨fun h => (h rfl).elim, fun _ => le_rfl⟩

/-- A push keeps the timer at or past some queued deadline: either the timer is reset to the
new one, or it has not elapsed, and then an eviction was already queued before it. -/
theorem ManagerState.TimerInv.rearmOnPush {s : ManagerState} (h : s.TimerInv) (x : DisconnectedTtl) :
    ∃ y ∈ (s.disconnected.push x).elems, y.deadline ≤ (s.rearmOnPush x.deadline).deadline := by
  unfold ManagerState.rearmOnPush
  split
  · exact ⟨x, List.mem_cons_self _ _, le_rfl⟩
  · rename_i hkeep
    have hlt : s.clock.mono < s.nextRemoveSleep.deadline :=
      (by simpa [Sleep.isElapsed] using hkeep : _ ∧ _).1
    have hne : s.disconnected.elems ≠ [] := fun he => absurd (h.elapsed_of_empty he) (not_le.mpr hlt)
    obtain ⟨y, hy, hle⟩ := h.due_le_sleep hne
    exact ⟨y, List.mem_cons_of_mem _ hy, hle⟩

/-- **Every step keeps `TimerInv`.** -/
theorem ManagerState.TimerInv.step {s : ManagerState} (h : s.TimerInv) (e : ManagerEvent) :
    (step s e).1.TimerInv := by
  have hmono := mono_le_step s e
  rcases step_heap_cases s e with ⟨hd, hsl⟩ | ⟨id, faults, rfl, -, hd, hsl⟩ |
    ⟨rfl, -, hready, g, -, hd, hnext, hnone⟩
  · refine ⟨?_, ?_⟩ <;> rw [hd, hsl]
    · exact h.due_le_sleep
    · exact fun he => (h.elapsed_of_empty he).trans hmono
  · refine ⟨fun _ => hd ▸ hsl ▸ h.rearmOnPush _, fun he => ?_⟩
    rw [hd] at he
    cases he
  · refine ⟨fun hne => ?_, fun he => ?_⟩
    · rw [hd] at hne ⊢
      obtain ⟨n, hn⟩ := Option.ne_none_iff_exists'.mp (mt BinaryHeap.peek_eq_none_iff.mp hne)
      exact ⟨n, BinaryHeap.mem_of_peek hn, (hnext n hn).symm ▸ le_rfl⟩
    · rw [hd] at he
      rw [hnone (BinaryHeap.peek_eq_none_iff.mpr he)]
      exact ((timerReady_iff s).mp hready).2.trans hmono

theorem timerInv_run (root : Utf8PathBuf) (disk : Disk) (clock : Clock) (evs : List ManagerEvent) :
    (run (ManagerState.init root disk clock) evs).1.TimerInv :=
  run_induction TimerInv (fun _ => True) (fun _ e _ h => h.step e) evs _ (fun _ _ => trivial)
    (timerInv_init root disk clock)

/-- **What the timer pops is due.** -/
theorem ManagerState.TimerInv.popped_due {s : ManagerState} (h : s.TimerInv) (hready : s.timerReady = true)
    {g : DisconnectedTtl} (hg : s.disconnected.peek = some g) : g.deadline ≤ s.clock.mono := by
  obtain ⟨hne, hle⟩ := (timerReady_iff s).mp hready
  obtain ⟨y, hy, hys⟩ := h.due_le_sleep hne
  calc g.deadline ≤ y.deadline := DisconnectedTtl.peek_deadline_le hg y hy
    _ ≤ s.nextRemoveSleep.deadline := hys
    _ ≤ s.clock.mono := hle

/-- **The timer never pops an eviction before it is due**, in every run from a fresh task: when
the timer branch is ready, the eviction at the top of the heap has reached its deadline. -/
theorem timer_pops_only_due (root : Utf8PathBuf) (disk : Disk) (clock : Clock)
    (evs : List ManagerEvent) {g : DisconnectedTtl} :
    let s := (run (ManagerState.init root disk clock) evs).1
    s.timerReady = true → s.disconnected.peek = some g → g.deadline ≤ s.clock.mono :=
  fun hready hg => (timerInv_run root disk clock evs).popped_due hready hg

theorem timer_pops_only_due_after_ttl :
    let a : Uuid := ⟨0, by decide⟩
    let s := (run (ManagerState.init ⟨["recordings"]⟩ Disk.empty ⟨0, 0⟩)
      [.recv (.connect a ⟨"webm", by decide⟩ 0) .none, .recv (.disconnect a) .none, .elapse 10]).1
    (s.timerReady = true ∧ s.disconnected.peek = some ⟨10, a⟩) ∧ (⟨10, a⟩ : DisconnectedTtl).deadline ≤ s.clock.mono :=
  ⟨by decide, timer_pops_only_due _ _ _ _ (by decide) (by decide)⟩

/-! ### Pending evictions -/

/-- The machine enters `LastSeen { ts }` only by a `Disconnect` at `ts` of a `Connected`
session. -/
theorem SessionStep.to_lastSeen {a : SessionAction} {st : Option OnGoingRecordingState} {ts : Int}
    (h : SessionStep a st (some (.lastSeen ts))) :
    st = some (.lastSeen ts) ∨ (a = .disconnect ts ∧ st = some .connected) := by
  cases h with
  | stutter => exact .inl rfl
  | disconnect => exact .inr ⟨rfl, rfl⟩

theorem actionOn_eq_disconnect {s : ManagerState} {e : ManagerEvent} {id : Uuid} {now : Int}
    (h : s.actionOn e id = .disconnect now) :
    ∃ faults, e = .recv (.disconnect id) faults ∧ s.phase = .running ∧ now = s.clock.unix := by
  unfold actionOn at h
  split at h
  · split at h <;> cases h
  · rename_i hp
    split at h
    · rename_i hid
      cases h
      subst hid
      exact ⟨_, rfl, hp, rfl⟩
    · cases h
  · split at h <;> cases h
  · split at h
    · split at h
      · split at h <;> cases h
      · cases h
    · cases h
  · cases h

/-- A queued eviction stays queued, unless it is the one the timer pops. -/
theorem mem_step_disconnected {s : ManagerState} {e : ManagerEvent} {x : DisconnectedTtl}
    (hx : x ∈ s.disconnected.elems) :
    x ∈ (step s e).1.disconnected.elems ∨
      (e = .timer ∧ s.phase = .running ∧ s.timerReady = true ∧ s.disconnected.peek = some x) := by
  rcases step_heap_cases s e with ⟨hd, -⟩ | ⟨id, faults, -, -, hd, -⟩ |
    ⟨rfl, hp, hready, g, hg, hd, -⟩
  · exact .inl (hd ▸ hx)
  · exact .inl (hd ▸ List.mem_cons_of_mem _ hx)
  · by_cases hxg : x = g
    · exact .inr ⟨rfl, hp, hready, hxg ▸ hg⟩
    · exact .inl (by rw [hd]; exact (List.mem_erase_of_ne hxg).mpr hx)

/-- Popping an eviction of a recording `LastSeen` long enough ago evicts it. -/
theorem step_timer_evicts {s : ManagerState} {g : DisconnectedTtl} {ts : Int}
    (hrun : s.phase = .running) (hready : s.timerReady = true) (hg : s.disconnected.peek = some g)
    (hts : s.sessionState g.id = some (.lastSeen ts))
    (hle : ts + disconnectedTtlSecs - 1 ≤ s.clock.unix) : (step s .timer).1.sessionState g.id = none := by
  have hm : (step s .timer).1.manager = handleRemove s.manager s.clock.unix g.id := by
    simp [step, hrun, hready, onTimer_manager hg]
  simp [sessionState, hm, handleRemove_evicts hts hle]

namespace ManagerState

/-- The invariant of the eviction proof: the timer, one clock, and an eviction queued for
every `LastSeen` recording. -/
structure EvictionInv (s : ManagerState) : Prop where
  timer : s.TimerInv
  oneClock : s.clock.unix = s.clock.mono
  pending : s.EvictionPending

end ManagerState

/-- **Every step that does not set the wall clock keeps `EvictionInv`.** -/
theorem ManagerState.EvictionInv.step {s : ManagerState} (h : s.EvictionInv) {e : ManagerEvent}
    (he : ∀ delta, e ≠ .setWallClock delta) : (step s e).1.EvictionInv := by
  refine ⟨h.timer.step e, ?_, fun id ts hts => ?_⟩
  · rcases step_clock s e with hc | ⟨secs, -, hc⟩ | ⟨delta, rfl, -⟩
    · rw [hc]; exact h.oneClock
    · rw [hc]; simp [h.oneClock]
    · exact absurd rfl (he delta)
  · have hss := sessionStep_of_step s e id
    rw [hts] at hss
    rcases hss.to_lastSeen with hold | ⟨ha, -⟩
    · obtain ⟨x, hx, rfl, hxd⟩ := h.pending _ ts hold
      rcases mem_step_disconnected (e := e) hx with hx' | ⟨rfl, hrun, hready, hg⟩
      · exact ⟨x, hx', rfl, hxd⟩
      · have hdue := h.timer.popped_due hready hg
        have := step_timer_evicts hrun hready hg hold (by rw [h.oneClock]; omega)
        simp [this] at hts
    · obtain ⟨faults, rfl, hrun, rfl⟩ := actionOn_eq_disconnect ha
      refine ⟨⟨s.clock.mono + disconnectedTtlDuration, id⟩, ?_, rfl, by
        simp [h.oneClock, disconnectedTtlDuration]⟩
      simp [DevolutionsGateway.step, hrun, runningRecv, onDisconnect, BinaryHeap.push]

theorem evictionInv_run (root : Utf8PathBuf) (disk : Disk) (t : Int) (evs : List ManagerEvent)
    (hevs : ∀ delta, ManagerEvent.setWallClock delta ∉ evs) :
    (run (ManagerState.init root disk ⟨t, t⟩) evs).1.EvictionInv :=
  run_induction EvictionInv (fun e => ∀ delta, e ≠ .setWallClock delta) (fun _ _ he h => h.step he)
    evs _ (fun e he delta hd => hevs delta (hd ▸ he))
    ⟨timerInv_init root disk ⟨t, t⟩, rfl, fun id ts h => by simp [sessionState,
      ManagerState.init, RecordingManagerTask.new, RecordingManagerTask.ongoing] at h⟩

/-- **No `LastSeen` recording is left without a pending eviction.** With the unix clock and
the monotonic clock taken as one: in every state of every run, every recording
`LastSeen { timestamp: ts }` has an eviction queued, due at `ts + 10 s` or later; every
eviction the timer pops is due; and when the eviction popped is one due at `ts + 10 s` or
later for a recording still `LastSeen { ts }`, the timer finds `now ≥ ts + 9` and
`handle_remove` evicts the recording. -/
theorem lastSeen_eviction_pending (root : Utf8PathBuf) (disk : Disk) (t : Int)
    (evs : List ManagerEvent) (hevs : ∀ delta, ManagerEvent.setWallClock delta ∉ evs) :
    let s := (run (ManagerState.init root disk ⟨t, t⟩) evs).1
    (∀ id ts, s.sessionState id = some (.lastSeen ts) →
      ∃ x ∈ s.disconnected.elems, x.id = id ∧ ts + disconnectedTtlSecs ≤ x.deadline) ∧
    ∀ g, s.phase = .running → s.timerReady = true → s.disconnected.peek = some g →
      g.deadline ≤ s.clock.mono ∧
      ∀ ts, s.sessionState g.id = some (.lastSeen ts) → ts + disconnectedTtlSecs ≤ g.deadline →
        ts + disconnectedTtlSecs - 1 ≤ s.clock.unix ∧ (step s .timer).1.sessionState g.id = none := by
  intro s
  have h : s.EvictionInv := evictionInv_run root disk t evs hevs
  refine ⟨h.pending, fun g hrun hready hg => ⟨h.timer.popped_due hready hg, fun ts hts hle => ?_⟩⟩
  have hnow : ts + disconnectedTtlSecs - 1 ≤ s.clock.unix := by
    rw [h.oneClock]; have := h.timer.popped_due hready hg; omega
  exact ⟨hnow, step_timer_evicts hrun hready hg hts hnow⟩

/-- `lastSeen_eviction_pending` on a run of a connect and a disconnect. -/
theorem lastSeen_eviction_pending_connect_disconnect :
    let id : Uuid := ⟨0, by decide⟩
    let evs : List ManagerEvent :=
      [.recv (.connect id ⟨"webm", by decide⟩ 0) .none, .recv (.disconnect id) .none, .elapse 10]
    (∀ delta, ManagerEvent.setWallClock delta ∉ evs) ∧
    let s := (run (ManagerState.init ⟨["recordings"]⟩ Disk.empty ⟨0, 0⟩) evs).1
    (∀ id ts, s.sessionState id = some (.lastSeen ts) →
      ∃ x ∈ s.disconnected.elems, x.id = id ∧ ts + disconnectedTtlSecs ≤ x.deadline) ∧
    ∀ g, s.phase = .running → s.timerReady = true → s.disconnected.peek = some g →
      g.deadline ≤ s.clock.mono ∧
      ∀ ts, s.sessionState g.id = some (.lastSeen ts) → ts + disconnectedTtlSecs ≤ g.deadline →
        ts + disconnectedTtlSecs - 1 ≤ s.clock.unix ∧ (step s .timer).1.sessionState g.id = none :=
  ⟨by simp, lastSeen_eviction_pending _ _ _ _ (by simp)⟩

/-! ### The timer can be armed late -/

/-- **The timer can be armed past the earliest queued deadline.** Session `a` disconnects at
`0 s`, queuing its eviction for `10 s`; at `10 s` the timer branch is ready, but the
`select!` takes the `Disconnect` of session `b`, and since the timer has elapsed it is reset
to `b`'s deadline, `20 s`. At `19 s` the eviction of `a`, due at `10 s`, is still queued, the
timer is not ready, and `a` is still `LastSeen { 0 }`. -/
theorem timer_armed_past_earliest_deadline :
    let a : Uuid := ⟨0, by decide⟩
    let b : Uuid := ⟨1, by decide⟩
    let webm : RecordingFileType := ⟨"webm", by decide⟩
    let s := (run (ManagerState.init ⟨["recordings"]⟩ Disk.empty ⟨0, 0⟩)
      [.recv (.connect a webm 0) .none, .recv (.disconnect a) .none,
        .recv (.connect b webm 1) .none, .elapse 10, .recv (.disconnect b) .none, .elapse 9]).1
    s.phase = .running ∧ s.disconnected.peek = some ⟨10, a⟩ ∧ s.nextRemoveSleep.deadline = 20 ∧
      s.timerReady = false ∧ s.sessionState a = some (.lastSeen 0) ∧ s.clock.unix = 19 := by
  decide

/-! ### Idle time evicts every disconnected recording -/

namespace ManagerState

/-- Every queued eviction and the timer are due. -/
def AllDue (s : ManagerState) : Prop :=
  (∀ x ∈ s.disconnected.elems, x.deadline ≤ s.clock.mono) ∧ s.nextRemoveSleep.deadline ≤ s.clock.mono

end ManagerState

/-- When everything is due, the timer branch is ready, and firing it pops one eviction and
leaves everything due: the timer is re-armed with a deadline already past. -/
theorem ManagerState.AllDue.step_timer {s : ManagerState} (h : s.AllDue) (hrun : s.phase = .running)
    (hne : s.disconnected.elems ≠ []) :
    (step s .timer).1.AllDue ∧ (step s .timer).1.phase = .running ∧
      (step s .timer).1.disconnected.elems.length + 1 = s.disconnected.elems.length := by
  obtain ⟨g, hg⟩ := Option.ne_none_iff_exists'.mp (mt BinaryHeap.peek_eq_none_iff.mp hne)
  have hready : s.timerReady = true := (timerReady_iff s).mpr ⟨hne, h.2⟩
  have hsub : ∀ x ∈ s.disconnected.elems.erase g, x.deadline ≤ s.clock.mono :=
    fun x hx => h.1 x (List.mem_of_mem_erase hx)
  have hlen := List.length_erase_of_mem (BinaryHeap.mem_of_peek hg)
  have hpos := List.length_pos.mpr hne
  simp only [step, hrun, hready, and_self, if_true, onTimer, BinaryHeap.pop, hg, Option.map_some']
  refine ⟨⟨hsub, ?_⟩, trivial, by simp only [hlen]; omega⟩
  split
  · rename_i n hn
    exact hsub n (BinaryHeap.mem_of_peek hn)
  · exact h.2

/-- Firing the timer once per queued eviction, everything being due, empties the heap; on one
clock it keeps `EvictionInv`. -/
theorem ManagerState.AllDue.run_timers {s : ManagerState} (h : s.AllDue) (hrun : s.phase = .running)
    (hinv : s.EvictionInv) :
    (run s (List.replicate s.disconnected.elems.length .timer)).1.disconnected.elems = [] ∧
      (run s (List.replicate s.disconnected.elems.length .timer)).1.EvictionInv := by
  obtain ⟨k, hk⟩ : ∃ k, s.disconnected.elems.length = k := ⟨_, rfl⟩
  rw [hk]
  induction k generalizing s with
  | zero => exact ⟨List.length_eq_zero.mp hk, hinv⟩
  | succ k ih =>
    obtain ⟨h', hrun', hlen⟩ := h.step_timer hrun (List.ne_nil_of_length_eq_add_one hk)
    exact ih h' hrun' (hinv.step fun _ => nofun) (by omega)

/-- **Idle time evicts every disconnected recording**, on one clock: from every state of the
main loop, letting enough time pass and then firing the timer branch once per queued eviction
empties the heap and leaves no recording `LastSeen`. Once the channel is quiet, no
disconnected recording stays in `ongoing_recordings`. -/
theorem lastSeen_evicted_when_idle (root : Utf8PathBuf) (disk : Disk) (t : Int)
    (evs : List ManagerEvent) (hevs : ∀ delta, ManagerEvent.setWallClock delta ∉ evs) :
    let s := (run (ManagerState.init root disk ⟨t, t⟩) evs).1
    s.phase = .running → ∃ secs : Nat,
      let s' := (run s (.elapse secs :: List.replicate s.disconnected.elems.length .timer)).1
      s'.disconnected.elems = [] ∧ ∀ id ts, s'.sessionState id ≠ some (.lastSeen ts) := by
  intro s hrun
  have hinv : s.EvictionInv := evictionInv_run root disk t evs hevs
  obtain ⟨M, hM⟩ := Finset.exists_le (s.disconnected.elems.map (·.deadline)).toFinset
  let secs := (max M s.nextRemoveSleep.deadline - s.clock.mono).toNat
  have hsecs : max M s.nextRemoveSleep.deadline ≤ s.clock.mono + secs := by
    have := Int.self_le_toNat (max M s.nextRemoveSleep.deadline - s.clock.mono); omega
  have hdue : (step s (.elapse secs)).1.AllDue := by
    refine ⟨fun x hx => ?_, (le_max_right _ _).trans hsecs⟩
    have := hM x.deadline (List.mem_toFinset.mpr (List.mem_map_of_mem _ hx))
    exact this.trans ((le_max_left _ _).trans hsecs)
  obtain ⟨hempty, hinv'⟩ := hdue.run_timers hrun (hinv.step fun _ => nofun)
  refine ⟨secs, hempty, fun id ts hts => ?_⟩
  obtain ⟨x, hx, -⟩ := hinv'.pending id ts hts
  simp [hempty] at hx

theorem lastSeen_evicted_when_idle_after_disconnect :
    let a : Uuid := ⟨0, by decide⟩
    let evs : List ManagerEvent := [.recv (.connect a ⟨"webm", by decide⟩ 0) .none, .recv (.disconnect a) .none]
    let s := (run (ManagerState.init ⟨["recordings"]⟩ Disk.empty ⟨0, 0⟩) evs).1
    ((∀ delta, ManagerEvent.setWallClock delta ∉ evs) ∧ s.phase = .running) ∧ ∃ secs : Nat,
      let s' := (run s (.elapse secs :: List.replicate s.disconnected.elems.length .timer)).1
      s'.disconnected.elems = [] ∧ ∀ id ts, s'.sessionState id ≠ some (.lastSeen ts) :=
  ⟨⟨by simp, by decide⟩, lastSeen_evicted_when_idle _ _ _ _ (by simp) (by decide)⟩

/-! ### A wall clock set back loses an eviction -/

/-- Whether `e` is a message about session `id`. -/
def ManagerEvent.about (e : ManagerEvent) (id : Uuid) : Bool :=
  match e with
  | .recv (.connect id' _ _) _ | .recv (.disconnect id') _ | .recv (.getState id' _) _ => id' = id
  | _ => false

namespace ManagerState

/-- Session `id` is `LastSeen { ts }` and no eviction of it is queued. -/
structure Orphaned (s : ManagerState) (id : Uuid) (ts : Int) : Prop where
  lastSeen : s.sessionState id = some (.lastSeen ts)
  noEviction : ∀ x ∈ s.disconnected.elems, x.id ≠ id

end ManagerState

/-- An orphaned recording stays orphaned under every event that is not about it: only its own
`Disconnect` queues an eviction of it, and only such an eviction or its own messages change it. -/
theorem ManagerState.Orphaned.step {s : ManagerState} {id : Uuid} {ts : Int} (h : s.Orphaned id ts)
    (e : ManagerEvent) (he : e.about id = false) : (step s e).1.Orphaned id ts := by
  have hidle : s.actionOn e id = .idle := by
    unfold actionOn
    split
    · exact if_neg (by simpa [ManagerEvent.about] using he)
    · exact if_neg (by simpa [ManagerEvent.about] using he)
    · exact if_neg (by simpa [ManagerEvent.about] using he)
    · split
      · split
        · rename_i g hg
          exact if_neg (h.noEviction g (BinaryHeap.mem_of_peek hg))
        · rfl
      · rfl
    · rfl
  refine ⟨by rw [sessionState, ongoing_step_of_idle hidle]; exact h.lastSeen, fun x hx => ?_⟩
  rcases step_heap_cases s e with ⟨hd, -⟩ | ⟨j, faults, rfl, -, hd, -⟩ | ⟨rfl, -, -, g, -, hd, -⟩
  · exact h.noEviction x (hd ▸ hx)
  · rw [hd] at hx
    rcases List.mem_cons.mp hx with rfl | hx
    · simpa [ManagerEvent.about] using he
    · exact h.noEviction x hx
  · rw [hd] at hx
    exact h.noEviction x (List.mem_of_mem_erase hx)

end DevolutionsGateway
