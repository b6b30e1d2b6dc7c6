import DevolutionsGateway.SessionMachine
import Mathlib.Data.Fintype.Basic

/-!
# `ClientPush::run` and the manager: exactly one `Disconnect` per path

A recording is pushed by `ClientPush::run`: it checks that its session is the one its token
names, sends `Connect` over the manager's channel and awaits the reply on a one-shot channel;
with a path it opens the file, copies the stream until it ends or the shutdown signal fires,
and then sends `Disconnect`; without one (the reply channel dropped because the session was
refused, a file system step failed, or the manager was already draining) it returns.

`PushSystem` puts `n` such runs and the manager together: the bounded channel
(`mpsc::channel(64)`, a FIFO queue whose messages are tagged with their sender), every run's
program counter and reply channel, and the manager's state. A `PushEvent` is one step of one
party: a run moves, the manager takes the oldest message, the timer fires, time passes, or the
shutdown signal is taken. Every interleaving of these is a run of `PushSystem.step`.

Two ghost fields record history: `sent`, every message a run has sent, and
`disconnectHandled`, whether the manager has handled a run's `Disconnect`.

`PushSystem.Inv` is the invariant: every run's messages, queued messages and reply are the
ones its program counter implies (`PusherState.Consistent`), and a session is `Connected`
exactly when one run of it holds a path and its `Disconnect` is not yet handled (`Live`), that
run being unique. Every step keeps it (`PushSystem.inv_step`).

## Main results

* `PushSystem.inv_step`, `PushSystem.inv_run`.
* `client_push_protocol`: over every interleaving, each run sends at most its `Connect` and
  then one `Disconnect`, a finished run has sent its `Disconnect` exactly when it was answered
  with a path, `Connected` means exactly one live run, at most one run per session records at
  a time, and once all runs have finished and the channel is empty nothing is `Connected`.
-/

namespace DevolutionsGateway

open ManagerState

/-! ### What the protocol needs of the manager -/

theorem phase_running_of_connect_path {s : ManagerState} {id : Uuid} {fileType : RecordingFileType}
    {channel : Nat} {faults : FsFaults} {p : Utf8PathBuf}
    (h : (step s (.recv (.connect id fileType channel) faults)).2 = some (.path channel p)) :
    s.phase = .running := by
  cases hp : s.phase <;> simp [step, hp, drainRecv] at h ⊢

/-- A `Connect` answered with a path found the session not `Connected`, and leaves it
`Connected`. -/
theorem connected_of_connect_path {s : ManagerState} {id : Uuid} {fileType : RecordingFileType}
    {channel : Nat} {faults : FsFaults} {p : Utf8PathBuf}
    (h : (step s (.recv (.connect id fileType channel) faults)).2 = some (.path channel p)) :
    s.sessionState id ≠ some .connected ∧
      (step s (.recv (.connect id fileType channel) faults)).1.sessionState id = some .connected := by
  have hrun := phase_running_of_connect_path h
  simp only [step, hrun, runningRecv] at h ⊢
  rcases onConnect_cases s id fileType channel faults with ⟨hd, -⟩ | ⟨file, mf, -, hc, -, hm⟩
  · rw [hd] at h; cases h
  · refine ⟨fun hs => ?_, by simp [sessionState, hm]⟩
    obtain ⟨o, ho, hst⟩ := Option.map_eq_some'.mp hs
    simp [ho, hst] at hc

/-- Outside the stopped task, a `Connect` is answered on its channel: with a path, or by
dropping the channel. -/
theorem connect_reply {s : ManagerState} (hp : s.phase ≠ .stopped) (id : Uuid)
    (fileType : RecordingFileType) (channel : Nat) (faults : FsFaults) :
    (step s (.recv (.connect id fileType channel) faults)).2 = some (.dropped channel) ∨
      ∃ p, (step s (.recv (.connect id fileType channel) faults)).2 = some (.path channel p) := by
  cases hph : s.phase with
  | running =>
    simp only [step, hph, runningRecv]
    rcases onConnect_cases s id fileType channel faults with ⟨hd, -⟩ | ⟨file, -, hr, -⟩
    exacts [.inl hd, .inr ⟨file, hr⟩]
  | draining => simp [step, hph, drainRecv]
  | stopped => exact absurd hph hp

theorem disconnect_reply (s : ManagerState) (id : Uuid) (faults : FsFaults) :
    (step s (.recv (.disconnect id) faults)).2 = none := by
  simp only [step]
  split <;> rfl

/-- Outside the stopped task, a `Disconnect` of a session leaves it not `Connected`. -/
theorem not_connected_of_disconnect {s : ManagerState} (hp : s.phase ≠ .stopped) (id : Uuid)
    (faults : FsFaults) : (step s (.recv (.disconnect id) faults)).1.sessionState id ≠ some .connected := by
  cases hph : s.phase with
  | running =>
    simp only [step, hph, runningRecv, onDisconnect, sessionState, handleDisconnect_ongoing, if_pos]
    cases s.manager.ongoing id with
    | none => simp
    | some o => by_cases hc : o.state = .connected <;> simp [hc]
  | draining => simp [step, hph, drainRecv, sessionState, Finmap.lookup_erase]
  | stopped => exact absurd hph hp

/-- A message about one session leaves every other session as it was. -/
theorem sessionState_recv_of_ne {s : ManagerState} {msg : RecordingManagerMessage} {j : Uuid}
    (hc : ∀ id fileType channel, msg = .connect id fileType channel → id ≠ j)
    (hd : ∀ id, msg = .disconnect id → id ≠ j) (faults : FsFaults) :
    (step s (.recv msg faults)).1.sessionState j = s.sessionState j := by
  have : s.actionOn (.recv msg faults) j = .idle := by
    cases msg with
    | connect id fileType channel =>
      have := hc id fileType channel rfl
      cases hp : s.phase <;> simp [actionOn, hp, this]
    | disconnect id =>
      have := hd id rfl
      cases hp : s.phase <;> simp [actionOn, hp, this]
    | getState id channel => cases hp : s.phase <;> simp [actionOn, hp]
    | getCount channel => cases hp : s.phase <;> simp [actionOn, hp]
  simp [sessionState, ongoing_step_of_idle this]

/-- The machine's idle and eviction edges never enter or leave `Connected`. -/
theorem SessionStep.connected_iff {a : SessionAction} {st st' : Option OnGoingRecordingState}
    (h : SessionStep a st st') (ha : a = .idle ∨ ∃ now, a = .evict now) :
    st' = some .connected ↔ st = some .connected := by
  cases h <;> simp_all

/-- The timer, time passing, the shutdown signal and the closed channel never change which
sessions are `Connected`. -/
theorem connected_step_of_not_recv (s : ManagerState) {e : ManagerEvent}
    (he : ∀ msg faults, e ≠ .recv msg faults) (id : Uuid) :
    (step s e).1.sessionState id = some .connected ↔ s.sessionState id = some .connected := by
  refine (sessionStep_of_step s e id).connected_iff ?_
  cases e with
  | recv msg faults => exact absurd rfl (he msg faults)
  | timer =>
    cases hp : s.phase
    case running =>
      simp only [actionOn, hp]
      split
      · split
        · split <;> simp
        · simp
      · simp
    all_goals simp [actionOn, hp]
  | _ => simp [actionOn]

/-! ### The runs and the channel -/

/-- The fields of a `ClientPush` that `ClientPush::run` reads: its session, the session its
token names (`claims.jet_aid`), and the file type. -/
structure ClientPush where
  sessionId : Uuid
  jetAid : Uuid
  fileType : RecordingFileType

/-- Where a `ClientPush::run` is. -/
inductive PushPc
  /-- Not started. -/
  | start
  /-- Returned: the session is not the one the token names. -/
  | refused
  /-- `Connect` sent; awaiting the reply. -/
  | awaitingPath
  /-- Has its path: opening the file and copying the stream. -/
  | recording
  /-- Returned: the reply channel was dropped ("Unable to start recording"). -/
  | unableToStart
  /-- Returned after sending `Disconnect`. -/
  | disconnected
deriving DecidableEq

/-- The run has returned. -/
def PushPc.isFinished : PushPc → Bool
  | .refused | .unableToStart | .disconnected => true
  | _ => false

/-- A run's state: its program counter, the receiving end of its one-shot reply channel, and,
as a ghost, whether the manager has handled its `Disconnect`. -/
structure PusherState where
  pc : PushPc
  reply : Option Reply
  disconnectHandled : Bool

/-- The channel a reply answers on. -/
def Reply.channel : Reply → Nat
  | .path c _ | .state c _ | .count c _ | .dropped c => c

/-- `mpsc::channel(64)`. -/
def channelCapacity : Nat := 64

/-- `n` runs of `ClientPush::run` and the manager. The channel holds the messages in flight,
oldest first, each tagged with the run that sent it; `sent` is the ghost log of every message
ever sent. Run `i` uses channel `i` for its reply. -/
structure PushSystem (n : Nat) where
  manager : ManagerState
  queue : List (Fin n × RecordingManagerMessage)
  pushers : Fin n → PusherState
  sent : List (Fin n × RecordingManagerMessage)

/-- One step of one party. -/
inductive PushEvent (n : Nat)
  /-- Run `i` finds its session is not its token's, and returns. -/
  | refuse (i : Fin n)
  /-- Run `i` sends `Connect`. -/
  | connect (i : Fin n)
  /-- Run `i` reads its reply. -/
  | receive (i : Fin n)
  /-- Run `i` has finished copying and sends `Disconnect`. -/
  | disconnect (i : Fin n)
  /-- The manager takes the oldest message; `faults` are the I/O errors its handling meets. -/
  | deliver (faults : FsFaults)
  /-- The manager's timer branch. -/
  | timer
  /-- The manager takes the shutdown signal. -/
  | shutdown
  /-- Time passes. -/
  | elapse (secs : Nat)
  /-- The wall clock is set. -/
  | setWallClock (delta : Int)
  /-- The manager's channel reports that every sender is gone. -/
  | closed

namespace PushSystem

variable {n : Nat} (pushes : Fin n → ClientPush)

/-- The `Connect` run `i` sends. -/
def connectMsg (i : Fin n) : RecordingManagerMessage :=
  .connect (pushes i).sessionId (pushes i).fileType i

/-- The `Disconnect` run `i` sends. -/
def disconnectMsg (i : Fin n) : RecordingManagerMessage := .disconnect (pushes i).sessionId

/-- The state before any run starts. -/
def init (root : Utf8PathBuf) (disk : Disk) (clock : Clock) : PushSystem n :=
  ⟨ManagerState.init root disk clock, [], fun _ => ⟨.start, none, false⟩, []⟩

/-- Replace the state of run `i`. -/
def setPusher (σ : PushSystem n) (i : Fin n) (p : PusherState) : PushSystem n :=
  { σ with pushers := Function.update σ.pushers i p }

/-- `Sender::send`: the message joins the channel, and the log. -/
def send (σ : PushSystem n) (i : Fin n) (msg : RecordingManagerMessage) : PushSystem n :=
  { σ with queue := σ.queue ++ [(i, msg)], sent := σ.sent ++ [(i, msg)] }

/-- A reply of the manager reaches the one-shot channel it answers on. -/
def routeReply (σ : PushSystem n) : Option Reply → PushSystem n
  | some r =>
    if h : r.channel < n then σ.setPusher ⟨r.channel, h⟩ { σ.pushers ⟨r.channel, h⟩ with reply := some r }
    else σ
  | none => σ

/-- The manager's step on a message it takes from the channel. -/
def deliverMsg (σ : PushSystem n) (i : Fin n) (msg : RecordingManagerMessage)
    (rest : List (Fin n × RecordingManagerMessage)) (faults : FsFaults) : PushSystem n :=
  let σ' := ({ σ with manager := (step σ.manager (.recv msg faults)).1, queue := rest } :
    PushSystem n).routeReply (step σ.manager (.recv msg faults)).2
  match msg with
  | .disconnect _ => σ'.setPusher i { σ'.pushers i with disconnectHandled := true }
  | _ => σ'

/-- The manager's step on an event of its own. -/
def managerStep (σ : PushSystem n) (e : ManagerEvent) : PushSystem n :=
  { σ with manager := (DevolutionsGateway.step σ.manager e).1 }

/-- One step of the system. Sends wait for room in the channel; the channel closes only when
no run can send any more and nothing is in flight. -/
def step (σ : PushSystem n) : PushEvent n → PushSystem n
  | .refuse i =>
    if (σ.pushers i).pc = .start ∧ (pushes i).sessionId ≠ (pushes i).jetAid then
      σ.setPusher i { σ.pushers i with pc := .refused }
    else σ
  | .connect i =>
    if (σ.pushers i).pc = .start ∧ (pushes i).sessionId = (pushes i).jetAid ∧
        σ.queue.length < channelCapacity then
      (σ.send i (connectMsg pushes i)).setPusher i { σ.pushers i with pc := .awaitingPath }
    else σ
  | .receive i =>
    if (σ.pushers i).pc = .awaitingPath then
      match (σ.pushers i).reply with
      | some (.path _ _) => σ.setPusher i { σ.pushers i with pc := .recording }
      | some (.dropped _) => σ.setPusher i { σ.pushers i with pc := .unableToStart }
      | _ => σ
    else σ
  | .disconnect i =>
    if (σ.pushers i).pc = .recording ∧ σ.queue.length < channelCapacity then
      (σ.send i (disconnectMsg pushes i)).setPusher i { σ.pushers i with pc := .disconnected }
    else σ
  | .deliver faults =>
    match σ.queue with
    | [] => σ
    | (i, msg) :: rest => if σ.manager.phase = .stopped then σ else σ.deliverMsg i msg rest faults
  | .timer => σ.managerStep .timer
  | .shutdown => σ.managerStep .shutdown
  | .elapse secs => σ.managerStep (.elapse secs)
  | .setWallClock delta => σ.managerStep (.setWallClock delta)
  | .closed =>
    if σ.queue.isEmpty ∧ ∀ i, (σ.pushers i).pc.isFinished = true then σ.managerStep .closed else σ

/-- A sequence of steps. -/
def run (σ : PushSystem n) : List (PushEvent n) → PushSystem n
  | [] => σ
  | e :: es => run (σ.step pushes e) es

/-- The messages run `i` has sent, in order. -/
def sentBy (σ : PushSystem n) (i : Fin n) : List RecordingManagerMessage :=
  (σ.sent.filter (fun x => x.1 = i)).map Prod.snd

/-- The messages of run `i` in the channel, oldest first. -/
def queuedBy (σ : PushSystem n) (i : Fin n) : List RecordingManagerMessage :=
  (σ.queue.filter (fun x => x.1 = i)).map Prod.snd

/-- Run `i` holds a path, and the manager has not handled its `Disconnect`. -/
def Live (σ : PushSystem n) (i : Fin n) : Prop :=
  (∃ path, (σ.pushers i).reply = some (.path i path)) ∧ (σ.pushers i).disconnectHandled = false

end PushSystem

/-- What a run's program counter implies of what it has sent (`c`, then `d`), of what of it is
in the channel, and of its reply on channel `i`. -/
def PusherState.Consistent (p : PusherState) (i : Nat) (c d : RecordingManagerMessage)
    (sent queued : List RecordingManagerMessage) : Prop :=
  match p.pc with
  | .start | .refused => sent = [] ∧ queued = [] ∧ p.reply = none ∧ p.disconnectHandled = false
  | .awaitingPath =>
    sent = [c] ∧ p.disconnectHandled = false ∧
      ((queued = [c] ∧ p.reply = none) ∨
        (queued = [] ∧ ((∃ path, p.reply = some (.path i path)) ∨ p.reply = some (.dropped i))))
  | .recording =>
    sent = [c] ∧ queued = [] ∧ p.disconnectHandled = false ∧ ∃ path, p.reply = some (.path i path)
  | .unableToStart =>
    sent = [c] ∧ queued = [] ∧ p.disconnectHandled = false ∧ p.reply = some (.dropped i)
  | .disconnected =>
    sent = [c, d] ∧ queued = (if p.disconnectHandled then [] else [d]) ∧
      ∃ path, p.reply = some (.path i path)

namespace PushSystem

variable {n : Nat} (pushes : Fin n → ClientPush)

/-- **The invariant of the protocol.** -/
structure Inv (σ : PushSystem n) : Prop where
  consistent : ∀ i, (σ.pushers i).Consistent i (connectMsg pushes i) (disconnectMsg pushes i)
    (σ.sentBy i) (σ.queuedBy i)
  connected : ∀ id, σ.manager.sessionState id = some .connected ↔
    ∃ i, (pushes i).sessionId = id ∧ σ.Live i
  unique : ∀ i j, σ.Live i → σ.Live j → (pushes i).sessionId = (pushes j).sessionId → i = j

/-! ### Small lemmas on the system's updates -/

variable {pushes}

@[simp] theorem pushers_setPusher (σ : PushSystem n) (i j : Fin n) (p : PusherState) :
    (σ.setPusher i p).pushers j = if j = i then p else σ.pushers j := by
  simp [setPusher, Function.update_apply]

@[simp] theorem sentBy_setPusher (σ : PushSystem n) (i j : Fin n) (p : PusherState) :
    (σ.setPusher i p).sentBy j = σ.sentBy j := rfl

@[simp] theorem queuedBy_setPusher (σ : PushSystem n) (i j : Fin n) (p : PusherState) :
    (σ.setPusher i p).queuedBy j = σ.queuedBy j := rfl

@[simp] theorem manager_setPusher (σ : PushSystem n) (i : Fin n) (p : PusherState) :
    (σ.setPusher i p).manager = σ.manager := rfl

@[simp] theorem sentBy_send (σ : PushSystem n) (i j : Fin n) (msg : RecordingManagerMessage) :
    (σ.send i msg).sentBy j = σ.sentBy j ++ if i = j then [msg] else [] := by
  by_cases h : i = j <;> simp [send, sentBy, List.filter_append, h]

@[simp] theorem queuedBy_send (σ : PushSystem n) (i j : Fin n) (msg : RecordingManagerMessage) :
    (σ.send i msg).queuedBy j = σ.queuedBy j ++ if i = j then [msg] else [] := by
  by_cases h : i = j <;> simp [send, queuedBy, List.filter_append, h]

@[simp] theorem pushers_send (σ : PushSystem n) (i : Fin n) (msg : RecordingManagerMessage) :
    (σ.send i msg).pushers = σ.pushers := rfl

@[simp] theorem manager_send (σ : PushSystem n) (i : Fin n) (msg : RecordingManagerMessage) :
    (σ.send i msg).manager = σ.manager := rfl

theorem queuedBy_of_queue_cons {σ : PushSystem n} {i : Fin n} {msg : RecordingManagerMessage}
    {rest : List (Fin n × RecordingManagerMessage)} (h : σ.queue = (i, msg) :: rest) (j : Fin n) :
    σ.queuedBy j = (if i = j then [msg] else []) ++ (rest.filter (fun x => x.1 = j)).map Prod.snd := by
  by_cases hij : i = j <;> simp [queuedBy, h, hij]

theorem routeReply_of_channel (σ : PushSystem n) {i : Fin n} {r : Reply} (hr : r.channel = i) :
    σ.routeReply (some r) = σ.setPusher i { σ.pushers i with reply := some r } := by
  have hlt : r.channel < n := hr ▸ i.isLt
  have hi : (⟨r.channel, hlt⟩ : Fin n) = i := Fin.ext hr
  simp only [routeReply, dif_pos hlt, hi]

/-! ### The invariant holds initially and is kept by every step -/

theorem inv_init (root : Utf8PathBuf) (disk : Disk) (clock : Clock) :
    (init root disk clock : PushSystem n).Inv pushes where
  consistent i := by simp [init, sentBy, queuedBy, PusherState.Consistent]
  connected id := by
    simp [init, Live, sessionState, ManagerState.init, RecordingManagerTask.new,
      RecordingManagerTask.ongoing]
  unique i j hi := by simp [init, Live] at hi

variable {σ : PushSystem n}

/-- A step that moves only run `i`'s program counter, and may send one message of it, keeps
the invariant if run `i`'s new state is consistent. -/
theorem Inv.of_pc {σ' : PushSystem n} (h : σ.Inv pushes) (i : Fin n) (pc : PushPc)
    (hp : σ'.pushers = Function.update σ.pushers i { σ.pushers i with pc })
    (hm : σ'.manager = σ.manager) (hs : ∀ j, j ≠ i → σ'.sentBy j = σ.sentBy j)
    (hq : ∀ j, j ≠ i → σ'.queuedBy j = σ.queuedBy j)
    (hc : PusherState.Consistent { σ.pushers i with pc } i (connectMsg pushes i)
      (disconnectMsg pushes i) (σ'.sentBy i) (σ'.queuedBy i)) : σ'.Inv pushes := by
  have hlive : ∀ j, σ'.Live j ↔ σ.Live j := fun j => by
    by_cases hj : j = i
    · subst hj; simp [Live, hp]
    · simp [Live, hp, Function.update_noteq hj]
  refine ⟨fun j => ?_, fun id => ?_, fun j k hj hk => h.unique j k ((hlive j).mp hj) ((hlive k).mp hk)⟩
  · by_cases hj : j = i
    · subst hj; simpa [hp] using hc
    · rw [hp, Function.update_noteq hj, hs j hj, hq j hj]
      exact h.consistent j
  · simp only [hm, hlive]
    exact h.connected id

/-- A run that sends one message and moves its program counter keeps the invariant if its new
state is consistent. -/
theorem Inv.of_send (h : σ.Inv pushes) (i : Fin n) (msg : RecordingManagerMessage) (pc : PushPc)
    (hc : PusherState.Consistent { σ.pushers i with pc } i (connectMsg pushes i)
      (disconnectMsg pushes i) (σ.sentBy i ++ [msg]) (σ.queuedBy i ++ [msg])) :
    ((σ.send i msg).setPusher i { σ.pushers i with pc }).Inv pushes :=
  h.of_pc i pc rfl rfl (fun j hj => by simp [Ne.symm hj]) (fun j hj => by simp [Ne.symm hj])
    (by simpa using hc)

/-- The manager's own events keep the invariant: they never change who is `Connected`. -/
theorem Inv.managerStep (h : σ.Inv pushes) {e : ManagerEvent}
    (he : ∀ msg faults, e ≠ .recv msg faults) : (σ.managerStep e).Inv pushes :=
  ⟨h.consistent, fun id => (connected_step_of_not_recv σ.manager he id).trans (h.connected id),
    h.unique⟩

/-- **The message the manager takes** is the `Connect` of a run awaiting its reply, or the
`Disconnect` of a run whose `Disconnect` is not yet handled; no other message of that run is in
the channel. -/
theorem Inv.head (h : σ.Inv pushes) {i : Fin n} {msg : RecordingManagerMessage}
    {rest : List (Fin n × RecordingManagerMessage)} (hq : σ.queue = (i, msg) :: rest) :
    (rest.filter (fun x => x.1 = i)).map Prod.snd = [] ∧
      (((σ.pushers i).pc = .awaitingPath ∧ (σ.pushers i).reply = none ∧ msg = connectMsg pushes i) ∨
        ((σ.pushers i).pc = .disconnected ∧ (σ.pushers i).disconnectHandled = false ∧
          msg = disconnectMsg pushes i)) := by
  have hc := h.consistent i
  rw [queuedBy_of_queue_cons hq, if_pos rfl, List.singleton_append] at hc
  unfold PusherState.Consistent at hc
  split at hc
  all_goals first
    | (obtain ⟨-, hqd, -⟩ := hc; cases hqd)
    | skip
  · rename_i hpc
    obtain ⟨-, -, ⟨hqd, hr⟩ | ⟨hqd, -⟩⟩ := hc
    · obtain ⟨rfl, hrest⟩ := List.cons.inj hqd
      exact ⟨hrest, .inl ⟨hpc, hr, rfl⟩⟩
    · cases hqd
  · rename_i hpc
    obtain ⟨-, hqd, -⟩ := hc
    split at hqd
    · cases hqd
    · rename_i hh
      obtain ⟨rfl, hrest⟩ := List.cons.inj hqd
      exact ⟨hrest, .inr ⟨hpc, by simpa using hh, rfl⟩⟩

theorem live_setPusher (σ : PushSystem n) (i j : Fin n) (p : PusherState) :
    (σ.setPusher i p).Live j ↔
      if j = i then (∃ path, p.reply = some (.path i path)) ∧ p.disconnectHandled = false
      else σ.Live j := by
  by_cases hj : j = i
  · subst hj; simp [Live]
  · simp [Live, hj]

/-- **A change at one run and one session keeps the invariant**: if only run `i` may change
who is live, only its session may change state, that session is `Connected` afterwards exactly
when run `i` or another run already live holds it, and run `i` becomes live only when no other
run of its session is. -/
theorem Inv.of_change {σ' : PushSystem n} (h : σ.Inv pushes) (i : Fin n)
    (hcons : ∀ j, (σ'.pushers j).Consistent j (connectMsg pushes j) (disconnectMsg pushes j)
      (σ'.sentBy j) (σ'.queuedBy j))
    (hlive : ∀ j, j ≠ i → (σ'.Live j ↔ σ.Live j))
    (hother : ∀ id, id ≠ (pushes i).sessionId →
      σ'.manager.sessionState id = σ.manager.sessionState id)
    (hself : σ'.manager.sessionState (pushes i).sessionId = some .connected ↔
      σ'.Live i ∨ ∃ j, j ≠ i ∧ (pushes j).sessionId = (pushes i).sessionId ∧ σ.Live j)
    (huniq : σ'.Live i → ∀ j, j ≠ i → (pushes j).sessionId = (pushes i).sessionId → ¬σ.Live j) :
    σ'.Inv pushes := by
  refine ⟨hcons, fun id => ?_, fun j k hj hk hjk => ?_⟩
  · by_cases hid : id = (pushes i).sessionId
    · subst hid
      rw [hself]
      constructor
      · rintro (hi | ⟨j, hji, hj, hl⟩)
        exacts [⟨i, rfl, hi⟩, ⟨j, hj, (hlive j hji).mpr hl⟩]
      · rintro ⟨j, hj, hl⟩
        by_cases hji : j = i
        · exact .inl (hji ▸ hl)
        · exact .inr ⟨j, hji, hj, (hlive j hji).mp hl⟩
    · have hne : ∀ j, (pushes j).sessionId = id → j ≠ i := fun j hj hji => hid (hji ▸ hj.symm)
      rw [hother id hid, h.connected id]
      constructor
      · rintro ⟨j, hj, hl⟩; exact ⟨j, hj, (hlive j (hne j hj)).mpr hl⟩
      · rintro ⟨j, hj, hl⟩; exact ⟨j, hj, (hlive j (hne j hj)).mp hl⟩
  · by_cases hji : j = i <;> by_cases hki : k = i
    · exact hji.trans hki.symm
    · subst hji; exact absurd ((hlive k hki).mp hk) (huniq hj k hki hjk.symm)
    · subst hki; exact absurd ((hlive j hji).mp hj) (huniq hk j hji hjk)
    · exact h.unique j k ((hlive j hji).mp hj) ((hlive k hki).mp hk) hjk

theorem deliverMsg_connect (σ : PushSystem n) (i : Fin n) (id : Uuid) (fileType : RecordingFileType)
    (channel : Nat) (rest : List (Fin n × RecordingManagerMessage)) (faults : FsFaults) :
    σ.deliverMsg i (.connect id fileType channel) rest faults =
      ({ σ with
          manager := (DevolutionsGateway.step σ.manager (.recv (.connect id fileType channel) faults)).1
          queue := rest } : PushSystem n).routeReply
        (DevolutionsGateway.step σ.manager (.recv (.connect id fileType channel) faults)).2 := rfl

theorem deliverMsg_disconnect (σ : PushSystem n) (i : Fin n) (id : Uuid)
    (rest : List (Fin n × RecordingManagerMessage)) (faults : FsFaults) :
    σ.deliverMsg i (.disconnect id) rest faults =
      ({ σ with
          manager := (DevolutionsGateway.step σ.manager (.recv (.disconnect id) faults)).1
          queue := rest } : PushSystem n).setPusher i
        { σ.pushers i with disconnectHandled := true } := by
  simp [deliverMsg, disconnect_reply, routeReply]

/-- The manager taking run `i`'s message and changing run `i` leaves every other run as it
was: consistent, and live exactly when it was. -/
theorem Inv.consistent_deliver (h : σ.Inv pushes) {i : Fin n} {msg : RecordingManagerMessage}
    {rest : List (Fin n × RecordingManagerMessage)} (hq : σ.queue = (i, msg) :: rest)
    (m : ManagerState) (p : PusherState) {j : Fin n} (hj : j ≠ i) :
    ((({ σ with manager := m, queue := rest } : PushSystem n).setPusher i p).pushers j).Consistent j
      (connectMsg pushes j) (disconnectMsg pushes j)
      ((({ σ with manager := m, queue := rest } : PushSystem n).setPusher i p).sentBy j)
      ((({ σ with manager := m, queue := rest } : PushSystem n).setPusher i p).queuedBy j) := by
  have hqj : ({ σ with manager := m, queue := rest } : PushSystem n).queuedBy j = σ.queuedBy j := by
    rw [queuedBy_of_queue_cons hq j, if_neg (Ne.symm hj), List.nil_append]; rfl
  rw [pushers_setPusher, if_neg hj, sentBy_setPusher, queuedBy_setPusher, hqj]
  exact h.consistent j

theorem live_deliver_of_ne (σ : PushSystem n) (m : ManagerState)
    (rest : List (Fin n × RecordingManagerMessage)) (p : PusherState) {i j : Fin n} (hj : j ≠ i) :
    (({ σ with manager := m, queue := rest } : PushSystem n).setPusher i p).Live j ↔ σ.Live j := by
  rw [live_setPusher, if_neg hj]; rfl

/-- The manager answering run `i`'s `Connect`. -/
theorem Inv.deliver_connect (h : σ.Inv pushes) {i : Fin n}
    {rest : List (Fin n × RecordingManagerMessage)} (faults : FsFaults)
    (hq : σ.queue = (i, connectMsg pushes i) :: rest)
    (hrest : (rest.filter (fun x => x.1 = i)).map Prod.snd = [])
    (hpc : (σ.pushers i).pc = .awaitingPath) (hnone : (σ.pushers i).reply = none)
    (hph : σ.manager.phase ≠ .stopped) :
    (σ.deliverMsg i (connectMsg pushes i) rest faults).Inv pushes := by
  obtain ⟨r, hr, hch, hkind⟩ : ∃ r, (DevolutionsGateway.step σ.manager
      (.recv (connectMsg pushes i) faults)).2 = some r ∧ r.channel = i ∧
      (r = .dropped i ∨ ∃ p, r = .path i p) := by
    rcases connect_reply hph (pushes i).sessionId (pushes i).fileType i faults with hd | ⟨p, hp⟩
    exacts [⟨_, hd, rfl, .inl rfl⟩, ⟨_, hp, rfl, .inr ⟨p, rfl⟩⟩]
  rw [connectMsg, deliverMsg_connect, ← connectMsg, hr, routeReply_of_channel _ hch]
  have hci := h.consistent i
  simp only [PusherState.Consistent, hpc] at hci
  have hnotlive : ¬σ.Live i := by simp [Live, hnone]
  refine h.of_change i (fun j => ?_) (fun j hj => live_deliver_of_ne _ _ _ _ hj)
    (fun id hid => sessionState_recv_of_ne (fun _ _ _ he => by cases he; exact Ne.symm hid)
      (fun _ he => by cases he) faults) ?_ ?_
  · by_cases hj : j = i
    · subst hj
      simp only [pushers_setPusher, if_pos, PusherState.Consistent, hpc, sentBy_setPusher,
        queuedBy_setPusher]
      refine ⟨hci.1, hci.2.1, .inr ⟨hrest, ?_⟩⟩
      rcases hkind with rfl | ⟨p, rfl⟩
      exacts [.inr rfl, .inl ⟨p, rfl⟩]
    · exact h.consistent_deliver hq _ _ hj
  · rcases hkind with rfl | ⟨p, rfl⟩
    · -- the channel is dropped: the task is unchanged, and run `i` does not become live
      have hman : (DevolutionsGateway.step σ.manager (.recv (connectMsg pushes i) faults)).1.manager =
          σ.manager.manager := step_connect_dropped hr
      have hss : (DevolutionsGateway.step σ.manager (.recv (connectMsg pushes i) faults)).1.sessionState
          (pushes i).sessionId = σ.manager.sessionState (pushes i).sessionId := by
        simp only [sessionState, hman]
      simp only [manager_setPusher, hss, h.connected, live_setPusher, if_pos, reduceCtorEq,
        Option.some.injEq, exists_false, false_and, false_or]
      constructor
      · rintro ⟨j, hj, hl⟩
        exact ⟨j, fun hji => hnotlive (hji ▸ hl), hj, hl⟩
      · rintro ⟨j, -, hj, hl⟩
        exact ⟨j, hj, hl⟩
    · have hc : (DevolutionsGateway.step σ.manager (.recv (connectMsg pushes i) faults)).1.sessionState
          (pushes i).sessionId = some .connected := (connected_of_connect_path hr).2
      simp only [manager_setPusher, hc, true_iff]
      exact .inl (by simp [live_setPusher, hci.2.1])
  · rcases hkind with rfl | ⟨p, rfl⟩
    · simp [live_setPusher]
    · intro _ j hji hj hl
      exact (connected_of_connect_path hr).1 ((h.connected _).mpr ⟨j, hj, hl⟩)

/-- The manager handling run `i`'s `Disconnect`. -/
theorem Inv.deliver_disconnect (h : σ.Inv pushes) {i : Fin n}
    {rest : List (Fin n × RecordingManagerMessage)} (faults : FsFaults)
    (hq : σ.queue = (i, disconnectMsg pushes i) :: rest)
    (hrest : (rest.filter (fun x => x.1 = i)).map Prod.snd = [])
    (hpc : (σ.pushers i).pc = .disconnected) (hh : (σ.pushers i).disconnectHandled = false)
    (hph : σ.manager.phase ≠ .stopped) :
    (σ.deliverMsg i (disconnectMsg pushes i) rest faults).Inv pushes := by
  rw [disconnectMsg, deliverMsg_disconnect, ← disconnectMsg]
  have hci := h.consistent i
  simp only [PusherState.Consistent, hpc, hh] at hci
  have hlive : σ.Live i := ⟨hci.2.2, hh⟩
  refine h.of_change i (fun j => ?_) (fun j hj => live_deliver_of_ne _ _ _ _ hj)
    (fun id hid => sessionState_recv_of_ne (fun _ _ _ he => by cases he)
      (fun _ he => by cases he; exact Ne.symm hid) faults) ?_ (by simp [live_setPusher])
  · by_cases hj : j = i
    · subst hj
      simp only [pushers_setPusher, if_pos, PusherState.Consistent, hpc, sentBy_setPusher,
        queuedBy_setPusher, if_true]
      exact ⟨hci.1, hrest, hci.2.2⟩
    · exact h.consistent_deliver hq _ _ hj
  · -- the session leaves `Connected`, and no other run of it was live
    have hnc : (DevolutionsGateway.step σ.manager (.recv (disconnectMsg pushes i) faults)).1.sessionState
        (pushes i).sessionId ≠ some .connected := not_connected_of_disconnect hph _ faults
    simp only [manager_setPusher, hnc, false_iff, live_setPusher, if_pos, Bool.true_eq_false,
      and_false, false_or, not_exists, not_and]
    exact fun j hji hj hl => hji (h.unique j i hl hlive hj)

/-- **Every step of the system keeps the invariant.** -/
theorem inv_step (h : σ.Inv pushes) (e : PushEvent n) : (σ.step pushes e).Inv pushes := by
  have hci := h.consistent
  cases e with
  | refuse i =>
    simp only [step]
    split_ifs with hc
    · have := hci i
      simp only [PusherState.Consistent, hc.1] at this
      exact h.of_pc i .refused rfl rfl (fun _ _ => rfl) (fun _ _ => rfl) this
    · exact h
  | connect i =>
    simp only [step]
    split_ifs with hc
    · have := hci i
      simp only [PusherState.Consistent, hc.1] at this
      exact h.of_send i _ .awaitingPath (by simp [PusherState.Consistent, this])
    · exact h
  | receive i =>
    simp only [step]
    split_ifs with hc
    · have := hci i
      simp only [PusherState.Consistent, hc] at this
      obtain ⟨hs, hh, ⟨hq, hr⟩ | ⟨hq, hr⟩⟩ := this
      · simp only [hr]; exact h
      · split
        · rename_i hrp
          exact h.of_pc i .recording rfl rfl (fun _ _ => rfl) (fun _ _ => rfl)
            (by simpa [PusherState.Consistent, hs, hq, hh] using hr.resolve_right (by simp [hrp]))
        · rename_i hrp
          exact h.of_pc i .unableToStart rfl rfl (fun _ _ => rfl) (fun _ _ => rfl)
            (by simpa [PusherState.Consistent, hs, hq, hh] using hr.resolve_left (by simp [hrp]))
        · exact h
    · exact h
  | disconnect i =>
    simp only [step]
    split_ifs with hc
    · have := hci i
      simp only [PusherState.Consistent, hc.1] at this
      exact h.of_send i _ .disconnected (by simp [PusherState.Consistent, this])
    · exact h
  | deliver faults =>
    simp only [step]
    split
    · exact h
    · rename_i i msg rest hq
      split_ifs with hph
      · exact h
      · obtain ⟨hrest, ⟨hpc, hr, rfl⟩ | ⟨hpc, hh, rfl⟩⟩ := h.head hq
        exacts [h.deliver_connect faults hq hrest hpc hr hph,
          h.deliver_disconnect faults hq hrest hpc hh hph]
  | timer => exact h.managerStep fun _ _ => by simp
  | shutdown => exact h.managerStep fun _ _ => by simp
  | elapse secs => exact h.managerStep fun _ _ => by simp
  | setWallClock delta => exact h.managerStep fun _ _ => by simp
  | closed =>
    simp only [step]
    split_ifs
    exacts [h.managerStep fun _ _ => by simp, h]

theorem inv_run (h : σ.Inv pushes) (evs : List (PushEvent n)) : (σ.run pushes evs).Inv pushes := by
  induction evs generalizing σ with
  | nil => exact h
  | cons e es ih => exact ih (inv_step h e)

end PushSystem

/-! ### What the invariant says of one run -/

section Consistent

variable {p : PusherState} {i : Nat} {c d : RecordingManagerMessage}
  {sent queued : List RecordingManagerMessage}

/-- A run sends its `Connect`, then its `Disconnect`, and nothing else. -/
theorem PusherState.Consistent.sent_prefixOf (h : p.Consistent i c d sent queued) : sent <+: [c, d] := by
  unfold PusherState.Consistent at h
  split at h <;> obtain ⟨rfl, -⟩ := h
  exacts [List.nil_prefix, List.nil_prefix, ⟨[d], rfl⟩, ⟨[d], rfl⟩, ⟨[d], rfl⟩, List.prefix_refl _]

/-- A run that has sent its `Disconnect` was answered with a path. -/
theorem PusherState.Consistent.path_of_mem (h : p.Consistent i c d sent queued) (hcd : c ≠ d)
    (hd : d ∈ sent) : ∃ path, p.reply = some (.path i path) := by
  unfold PusherState.Consistent at h
  split at h <;> obtain ⟨rfl, h⟩ := h
  all_goals first
    | (simp only [List.not_mem_nil] at hd)
    | (exact absurd (List.mem_singleton.mp hd).symm hcd)
    | exact h.2

/-- A finished run has sent its `Disconnect` exactly when it was answered with a path. -/
theorem PusherState.Consistent.finished_iff (h : p.Consistent i c d sent queued)
    (hf : p.pc.isFinished = true) : sent = [c, d] ↔ ∃ path, p.reply = some (.path i path) := by
  unfold PusherState.Consistent at h
  split at h <;> simp_all [PushPc.isFinished]

/-- A finished run none of whose messages is in flight is not live. -/
theorem PusherState.Consistent.not_live_of_finished (h : p.Consistent i c d sent queued)
    (hf : p.pc.isFinished = true) (hq : queued = []) :
    ¬((∃ path, p.reply = some (.path i path)) ∧ p.disconnectHandled = false) := by
  unfold PusherState.Consistent at h
  split at h <;> simp_all [PushPc.isFinished]

/-- A recording run is live. -/
theorem PusherState.Consistent.live_of_recording (h : p.Consistent i c d sent queued)
    (hr : p.pc = .recording) : (∃ path, p.reply = some (.path i path)) ∧ p.disconnectHandled = false := by
  simp only [PusherState.Consistent, hr] at h
  exact ⟨h.2.2.2, h.2.2.1⟩

end Consistent

/-- **`ClientPush::run` and the manager, over every interleaving.** From any root and disk, after
any sequence of steps of `n` runs (whatever their sessions and tokens), the manager, its timer,
time and the shutdown signal:
* each run has sent at most its `Connect` and then one `Disconnect`; it has sent the
  `Disconnect` only after a path reached it, and once it has finished it has sent it exactly when
  a path reached it;
* a session is `Connected` exactly when exactly one run of it holds a path whose `Disconnect`
  the manager has not handled;
* at most one run per session is recording;
* once every run has finished and the channel is empty, no session is `Connected`. -/
theorem client_push_protocol (root : Utf8PathBuf) (disk : Disk) (clock : Clock) {n : Nat}
    (pushes : Fin n → ClientPush) (evs : List (PushEvent n)) :
    let σ := (PushSystem.init root disk clock : PushSystem n).run pushes evs
    (∀ i, σ.sentBy i <+: [PushSystem.connectMsg pushes i, PushSystem.disconnectMsg pushes i] ∧
      (PushSystem.disconnectMsg pushes i ∈ σ.sentBy i →
        ∃ path, (σ.pushers i).reply = some (.path i path)) ∧
      ((σ.pushers i).pc.isFinished = true →
        (σ.sentBy i = [PushSystem.connectMsg pushes i, PushSystem.disconnectMsg pushes i] ↔
          ∃ path, (σ.pushers i).reply = some (.path i path)))) ∧
    (∀ id, σ.manager.sessionState id = some .connected ↔ ∃! i, (pushes i).sessionId = id ∧ σ.Live i) ∧
    (∀ i j, (σ.pushers i).pc = .recording → (σ.pushers j).pc = .recording →
      (pushes i).sessionId = (pushes j).sessionId → i = j) ∧
    ((∀ i, (σ.pushers i).pc.isFinished = true) → σ.queue = [] →
      ∀ id, σ.manager.sessionState id ≠ some .connected) := by
  intro σ
  have h : σ.Inv pushes := PushSystem.inv_run (PushSystem.inv_init root disk clock) evs
  have hcd : ∀ i, PushSystem.connectMsg pushes i ≠ PushSystem.disconnectMsg pushes i :=
    fun i he => by cases he
  refine ⟨fun i => ⟨(h.consistent i).sent_prefixOf, (h.consistent i).path_of_mem (hcd i),
    (h.consistent i).finished_iff⟩, fun id => ?_, fun i j hi hj hij => ?_, fun hf hq id hc => ?_⟩
  · rw [h.connected]
    constructor
    · rintro ⟨i, hi, hl⟩
      exact ⟨i, ⟨hi, hl⟩, fun j ⟨hj, hl'⟩ => h.unique j i hl' hl (hj.trans hi.symm)⟩
    · rintro ⟨i, hi, -⟩
      exact ⟨i, hi⟩
  · exact h.unique i j ((h.consistent i).live_of_recording hi) ((h.consistent j).live_of_recording hj) hij
  · obtain ⟨i, -, hl⟩ := (h.connected id).mp hc
    exact (h.consistent i).not_live_of_finished (hf i) (by simp [PushSystem.queuedBy, hq]) hl

end DevolutionsGateway
