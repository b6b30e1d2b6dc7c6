import DevolutionsGateway.Registry

/-!
# The subscriber notifier

subscriber.rs has two producers and one consumer around a channel of `Message`s. The polling task
sends a `session.list` snapshot of the registry every twenty minutes (`pollingMessage`); the
dispatcher, `subscriber_task`, takes each message from the channel and, when the configuration in
force has a subscriber, spawns a delivery to it (`subscriberTask`); a delivery, `send_message`,
posts the message and retries with backoff (`sendMessage`).

`send_message` classifies each answer of the subscriber (`sendOp`): a failed request and a `4xx`
are permanent errors, a `5xx` is transient, anything else is a success. On a transient error it
sleeps for the delay the backoff gives and posts again, until the backoff gives up. The backoff's
own schedule (exponential, randomised, bounded by a maximum elapsed time) lives in the `backoff`
crate, outside this repository: the model takes its answers as an input, `backoff k` being what the
`k`-th call of `next_backoff` returns, so the results hold for every schedule it may produce. The
subscriber's answers are an input too, a finite list; a run that uses them all up while still
retrying has no result yet.

## Main results

* `pollingMessage_lists_sessions`: the snapshot names every session in progress exactly once,
  with its start time.
* `sendMessage_outcome`: a delivery succeeds exactly when the subscriber answers a success after
  nothing but `5xx`s, each followed by a delay from the backoff; a failed request or a `4xx` ends
  it at that POST.
* `sendMessage_attempts`: every POST of a delivery is the same request, every delay it sleeps is
  the backoff's (never one from the server), and every POST it repeats was answered with a `5xx`.
* `sendMessage_finishes`: once the backoff gives up, at its `k`-th call, a delivery ends within
  `k + 1` POSTs.
-/

namespace DevolutionsGateway

/-! ### Messages and the polling task -/

/-- `SubscriberSessionInfo`. -/
structure SubscriberSessionInfo where
  associationId : Uuid
  startTimestamp : Int
deriving DecidableEq

/-- `MessageInner`: the kind of a message and its payload. The session list is collected from the
values of a `HashMap`, in an order the code does not fix, so it is a multiset here. -/
inductive MessageInner
  | sessionStarted (session : SubscriberSessionInfo)
  | sessionEnded (session : SubscriberSessionInfo)
  | sessionList (sessionList : Multiset SubscriberSessionInfo)
deriving DecidableEq

/-- `Message`: a timestamp and its payload. -/
structure Message where
  timestamp : Int
  inner : MessageInner
deriving DecidableEq

/-- `Message::session_started`: stamped with the session's start time. -/
def Message.sessionStarted (session : SubscriberSessionInfo) : Message :=
  ⟨session.startTimestamp, .sessionStarted session⟩

/-- `Message::session_ended`, at the time `now` that `Utc::now()` returns. -/
def Message.sessionEnded (now : Int) (session : SubscriberSessionInfo) : Message :=
  ⟨now, .sessionEnded session⟩

/-- `Message::session_list`, at the time `now` that `Utc::now()` returns. -/
def Message.sessionList (now : Int) (sessionList : Multiset SubscriberSessionInfo) : Message :=
  ⟨now, .sessionList sessionList⟩

/-- What `subscriber_polling_task` collects from the registry: one `SubscriberSessionInfo` per
value. -/
def snapshot (sessions : SessionsInProgress) : Multiset SubscriberSessionInfo :=
  sessions.entries.map fun e => ⟨e.2.associationId, e.2.startTimestamp⟩

/-- The message one round of `subscriber_polling_task` sends, at time `now`. -/
def pollingMessage (sessions : SessionsInProgress) (now : Int) : Message :=
  .sessionList now (snapshot sessions)

/-- In a registry keyed by association id, the snapshot names each key once. -/
theorem snapshot_associationIds {sessions : SessionsInProgress} (h : KeyedByAssociationId sessions) :
    (snapshot sessions).map (·.associationId) = sessions.keys.val := by
  simp only [snapshot, Multiset.map_map, Finmap.keys, Multiset.keys]
  refine Multiset.map_congr rfl fun e he => ?_
  exact h e.1 e.2 (Finmap.mem_lookup_iff.mpr he)

/-- Every session the snapshot names is stored in the registry with that start time. -/
theorem snapshot_stored {sessions : SessionsInProgress} (h : KeyedByAssociationId sessions)
    {info : SubscriberSessionInfo} (hinfo : info ∈ snapshot sessions) :
    ∃ session, sessions.lookup info.associationId = some session ∧
      info.startTimestamp = session.startTimestamp := by
  obtain ⟨e, he, rfl⟩ := Multiset.mem_map.mp hinfo
  have hl : sessions.lookup e.1 = some e.2 := Finmap.mem_lookup_iff.mpr he
  exact ⟨e.2, by rw [h e.1 e.2 hl]; exact hl, rfl⟩

/-- **The polling task's `session.list` names every session in progress exactly once**, with the
start time stored for it: after any run of the registry from empty, its association ids are those
added and not removed since, without repetition. -/
theorem pollingMessage_lists_sessions (ops : List RegistryOp) (now : Int) :
    let sessions := runRegistry ∅ ops
    ∃ list, (pollingMessage sessions now).inner = .sessionList list ∧
      list.map (·.associationId) = (ops.foldl RegistryOp.applyIds ∅).val ∧
      ∀ info ∈ list, ∃ session, sessions.lookup info.associationId = some session ∧
        info.startTimestamp = session.startTimestamp := by
  intro sessions
  have h : KeyedByAssociationId sessions := keyedByAssociationId_runRegistry keyedByAssociationId_empty ops
  refine ⟨snapshot sessions, rfl, ?_, fun _ => snapshot_stored h⟩
  rw [snapshot_associationIds h, keys_runRegistry, Finmap.keys_empty]

/-! ### One delivery: `send_message` -/

/-- `config::dto::Subscriber`: where messages are posted, and the token they carry. -/
structure Subscriber where
  url : String
  token : String
deriving DecidableEq

/-- The request `send_message` posts: to the subscriber's URL, with its token as a bearer token,
and the message as the JSON body. -/
structure PostRequest where
  url : String
  authorization : String
  body : Message
deriving DecidableEq

/-- The request for `message` to `subscriber`. -/
def postRequest (subscriber : Subscriber) (message : Message) : PostRequest :=
  ⟨subscriber.url, "Bearer " ++ subscriber.token, message⟩

/-- What one POST gives: the request failed (connection, TLS, ...), or the subscriber answered
with a status code. -/
inductive PostResponse
  | failed
  | status (code : Nat)
deriving DecidableEq, Inhabited

/-- `StatusCode::is_client_error`. -/
def isClientError (code : Nat) : Bool := 400 ≤ code && code < 500

/-- `StatusCode::is_server_error`. -/
def isServerError (code : Nat) : Bool := 500 ≤ code && code < 600

/-- The errors of `send_message`, by what caused them. Their `anyhow` texts are left out: nothing
the code does depends on them, and the dispatcher only logs them. -/
inductive SendError
  | post
  | clientError (code : Nat)
  | serverError (code : Nat)
deriving DecidableEq, Inhabited

/-- `backoff::Error`: a permanent error stops the retries; a transient one may carry the delay
the server asked for. -/
inductive BackoffError
  | permanent (err : SendError)
  | transient (err : SendError) (retryAfter : Option Nat)

/-- The `op` closure of `send_message`: one POST and the classification of its answer.
`backoff::Error::transient` carries no delay. -/
def sendOp : PostResponse → Except BackoffError Unit
  | .failed => .error (.permanent .post)
  | .status code =>
    if isClientError code then .error (.permanent (.clientError code))
    else if isServerError code then .error (.transient (.serverError code) none)
    else .ok ()

/-- A run of `send_message`: the requests it posted, the delays it slept, and how it ended;
`result` is `none` while it is still retrying when the subscriber's answers run out. -/
structure SendRun where
  requests : List PostRequest
  sleeps : List Nat
  result : Option (Except SendError Unit)

/-- The run that posts `req`, sleeps `d`, and goes on as `run`. -/
def SendRun.retry (req : PostRequest) (d : Nat) (run : SendRun) : SendRun :=
  ⟨req :: run.requests, d :: run.sleeps, run.result⟩

/-- `send_message`'s loop, given the subscriber's answers to successive POSTs and the backoff:
`backoff k` is what the `k`-th call of `next_backoff` returns, `none` once it gives up. -/
def sendMessage (subscriber : Subscriber) (message : Message) :
    List PostResponse → (Nat → Option Nat) → SendRun
  | [], _ => ⟨[], [], none⟩
  | r :: rs, backoff =>
    match sendOp r with
    | .ok () => ⟨[postRequest subscriber message], [], some (.ok ())⟩
    | .error (.permanent e) => ⟨[postRequest subscriber message], [], some (.error e)⟩
    | .error (.transient e retryAfter) =>
      match retryAfter with
      | some d => (sendMessage subscriber message rs backoff).retry (postRequest subscriber message) d
      | none =>
        match backoff 0 with
        | some d =>
          (sendMessage subscriber message rs fun k => backoff (k + 1)).retry
            (postRequest subscriber message) d
        | none => ⟨[postRequest subscriber message], [], some (.error e)⟩

/-- A `5xx`: the one answer `send_message` retries. -/
def PostResponse.isTransient : PostResponse → Bool
  | .status code => isServerError code
  | .failed => false

/-- A status that is neither a client nor a server error: `send_message` succeeds. -/
def PostResponse.isSuccess : PostResponse → Bool
  | .status code => !isClientError code && !isServerError code
  | .failed => false

/-- **How `op` classifies an answer**: a `5xx` is transient and carries no delay; a success is
`Ok`; everything else is permanent. -/
theorem sendOp_cases (r : PostResponse) :
    (r.isTransient = true ∧ r.isSuccess = false ∧ ∃ e, sendOp r = .error (.transient e none)) ∨
      (r.isTransient = false ∧ r.isSuccess = true ∧ sendOp r = .ok ()) ∨
      (r.isTransient = false ∧ r.isSuccess = false ∧ ∃ e, sendOp r = .error (.permanent e)) := by
  cases r with
  | failed => simp [sendOp, PostResponse.isTransient, PostResponse.isSuccess]
  | status code =>
    have hexcl : isClientError code = true → isServerError code = false := by
      simp only [isClientError, isServerError, Bool.and_eq_true, decide_eq_true_eq,
        Bool.and_eq_false_iff, decide_eq_false_iff_not]
      omega
    simp only [sendOp, PostResponse.isTransient, PostResponse.isSuccess]
    cases hc : isClientError code <;> cases hs : isServerError code <;> simp_all

section SendMessage

variable (subscriber : Subscriber) (message : Message)

/-- Over answers that are all `5xx`s, each followed by a delay from the backoff, a delivery posts
once per answer and goes on as the delivery over the rest, with the backoff past the calls made. -/
theorem sendMessage_append_transients {pre : List PostResponse} {backoff : Nat → Option Nat}
    (hpre : ∀ x ∈ pre, x.isTransient = true) (hb : ∀ j < pre.length, (backoff j).isSome)
    (rest : List PostResponse) :
    let after := sendMessage subscriber message rest fun k => backoff (k + pre.length)
    (sendMessage subscriber message (pre ++ rest) backoff).result = after.result ∧
      (sendMessage subscriber message (pre ++ rest) backoff).requests.length =
        pre.length + after.requests.length := by
  induction pre generalizing backoff with
  | nil => simp
  | cons x pre ih =>
    obtain ⟨e, he⟩ : ∃ e, sendOp x = .error (.transient e none) := by
      rcases sendOp_cases x with ⟨-, -, h⟩ | ⟨h, -⟩ | ⟨h, -⟩
      · exact h
      all_goals simp [hpre x (.head _)] at h
    obtain ⟨d, hd⟩ := Option.isSome_iff_exists.mp (hb 0 (Nat.zero_lt_succ _))
    obtain ⟨hres, hlen⟩ := @ih (fun k => backoff (k + 1)) (fun y hy => hpre y (.tail _ hy))
      fun j hj => hb (j + 1) (Nat.succ_lt_succ hj)
    simp only [List.cons_append, sendMessage, he, hd, SendRun.retry, List.length_cons,
      List.append_eq, hlen]
    exact ⟨hres, Nat.add_right_comm _ _ _⟩

/-- A delivery that succeeded was answered a success after nothing but `5xx`s, each followed by a
delay from the backoff. -/
theorem sendMessage_split_of_ok {rs : List PostResponse} {backoff : Nat → Option Nat}
    (h : (sendMessage subscriber message rs backoff).result = some (.ok ())) :
    ∃ pre r post, rs = pre ++ r :: post ∧ (∀ x ∈ pre, x.isTransient = true) ∧
      (∀ j < pre.length, (backoff j).isSome) ∧ r.isSuccess = true := by
  induction rs generalizing backoff with
  | nil => simp [sendMessage] at h
  | cons r rs ih =>
    rcases sendOp_cases r with ⟨ht, -, e, he⟩ | ⟨-, hs, he⟩ | ⟨-, -, e, he⟩
    · cases hb : backoff 0 with
      | none => simp [sendMessage, he, hb] at h
      | some d =>
        simp only [sendMessage, he, hb, SendRun.retry] at h
        obtain ⟨pre, r', post, rfl, hpre, hb', hr'⟩ := ih h
        refine ⟨r :: pre, r', post, rfl, List.forall_mem_cons.mpr ⟨ht, hpre⟩, fun j hj => ?_, hr'⟩
        cases j with
        | zero => simp [hb]
        | succ j => exact hb' j (Nat.lt_of_succ_lt_succ hj)
    · exact ⟨[], r, rs, rfl, by simp, by simp, hs⟩
    · simp [sendMessage, he] at h

/-- **How a delivery ends**: it succeeds exactly when the subscriber answers a success after
nothing but `5xx`s, the backoff having given a delay after each of them; and a failed request or a
`4xx` is never retried: the POST it answers is the delivery's last, which fails with its error. -/
theorem sendMessage_outcome (rs : List PostResponse) (backoff : Nat → Option Nat) :
    let run := sendMessage subscriber message rs backoff
    (run.result = some (.ok ()) ↔
      ∃ pre r post, rs = pre ++ r :: post ∧ (∀ x ∈ pre, x.isTransient = true) ∧
        (∀ j < pre.length, (backoff j).isSome) ∧ r.isSuccess = true) ∧
    ∀ pre r post, rs = pre ++ r :: post → (∀ x ∈ pre, x.isTransient = true) →
      (∀ j < pre.length, (backoff j).isSome) → r.isTransient = false → r.isSuccess = false →
      run.requests.length = pre.length + 1 ∧
        ∃ e, sendOp r = .error (.permanent e) ∧ run.result = some (.error e) := by
  refine ⟨⟨sendMessage_split_of_ok subscriber message, ?_⟩, ?_⟩
  · rintro ⟨pre, r, post, rfl, hpre, hb, hs⟩
    rw [(sendMessage_append_transients subscriber message hpre hb _).1]
    rcases sendOp_cases r with ⟨-, hs', -⟩ | ⟨-, -, he⟩ | ⟨-, hs', -⟩
    · simp [hs] at hs'
    · simp [sendMessage, he]
    · simp [hs] at hs'
  · rintro pre r post rfl hpre hb ht hs
    obtain ⟨hres, hlen⟩ := sendMessage_append_transients subscriber message hpre hb (r :: post)
    rcases sendOp_cases r with ⟨ht', -⟩ | ⟨-, hs', -⟩ | ⟨-, -, e, he⟩
    · simp [ht] at ht'
    · simp [hs] at hs'
    · simp only [sendMessage, he] at hres hlen
      exact ⟨hlen, e, he, hres⟩

/-- Scenario: two `503`s, then a `200`: three POSTs, the two delays of the backoff, success. -/
example : sendMessage subscriber message [.status 503, .status 503, .status 200]
    (fun k => some (3 + k)) =
      ⟨List.replicate 3 (postRequest subscriber message), [3, 4], some (.ok ())⟩ := rfl

/-- Scenario: a `401` ends the delivery at its first POST. -/
example : sendMessage subscriber message [.status 401, .status 200] (fun _ => some 3) =
    ⟨[postRequest subscriber message], [], some (.error (.clientError 401))⟩ := rfl

/-- **What a delivery posts and sleeps**: every POST is the same request (the message, to the
subscriber's URL, with its token); there is one POST per delay slept, and one more once the
delivery has ended; the delays are the backoff's first answers, in order, never a delay from the
server; and every POST that was repeated had been answered with a `5xx`. -/
theorem sendMessage_attempts (rs : List PostResponse) (backoff : Nat → Option Nat) :
    let run := sendMessage subscriber message rs backoff
    run.requests = List.replicate (run.sleeps.length + if run.result.isSome then 1 else 0)
        (postRequest subscriber message) ∧
      run.sleeps.map some = (List.range run.sleeps.length).map backoff ∧
      ∀ x ∈ rs.take run.sleeps.length, x.isTransient = true := by
  induction rs generalizing backoff with
  | nil => simp [sendMessage]
  | cons r rs ih =>
    rcases sendOp_cases r with ⟨ht, -, e, he⟩ | ⟨-, -, he⟩ | ⟨-, -, e, he⟩
    · cases hb : backoff 0 with
      | none => simp [sendMessage, he, hb]
      | some d =>
        obtain ⟨hreq, hsl, htr⟩ := ih fun k => backoff (k + 1)
        simp only [sendMessage, he, hb, SendRun.retry, List.length_cons, List.map_cons,
          List.range_succ_eq_map, List.map_map, List.take_succ_cons, List.forall_mem_cons]
        refine ⟨?_, ?_, ht, htr⟩
        · rw [hreq, Nat.add_right_comm, List.replicate_succ]
        · rw [hsl]; rfl
    · simp [sendMessage, he]
    · simp [sendMessage, he]

/-- **A delivery ends once the backoff gives up**: if the `k`-th call of `next_backoff` returns
`None`, the delivery has ended within `k + 1` POSTs, whatever the subscriber answers. -/
theorem sendMessage_finishes {backoff : Nat → Option Nat} {k : Nat} (hk : backoff k = none)
    {rs : List PostResponse} (hlen : k < rs.length) :
    (sendMessage subscriber message rs backoff).result.isSome ∧
      (sendMessage subscriber message rs backoff).requests.length ≤ k + 1 := by
  induction rs generalizing k backoff with
  | nil => simp at hlen
  | cons r rs ih =>
    rcases sendOp_cases r with ⟨-, -, e, he⟩ | ⟨-, -, he⟩ | ⟨-, -, e, he⟩
    · cases hb : backoff 0 with
      | none => simp [sendMessage, he, hb]
      | some d =>
        obtain _ | k := k
        · rw [hk] at hb; cases hb
        have := @ih (fun j => backoff (j + 1)) k hk (by simpa using hlen)
        simpa [sendMessage, he, hb, SendRun.retry] using this
    · simp [sendMessage, he]
    · simp [sendMessage, he]

theorem sendMessage_finishes_backoff_exhausted :
    ((fun _ => none : Nat → Option Nat) 0 = none ∧ 0 < [PostResponse.status 503].length) ∧
      (sendMessage ⟨"url", "token"⟩ (.sessionList 0 0) [.status 503] fun _ => none).result.isSome ∧
      (sendMessage ⟨"url", "token"⟩ (.sessionList 0 0) [.status 503] fun _ => none).requests.length ≤
        0 + 1 :=
  ⟨⟨rfl, by decide⟩, sendMessage_finishes ⟨"url", "token"⟩ (.sessionList 0 0) rfl (by decide)⟩

end SendMessage

/-! ### The dispatcher: `subscriber_task` -/

/-- What the dispatcher's `select!` takes: a change of configuration, with the subscriber the new
configuration names if any; a message from the channel; or the end of the channel, once every
sender is gone. -/
inductive DispatchEvent
  | confChanged (subscriber : Option Subscriber)
  | recv (msg : Message)
  | closed

/-- `subscriber_task`, from a configuration whose subscriber is `conf`: the deliveries it spawns,
in the order it spawns them, each with the subscriber it posts to, and the error it returns once
the channel closes (`msg.context("All senders are dead")?`). A message taken while no subscriber
is configured is dropped. Each delivery is its own `tokio::spawn`ed task, so the order in which
they reach the subscriber is not fixed. -/
def subscriberTask (conf : Option Subscriber) :
    List DispatchEvent → List (Subscriber × Message) × Option String
  | [] => ([], none)
  | .confChanged subscriber :: evs => subscriberTask subscriber evs
  | .recv msg :: evs =>
    match conf with
    | some subscriber => ((subscriber, msg) :: (subscriberTask conf evs).1, (subscriberTask conf evs).2)
    | none => subscriberTask conf evs
  | .closed :: _ => ([], some "All senders are dead")

end DevolutionsGateway
