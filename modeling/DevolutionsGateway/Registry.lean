import DevolutionsGateway.Layout
import Mathlib.Data.Finmap

/-!
# The session registry

`SESSIONS_IN_PROGRESS` (lib.rs) is the process-wide map of the gateway sessions in progress,
keyed by association id. `add_session_in_progress` stores a session under its own
`association_id`, and `remove_session_in_progress` drops an id. Each operation holds the write
lock of the map for its whole update, so the registry goes through one operation after another:
a run of it is a list of `RegistryOp`s (`runRegistry`).

The subscriber's polling task reads the values of the map for its `session.list` snapshot
(Subscriber); what it needs of the registry is that every entry sits under its session's own id
(`KeyedByAssociationId`), and which ids are there.

## Main results

* `keyedByAssociationId_runRegistry`: in every state a run reaches, every entry is stored under
  its session's association id.
* `keys_runRegistry`: after any run, the ids in the registry are those the set abstraction
  `RegistryOp.applyIds` computes from the same operations.
-/

namespace DevolutionsGateway

/-- The fields of a `GatewaySessionInfo` that the modelled code sets or reads. `connection_mode`,
of a type outside this crate, is left out. -/
structure GatewaySessionInfo where
  associationId : Uuid
  applicationProtocol : String
  destinationHost : Option String
  recordingPolicy : Bool
  filteringPolicy : Bool
  startTimestamp : Int
deriving DecidableEq

/-- `GatewaySessionInfo::id`. -/
def GatewaySessionInfo.id (session : GatewaySessionInfo) : Uuid := session.associationId

/-- The claims of a session token that `From<JetSessionTokenClaims>` reads. -/
structure JetSessionTokenClaims where
  jetAid : Uuid
  jetAp : String
  dstHst : Option String
  jetRec : Bool

/-- `GatewaySessionInfo::from(claims)`, at the time `now` that `Utc::now()` returns. -/
def GatewaySessionInfo.ofClaims (claims : JetSessionTokenClaims) (now : Int) : GatewaySessionInfo where
  associationId := claims.jetAid
  applicationProtocol := claims.jetAp
  destinationHost := claims.dstHst
  recordingPolicy := claims.jetRec
  filteringPolicy := false
  startTimestamp := now

/-- `SESSIONS_IN_PROGRESS`, a `HashMap<Uuid, GatewaySessionInfo>`. -/
abbrev SessionsInProgress := Finmap fun _ : Uuid => GatewaySessionInfo

/-- `add_session_in_progress`. -/
def addSessionInProgress (sessions : SessionsInProgress) (session : GatewaySessionInfo) :
    SessionsInProgress :=
  sessions.insert session.associationId session

/-- `remove_session_in_progress`. -/
def removeSessionInProgress (sessions : SessionsInProgress) (id : Uuid) : SessionsInProgress :=
  sessions.erase id

/-- One operation on the registry, under its write lock. -/
inductive RegistryOp
  | add (session : GatewaySessionInfo)
  | remove (id : Uuid)

/-- The registry after one operation. -/
def RegistryOp.apply (sessions : SessionsInProgress) : RegistryOp → SessionsInProgress
  | .add session => addSessionInProgress sessions session
  | .remove id => removeSessionInProgress sessions id

/-- The registry after a run of operations. -/
def runRegistry (sessions : SessionsInProgress) (ops : List RegistryOp) : SessionsInProgress :=
  ops.foldl RegistryOp.apply sessions

/-- The ids in progress after one operation, as a set. -/
def RegistryOp.applyIds (ids : Finset Uuid) : RegistryOp → Finset Uuid
  | .add session => insert session.associationId ids
  | .remove id => ids.erase id

/-- Every entry is stored under its session's own association id. -/
def KeyedByAssociationId (sessions : SessionsInProgress) : Prop :=
  ∀ id session, sessions.lookup id = some session → session.associationId = id

theorem keyedByAssociationId_empty : KeyedByAssociationId ∅ := by
  simp [KeyedByAssociationId]

/-- Each operation keeps every entry under its own id. -/
theorem KeyedByAssociationId.apply {sessions : SessionsInProgress}
    (h : KeyedByAssociationId sessions) (op : RegistryOp) : KeyedByAssociationId (op.apply sessions) := by
  intro id session hl
  cases op with
  | add s =>
    by_cases hid : id = s.associationId
    · subst hid
      simp only [RegistryOp.apply, addSessionInProgress, Finmap.lookup_insert, Option.some.injEq] at hl
      exact hl ▸ rfl
    · rw [RegistryOp.apply, addSessionInProgress, Finmap.lookup_insert_of_ne _ hid] at hl
      exact h id session hl
  | remove j =>
    by_cases hid : id = j
    · subst hid
      simp [RegistryOp.apply, removeSessionInProgress] at hl
    · rw [RegistryOp.apply, removeSessionInProgress, Finmap.lookup_erase_ne hid] at hl
      exact h id session hl

/-- **The registry is keyed by association id** in every state a run reaches. -/
theorem keyedByAssociationId_runRegistry {sessions : SessionsInProgress}
    (h : KeyedByAssociationId sessions) (ops : List RegistryOp) :
    KeyedByAssociationId (runRegistry sessions ops) := by
  induction ops generalizing sessions with
  | nil => exact h
  | cons op ops ih => exact ih (h.apply op)

/-- One operation moves the ids as the set abstraction does. -/
theorem keys_apply (sessions : SessionsInProgress) (op : RegistryOp) :
    (op.apply sessions).keys = op.applyIds sessions.keys := by
  cases op with
  | add s => ext j; simp [RegistryOp.apply, RegistryOp.applyIds, addSessionInProgress, Finmap.mem_keys]
  | remove j => exact Finmap.keys_erase _ _

/-- **The registry refines its set of ids**: after any run, the ids present are those the set
abstraction computes from the same operations. -/
theorem keys_runRegistry (sessions : SessionsInProgress) (ops : List RegistryOp) :
    (runRegistry sessions ops).keys = ops.foldl RegistryOp.applyIds sessions.keys := by
  induction ops generalizing sessions with
  | nil => rfl
  | cons op ops ih => rw [runRegistry, List.foldl_cons, ← runRegistry, ih, keys_apply, List.foldl_cons]

end DevolutionsGateway
