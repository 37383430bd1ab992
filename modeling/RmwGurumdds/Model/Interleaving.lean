import Mathlib.Data.List.Basic

/-!
# Registration against arrivals

The request reader and the notification gate as a system of atomic steps.  The transport
adds requests at any time; an arrival queues a run of `on_data_available` when
`DATA_AVAILABLE` is enabled in the reader's mask at that moment.  A queued run executes
under the gate's mutex, so never inside a call of `rmw_service_set_on_new_request_callback`,
and invokes the stored callback.  The application takes requests at any time.  A call of
`rmw_service_set_on_new_request_callback` runs its five steps under the mutex (lines
942–954): `get_status_changes`, `count_unread`, the initial invocation, the store of the
callback and user data, and `set_listener`.

The system follows one callback `cb` from the moment its registration begins on a service
that has none: every call in it registers `cb`.  The mask is seen only through its
`DATA_AVAILABLE` bit, which a call with a callback sets when its `set_listener` succeeds
and leaves alone when it fails.

Three fields are ghost state, read by the statements and never by a step's guard:
`waiting` holds the requests that arrived since the registration began and have seen no
invocation of `cb` since, `window` those that arrived between the registration's
`count_unread` and its `set_listener`, and `registering` says that this `set_listener`
has not yet run.
-/

namespace RmwGurumdds.Interleaving

/-- The step the running call of `rmw_service_set_on_new_request_callback` makes next,
or `idle` when no call is running.  The initial invocation carries the count
`count_unread` returned. -/
inductive Phase
  | idle
  | getStatusChanges
  | countUnread
  | invoke (unreadCount : ℕ)
  | store
  | setListener
  deriving DecidableEq, Repr

/-- The phases between `count_unread` and `set_listener`, both excluded. -/
def Phase.afterCount : Phase → Bool
  | .invoke _ | .store | .setListener => true
  | _ => false

/-- The initial invocation is next. -/
def Phase.isInvoke : Phase → Bool
  | .invoke _ => true
  | _ => false

/-- The reader and the gate: the unread requests by arrival number and the number the
next arrival gets; whether `DATA_AVAILABLE` is enabled in the reader's listener mask and
whether `cb` is stored in `event_callback_data`; the runs of `on_data_available` queued by
the transport and not yet executed; the running call's next step, and whether its
`set_listener` succeeds.  The last three fields are the ghost state above. -/
structure State where
  unread : List ℕ
  next : ℕ
  enabled : Bool
  stored : Bool
  queued : ℕ
  pc : Phase
  listenerOk : Bool
  waiting : List ℕ
  window : List ℕ
  registering : Bool
  deriving DecidableEq

/-- One atomic step of the system: a request arrives at the reader, a queued run of
`on_data_available` executes, the application takes an unread request, a new call
registering `cb` again starts, or the running call makes one of its five steps. -/
inductive Action
  | arrive
  | handle
  | take (request : ℕ)
  | begin (listenerOk : Bool)
  | getStatusChanges
  | countUnread
  | invoke
  | store
  | setListener
  deriving DecidableEq, Repr

/-- `cb` is invoked: every request that has arrived has now seen an invocation. -/
def State.invokeCallback (s : State) : State := { s with waiting := [] }

/-- Whether an action can run: a queued run needs the mutex, so no running call; a take
needs the request; each step of a call needs the call to be at that step. -/
def canRun (s : State) : Action → Bool
  | .arrive => true
  | .handle => s.pc == .idle && 0 < s.queued
  | .take request => request ∈ s.unread
  | .begin _ => s.pc == .idle
  | .getStatusChanges => s.pc == .getStatusChanges
  | .countUnread => s.pc == .countUnread
  | .invoke => s.pc.isInvoke
  | .store => s.pc == .store
  | .setListener => s.pc == .setListener

/-- What an action does. -/
def apply (s : State) : Action → State
  | .arrive => { s with
      unread := s.unread ++ [s.next]
      next := s.next + 1
      queued := if s.enabled then s.queued + 1 else s.queued
      waiting := s.next :: s.waiting
      window := if s.registering && s.pc.afterCount then s.next :: s.window else s.window }
  | .handle =>
    let s := { s with queued := s.queued - 1 }
    if s.stored then s.invokeCallback else s
  | .take request => { s with unread := s.unread.erase request }
  | .begin ok => { s with pc := .getStatusChanges, listenerOk := ok }
  | .getStatusChanges => { s with pc := .countUnread }
  | .countUnread => { s with pc := .invoke s.unread.length }
  | .invoke => match s.pc with
    | .invoke n =>
      let s := { s with pc := .store }
      if 0 < n then s.invokeCallback else s
    | _ => s
  | .store => { s with stored := true, pc := .setListener }
  | .setListener =>
    { s with enabled := s.enabled || s.listenerOk, pc := .idle, registering := false }

/-- One step; `none` when the action cannot run. -/
def step (s : State) (a : Action) : Option State := if canRun s a then some (apply s a) else none

/-- Run actions in order; `none` as soon as one is not enabled. -/
def run (s : State) : List Action → Option State
  | [] => some s
  | a :: as => (step s a).bind fun t => run t as

/-- The moment the registration of `cb` begins on a service that has no callback, with a
`set_listener` that will succeed.  The reader's contents, its mask and the queued runs
are arbitrary. -/
structure State.Begins (s : State) : Prop where
  pc_eq : s.pc = .getStatusChanges
  listenerOk_eq : s.listenerOk = true
  stored_eq : s.stored = false
  registering_eq : s.registering = true
  waiting_eq : s.waiting = []
  window_eq : s.window = []

/-- No call is running and no queued run is left. -/
def State.Quiescent (s : State) : Prop := s.pc = .idle ∧ s.queued = 0

end RmwGurumdds.Interleaving
