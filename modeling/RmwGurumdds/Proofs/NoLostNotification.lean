import RmwGurumdds.Model.Interleaving
import RmwGurumdds.Proofs.GateMask

/-!
# Requests lost in the registration window

Follow the registration of `cb` from the moment it begins, through any interleaving of
arrivals, handler runs, takes and further registrations of `cb`, to a moment when no
call is running and no handler run is queued.

A request that arrives between the registration's `count_unread` and its `set_listener`
can be lost: `count_unread` has already been read, and `DATA_AVAILABLE` is not yet
enabled, so its arrival queues no handler run and `cb` is never invoked for it
(`window_arrival_unnotified`).  That window is the only place a request can be lost:
every other request still unread at such a moment has seen an invocation of `cb` after
its arrival (`unnotified_mem_window`).

The steps of the interleaving are those of the code: the five steps of a registration run
back to back do what one call of `rmw_service_set_on_new_request_callback` does
(`registration_refines`), and a queued handler run does what `on_data_available` does
(`handle_refines`).

## Strategy

An unnotified request is owed an invocation by whatever runs next: the registration's
initial invocation with a positive count while the registration is before it, a queued
handler run once `set_listener` has enabled `DATA_AVAILABLE`.  `State.Inv` says so, each
action keeps it (`inv_apply`, one case per action), and a quiescent state owes nothing.
-/

namespace RmwGurumdds.Interleaving

/-! ## The invariant -/

/-- A request that is unread, arrived after the registration began, has seen no
invocation of `cb` since, and did not arrive in the window. -/
def State.Unnotified (s : State) (request : ℕ) : Prop :=
  request ∈ s.unread ∧ request ∈ s.waiting ∧ request ∉ s.window

/-- What the registration still owes an unnotified request at each of its steps: a
positive count at the initial invocation, and after it there can be none. -/
def Phase.Owes : Phase → Prop
  | .invoke n => 0 < n
  | .store | .setListener => False
  | _ => True

/-- What makes sure an unnotified request will see `cb` invoked: the registration's
initial invocation while it runs, a queued handler run after it. -/
def State.Owed (s : State) : Prop := if s.registering then s.pc.Owes else 0 < s.queued

/-- How far the registration has got: while it runs, its `set_listener` will succeed and
`cb` is stored by the time that step is next; after it, `DATA_AVAILABLE` is enabled and
`cb` is stored. -/
def State.Control (s : State) : Prop :=
  if s.registering then
    s.listenerOk = true ∧ s.pc ≠ .idle ∧ (s.pc = .setListener → s.stored = true)
  else s.enabled = true ∧ s.stored = true

structure State.Inv (s : State) : Prop where
  control : s.Control
  owed : ∀ r, s.Unnotified r → s.Owed

variable {s : State}

private theorem Phase.owes_of_afterCount {p : Phase} (h : p.afterCount = false) : p.Owes := by
  cases p <;> simp_all [Phase.afterCount, Phase.Owes]

theorem State.Begins.inv (h : s.Begins) : s.Inv := by
  refine ⟨?_, fun r hr => ?_⟩
  · simp [State.Control, h.registering_eq, h.listenerOk_eq, h.pc_eq]
  · simp [State.Unnotified, h.waiting_eq] at hr

/-- A state where no call runs is past the registration. -/
theorem State.Inv.registering_of_idle (hi : s.Inv) (h : s.pc = .idle) :
    s.registering = false := by
  have hc := hi.control
  unfold State.Control at hc
  split at hc
  · exact absurd h hc.2.1
  · simpa using ‹¬s.registering = true›

/-- Once the registration is done, `DATA_AVAILABLE` is enabled and `cb` stored. -/
theorem State.Inv.registered (hi : s.Inv) (h : s.registering = false) :
    s.enabled = true ∧ s.stored = true := by
  simpa [State.Control, h] using hi.control

/-! ## One action -/

private theorem inv_arrive (hi : s.Inv) : (apply s .arrive).Inv := by
  refine ⟨hi.control, fun r ⟨hu, hw, hwin⟩ => ?_⟩
  simp only [apply, List.mem_append, List.mem_singleton, List.mem_cons, List.not_mem_nil,
    or_false] at hu hw hwin
  simp only [State.Owed, apply]
  cases hreg : s.registering
  · simp [(hi.registered hreg).1]
  rw [if_pos rfl]
  by_cases hn : r = s.next
  · subst hn
    cases hpc : s.pc.afterCount
    · exact Phase.owes_of_afterCount hpc
    · simp [hreg, hpc] at hwin
  · have hold : s.Unnotified r :=
      ⟨hu.resolve_right hn, hw.resolve_left hn, fun h => hwin (by split <;> simp [h])⟩
    simpa [State.Owed, hreg] using hi.owed r hold

private theorem inv_handle (hi : s.Inv) (hr : canRun s .handle = true) : (apply s .handle).Inv := by
  simp only [canRun, Bool.and_eq_true, beq_iff_eq, decide_eq_true_eq] at hr
  have hreg := hi.registering_of_idle hr.1
  have ⟨_, hstored⟩ := hi.registered hreg
  refine ⟨?_, fun r ⟨_, hw, _⟩ => ?_⟩
  · simpa [apply, hstored, State.invokeCallback, State.Control, hreg] using hi.registered hreg
  · simp [apply, hstored, State.invokeCallback] at hw

private theorem inv_take (hi : s.Inv) (request : ℕ) : (apply s (.take request)).Inv :=
  ⟨hi.control, fun r ⟨hu, hw, hwin⟩ => hi.owed r ⟨List.mem_of_mem_erase hu, hw, hwin⟩⟩

private theorem inv_begin (hi : s.Inv) (hr : canRun s (.begin ok) = true) :
    (apply s (.begin ok)).Inv := by
  simp only [canRun, beq_iff_eq] at hr
  have hreg := hi.registering_of_idle hr
  refine ⟨?_, fun r hu => ?_⟩
  · simpa [apply, State.Control, hreg] using hi.registered hreg
  · simpa [State.Owed, apply, hreg] using hi.owed r hu

private theorem inv_getStatusChanges (hi : s.Inv) (hr : canRun s .getStatusChanges = true) :
    (apply s .getStatusChanges).Inv := by
  simp only [canRun, beq_iff_eq] at hr
  have hc := hi.control
  refine ⟨?_, fun r hu => ?_⟩
  · cases hreg : s.registering <;> simp_all [State.Control, apply]
  · have := hi.owed r hu
    cases hreg : s.registering <;> simp_all [State.Owed, apply, Phase.Owes]

private theorem inv_countUnread (hi : s.Inv) (hr : canRun s .countUnread = true) :
    (apply s .countUnread).Inv := by
  simp only [canRun, beq_iff_eq] at hr
  have hc := hi.control
  refine ⟨?_, fun r hu => ?_⟩
  · cases hreg : s.registering <;> simp_all [State.Control, apply]
  · have := hi.owed r hu
    cases hreg : s.registering
    · simpa [State.Owed, apply, hreg] using this
    · simpa [State.Owed, apply, hreg, Phase.Owes] using List.length_pos_of_mem hu.1

private theorem inv_invoke (hi : s.Inv) (hr : canRun s .invoke = true) : (apply s .invoke).Inv := by
  simp only [canRun] at hr
  obtain ⟨n, hpc⟩ : ∃ n, s.pc = .invoke n := by
    cases h : s.pc <;> simp_all [Phase.isInvoke]
  have hc := hi.control
  refine ⟨?_, fun r ⟨hu, hw, hwin⟩ => ?_⟩
  · cases hreg : s.registering <;> by_cases hn : 0 < n <;>
      simp_all [State.Control, apply, State.invokeCallback]
  · by_cases hn : 0 < n
    · simp [apply, hpc, hn, State.invokeCallback] at hw
    · have := hi.owed r ⟨by simpa [apply, hpc, hn] using hu, by simpa [apply, hpc, hn] using hw,
        by simpa [apply, hpc, hn] using hwin⟩
      cases hreg : s.registering <;> simp_all [State.Owed, apply, Phase.Owes]

private theorem inv_store (hi : s.Inv) (hr : canRun s .store = true) : (apply s .store).Inv := by
  simp only [canRun, beq_iff_eq] at hr
  have hc := hi.control
  refine ⟨?_, fun r hu => ?_⟩
  · cases hreg : s.registering <;> simp_all [State.Control, apply]
  · have := hi.owed r hu
    cases hreg : s.registering <;> simp_all [State.Owed, apply, Phase.Owes]

private theorem inv_setListener (hi : s.Inv) (hr : canRun s .setListener = true) :
    (apply s .setListener).Inv := by
  simp only [canRun, beq_iff_eq] at hr
  have hc := hi.control
  refine ⟨?_, fun r hu => ?_⟩
  · cases hreg : s.registering <;> simp_all [State.Control, apply]
  · have := hi.owed r hu
    cases hreg : s.registering <;> simp_all [State.Owed, apply, Phase.Owes]

theorem inv_apply (hi : s.Inv) {a : Action} (hr : canRun s a = true) : (apply s a).Inv := by
  cases a with
  | arrive => exact inv_arrive hi
  | handle => exact inv_handle hi hr
  | take request => exact inv_take hi request
  | begin ok => exact inv_begin hi hr
  | getStatusChanges => exact inv_getStatusChanges hi hr
  | countUnread => exact inv_countUnread hi hr
  | invoke => exact inv_invoke hi hr
  | store => exact inv_store hi hr
  | setListener => exact inv_setListener hi hr

/-! ## Runs -/

theorem inv_run : ∀ (as : List Action) {s t : State}, s.Inv → run s as = some t → t.Inv
  | [], _, _, hi, h => by cases h; exact hi
  | a :: as, s, t, hi, h => by
    simp only [run, step] at h
    split at h
    · exact inv_run as (inv_apply hi ‹_›) h
    · cases h

/-- From the moment the registration of `cb` begins, in any interleaving that reaches a
quiescent state: an unread request that arrived after the registration began and has
seen no invocation of `cb` since arrived between the registration's `count_unread` and
its `set_listener`. -/
theorem unnotified_mem_window {s₀ s : State} (h₀ : s₀.Begins) (as : List Action)
    (hrun : run s₀ as = some s) (hq : s.Quiescent) :
    ∀ r ∈ s.unread, r ∈ s.waiting → r ∈ s.window := by
  intro r hu hw
  by_contra hwin
  have hi := inv_run as h₀.inv hrun
  have := hi.owed r ⟨hu, hw, hwin⟩
  simp [State.Owed, hi.registering_of_idle hq.1, hq.2] at this

/-- The registration begins on a service with nothing unread, no listener and nothing
queued. -/
def freshRegistration : State := ⟨[], 0, false, false, 0, .getStatusChanges, true, [], [], true⟩

/-- The registration runs through, with one arrival right after `count_unread`. -/
def windowArrival : List Action :=
  [.getStatusChanges, .countUnread, .arrive, .invoke, .store, .setListener]

/-- The request of the window run is unread and has not seen `cb`, and the window
accounts for it. -/
theorem unnotified_mem_window_fresh :
    ∃ s, run freshRegistration windowArrival = some s ∧ s.Quiescent ∧
      ∀ r ∈ s.unread, r ∈ s.waiting → r ∈ s.window :=
  ⟨_, rfl, ⟨rfl, rfl⟩,
    unnotified_mem_window (show freshRegistration.Begins from ⟨rfl, rfl, rfl, rfl, rfl, rfl⟩)
      windowArrival rfl ⟨rfl, rfl⟩⟩

/-- A request that arrives after `count_unread` has read zero and before `set_listener`
has enabled `DATA_AVAILABLE` is still unread once nothing is left to run, and `cb` has
never been invoked after its arrival. -/
theorem window_arrival_unnotified :
    freshRegistration.Begins ∧ ∃ s, run freshRegistration windowArrival = some s ∧
      s.Quiescent ∧ 0 ∈ s.unread ∧ 0 ∈ s.waiting :=
  ⟨⟨rfl, rfl, rfl, rfl, rfl, rfl⟩, _, rfl, ⟨rfl, rfl⟩, by decide, by decide⟩

/-! ## The steps as the code makes them -/

/-- The five steps of a call, run back to back with nothing in between. -/
private theorem run_call (hpc : s.pc = .getStatusChanges) :
    run s [.getStatusChanges, .countUnread, .invoke, .store, .setListener] =
      some { s with
        pc := .idle, stored := true, enabled := s.enabled || s.listenerOk, registering := false,
        waiting := if 0 < s.unread.length then [] else s.waiting } := by
  by_cases hn : 0 < s.unread.length <;>
    simp [run, step, canRun, apply, hpc, hn, Phase.isInvoke, State.invokeCallback]

/-- The five steps of a call, run back to back, do what one call of
`rmw_service_set_on_new_request_callback` with the callback does to the gate, seen
through the stored flag and the `DATA_AVAILABLE` bit: the callback is stored, the bit
ends as the code's mask has it, and the initial invocation is made exactly when the code
makes it. -/
theorem registration_refines (da : BitVec 32) {Cb Ud : Type} {svc : RmwService}
    {info : ServiceInfo} (hid : svc.implementationIdentifier = true)
    (hdata : svc.data = some info) (g : Notification.Gate Cb Ud) (cb : Cb) (ud : Option Ud)
    (changes : BitVec 32) (hpc : s.pc = .getStatusChanges)
    (henabled : s.enabled = (g.mask &&& da == da)) :
    let r := Notification.rmwServiceSetOnNewRequestCallback da (some svc) g
      ⟨some cb, ud, changes, s.unread.length, s.listenerOk⟩
    ∃ t, run s [.getStatusChanges, .countUnread, .invoke, .store, .setListener] = some t ∧
      t.pc = .idle ∧ t.unread = s.unread ∧ t.stored = r.gate.callback.isSome ∧
      t.enabled = (r.gate.mask &&& da == da) ∧
      (t.waiting = [] ↔ r.invoked.isSome ∨ s.waiting = []) := by
  simp only [Notification.rmwServiceSetOnNewRequestCallback_gate da hid hdata]
  refine ⟨_, run_call hpc, rfl, rfl, rfl, ?_, ?_⟩
  · cases hl : s.listenerOk <;> simp [hl, henabled]
  · rw [Notification.rmwServiceSetOnNewRequestCallback_invoked da hid hdata]
    by_cases hn : 0 < s.unread.length <;> simp [hn]

/-- The registration on a service with two unread requests, one of which arrived after it
began, against the code's call on a new gate: the initial invocation reaches both. -/
theorem registration_refines_unread :
    let s : State := ⟨[0, 1], 2, false, false, 0, .getStatusChanges, true, [1], [], true⟩
    let r := Notification.rmwServiceSetOnNewRequestCallback 0x400
      (some ⟨true, some ⟨true, true, true, true, true, true, true, true⟩, true⟩)
      (Notification.Gate.initial : Notification.Gate ℕ Unit)
      ⟨some 1, none, 0x4000, s.unread.length, s.listenerOk⟩
    ∃ t, run s [.getStatusChanges, .countUnread, .invoke, .store, .setListener] = some t ∧
      t.pc = .idle ∧ t.unread = s.unread ∧ t.stored = r.gate.callback.isSome ∧
      t.enabled = (r.gate.mask &&& 0x400 == 0x400) ∧
      (t.waiting = [] ↔ r.invoked.isSome ∨ s.waiting = []) :=
  registration_refines 0x400 rfl rfl _ 1 none 0x4000 rfl rfl

/-- A queued run of `on_data_available` does what the code's handler does on a gate that
holds a callback exactly when `cb` is stored: the run leaves the reader alone and uses up
one queued run, and every request that has arrived has seen an invocation after it
exactly when the handler makes one or none was waiting. -/
theorem handle_refines {Cb Ud : Type} (g : Notification.Gate Cb Ud)
    (hstored : s.stored = g.callback.isSome) (hr : canRun s .handle = true) :
    ∃ t, step s .handle = some t ∧ t.unread = s.unread ∧ t.queued + 1 = s.queued ∧
      (t.waiting = [] ↔ (Notification.onDataAvailable g s.unread.length).isSome ∨
        s.waiting = []) := by
  have hq : 0 < s.queued := by
    simp only [canRun, Bool.and_eq_true, decide_eq_true_eq] at hr
    exact hr.2
  refine ⟨_, if_pos hr, ?_, ?_, ?_⟩ <;>
    cases hs : s.stored <;> simp [apply, hs, State.invokeCallback]
  all_goals first | omega | simp [Notification.onDataAvailable, ← hstored, hs]

/-- A queued run with `cb` stored and a request waiting invokes `cb`. -/
theorem handle_refines_stored :
    let s : State := ⟨[0], 1, true, true, 1, .idle, true, [0], [], false⟩
    let g : Notification.Gate ℕ Unit := ⟨some 1, none, 0x400⟩
    ∃ t, step s .handle = some t ∧ t.unread = s.unread ∧ t.queued + 1 = s.queued ∧
      (t.waiting = [] ↔ (Notification.onDataAvailable g s.unread.length).isSome ∨
        s.waiting = []) :=
  handle_refines _ rfl rfl

end RmwGurumdds.Interleaving
