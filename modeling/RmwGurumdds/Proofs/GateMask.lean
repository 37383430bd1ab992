import RmwGurumdds.Model.Notification
import RmwGurumdds.Proofs.CreateRollback

/-!
# The mask the gate installs

Over any sequence of `rmw_service_set_on_new_request_callback` calls on a service that
`rmw_create_service` returned, with any triggered statuses and any outcome of
`dds_DataReader_set_listener`:

* the stored callback and user data are those of the last call, whether or not its
  `set_listener` succeeded;
* `DATA_AVAILABLE` is enabled in the installed mask exactly when the last call whose
  `set_listener` succeeded passed a callback, and the mask is still the empty mask of a new
  reader when none did (`rmwServiceSetOnNewRequestCallback_run`);
* a call that fails leaves the installed mask as it was;
* the whole installed mask is the last successful call's listener mask, so every status
  that had changed on the reader when that call read them is enabled with
  `DATA_AVAILABLE` (`runCalls_mask_last_listener`).

The callback is stored before `set_listener` is tried and is not put back when it fails,
so a callback can be stored while the reader's mask is still empty; and a registration
made while another status has changed on the reader enables that status too
(`rmwServiceSetOnNewRequestCallback_failed_listener`).

## Strategy

One lemma says what a call does to the gate; the run is a `foldl`, so the statements
about the last call go by induction on the call list from its end.
-/

namespace RmwGurumdds.Notification

variable {Cb Ud : Type} (da : BitVec 32)

/-! ## The installed bit -/

@[simp] theorem listenerMask_some_and (cb : Cb) (c : BitVec 32) :
    listenerMask da (some cb) c &&& da = da := by
  ext i
  simp only [listenerMask, Option.isSome_some, ite_true, BitVec.getLsbD_and, BitVec.getLsbD_or]
  cases c.getLsbD i <;> cases da.getLsbD i <;> rfl

@[simp] theorem listenerMask_none_and (c : BitVec 32) :
    listenerMask da (none : Option Cb) c &&& da = 0 := by
  ext i
  simp only [listenerMask, Option.isSome_none, Bool.false_eq_true, ite_false,
    BitVec.getLsbD_and, BitVec.getLsbD_not, BitVec.getLsbD_zero]
  cases da.getLsbD i <;> simp

/-! ## One call -/

section Call

variable {svc : RmwService} {info : ServiceInfo} (hid : svc.implementationIdentifier = true)
  (hdata : svc.data = some info)
include hid hdata

/-- A call the checks let through stores its callback, with its user data only for a
callback, and installs its mask only when `set_listener` succeeds. -/
theorem rmwServiceSetOnNewRequestCallback_gate (g : Gate Cb Ud) (r : Request Cb Ud) :
    (rmwServiceSetOnNewRequestCallback da (some svc) g r).gate =
      ⟨r.callback, if r.callback.isSome then r.userData else none,
        if r.setListener then listenerMask da r.callback r.statusChanges else g.mask⟩ := by
  cases hc : r.callback <;> cases hl : r.setListener <;>
    simp [rmwServiceSetOnNewRequestCallback, hid, hdata, hc, hl]

theorem rmwServiceSetOnNewRequestCallback_ret (g : Gate Cb Ud) (r : Request Cb Ud) :
    (rmwServiceSetOnNewRequestCallback da (some svc) g r).ret =
      if r.setListener then .ok else .error := by
  cases hl : r.setListener <;> simp [rmwServiceSetOnNewRequestCallback, hid, hdata, hl]

/-- The initial invocation is made for a callback when requests are unread, whatever
`set_listener` later does. -/
theorem rmwServiceSetOnNewRequestCallback_invoked (g : Gate Cb Ud) (r : Request Cb Ud) :
    (rmwServiceSetOnNewRequestCallback da (some svc) g r).invoked =
      r.callback.bind fun cb =>
        if 0 < r.unreadCount then some (cb, r.userData, r.unreadCount) else none := by
  cases hl : r.setListener <;> simp [rmwServiceSetOnNewRequestCallback, hid, hdata, hl]

end Call

/-- A call that sets no error message got past its checks: its service has a
`ServiceInfo`, whose reader it then asks for status changes and gives the listener. -/
theorem rmwServiceSetOnNewRequestCallback_info_of_error (service : Option RmwService)
    (g : Gate Cb Ud) (r : Request Cb Ud)
    (h : (rmwServiceSetOnNewRequestCallback da service g r).error = none) :
    ∃ svc info, service = some svc ∧ svc.data = some info := by
  rcases service with _ | ⟨_ | _, _ | info, _⟩
  · cases h
  · cases h
  · cases h
  · cases h
  · exact ⟨_, info, rfl, rfl⟩

/-- A call that does not return `RMW_RET_OK` leaves the installed mask as it was, whatever
the service. -/
private theorem rmwServiceSetOnNewRequestCallback_mask_of_error (service : Option RmwService)
    (g : Gate Cb Ud) (r : Request Cb Ud)
    (h : (rmwServiceSetOnNewRequestCallback da service g r).ret ≠ .ok) :
    (rmwServiceSetOnNewRequestCallback da service g r).gate.mask = g.mask := by
  rcases service with _ | svc
  · rfl
  cases hid : svc.implementationIdentifier
  · simp [rmwServiceSetOnNewRequestCallback, hid]
  rcases hdata : svc.data with _ | info
  · simp [rmwServiceSetOnNewRequestCallback, hid, hdata]
  rw [rmwServiceSetOnNewRequestCallback_ret da hid hdata] at h
  rw [rmwServiceSetOnNewRequestCallback_gate da hid hdata]
  cases hl : r.setListener <;> simp [hl] at h ⊢

/-! ## Runs -/

theorem runCalls_append_singleton (service : Option RmwService) (g : Gate Cb Ud)
    (rs : List (Request Cb Ud)) (r : Request Cb Ud) :
    runCalls da service g (rs ++ [r]) =
      (rmwServiceSetOnNewRequestCallback da service (runCalls da service g rs) r).gate := by
  simp [runCalls, List.foldl_append]

/-- On a service the checks let through, the gate after any calls from a new service's:
the last call's callback and user data, and the `DATA_AVAILABLE` bit of the last call
whose `set_listener` succeeded. -/
private theorem runCalls_initial {svc : RmwService} {info : ServiceInfo}
    (hid : svc.implementationIdentifier = true) (hdata : svc.data = some info)
    (rs : List (Request Cb Ud)) :
    let g := runCalls da (some svc) Gate.initial rs
    g.callback = rs.getLast?.bind Request.callback ∧
    g.userData = rs.getLast?.bind (fun r => if r.callback.isSome then r.userData else none) ∧
    (match (rs.filter Request.setListener).getLast? with
      | none => g.mask = 0
      | some r => g.mask &&& da = if r.callback.isSome then da else 0) := by
  induction rs using List.reverseRecOn with
  | nil => exact ⟨rfl, rfl, rfl⟩
  | append_singleton rs r ih =>
    obtain ⟨-, -, hmask⟩ := ih
    simp only [runCalls_append_singleton, rmwServiceSetOnNewRequestCallback_gate da hid hdata,
      List.getLast?_append, List.getLast?_singleton, Option.or_some, Option.some_bind,
      List.filter_append, List.filter_singleton]
    refine ⟨trivial, trivial, ?_⟩
    cases hl : r.setListener
    · simpa using hmask
    · cases hc : r.callback <;> simp [hc]

/-- On a service `rmw_create_service` returned, after any calls: the stored callback and
user data are the last call's, and `DATA_AVAILABLE` is enabled in the installed mask
exactly when the last call whose `set_listener` succeeded passed a callback (the mask is
the new reader's empty mask when none did); every call returns `RMW_RET_OK` exactly when
its `set_listener` succeeds, and one that fails leaves the mask as it was. -/
theorem rmwServiceSetOnNewRequestCallback_run {args : Create.Args} {o : Create.Outcomes}
    {svc : RmwService} (hsvc : (Create.rmwCreateService args o).service = some svc)
    (rs : List (Request Cb Ud)) :
    let g := runCalls da (some svc) Gate.initial rs
    g.callback = rs.getLast?.bind Request.callback ∧
    g.userData = rs.getLast?.bind (fun r => if r.callback.isSome then r.userData else none) ∧
    (match (rs.filter Request.setListener).getLast? with
      | none => g.mask = 0
      | some r => g.mask &&& da = if r.callback.isSome then da else 0) ∧
    ∀ (g : Gate Cb Ud) r,
      ((rmwServiceSetOnNewRequestCallback da (some svc) g r).ret = .ok ↔ r.setListener) ∧
      ((rmwServiceSetOnNewRequestCallback da (some svc) g r).ret ≠ .ok →
        (rmwServiceSetOnNewRequestCallback da (some svc) g r).gate.mask = g.mask) := by
  obtain ⟨-, -, rfl⟩ := Create.rmwCreateService_service_eq args o hsvc
  have hid : (Create.createdService args (Create.exec (Create.body o) []).1).implementationIdentifier
    = true := rfl
  have hdata : (Create.createdService args (Create.exec (Create.body o) []).1).data =
    some _ := rfl
  obtain ⟨hcb, hud, hmask⟩ := runCalls_initial da hid hdata rs
  refine ⟨hcb, hud, hmask, fun g r => ⟨?_, rmwServiceSetOnNewRequestCallback_mask_of_error da _ g r⟩⟩
  rw [rmwServiceSetOnNewRequestCallback_ret da hid hdata]
  cases r.setListener <;> simp

/-- A registration, then a clearing call whose `set_listener` fails: the callback is gone,
and `DATA_AVAILABLE` is still enabled. -/
theorem rmwServiceSetOnNewRequestCallback_run_failed_clear :
    let svc : RmwService := ⟨true, some ⟨true, true, true, true, true, true, true, true⟩, true⟩
    let rs : List (Request ℕ Unit) :=
      [⟨some 1, some (), 0x4000, 2, true⟩, ⟨none, none, 0, 0, false⟩]
    let g := runCalls 0x400 (some svc) Gate.initial rs
    g.callback = rs.getLast?.bind Request.callback ∧
    g.userData = rs.getLast?.bind (fun r => if r.callback.isSome then r.userData else none) ∧
    (match (rs.filter Request.setListener).getLast? with
      | none => g.mask = 0
      | some r => g.mask &&& 0x400 = if r.callback.isSome then 0x400 else 0) ∧
    ∀ (g : Gate ℕ Unit) r,
      ((rmwServiceSetOnNewRequestCallback 0x400 (some svc) g r).ret = .ok ↔ r.setListener) ∧
      ((rmwServiceSetOnNewRequestCallback 0x400 (some svc) g r).ret ≠ .ok →
        (rmwServiceSetOnNewRequestCallback 0x400 (some svc) g r).gate.mask = g.mask) :=
  rmwServiceSetOnNewRequestCallback_run 0x400
    (show (Create.rmwCreateService Create.okArgs Create.okOutcomes).service = some _ from rfl) _

/-- Two calls on a new service.  A callback registered while `set_listener` fails: the
call returns `RMW_RET_ERROR`, yet the callback is stored, and the mask is still the empty
one.  A callback registered while a status other than `DATA_AVAILABLE` (here `0x4000`) has
changed on the reader: the installed mask enables that status as well. -/
theorem rmwServiceSetOnNewRequestCallback_failed_listener :
    let svc := (Create.rmwCreateService Create.okArgs Create.okOutcomes).service
    let r := rmwServiceSetOnNewRequestCallback 0x400 svc (Gate.initial : Gate ℕ Unit)
      ⟨some 1, none, 0, 0, false⟩
    let matched := rmwServiceSetOnNewRequestCallback 0x400 svc (Gate.initial : Gate ℕ Unit)
      ⟨some 1, none, 0x4000, 0, true⟩
    r.ret = .error ∧ r.gate.callback = some 1 ∧ r.gate.mask = 0 ∧
      matched.ret = .ok ∧ matched.gate.mask = 0x4400 :=
  ⟨rfl, rfl, rfl, rfl, rfl⟩

/-- On a service `rmw_create_service` returned, after any calls the installed mask is the
whole listener mask of the last call whose `set_listener` succeeded: the statuses that had
changed on the reader when that call read them, with `DATA_AVAILABLE` added for a callback
and removed without one.  It is the new reader's empty mask while no call has succeeded. -/
theorem runCalls_mask_last_listener {args : Create.Args} {o : Create.Outcomes}
    {svc : RmwService} (hsvc : (Create.rmwCreateService args o).service = some svc)
    (rs : List (Request Cb Ud)) :
    (runCalls da (some svc) Gate.initial rs).mask =
      ((rs.filter Request.setListener).getLast?.map
        fun r => listenerMask da r.callback r.statusChanges).getD 0 := by
  obtain rfl := Create.rmwCreateService_service args o hsvc
  induction rs using List.reverseRecOn with
  | nil => rfl
  | append_singleton rs r ih =>
    rw [runCalls_append_singleton, rmwServiceSetOnNewRequestCallback_gate da rfl rfl,
      List.filter_append, List.filter_singleton]
    cases hl : r.setListener
    · simpa using ih
    · simp

/-- Two registrations that both succeed, the first while a status other than
`DATA_AVAILABLE` had changed: the second call's status changes are what stays enabled. -/
theorem runCalls_mask_last_listener_two :
    let rs : List (Request ℕ Unit) :=
      [⟨some 1, some (), 0x4000, 0, true⟩, ⟨some 2, none, 0x20, 1, true⟩]
    (runCalls 0x400 (some ⟨true, some ⟨true, true, true, true, true, true, true, true⟩, true⟩)
        Gate.initial rs).mask =
      ((rs.filter Request.setListener).getLast?.map
        fun r => listenerMask 0x400 r.callback r.statusChanges).getD 0 :=
  runCalls_mask_last_listener 0x400
    (show (Create.rmwCreateService Create.okArgs Create.okOutcomes).service =
      some ⟨true, some ⟨true, true, true, true, true, true, true, true⟩, true⟩ from rfl) _

end RmwGurumdds.Notification
