import RmwGurumdds.Model.Types

/-!
# The notification gate

`rmw_service_set_on_new_request_callback` and the `on_data_available` handler that
`rmw_create_service` builds into `request_listener` share `event_callback_data`: the
stored callback, its user data, and the mutex both run under.  A call first invokes a new
callback once if requests are already unread, then stores it, and then installs
`request_listener` on the request reader with a mask built from the reader's triggered
statuses: `DATA_AVAILABLE` or'ed in for a callback, masked out for none.

The gate is what the two read and write: the stored callback and user data, and the mask
last installed on the reader.  The reader is created with no listener and the empty mask
(`dds_Subscriber_create_datareader(..., nullptr, 0)`), and the `ServiceInfo` is
value-initialised, so a new service starts with no callback.  The value of
`dds_DATA_AVAILABLE_STATUS` comes from the transport's headers, which are not part of
this source, so it is a parameter.  A failing `dds_DataReader_set_listener` is taken to
leave the installed listener and mask as they were.
-/

namespace RmwGurumdds.Notification

variable {Cb Ud : Type}

/-- `event_callback_data` and the listener mask installed on `request_reader`. -/
structure Gate (Cb Ud : Type) where
  callback : Option Cb
  userData : Option Ud
  mask : BitVec 32
  deriving DecidableEq

/-- The gate of a service `rmw_create_service` has just returned. -/
def Gate.initial : Gate Cb Ud := ⟨none, none, 0⟩

/-- One call of `rmw_service_set_on_new_request_callback`, with what the reader answers
during it: `dds_DataReader_get_status_changes(request_reader)`, `count_unread()`, and
whether `dds_DataReader_set_listener` returns `dds_RETCODE_OK`. -/
structure Request (Cb Ud : Type) where
  callback : Option Cb
  userData : Option Ud
  statusChanges : BitVec 32
  unreadCount : ℕ
  setListener : Bool
  deriving DecidableEq

/-- What one call leaves behind: the return code, the error state, the gate, and the
synchronous `callback(user_data, unread_count)` when it is made. -/
structure Result (Cb Ud : Type) where
  ret : RmwRet
  error : Option ErrorMsg
  gate : Gate Cb Ud
  invoked : Option (Cb × Option Ud × ℕ)
  deriving DecidableEq

section

variable (dataAvailableStatus : BitVec 32)

/-- Lines 942, 953 and 958: the triggered statuses, with `DATA_AVAILABLE` or'ed in for a
callback and masked out for none. -/
def listenerMask (callback : Option Cb) (statusChanges : BitVec 32) : BitVec 32 :=
  if callback.isSome then statusChanges ||| dataAvailableStatus
  else statusChanges &&& ~~~dataAvailableStatus

/-- `rmw_service_set_on_new_request_callback`.  After the checks, under the gate's
mutex: the initial invocation, the store, and the listener; the result of
`dds_DataReader_set_listener` is the result of the call (`check_dds_ret_code`, which is
not part of this source, is taken to map every failure to `RMW_RET_ERROR`). -/
def rmwServiceSetOnNewRequestCallback (service : Option RmwService) (g : Gate Cb Ud)
    (r : Request Cb Ud) : Result Cb Ud :=
  let reject (ret : RmwRet) (error : ErrorMsg) : Result Cb Ud := ⟨ret, some error, g, none⟩
  match service with
  | none => reject .invalidArgument (.argumentIsNull "rmw_service")
  | some svc =>
    if !svc.implementationIdentifier then
      reject .incorrectRmwImplementation (.identifierMismatch "rmw_service")
    else if svc.data.isNone then reject .error (.text "invalid service data")
    else
      let invoked := r.callback.bind fun cb =>
        if 0 < r.unreadCount then some (cb, r.userData, r.unreadCount) else none
      let stored : Gate Cb Ud := match r.callback with
        | some cb => ⟨some cb, r.userData, g.mask⟩
        | none => ⟨none, none, g.mask⟩
      if r.setListener then
        ⟨.ok, none, { stored with mask := listenerMask dataAvailableStatus r.callback r.statusChanges },
          invoked⟩
      else ⟨.error, none, stored, invoked⟩

/-- The gate after a sequence of calls on one service. -/
def runCalls (service : Option RmwService) (g : Gate Cb Ud) (rs : List (Request Cb Ud)) :
    Gate Cb Ud :=
  rs.foldl (fun g r => (rmwServiceSetOnNewRequestCallback dataAvailableStatus service g r).gate) g

end

/-- The `on_data_available` handler of lines 329–336: under the gate's mutex, the stored
callback, if any, is invoked with its user data and the current unread count. -/
def onDataAvailable (g : Gate Cb Ud) (unreadCount : ℕ) : Option (Cb × Option Ud × ℕ) :=
  g.callback.map fun cb => (cb, g.userData, unreadCount)

end RmwGurumdds.Notification
