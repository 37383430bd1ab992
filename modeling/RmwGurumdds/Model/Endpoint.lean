import RmwGurumdds.Model.Create
import RmwGurumdds.Model.Take
import RmwGurumdds.Model.Send
import RmwGurumdds.Model.Notification
import RmwGurumdds.Model.Destroy

/-!
# A service endpoint over its lifetime

The functions of `rmw_service.cpp` act on one `rmw_service_t` between the call of
`rmw_create_service` that returned it and the call of `rmw_destroy_service` that frees it.
This module puts them together as one system: its state is what the caller holds, the
notification gate of the service's `ServiceInfo`, and the ledger of every resource any
call obtained or gave back, those of `rmw_create_service` first.

The calls the application can make are the ones that change this state:
`rmw_take_request`, `rmw_send_response`, `rmw_service_set_on_new_request_callback` and
`rmw_destroy_service`.  The two `get_actual_qos` functions only write the caller's profile,
so they change nothing here.  The application only calls on a service it still holds, so
no call can run after `rmw_destroy_service` has freed the service.

One field is ghost state, read by the statements and never by a step: `intact` says that
no call of `rmw_destroy_service` has so far returned an error after giving something back.
-/

namespace RmwGurumdds.Endpoint

/-- A resource of the endpoint, by the function that obtains it: what
`rmw_create_service` obtains and `rmw_destroy_service` gives back, the sequences and the
loan of a `rmw_take_request`, and the encode buffer of a `rmw_send_response`. -/
inductive Held
  | service (r : Resource)
  | take (t : Take.Transient)
  | send (b : Send.Buffer)
  deriving DecidableEq, Repr

/-- What the endpoint is between two calls: the caller's `rmw_service_t` (`none` once
`rmw_destroy_service` has freed it), the `event_callback_data` with the reader's listener
mask, every resource event so far, oldest first, and the ghost flag `intact`. -/
structure State (Cb Ud : Type) where
  service : Option RmwService
  gate : Notification.Gate Cb Ud
  ledger : Ledger Held
  intact : Bool

/-- A call of the application, with its arguments and the outcomes of its collaborators. -/
inductive Call (Cb Ud : Type)
  | takeRequest (requestHeader : Option RmwServiceInfo) (rosRequest : Bool)
      (taken : Option Bool) (o : Take.Outcomes)
  | sendResponse (requestHeader : Option RequestId) (rosResponse : Bool) (o : Send.Outcomes)
  | setOnNewRequestCallback (request : Notification.Request Cb Ud)
  | destroyService (args : Destroy.Args) (o : Destroy.Outcomes)

variable {Cb Ud : Type}

/-- The endpoint right after `rmw_create_service` returns. -/
def initial (args : Create.Args) (o : Create.Outcomes) : State Cb Ud where
  service := (Create.rmwCreateService args o).service
  gate := Notification.Gate.initial
  ledger := (Create.rmwCreateService args o).ledger.map (Event.map .service)
  intact := true

/-- What a call does to the endpoint. -/
def apply (codec : Codec) (dataAvailableStatus : BitVec 32) (s : State Cb Ud) :
    Call Cb Ud → State Cb Ud
  | .takeRequest requestHeader rosRequest taken o =>
    let r := Take.rmwTakeRequest codec s.service requestHeader rosRequest taken o
    { s with ledger := s.ledger ++ r.ledger.map (Event.map .take) }
  | .sendResponse requestHeader rosResponse o =>
    let r := Send.rmwSendResponse codec s.service requestHeader rosResponse o
    { s with ledger := s.ledger ++ r.ledger.map (Event.map .send) }
  | .setOnNewRequestCallback request =>
    let r := Notification.rmwServiceSetOnNewRequestCallback dataAvailableStatus s.service s.gate
      request
    { s with gate := r.gate }
  | .destroyService args o =>
    let r := Destroy.rmwDestroyService args s.service o
    { s with
      service := r.service
      ledger := s.ledger ++ r.ledger.map (Event.map .service)
      intact := s.intact && (decide (r.ret = .ok) || r.ledger.isEmpty) }

/-- One call; `none` when the caller no longer holds the service. -/
def step (codec : Codec) (dataAvailableStatus : BitVec 32) (s : State Cb Ud) (c : Call Cb Ud) :
    Option (State Cb Ud) :=
  if s.service.isSome then some (apply codec dataAvailableStatus s c) else none

/-- The states of an endpoint that `rmw_create_service` returned, after any calls. -/
inductive Reachable (codec : Codec) (dataAvailableStatus : BitVec 32) : State Cb Ud → Prop
  | created {args : Create.Args} {o : Create.Outcomes} :
    (Create.rmwCreateService args o).service.isSome →
      Reachable codec dataAvailableStatus (initial args o)
  | step {s t : State Cb Ud} {c : Call Cb Ud} : Reachable codec dataAvailableStatus s →
      step codec dataAvailableStatus s c = some t → Reachable codec dataAvailableStatus t

end RmwGurumdds.Endpoint
