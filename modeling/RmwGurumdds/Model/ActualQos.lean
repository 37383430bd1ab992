import RmwGurumdds.Model.Types

/-!
# Reading back the actual QoS

`rmw_service_response_publisher_get_actual_qos` and
`rmw_service_request_subscription_get_actual_qos` are one function on two entities: check
the arguments, read the entity's QoS record, convert it policy by policy into the caller's
`rmw_qos_profile_t`, and finalize the record.  A reader's QoS has no lifespan, so the
subscription variant leaves that policy as the caller had it.

The conversions `convert_*` live in `qos.hpp`, which is not part of this source, so they
are a parameter: one value per policy from the entity's QoS record (the depth is the
record's `history.depth`).  A profile is seen as one value per policy.
-/

namespace RmwGurumdds.ActualQos

/-- The policies of `rmw_qos_profile_t` the two functions write. -/
inductive Policy
  | reliability
  | durability
  | deadline
  | lifespan
  | liveliness
  | livelinessLeaseDuration
  | history
  | depth
  deriving DecidableEq, Repr

/-- A profile: one value per policy. -/
abbrev Profile (V : Type) := Policy → V

/-- What the two transport calls return: the entity's QoS record from
`dds_DataWriter_get_qos` or `dds_DataReader_get_qos` (`none` when it fails), and whether
the matching `*Qos_finalize` returns OK. -/
structure Outcomes (Q : Type) where
  getQos : Option Q
  finalize : Bool

/-- What a call leaves behind: the return code, the error state, and `*qos` (`none`
when `qos` is null). -/
structure Result (V : Type) where
  ret : RmwRet
  error : Option ErrorMsg
  qos : Option (Profile V)

variable {Q V : Type}

/-- The profile after the conversions: the policies in `written` from the record `q`, the
others as they were. -/
def convertPolicies (convert : Policy → Q → V) (written : List Policy) (q : Q)
    (profile : Profile V) : Profile V :=
  fun p => if p ∈ written then convert p q else profile p

/-- The body both functions share: the entity they read, their three messages, and the
policies they convert. -/
def getActualQos (entity : ServiceInfo → Bool) (entityNull getQosFailed finalizeFailed : String)
    (written : List Policy) (convert : Policy → Q → V) (service : Option RmwService)
    (qos : Option (Profile V)) (o : Outcomes Q) : Result V :=
  let reject (ret : RmwRet) (error : ErrorMsg) : Result V := ⟨ret, some error, qos⟩
  match service with
  | none => reject .invalidArgument (.argumentIsNull "service")
  | some svc =>
    if !svc.implementationIdentifier then
      reject .incorrectRmwImplementation (.identifierMismatch "service")
    else match qos with
    | none => reject .invalidArgument (.argumentIsNull "qos")
    | some profile =>
      match svc.data with
      | none => reject .error (.text "service info is null")
      | some info =>
        if !entity info then reject .error (.text entityNull)
        else match o.getQos with
        | none => reject .error (.text getQosFailed)
        | some q =>
          let profile := convertPolicies convert written q profile
          if !o.finalize then ⟨.error, some (.text finalizeFailed), some profile⟩
          else ⟨.ok, none, some profile⟩

/-- `rmw_service_response_publisher_get_actual_qos`, lines 504–552. -/
def rmwServiceResponsePublisherGetActualQos (convert : Policy → Q → V)
    (service : Option RmwService) (qos : Option (Profile V)) (o : Outcomes Q) : Result V :=
  getActualQos ServiceInfo.responseWriter "response writer is null"
    "publisher can't get data writer qos policies" "failed to finalize datawriter qos"
    [.reliability, .durability, .deadline, .lifespan, .liveliness, .livelinessLeaseDuration,
      .history, .depth]
    convert service qos o

/-- `rmw_service_request_subscription_get_actual_qos`, lines 554–601. -/
def rmwServiceRequestSubscriptionGetActualQos (convert : Policy → Q → V)
    (service : Option RmwService) (qos : Option (Profile V)) (o : Outcomes Q) : Result V :=
  getActualQos ServiceInfo.requestReader "request reader is null"
    "subscription can't get data reader qos policies" "failed to finalize datareader qos"
    [.reliability, .durability, .deadline, .liveliness, .livelinessLeaseDuration, .history,
      .depth]
    convert service qos o

/-! ## What a successful call has read -/

/-- A call that returns `RMW_RET_OK` has read the record of an entity its service's info
records. -/
theorem getActualQos_entity_of_ok (entity : ServiceInfo → Bool) (m₁ m₂ m₃ : String)
    (written : List Policy) (convert : Policy → Q → V) (service : Option RmwService)
    (qos : Option (Profile V)) (o : Outcomes Q)
    (h : (getActualQos entity m₁ m₂ m₃ written convert service qos o).ret = .ok) :
    ∃ svc info, service = some svc ∧ svc.data = some info ∧ entity info = true := by
  rcases service with _ | ⟨_ | _, _ | info, _⟩
  · cases h
  · cases h
  · cases h
  · rcases qos <;> cases h
  rcases qos with _ | profile
  · cases h
  cases he : entity info
  · simp [getActualQos, he] at h
  · exact ⟨_, info, rfl, rfl, he⟩

end RmwGurumdds.ActualQos
