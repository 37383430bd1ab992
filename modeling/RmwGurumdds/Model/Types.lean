import RmwGurumdds.Model.Ledger
import Mathlib.Tactic.DeriveFintype

/-!
# The data of a service endpoint

The records `rmw_service.cpp` reads and writes, as the functions of this project see
them.  Pointers are modelled by what the code tests about them: a pointer argument is an
`Option` (`none` is `nullptr`), and a pointer field of `ServiceInfo` is a flag saying
whether it is non-null.  A non-null field can only hold the handle of the same name that
`rmw_create_service` created, since every service owns exactly one of each, so the flag
is all the code ever learns from it.

Messages are kept: `ErrorMsg` is what a failing call leaves in the rcutils error state,
either set here with `RMW_SET_ERROR_MSG` or by one of the two rmw checking macros.
-/

namespace RmwGurumdds

/-- The `rmw_ret_t` values this file returns. -/
inductive RmwRet
  | ok
  | error
  | invalidArgument
  | incorrectRmwImplementation
  deriving DecidableEq, Repr

/-- What a failing call sets in the rcutils error state: the message of
`RMW_CHECK_ARGUMENT_FOR_NULL(argument, ...)` ("`argument` argument is null"), that of
`RMW_CHECK_TYPE_IDENTIFIERS_MATCH(element, ...)` (the element's implementation identifier
is not `RMW_GURUMDDS_ID`), or the text of `RMW_SET_ERROR_MSG(text)`. -/
inductive ErrorMsg
  | argumentIsNull (argument : String)
  | identifierMismatch (element : String)
  | text (message : String)
  deriving DecidableEq, Repr

/-- A 16-byte global identifier, `int8_t[RMW_GID_STORAGE_SIZE]` with the storage size of
the rmw releases that carry type hashes, as this file does. -/
structure Gid where
  bytes : List (BitVec 8)
  length_eq : bytes.length = 16
  deriving DecidableEq

/-- The all-zero identifier, `int8_t client_guid[16] = {0}`. -/
def Gid.zero : Gid := ⟨List.replicate 16 0, rfl⟩

instance : Inhabited Gid := ⟨Gid.zero⟩

/-- The handles, buffers and registrations of one service endpoint.  `rmw_create_service`
obtains all of them; the four QoS records only live inside it, and `graphEntry` is the
entry `graph_cache::on_service_created` adds to the graph cache. -/
inductive Resource
  | requestTypesupport
  | responseTypesupport
  | requestTopicQos
  | requestTopic
  | responseTopicQos
  | responseTopic
  | datareaderQos
  | requestReader
  | readCondition
  | datawriterQos
  | responseWriter
  | serviceInfo
  | dataSeq
  | infoSeq
  | rawDataSizes
  | rmwService
  | serviceName
  | graphEntry
  deriving DecidableEq, Repr, Fintype

/-- `rmw_gurumdds_cpp::ServiceInfo`, the fields this file reads: whether each entity and
sequence pointer and the type support pointer is non-null, and the context's
`service_mapping_basic`, which selects the basic (legacy) wire variant. -/
structure ServiceInfo where
  responseWriter : Bool
  requestReader : Bool
  readCondition : Bool
  dataSeq : Bool
  infoSeq : Bool
  rawDataSizes : Bool
  serviceTypesupport : Bool
  serviceMappingBasic : Bool
  deriving DecidableEq, Repr

/-- `rmw_service_t`: whether `implementation_identifier` is `RMW_GURUMDDS_ID`, the
`ServiceInfo` behind `data`, and whether `service_name` is non-null. -/
structure RmwService where
  implementationIdentifier : Bool
  data : Option ServiceInfo
  serviceName : Bool
  deriving DecidableEq, Repr

/-- `rmw_request_id_t`. -/
structure RequestId where
  writerGuid : Gid
  sequenceNumber : BitVec 64
  deriving DecidableEq

/-- `rmw_service_info_t`, the request header `rmw_take_request` fills in. -/
structure RmwServiceInfo where
  sourceTimestamp : ℤ
  receivedTimestamp : ℤ
  requestId : RequestId
  deriving DecidableEq

/-- `dds_SequenceNumber_t`: a signed high word and an unsigned low word. -/
structure DdsSequenceNumber where
  high : BitVec 32
  low : BitVec 32
  deriving DecidableEq, Repr

/-- The identity codec of `gid.hpp`, which is not part of this source: the conversions
between the transport's writer identities and sequence numbers and the protocol's.  The
model takes them as parameters, so every statement holds for whatever they compute, and
the ones that need two of them to undo each other say so as a hypothesis. -/
structure Codec where
  ddsGuidToRosGuid : Gid → Gid
  ddsSnToRosSn : DdsSequenceNumber → BitVec 64
  rosSnToDdsSn : BitVec 64 → DdsSequenceNumber
  rosGuidToDdsGuid : Gid → Gid

end RmwGurumdds
