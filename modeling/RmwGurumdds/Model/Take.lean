import RmwGurumdds.Model.Types
import RmwGurumdds.Model.SequenceNumber

/-!
# `rmw_take_request`

After its argument checks the function sets `*taken = false`, creates three one-element
sequences, takes at most one sample with the call of the context's wire variant, and on
every path after the take returns the loan and deletes the three sequences.  A valid
sample with a payload is decoded by the variant's deserializer, and only then is the
request header written.  The last two lines, `*taken = true; return RMW_RET_OK;`, are
reached by a decoded sample and also by a sample whose `valid_data` is false.

The two variants differ only in where the correlation data come from (`decode`): the
basic variant gets the split sequence number and the writer guid from the deserializer,
the enhanced variant converts the extended sample info and deserializes the body alone.
-/

namespace RmwGurumdds.Take

/-- `dds_Time_t`. -/
structure DdsTime where
  sec : BitVec 32
  nanosec : BitVec 32
  deriving DecidableEq, Repr

/-- `t.sec * static_cast<int64_t>(1000000000) + t.nanosec`.  An `int32_t` number of
seconds times `10^9` stays inside `int64_t`, so the value is exact. -/
def DdsTime.nanoseconds (t : DdsTime) : ℤ := t.sec.toInt * 1000000000 + t.nanosec.toNat

/-- The fields of `dds_SampleInfo` and of the extended `dds_SampleInfoEx` the take reads. -/
structure SampleInfo where
  validData : Bool
  sourceTimestamp : DdsTime
  receptionTimestamp : DdsTime
  srcGuid : Gid
  seq : DdsSequenceNumber
  deriving DecidableEq

/-- What `dds_DataReader_raw_take` (basic) or `dds_DataReader_raw_take_w_sampleinfoex`
(enhanced) returns: `dds_RETCODE_NO_DATA`, any other code but `dds_RETCODE_OK`, or one
sample with its info and whether `dds_DataSeq_get(data_values, 0)` is non-null. -/
inductive RawTake
  | noData
  | error
  | sample (info : SampleInfo) (payload : Bool)
  deriving DecidableEq

/-- One flag or result per collaborator call of `rmw_take_request`: the three sequence
allocations, the take, and the two deserializers.  `deserialize_request_basic` gives
`none` when it fails, else the `sn_high`, `sn_low` and `client_guid` it writes. -/
structure Outcomes where
  dataValues : Bool
  sampleInfos : Bool
  sampleSizes : Bool
  rawTake : RawTake
  deserializeBasic : Option (BitVec 32 × BitVec 32 × Gid)
  deserializeEnhanced : Bool
  deriving DecidableEq

/-- The buffers one take obtains: the three sequences and the transport's loan. -/
inductive Transient
  | dataValues
  | sampleInfos
  | sampleSizes
  | loan
  deriving DecidableEq, Repr, Fintype

/-- What `rmw_take_request` leaves behind: the return code, `*taken` and
`*request_header` (`none` when the pointer is null), whether the deserializer has written
the sample into `ros_request`, the error state, and the ledger of its buffers. -/
structure Result where
  ret : RmwRet
  taken : Option Bool
  requestHeader : Option RmwServiceInfo
  decoded : Bool
  error : Option ErrorMsg
  ledger : Ledger Transient
  deriving DecidableEq

/-- The three sequences, created in order. -/
def created : Ledger Transient := [.acquire .dataValues, .acquire .sampleInfos, .acquire .sampleSizes]

/-- The calls that end every path after the take: the loan is returned and the three
sequences are deleted. -/
private def returnLoanAndDelete : Ledger Transient :=
  [.release .loan, .release .dataValues, .release .sampleInfos, .release .sampleSizes]

/-- The ledger of a path that made the take: created, taken, returned and deleted. -/
def loaned : Ledger Transient := created ++ [.acquire .loan] ++ returnLoanAndDelete

/-- The correlation data of a valid sample with a payload, when the variant's
deserializer succeeds: the sequence number and the writer guid for the request id. -/
def decode (codec : Codec) (basic : Bool) (o : Outcomes) (info : SampleInfo) :
    Option (BitVec 64 × Gid) :=
  if basic then
    o.deserializeBasic.map fun (snHigh, snLow, guid) => (joinSequenceNumber snHigh snLow, guid)
  else if o.deserializeEnhanced then
    some (codec.ddsSnToRosSn info.seq, codec.ddsGuidToRosGuid info.srcGuid)
  else none

/-- The request header written from a sample and its correlation data. -/
def header (info : SampleInfo) (sn : BitVec 64) (guid : Gid) : RmwServiceInfo where
  sourceTimestamp := info.sourceTimestamp.nanoseconds
  receivedTimestamp := info.receptionTimestamp.nanoseconds
  requestId := ⟨guid, sn⟩

/-- Lines 660–805: take one sample, decode it if it is valid, return the loan and
delete the sequences on every path. -/
def takeLoaned (codec : Codec) (basic : Bool) (h : RmwServiceInfo) (o : Outcomes) : Result :=
  match o.rawTake with
  | .noData => ⟨.ok, some false, some h, false, none, loaned⟩
  | .error => ⟨.error, some false, some h, false, some (.text "failed to take data"), loaned⟩
  | .sample info payload =>
    if info.validData then
      if !payload then ⟨.error, some false, some h, false, none, loaned⟩
      else match decode codec basic o info with
        | none => ⟨.error, some false, some h, false, none, loaned⟩
        | some (sn, guid) => ⟨.ok, some true, some (header info sn guid), true, none, loaned⟩
    else ⟨.ok, some true, some h, false, none, loaned⟩

/-- Lines 621–658, after `*taken = false`: the pointers of the `ServiceInfo`, then the
three sequences, each failure deleting the ones already created. -/
def takeChecked (codec : Codec) (svc : RmwService) (h : RmwServiceInfo) (o : Outcomes) :
    Result :=
  let fail (error : String) (ledger : Ledger Transient) : Result :=
    ⟨.error, some false, some h, false, some (.text error), ledger⟩
  match svc.data with
  | none => fail "service info handle is null" []
  | some info =>
    if !info.requestReader then fail "request reader is null" []
    else if !info.serviceTypesupport then fail "typesupport handle is null" []
    else if !o.dataValues then fail "failed to create data sequence" []
    else if !o.sampleInfos then
      fail "failed to create sample info sequence" [.acquire .dataValues, .release .dataValues]
    else if !o.sampleSizes then
      fail "failed to create sample size sequence"
        [.acquire .dataValues, .acquire .sampleInfos, .release .dataValues,
          .release .sampleInfos]
    else takeLoaned codec info.serviceMappingBasic h o

/-- `rmw_take_request`. -/
def rmwTakeRequest (codec : Codec) (service : Option RmwService)
    (requestHeader : Option RmwServiceInfo) (rosRequest : Bool) (taken : Option Bool)
    (o : Outcomes) : Result :=
  let reject (ret : RmwRet) (error : ErrorMsg) : Result :=
    ⟨ret, taken, requestHeader, false, some error, []⟩
  match service, requestHeader, taken with
  | none, _, _ => reject .invalidArgument (.argumentIsNull "service")
  | some svc, h, t =>
    if !svc.implementationIdentifier then
      reject .incorrectRmwImplementation (.identifierMismatch "service")
    else match h, t with
    | none, _ => reject .invalidArgument (.argumentIsNull "request_header")
    | some h, t =>
      if !rosRequest then reject .invalidArgument (.argumentIsNull "ros_request")
      else match t with
      | none => reject .invalidArgument (.argumentIsNull "taken")
      | some _ => takeChecked codec svc h o

end RmwGurumdds.Take
