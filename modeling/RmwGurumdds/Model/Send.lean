import RmwGurumdds.Model.Types

/-!
# `rmw_send_response`

After its checks the function allocates an encode buffer with the variant's allocator,
serializes the response into it, and writes it.  The basic variant hands the request id
to `serialize_response_basic`, which embeds it in the body; the enhanced variant puts the
converted sequence number and guid into the sample info of the write.  Every path that
has a buffer frees it once.
-/

namespace RmwGurumdds.Send

/-- One flag per collaborator call of `rmw_send_response`, `true` when it succeeds: the
variant's `allocate_response_*` returns non-null, its `serialize_response_*` returns true,
and `dds_DataWriter_raw_write` (or `_w_sampleinfoex`) returns `dds_RETCODE_OK`. -/
structure Outcomes where
  allocateResponse : Bool
  serialize : Bool
  write : Bool
  deriving DecidableEq, Repr

/-- The encode buffer of one send. -/
inductive Buffer
  | ddsResponse
  deriving DecidableEq, Repr, Fintype

/-- The correlation data a send hands on: the sequence number and writer guid passed to
`serialize_response_basic`, or the `seq` and `src_guid` of the sample info of the enhanced
write. -/
inductive Correlation
  | basic (sequenceNumber : BitVec 64) (writerGuid : Gid)
  | enhanced (seq : DdsSequenceNumber) (srcGuid : Gid)
  deriving DecidableEq

/-- What `rmw_send_response` leaves behind: the return code, the error state, the
correlation data once the call gets as far as handing them on, whether the write was made
and succeeded, and the ledger of its buffer. -/
structure Result where
  ret : RmwRet
  error : Option ErrorMsg
  correlation : Option Correlation
  published : Bool
  ledger : Ledger Buffer
  deriving DecidableEq

/-- Lines 842–918: allocate, serialize and write; the buffer is freed on every path that
has one.  `correlation` is what the variant hands on, and `handedBefore` says whether it
is handed to the serializer (basic) or only to the write (enhanced). -/
def sendEncoded (o : Outcomes) (correlation : Correlation) (handedBefore : Bool)
    (serializeError : Option ErrorMsg) (writeError : ErrorMsg) : Result :=
  let buffer : Ledger Buffer := [.acquire .ddsResponse, .release .ddsResponse]
  if !o.allocateResponse then ⟨.error, none, none, false, []⟩
  else if !o.serialize then
    ⟨.error, serializeError, if handedBefore then some correlation else none, false, buffer⟩
  else if !o.write then ⟨.error, some writeError, some correlation, false, buffer⟩
  else ⟨.ok, none, some correlation, true, buffer⟩

/-- `rmw_send_response`. -/
def rmwSendResponse (codec : Codec) (service : Option RmwService)
    (requestHeader : Option RequestId) (rosResponse : Bool) (o : Outcomes) : Result :=
  let reject (ret : RmwRet) (error : ErrorMsg) : Result := ⟨ret, some error, none, false, []⟩
  match service, requestHeader with
  | none, _ => reject .invalidArgument (.argumentIsNull "service")
  | some svc, h =>
    if !svc.implementationIdentifier then
      reject .incorrectRmwImplementation (.identifierMismatch "service")
    else match h with
    | none => reject .invalidArgument (.argumentIsNull "request_header")
    | some h =>
      if !rosResponse then reject .invalidArgument (.argumentIsNull "ros_response")
      else match svc.data with
      | none => reject .error (.text "service info handle is null")
      | some info =>
        if !info.responseWriter then reject .error (.text "response writer is null")
        else if !info.serviceTypesupport then reject .error (.text "typesupport handle is null")
        else if info.serviceMappingBasic then
          sendEncoded o (.basic h.sequenceNumber h.writerGuid) true
            (some (.text "failed to serialize message")) (.text "failed to publish data")
        else
          sendEncoded o
            (.enhanced (codec.rosSnToDdsSn h.sequenceNumber) (codec.rosGuidToDdsGuid h.writerGuid))
            false none (.text "failed to send response")

end RmwGurumdds.Send
