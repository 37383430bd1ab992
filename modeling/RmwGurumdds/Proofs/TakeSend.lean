import RmwGurumdds.Model.Take
import RmwGurumdds.Model.Send
import RmwGurumdds.Proofs.CreateRollback

/-!
# Take and send

Three results about the two data-path calls.

* Neither leaks nor frees twice: every path of `rmw_take_request` deletes the sequences
  it created and returns the loan it took, and every path of `rmw_send_response` that
  allocated an encode buffer frees it (`take_send_balanced`).
* What a take reports: a valid sample that the variant decodes comes back as
  `RMW_RET_OK` with `*taken = true` and the four header fields written from the sample
  (`rmwTakeRequest_decoded`), and every call ends with nothing taken, with such a sample,
  or with `*taken = true` for a sample whose `valid_data` is false, nothing decoded
  (`rmwTakeRequest_reported`, `rmwTakeRequest_lifecycle_sample_taken`).
* In the basic variant the request id a take writes is what a send hands back to the
  encoder, and the encoder's split of the joined sequence number gives back the two words
  the deserializer produced (`basic_request_id_round_trip`).
* In the enhanced variant, on a service `rmw_create_service` returned, every response
  published with the id of a request carries the request's own `seq` and `src_guid`,
  wherever the codec's conversions undo each other on them
  (`enhanced_request_id_round_trip`).
-/

namespace RmwGurumdds

open Ledger

/-! ## Take -/

namespace Take

private theorem loaned_balanced : loaned.Balanced := by decide

/-- Every path after the take has made the same calls. -/
private theorem takeLoaned_ledger (codec : Codec) (basic : Bool) (h : RmwServiceInfo) (o : Outcomes) :
    (takeLoaned codec basic h o).ledger = loaned := by
  unfold takeLoaned
  rcases o.rawTake with _ | _ | ⟨info, payload⟩ <;> simp only
  cases info.validData <;> cases payload <;> simp only [Bool.not_true, Bool.not_false]
  · rfl
  · rfl
  · rfl
  · cases decode codec basic o info <;> rfl

/-- A take past its argument checks either fails before the take, with `*taken = false`,
the header as it was, and the sequences created so far deleted, or makes the take. -/
theorem takeChecked_cases (codec : Codec) (svc : RmwService) (h : RmwServiceInfo)
    (o : Outcomes) :
    (∃ error, ∃ ledger ∈ ([[], [.acquire .dataValues, .release .dataValues],
        [.acquire .dataValues, .acquire .sampleInfos, .release .dataValues,
          .release .sampleInfos]] : List (Ledger Transient)),
      takeChecked codec svc h o = ⟨.error, some false, some h, false, some (.text error), ledger⟩) ∨
    ∃ info, svc.data = some info ∧ info.requestReader = true ∧
      takeChecked codec svc h o = takeLoaned codec info.serviceMappingBasic h o := by
  obtain ⟨_, _ | ⟨_, reader, _, _, _, _, typesupport, _⟩, _⟩ := svc
  · exact .inl ⟨_, _, by decide, rfl⟩
  obtain ⟨dataValues, sampleInfos, sampleSizes, _, _, _⟩ := o
  cases reader
  · exact .inl ⟨_, _, by decide, rfl⟩
  cases typesupport
  · exact .inl ⟨_, _, by decide, rfl⟩
  cases dataValues
  · exact .inl ⟨_, _, by decide, rfl⟩
  cases sampleInfos
  · exact .inl ⟨_, _, by decide, rfl⟩
  cases sampleSizes
  · exact .inl ⟨_, _, by decide, rfl⟩
  · exact .inr ⟨_, rfl, rfl, rfl⟩

private theorem takeChecked_balanced (codec : Codec) (svc : RmwService) (h : RmwServiceInfo)
    (o : Outcomes) : (takeChecked codec svc h o).ledger.Balanced := by
  rcases takeChecked_cases codec svc h o with ⟨e, l, hl, heq⟩ | ⟨info, -, -, heq⟩ <;> rw [heq]
  · simp only [List.mem_cons, List.not_mem_nil, or_false] at hl
    rcases hl with rfl | rfl | rfl <;> dsimp only <;> decide
  · rw [takeLoaned_ledger]; exact loaned_balanced

/-- The three ways a take that passed its argument checks can end: nothing taken, with
`*taken = false` and the header as it was; a valid sample decoded, with `RMW_RET_OK`,
`*taken = true` and the header written from the sample and its correlation data; or a
sample without valid data, with `RMW_RET_OK` and `*taken = true` but nothing decoded. -/
inductive Reported (codec : Codec) (svc : RmwService) (h : RmwServiceInfo) (o : Outcomes) :
    Result → Prop
  | notTaken {r : Result} :
    r.taken = some false → r.requestHeader = some h → r.decoded = false → Reported codec svc h o r
  | decoded {info : ServiceInfo} {sample : SampleInfo} {sn : BitVec 64} {guid : Gid} :
    svc.data = some info → o.rawTake = .sample sample true → sample.validData = true →
    decode codec info.serviceMappingBasic o sample = some (sn, guid) →
    Reported codec svc h o ⟨.ok, some true, some (header sample sn guid), true, none, loaned⟩
  | invalidSample {sample : SampleInfo} {payload : Bool} :
    o.rawTake = .sample sample payload → sample.validData = false →
    Reported codec svc h o ⟨.ok, some true, some h, false, none, loaned⟩

private theorem takeLoaned_reported (codec : Codec) {svc : RmwService} {info : ServiceInfo}
    (hinfo : svc.data = some info) (h : RmwServiceInfo) (o : Outcomes) :
    Reported codec svc h o (takeLoaned codec info.serviceMappingBasic h o) := by
  unfold takeLoaned
  split
  · exact .notTaken rfl rfl rfl
  · exact .notTaken rfl rfl rfl
  · rename_i sample payload hraw
    cases hv : sample.validData
    · exact .invalidSample hraw hv
    cases payload
    · exact .notTaken rfl rfl rfl
    simp only [ite_true, Bool.not_true]
    rcases hd : decode codec info.serviceMappingBasic o sample with _ | ⟨sn, guid⟩
    · exact .notTaken rfl rfl rfl
    · exact .decoded hinfo hraw hv hd

private theorem takeChecked_reported (codec : Codec) (svc : RmwService) (h : RmwServiceInfo)
    (o : Outcomes) : Reported codec svc h o (takeChecked codec svc h o) := by
  rcases takeChecked_cases codec svc h o with ⟨e, l, -, heq⟩ | ⟨info, hinfo, -, heq⟩ <;> rw [heq]
  · exact .notTaken rfl rfl rfl
  · exact takeLoaned_reported codec hinfo h o

/-- A take fails an argument check having obtained nothing, or goes on with its service
and header to `takeChecked`. -/
theorem rmwTakeRequest_cases (codec : Codec) (service : Option RmwService)
    (requestHeader : Option RmwServiceInfo) (rosRequest : Bool) (taken : Option Bool)
    (o : Outcomes) :
    (rmwTakeRequest codec service requestHeader rosRequest taken o).ledger = [] ∨
      ∃ svc h, service = some svc ∧
        rmwTakeRequest codec service requestHeader rosRequest taken o = takeChecked codec svc h o := by
  rcases service with _ | ⟨_ | _, _, _⟩
  · exact .inl rfl
  · exact .inl rfl
  rcases requestHeader with _ | h
  · exact .inl rfl
  cases rosRequest
  · exact .inl rfl
  rcases taken with _ | _
  · exact .inl rfl
  · exact .inr ⟨_, h, rfl, rfl⟩

theorem rmwTakeRequest_balanced (codec : Codec) (service : Option RmwService)
    (requestHeader : Option RmwServiceInfo) (rosRequest : Bool) (taken : Option Bool)
    (o : Outcomes) : (rmwTakeRequest codec service requestHeader rosRequest taken o).ledger.Balanced := by
  rcases rmwTakeRequest_cases codec service requestHeader rosRequest taken o with
    h | ⟨svc, h, -, heq⟩
  · rw [h]; decide
  · rw [heq]; exact takeChecked_balanced codec svc h o

/-- A take that takes from the transport does so on the request reader its service
records. -/
theorem rmwTakeRequest_reader_of_loan (codec : Codec) (service : Option RmwService)
    (requestHeader : Option RmwServiceInfo) (rosRequest : Bool) (taken : Option Bool)
    (o : Outcomes)
    (h : .acquire .loan ∈ (rmwTakeRequest codec service requestHeader rosRequest taken o).ledger) :
    ∃ svc info, service = some svc ∧ svc.data = some info ∧ info.requestReader = true := by
  rcases rmwTakeRequest_cases codec service requestHeader rosRequest taken o with
    hnil | ⟨svc, hdr, rfl, heq⟩
  · rw [hnil] at h; cases h
  rw [heq] at h
  rcases takeChecked_cases codec svc hdr o with ⟨e, l, hl, hc⟩ | ⟨info, hinfo, hreader, -⟩
  · rw [hc] at h
    simp only [List.mem_cons, List.not_mem_nil, or_false] at hl
    rcases hl with rfl | rfl | rfl <;> simp at h
  · exact ⟨svc, info, rfl, hinfo, hreader⟩

/-- What `rmw_take_request` reports, for every argument and every outcome of its calls:
an argument check fails and `*taken` and the header are left as they were, or the call
ends in one of the three ways of `Reported`. -/
theorem rmwTakeRequest_reported (codec : Codec) (service : Option RmwService)
    (requestHeader : Option RmwServiceInfo) (rosRequest : Bool) (taken : Option Bool)
    (o : Outcomes) :
    let r := rmwTakeRequest codec service requestHeader rosRequest taken o
    (r.ret ≠ .ok ∧ r.taken = taken ∧ r.requestHeader = requestHeader ∧ r.decoded = false) ∨
      ∃ svc h, service = some svc ∧ requestHeader = some h ∧ Reported codec svc h o r := by
  unfold rmwTakeRequest
  repeat' split
  all_goals first
    | exact Or.inl ⟨nofun, rfl, rfl, rfl⟩
    | exact Or.inr ⟨_, _, rfl, rfl, takeChecked_reported codec _ _ o⟩

/-- A valid sample with a payload that the variant decodes, taken on a service whose info
records the reader and the type support, once the three sequences are created: the call
returns `RMW_RET_OK` with `*taken = true` and the header written from the sample and its
correlation data. -/
theorem rmwTakeRequest_decoded (codec : Codec) {svc : RmwService} {info : ServiceInfo}
    (hid : svc.implementationIdentifier = true) (hinfo : svc.data = some info)
    (hreader : info.requestReader = true) (hts : info.serviceTypesupport = true)
    (h : RmwServiceInfo) (taken : Bool) {o : Outcomes}
    (hseq : o.dataValues = true ∧ o.sampleInfos = true ∧ o.sampleSizes = true)
    {sample : SampleInfo} (hraw : o.rawTake = .sample sample true)
    (hvalid : sample.validData = true) {sn : BitVec 64} {guid : Gid}
    (hd : decode codec info.serviceMappingBasic o sample = some (sn, guid)) :
    rmwTakeRequest codec (some svc) (some h) true (some taken) o =
      ⟨.ok, some true, some (header sample sn guid), true, none, loaned⟩ := by
  obtain ⟨hv, hi, hs⟩ := hseq
  simp [rmwTakeRequest, takeChecked, takeLoaned, hid, hinfo, hreader, hts, hv, hi, hs, hraw,
    hvalid, hd]

/-- A service whose pointers are all set, in the basic variant. -/
def servedBasic : RmwService :=
  ⟨true, some ⟨true, true, true, true, true, true, true, true⟩, true⟩

/-- A lifecycle-only sample: `valid_data` is false and there is no payload. -/
def lifecycleSample : SampleInfo := ⟨false, ⟨0, 0⟩, ⟨0, 0⟩, Gid.zero, ⟨0, 0⟩⟩

/-- The three sequences are created and the transport hands over the lifecycle sample. -/
def lifecycleTake : Outcomes := ⟨true, true, true, .sample lifecycleSample false, none, false⟩

/-- A lifecycle-only sample is reported as `RMW_RET_OK` with `*taken = true`, with nothing
decoded and the header as the caller left it, whatever the codec and the header. -/
theorem rmwTakeRequest_lifecycle_sample_taken (codec : Codec) (h : RmwServiceInfo) :
    rmwTakeRequest codec (some servedBasic) (some h) true (some false) lifecycleTake =
      ⟨.ok, some true, some h, false, none, loaned⟩ := rfl

end Take

/-! ## Send -/

namespace Send

private theorem sendEncoded_balanced (o : Outcomes) (c : Correlation) (before : Bool)
    (e : Option ErrorMsg) (e' : ErrorMsg) : (sendEncoded o c before e e').ledger.Balanced := by
  unfold sendEncoded
  split_ifs <;> (dsimp only; decide)

/-- Once it has a buffer, the basic variant hands the correlation data on whatever the
serializer and the write do. -/
private theorem sendEncoded_correlation_of_handed (o : Outcomes) (c : Correlation)
    (e : Option ErrorMsg) (e' : ErrorMsg) (halloc : o.allocateResponse = true) :
    (sendEncoded o c true e e').correlation = some c := by
  unfold sendEncoded
  split_ifs <;> simp_all

/-- A send fails a check having allocated nothing, or goes on to `sendEncoded` on a
service whose info records the response writer. -/
theorem rmwSendResponse_cases (codec : Codec) (service : Option RmwService)
    (requestHeader : Option RequestId) (rosResponse : Bool) (o : Outcomes) :
    ((rmwSendResponse codec service requestHeader rosResponse o).ledger = [] ∧
        (rmwSendResponse codec service requestHeader rosResponse o).published = false) ∨
      ∃ svc info, service = some svc ∧ svc.data = some info ∧ info.responseWriter = true ∧
        ∃ c before e e', rmwSendResponse codec service requestHeader rosResponse o =
          sendEncoded o c before e e' := by
  rcases service with _ | ⟨_ | _, data, _⟩
  · exact .inl ⟨rfl, rfl⟩
  · exact .inl ⟨rfl, rfl⟩
  rcases requestHeader with _ | h
  · exact .inl ⟨rfl, rfl⟩
  cases rosResponse
  · exact .inl ⟨rfl, rfl⟩
  rcases data with _ | ⟨_ | _, _, _, _, _, _, _ | _, basic⟩
  · exact .inl ⟨rfl, rfl⟩
  · exact .inl ⟨rfl, rfl⟩
  · exact .inl ⟨rfl, rfl⟩
  · exact .inl ⟨rfl, rfl⟩
  · cases basic <;> exact .inr ⟨_, _, rfl, rfl, rfl, _, _, _, _, rfl⟩

theorem rmwSendResponse_balanced (codec : Codec) (service : Option RmwService)
    (requestHeader : Option RequestId) (rosResponse : Bool) (o : Outcomes) :
    (rmwSendResponse codec service requestHeader rosResponse o).ledger.Balanced := by
  rcases rmwSendResponse_cases codec service requestHeader rosResponse o with
    ⟨h, -⟩ | ⟨-, -, -, -, -, c, before, e, e', heq⟩
  · rw [h]; decide
  · rw [heq]; exact sendEncoded_balanced o c before e e'

/-- A published response went through the response writer its service records. -/
theorem rmwSendResponse_writer_of_published (codec : Codec) (service : Option RmwService)
    (requestHeader : Option RequestId) (rosResponse : Bool) (o : Outcomes)
    (h : (rmwSendResponse codec service requestHeader rosResponse o).published = true) :
    ∃ svc info, service = some svc ∧ svc.data = some info ∧ info.responseWriter = true := by
  rcases rmwSendResponse_cases codec service requestHeader rosResponse o with
    ⟨-, hp⟩ | ⟨svc, info, hs, hinfo, hw, -⟩
  · rw [hp] at h; cases h
  · exact ⟨svc, info, hs, hinfo, hw⟩

/-- A published response has handed its correlation data on, in either variant. -/
private theorem sendEncoded_correlation_of_published {o : Outcomes} {c : Correlation} {before : Bool}
    {e : Option ErrorMsg} {e' : ErrorMsg} (h : (sendEncoded o c before e e').published = true) :
    (sendEncoded o c before e e').correlation = some c := by
  unfold sendEncoded at h ⊢
  split_ifs at h ⊢
  rfl

end Send

/-! ## Resources of a take and of a send -/

/-- For either wire variant and every outcome of every allocator, transport,
deserializer, serializer and write call: `rmw_take_request` deletes each sequence it
created exactly once and returns the loan exactly once if it took one, and
`rmw_send_response` frees its encode buffer exactly once if it allocated one. -/
theorem take_send_balanced (codec : Codec) :
    (∀ service requestHeader rosRequest taken o,
      (Take.rmwTakeRequest codec service requestHeader rosRequest taken o).ledger.Balanced) ∧
    (∀ service requestHeader rosResponse o,
      (Send.rmwSendResponse codec service requestHeader rosResponse o).ledger.Balanced) :=
  ⟨Take.rmwTakeRequest_balanced codec, Send.rmwSendResponse_balanced codec⟩

/-! ## Request ids of the basic variant -/

/-- In the basic variant, a request whose body the deserializer splits into `sn_high`,
`sn_low` and `client_guid` gets the request id `⟨client_guid, join sn_high sn_low⟩`;
handed back to `rmw_send_response` unchanged, that id reaches `serialize_response_basic`
as it is.  The joined number is `sn_high * 2^32 + sn_low`, its split gives back both
words, and every 64-bit sequence number is the join of its own split. -/
theorem basic_request_id_round_trip (codec : Codec) {svc : RmwService} {info : ServiceInfo}
    (hid : svc.implementationIdentifier = true) (hdata : svc.data = some info)
    (hbasic : info.serviceMappingBasic = true) (hreader : info.requestReader = true)
    (hwriter : info.responseWriter = true) (hts : info.serviceTypesupport = true)
    (h₀ : RmwServiceInfo) (t₀ : Bool) {o : Take.Outcomes}
    (hseq : o.dataValues = true ∧ o.sampleInfos = true ∧ o.sampleSizes = true)
    {sample : Take.SampleInfo} (hvalid : sample.validData = true)
    (htake : o.rawTake = .sample sample true) {snHigh snLow : BitVec 32} {guid : Gid}
    (hdes : o.deserializeBasic = some (snHigh, snLow, guid)) {os : Send.Outcomes}
    (halloc : os.allocateResponse = true) :
    ∃ h, (Take.rmwTakeRequest codec (some svc) (some h₀) true (some t₀) o).requestHeader =
        some h ∧ h.requestId = ⟨guid, joinSequenceNumber snHigh snLow⟩ ∧
      (Send.rmwSendResponse codec (some svc) (some h.requestId) true os).correlation =
        some (.basic (joinSequenceNumber snHigh snLow) guid) ∧
      (joinSequenceNumber snHigh snLow).toInt = snHigh.toInt * 2 ^ 32 + snLow.toNat ∧
      splitSequenceNumber (joinSequenceNumber snHigh snLow) = (snHigh, snLow) ∧
      ∀ sn, joinSequenceNumber (splitSequenceNumber sn).1 (splitSequenceNumber sn).2 = sn := by
  obtain ⟨hdv, hsi, hss⟩ := hseq
  refine ⟨Take.header sample (joinSequenceNumber snHigh snLow) guid, ?_, rfl, ?_,
    toInt_joinSequenceNumber snHigh snLow, splitSequenceNumber_join snHigh snLow,
    joinSequenceNumber_split⟩
  · simp [Take.rmwTakeRequest, Take.takeChecked, Take.takeLoaned, Take.decode, hid, hdata,
      hbasic, hreader, hts, hdv, hsi, hss, htake, hvalid, hdes]
  · simp [Send.rmwSendResponse, Take.header, hid, hdata, hwriter, hts, hbasic,
      Send.sendEncoded_correlation_of_handed os _ _ _ halloc]

/-- The round trip for a negative high word and a low word past `2^31`. -/
theorem basic_request_id_round_trip_negative :
    let sample : Take.SampleInfo := ⟨true, ⟨0, 0⟩, ⟨0, 0⟩, Gid.zero, ⟨0, 0⟩⟩
    let o : Take.Outcomes :=
      ⟨true, true, true, .sample sample true, some (0xFFFFFFFF, 0x80000000, Gid.zero), false⟩
    ∃ h, (Take.rmwTakeRequest ⟨id, fun _ => 0, fun _ => ⟨0, 0⟩, id⟩ (some Take.servedBasic)
        (some ⟨0, 0, ⟨Gid.zero, 0⟩⟩) true (some false) o).requestHeader = some h ∧
      h.requestId = ⟨Gid.zero, joinSequenceNumber 0xFFFFFFFF 0x80000000⟩ ∧
      (Send.rmwSendResponse ⟨id, fun _ => 0, fun _ => ⟨0, 0⟩, id⟩ (some Take.servedBasic)
          (some h.requestId) true ⟨true, true, true⟩).correlation =
        some (.basic (joinSequenceNumber 0xFFFFFFFF 0x80000000) Gid.zero) ∧
      (joinSequenceNumber 0xFFFFFFFF 0x80000000).toInt =
        (0xFFFFFFFF : BitVec 32).toInt * 2 ^ 32 + (0x80000000 : BitVec 32).toNat ∧
      splitSequenceNumber (joinSequenceNumber 0xFFFFFFFF 0x80000000) = (0xFFFFFFFF, 0x80000000) ∧
      ∀ sn, joinSequenceNumber (splitSequenceNumber sn).1 (splitSequenceNumber sn).2 = sn :=
  basic_request_id_round_trip _ rfl rfl rfl rfl rfl rfl _ _ ⟨rfl, rfl, rfl⟩ rfl rfl rfl rfl

/-! ## Request ids of the enhanced variant -/

/-- In the enhanced variant, a valid request taken on a service `rmw_create_service`
returned gets the request id the codec converts from the sample's `src_guid` and `seq`.
Every response published with that id carries in its sample info the codec's conversions
back, which are the request's own `seq` and `src_guid` wherever the codec undoes itself on
them. -/
theorem enhanced_request_id_round_trip (codec : Codec) {args : Create.Args}
    {oc : Create.Outcomes} {svc : RmwService}
    (hsvc : (Create.rmwCreateService args oc).service = some svc)
    (henhanced : args.serviceMappingBasic = false) (h₀ : RmwServiceInfo) (t₀ : Bool)
    {o : Take.Outcomes} (hseq : o.dataValues = true ∧ o.sampleInfos = true ∧ o.sampleSizes = true)
    {sample : Take.SampleInfo} (hvalid : sample.validData = true)
    (htake : o.rawTake = .sample sample true) (hdes : o.deserializeEnhanced = true)
    (hsn : codec.rosSnToDdsSn (codec.ddsSnToRosSn sample.seq) = sample.seq)
    (hguid : codec.rosGuidToDdsGuid (codec.ddsGuidToRosGuid sample.srcGuid) = sample.srcGuid) :
    ∃ h, (Take.rmwTakeRequest codec (some svc) (some h₀) true (some t₀) o).requestHeader =
        some h ∧
      h.requestId = ⟨codec.ddsGuidToRosGuid sample.srcGuid, codec.ddsSnToRosSn sample.seq⟩ ∧
      ∀ os, (Send.rmwSendResponse codec (some svc) (some h.requestId) true os).published = true →
        (Send.rmwSendResponse codec (some svc) (some h.requestId) true os).correlation =
          some (.enhanced sample.seq sample.srcGuid) := by
  obtain rfl := Create.rmwCreateService_service args oc hsvc
  obtain ⟨hdv, hsi, hss⟩ := hseq
  refine ⟨Take.header sample (codec.ddsSnToRosSn sample.seq) (codec.ddsGuidToRosGuid sample.srcGuid),
    ?_, rfl, fun os hpub => ?_⟩
  · simp [Take.rmwTakeRequest, Take.takeChecked, Take.takeLoaned, Take.decode, henhanced, hdv,
      hsi, hss, htake, hvalid, hdes]
  · simp only [Send.rmwSendResponse, Take.header, henhanced, Bool.not_true, Bool.false_eq_true,
      if_false] at hpub ⊢
    rw [Send.sendEncoded_correlation_of_published hpub, hsn, hguid]

/-- The round trip on the service of a run where every call of `rmw_create_service`
succeeds, with a codec that converts sequence numbers by the basic variant's join and
split, for a negative high word. -/
theorem enhanced_request_id_round_trip_created :
    let codec : Codec := ⟨id, fun sn => joinSequenceNumber sn.high sn.low,
      fun sn => ⟨(splitSequenceNumber sn).1, (splitSequenceNumber sn).2⟩, id⟩
    let sample : Take.SampleInfo := ⟨true, ⟨0, 0⟩, ⟨0, 0⟩, Gid.zero, ⟨0xFFFFFFFF, 7⟩⟩
    let svc : RmwService := ⟨true, some ⟨true, true, true, true, true, true, true, false⟩, true⟩
    ∃ h, (Take.rmwTakeRequest codec (some svc) (some ⟨0, 0, ⟨Gid.zero, 0⟩⟩) true (some false)
        ⟨true, true, true, .sample sample true, none, true⟩).requestHeader = some h ∧
      h.requestId = ⟨Gid.zero, joinSequenceNumber 0xFFFFFFFF 7⟩ ∧
      ∀ os, (Send.rmwSendResponse codec (some svc) (some h.requestId) true os).published = true →
        (Send.rmwSendResponse codec (some svc) (some h.requestId) true os).correlation =
          some (.enhanced ⟨0xFFFFFFFF, 7⟩ Gid.zero) := by
  intro codec sample svc
  exact @enhanced_request_id_round_trip codec { Create.okArgs with serviceMappingBasic := false }
    Create.okOutcomes svc rfl rfl _ _ ⟨true, true, true, .sample sample true, none, true⟩
    ⟨rfl, rfl, rfl⟩ sample rfl rfl rfl
    (congrArg (fun p => (⟨p.1, p.2⟩ : DdsSequenceNumber)) (splitSequenceNumber_join _ _)) rfl

end RmwGurumdds
