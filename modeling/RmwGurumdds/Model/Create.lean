import RmwGurumdds.Model.Types

/-!
# `rmw_create_service`

The function checks its arguments, derives names, and then, holding the context's
endpoint mutex, obtains eighteen resources one after another.  A failing step either
jumps to the `fail:` label, which releases what the pointer variables still hold, or
returns `nullptr` on the spot: the three sequence allocations do the latter.

The straight-line part is written as a list of `Step`s run by `exec`, one step for each
block of the source, so the list in `body` reads like lines 159–326.  A step that fails
stops the run with the `Exit` the source takes.  The pointer variables are not stored:
each is assigned once, by the call that creates its resource, before `fail:` can be
reached, so it is non-null exactly when the ledger shows that resource obtained
(`nonNull`).  The two resources the fail label only looks at inside another's test,
`rmw_service->service_name` and `read_condition`, are obtained by an `andThen` step right
after the resource they depend on.

## Outcomes

Every collaborator is free: `Outcomes` holds one flag per call, `true` when the call
succeeds.  A statement over all `Outcomes` covers every combination of failures.
-/

namespace RmwGurumdds.Create

/-! ## Arguments and collaborator outcomes -/

/-- The arguments of `rmw_create_service` as its checks see them: whether `node` is
non-null and its `implementation_identifier` is `RMW_GURUMDDS_ID`, whether `type_supports`
is non-null, the service name, whether `qos_policies` is non-null, and
`ctx->service_mapping_basic` of the node's context. -/
structure Args where
  node : Bool
  nodeIdentifier : Bool
  typeSupports : Bool
  serviceName : Option String
  qosPolicies : Bool
  serviceMappingBasic : Bool
  deriving DecidableEq, Repr

/-- An entity created from a QoS record: the QoS computation, the creation, and the
finalisation of the record. -/
structure EntityOutcomes where
  qos : Bool
  create : Bool
  finalize : Bool
  deriving DecidableEq, Repr

/-- A topic: `lookup_topicdescription` finds it or not; a new topic is created from the
default topic QoS, an existing one is attached with `find_topic`. -/
structure TopicOutcomes where
  found : Bool
  ifNew : EntityOutcomes
  findTopic : Bool
  deriving DecidableEq, Repr

/-- One flag per collaborator call of `rmw_create_service`, `true` when it succeeds.
Three fields are values rather than flags: `avoidRosNamespaceConventions` is that field
of the adapted QoS, and `topicValidation` is `none` when the name is `RMW_TOPIC_VALID`,
else the reason string for the result.  `typeName` and `metastring` say that neither
string `create_service_type_name` or `create_service_metastring` returns is empty. -/
structure Outcomes where
  avoidRosNamespaceConventions : Bool
  validateFullTopicName : Bool
  topicValidation : Option String
  introspectionC : Bool
  introspectionCpp : Bool
  typeName : Bool
  metastring : Bool
  requestTypesupport : Bool
  requestRegisterType : Bool
  responseTypesupport : Bool
  responseRegisterType : Bool
  requestTopic : TopicOutcomes
  responseTopic : TopicOutcomes
  datareader : EntityOutcomes
  readcondition : Bool
  datawriter : EntityOutcomes
  serviceInfo : Bool
  dataSeq : Bool
  infoSeq : Bool
  rawDataSizes : Bool
  rmwServiceAllocate : Bool
  serviceNameAllocate : Bool
  onServiceCreated : Bool
  deriving DecidableEq, Repr

/-! ## Steps -/

/-- How a failing step leaves the body: `goto fail`, with the message set before the
jump, or `return nullptr` without passing the fail label. -/
inductive Exit
  | fail (error : Option ErrorMsg)
  | returnNull (error : ErrorMsg)
  deriving DecidableEq, Repr

/-- A collaborator call: whether it succeeds, and how the code leaves if not. -/
structure Call where
  ok : Bool
  exit : Exit
  deriving DecidableEq, Repr

/-- `goto fail` after `RMW_SET_ERROR_MSG(message)`. -/
def failWith (message : String) : Exit := .fail (some (.text message))

/-- The blocks of the body: a call that creates `r`; a call that creates nothing and can
fail; a QoS computation, an entity created from it and the finalisation of the QoS, where
a failed creation finalises the QoS before leaving; and a block followed by a call that
creates `r` from what the block created. -/
inductive Step
  | obtain (call : Call) (r : Resource)
  | check (call : Call)
  | entity (qos create finalize : Call) (qosR r : Resource)
  | andThen (block : Step) (call : Call) (r : Resource)
  deriving DecidableEq, Repr

/-- Whether a pointer variable is non-null: its resource was obtained in this call. -/
def nonNull (f : Ledger Resource) (r : Resource) : Bool := decide (0 < f.acquired r)

/-- A call that creates `r`, from the ledger so far. -/
def runObtain (c : Call) (r : Resource) (f : Ledger Resource) : Ledger Resource × Option Exit :=
  if c.ok then (f ++ [.acquire r], none) else (f, some c.exit)

/-- One step, from the ledger so far: the ledger after it, and the exit if it fails. -/
def Step.run : Step → Ledger Resource → Ledger Resource × Option Exit
  | .obtain c r, f => runObtain c r f
  | .check c, f => if c.ok then (f, none) else (f, some c.exit)
  | .entity qos create finalize qosR r, f =>
      if !qos.ok then (f, some qos.exit)
      else if !create.ok then (f ++ [.acquire qosR, .release qosR], some create.exit)
      else
        let f := f ++ [.acquire qosR, .acquire r, .release qosR]
        if finalize.ok then (f, none) else (f, some finalize.exit)
  | .andThen block c r, f =>
      match block.run f with
      | (f, none) => runObtain c r f
      | (f, some e) => (f, some e)

/-- Run the steps in order until one fails. -/
def exec : List Step → Ledger Resource → Ledger Resource × Option Exit
  | [], f => (f, none)
  | s :: rest, f =>
      match s.run f with
      | (f, none) => exec rest f
      | (f, some e) => (f, some e)

/-! ## The body, lines 159–326 -/

/-- Lines 187–257: look up a topic, then attach to it or create it. -/
def topicSteps (o : TopicOutcomes) (qosR r : Resource) : List Step :=
  if o.found then [.obtain ⟨o.findTopic, failWith "failed to find topic"⟩ r]
  else
    [.entity ⟨o.ifNew.qos, failWith "failed to get default topic qos"⟩
      ⟨o.ifNew.create, failWith "failed to create topic"⟩
      ⟨o.ifNew.finalize, failWith "failed to finalize topic qos"⟩ qosR r]

/-- From the first type support to the last sequence, in source order. -/
def body (o : Outcomes) : List Step :=
  [.obtain ⟨o.requestTypesupport, failWith "failed to create typesupport"⟩ .requestTypesupport,
    .check ⟨o.requestRegisterType, failWith "failed to register type"⟩,
    .obtain ⟨o.responseTypesupport, failWith "failed to create typesupport"⟩
      .responseTypesupport,
    .check ⟨o.responseRegisterType, failWith "failed to register type"⟩] ++
  topicSteps o.requestTopic .requestTopicQos .requestTopic ++
  topicSteps o.responseTopic .responseTopicQos .responseTopic ++
  [.andThen
      (.entity ⟨o.datareader.qos, .fail none⟩
        ⟨o.datareader.create, failWith "failed to create datareader"⟩
        ⟨o.datareader.finalize, failWith "failed to finalize datareader qos"⟩
        .datareaderQos .requestReader)
      ⟨o.readcondition, failWith "failed to create read condition"⟩ .readCondition,
    .entity ⟨o.datawriter.qos, .fail none⟩
      ⟨o.datawriter.create, failWith "failed to create datawriter"⟩
      ⟨o.datawriter.finalize, failWith "failed to finalize datawriter qos"⟩
      .datawriterQos .responseWriter,
    .obtain ⟨o.serviceInfo, failWith "failed to allocate ServiceInfo"⟩ .serviceInfo,
    .obtain ⟨o.dataSeq, .returnNull (.text "failed to allocate data_seq")⟩ .dataSeq,
    .obtain ⟨o.infoSeq, .returnNull (.text "failed to allocate info_seq")⟩ .infoSeq,
    .obtain ⟨o.rawDataSizes, .returnNull (.text "failed to allocate raw_data_sizes")⟩
      .rawDataSizes,
    .andThen
      (.obtain ⟨o.rmwServiceAllocate, failWith "failed to allocate memory for service"⟩
        .rmwService)
      ⟨o.serviceNameAllocate, failWith "failed to allocate memory for service name"⟩
      .serviceName]

/-! ## The fail label, lines 390–427 -/

/-- `if (p != nullptr) release(p)`, where `p` is the pointer variable of `r` as it was on
entry to the label: the release, or nothing. -/
def releaseIf (entry : Ledger Resource) (r : Resource) : Ledger Resource :=
  if nonNull entry r then [.release r] else []

/-- `if (p != nullptr) { if (c != nullptr) release(c); release(p); }`: a resource whose
pointer is only tested inside the test of the one it belongs to. -/
def releaseWithChild (entry : Ledger Resource) (p c : Resource) : Ledger Resource :=
  if nonNull entry p then releaseIf entry c ++ [.release p] else []

/-- The `fail:` label, one line per block of the source.  The pointer variables keep
their values when their resource is released, so every test reads the ledger on entry. -/
def failLabel (f : Ledger Resource) : Ledger Resource :=
  f ++ releaseWithChild f .rmwService .serviceName ++
    releaseWithChild f .requestReader .readCondition ++
    releaseIf f .responseWriter ++ releaseIf f .requestTopic ++ releaseIf f .responseTopic ++
    releaseIf f .requestTypesupport ++ releaseIf f .responseTypesupport ++
    releaseIf f .serviceInfo

/-! ## The function -/

/-- What `rmw_create_service` returns, the error it sets, and its resource ledger. -/
structure Result where
  service : Option RmwService
  error : Option ErrorMsg
  ledger : Ledger Resource
  deriving DecidableEq

/-- A return before any resource is obtained. -/
def Result.early (error : Option ErrorMsg) : Result := ⟨none, error, []⟩

/-- The service the success path returns: lines 338–347 fill the `ServiceInfo` from the
pointer variables, lines 361–370 the `rmw_service_t`. -/
def createdService (args : Args) (f : Ledger Resource) : RmwService where
  implementationIdentifier := true
  data := some
    { responseWriter := nonNull f .responseWriter
      requestReader := nonNull f .requestReader
      readCondition := nonNull f .readCondition
      dataSeq := nonNull f .dataSeq
      infoSeq := nonNull f .infoSeq
      rawDataSizes := nonNull f .rawDataSizes
      serviceTypesupport := true
      serviceMappingBasic := args.serviceMappingBasic }
  serviceName := nonNull f .serviceName

/-- Lines 372–388 and the two exits of the body: register the service with the graph
cache, then delete both transient type supports; or run the fail label; or return
`nullptr` without it. -/
def finish (args : Args) (o : Outcomes) : Ledger Resource × Option Exit → Result
  | (f, none) =>
      if o.onServiceCreated then
        ⟨some (createdService args f), none,
          f ++ [.acquire .graphEntry, .release .requestTypesupport,
            .release .responseTypesupport]⟩
      else ⟨none, none, failLabel f⟩
  | (f, some (.fail error)) => ⟨none, error, failLabel f⟩
  | (f, some (.returnNull error)) => ⟨none, some error, f⟩

/-- Lines 49–157, the checks before the context lock, in order: `.error e` is a return of
`nullptr` with error state `e`, before anything is obtained. -/
private def checkArguments (args : Args) (o : Outcomes) : Except (Option ErrorMsg) Unit :=
  if !args.node then .error (some (.argumentIsNull "node"))
  else if !args.nodeIdentifier then .error (some (.identifierMismatch "node"))
  else if !args.typeSupports then .error (some (.argumentIsNull "type_supports"))
  else match args.serviceName with
  | none => .error (some (.argumentIsNull "service_name"))
  | some name =>
    if name.length = 0 then .error (some (.text "client topic is empty"))
    else if !args.qosPolicies then .error (some (.argumentIsNull "qos_policies"))
    else if !o.avoidRosNamespaceConventions && !o.validateFullTopicName then .error none
    else match o.avoidRosNamespaceConventions, o.topicValidation with
    | false, some reason => .error (some (.text ("service name is invalid: " ++ reason)))
    | _, _ =>
      if !o.introspectionC && !o.introspectionCpp then
        .error (some (.text "type support not from this implementation"))
      else if !o.typeName then .error (some (.text "failed to create type name"))
      else if !o.metastring then .error (some (.text "failed to create metastring"))
      else .ok ()

/-- `rmw_create_service`. -/
def rmwCreateService (args : Args) (o : Outcomes) : Result :=
  match checkArguments args o with
  | .error error => .early error
  | .ok () => finish args o (exec (body o) [])

end RmwGurumdds.Create
