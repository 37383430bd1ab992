import RmwGurumdds.Model.Types

/-!
# `rmw_destroy_service`

After its argument checks the function deletes, in this order: the response writer, the
three scratch sequences, the read condition and the request reader, then removes the
graph entry and deletes the `ServiceInfo`; last it frees the name and the
`rmw_service_t`.  A failing delete or graph update returns `RMW_RET_ERROR` at once.  The
handles already deleted stay recorded in the `ServiceInfo`, which is neither nulled nor
freed, so the caller's service is left exactly as it was.

Only releases enter the ledger: what a call gives back of what `rmw_create_service`
obtained.  A sequence delete on a null pointer releases nothing.
-/

namespace RmwGurumdds.Destroy

/-- The checks of the `node` argument: it is non-null, and its
`implementation_identifier` is `RMW_GURUMDDS_ID`. -/
structure Args where
  node : Bool
  nodeIdentifier : Bool
  deriving DecidableEq, Repr

/-- One flag per collaborator call of `rmw_destroy_service`, `true` when it succeeds: the
three deletes, and `graph_cache::on_service_deleted` returning `RMW_RET_OK`. -/
structure Outcomes where
  deleteDatawriter : Bool
  deleteReadcondition : Bool
  deleteDatareader : Bool
  onServiceDeleted : Bool
  deriving DecidableEq, Repr

/-- What one call leaves behind: the return code, the error state, the caller's service
after the call (`none` once it is freed), and what the call gave back. -/
structure Result where
  ret : RmwRet
  error : Option ErrorMsg
  service : Option RmwService
  ledger : Ledger Resource
  deriving DecidableEq

/-- A delete that is only made for a non-null handle. -/
def releaseIf (nonNull : Bool) (r : Resource) : Ledger Resource :=
  if nonNull then [.release r] else []

/-- Lines 481–488: the graph update, then `delete service_info`.  A failed update only
logs, so it sets no error state. -/
def removeGraphEntry (o : Outcomes) (ledger : Ledger Resource) :
    Ledger Resource × Option (Option ErrorMsg) :=
  if !o.onServiceDeleted then (ledger, some none)
  else (ledger ++ [.release .graphEntry, .release .serviceInfo], none)

/-- Lines 451–488: the teardown of what the `ServiceInfo` records, up to the first failing
delete, whose error is the second component. -/
def teardownInfo (info : ServiceInfo) (o : Outcomes) :
    Ledger Resource × Option (Option ErrorMsg) :=
  if info.responseWriter && !o.deleteDatawriter then
    ([], some (some (.text "failed to delete datawriter")))
  else
    let deleted := releaseIf info.responseWriter .responseWriter ++
      releaseIf info.dataSeq .dataSeq ++ releaseIf info.infoSeq .infoSeq ++
      releaseIf info.rawDataSizes .rawDataSizes
    if info.requestReader then
      if info.readCondition && !o.deleteReadcondition then
        (deleted, some (some (.text "failed to delete readcondition")))
      else
        let deleted := deleted ++ releaseIf info.readCondition .readCondition
        if !o.deleteDatareader then (deleted, some (some (.text "failed to delete datareader")))
        else removeGraphEntry o (deleted ++ [.release .requestReader])
    else removeGraphEntry o deleted

/-- `rmw_destroy_service`. -/
def rmwDestroyService (args : Args) (service : Option RmwService) (o : Outcomes) : Result :=
  let reject (ret : RmwRet) (error : ErrorMsg) : Result := ⟨ret, some error, service, []⟩
  if !args.node then reject .invalidArgument (.argumentIsNull "node")
  else if !args.nodeIdentifier then reject .incorrectRmwImplementation (.identifierMismatch "node")
  else match service with
  | none => reject .invalidArgument (.argumentIsNull "service")
  | some svc =>
    if !svc.implementationIdentifier then
      reject .incorrectRmwImplementation (.identifierMismatch "service")
    else
      let (deleted, failed) := match svc.data with
        | none => ([], none)
        | some info => teardownInfo info o
      match failed with
      | some error => ⟨.error, error, some svc, deleted⟩
      | none =>
        ⟨.ok, none, none, deleted ++ releaseIf svc.serviceName .serviceName ++ [.release .rmwService]⟩

/-- Calls in order on one service, each on what the previous one left. -/
def destroyCalls (args : Args) : Option RmwService → List Outcomes → List Result
  | _, [] => []
  | service, o :: os =>
    let r := rmwDestroyService args service o
    r :: destroyCalls args r.service os

end RmwGurumdds.Destroy
