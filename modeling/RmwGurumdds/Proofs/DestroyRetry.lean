import RmwGurumdds.Model.Destroy
import RmwGurumdds.Proofs.CreateRollback

/-!
# Destroying a service, with retries

On the service `rmw_create_service` returned, `rmw_destroy_service` makes four deletes
that can fail, in a fixed order, and gives back what lies between them (`teardownSteps`):
the response writer's delete, after which the three scratch sequences are deleted; the
read condition's; the request reader's; and the graph update, after which the
`ServiceInfo`, the name and the `rmw_service_t` are freed.  A call runs them until the
first that fails (`untilFailure`): it gives back what the deletes before that one give
back, returns `RMW_RET_OK` exactly when every delete succeeds, and a failing call leaves
the service as it was (`rmwDestroyService_created_steps`).

A failing call therefore leaves the handles it deleted recorded in the `ServiceInfo`, and
the next call deletes them again.  Over calls of which all but the last fail, the writer
and the three sequences are given back once for every call whose writer delete succeeded,
and the graph entry, the `ServiceInfo`, the name and the `rmw_service_t` once if the last
call succeeds and never otherwise (`rmwDestroyService_retries`).  A call that fails at
the read condition followed by one that succeeds gives the writer and the sequences back
twice, and every call frees the sequences while the request reader is still live
(`rmwDestroyService_sequences_before_reader_and_writer_twice`).

## Strategy

`untilFailure` has three facts of its own: it gives back a prefix of what all the steps
give back, all of it exactly when every step succeeds, and a run that fails never reaches
the last step.  The faithful model on the created service is `untilFailure` of
`teardownSteps`, one case per first failing delete.  The sequence of calls unfolds to one
call per element on the same service, and the counts add up over it.
-/

namespace RmwGurumdds.Destroy

open Ledger

/-- The service `rmw_create_service` returns, in wire variant `basic`. -/
def created (basic : Bool) : RmwService :=
  ⟨true, some ⟨true, true, true, true, true, true, true, basic⟩, true⟩

/-- Everything a call gives back of a created service, in the order it does. -/
def teardown : Ledger Resource :=
  [.release .responseWriter, .release .dataSeq, .release .infoSeq, .release .rawDataSizes,
    .release .readCondition, .release .requestReader, .release .graphEntry,
    .release .serviceInfo, .release .serviceName, .release .rmwService]

/-- What only a successful call gives back: the graph entry, the `ServiceInfo`, the name
and the `rmw_service_t`. -/
def lastReleased : List Resource := [.graphEntry, .serviceInfo, .serviceName, .rmwService]

/-- A destroy only gives back. -/
theorem teardown_acquired (r : Resource) : teardown.acquired r = 0 := by
  cases r <;> rfl

/-! ## Steps until the first failure -/

/-- Fallible steps run in order until the first that fails: what the steps before it give
back, and whether every step succeeded. -/
def untilFailure : List (Bool × Ledger Resource) → Ledger Resource × Bool
  | [] => ([], true)
  | (true, l) :: rest => (l ++ (untilFailure rest).1, (untilFailure rest).2)
  | (false, _) :: _ => ([], false)

theorem untilFailure_ok_iff : ∀ steps : List (Bool × Ledger Resource),
    (untilFailure steps).2 = true ↔ ∀ p ∈ steps, p.1 = true
  | [] => iff_of_true rfl nofun
  | (true, _) :: rest => by
    simp only [untilFailure, untilFailure_ok_iff rest, List.forall_mem_cons, true_and]
  | (false, _) :: _ => iff_of_false nofun fun h => nomatch h _ (List.mem_cons_self _ _)

/-- The steps give back a prefix of what all of them give back. -/
theorem untilFailure_prefix_flatMap : ∀ steps : List (Bool × Ledger Resource),
    (untilFailure steps).1 <+: steps.flatMap Prod.snd
  | [] => List.nil_prefix
  | (true, l) :: rest => (List.prefix_append_right_inj l).mpr (untilFailure_prefix_flatMap rest)
  | (false, _) :: _ => List.nil_prefix

/-- Steps that all succeed give back everything. -/
theorem untilFailure_of_ok : ∀ steps : List (Bool × Ledger Resource),
    (untilFailure steps).2 = true → (untilFailure steps).1 = steps.flatMap Prod.snd
  | [], _ => rfl
  | (true, l) :: rest, h => congrArg (l ++ ·) (untilFailure_of_ok rest h)
  | (false, _) :: _, h => nomatch h

/-- A run that fails never reaches the last step. -/
theorem untilFailure_append_of_fail : ∀ (steps : List (Bool × Ledger Resource)) (p),
    (untilFailure (steps ++ [p])).2 = false →
      (untilFailure (steps ++ [p])).1 <+: steps.flatMap Prod.snd
  | [], (true, _), h => nomatch h
  | [], (false, _), _ => List.nil_prefix
  | (true, l) :: rest, p, h =>
    (List.prefix_append_right_inj l).mpr (untilFailure_append_of_fail rest p h)
  | (false, _) :: _, _, _ => List.nil_prefix

/-! ## One call -/

/-- The deletes of `rmw_destroy_service` on a created service in the code's order, each
with its outcome and what the call gives back after it, up to the next delete. -/
def teardownSteps (o : Outcomes) : List (Bool × Ledger Resource) :=
  [(o.deleteDatawriter,
      [.release .responseWriter, .release .dataSeq, .release .infoSeq, .release .rawDataSizes]),
    (o.deleteReadcondition, [.release .readCondition]),
    (o.deleteDatareader, [.release .requestReader]),
    (o.onServiceDeleted,
      [.release .graphEntry, .release .serviceInfo, .release .serviceName, .release .rmwService])]

/-- One call on the created service with a valid `node` runs the deletes of
`teardownSteps` until the first that fails: it gives back what the deletes before that
one give back, returns `RMW_RET_OK` exactly when every delete succeeds, and then frees the
service, which a failing call leaves as it was. -/
theorem rmwDestroyService_created_steps (basic : Bool) (o : Outcomes) :
    let r := rmwDestroyService ⟨true, true⟩ (some (created basic)) o
    r.ledger = (untilFailure (teardownSteps o)).1 ∧
      (r.ret = .ok ↔ (untilFailure (teardownSteps o)).2 = true) ∧
      r.service = if r.ret = .ok then none else some (created basic) := by
  obtain ⟨writer, readcondition, reader, graph⟩ := o
  cases writer
  · exact ⟨rfl, iff_of_false nofun nofun, rfl⟩
  cases readcondition
  · exact ⟨rfl, iff_of_false nofun nofun, rfl⟩
  cases reader
  · exact ⟨rfl, iff_of_false nofun nofun, rfl⟩
  cases graph
  · exact ⟨rfl, iff_of_false nofun nofun, rfl⟩
  · exact ⟨rfl, iff_of_true rfl rfl, rfl⟩

/-- Any call on the created service gives back a prefix of `teardown`; it succeeds only
after giving back all of it, and then the service is freed; a failing call leaves the
service as it was. -/
theorem rmwDestroyService_created (args : Args) (basic : Bool) (o : Outcomes) :
    let r := rmwDestroyService args (some (created basic)) o
    r.ledger <+: teardown ∧ (r.ret = .ok → r.ledger = teardown ∧ r.service = none) ∧
      (r.ret ≠ .ok → r.service = some (created basic)) := by
  obtain ⟨node, nodeIdentifier⟩ := args
  cases node
  · exact ⟨List.nil_prefix, nofun, fun _ => rfl⟩
  cases nodeIdentifier
  · exact ⟨List.nil_prefix, nofun, fun _ => rfl⟩
  obtain ⟨hl, hok, hs⟩ := rmwDestroyService_created_steps basic o
  refine ⟨hl ▸ untilFailure_prefix_flatMap _, fun h => ⟨?_, by rw [hs, if_pos h]⟩,
    fun h => by rw [hs, if_neg h]⟩
  rw [hl, untilFailure_of_ok _ (hok.mp h)]
  rfl

/-- A call gives back the writer and each sequence once if its writer delete succeeds,
and not at all otherwise. -/
theorem released_untilFailure_writer (o : Outcomes) {x : Resource}
    (hx : x ∈ [Resource.responseWriter, .dataSeq, .infoSeq, .rawDataSizes]) :
    Ledger.released (untilFailure (teardownSteps o)).1 x = if o.deleteDatawriter then 1 else 0 := by
  obtain ⟨_ | _, readcondition, reader, graph⟩ := o
  · rfl
  -- The later deletes give back none of the four.
  let rest := (teardownSteps ⟨true, readcondition, reader, graph⟩).tail
  have hrest := (untilFailure_prefix_flatMap rest).sublist.count_le (Event.release x)
  show Ledger.released (_ ++ (untilFailure rest).1) x = 1
  simp only [List.mem_cons, List.not_mem_nil, or_false] at hx
  rw [released_append]
  rcases hx with rfl | rfl | rfl | rfl <;> exact congrArg (1 + ·) (Nat.eq_zero_of_le_zero hrest)

/-- A call gives back the graph entry, the `ServiceInfo`, the name and the `rmw_service_t`
once if every delete succeeds, and not at all otherwise. -/
theorem released_untilFailure_last (o : Outcomes) {x : Resource} (hx : x ∈ lastReleased) :
    Ledger.released (untilFailure (teardownSteps o)).1 x =
      if (untilFailure (teardownSteps o)).2 then 1 else 0 := by
  simp only [lastReleased, List.mem_cons, List.not_mem_nil, or_false] at hx
  cases hok : (untilFailure (teardownSteps o)).2
  · have hle := (untilFailure_append_of_fail (teardownSteps o).dropLast
      (o.onServiceDeleted, (teardownSteps o).getLast (by simp [teardownSteps])).2 hok).sublist.count_le
      (Event.release x)
    rcases hx with rfl | rfl | rfl | rfl <;> exact Nat.eq_zero_of_le_zero hle
  · rw [untilFailure_of_ok _ hok]
    rcases hx with rfl | rfl | rfl | rfl <;> rfl

/-! ## A sequence of calls -/

section Sequence

variable (args : Args) (basic : Bool)

/-- Calls that all fail leave the service as it was, so each of them, and the call
after them, sees the created service. -/
theorem destroyCalls_append_of_failed : ∀ (os rest : List Outcomes),
    (∀ r ∈ destroyCalls args (some (created basic)) os, r.ret ≠ .ok) →
    destroyCalls args (some (created basic)) (os ++ rest) =
      os.map (rmwDestroyService args (some (created basic))) ++
        destroyCalls args (some (created basic)) rest
  | [], _, _ => rfl
  | o :: os, rest, h => by
    have hsvc := (rmwDestroyService_created args basic o).2.2 (h _ (List.mem_cons_self _ _))
    have ih := destroyCalls_append_of_failed os rest fun r hr =>
      h r (by simp only [destroyCalls, hsvc]; exact List.mem_cons_of_mem _ hr)
    rw [List.cons_append, List.map_cons, List.cons_append, ← ih]
    show _ :: destroyCalls args (rmwDestroyService args (some (created basic)) o).service _ = _
    rw [hsvc]

end Sequence

/-- Over calls on the created service, the writer and each sequence are given back once
per call whose writer delete succeeds. -/
theorem released_flatMap_writer {x : Resource}
    (hx : x ∈ [Resource.responseWriter, .dataSeq, .infoSeq, .rawDataSizes]) :
    ∀ os : List Outcomes,
      Ledger.released (os.flatMap fun o => (untilFailure (teardownSteps o)).1) x =
        (os.filter Outcomes.deleteDatawriter).length
  | [] => rfl
  | o :: os => by
    rw [List.flatMap_cons, released_append, released_untilFailure_writer o hx,
      released_flatMap_writer hx os, List.filter_cons]
    cases o.deleteDatawriter
    · simp
    · simp only [if_true, List.length_cons]
      omega

/-- A service `rmw_create_service` returned, destroyed by calls with a valid `node` of
which all but the last fail, with any outcome of every delete and of the graph update.
Every call sees the service create returned and runs the deletes of `teardownSteps` until
the first that fails: it gives back what the deletes before that one give back, and
returns `RMW_RET_OK` exactly when every delete succeeds.  Over the sequence the writer and
the three sequences are given back once per call whose writer delete succeeded, and the
graph entry, the `ServiceInfo`, the name and the `rmw_service_t` exactly once if the last
call succeeds and never otherwise. -/
theorem rmwDestroyService_retries {args : Create.Args} {o : Create.Outcomes} {svc : RmwService}
    (hsvc : (Create.rmwCreateService args o).service = some svc) (os : List Outcomes)
    (last : Outcomes) (hfail : ∀ r ∈ destroyCalls ⟨true, true⟩ (some svc) os, r.ret ≠ .ok) :
    let call := rmwDestroyService ⟨true, true⟩ (some svc)
    let ledger := (destroyCalls ⟨true, true⟩ (some svc) (os ++ [last])).flatMap Result.ledger
    destroyCalls ⟨true, true⟩ (some svc) (os ++ [last]) = (os ++ [last]).map call ∧
    (∀ d, (call d).ledger = (untilFailure (teardownSteps d)).1 ∧
      ((call d).ret = .ok ↔ ∀ p ∈ teardownSteps d, p.1 = true)) ∧
    (∀ x ∈ [Resource.responseWriter, .dataSeq, .infoSeq, .rawDataSizes],
      Ledger.released ledger x = ((os ++ [last]).filter Outcomes.deleteDatawriter).length) ∧
    (∀ x ∈ lastReleased, Ledger.released ledger x = if (call last).ret = .ok then 1 else 0) := by
  obtain rfl : svc = created args.serviceMappingBasic := Create.rmwCreateService_service args o hsvc
  have hstep := rmwDestroyService_created_steps args.serviceMappingBasic
  have hcalls : destroyCalls ⟨true, true⟩ (some (created args.serviceMappingBasic)) (os ++ [last]) =
      (os ++ [last]).map (rmwDestroyService ⟨true, true⟩ (some (created args.serviceMappingBasic))) := by
    rw [destroyCalls_append_of_failed _ _ os [last] hfail, List.map_append]
    rfl
  -- The calls of `os` fail, so none of them reaches the graph update.
  have hos : ∀ d ∈ os, (untilFailure (teardownSteps d)).2 = false := fun d hd => by
    have := hfail _ (by
      rw [← List.append_nil os, destroyCalls_append_of_failed _ _ os [] hfail]
      exact List.mem_append_left _ (List.mem_map_of_mem _ hd))
    simpa [(hstep d).2.1] using this
  have hledger : (destroyCalls ⟨true, true⟩ (some (created args.serviceMappingBasic))
      (os ++ [last])).flatMap Result.ledger =
        (os ++ [last]).flatMap fun d => (untilFailure (teardownSteps d)).1 := by
    rw [hcalls, List.flatMap_map]
    exact List.flatMap_congr fun d _ => (hstep d).1
  refine ⟨hcalls, fun d => ⟨(hstep d).1, (hstep d).2.1.trans (untilFailure_ok_iff _)⟩,
    fun x hx => ?_, fun x hx => ?_⟩
  · rw [hledger, released_flatMap_writer hx]
  · have hzero : ∀ ds : List Outcomes, (∀ d ∈ ds, (untilFailure (teardownSteps d)).2 = false) →
        Ledger.released (ds.flatMap fun d => (untilFailure (teardownSteps d)).1) x = 0 := by
      intro ds hds
      induction ds with
      | nil => rfl
      | cons d ds ih =>
        rw [List.flatMap_cons, released_append, released_untilFailure_last d hx,
          hds d (List.mem_cons_self _ _), ih fun d' hd' => hds d' (List.mem_cons_of_mem _ hd')]
        rfl
    rw [hledger, List.flatMap_append, released_append, hzero os hos, List.flatMap_singleton,
      zero_add, released_untilFailure_last last hx]
    exact if_congr (hstep last).2.1.symm rfl rfl

/-- A call that fails at the read condition, then one that succeeds: the writer and the
sequences are given back twice. -/
theorem rmwDestroyService_retries_after_readcondition :
    let svc : RmwService := ⟨true, some ⟨true, true, true, true, true, true, true, true⟩, true⟩
    let os : List Outcomes := [⟨true, false, true, true⟩]
    let last : Outcomes := ⟨true, true, true, true⟩
    let call := rmwDestroyService ⟨true, true⟩ (some svc)
    let ledger := (destroyCalls ⟨true, true⟩ (some svc) (os ++ [last])).flatMap Result.ledger
    destroyCalls ⟨true, true⟩ (some svc) (os ++ [last]) = (os ++ [last]).map call ∧
    (∀ d, (call d).ledger = (untilFailure (teardownSteps d)).1 ∧
      ((call d).ret = .ok ↔ ∀ p ∈ teardownSteps d, p.1 = true)) ∧
    (∀ x ∈ [Resource.responseWriter, .dataSeq, .infoSeq, .rawDataSizes],
      Ledger.released ledger x = ((os ++ [last]).filter Outcomes.deleteDatawriter).length) ∧
    (∀ x ∈ lastReleased, Ledger.released ledger x = if (call last).ret = .ok then 1 else 0) :=
  rmwDestroyService_retries
    (show (Create.rmwCreateService Create.okArgs Create.okOutcomes).service = some _ from rfl)
    _ _ (by decide)

/-- On the service create returns, a call that fails at the read condition has deleted
the writer and the three sequences, yet returns the service as it was, its `ServiceInfo`
still recording all of them; a retry that succeeds deletes all four again.  A call frees
each sequence before it deletes the request reader. -/
theorem rmwDestroyService_sequences_before_reader_and_writer_twice :
    (Create.rmwCreateService Create.okArgs Create.okOutcomes).service = some (created true) ∧
    let failed := rmwDestroyService ⟨true, true⟩ (some (created true)) ⟨true, false, true, true⟩
    let ledger := (destroyCalls ⟨true, true⟩ (some (created true))
      [⟨true, false, true, true⟩, ⟨true, true, true, true⟩]).flatMap Result.ledger
    let once := (rmwDestroyService ⟨true, true⟩ (some (created true)) ⟨true, true, true, true⟩).ledger
    failed.ret = .error ∧ failed.service = some (created true) ∧
      (created true).data = some ⟨true, true, true, true, true, true, true, true⟩ ∧
      (∀ x ∈ [Resource.responseWriter, .dataSeq, .infoSeq, .rawDataSizes],
        failed.ledger.released x = 1 ∧ Ledger.released ledger x = 2) ∧
      ∀ x ∈ [Resource.dataSeq, .infoSeq, .rawDataSizes],
        once.indexOf (.release x) < once.indexOf (.release .requestReader) := by
  decide

end RmwGurumdds.Destroy
