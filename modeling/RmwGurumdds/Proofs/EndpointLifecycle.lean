import RmwGurumdds.Model.Endpoint
import RmwGurumdds.Model.ActualQos
import RmwGurumdds.Proofs.TakeSend
import RmwGurumdds.Proofs.GateMask
import RmwGurumdds.Proofs.DestroyRetry

/-!
# An endpoint stays sound until a destroy fails half way

Over every run of calls on a service `rmw_create_service` returned, with any arguments and
any outcome of every collaborator, a state is `Safe` exactly while no call of
`rmw_destroy_service` has returned an error after giving something back
(`safe_iff_intact`).  `Safe` says what a correct endpoint holds between two calls: nothing
was given back twice, nothing a take or a send obtained is outstanding, and the resources
still held are exactly those the caller's service stands for, with the two topics that
nothing deletes.

So while the endpoint is intact every call reaches only live entities: a take takes from
a live reader, a published response goes through a live writer, and the callback and QoS
calls reach live entities too (`intact_calls_reach_live`).  A destroy that fails half way
has deleted the response writer but leaves it recorded in the `ServiceInfo`, and the next
response is still written through it (`failed_destroy_writer_still_written`).  Whatever
came before, a lifetime that ends in a successful destroy leaves exactly the two topics
held (`freed_live_iff_topic`): a retry after a failed destroy gives things back twice, but
leaves nothing else held.

## Strategy

`Inv` holds in every reachable state: the caller's service is the created one until it is
freed, `rmw_create_service`'s resources are obtained at most once, every take and send is
settled, an intact state is `Safe` for the service's resources, and a broken one has given
something back twice or still records a writer it gave back.  In every state the topics
stay held and what create gave back itself stays given back, and once the service is freed
all of `teardown` has been given back.  Takes and sends append balanced ledgers of their
own kinds of resource (`Inv.append_balanced`); a destroy gives back a prefix of
`teardown`, which starts with the response writer (`inv_destroy`).
-/

namespace RmwGurumdds.Endpoint

open Ledger

variable {Cb Ud : Type}

/-! ## What a correct endpoint holds -/

/-- A resource obtained and not yet given back. -/
def Live (l : Ledger Held) (x : Held) : Prop := l.released x < l.acquired x

instance (l : Ledger Held) (x : Held) : Decidable (Live l x) :=
  inferInstanceAs (Decidable (_ < _))

/-- The resources a service stands for: the `rmw_service_t`, its name, and through its
`ServiceInfo` the graph entry and the handles the info records.  The topics are not among
them: no field records them. -/
def owns : Option RmwService → Resource → Bool
  | none, _ => false
  | some _, .rmwService => true
  | some svc, .serviceName => svc.serviceName
  | some svc, .serviceInfo => svc.data.isSome
  | some svc, .graphEntry => svc.data.isSome
  | some svc, .responseWriter => svc.data.any ServiceInfo.responseWriter
  | some svc, .requestReader => svc.data.any ServiceInfo.requestReader
  | some svc, .readCondition => svc.data.any ServiceInfo.readCondition
  | some svc, .dataSeq => svc.data.any ServiceInfo.dataSeq
  | some svc, .infoSeq => svc.data.any ServiceInfo.infoSeq
  | some svc, .rawDataSizes => svc.data.any ServiceInfo.rawDataSizes
  | some _, _ => false

/-- A freed service stands for nothing. -/
theorem owns_none (r : Resource) : owns none r = false := rfl

/-- What a correct endpoint holds between two calls: nothing was given back more often
than it was obtained, nothing a take or a send obtained is outstanding, and of what
`rmw_create_service` obtained exactly the resources the caller's service stands for are
held, with the two topics. -/
structure Safe (s : State Cb Ud) : Prop where
  released_le : ∀ x, s.ledger.released x ≤ s.ledger.acquired x
  take_settled : ∀ t, s.ledger.released (.take t) = s.ledger.acquired (.take t)
  send_settled : ∀ b, s.ledger.released (.send b) = s.ledger.acquired (.send b)
  live_iff : ∀ r, Live s.ledger (.service r) ↔
    owns s.service r = true ∨ r = .requestTopic ∨ r = .responseTopic

/-! ## Counting the run's ledger -/

theorem service_injective : Function.Injective Held.service := fun _ _ h => Held.service.inj h

/-- A mapped balanced ledger gives back each resource as often as it obtains it. -/
private theorem released_map_of_balanced {α : Type} [DecidableEq α] {f : α → Held}
    (hf : Function.Injective f) {l : Ledger α} (hl : l.Balanced) (x : Held) :
    Ledger.released (l.map (Event.map f)) x = Ledger.acquired (l.map (Event.map f)) x := by
  by_cases hx : ∃ a, f a = x
  · obtain ⟨a, rfl⟩ := hx
    rw [acquired_map hf, released_map hf, (hl a).1]
  · push_neg at hx
    rw [acquired_map_of_ne l hx, released_map_of_ne l hx]

/-- `teardown` gives back once each resource the created service stands for. -/
theorem teardown_released_eq (basic : Bool) (r : Resource) :
    Destroy.teardown.released r = if owns (some (Destroy.created basic)) r then 1 else 0 := by
  cases r <;> rfl

/-- Of what `rmw_create_service` obtains, the created service stands for everything but
the QoS records and the type supports, which create gives back itself, and the topics. -/
theorem owns_created_or_topic (basic : Bool) (r : Resource) :
    (owns (some (Destroy.created basic)) r = true ∨ r = .requestTopic ∨ r = .responseTopic) ↔
      ¬(r.isQos = true ∨ r = .requestTypesupport ∨ r = .responseTypesupport) := by
  cases basic <;> cases r <;> decide

/-- A prefix of `teardown` obtains nothing and gives back at most what `teardown` does. -/
theorem prefix_teardown_counts {l : Ledger Resource} (hl : l <+: Destroy.teardown)
    (r : Resource) : l.acquired r = 0 ∧ l.released r ≤ Destroy.teardown.released r := by
  have ha : l.acquired r ≤ Destroy.teardown.acquired r := hl.sublist.count_le _
  exact ⟨by rw [Destroy.teardown_acquired] at ha; omega, hl.sublist.count_le _⟩

/-- A destroy that gave anything back has given back the response writer. -/
theorem prefix_teardown_writer {l : Ledger Resource} (hl : l <+: Destroy.teardown)
    (hne : l ≠ []) : 0 < l.released .responseWriter := by
  rcases l with _ | ⟨e, l⟩
  · exact absurd rfl hne
  · obtain ⟨rfl, -⟩ := List.cons_prefix_cons.mp hl
    rw [released_cons_release, if_pos rfl]
    omega

/-- A destroy's ledger entered into the run's: nothing more is obtained, each resource
`rmw_create_service` obtained is given back as often as the destroy gives it back, and the
other resources are untouched. -/
theorem counts_append_of_prefix_teardown (L : Ledger Held) {l : Ledger Resource}
    (hl : l <+: Destroy.teardown) :
    (∀ r, (L ++ l.map (Event.map Held.service)).acquired (.service r) = L.acquired (.service r) ∧
      (L ++ l.map (Event.map Held.service)).released (.service r) =
        L.released (.service r) + l.released r) ∧
    ∀ x, (∀ r, Held.service r ≠ x) →
      (L ++ l.map (Event.map Held.service)).acquired x = L.acquired x ∧
      (L ++ l.map (Event.map Held.service)).released x = L.released x := by
  refine ⟨fun r => ?_, fun x hx => ?_⟩
  · rw [acquired_append, released_append, acquired_map service_injective,
      released_map service_injective, (prefix_teardown_counts hl r).1, add_zero]
    exact ⟨rfl, rfl⟩
  · rw [acquired_append, released_append, acquired_map_of_ne _ hx, released_map_of_ne _ hx]
    exact ⟨rfl, rfl⟩

/-- One resource of an intact endpoint through a successful destroy: it is given back once
exactly when the service stands for it, and is then held only if it is a topic. -/
private theorem live_after_teardown {rel acq : ℕ} {O T : Prop} [Decidable O] (hacq : acq ≤ 1)
    (hle : rel ≤ acq) (hlive : rel < acq ↔ O ∨ T) (hOT : O → ¬T) :
    rel + (if O then 1 else 0) ≤ acq ∧ (rel + (if O then 1 else 0) < acq ↔ T) := by
  by_cases hO : O
  · have := hlive.mpr (.inl hO)
    simp only [hO, if_true]
    exact ⟨by omega, ⟨fun h => by omega, fun h => absurd h (hOT hO)⟩⟩
  · simp only [hO, if_false, add_zero, false_or] at hlive ⊢
    exact ⟨hle, hlive⟩

/-- No service stands for a topic. -/
private theorem not_topic_of_owns {svc : Option RmwService} {r : Resource} (h : owns svc r = true) :
    ¬(r = .requestTopic ∨ r = .responseTopic) := by
  rintro (rfl | rfl) <;> cases svc <;> cases h

/-! ## The invariant -/

/-- What every reachable state satisfies. -/
structure Inv (s : State Cb Ud) : Prop where
  shape : ∃ basic, s.service = none ∨ s.service = some (Destroy.created basic)
  acquired_le : ∀ r, s.ledger.acquired (.service r) ≤ 1
  take_settled : ∀ t, s.ledger.released (.take t) = s.ledger.acquired (.take t)
  send_settled : ∀ b, s.ledger.released (.send b) = s.ledger.acquired (.send b)
  intact_safe : s.intact = true →
    (∀ r, s.ledger.released (.service r) ≤ s.ledger.acquired (.service r)) ∧
    ∀ r, Live s.ledger (.service r) ↔
      owns s.service r = true ∨ r = .requestTopic ∨ r = .responseTopic
  broken : s.intact = false →
    (∃ r, s.ledger.acquired (.service r) < s.ledger.released (.service r)) ∨
    (s.service.isSome ∧ 0 < s.ledger.released (.service .responseWriter))
  topics_held : Live s.ledger (.service .requestTopic) ∧ Live s.ledger (.service .responseTopic)
  created_released : ∀ r, r.isQos = true ∨ r = .requestTypesupport ∨ r = .responseTypesupport →
    ¬Live s.ledger (.service r)
  freed : s.service = none → ∀ r, Destroy.teardown.released r ≤ s.ledger.released (.service r)

/-- A service the caller still holds is the created one. -/
theorem Inv.service_eq {s : State Cb Ud} (hi : Inv s) (hsome : s.service.isSome) :
    ∃ basic, s.service = some (Destroy.created basic) := by
  obtain ⟨basic, hnone | hcreated⟩ := hi.shape
  · rw [hnone] at hsome; cases hsome
  · exact ⟨basic, hcreated⟩

theorem Inv.safe {s : State Cb Ud} (hi : Inv s) (h : s.intact = true) : Safe s where
  released_le := by
    rintro (r | t | b)
    · exact (hi.intact_safe h).1 r
    · exact (hi.take_settled t).le
    · exact (hi.send_settled b).le
  take_settled := hi.take_settled
  send_settled := hi.send_settled
  live_iff := (hi.intact_safe h).2

private theorem Inv.not_safe {s : State Cb Ud} (hi : Inv s) (h : s.intact = false) : ¬Safe s := by
  intro hs
  rcases hi.broken h with ⟨r, hr⟩ | ⟨hsome, hw⟩
  · exact absurd (hs.released_le (.service r)) (by omega)
  · obtain ⟨basic, hsvc⟩ := hi.service_eq hsome
    have hlive := (hs.live_iff .responseWriter).mpr (.inl (by rw [hsvc]; rfl))
    have := hi.acquired_le .responseWriter
    unfold Live at hlive
    omega

/-- The service `rmw_create_service` returns is the created one, with its resources as the
run's first entries. -/
private theorem inv_initial {args : Create.Args} {o : Create.Outcomes}
    (h : (Create.rmwCreateService args o).service.isSome) : Inv (initial args o : State Cb Ud) := by
  obtain ⟨svc, hsvc⟩ := Option.isSome_iff_exists.mp h
  have hcreated : svc = Destroy.created args.serviceMappingBasic :=
    Create.rmwCreateService_service args o hsvc
  have held := Create.rmwCreateService_held args o hsvc
  have hne : ∀ (x : Held), (∀ r, x ≠ .service r) → ∀ r, Held.service r ≠ x :=
    fun _ hx r h => hx r h.symm
  have hlive : ∀ r, Live (initial args o : State Cb Ud).ledger (.service r) ↔
      owns (some (Destroy.created args.serviceMappingBasic)) r = true ∨
        r = .requestTopic ∨ r = .responseTopic := fun r => by
    obtain ⟨hle, hone, hrel⟩ := held r
    rw [Live, initial, acquired_map service_injective, released_map service_injective, hrel,
      owns_created_or_topic]
    split_ifs with hP
    · exact ⟨fun h => absurd h (lt_irrefl _), fun h => absurd hP h⟩
    · have := hone (by simpa using (not_or.mp hP).1)
      exact ⟨fun _ => hP, fun _ => by omega⟩
  refine ⟨⟨args.serviceMappingBasic, .inr (by rw [initial, hsvc, hcreated])⟩,
    fun r => ?_, fun t => ?_, fun b => ?_, fun _ => ⟨fun r => ?_, fun r => ?_⟩, nofun,
    ⟨(hlive _).mpr (.inr (.inl rfl)), (hlive _).mpr (.inr (.inr rfl))⟩,
    fun r hr h => (owns_created_or_topic _ r).mp ((hlive r).mp h) hr,
    fun h => absurd (hsvc.symm.trans h) (Option.some_ne_none svc)⟩
  all_goals dsimp only [initial]
  · rw [acquired_map service_injective]; exact (held r).1
  · rw [acquired_map_of_ne _ (hne (.take t) nofun), released_map_of_ne _ (hne (.take t) nofun)]
  · rw [acquired_map_of_ne _ (hne (.send b) nofun), released_map_of_ne _ (hne (.send b) nofun)]
  · rw [acquired_map service_injective, released_map service_injective, (held r).2.2]
    split <;> omega
  · rw [hsvc, hcreated]; exact hlive r

/-! ## One call -/

/-- Appending a call's balanced ledger of another kind of resource keeps the invariant. -/
theorem Inv.append_balanced {s : State Cb Ud} (hi : Inv s) {α : Type} [DecidableEq α]
    {f : α → Held} (hf : Function.Injective f) (hne : ∀ a r, f a ≠ .service r)
    {l : Ledger α} (hl : l.Balanced) :
    Inv { s with ledger := s.ledger ++ l.map (Event.map f) } := by
  have hs : ∀ r, Ledger.acquired (l.map (Event.map f)) (.service r) = 0 ∧
      Ledger.released (l.map (Event.map f)) (.service r) = 0 := fun r =>
    ⟨acquired_map_of_ne l (hne · r), released_map_of_ne l (hne · r)⟩
  have hb := released_map_of_balanced hf hl
  refine ⟨hi.shape, fun r => ?_, fun t => ?_, fun b => ?_, fun h => ?_, fun h => ?_, ?_,
    fun r hr => ?_, fun h => ?_⟩ <;>
    simp only [Live, acquired_append, released_append, (hs _).1, (hs _).2, add_zero, hb]
  · exact hi.acquired_le r
  · rw [hi.take_settled t]
  · rw [hi.send_settled b]
  · exact hi.intact_safe h
  · exact hi.broken h
  · exact hi.topics_held
  · exact hi.created_released r hr
  · exact hi.freed h

private theorem inv_take {s : State Cb Ud} (hi : Inv s) (codec : Codec) (da : BitVec 32)
    (requestHeader : Option RmwServiceInfo) (rosRequest : Bool) (taken : Option Bool)
    (o : Take.Outcomes) : Inv (apply codec da s (.takeRequest requestHeader rosRequest taken o)) :=
  hi.append_balanced (fun _ _ h => Held.take.inj h) (fun _ _ => nofun)
    (Take.rmwTakeRequest_balanced codec s.service requestHeader rosRequest taken o)

private theorem inv_send {s : State Cb Ud} (hi : Inv s) (codec : Codec) (da : BitVec 32)
    (requestHeader : Option RequestId) (rosResponse : Bool) (o : Send.Outcomes) :
    Inv (apply codec da s (.sendResponse requestHeader rosResponse o)) :=
  hi.append_balanced (fun _ _ h => Held.send.inj h) (fun _ _ => nofun)
    (Send.rmwSendResponse_balanced codec s.service requestHeader rosResponse o)

private theorem inv_setCallback {s : State Cb Ud} (hi : Inv s) (codec : Codec) (da : BitVec 32)
    (request : Notification.Request Cb Ud) :
    Inv (apply codec da s (.setOnNewRequestCallback request)) :=
  ⟨hi.shape, hi.acquired_le, hi.take_settled, hi.send_settled, hi.intact_safe, hi.broken,
    hi.topics_held, hi.created_released, hi.freed⟩

/-- A destroy call on the created service keeps the invariant: a success gives back every
resource the service stands for once, a failure that gave nothing back changes nothing,
and one that gave something back leaves a writer recorded that it gave back, or gives it
back a second time. -/
private theorem inv_destroy {s : State Cb Ud} (hi : Inv s) (hsome : s.service.isSome) (codec : Codec)
    (da : BitVec 32) (args : Destroy.Args) (o : Destroy.Outcomes) :
    Inv (apply codec da s (.destroyService args o)) := by
  obtain ⟨basic, hsvc⟩ := hi.service_eq hsome
  obtain ⟨hpre, hok, hfail⟩ := Destroy.rmwDestroyService_created args basic o
  generalize hD : Destroy.rmwDestroyService args (some (Destroy.created basic)) o = D at *
  obtain ⟨hs, hother⟩ := counts_append_of_prefix_teardown s.ledger hpre
  have hintact : (s.intact && (decide (D.ret = .ok) || D.ledger.isEmpty)) = true ↔
      s.intact = true ∧ (D.ret = .ok ∨ D.ledger = []) := by
    simp only [Bool.and_eq_true, Bool.or_eq_true, decide_eq_true_eq, List.isEmpty_iff]
  simp only [apply, hsvc, hD]
  refine
    { shape := ⟨basic, ?shape⟩
      acquired_le := fun r => ?acquired_le
      take_settled := fun t => ?take_settled
      send_settled := fun b => ?send_settled
      intact_safe := fun h => ?intact_safe
      broken := fun h => ?broken
      topics_held := ?topics_held
      created_released := fun r hr => ?created_released
      freed := fun h => ?freed }
  case shape =>
    by_cases hr : D.ret = .ok
    · exact .inl (hok hr).2
    · exact .inr (hfail hr)
  case acquired_le => rw [(hs r).1]; exact hi.acquired_le r
  case take_settled =>
    rw [(hother (.take t) fun _ => nofun).1, (hother (.take t) fun _ => nofun).2,
      hi.take_settled t]
  case send_settled =>
    rw [(hother (.send b) fun _ => nofun).1, (hother (.send b) fun _ => nofun).2,
      hi.send_settled b]
  case intact_safe =>
    obtain ⟨hint, hr⟩ := hintact.mp h
    obtain ⟨hle, hlive⟩ := hi.intact_safe hint
    rw [hsvc] at hlive
    simp only [Live] at hlive ⊢
    simp only [(hs _).1, (hs _).2]
    by_cases hret : D.ret = .ok
    · obtain ⟨hl, hsv⟩ := hok hret
      have step := fun r => live_after_teardown (hi.acquired_le r) (hle r) (hlive r)
        not_topic_of_owns
      rw [hl, hsv]
      simp only [teardown_released_eq basic, owns_none, Bool.false_eq_true, false_or]
      exact ⟨fun r => (step r).1, fun r => (step r).2⟩
    · rw [hfail hret, hr.resolve_left hret]
      simp only [released_nil, add_zero]
      exact ⟨hle, hlive⟩
  case broken =>
    have h' : ¬(s.intact = true ∧ (D.ret = .ok ∨ D.ledger = [])) := fun hc =>
      Bool.false_ne_true (h.symm.trans (hintact.mpr hc))
    simp only [(hs _).1, (hs _).2]
    by_cases hn : D.ledger = []
    · have hret : D.ret ≠ .ok := fun hr => by
        have := (hok hr).1
        rw [hn] at this
        cases this
      have hint : s.intact = false := Bool.eq_false_iff.mpr fun ht => h' ⟨ht, .inr hn⟩
      rw [hfail hret, hn]
      simp only [released_nil, add_zero]
      rcases hi.broken hint with hr | ⟨-, hw⟩
      · exact .inl hr
      · exact .inr ⟨rfl, hw⟩
    · have hw := prefix_teardown_writer hpre hn
      cases hint : s.intact
      · rcases hi.broken hint with ⟨r, hr⟩ | ⟨-, hw'⟩
        · exact .inl ⟨r, by omega⟩
        · exact .inl ⟨.responseWriter, by have := hi.acquired_le .responseWriter; omega⟩
      · have hret : D.ret ≠ .ok := fun hr => h' ⟨hint, .inl hr⟩
        exact .inr ⟨by rw [hfail hret]; rfl, by omega⟩
  case topics_held =>
    have hkeep : ∀ r, Destroy.teardown.released r = 0 → Live s.ledger (.service r) →
        s.ledger.released (.service r) + D.ledger.released r < s.ledger.acquired (.service r) :=
      fun r h0 hl => by have := (prefix_teardown_counts hpre r).2; unfold Live at hl; omega
    simp only [Live, (hs _).1, (hs _).2]
    exact ⟨hkeep _ rfl hi.topics_held.1, hkeep _ rfl hi.topics_held.2⟩
  case created_released =>
    have := hi.created_released r hr
    simp only [Live, (hs _).1, (hs _).2] at this ⊢
    omega
  case freed =>
    simp only [(hs _).2]
    by_cases hret : D.ret = .ok
    · intro r; rw [(hok hret).1]; omega
    · rw [hfail hret] at h; cases h

theorem inv_apply {s : State Cb Ud} (hi : Inv s) (hsome : s.service.isSome) (codec : Codec)
    (da : BitVec 32) (c : Call Cb Ud) : Inv (apply codec da s c) := by
  cases c with
  | takeRequest requestHeader rosRequest taken o =>
    exact inv_take hi codec da requestHeader rosRequest taken o
  | sendResponse requestHeader rosResponse o => exact inv_send hi codec da requestHeader rosResponse o
  | setOnNewRequestCallback request => exact inv_setCallback hi codec da request
  | destroyService args o => exact inv_destroy hi hsome codec da args o

private theorem step_eq_some {codec : Codec} {da : BitVec 32} {s t : State Cb Ud} {c : Call Cb Ud}
    (h : step codec da s c = some t) : s.service.isSome ∧ apply codec da s c = t := by
  unfold step at h
  split at h
  · exact ⟨‹_›, Option.some_inj.mp h⟩
  · cases h

theorem Reachable.inv {codec : Codec} {da : BitVec 32} {s : State Cb Ud}
    (h : Reachable codec da s) : Inv s := by
  induction h with
  | created hsvc => exact inv_initial hsvc
  | step _ hstep ih =>
    obtain ⟨hsome, rfl⟩ := step_eq_some hstep
    exact inv_apply ih hsome _ _ _

/-! ## Safety over whole runs -/

/-- Over every run of calls on a service `rmw_create_service` returned, whatever their
arguments and the outcomes of their collaborators, a state is safe exactly when no call of
`rmw_destroy_service` so far has returned an error after giving something back. -/
theorem safe_iff_intact {codec : Codec} {da : BitVec 32} {s : State Cb Ud}
    (h : Reachable codec da s) : Safe s ↔ s.intact = true := by
  have hi := h.inv
  cases hs : s.intact
  · exact ⟨fun hsafe => absurd hsafe (hi.not_safe hs), nofun⟩
  · exact ⟨fun _ => rfl, fun _ => hi.safe hs⟩

/-- A destroy that deletes the writer and the sequences and then fails at the read
condition leaves the endpoint unsafe. -/
theorem safe_iff_intact_readcondition :
    let s : State ℕ Unit := apply ⟨id, fun _ => 0, fun _ => ⟨0, 0⟩, id⟩ 0x400
      (initial Create.okArgs Create.okOutcomes) (.destroyService ⟨true, true⟩ ⟨true, false, true, true⟩)
    (Safe s ↔ s.intact = true) ∧ s.intact = false :=
  ⟨safe_iff_intact (Reachable.step (Reachable.created (show (Create.rmwCreateService
    Create.okArgs Create.okOutcomes).service.isSome = true from rfl)) rfl), rfl⟩

/-- Every call that reaches the transport reaches a live entity: a take that takes from
the reader, a response that is published, a callback call that gets past its checks, and
a QoS call that succeeds. -/
def CallsReachLive (codec : Codec) (da : BitVec 32) (s : State Cb Ud) : Prop :=
  (∀ requestHeader rosRequest taken o, .acquire .loan ∈
      (Take.rmwTakeRequest codec s.service requestHeader rosRequest taken o).ledger →
    Live s.ledger (.service .requestReader)) ∧
  (∀ requestHeader rosResponse o,
    (Send.rmwSendResponse codec s.service requestHeader rosResponse o).published = true →
      Live s.ledger (.service .responseWriter)) ∧
  (∀ request, (Notification.rmwServiceSetOnNewRequestCallback da s.service s.gate
      request).error = none → Live s.ledger (.service .requestReader)) ∧
  (∀ (Q V : Type) (convert : ActualQos.Policy → Q → V) profile o,
    (ActualQos.rmwServiceResponsePublisherGetActualQos convert s.service (some profile)
      o).ret = .ok → Live s.ledger (.service .responseWriter)) ∧
  (∀ (Q V : Type) (convert : ActualQos.Policy → Q → V) profile o,
    (ActualQos.rmwServiceRequestSubscriptionGetActualQos convert s.service (some profile)
      o).ret = .ok → Live s.ledger (.service .requestReader))

/-- On a safe endpoint the handles the service's info records are live. -/
theorem Safe.live_of_recorded {s : State Cb Ud} (hs : Safe s) {svc : RmwService}
    {info : ServiceInfo} (hsvc : s.service = some svc) (hinfo : svc.data = some info) :
    (info.requestReader = true → Live s.ledger (.service .requestReader)) ∧
    (info.responseWriter = true → Live s.ledger (.service .responseWriter)) :=
  ⟨fun h => (hs.live_iff _).mpr (.inl (by simp [hsvc, owns, hinfo, h])),
    fun h => (hs.live_iff _).mpr (.inl (by simp [hsvc, owns, hinfo, h]))⟩

/-- While no destroy has failed half way, every call reaches only live entities. -/
theorem intact_calls_reach_live {codec : Codec} {da : BitVec 32} {s : State Cb Ud}
    (h : Reachable codec da s) (hint : s.intact = true) : CallsReachLive codec da s := by
  have hi := h.inv
  have hs := hi.safe hint
  refine ⟨fun requestHeader rosRequest taken o hloan => ?_, fun requestHeader rosResponse o hpub => ?_,
    fun request herr => ?_, fun Q V convert profile o hok => ?_, fun Q V convert profile o hok => ?_⟩
  · obtain ⟨svc, info, hsvc, hinfo, hr⟩ :=
      Take.rmwTakeRequest_reader_of_loan codec _ _ _ _ _ hloan
    exact (hs.live_of_recorded hsvc hinfo).1 hr
  · obtain ⟨svc, info, hsvc, hinfo, hw⟩ :=
      Send.rmwSendResponse_writer_of_published codec _ _ _ _ hpub
    exact (hs.live_of_recorded hsvc hinfo).2 hw
  · obtain ⟨svc, info, hsvc, -⟩ :=
      Notification.rmwServiceSetOnNewRequestCallback_info_of_error da _ _ _ herr
    obtain ⟨basic, hshape⟩ := hi.shape
    rcases hshape with hnone | hcreated
    · rw [hnone] at hsvc; cases hsvc
    · exact (hs.live_of_recorded hcreated rfl).1 rfl
  · obtain ⟨svc, info, hsvc, hinfo, hw⟩ := ActualQos.getActualQos_entity_of_ok _ _ _ _ _ _ _ _ _ hok
    exact (hs.live_of_recorded hsvc hinfo).2 hw
  · obtain ⟨svc, info, hsvc, hinfo, hr⟩ := ActualQos.getActualQos_entity_of_ok _ _ _ _ _ _ _ _ _ hok
    exact (hs.live_of_recorded hsvc hinfo).1 hr

/-- After a take that finds no data, a registration, and a destroy whose writer delete
fails, the endpoint is still intact, and every call reaches live entities. -/
theorem intact_calls_reach_live_after_calls :
    let codec : Codec := ⟨id, fun _ => 0, fun _ => ⟨0, 0⟩, id⟩
    let s₁ : State ℕ Unit := apply codec 0x400 (initial Create.okArgs Create.okOutcomes)
      (.takeRequest (some ⟨0, 0, ⟨Gid.zero, 0⟩⟩) true (some false)
        ⟨true, true, true, .noData, none, false⟩)
    let s₂ := apply codec 0x400 s₁ (.setOnNewRequestCallback ⟨some 1, none, 0, 0, true⟩)
    let s := apply codec 0x400 s₂ (.destroyService ⟨true, true⟩ ⟨false, true, true, true⟩)
    s.intact = true ∧ CallsReachLive codec 0x400 s := by
  intro codec s₁ s₂ s
  have h₁ : Reachable codec 0x400 s₁ := .step (.created (show (Create.rmwCreateService
    Create.okArgs Create.okOutcomes).service.isSome = true from rfl)) rfl
  have h₂ : Reachable codec 0x400 s₂ := .step h₁ rfl
  exact ⟨rfl, intact_calls_reach_live (.step h₂ rfl) rfl⟩

/-! ## A destroy that fails half way -/

/-- A destroy that returns an error after giving something back has given back the
response writer, which the service's info still records: the caller keeps the same
service, the writer is no longer live, and every later send whose allocation,
serialization and write succeed publishes through it. -/
theorem failed_destroy_writer_still_written {codec : Codec} {da : BitVec 32} {s : State Cb Ud}
    (h : Reachable codec da s) (hsome : s.service.isSome) (args : Destroy.Args)
    (o : Destroy.Outcomes) (hfail : (Destroy.rmwDestroyService args s.service o).ret ≠ .ok)
    (hgave : (Destroy.rmwDestroyService args s.service o).ledger ≠ []) :
    let t := apply codec da s (.destroyService args o)
    t.service = s.service ∧ ¬Live t.ledger (.service .responseWriter) ∧
      ∀ (requestHeader : RequestId) (os : Send.Outcomes), os.allocateResponse = true →
        os.serialize = true → os.write = true →
        (Send.rmwSendResponse codec t.service (some requestHeader) true os).published = true := by
  have hi := h.inv
  obtain ⟨basic, hsvc⟩ := hi.service_eq hsome
  rw [hsvc] at hfail hgave
  obtain ⟨hpre, -, hfailed⟩ := Destroy.rmwDestroyService_created args basic o
  have hw := prefix_teardown_writer hpre hgave
  have hle := hi.acquired_le .responseWriter
  simp only [apply, hsvc, hfailed hfail]
  refine ⟨trivial, fun hlive => ?_, fun requestHeader os ha hser hwr => ?_⟩
  · simp only [Live, ((counts_append_of_prefix_teardown s.ledger hpre).1 _).1,
      ((counts_append_of_prefix_teardown s.ledger hpre).1 _).2] at hlive
    omega
  · cases basic <;> simp [Send.rmwSendResponse, Destroy.created, Send.sendEncoded, ha, hser, hwr]

/-- The destroy of `safe_iff_intact_readcondition`: the writer is gone and still written. -/
theorem failed_destroy_writer_still_written_readcondition :
    let codec : Codec := ⟨id, fun _ => 0, fun _ => ⟨0, 0⟩, id⟩
    let s : State ℕ Unit := initial Create.okArgs Create.okOutcomes
    let t := apply codec 0x400 s (.destroyService ⟨true, true⟩ ⟨true, false, true, true⟩)
    t.service = s.service ∧ ¬Live t.ledger (.service .responseWriter) ∧
      ∀ (requestHeader : RequestId) (os : Send.Outcomes), os.allocateResponse = true →
        os.serialize = true → os.write = true →
        (Send.rmwSendResponse codec t.service (some requestHeader) true os).published = true :=
  failed_destroy_writer_still_written (Reachable.created (show (Create.rmwCreateService
    Create.okArgs Create.okOutcomes).service.isSome = true from rfl)) rfl _ _ (by decide)
    (by decide)

/-- Every lifetime of an endpoint that ends in a successful destroy, whatever calls and
failed destroys came before it, leaves exactly the two topics held: every take and send is
settled, and everything else `rmw_create_service` obtained has been given back. -/
theorem freed_live_iff_topic {codec : Codec} {da : BitVec 32} {s : State Cb Ud}
    (h : Reachable codec da s) (hfreed : s.service = none) (x : Held) :
    Live s.ledger x ↔ x = .service .requestTopic ∨ x = .service .responseTopic := by
  have hi := h.inv
  rcases x with r | t | b
  · simp only [Held.service.injEq]
    by_cases htopic : r = .requestTopic ∨ r = .responseTopic
    · rcases htopic with rfl | rfl
      · exact iff_of_true hi.topics_held.1 (.inl rfl)
      · exact iff_of_true hi.topics_held.2 (.inr rfl)
    · refine iff_of_false (fun hl => ?_) htopic
      by_cases hc : r.isQos = true ∨ r = .requestTypesupport ∨ r = .responseTypesupport
      · exact hi.created_released r hc hl
      · -- A resource the service stands for: the successful destroy gave it back.
        have hown := ((owns_created_or_topic false r).mpr hc).resolve_right htopic
        have hgiven := hi.freed hfreed r
        rw [teardown_released_eq false, if_pos hown] at hgiven
        have := hi.acquired_le r
        unfold Live at hl
        omega
  · exact iff_of_false (by rw [Live, hi.take_settled]; exact lt_irrefl _) (by simp)
  · exact iff_of_false (by rw [Live, hi.send_settled]; exact lt_irrefl _) (by simp)

/-- A destroy that fails at the read condition, then a retry that succeeds: the lifetime is
not intact, and still only the topics are held. -/
theorem freed_live_iff_topic_after_retry :
    let codec : Codec := ⟨id, fun _ => 0, fun _ => ⟨0, 0⟩, id⟩
    let s₁ : State ℕ Unit := apply codec 0x400 (initial Create.okArgs Create.okOutcomes)
      (.destroyService ⟨true, true⟩ ⟨true, false, true, true⟩)
    let s : State ℕ Unit :=
      apply codec 0x400 s₁ (.destroyService ⟨true, true⟩ ⟨true, true, true, true⟩)
    s.intact = false ∧ s.service = none ∧
      ∀ x, Live s.ledger x ↔ x = .service .requestTopic ∨ x = .service .responseTopic := by
  intro codec s₁ s
  have h₁ : Reachable codec 0x400 s₁ := .step (.created (show (Create.rmwCreateService
    Create.okArgs Create.okOutcomes).service.isSome = true from rfl)) rfl
  exact ⟨rfl, rfl, freed_live_iff_topic (.step h₁ rfl) rfl⟩

end RmwGurumdds.Endpoint
