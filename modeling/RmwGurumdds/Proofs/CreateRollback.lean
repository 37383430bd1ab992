import RmwGurumdds.Model.Create

/-!
# What `rmw_create_service` leaves behind

Between two steps of the body the ledger is `Tidy`: nothing was obtained twice, the QoS
records are finalised, nothing else is released yet, and a resource that the fail label
tests inside another's test was only obtained after that other one.  Each step keeps
this (`Step.run_tidy`), provided it obtains fresh resources, so the ledger on every exit
of the body is tidy (`exec_tidy`).

## Strategy

* A step touches only the resources it names (`Step.run_frame`), and a
  step that succeeds has obtained all of them (`Step.acquired_run_of_mem`).
* On a tidy ledger the nested tests of the fail label agree with flat ones, so the label
  releases exactly the non-null pointers it lists, in order (`failLabel_eq`).  The list
  covers every resource but the three sequences, the QoS records (already finalised) and
  the graph entry (never obtained before the label runs).
* The three sequence allocations leave by `return nullptr`, which skips the label.
-/

namespace RmwGurumdds

/-- The four QoS records: each is obtained and finalised inside one step of the body. -/
def Resource.isQos : Resource → Bool
  | .requestTopicQos | .responseTopicQos | .datareaderQos | .datawriterQos => true
  | _ => false

/-- The three scratch sequences of the `ServiceInfo`. -/
def Resource.isSequence : Resource → Bool
  | .dataSeq | .infoSeq | .rawDataSizes => true
  | _ => false

/-- The resource whose pointer the fail label tests around this one's: the name lives in
the `rmw_service_t`, and a read condition is deleted through its reader. -/
def Resource.parent : Resource → Option Resource
  | .serviceName => some .rmwService
  | .readCondition => some .requestReader
  | _ => none

namespace Create

open Ledger

/-! ## Steps -/

/-- The resources a step obtains when it succeeds. -/
def Step.obtains : Step → List Resource
  | .obtain _ r => [r]
  | .check _ => []
  | .entity _ _ _ qosR r => [qosR, r]
  | .andThen b _ r => b.obtains ++ [r]

/-- The shape the invariant needs: QoS records only inside `entity`, and a resource with a
parent only right after the block that obtains the parent. -/
def Step.wellFormed : Step → Bool
  | .obtain _ r => !r.isQos && r.parent.isNone
  | .check _ => true
  | .entity _ _ _ qosR r => qosR.isQos && !r.isQos && r.parent.isNone
  | .andThen b _ r => b.wellFormed && !r.isQos && r.parent.all b.obtains.contains

/-- The ledger between two steps of the body. -/
structure Tidy (f : Ledger Resource) : Prop where
  acquired_le_one : ∀ r, f.acquired r ≤ 1
  released_eq : ∀ r, f.released r = if r.isQos then f.acquired r else 0
  parent_acquired : ∀ r p, r.parent = some p → 0 < f.acquired r → 0 < f.acquired p

private theorem tidy_nil : Tidy [] := ⟨by simp, by simp, by simp⟩

variable {f : Ledger Resource}

/-- Obtaining a fresh pointer-held resource whose parent is held keeps the ledger tidy. -/
theorem Tidy.acquire (hf : Tidy f) {r : Resource} (hfresh : f.acquired r = 0)
    (hq : r.isQos = false) (hp : ∀ p, r.parent = some p → 0 < f.acquired p) :
    Tidy (f ++ [.acquire r]) := by
  refine ⟨fun s => ?_, fun s => ?_, fun s p hsp hs => ?_⟩
  · by_cases h : r = s
    · subst h; simp [hfresh]
    · simpa [h] using hf.acquired_le_one s
  · by_cases h : r = s
    · subst h; simp [hf.released_eq, hq]
    · simp [h, hf.released_eq s]
  · simp only [acquired_append, acquired_cons_acquire, acquired_nil, zero_add] at hs ⊢
    by_cases h : r = s
    · subst h; have := hp p hsp; omega
    · have := hf.parent_acquired s p hsp (by simpa [h] using hs); omega

/-- Obtaining and finalising a fresh QoS record around the creation of a resource keeps
the ledger tidy. -/
theorem Tidy.qos {q : Resource} (hq : q.isQos = true) (g : Ledger Resource)
    (hg : Tidy (f ++ g)) (hfresh : (f ++ g).acquired q = 0) :
    Tidy (f ++ .acquire q :: (g ++ [.release q])) := by
  have hp : q.parent = none := by cases q <;> simp_all [Resource.isQos, Resource.parent]
  have hcount : ∀ s, (f ++ Event.acquire q :: (g ++ [Event.release q])).acquired s =
      (f ++ g).acquired s + (if q = s then 1 else 0) ∧
      (f ++ Event.acquire q :: (g ++ [Event.release q])).released s =
      (f ++ g).released s + (if q = s then 1 else 0) := by
    intro s; simp only [acquired_append, released_append, acquired_cons_acquire,
      released_cons_acquire, acquired_cons_release, released_cons_release, acquired_nil,
      released_nil]; omega
  refine ⟨fun s => ?_, fun s => ?_, fun s p hsp hs => ?_⟩
  · have := hg.acquired_le_one s
    by_cases h : q = s
    · subst h; rw [(hcount q).1]; simp [hfresh]
    · rw [(hcount s).1]; simpa [h] using this
  · rw [(hcount s).1, (hcount s).2, hg.released_eq s]
    by_cases h : q = s
    · subst h; simp [hq, hfresh]
    · simp [h]
  · rw [(hcount s).1] at hs
    rw [(hcount p).1]
    by_cases h : q = s
    · subst h; simp [hp] at hsp
    · have := hg.parent_acquired s p hsp (by simpa [h] using hs); omega

/-! ## One step -/

/-- The calls a step makes, in order. -/
def Step.calls : Step → List Call
  | .obtain c _ => [c]
  | .check c => [c]
  | .entity qos create finalize _ _ => [qos, create, finalize]
  | .andThen b c _ => b.calls ++ [c]

/-- The three ways an `entity` step ends: its QoS computation fails, its creation fails
after the record was obtained and finalised, or both succeed and the finalisation decides. -/
theorem Step.run_entity (qos create finalize : Call) (qosR r : Resource) (f : Ledger Resource) :
    (qos.ok = false ∧ (Step.entity qos create finalize qosR r).run f = (f, some qos.exit)) ∨
    (qos.ok = true ∧ create.ok = false ∧ (Step.entity qos create finalize qosR r).run f =
      (f ++ [.acquire qosR, .release qosR], some create.exit)) ∨
    (qos.ok = true ∧ create.ok = true ∧ (Step.entity qos create finalize qosR r).run f =
      (f ++ [.acquire qosR, .acquire r, .release qosR],
        if finalize.ok then none else some finalize.exit)) := by
  cases hq : qos.ok <;> cases hc : create.ok <;> cases hfin : finalize.ok <;>
    simp [Step.run, hq, hc, hfin]

theorem runObtain_extends (c : Call) (r : Resource) (f : Ledger Resource) :
    ∃ l, (runObtain c r f).1 = f ++ l := by
  cases hc : c.ok <;> simp [runObtain, hc]

/-- A step only appends to the ledger. -/
theorem Step.run_extends : ∀ (s : Step) (f : Ledger Resource), ∃ l, (s.run f).1 = f ++ l
  | .obtain c r, f => runObtain_extends c r f
  | .check c, f => ⟨[], by cases hc : c.ok <;> simp [Step.run, hc]⟩
  | .entity qos create finalize qosR r, f => by
      rcases Step.run_entity qos create finalize qosR r f with ⟨-, h⟩ | ⟨-, -, h⟩ | ⟨-, -, h⟩ <;>
        simp [h]
  | .andThen b c r, f => by
      obtain ⟨l, hl⟩ := Step.run_extends b f
      simp only [Step.run]
      rcases hb : b.run f with ⟨g, _ | e⟩
      · obtain ⟨l', hl'⟩ := runObtain_extends c r g
        rw [hb] at hl
        exact ⟨l ++ l', by rw [hl', show g = f ++ l from hl, List.append_assoc]⟩
      · rw [hb] at hl
        exact ⟨l, hl⟩

/-- A step leaves every resource it does not name alone. -/
theorem Step.run_frame : ∀ (s : Step) (f : Ledger Resource) {r : Resource}, r ∉ s.obtains →
    (s.run f).1.acquired r = f.acquired r ∧ (s.run f).1.released r = f.released r
  | .obtain c r', f, r, h => by
      have : r' ≠ r := by simpa [Step.obtains, eq_comm] using h
      cases hc : c.ok <;> simp [Step.run, runObtain, hc, this]
  | .check c, f, r, _ => by cases hc : c.ok <;> simp [Step.run, hc]
  | .entity qos create finalize qosR r', f, r, h => by
      simp only [Step.obtains, List.mem_cons, List.mem_singleton, not_or] at h
      have h₁ : qosR ≠ r := Ne.symm h.1
      have h₂ : r' ≠ r := Ne.symm h.2.1
      rcases Step.run_entity qos create finalize qosR r' f with
        ⟨-, hs⟩ | ⟨-, -, hs⟩ | ⟨-, -, hs⟩ <;> simp [hs, h₁, h₂]
  | .andThen b c r', f, r, h => by
      simp only [Step.obtains, List.mem_append, List.mem_singleton, not_or] at h
      have ih := Step.run_frame b f h.1
      simp only [Step.run]
      rcases hb : b.run f with ⟨g, _ | e⟩ <;> rw [hb] at ih
      · have : r' ≠ r := Ne.symm h.2
        cases hc : c.ok <;> simp [runObtain, hc, this, ih]
      · exact ih

/-- A step that succeeds holds everything it names. -/
theorem Step.acquired_run_of_mem : ∀ (s : Step) (f : Ledger Resource) {r : Resource},
    (s.run f).2 = none → r ∈ s.obtains → 0 < (s.run f).1.acquired r
  | .obtain c r', f, r, hok, h => by
      simp only [Step.obtains, List.mem_singleton] at h
      subst h
      cases hc : c.ok
      · simp [Step.run, runObtain, hc] at hok
      · exact acquired_pos_of_mem (by simp [Step.run, runObtain, hc])
  | .check _, _, _, _, h => by simp [Step.obtains] at h
  | .entity qos create finalize qosR r', f, r, hok, h => by
      simp only [Step.obtains, List.mem_cons, List.mem_singleton, List.not_mem_nil,
        or_false] at h
      rcases Step.run_entity qos create finalize qosR r' f with
        ⟨-, hs⟩ | ⟨-, -, hs⟩ | ⟨-, -, hs⟩ <;> rw [hs] at hok ⊢
      · cases hok
      · cases hok
      · exact acquired_pos_of_mem (by rcases h with rfl | rfl <;> simp)
  | .andThen b c r', f, r, hok, h => by
      simp only [Step.run] at hok ⊢
      rcases hb : b.run f with ⟨g, _ | e⟩ <;> rw [hb] at hok
      · have hc : c.ok = true := by
          cases hc : c.ok
          · simp [runObtain, hc] at hok
          · rfl
        simp only [Step.obtains, List.mem_append, List.mem_singleton] at h
        simp only [runObtain, hc, if_true, acquired_append]
        rcases h with h | rfl
        · have := Step.acquired_run_of_mem b f (by rw [hb]) h
          rw [hb] at this
          exact Nat.lt_add_right _ this
        · have := acquired_pos_of_mem (List.mem_singleton_self (Event.acquire r))
          omega
      · simp at hok

/-- What makes a step fail: one of its calls fails, and the step leaves by that call's
exit. -/
theorem Step.exit_of_run : ∀ (s : Step) (f : Ledger Resource) {e : Exit},
    (s.run f).2 = some e → ∃ c ∈ s.calls, c.ok = false ∧ c.exit = e
  | .obtain c r, f, e, h => by
      cases hc : c.ok <;> simp_all [Step.run, runObtain, Step.calls]
  | .check c, f, e, h => by cases hc : c.ok <;> simp_all [Step.run, Step.calls]
  | .entity qos create finalize qosR r, f, e, h => by
      rcases Step.run_entity qos create finalize qosR r f with
        ⟨hq, hs⟩ | ⟨-, hc, hs⟩ | ⟨-, -, hs⟩ <;> rw [hs] at h
      · exact ⟨qos, by simp [Step.calls], hq, Option.some_inj.mp h⟩
      · exact ⟨create, by simp [Step.calls], hc, Option.some_inj.mp h⟩
      · cases hfin : finalize.ok <;> simp only [hfin, if_true, if_false] at h
        · exact ⟨finalize, by simp [Step.calls], hfin, Option.some_inj.mp h⟩
        · cases h
  | .andThen b c r, f, e, h => by
      simp only [Step.run] at h
      rcases hb : b.run f with ⟨g, _ | e'⟩ <;> rw [hb] at h
      · cases hc : c.ok <;> simp_all [runObtain, Step.calls]
        exact ⟨c, Or.inr rfl, hc, h⟩
      · obtain ⟨c', hc', hfail, hexit⟩ := Step.exit_of_run b f (by rw [hb])
        simp only at h
        exact ⟨c', by simp [Step.calls, hc'], hfail, by rw [hexit]; simpa using h⟩

/-- One step keeps the ledger tidy, if it obtains only fresh resources. -/
theorem Step.run_tidy : ∀ (s : Step) {f : Ledger Resource}, Tidy f → s.wellFormed →
    s.obtains.Nodup → (∀ r ∈ s.obtains, f.acquired r = 0) → Tidy (s.run f).1
  | .obtain c r, f, hf, hs, _, hfresh => by
      simp only [Step.wellFormed, Bool.and_eq_true, Bool.not_eq_true',
        Option.isNone_iff_eq_none] at hs
      cases hc : c.ok
      · simpa [Step.run, runObtain, hc] using hf
      · simpa [Step.run, runObtain, hc] using
          hf.acquire (hfresh r (by simp [Step.obtains])) hs.1 (by simp [hs.2])
  | .check c, f, hf, _, _, _ => by cases hc : c.ok <;> simpa [Step.run, hc] using hf
  | .entity qos create finalize qosR r, f, hf, hs, hnd, hfresh => by
      simp only [Step.wellFormed, Bool.and_eq_true, Bool.not_eq_true',
        Option.isNone_iff_eq_none] at hs
      obtain ⟨⟨hqos, hr⟩, hpr⟩ := hs
      have hq0 := hfresh qosR (by simp [Step.obtains])
      have hr0 := hfresh r (by simp [Step.obtains])
      have hne : r ≠ qosR := by
        intro h; subst h; simp [Step.obtains] at hnd
      rcases Step.run_entity qos create finalize qosR r f with
        ⟨-, hs⟩ | ⟨-, -, hs⟩ | ⟨-, -, hs⟩ <;> rw [hs]
      · exact hf
      · simpa using Tidy.qos (f := f) hqos [] (by simpa using hf) (by simpa using hq0)
      · have hacq : Tidy (f ++ [.acquire r]) := hf.acquire hr0 hr (by simp [hpr])
        simpa using Tidy.qos (f := f) hqos [.acquire r] hacq (by simp [hq0, hne])
  | .andThen b c r, f, hf, hs, hnd, hfresh => by
      simp only [Step.wellFormed, Bool.and_eq_true, Bool.not_eq_true'] at hs
      obtain ⟨⟨hb, hr⟩, hall⟩ := hs
      have hpr : ∀ p, r.parent = some p → p ∈ b.obtains := fun p hp => by
        rw [hp] at hall; simpa using hall
      simp only [Step.obtains, List.nodup_append, List.nodup_cons, List.not_mem_nil,
        not_false_eq_true, List.nodup_nil, and_self, List.disjoint_singleton, true_and] at hnd
      have ih := Step.run_tidy b hf hb hnd.1
        (fun r' h => hfresh r' (by simp [Step.obtains, h]))
      simp only [Step.run]
      rcases hbr : b.run f with ⟨g, _ | e⟩ <;> rw [hbr] at ih <;> simp only at ih ⊢
      · have hg : g.acquired r = 0 := by
          have := (Step.run_frame b f hnd.2).1
          rw [hbr] at this
          simpa [this] using hfresh r (by simp [Step.obtains])
        have hparent : ∀ p, r.parent = some p → 0 < g.acquired p := fun p hp => by
          have := Step.acquired_run_of_mem b f (by rw [hbr]) (hpr p hp)
          rwa [hbr] at this
        cases hc : c.ok
        · simpa [runObtain, hc] using ih
        · simpa [runObtain, hc] using ih.acquire hg hr hparent
      · exact ih

/-! ## The body -/

/-- The body only appends to the ledger. -/
theorem exec_extends : ∀ (steps : List Step) (f : Ledger Resource),
    ∃ l, (exec steps f).1 = f ++ l
  | [], f => ⟨[], by simp [exec]⟩
  | s :: rest, f => by
      obtain ⟨l, hl⟩ := s.run_extends f
      simp only [exec]
      rcases hs : s.run f with ⟨g, _ | e⟩ <;> rw [hs] at hl
      · obtain ⟨l', hl'⟩ := exec_extends rest g
        exact ⟨l ++ l', by rw [hl', show g = f ++ l from hl, List.append_assoc]⟩
      · exact ⟨l, hl⟩

theorem exec_frame : ∀ (steps : List Step) (f : Ledger Resource) {r : Resource},
    r ∉ steps.flatMap Step.obtains →
    (exec steps f).1.acquired r = f.acquired r ∧ (exec steps f).1.released r = f.released r
  | [], f, r, _ => by simp [exec]
  | s :: rest, f, r, h => by
      simp only [List.flatMap_cons, List.mem_append, not_or] at h
      have hs := s.run_frame f h.1
      simp only [exec]
      rcases hsr : s.run f with ⟨g, _ | e⟩ <;> rw [hsr] at hs
      · have := exec_frame rest g h.2
        simp only at hs
        rw [this.1, this.2, hs.1, hs.2]; simp
      · exact hs

theorem exec_tidy : ∀ (steps : List Step) {f : Ledger Resource}, Tidy f →
    (∀ s ∈ steps, s.wellFormed) → (steps.flatMap Step.obtains).Nodup →
    (∀ r ∈ steps.flatMap Step.obtains, f.acquired r = 0) → Tidy (exec steps f).1
  | [], f, hf, _, _, _ => by simpa [exec] using hf
  | s :: rest, f, hf, hw, hnd, hfresh => by
      simp only [List.flatMap_cons, List.nodup_append] at hnd
      have hs := s.run_tidy hf (hw s (by simp)) hnd.1
        (fun r h => hfresh r (by simp [h]))
      simp only [exec]
      rcases hsr : s.run f with ⟨g, _ | e⟩ <;> rw [hsr] at hs
      · refine exec_tidy rest hs (fun s' h => hw s' (by simp [h])) hnd.2.1 fun r hr => ?_
        have := (s.run_frame f (fun h => hnd.2.2 h hr)).1
        rw [hsr] at this
        simpa [this] using hfresh r (by simp [hr])
      · exact hs

theorem exec_acquired_of_mem : ∀ (steps : List Step) (f : Ledger Resource) {r : Resource},
    (exec steps f).2 = none → r ∈ steps.flatMap Step.obtains → 0 < (exec steps f).1.acquired r
  | [], _, _, _, h => by simp at h
  | s :: rest, f, r, hok, h => by
      simp only [exec] at hok ⊢
      rcases hsr : s.run f with ⟨g, _ | e⟩ <;> rw [hsr] at hok <;> simp only at hok ⊢
      · simp only [List.flatMap_cons, List.mem_append] at h
        rcases h with h | h
        · have := s.acquired_run_of_mem f (by rw [hsr]) h
          rw [hsr] at this
          obtain ⟨l, hl⟩ := exec_extends rest g
          simp only at this
          rw [hl, acquired_append]; omega
        · exact exec_acquired_of_mem rest g hok h
      · simp at hok

theorem exec_exit : ∀ (steps : List Step) (f : Ledger Resource) {e : Exit},
    (exec steps f).2 = some e → ∃ c ∈ steps.flatMap Step.calls, c.ok = false ∧ c.exit = e
  | [], _, _, h => by simp [exec] at h
  | s :: rest, f, e, h => by
      simp only [exec] at h
      rcases hsr : s.run f with ⟨g, _ | e'⟩ <;> rw [hsr] at h <;>
        simp only [Option.some.injEq] at h
      · obtain ⟨c, hc, hrest⟩ := exec_exit rest g h
        exact ⟨c, by simp [hc], hrest⟩
      · subst h
        obtain ⟨c, hc, hrest⟩ := s.exit_of_run f (by rw [hsr])
        exact ⟨c, by simp [hc], hrest⟩

private theorem body_wellFormed (o : Outcomes) : ∀ s ∈ body o, s.wellFormed := by
  rw [← List.all_eq_true]
  simp only [body, topicSteps]
  split_ifs <;> rfl

/-- What the body obtains when every call succeeds, by whether each topic already exists. -/
def bodyObtains (requestFound responseFound : Bool) : List Resource :=
  [.requestTypesupport, .responseTypesupport] ++
    (if requestFound then [.requestTopic] else [.requestTopicQos, .requestTopic]) ++
    (if responseFound then [.responseTopic] else [.responseTopicQos, .responseTopic]) ++
    [.datareaderQos, .requestReader, .readCondition, .datawriterQos, .responseWriter,
      .serviceInfo, .dataSeq, .infoSeq, .rawDataSizes, .rmwService, .serviceName]

theorem body_obtains (o : Outcomes) :
    (body o).flatMap Step.obtains = bodyObtains o.requestTopic.found o.responseTopic.found := by
  simp only [body, topicSteps, bodyObtains]
  split_ifs <;> rfl

private theorem body_nodup (o : Outcomes) : ((body o).flatMap Step.obtains).Nodup := by
  rw [body_obtains]
  generalize o.requestTopic.found = b₁; generalize o.responseTopic.found = b₂
  revert b₁ b₂; decide

private theorem graphEntry_not_mem_body (o : Outcomes) :
    Resource.graphEntry ∉ (body o).flatMap Step.obtains := by
  rw [body_obtains]
  generalize o.requestTopic.found = b₁; generalize o.responseTopic.found = b₂
  revert b₁ b₂; decide

/-- Every pointer-held resource but the graph entry is obtained by the body. -/
theorem mem_body_of_not_isQos (o : Outcomes) {r : Resource} (hq : r.isQos = false)
    (hg : r ≠ .graphEntry) : r ∈ (body o).flatMap Step.obtains := by
  rw [body_obtains]
  generalize o.requestTopic.found = b₁; generalize o.responseTopic.found = b₂
  revert r b₁ b₂; decide

/-- Whether a step leaves by `return nullptr`. -/
def Exit.isReturnNull : Exit → Bool
  | .returnNull _ => true
  | .fail _ => false

/-- Only the three sequence allocations leave by `return nullptr`. -/
private theorem body_returnNull (o : Outcomes) :
    ((body o).flatMap Step.calls).filter (·.exit.isReturnNull) =
      [⟨o.dataSeq, .returnNull (.text "failed to allocate data_seq")⟩,
        ⟨o.infoSeq, .returnNull (.text "failed to allocate info_seq")⟩,
        ⟨o.rawDataSizes, .returnNull (.text "failed to allocate raw_data_sizes")⟩] := by
  simp only [body, topicSteps]
  split_ifs <;> rfl

/-! ## The fail label -/

/-- The resources the fail label releases when their pointer is non-null. -/
def labelled : List Resource :=
  [.serviceName, .rmwService, .readCondition, .requestReader, .responseWriter, .requestTopic,
    .responseTopic, .requestTypesupport, .responseTypesupport, .serviceInfo]

/-- Every resource is exactly one of: one the fail label releases, a QoS record, a
sequence, or the graph entry. -/
private theorem Resource.kind (r : Resource) :
    (r ∈ labelled ∧ r.isQos = false ∧ r.isSequence = false) ∨
      (r ∉ labelled ∧ r.isQos = true ∧ r.isSequence = false) ∨
      (r ∉ labelled ∧ r.isQos = false ∧ r.isSequence = true) ∨ r = .graphEntry := by
  cases r <;> decide

private theorem releaseIf_eq (e : Ledger Resource) (s : Resource) :
    releaseIf e s = ([s].filter (nonNull e)).map Event.release := by
  unfold releaseIf; cases h : nonNull e s <;> simp [h]

/-- A child is only ever non-null under a non-null parent, so the nested test releases
the non-null ones of the two. -/
theorem releaseWithChild_eq (e : Ledger Resource) (p c : Resource)
    (hpc : nonNull e c → nonNull e p) :
    releaseWithChild e p c = ([c, p].filter (nonNull e)).map Event.release := by
  unfold releaseWithChild releaseIf
  cases hp : nonNull e p <;> cases hc : nonNull e c <;> simp_all

/-- On a tidy ledger the fail label releases the non-null pointers of `labelled`, in the
order of the list. -/
theorem failLabel_eq (hf : Tidy f) :
    failLabel f = f ++ (labelled.filter (nonNull f)).map Event.release := by
  have hname : nonNull f .serviceName → nonNull f .rmwService := by
    simpa [nonNull] using hf.parent_acquired .serviceName .rmwService rfl
  have hcond : nonNull f .readCondition → nonNull f .requestReader := by
    simpa [nonNull] using hf.parent_acquired .readCondition .requestReader rfl
  rw [failLabel, releaseWithChild_eq f _ _ hname, releaseWithChild_eq f _ _ hcond]
  simp only [releaseIf_eq, labelled, List.append_assoc]
  rw [show [Resource.serviceName, .rmwService, .readCondition, .requestReader, .responseWriter,
      .requestTopic, .responseTopic, .requestTypesupport, .responseTypesupport, .serviceInfo] =
      [.serviceName, .rmwService] ++ [.readCondition, .requestReader] ++ [.responseWriter] ++
      [.requestTopic] ++ [.responseTopic] ++ [.requestTypesupport] ++ [.responseTypesupport] ++
      [.serviceInfo] from rfl]
  simp only [List.filter_append, List.map_append, List.append_assoc]

private theorem failLabel_acquired (hf : Tidy f) (r : Resource) :
    (failLabel f).acquired r = f.acquired r := by
  rw [failLabel_eq hf, acquired_append, Nat.add_right_eq_self]
  exact List.count_eq_zero_of_not_mem fun h => by simp at h

/-- On a tidy ledger the fail label releases each listed resource that is held, once. -/
private theorem failLabel_released (hf : Tidy f) (r : Resource) :
    (failLabel f).released r = f.released r + if r ∈ labelled ∧ 0 < f.acquired r then 1 else 0 := by
  rw [failLabel_eq hf, released_append]
  congr 1
  unfold Ledger.released
  rw [List.count_map_of_injective _ _ fun _ _ h => by cases h; rfl]
  have hnodup : (labelled.filter (nonNull f)).Nodup := (by decide : labelled.Nodup).filter _
  split_ifs with h
  · exact List.count_eq_one_of_mem hnodup (List.mem_filter.mpr ⟨h.1, by simpa [nonNull] using h.2⟩)
  · exact List.count_eq_zero_of_not_mem fun hm => h (by simpa [nonNull] using List.mem_filter.mp hm)

/-- Through the fail label, a tidy ledger without a graph entry gives back everything but
the three sequences, exactly once; the sequences are never given back. -/
theorem failLabel_balanced (hf : Tidy f) (hg : f.acquired .graphEntry = 0) (r : Resource) :
    (failLabel f).acquired r ≤ 1 ∧
      (failLabel f).released r = if r.isSequence then 0 else (failLabel f).acquired r := by
  rw [failLabel_acquired hf, failLabel_released hf, hf.released_eq r]
  have hle := hf.acquired_le_one r
  refine ⟨hle, ?_⟩
  rcases Resource.kind r with ⟨hl, hq, hs⟩ | ⟨hl, hq, hs⟩ | ⟨hl, hq, hs⟩ | rfl
  · simp only [hl, hq, hs, true_and, Bool.false_eq_true, if_false, zero_add]
    split_ifs <;> omega
  · simp [hl, hq, hs]
  · simp [hl, hq, hs]
  · simp [hg]

/-! ## The function -/

/-- `rmw_create_service` either returns before the body, having obtained nothing, or runs
the body and finishes. -/
theorem rmwCreateService_cases (args : Args) (o : Outcomes) :
    ((rmwCreateService args o).service = none ∧ (rmwCreateService args o).ledger = []) ∨
      rmwCreateService args o = finish args o (exec (body o) []) := by
  unfold rmwCreateService
  split
  · exact Or.inl ⟨rfl, rfl⟩
  · exact Or.inr rfl

/-- A returned service is the one built from the ledger of a body that ran through; the
call has then added the graph entry and given back both type supports. -/
theorem rmwCreateService_service_eq (args : Args) (o : Outcomes) {svc : RmwService}
    (h : (rmwCreateService args o).service = some svc) :
    (exec (body o) []).2 = none ∧
      (rmwCreateService args o).ledger = (exec (body o) []).1 ++
        [.acquire .graphEntry, .release .requestTypesupport, .release .responseTypesupport] ∧
      svc = createdService args (exec (body o) []).1 := by
  rcases rmwCreateService_cases args o with ⟨hn, -⟩ | hc
  · simp [hn] at h
  rw [hc] at h ⊢
  generalize exec (body o) [] = res at h ⊢
  rcases res with ⟨f, _ | e | e⟩
  · cases hon : o.onServiceCreated <;> simp [finish, hon] at h ⊢
    exact h.symm
  · simp [finish] at h
  · simp [finish] at h

/-- The service a successful call returns: every handle and the name set, in the node's
wire variant. -/
theorem rmwCreateService_service (args : Args) (o : Outcomes) {svc : RmwService}
    (h : (rmwCreateService args o).service = some svc) :
    svc = ⟨true, some ⟨true, true, true, true, true, true, true, args.serviceMappingBasic⟩, true⟩ := by
  obtain ⟨hok, -, rfl⟩ := rmwCreateService_service_eq args o h
  have held : ∀ r, r.isQos = false → r ≠ .graphEntry → nonNull (exec (body o) []).1 r = true :=
    fun r hq hr => by
      simpa [nonNull] using exec_acquired_of_mem (body o) [] hok (mem_body_of_not_isQos o hq hr)
  simp [createdService, held, Resource.isQos]

theorem exec_body_tidy (o : Outcomes) : Tidy (exec (body o) []).1 :=
  exec_tidy (body o) tidy_nil (body_wellFormed o) (body_nodup o) (by simp)

theorem exec_body_graphEntry (o : Outcomes) : (exec (body o) []).1.acquired .graphEntry = 0 := by
  simpa using (exec_frame (body o) [] (graphEntry_not_mem_body o)).1

/-- What a call that returns a service holds: every resource at most once, every one but
the QoS records exactly once, and it has given back just the QoS records and both type
supports. -/
theorem rmwCreateService_held (args : Args) (o : Outcomes) {svc : RmwService}
    (h : (rmwCreateService args o).service = some svc) (r : Resource) :
    (rmwCreateService args o).ledger.acquired r ≤ 1 ∧
      (r.isQos = false → (rmwCreateService args o).ledger.acquired r = 1) ∧
      (rmwCreateService args o).ledger.released r =
        if r.isQos = true ∨ r = .requestTypesupport ∨ r = .responseTypesupport then
          (rmwCreateService args o).ledger.acquired r else 0 := by
  obtain ⟨hok, hledger, -⟩ := rmwCreateService_service_eq args o h
  have htidy := exec_body_tidy o
  have hone : ∀ r, r.isQos = false → r ≠ .graphEntry → (exec (body o) []).1.acquired r = 1 :=
    fun r hq hr => le_antisymm (htidy.acquired_le_one r)
      (exec_acquired_of_mem (body o) [] hok (mem_body_of_not_isQos o hq hr))
  have hle := htidy.acquired_le_one r
  rw [hledger, acquired_append, released_append, htidy.released_eq r]
  simp only [acquired_cons_acquire, acquired_cons_release, released_cons_release,
    released_cons_acquire, acquired_nil, released_nil, zero_add]
  cases r <;> simp [Resource.isQos, exec_body_graphEntry o, hle, hone]

/-- If no sequence allocation fails, a call that returns `nullptr` has given back every
resource it obtained exactly once, except the three sequences, which it never gives
back. -/
theorem rmwCreateService_released_of_failure (args : Args) (o : Outcomes)
    (hseq : o.dataSeq = true ∧ o.infoSeq = true ∧ o.rawDataSizes = true)
    (hnull : (rmwCreateService args o).service = none) (r : Resource) :
    (rmwCreateService args o).ledger.acquired r ≤ 1 ∧
      (rmwCreateService args o).ledger.released r =
        if r.isSequence then 0 else (rmwCreateService args o).ledger.acquired r := by
  rcases rmwCreateService_cases args o with ⟨-, h⟩ | h
  · simp [h]
  rw [h] at hnull ⊢
  have htidy := exec_body_tidy o
  have hgraph := exec_body_graphEntry o
  generalize hx : exec (body o) [] = res at htidy hgraph hnull ⊢
  rcases res with ⟨f, _ | e | e⟩ <;> simp only at htidy hgraph
  · cases hc : o.onServiceCreated <;> simp [finish, hc] at hnull ⊢
    exact failLabel_balanced htidy hgraph r
  · exact failLabel_balanced htidy hgraph r
  · obtain ⟨c, hc, hok, hexit⟩ := exec_exit (body o) [] (by rw [hx])
    have : c ∈ ((body o).flatMap Step.calls).filter (·.exit.isReturnNull) :=
      List.mem_filter.mpr ⟨hc, by simp [hexit, Exit.isReturnNull]⟩
    rw [body_returnNull] at this
    simp only [List.mem_cons, List.mem_singleton, List.not_mem_nil, or_false] at this
    rcases this with rfl | rfl | rfl <;> simp_all

/-- A run where every collaborator succeeds; the variations below change one outcome. -/
def okArgs : Args := ⟨true, true, true, some "/add_two_ints", true, true⟩

/-- Every collaborator call succeeds; both topics are new. -/
def okOutcomes : Outcomes where
  avoidRosNamespaceConventions := false
  validateFullTopicName := true
  topicValidation := none
  introspectionC := true
  introspectionCpp := true
  typeName := true
  metastring := true
  requestTypesupport := true
  requestRegisterType := true
  responseTypesupport := true
  responseRegisterType := true
  requestTopic := ⟨false, ⟨true, true, true⟩, true⟩
  responseTopic := ⟨false, ⟨true, true, true⟩, true⟩
  datareader := ⟨true, true, true⟩
  readcondition := true
  datawriter := ⟨true, true, true⟩
  serviceInfo := true
  dataSeq := true
  infoSeq := true
  rawDataSizes := true
  rmwServiceAllocate := true
  serviceNameAllocate := true
  onServiceCreated := true

/-- `graph_cache::on_service_created` fails after everything else succeeded: the call
returns `nullptr` through the fail label, which gives back every resource it obtained
except the three sequences, and those were obtained. -/
theorem rmwCreateService_released_of_failure_onServiceCreated :
    let o := { okOutcomes with onServiceCreated := false }
    (o.dataSeq = true ∧ o.infoSeq = true ∧ o.rawDataSizes = true) ∧
      (rmwCreateService okArgs o).service = none ∧
      (∀ r, (rmwCreateService okArgs o).ledger.acquired r ≤ 1 ∧
        (rmwCreateService okArgs o).ledger.released r =
          if r.isSequence then 0 else (rmwCreateService okArgs o).ledger.acquired r) ∧
      (rmwCreateService okArgs o).ledger.acquired .dataSeq = 1 := by
  intro o
  have hnull : (rmwCreateService okArgs o).service = none := rfl
  exact ⟨⟨rfl, rfl, rfl⟩, hnull, rmwCreateService_released_of_failure okArgs o ⟨rfl, rfl, rfl⟩ hnull,
    rfl⟩

/-- The allocation of `data_seq` fails after everything before it succeeded: the call
returns `nullptr` by the early return at line 315, and every entity, type support and the
`ServiceInfo` it obtained stay obtained and unreleased. -/
theorem rmwCreateService_dataSeq_failure_leaks :
    (rmwCreateService okArgs { okOutcomes with dataSeq := false }).service = none ∧
      ∀ r ∈ [Resource.requestTypesupport, .responseTypesupport, .requestTopic, .responseTopic,
        .requestReader, .readCondition, .responseWriter, .serviceInfo],
        (rmwCreateService okArgs { okOutcomes with dataSeq := false }).ledger.acquired r = 1 ∧
        (rmwCreateService okArgs { okOutcomes with dataSeq := false }).ledger.released r = 0 := by
  decide

end Create

end RmwGurumdds
