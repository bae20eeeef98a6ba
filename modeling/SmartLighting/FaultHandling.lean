import SmartLighting.RegionTicks
import Mathlib.Data.Finset.Lattice.Lemmas

/-!
# Leaving fault handling

Three sources take the server to fault handling, and the comm-lost timer alone
takes it back. The timer looks only at the devices that it has just listed. So a
fault that a device or a sensor has reported ends fault handling at the next
tick, although the registry still shows it.
-/

namespace SmartLighting

open StateMachine Transition

namespace Region

variable {cfg : RegionConfig} {r t : Region} {e : Event} {clock : Clock}

/-- The server is in fault handling, and a fault report of a device or a sensor
has taken it there. -/
def HandlesReport (fsm : ServerFsm) : Prop :=
  fsm.state = .faultHandling ∧
    ∃ change ∈ fsm.log.getLast?, change.label = .deviceFault ∨ change.label = .sensorFault

/-- Fault handling for a report ends only when no device of the registry is faulty. -/
def RecoveryLaw (r t : Region) : Prop :=
  HandlesReport r.fsm → t.fsm.state = .normalOperation → ∀ uri, ¬t.Faulty uri

/-- Watch the devices that were reported faulty or lost and have not registered since. -/
def watchFaulty (cfg : RegionConfig) (faulty : Finset Bytes) (r : Region) (e : Event)
    (_ : Region) : Finset Bytes :=
  match e with
  | .tick clock => faulty ∪ (r.reg.detectCommLost clock.nowMs cfg.timeoutMs).1.toFinset
  | e =>
    match e.faultReport, e.registered with
    | some (uri, _), _ => insert uri faulty
    | none, some uri => faulty.erase uri
    | none, none => faulty

/-- A tick that ends the handling of a report comes after all faulty devices have
registered again, unless it lists another device as lost. -/
def RecoveryCond (cfg : RegionConfig) (p : Region × Finset Bytes) (e : Event) : Prop :=
  ∀ clock, e = .tick clock → HandlesReport p.1.fsm →
    p.2 = ∅ ∨ ∃ uri, NewlyLost cfg clock p.1 uri

/-- The watched devices are those whose fault the registry shows. -/
def FaultyInv (p : Region × Finset Bytes) : Prop := ∀ uri, uri ∈ p.2 ↔ p.1.Faulty uri

/-- No event is a fault report and a registration. -/
private theorem registered_eq_none {report : Bytes × ServerLabel}
    (h : e.faultReport = some report) : e.registered = none := by
  cases e with
  | frame k body clock =>
    simp only [Event.faultReport, Event.registered] at h ⊢
    cases hm : DeviceMessage.ofBody body with
    | none => rfl
    | some m =>
      cases m with
      | register req => simp [hm] at h
      | status report => rfl
      | fault report => rfl
  | datagram bytes beyond clock => rfl
  | tick clock => rfl
  | posted k => rfl
  | writeDone k i ok => rfl
  | close k => rfl
  | expire k => rfl

/-- Every step keeps the watch true. -/
theorem FaultyInv.step {p q : Region × Finset Bytes} (hinv : FaultyInv p)
    (h : monitored (Region.step cfg) (watchFaulty cfg) p e = some q) : FaultyInv q := by
  obtain ⟨hstep, hwatch⟩ := monitored_eq_some.mp h
  intro uri
  rw [hwatch]
  rcases step_cases hstep with ⟨clock, rfl, hticks⟩ | ⟨htick, hstores⟩
  · rw [hticks.faulty_iff, ← hinv uri]
    simp only [watchFaulty, Finset.mem_union, List.mem_toFinset]
    rfl
  · rw [hstores.faulty_iff, ← hinv uri]
    unfold watchFaulty
    split
    · exact absurd trivial htick
    · cases hreport : e.faultReport with
      | some report =>
        obtain ⟨v, label⟩ := report
        simp [registered_eq_none hreport, eq_comm (a := uri)]
      | none =>
        cases hregistered : e.registered with
        | some v => simp [Finset.mem_erase, eq_comm (a := uri)]
        | none => simp

/-- A message does not end fault handling. -/
theorem recoveryLaw_of_message (htick : ¬e.IsTick) (h : step cfg r e = some t) :
    RecoveryLaw r t := by
  intro hhandles hnormal
  have hstate : t.fsm.state = .faultHandling := by
    rw [(stores_step h htick).fsm]
    split
    · rw [ServerFsm.switchTo_of_refused (by rw [hhandles.1]; decide)]
      exact hhandles.1
    · exact hhandles.1
  rw [hstate] at hnormal
  cases hnormal

/-- A tick obeys the law exactly when it meets the condition. -/
theorem recoveryLaw_tick_iff {p : Region × Finset Bytes} (hinv : FaultyInv p)
    (hticks : Ticks cfg clock p.1 t) :
    RecoveryLaw p.1 t ↔ RecoveryCond cfg p (.tick clock) := by
  have hcond : RecoveryCond cfg p (.tick clock) ↔
      (HandlesReport p.1.fsm → p.2 = ∅ ∨ ∃ uri, NewlyLost cfg clock p.1 uri) :=
    ⟨fun h => h clock rfl, fun h clock' heq => by cases heq; exact h⟩
  rw [hcond]
  refine imp_congr_right fun hhandles => ?_
  by_cases hsome : ∃ uri, NewlyLost cfg clock p.1 uri
  · -- Another device is lost, and the server stays in fault handling.
    have hstays : t.fsm.state = .faultHandling := by
      rcases hticks.remains hsome with hfsm | hfsm
      · rw [hfsm]
        exact hhandles.1
      · rw [hfsm, ServerFsm.switchTo_of_refused (by rw [hhandles.1]; decide)]
        exact hhandles.1
    refine iff_of_true (fun hnormal => ?_) (Or.inr hsome)
    rw [hstays] at hnormal
    cases hnormal
  · -- No device is lost, and the server recovers with the faults that it had.
    have hnone := not_exists.mp hsome
    have hnormal : t.fsm.state = .normalOperation := by
      rw [hticks.recovers hnone, if_pos hhandles.1,
        ServerFsm.switchTo_of_allowed (by rw [hhandles.1]; decide)]
      rfl
    rw [or_iff_left hsome, Finset.eq_empty_iff_forall_notMem]
    simp only [hnormal, true_imp_iff, hticks.faulty_iff, hnone, or_false, hinv _]

/-- In any run of the server fault handling for a report ends only without faults
exactly when every tick that ends it comes after all faulty devices have
registered again. -/
theorem eachStep_recoveryLaw_iff (cfg : RegionConfig) (es : List Event) :
    EachStep (monitored (step cfg) (watchFaulty cfg)) (fun p _ q => RecoveryLaw p.1 q.1)
        (start, ∅) es ↔
      EachStep (monitored (step cfg) (watchFaulty cfg)) (fun p e _ => RecoveryCond cfg p e)
        (start, ∅) es := by
  refine eachStep_iff_of_invariant (I := FaultyInv) (fun p e q hinv _ h => hinv.step h) ?_ ?_
  · intro p e q hinv h
    obtain ⟨hstep, -⟩ := monitored_eq_some.mp h
    rcases step_cases hstep with ⟨clock, rfl, hticks⟩ | ⟨htick, -⟩
    · exact recoveryLaw_tick_iff hinv hticks
    · refine iff_of_true (recoveryLaw_of_message htick hstep) ?_
      rintro clock rfl
      exact absurd trivial htick
  · intro uri
    refine iff_of_false (Finset.notMem_empty uri) ?_
    rintro ⟨st, hget, -⟩
    cases hget

/-- A lamp registers and reports a fault; the next tick comes four seconds later. -/
def faultyLamp : List Event :=
  [.frame 0 (DeviceMessage.register ⟨.luminaire, ascii "lamp", 1⟩).body ⟨1000, 1⟩,
    .frame 0 (DeviceMessage.fault ⟨ascii "lamp", 1, 1, ascii "fault_detected"⟩).body ⟨2000, 2⟩,
    .tick ⟨6000, 6⟩]

/-- The tick ends fault handling while the registry shows the fault of the lamp. -/
theorem not_eachStep_recoveryLaw_faultyLamp :
    ¬EachStep (step ⟨1, 20000⟩) (fun r _ t => RecoveryLaw r t) start faultyLamp := by
  intro h
  have hlaw := h (faultyLamp.take 2) faultyLamp[2] (List.prefix_refl _) _ _ rfl rfl
  refine hlaw ⟨by decide, ⟨.normalOperation, .faultHandling, .deviceFault⟩, by decide, by decide⟩
    (by decide) (ascii "lamp") ?_
  exact ⟨_, rfl, by decide⟩

end Region

end SmartLighting
