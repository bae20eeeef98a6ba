import SmartLighting.RegionSteps

/-!
# What the comm-lost timer does

`detect_comm_lost` latches the fault of every device it lists, so a device is
listed once and not again until its fault is cleared. The loops after it report
the listed devices that were not in `active_lost`, and keep exactly the listed
devices in `active_lost`.
-/

namespace SmartLighting

open StateMachine Transition

namespace Region

variable {cfg : RegionConfig} {r t : Region} {clock : Clock} {uri : Bytes}

/-- A device that `detect_comm_lost` lists when the timer expires. -/
def NewlyLost (cfg : RegionConfig) (clock : Clock) (r : Region) (uri : Bytes) : Prop :=
  uri ∈ (r.reg.detectCommLost clock.nowMs cfg.timeoutMs).1

instance : Decidable (NewlyLost cfg clock r uri) := inferInstanceAs (Decidable (_ ∈ _))

theorem newlyLost_iff :
    NewlyLost cfg clock r uri ↔
      ∃ st, r.reg.get uri = some st ∧ Registry.CommLost clock.nowMs cfg.timeoutMs st :=
  Registry.mem_detectCommLost

/-- The calls of `send_alarm_now` that report the device as lost. -/
def commLostAlarms (r : Region) (uri : Bytes) : ℕ :=
  r.alarms.countP fun a => a.uri = uri ∧ a.code = 9 ∧ a.text = ascii "comm_lost"

/-- A handler that does not report the device as faulty raises no such alarm. -/
theorem Stores.commLostAlarms_eq {e : Event} (h : Stores r e t)
    (hquiet : e.faultReport.map Prod.fst ≠ some uri) :
    t.commLostAlarms uri = r.commLostAlarms uri := by
  have halarms := h.alarms
  cases hreport : e.faultReport with
  | none =>
    simp only [hreport] at halarms
    rw [commLostAlarms, halarms, commLostAlarms]
  | some report =>
    obtain ⟨v, label⟩ := report
    simp only [hreport] at halarms
    obtain ⟨a, ha, halarms⟩ := halarms
    have hne : a.uri ≠ uri := by
      rintro rfl
      rw [hreport, ha] at hquiet
      exact hquiet rfl
    simp [commLostAlarms, halarms, List.countP_append, hne]

/-! ## The alarm loop -/

/-- Reporting a device that is being reported already does nothing. -/
private theorem reportLost_of_mem (h : uri ∈ r.activeLost) :
    reportLost cfg clock r uri = r := if_pos h

/-- Reporting a device adds it, asks for fault handling and raises its alarm. -/
private theorem reportLost_of_not_mem (cfg : RegionConfig) (clock : Clock) (h : uri ∉ r.activeLost) :
    (reportLost cfg clock r uri).reg = r.reg ∧
      (reportLost cfg clock r uri).activeLost = insert uri r.activeLost ∧
      (reportLost cfg clock r uri).fsm = r.fsm.switchTo .faultHandling .commLost ∧
      ∃ a, a.uri = uri ∧ a.code = 9 ∧ a.text = ascii "comm_lost" ∧
        (reportLost cfg clock r uri).alarms = r.alarms ++ [a] := by
  unfold reportLost
  rw [if_neg h]
  exact ⟨rfl, rfl, rfl, _, rfl, rfl, rfl, rfl⟩

/-- A second request for fault handling is refused. -/
private theorem switchTo_faultHandling_twice (fsm : ServerFsm) (label : ServerLabel) :
    (fsm.switchTo .faultHandling label).switchTo .faultHandling label =
      fsm.switchTo .faultHandling label := by
  unfold ServerFsm.switchTo
  rw [Machine.switchTo_switchTo (by decide)]

/-- The alarm loop adds the listed devices, and raises one alarm for each of
them that was not there. -/
private theorem foldl_reportLost (cfg : RegionConfig) (clock : Clock) (r : Region)
    (lost : List Bytes) :
    (lost.foldl (reportLost cfg clock) r).reg = r.reg ∧
      (∀ v, v ∈ (lost.foldl (reportLost cfg clock) r).activeLost ↔
        v ∈ r.activeLost ∨ v ∈ lost) ∧
      (lost.foldl (reportLost cfg clock) r).fsm =
        (if ∀ v ∈ lost, v ∈ r.activeLost then r.fsm
          else r.fsm.switchTo .faultHandling .commLost) ∧
      ∀ v, (lost.foldl (reportLost cfg clock) r).commLostAlarms v =
        r.commLostAlarms v + if v ∈ lost ∧ v ∉ r.activeLost then 1 else 0 := by
  induction lost generalizing r with
  | nil => simp
  | cons uri lost ih =>
    rw [List.foldl_cons]
    by_cases h : uri ∈ r.activeLost
    · rw [reportLost_of_mem h]
      obtain ⟨hreg, hmem, hfsm, halarms⟩ := ih r
      refine ⟨hreg, fun v => ?_, ?_, fun v => ?_⟩
      · rw [hmem v, List.mem_cons]
        grind
      · rw [hfsm]
        simp only [List.forall_mem_cons, h, true_and]
      · rw [halarms v]
        congr 1
        grind
    · obtain ⟨hreg₁, hlost₁, hfsm₁, a, huri, hcode, htext, halarms₁⟩ :=
        reportLost_of_not_mem cfg clock h
      obtain ⟨hreg, hmem, hfsm, halarms⟩ := ih (reportLost cfg clock r uri)
      have hcount : ∀ v, (reportLost cfg clock r uri).commLostAlarms v =
          r.commLostAlarms v + if uri = v then 1 else 0 := by
        intro v
        simp [commLostAlarms, halarms₁, List.countP_append, List.countP_cons, huri, hcode, htext]
      refine ⟨hreg.trans hreg₁, fun v => ?_, ?_, fun v => ?_⟩
      · rw [hmem v, hlost₁, Finset.mem_insert, List.mem_cons]
        grind
      · rw [hfsm, hfsm₁, switchTo_faultHandling_twice, ite_self]
        simp [h]
      · rw [halarms v, hcount v, hlost₁, Nat.add_assoc]
        congr 1
        grind

/-! ## The tick -/

/-- What an expiry of the comm-lost timer does. -/
structure Ticks (cfg : RegionConfig) (clock : Clock) (r t : Region) : Prop where
  /-- The faults of the listed devices are latched. -/
  get : ∀ v, t.reg.get v = (r.reg.get v).map (Registry.latch clock.nowMs cfg.timeoutMs)
  /-- The zone lists stay. -/
  lamps : ∀ z, t.reg.getLampsInZone z = r.reg.getLampsInZone z
  /-- The lost devices are the listed devices. -/
  activeLost : ∀ v, v ∈ t.activeLost ↔ NewlyLost cfg clock r v
  /-- A listed device raises an alarm unless the tick before had listed it too. -/
  alarms : ∀ v, t.commLostAlarms v =
    r.commLostAlarms v + if NewlyLost cfg clock r v ∧ v ∉ r.activeLost then 1 else 0
  /-- The state machine recovers when no device was listed. -/
  recovers : (∀ v, ¬NewlyLost cfg clock r v) →
    t.fsm = if r.fsm.state = .faultHandling then r.fsm.switchTo .normalOperation .recoverOk
      else r.fsm
  /-- Otherwise it can only have moved to fault handling. -/
  remains : (∃ v, NewlyLost cfg clock r v) →
    t.fsm = r.fsm ∨ t.fsm = r.fsm.switchTo .faultHandling .commLost

/-- The end of the tick handler, after its alarm loop has left `u`. -/
private theorem tick_end (u : Region) (lost : List Bytes) :
    let kept := { u with activeLost := u.activeLost.filter fun uri => uri ∈ lost }
    (if kept.activeLost = ∅ then
      if kept.fsm.state = .faultHandling then kept.switchTo .normalOperation .recoverOk else kept
    else kept) =
      { kept with fsm :=
          if kept.activeLost = ∅ ∧ u.fsm.state = .faultHandling then
            u.fsm.switchTo .normalOperation .recoverOk
          else u.fsm } := by
  intro kept
  by_cases hempty : kept.activeLost = ∅
  · by_cases hfault : u.fsm.state = .faultHandling
    · rw [if_pos hempty, if_pos hfault, if_pos ⟨hempty, hfault⟩]
      rfl
    · rw [if_pos hempty, if_neg hfault, if_neg fun h => hfault h.2]
  · rw [if_neg hempty, if_neg fun h => hempty h.1]

theorem ticks_tick (cfg : RegionConfig) (clock : Clock) (r : Region) :
    Ticks cfg clock r (tick cfg clock r) := by
  have hlost : ∀ v, v ∈ (r.reg.detectCommLost clock.nowMs cfg.timeoutMs).1 ↔
      NewlyLost cfg clock r v := fun v => Iff.rfl
  have hget : ∀ v, (r.reg.detectCommLost clock.nowMs cfg.timeoutMs).2.get v = _ := fun v =>
    Registry.get_detectCommLost
  have hlamps : ∀ z, (r.reg.detectCommLost clock.nowMs cfg.timeoutMs).2.getLampsInZone z = _ :=
    fun z => Registry.getLampsInZone_detectCommLost
  unfold tick
  generalize r.reg.detectCommLost clock.nowMs cfg.timeoutMs = result at hlost hget hlamps ⊢
  obtain ⟨lost, reg⟩ := result
  dsimp only at hlost hget hlamps ⊢
  obtain ⟨hreg, hmem, hfsm, halarms⟩ :=
    foldl_reportLost cfg clock { r with reg := reg } lost
  generalize lost.foldl (reportLost cfg clock) { r with reg := reg } = u
    at hreg hmem hfsm halarms ⊢
  have hactive : ∀ v, v ∈ u.activeLost.filter (fun uri => uri ∈ lost) ↔
      NewlyLost cfg clock r v := by
    intro v
    rw [Finset.mem_filter, hmem v, ← hlost v]
    exact ⟨fun h => h.2, fun h => ⟨Or.inr h, h⟩⟩
  have hempty : u.activeLost.filter (fun uri => uri ∈ lost) = ∅ ↔
      ∀ v, ¬NewlyLost cfg clock r v := by
    rw [Finset.eq_empty_iff_forall_notMem]
    exact forall_congr' fun v => not_congr (hactive v)
  rw [tick_end]
  refine ⟨fun v => ?_, fun z => ?_, hactive, fun v => ?_, fun hnone => ?_, fun hsome => ?_⟩
  · rw [← hget v]
    exact congrArg (fun reg => Registry.get reg v) hreg
  · rw [← hlamps z]
    exact congrArg (fun reg => Registry.getLampsInZone reg z) hreg
  · change u.commLostAlarms v = _
    rw [halarms v]
    simp only [hlost]
    rfl
  · have hsame : u.fsm = r.fsm := by
      rw [hfsm]
      exact if_pos fun v hv => absurd ((hlost v).mp hv) (hnone v)
    simp only [hempty.mpr hnone, true_and, hsame]
  · have hsome' : ¬u.activeLost.filter (fun uri => uri ∈ lost) = ∅ := by
      rw [hempty]
      exact not_forall_not.mpr hsome
    simp only [hsome', false_and, if_false, hfsm]
    split
    · exact Or.inl rfl
    · exact Or.inr rfl

/-- A step is an expiry of the comm-lost timer, or a handler that stores at most one state. -/
theorem step_cases {e : Event} (h : step cfg r e = some t) :
    (∃ clock, e = .tick clock ∧ Ticks cfg clock r t) ∨ ¬e.IsTick ∧ Stores r e t := by
  by_cases htick : e.IsTick
  · obtain ⟨clock, rfl⟩ := Event.isTick_iff.mp htick
    cases h
    exact Or.inl ⟨clock, rfl, ticks_tick cfg clock r⟩
  · exact Or.inr ⟨htick, stores_step h htick⟩

/-- A tick sets the fault of the devices that it lists. -/
theorem Ticks.faulty_iff (h : Ticks cfg clock r t) :
    t.Faulty uri ↔ r.Faulty uri ∨ NewlyLost cfg clock r uri := by
  rw [newlyLost_iff]
  unfold Faulty
  rw [h.get]
  cases r.reg.get uri with
  | none => simp
  | some st =>
    simp only [Option.map_some, Option.some.injEq, exists_eq_left']
    unfold Registry.latch
    split
    · next hlost => simp [hlost]
    · next hlost => simp [hlost]

end Region

end SmartLighting
