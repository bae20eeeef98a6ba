import SmartLighting.Sensor

/-!
# Whole runs of a sensor

A sensor is registering, active or in FAULT, its changes follow its matrix, and its markers are its
faults. While it is active, the change of the simulated motion makes it report at least once in
seven ticks.
-/

namespace SmartLighting

open StateMachine Transition

namespace Sensor

variable {cfg : SensorConfig} {s t : Sensor} {draw : Fin 1000}

/-- What can happen to a sensor. -/
inductive Event
  /-- `tick_timer` expires. -/
  | tick (draw : Fin 1000)
  /-- `ack_demo` expires. -/
  | ackDemo
  /-- `fault_reset_timer` expires. -/
  | faultReset

/-- One handler of the sensor. -/
def step (cfg : SensorConfig) (s : Sensor) : Event → Option Sensor
  | .tick draw => some (s.tick cfg draw)
  | .ackDemo => if s.ackWaits then some s.ackDemo else none
  | .faultReset => if s.resetWaits then some s.faultReset else none

/-- The marker of a fault. -/
def marker (cfg : SensorConfig) : Bytes := telemetryPacket cfg.uri cfg.zone 0 254 0

/-- The telemetry server finds a fault marker in the datagram. -/
def isMarker (datagram : Bytes) : Bool :=
  (parseTelemetry datagram []).any fun tel => tel.motion = 254

/-- A report of the measured values. -/
def IsReport (cfg : SensorConfig) (datagram : Bytes) : Prop :=
  ∃ lux motion tempX10, (motion = 0 ∨ motion = 1) ∧
    datagram = telemetryPacket cfg.uri cfg.zone lux motion tempX10

/-- A packet of the sensor is a marker if its motion is. -/
theorem isMarker_packet (lux : UInt16) (motion : UInt8) (tempX10 : Int16) :
    isMarker (telemetryPacket cfg.uri cfg.zone lux motion tempX10) = decide (motion = 254) := by
  rw [isMarker, parseTelemetry_packet cfg.text]
  rfl

/-- A report is no marker. -/
theorem IsReport.isMarker_eq {datagram : Bytes} (h : IsReport cfg datagram) :
    isMarker datagram = false := by
  obtain ⟨lux, motion, tempX10, hmotion, rfl⟩ := h
  rw [isMarker_packet]
  rcases hmotion with rfl | rfl <;> decide

/-- The measured motion is 0 or 1. -/
theorem motion_measure_eq (s : Sensor) : s.measure.motion = 0 ∨ s.measure.motion = 1 := by
  change (if s.secondsElapsed % 7 = 0 then (1 : UInt8) else 0) = 0 ∨
    (if s.secondsElapsed % 7 = 0 then (1 : UInt8) else 0) = 1
  split
  · exact Or.inr rfl
  · exact Or.inl rfl

/-- A tick sends a marker, a report or nothing. -/
theorem packets_cases (cfg : SensorConfig) (s : Sensor) (draw : Fin 1000) :
    s.state = .active ∧ Strikes cfg draw ∧ packets cfg s draw = [marker cfg] ∨
      ¬(s.state = .active ∧ Strikes cfg draw) ∧
        ∀ datagram ∈ packets cfg s draw, IsReport cfg datagram := by
  unfold packets
  by_cases hactive : s.state = .active
  · rw [if_neg (not_not.mpr hactive)]
    by_cases hstrikes : Strikes cfg draw
    · rw [if_pos hstrikes]
      exact Or.inl ⟨hactive, hstrikes, rfl⟩
    · rw [if_neg hstrikes]
      refine Or.inr ⟨fun h => hstrikes h.2, ?_⟩
      split
      · intro datagram hdatagram
        rw [List.mem_singleton.mp hdatagram]
        exact ⟨_, _, _, motion_measure_eq s, rfl⟩
      · exact fun datagram hdatagram => absurd hdatagram List.not_mem_nil
  · rw [if_pos hactive]
    exact Or.inr ⟨fun h => hactive h.1, fun datagram hdatagram => absurd hdatagram List.not_mem_nil⟩

/-! ## The record of a tick -/

/-- The changes of state in a tick. -/
def changes (cfg : SensorConfig) (s : Sensor) (draw : Fin 1000) :
    List (Change SensorState SensorLabel) :=
  if s.state ≠ .active then []
  else if Strikes cfg draw then [⟨.active, .fault, .faultDetected⟩]
  else if s.measure.ReportDue cfg then [⟨.active, .active, .eventReport⟩]
  else []

/-- What a tick leaves of the record and of the timers. -/
structure Records (cfg : SensorConfig) (s : Sensor) (draw : Fin 1000) (t : Sensor) : Prop where
  /-- The changes are recorded. -/
  log : t.fsm.log = s.fsm.log ++ changes cfg s draw
  /-- No acknowledgement is asked for. -/
  ackWaits : t.ackWaits = s.ackWaits
  /-- A sensor that becomes faulty waits for its reset, if it is to be reset. -/
  resetWaits : t.resetWaits =
    if s.state = .active ∧ Strikes cfg draw ∧ cfg.faultResetAfterS > 0 then true
    else s.resetWaits

/-- The fault of an active sensor is recorded, and its reset is armed. -/
private theorem records_struck (hactive : s.state = .active) (hstrikes : Strikes cfg draw) :
    (s.simulateFault cfg draw).fsm.log = s.fsm.log ++ [⟨.active, .fault, .faultDetected⟩] ∧
      (s.simulateFault cfg draw).ackWaits = s.ackWaits ∧
      (s.simulateFault cfg draw).resetWaits =
        if cfg.faultResetAfterS > 0 then true else s.resetWaits := by
  have hallowed : (s.state, SensorState.fault) ∈ transitions := by
    rw [hactive]
    decide
  have hlog : (s.fsm.assign .fault .faultDetected).log =
      s.fsm.log ++ [⟨.active, .fault, SensorLabel.faultDetected⟩] := by
    rw [Machine.assign_log]
    exact congrArg (fun x => s.fsm.log ++ [⟨x, .fault, SensorLabel.faultDetected⟩]) hactive
  unfold simulateFault
  rw [if_pos ⟨hactive, hstrikes.1⟩, if_pos hstrikes.2, switchTo_of_mem hallowed]
  dsimp only
  rw [if_pos rfl, armFaultReset]
  split <;> exact ⟨hlog, rfl, rfl⟩

/-- The report of an active sensor is recorded. -/
private theorem records_report (cfg : SensorConfig) (hactive : s.state = .active)
    (due heartbeatDue : Bool) :
    (s.report cfg due heartbeatDue).fsm.log =
        s.fsm.log ++ (if due then [⟨.active, .active, .eventReport⟩] else []) ∧
      (s.report cfg due heartbeatDue).ackWaits = s.ackWaits ∧
      (s.report cfg due heartbeatDue).resetWaits = s.resetWaits := by
  have hallowed : (s.state, SensorState.active) ∈ transitions := by
    rw [hactive]
    decide
  have hlog : (s.fsm.assign .active .eventReport).log =
      s.fsm.log ++ [⟨.active, .active, SensorLabel.eventReport⟩] := by
    rw [Machine.assign_log]
    exact congrArg (fun x => s.fsm.log ++ [⟨x, .active, SensorLabel.eventReport⟩]) hactive
  unfold report
  rw [if_pos hactive, switchTo_of_mem hallowed]
  cases due with
  | true => cases heartbeatDue <;> exact ⟨hlog, rfl, rfl⟩
  | false => exact ⟨(List.append_nil _).symm, rfl, rfl⟩

/-- Every tick does this. -/
theorem records_tick (cfg : SensorConfig) (s : Sensor) (draw : Fin 1000) :
    Records cfg s draw (s.tick cfg draw) := by
  unfold tick
  dsimp only
  generalize decide (s.measure.HeartbeatDue cfg) = heartbeatDue
  by_cases hactive : s.state = .active
  · have hmeasured : s.measure.state = .active := hactive
    by_cases hstrikes : Strikes cfg draw
    · obtain ⟨hlog, hack, hreset⟩ := records_struck hmeasured hstrikes
      have hfaulty : (s.measure.simulateFault cfg draw).state ≠ .active := by
        rw [(simulateFault_of_struck hmeasured hstrikes).1]
        decide
      rw [report_of_not_active hfaulty]
      constructor
      · rw [changes, if_neg (not_not.mpr hactive), if_pos hstrikes]
        exact hlog
      · exact hack
      · simp only [hactive, hstrikes, true_and]
        exact hreset
    · have hspared : ¬(s.measure.state = .active ∧ Strikes cfg draw) := fun h => hstrikes h.2
      rw [simulateFault_of_spared hspared]
      obtain ⟨hlog, hack, hreset⟩ := records_report cfg hmeasured
        (decide (s.measure.ReportDue cfg)) heartbeatDue
      constructor
      · rw [changes, if_neg (not_not.mpr hactive), if_neg hstrikes]
        simp only [decide_eq_true_eq] at hlog
        exact hlog
      · exact hack
      · rw [if_neg fun h => hstrikes h.2.1]
        exact hreset
  · have hmeasured : s.measure.state ≠ .active := hactive
    rw [simulateFault_of_spared fun h => hmeasured h.1, report_of_not_active hmeasured]
    constructor
    · rw [changes, if_pos hactive, List.append_nil]
      rfl
    · rfl
    · exact (if_neg fun h => hactive h.1).symm

/-! ## The law of a sensor -/

/-- How often the sensor has become faulty. -/
def faults (s : Sensor) : ℕ := s.fsm.log.countP fun c => c.target = .fault

/-- How many markers it has sent. -/
def markers (s : Sensor) : ℕ := s.sent.countP isMarker

/-- What holds of a sensor between two handlers. -/
structure Lawful (cfg : SensorConfig) (s : Sensor) : Prop where
  /-- It awaits its acknowledgement, is active, or is faulty and awaits its reset, if there is one
  to come. -/
  phase : s.state = .registering ∧ s.ackWaits = true ∨ s.state = .active ∨
    s.state = .fault ∧ (s.resetWaits = true ∨ cfg.faultResetAfterS ≤ 0)
  /-- Its changes follow the matrix. -/
  path : IsPath transitions .idle s.fsm.log s.state
  /-- Each of its faults was reported once. -/
  balanced : s.markers = s.faults
  /-- It has sent its markers and its reports, and nothing else. -/
  sent : ∀ datagram ∈ s.sent, datagram = marker cfg ∨ IsReport cfg datagram

theorem lawful_start (cfg : SensorConfig) : Lawful cfg start := by
  refine ⟨Or.inl ⟨rfl, rfl⟩, ?_, rfl, fun datagram hdatagram => absurd hdatagram List.not_mem_nil⟩
  exact ⟨rfl, by decide, rfl, by decide, rfl⟩

/-- The acknowledgement makes a registering sensor active. -/
private theorem fsm_ackDemo (hstate : s.state = .registering) :
    s.ackDemo.fsm = s.fsm.assign .active .registerAck := by
  have hallowed : ({ s with ackWaits := false }.state, SensorState.active) ∈ transitions := by
    change (s.state, SensorState.active) ∈ transitions
    rw [hstate]
    decide
  unfold ackDemo
  dsimp only
  rw [if_pos (by exact hstate), switchTo_of_mem hallowed]

/-- The reset takes a faulty sensor through a whole boot. -/
private theorem fsm_faultReset (hstate : s.state = .fault) :
    s.faultReset.fsm = (((s.fsm.assign .idle .reset).assign .unregistered .bootDone).assign
      .registering .registerReq).assign .active .registerAck := by
  obtain ⟨⟨state, log⟩, lux, prevLux, motion, prevMotion, tempX10, prevTempX10, secondsElapsed,
    lastHeartbeat, ackWaits, resetWaits, sent⟩ := s
  obtain rfl : state = .fault := hstate
  rfl

/-- Neither the acknowledgement nor the reset sends anything. -/
private theorem sent_ackDemo : s.ackDemo.sent = s.sent := by
  unfold ackDemo
  dsimp only
  split <;> rfl

private theorem sent_faultReset : s.faultReset.sent = s.sent := by
  unfold faultReset
  dsimp only
  split <;> rfl

/-- Where nothing is sent and no change is a fault, the counts stay. -/
private theorem counts_of_eq (h : s.markers = s.faults) (hsent : t.sent = s.sent)
    {new : List (Change SensorState SensorLabel)} (hlog : t.fsm.log = s.fsm.log ++ new)
    (hnew : ∀ c ∈ new, c.target ≠ .fault) : t.markers = t.faults := by
  have hnone : new.countP (fun c => decide (c.target = .fault)) = 0 :=
    List.countP_eq_zero.mpr fun c hc => by simpa using hnew c hc
  unfold markers faults at h ⊢
  rw [hsent, hlog, List.countP_append, hnone, Nat.add_zero, h]

/-- A tick keeps the law. -/
private theorem Lawful.tick (h : Lawful cfg s) (draw : Fin 1000) :
    Lawful cfg (s.tick cfg draw) := by
  have hticks := ticks_tick cfg s draw
  have hrecords := records_tick cfg s draw
  refine ⟨?_, ?_, ?_, ?_⟩
  · rw [hticks.state, hrecords.ackWaits, hrecords.resetWaits]
    rcases h.phase with ⟨hstate, hwaits⟩ | hstate | ⟨hstate, hreset⟩
    · have hnot : s.state ≠ .active := by
        rw [hstate]
        decide
      rw [if_neg fun hboth => hnot hboth.1]
      exact Or.inl ⟨hstate, hwaits⟩
    · by_cases hstrikes : Strikes cfg draw
      · rw [if_pos ⟨hstate, hstrikes⟩]
        refine Or.inr (Or.inr ⟨rfl, ?_⟩)
        by_cases hreset : cfg.faultResetAfterS > 0
        · exact Or.inl (if_pos ⟨hstate, hstrikes, hreset⟩)
        · exact Or.inr (not_lt.mp hreset)
      · rw [if_neg fun hboth => hstrikes hboth.2]
        exact Or.inr (Or.inl hstate)
    · have hnot : s.state ≠ .active := by
        rw [hstate]
        decide
      rw [if_neg fun hboth => hnot hboth.1, if_neg fun hboth => hnot hboth.1]
      exact Or.inr (Or.inr ⟨hstate, hreset⟩)
  · have hstate : (s.tick cfg draw).fsm.state = _ := hticks.state
    change IsPath transitions .idle (s.tick cfg draw).fsm.log (s.tick cfg draw).fsm.state
    rw [hrecords.log, hstate, changes]
    by_cases hactive : s.state = .active
    · have hpath : IsPath transitions .idle s.fsm.log SensorState.active := hactive ▸ h.path
      rw [if_neg (not_not.mpr hactive)]
      by_cases hstrikes : Strikes cfg draw
      · rw [if_pos hstrikes, if_pos ⟨hactive, hstrikes⟩]
        exact hpath.concat (by decide)
      · have hspared : (if s.state = .active ∧ Strikes cfg draw then SensorState.fault
            else s.state) = .active := by
          rw [if_neg fun hboth => hstrikes hboth.2, hactive]
        rw [if_neg hstrikes, hspared]
        split
        · exact hpath.concat (by decide)
        · rw [List.append_nil]
          exact hpath
    · rw [if_pos hactive, if_neg fun hboth => hactive hboth.1, List.append_nil]
      exact h.path
  · rcases packets_cases cfg s draw with ⟨hactive, hstrikes, hpackets⟩ | ⟨hspared, hreports⟩
    · have hchanges : changes cfg s draw = [⟨.active, .fault, .faultDetected⟩] := by
        rw [changes, if_neg (not_not.mpr hactive), if_pos hstrikes]
      have hmarker : isMarker (marker cfg) = true := isMarker_packet 0 254 0
      have hbalanced := h.balanced
      unfold markers faults at hbalanced ⊢
      rw [hticks.sent, hrecords.log, hpackets, hchanges]
      simp [List.countP_append, hmarker, hbalanced]
    · have hquiet : (packets cfg s draw).countP isMarker = 0 :=
        List.countP_eq_zero.mpr fun datagram hdatagram => by
          rw [(hreports datagram hdatagram).isMarker_eq]
          exact Bool.false_ne_true
      have hchanges : ∀ c ∈ changes cfg s draw, c.target ≠ .fault := by
        unfold changes
        by_cases hactive : s.state = .active
        · rw [if_neg (not_not.mpr hactive), if_neg fun hstrikes => hspared ⟨hactive, hstrikes⟩]
          split <;> simp
        · simp [hactive]
      have hnone : (changes cfg s draw).countP (fun c => decide (c.target = .fault)) = 0 :=
        List.countP_eq_zero.mpr fun c hc => by simpa using hchanges c hc
      have hbalanced := h.balanced
      unfold markers faults at hbalanced ⊢
      rw [hticks.sent, hrecords.log, List.countP_append, List.countP_append, hquiet, hnone,
        Nat.add_zero, Nat.add_zero, hbalanced]
  · rw [hticks.sent]
    intro datagram hdatagram
    rcases List.mem_append.mp hdatagram with hold | hnew
    · exact h.sent datagram hold
    · rcases packets_cases cfg s draw with ⟨-, -, hpackets⟩ | ⟨-, hreports⟩
      · rw [hpackets] at hnew
        exact Or.inl (List.mem_singleton.mp hnew)
      · exact Or.inr (hreports datagram hnew)

/-- The acknowledgement keeps the law. -/
private theorem Lawful.ackDemo (h : Lawful cfg s) : Lawful cfg s.ackDemo := by
  by_cases hstate : s.state = .registering
  · have hfsm := fsm_ackDemo hstate
    have hactive : s.ackDemo.state = .active := congrArg Machine.state hfsm
    refine ⟨Or.inr (Or.inl hactive), ?_, ?_, ?_⟩
    · rw [hactive, hfsm]
      exact h.path.concat (by rw [hstate]; decide)
    · exact counts_of_eq h.balanced sent_ackDemo (congrArg Machine.log hfsm) (by simp)
    · rw [sent_ackDemo]
      exact h.sent
  · have hsame : s.ackDemo = { s with ackWaits := false } := if_neg hstate
    rw [hsame]
    refine ⟨?_, h.path, h.balanced, h.sent⟩
    exact Or.inr (h.phase.resolve_left fun hboth => hstate hboth.1)

/-- The reset keeps the law. -/
private theorem Lawful.faultReset (h : Lawful cfg s) : Lawful cfg s.faultReset := by
  by_cases hstate : s.state = .fault
  · have hfsm := fsm_faultReset hstate
    have hactive : s.faultReset.state = .active := congrArg Machine.state hfsm
    have hlog : s.faultReset.fsm.log = s.fsm.log ++ [⟨s.state, .idle, .reset⟩,
        ⟨.idle, .unregistered, .bootDone⟩, ⟨.unregistered, .registering, .registerReq⟩,
        ⟨.registering, .active, .registerAck⟩] := by
      rw [hfsm]
      simp only [Machine.assign_log, Machine.assign_state, List.append_assoc,
        List.singleton_append]
      rfl
    refine ⟨Or.inr (Or.inl hactive), ?_, ?_, ?_⟩
    · have hreset : IsPath transitions .idle (s.fsm.assign .idle .reset).log .idle :=
        h.path.concat (by rw [hstate]; decide)
      rw [hactive, hfsm]
      exact ((hreset.concat (by decide)).concat (by decide)).concat (by decide)
    · exact counts_of_eq h.balanced sent_faultReset hlog (by simp)
    · rw [sent_faultReset]
      exact h.sent
  · have hsame : s.faultReset = { s with resetWaits := false } := if_neg hstate
    rw [hsame]
    refine ⟨?_, h.path, h.balanced, h.sent⟩
    rcases h.phase with hregistering | hactive | hfault
    · exact Or.inl hregistering
    · exact Or.inr (Or.inl hactive)
    · exact absurd hfault.1 hstate

/-- Every handler keeps the law. -/
theorem Lawful.step {e : Event} (h : Lawful cfg s) (hstep : step cfg s e = some t) :
    Lawful cfg t := by
  cases e with
  | tick draw =>
    cases hstep
    exact h.tick draw
  | ackDemo =>
    obtain ⟨-, heq⟩ := Option.ite_none_right_eq_some.mp hstep
    cases heq
    exact h.ackDemo
  | faultReset =>
    obtain ⟨-, heq⟩ := Option.ite_none_right_eq_some.mp hstep
    cases heq
    exact h.faultReset

/-- In every run a sensor is where its matrix allows, its reset is pending while it is faulty, each
of its faults was reported exactly once, and it has sent nothing but markers and reports. -/
theorem always_lawful (cfg : SensorConfig) (es : List Event) :
    Always (step cfg) (Lawful cfg) start es :=
  .of_invariant (fun _ _ _ h hstep => h.step hstep) (lawful_start cfg)

/-! ## An active sensor is not silent for long -/

/-- Count the last ticks at which the sensor was active and sent nothing. -/
def watchQuiet (cfg : SensorConfig) (quiet : ℕ) (s : Sensor) (e : Event) (_ : Sensor) : ℕ :=
  match e with
  | .tick draw => if s.state = .active ∧ packets cfg s draw = [] then quiet + 1 else 0
  | _ => quiet

/-- The motion of the simulation comes every seven ticks and lasts one. -/
structure Rhythm (s : Sensor) (quiet : ℕ) : Prop where
  /-- The remembered motion is that of the tick before. -/
  prevMotion : s.prevMotion = if s.secondsElapsed % 7 = 1 then 1 else 0
  /-- Since the motion has ended, each tick may have been quiet. -/
  quiet_le : quiet ≤ (s.secondsElapsed + 5) % 7
  /-- At the motion none was. -/
  quiet_eq : s.secondsElapsed % 7 = 1 → quiet = 0

/-- A tick is counted. -/
theorem secondsElapsed_tick (cfg : SensorConfig) (s : Sensor) (draw : Fin 1000) :
    (s.tick cfg draw).secondsElapsed = s.secondsElapsed + 1 := by
  have hreport : ∀ (u : Sensor) (due heartbeatDue : Bool),
      (u.report cfg due heartbeatDue).secondsElapsed = u.secondsElapsed := by
    intro u due heartbeatDue
    unfold report
    split
    · split
      · dsimp only
        split <;> rfl
      · rfl
    · rfl
  have hsimulate : ∀ u : Sensor, (u.simulateFault cfg draw).secondsElapsed = u.secondsElapsed := by
    intro u
    unfold simulateFault armFaultReset
    split
    · split
      · dsimp only
        split
        · split <;> rfl
        · rfl
      · rfl
    · rfl
  change ((s.measure.simulateFault cfg draw).report cfg _ _).secondsElapsed + 1 = _
  rw [hreport, hsimulate]
  rfl

/-- The beginning and the end of the motion are reported by an active sensor. -/
theorem packets_ne_nil {quiet : ℕ} (h : Rhythm s quiet) (hactive : s.state = .active)
    (hmotion : s.secondsElapsed % 7 ≤ 1) : packets cfg s draw ≠ [] := by
  have hdue : s.measure.ReportDue cfg := by
    have hprev : s.measure.prevMotion = s.prevMotion := rfl
    have hmeasured : s.measure.motion = if s.secondsElapsed % 7 = 0 then 1 else 0 := rfl
    by_cases hrise : s.secondsElapsed % 7 = 0
    · refine Or.inl ⟨?_, ?_⟩
      · rw [hprev, h.prevMotion, if_neg (by omega)]
      · rw [hmeasured, if_pos hrise]
    · refine Or.inr (Or.inl ⟨?_, ?_⟩)
      · rw [hprev, h.prevMotion, if_pos (by omega)]
      · rw [hmeasured, if_neg hrise]
  unfold packets
  rw [if_neg (not_not.mpr hactive), if_pos hdue]
  split <;> exact List.cons_ne_nil _ _

theorem rhythm_start : Rhythm start 0 := ⟨rfl, Nat.zero_le _, fun _ => rfl⟩

/-- Handlers other than the tick keep the rhythm. -/
private theorem Rhythm.of_eq {quiet : ℕ} (h : Rhythm s quiet) (hprev : t.prevMotion = s.prevMotion)
    (hseconds : t.secondsElapsed = s.secondsElapsed) : Rhythm t quiet := by
  obtain ⟨hmotion, hle, hzero⟩ := h
  rw [← hprev] at hmotion
  rw [← hseconds] at hmotion hle hzero
  exact ⟨hmotion, hle, hzero⟩

theorem Rhythm.step {quiet : ℕ} {e : Event} (h : Rhythm s quiet)
    (hstep : Sensor.step cfg s e = some t) : Rhythm t (watchQuiet cfg quiet s e t) := by
  cases e with
  | tick draw =>
    cases hstep
    have hseconds := secondsElapsed_tick cfg s draw
    have hquiet : watchQuiet cfg quiet s (.tick draw) (s.tick cfg draw) ≤
        if s.secondsElapsed % 7 ≤ 1 then 0 else quiet + 1 := by
      unfold watchQuiet
      dsimp only
      by_cases hsilent : s.state = .active ∧ packets cfg s draw = []
      · have hlate : ¬s.secondsElapsed % 7 ≤ 1 := fun hmotion =>
          packets_ne_nil h hsilent.1 hmotion hsilent.2
        rw [if_pos hsilent, if_neg hlate]
      · rw [if_neg hsilent]
        exact Nat.zero_le _
    refine ⟨?_, ?_, fun hend => ?_⟩
    · rw [(ticks_tick cfg s draw).prevMotion, hseconds]
      change (if s.secondsElapsed % 7 = 0 then (1 : UInt8) else 0) = _
      congr 1
      simp only [eq_iff_iff]
      omega
    · rw [hseconds]
      have hbefore := h.quiet_le
      have hzero := h.quiet_eq
      split at hquiet <;> omega
    · rw [hseconds] at hend
      rw [if_pos (by omega)] at hquiet
      omega
  | ackDemo =>
    obtain ⟨-, heq⟩ := Option.ite_none_right_eq_some.mp hstep
    cases heq
    refine h.of_eq s.prevMotion_ackDemo ?_
    unfold ackDemo
    dsimp only
    split <;> rfl
  | faultReset =>
    obtain ⟨-, heq⟩ := Option.ite_none_right_eq_some.mp hstep
    cases heq
    refine h.of_eq s.prevMotion_faultReset ?_
    unfold faultReset
    dsimp only
    split <;> rfl

/-- An active sensor is quiet for at most five ticks in a row, whatever its thresholds are. -/
theorem Rhythm.quiet_le_five {quiet : ℕ} (h : Rhythm s quiet) : quiet ≤ 5 := by
  have hle := h.quiet_le
  have hzero := h.quiet_eq
  omega

end Sensor

end SmartLighting
