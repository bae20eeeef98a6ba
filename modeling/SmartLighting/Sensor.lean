import SmartLighting.Framing
import SmartLighting.Library.Runs
import SmartLighting.Library.StateMachine
import Mathlib.Data.List.TakeWhile

/-!
# The sensor

`sensor_udp.cpp`: a sensor measures once a second, and sends a datagram when a value has
changed enough or a heartbeat is due. It runs on one thread, so a step is one completion
handler. `seconds_elapsed` is taken to count without bound.
-/

namespace SmartLighting

open StateMachine Transition

/-! ## The datagram -/

/-- `swap16`. -/
def swap16 (x : UInt16) : UInt16 := (x >>> 8) ||| (x <<< 8)

/-- `swap32`. -/
def swap32 (x : UInt32) : UInt32 :=
  ((x &&& 0x000000FF) <<< 24) ||| ((x &&& 0x0000FF00) <<< 8) ||| ((x &&& 0x00FF0000) >>> 8) |||
    ((x &&& 0xFF000000) >>> 24)

/-- A 16-bit word as a little-endian host stores it. -/
def store16 (x : UInt16) : Bytes := [x.toUInt8, (x >>> 8).toUInt8]

/-- `snprintf` of a string into the 48 bytes of `uri`, which were zero: it stops at the first
NUL and leaves room for one. -/
def nameField (uri : Bytes) : Bytes :=
  let name := (uri.takeWhile fun b => b ≠ 0).take 47
  name ++ List.replicate (48 - name.length) 0

/-- `send_telemetry`: the bytes that are sent. -/
def telemetryPacket (uri : Bytes) (zone : UInt32) (lux : UInt16) (motion : UInt8)
    (tempX10 : Int16) : Bytes :=
  nameField uri ++ store32 (swap32 zone) ++ store16 (swap16 lux) ++ [motion] ++
    store16 (swap16 tempX10.toUInt16)

section Packet

variable {uri name rest : Bytes} {zone : UInt32} {lux : UInt16} {motion : UInt8} {tempX10 : Int16}

/-- The name field has its size. -/
theorem length_nameField (uri : Bytes) : (nameField uri).length = 48 := by
  simp only [nameField, List.length_append, List.length_take, List.length_replicate]
  omega

/-- A byte behind the name field. -/
theorem byteAt_append (h : name.length = 48) (rest : Bytes) (i : ℕ) :
    byteAt (name ++ rest) (48 + i) = byteAt rest i := by
  simp only [byteAt, List.getD_eq_getElem?_getD]
  rw [List.getElem?_append_right (by omega), h, Nat.add_sub_cancel_left]

/-- A 16-bit word is loaded as it was stored. -/
theorem load16_store16 (x : UInt16) : load16 (store16 x) 0 = x := by
  change x.toUInt8.toUInt16 ||| ((x >>> 8).toUInt8.toUInt16 <<< 8) = x
  apply UInt16.eq_of_toBitVec_eq
  apply BitVec.eq_of_getLsbD_eq
  intro i hi
  simp only [UInt16.toBitVec_or, UInt16.toBitVec_shiftLeft, UInt8.toBitVec_toUInt16,
    UInt16.toBitVec_toUInt8, UInt16.toBitVec_shiftRight, BitVec.getLsbD_or]
  interval_cases i <;> simp

/-- The receiver swaps the bytes of a word back. -/
theorem fromBe16_swap16 (x : UInt16) : fromBe16 (swap16 x) = x := by
  unfold fromBe16 toBe16 swap16
  apply UInt16.eq_of_toBitVec_eq
  apply BitVec.eq_of_getLsbD_eq
  intro i hi
  interval_cases i <;> simp

/-- A name is read back up to the padding. -/
theorem takeWhile_nameField (htext : 0 ∉ uri) (rest : Bytes) :
    ((nameField uri ++ rest).takeWhile fun b => b ≠ 0) = uri.take 47 := by
  have hname : (uri.takeWhile fun b => b ≠ 0) = uri := by
    refine List.takeWhile_eq_self_iff.mpr fun b hb => ?_
    simp only [ne_eq, decide_not, Bool.not_eq_true', decide_eq_false_iff_not]
    rintro rfl
    exact htext hb
  have hpadding : ∃ k, 48 - (uri.take 47).length = k + 1 := by
    refine ⟨47 - (uri.take 47).length, ?_⟩
    rw [List.length_take]
    omega
  obtain ⟨k, hk⟩ := hpadding
  simp only [nameField, hname]
  rw [hk, List.append_assoc, List.takeWhile_append_of_pos]
  · simp [List.replicate_succ]
  · intro b hb
    simp only [ne_eq, decide_not, Bool.not_eq_true', decide_eq_false_iff_not]
    rintro rfl
    exact htext (List.mem_of_mem_take hb)

/-- A packet is received as it was sent, apart from a name that is cut after 47 bytes. -/
theorem parseTelemetry_packet (htext : 0 ∉ uri) (beyond : Bytes) :
    parseTelemetry (telemetryPacket uri zone lux motion tempX10) beyond =
      some ⟨uri.take 47, zone, lux, motion, tempX10⟩ := by
  have hname := length_nameField uri
  have hsize : (telemetryPacket uri zone lux motion tempX10).length = telemetrySize := by
    simp [telemetryPacket, hname, store32, store16, telemetrySize]
  have hbytes : ∀ i, byteAt (telemetryPacket uri zone lux motion tempX10) (48 + i) =
      byteAt (store32 (swap32 zone) ++ store16 (swap16 lux) ++ [motion] ++
        store16 (swap16 tempX10.toUInt16)) i := by
    intro i
    have happend := byteAt_append hname (store32 (swap32 zone) ++ store16 (swap16 lux) ++
      [motion] ++ store16 (swap16 tempX10.toUInt16)) i
    simpa only [telemetryPacket, List.append_assoc] using happend
  have hzone : load32 (telemetryPacket uri zone lux motion tempX10) 48 = swap32 zone := by
    refine Eq.trans ?_ (load32_store32 (swap32 zone))
    simp only [load32, hbytes 0, hbytes 1, hbytes 2, hbytes 3]
    rfl
  have hlux : load16 (telemetryPacket uri zone lux motion tempX10) 52 = swap16 lux := by
    refine Eq.trans ?_ (load16_store16 (swap16 lux))
    simp only [load16, hbytes 4, hbytes 5]
    rfl
  have hmotion : byteAt (telemetryPacket uri zone lux motion tempX10) 54 = motion := by
    rw [hbytes 6]
    rfl
  have htemp : load16 (telemetryPacket uri zone lux motion tempX10) 55 =
      swap16 tempX10.toUInt16 := by
    refine Eq.trans ?_ (load16_store16 (swap16 tempX10.toUInt16))
    simp only [load16, hbytes 7, hbytes 8]
    rfl
  have hback : fromBe32 (swap32 zone) = zone := toBe32_toBe32 zone
  have huri : ((telemetryPacket uri zone lux motion tempX10 ++ beyond).takeWhile fun b => b ≠ 0) =
      uri.take 47 := by
    simp only [telemetryPacket, List.append_assoc]
    exact takeWhile_nameField htext _
  unfold parseTelemetry
  rw [if_neg (by omega)]
  simp only [← hsize, List.take_length, huri, hzone, hback, hlux, hmotion, htemp, fromBe16_swap16]
  simp

end Packet

/-! ## The state machine -/

/-- `enum class SensorState`. -/
inductive SensorState
  | idle | unregistered | registering | active | fault
  deriving DecidableEq

/-- The event labels passed to `SensorFsm::switch_to`. -/
inductive SensorLabel
  /-- `boot_done`. -/
  | bootDone
  /-- `send_uri/REGISTER_REQ(demo)`. -/
  | registerReq
  /-- `udp_ready/REGISTER_ACK(demo)`. -/
  | registerAck
  /-- `event_report`. -/
  | eventReport
  /-- `fault_detected/FAULT_REPORT`. -/
  | faultDetected
  /-- `reset`. -/
  | reset
  deriving DecidableEq

/-- The arguments of `sensor_udp`. A command line argument holds no NUL. -/
structure SensorConfig where
  /-- `uri`. -/
  uri : Bytes
  /-- It is a C string. -/
  text : 0 ∉ uri
  /-- `zone`. -/
  zone : UInt32
  /-- `lux_threshold`. -/
  luxThreshold : UInt16
  /-- `temp_threshold_x10`. -/
  tempThresholdX10 : Int16
  /-- `heartbeat_s`. -/
  heartbeatS : ℤ
  /-- `fault_prob_per_mille`. -/
  faultProbPerMille : UInt32
  /-- `fault_reset_after_s`. -/
  faultResetAfterS : ℤ

/-- The variables of `main`, which timers wait, and the datagrams that were sent. -/
structure Sensor where
  /-- `fsm`. -/
  fsm : Machine SensorState SensorLabel
  /-- `lux`. -/
  lux : UInt16
  /-- `prev_lux`. -/
  prevLux : UInt16
  /-- `motion`. -/
  motion : UInt8
  /-- `prev_motion`. -/
  prevMotion : UInt8
  /-- `temp_x10`. -/
  tempX10 : Int16
  /-- `prev_temp_x10`. -/
  prevTempX10 : Int16
  /-- `seconds_elapsed`. -/
  secondsElapsed : ℕ
  /-- `last_heartbeat`. -/
  lastHeartbeat : ℤ
  /-- `ack_demo` waits. -/
  ackWaits : Bool
  /-- `fault_reset_timer` waits. -/
  resetWaits : Bool
  /-- The datagrams handed to `send_to`. -/
  sent : List Bytes
  deriving DecidableEq

namespace Sensor

/-- `SensorFsm::get`. -/
def state (s : Sensor) : SensorState := s.fsm.state

/-- `transitions_`. -/
def transitions : List (SensorState × SensorState) :=
  [(.idle, .unregistered), (.unregistered, .registering), (.registering, .active),
    (.registering, .unregistered), (.active, .active), (.active, .fault), (.fault, .idle)]

/-- `SensorFsm::switch_to`. -/
def switchTo (s : Sensor) (next : SensorState) (label : SensorLabel) : Bool × Sensor :=
  let (allowed, fsm) := Machine.switchTo transitions s.fsm next label
  (allowed, { s with fsm := fsm })

/-- `send_telemetry`. -/
def sendTelemetry (cfg : SensorConfig) (s : Sensor) (lux : UInt16) (motion : UInt8)
    (tempX10 : Int16) : Sensor :=
  { s with sent := s.sent ++ [telemetryPacket cfg.uri cfg.zone lux motion tempX10] }

/-- `main` until `io.run`: the boot, and the start of the timers. -/
def start : Sensor :=
  let s : Sensor :=
    { fsm := ⟨.idle, []⟩, lux := 200, prevLux := 200, motion := 0, prevMotion := 0,
      tempX10 := 235, prevTempX10 := 235, secondsElapsed := 0, lastHeartbeat := -999999,
      ackWaits := false, resetWaits := false, sent := [] }
  let s := (s.switchTo .unregistered .bootDone).2
  let (allowed, s) := s.switchTo .registering .registerReq
  if allowed then { s with ackWaits := true } else s

/-- The handler of `ack_demo`. -/
def ackDemo (s : Sensor) : Sensor :=
  let s := { s with ackWaits := false }
  if s.state = .registering then (s.switchTo .active .registerAck).2 else s

/-- `arm_fault_reset`. -/
def armFaultReset (cfg : SensorConfig) (s : Sensor) : Sensor :=
  if cfg.faultResetAfterS > 0 then { s with resetWaits := true } else s

/-- The handler of `fault_reset_timer`. -/
def faultReset (s : Sensor) : Sensor :=
  let s := { s with resetWaits := false }
  if s.state = .fault then
    let s := (s.switchTo .idle .reset).2
    let s := (s.switchTo .unregistered .bootDone).2
    let s := (s.switchTo .registering .registerReq).2
    (s.switchTo .active .registerAck).2
  else s

/-- The simulated measurement at the beginning of a tick. -/
def measure (s : Sensor) : Sensor :=
  { s with
    lux := (180 + s.secondsElapsed % 60).toUInt16
    motion := if s.secondsElapsed % 7 = 0 then 1 else 0
    tempX10 := (235 + s.secondsElapsed / 20 % 6).toInt16 }

/-- `motion_rise`. -/
def MotionRise (s : Sensor) : Prop := s.prevMotion = 0 ∧ s.motion = 1

/-- `motion_fall`. -/
def MotionFall (s : Sensor) : Prop := s.prevMotion = 1 ∧ s.motion = 0

/-- `lux_changed`. -/
def LuxChanged (cfg : SensorConfig) (s : Sensor) : Prop :=
  |(s.lux.toNat : ℤ) - s.prevLux.toNat| ≥ cfg.luxThreshold.toNat

/-- `temp_changed`. -/
def TempChanged (cfg : SensorConfig) (s : Sensor) : Prop :=
  |s.tempX10.toInt - s.prevTempX10.toInt| ≥ cfg.tempThresholdX10.toInt

/-- `heartbeat_due`. -/
def HeartbeatDue (cfg : SensorConfig) (s : Sensor) : Prop :=
  cfg.heartbeatS > 0 ∧ s.secondsElapsed - s.lastHeartbeat ≥ cfg.heartbeatS

instance (s : Sensor) : Decidable s.MotionRise := inferInstanceAs (Decidable (_ ∧ _))
instance (s : Sensor) : Decidable s.MotionFall := inferInstanceAs (Decidable (_ ∧ _))
instance (cfg : SensorConfig) (s : Sensor) : Decidable (s.LuxChanged cfg) :=
  inferInstanceAs (Decidable (_ ≥ _))
instance (cfg : SensorConfig) (s : Sensor) : Decidable (s.TempChanged cfg) :=
  inferInstanceAs (Decidable (_ ≥ _))
instance (cfg : SensorConfig) (s : Sensor) : Decidable (s.HeartbeatDue cfg) :=
  inferInstanceAs (Decidable (_ ∧ _))

/-- The condition of an event report. -/
def ReportDue (cfg : SensorConfig) (s : Sensor) : Prop :=
  s.MotionRise ∨ s.MotionFall ∨ s.LuxChanged cfg ∨ s.TempChanged cfg ∨ s.HeartbeatDue cfg

instance (cfg : SensorConfig) (s : Sensor) : Decidable (s.ReportDue cfg) :=
  inferInstanceAs (Decidable (_ ∨ _))

/-- The fault simulation of a tick. `urand(1,1000)` draws one more than `draw`. -/
def simulateFault (cfg : SensorConfig) (s : Sensor) (draw : Fin 1000) : Sensor :=
  if s.state = .active ∧ cfg.faultProbPerMille > 0 then
    if draw.val + 1 ≤ cfg.faultProbPerMille.toNat then
      let (allowed, s) := s.switchTo .fault .faultDetected
      if allowed then armFaultReset cfg (s.sendTelemetry cfg 0 254 0) else s
    else s
  else s

/-- The event report of a tick. Whether it is due was found before the fault simulation. -/
def report (cfg : SensorConfig) (s : Sensor) (due heartbeatDue : Bool) : Sensor :=
  if s.state = .active then
    if due then
      let s := (s.switchTo .active .eventReport).2
      let s := s.sendTelemetry cfg s.lux s.motion s.tempX10
      if heartbeatDue then { s with lastHeartbeat := s.secondsElapsed } else s
    else s
  else s

/-- The end of a tick. -/
def advance (s : Sensor) : Sensor :=
  { s with
    prevMotion := s.motion
    prevLux := s.lux
    prevTempX10 := s.tempX10
    secondsElapsed := s.secondsElapsed + 1 }

/-- The handler of `tick_timer`. -/
def tick (cfg : SensorConfig) (s : Sensor) (draw : Fin 1000) : Sensor :=
  let s := s.measure
  let due := decide (s.ReportDue cfg)
  let heartbeatDue := decide (s.HeartbeatDue cfg)
  ((s.simulateFault cfg draw).report cfg due heartbeatDue).advance

/-! ## What a tick does -/

variable {cfg : SensorConfig} {s : Sensor} {draw : Fin 1000}

/-- The draw makes a sensor faulty. -/
def Strikes (cfg : SensorConfig) (draw : Fin 1000) : Prop :=
  cfg.faultProbPerMille > 0 ∧ draw.val + 1 ≤ cfg.faultProbPerMille.toNat

instance (cfg : SensorConfig) (draw : Fin 1000) : Decidable (Strikes cfg draw) :=
  inferInstanceAs (Decidable (_ ∧ _))

/-- The datagrams of a tick. -/
def packets (cfg : SensorConfig) (s : Sensor) (draw : Fin 1000) : List Bytes :=
  if s.state ≠ .active then []
  else if Strikes cfg draw then [telemetryPacket cfg.uri cfg.zone 0 254 0]
  else if s.measure.ReportDue cfg then
    [telemetryPacket cfg.uri cfg.zone s.measure.lux s.measure.motion s.measure.tempX10]
  else []

/-- What a tick leaves. -/
structure Ticks (cfg : SensorConfig) (s : Sensor) (draw : Fin 1000) (t : Sensor) : Prop where
  /-- An active sensor may become faulty. -/
  state : t.state = if s.state = .active ∧ Strikes cfg draw then .fault else s.state
  /-- The measured motion. -/
  motion : t.motion = s.measure.motion
  /-- It is remembered, whether or not it was reported. -/
  prevMotion : t.prevMotion = s.measure.motion
  /-- At most one datagram is sent. -/
  sent : t.sent = s.sent ++ packets cfg s draw

/-- An allowed request is carried out. -/
theorem switchTo_of_mem {next : SensorState} {label : SensorLabel}
    (h : (s.state, next) ∈ transitions) :
    s.switchTo next label = (true, { s with fsm := s.fsm.assign next label }) := by
  unfold switchTo
  rw [Machine.switchTo_of_mem h]

@[simp] theorem prevMotion_switchTo (s : Sensor) (next : SensorState) (label : SensorLabel) :
    (s.switchTo next label).2.prevMotion = s.prevMotion := rfl

/-- The acknowledgement changes no motion. -/
theorem prevMotion_ackDemo (s : Sensor) : s.ackDemo.prevMotion = s.prevMotion := by
  unfold ackDemo
  dsimp only
  split
  · rw [prevMotion_switchTo]
  · rfl

/-- The reset of a fault changes no motion. -/
theorem prevMotion_faultReset (s : Sensor) : s.faultReset.prevMotion = s.prevMotion := by
  unfold faultReset
  dsimp only
  split
  · simp only [prevMotion_switchTo]
  · rfl

/-- A sensor that is not active, or is not struck, stays as it is. -/
theorem simulateFault_of_spared (h : ¬(s.state = .active ∧ Strikes cfg draw)) :
    s.simulateFault cfg draw = s := by
  unfold simulateFault
  split
  · next hactive => rw [if_neg fun hdraw => h ⟨hactive.1, hactive.2, hdraw⟩]
  · rfl

/-- An active sensor that is struck sends its marker. -/
theorem simulateFault_of_struck (hactive : s.state = .active) (hstrikes : Strikes cfg draw) :
    (s.simulateFault cfg draw).state = .fault ∧ (s.simulateFault cfg draw).motion = s.motion ∧
      (s.simulateFault cfg draw).sent =
        s.sent ++ [telemetryPacket cfg.uri cfg.zone 0 254 0] := by
  have hallowed : (s.state, SensorState.fault) ∈ transitions := by
    rw [hactive]
    decide
  unfold simulateFault
  rw [if_pos ⟨hactive, hstrikes.1⟩, if_pos hstrikes.2, switchTo_of_mem hallowed]
  dsimp only
  rw [if_pos rfl, armFaultReset]
  split <;> exact ⟨rfl, rfl, rfl⟩

/-- A sensor that is not active reports nothing. -/
theorem report_of_not_active (h : s.state ≠ .active) (due heartbeatDue : Bool) :
    s.report cfg due heartbeatDue = s := if_neg h

/-- An active sensor reports when a report is due. -/
theorem report_of_active (cfg : SensorConfig) (hactive : s.state = .active) (due heartbeatDue : Bool) :
    (s.report cfg due heartbeatDue).state = .active ∧
      (s.report cfg due heartbeatDue).motion = s.motion ∧
      (s.report cfg due heartbeatDue).sent = s.sent ++
        if due then [telemetryPacket cfg.uri cfg.zone s.lux s.motion s.tempX10] else [] := by
  have hallowed : (s.state, SensorState.active) ∈ transitions := by
    rw [hactive]
    decide
  unfold report
  rw [if_pos hactive, switchTo_of_mem hallowed]
  cases due with
  | true => cases heartbeatDue <;> exact ⟨rfl, rfl, rfl⟩
  | false => exact ⟨hactive, rfl, (List.append_nil _).symm⟩

/-- Every tick does this. -/
theorem ticks_tick (cfg : SensorConfig) (s : Sensor) (draw : Fin 1000) :
    Ticks cfg s draw (s.tick cfg draw) := by
  unfold tick
  dsimp only
  generalize decide (s.measure.HeartbeatDue cfg) = heartbeatDue
  by_cases hstruck : s.state = .active ∧ Strikes cfg draw
  · -- The fault leaves the active state, so that nothing is reported.
    obtain ⟨hstate, hmotion, hsent⟩ := simulateFault_of_struck (s := s.measure) hstruck.1 hstruck.2
    have hfaulty : (s.measure.simulateFault cfg draw).state ≠ .active := by
      rw [hstate]
      decide
    rw [report_of_not_active hfaulty]
    constructor
    · rw [if_pos hstruck]
      exact hstate
    · exact hmotion
    · exact hmotion
    · rw [packets, if_neg (not_not.mpr hstruck.1), if_pos hstruck.2]
      exact hsent
  · rw [simulateFault_of_spared (s := s.measure) hstruck]
    by_cases hactive : s.state = .active
    · have hspared : ¬Strikes cfg draw := fun hstrikes => hstruck ⟨hactive, hstrikes⟩
      obtain ⟨hstate, hmotion, hsent⟩ := report_of_active cfg (s := s.measure) hactive
        (decide (s.measure.ReportDue cfg)) heartbeatDue
      constructor
      · rw [if_neg hstruck, hactive]
        exact hstate
      · exact hmotion
      · exact hmotion
      · rw [packets, if_neg (not_not.mpr hactive), if_neg hspared]
        simp only [decide_eq_true_eq] at hsent
        exact hsent
    · rw [report_of_not_active (s := s.measure) hactive]
      constructor
      · exact (if_neg hstruck).symm
      · rfl
      · rfl
      · rw [packets, if_pos hactive, List.append_nil]
        rfl

end Sensor

end SmartLighting
