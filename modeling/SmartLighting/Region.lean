import SmartLighting.DeviceSession
import SmartLighting.Library.StateMachine
import SmartLighting.Telemetry
import Mathlib.Data.Finset.Basic

/-!
# The regional server

`regional_server.cpp` connects the device sessions, the telemetry server, the
comm-lost timer and the client of the central server. A step is one handler run
to its end. Calls that leave the region, alarms and database events, are kept in
the order in which they are made.
-/

namespace SmartLighting

open StateMachine Transition

/-- `enum class ServerState`. -/
inductive ServerState
  | idle | registrationHandling | normalOperation | faultHandling
  deriving DecidableEq

/-- The event labels passed to `ServerFsm::switch_to`. -/
inductive ServerLabel
  /-- `boot_done`. -/
  | bootDone
  /-- `server_ready`. -/
  | serverReady
  /-- `fault_detected/comm_lost`. -/
  | commLost
  /-- `fault_detected/device_fault`. -/
  | deviceFault
  /-- `fault_detected/sensor_fault`. -/
  | sensorFault
  /-- `recover_ok`. -/
  | recoverOk
  deriving DecidableEq

/-- `ServerFsm`: the current state and the printed changes. -/
abbrev ServerFsm := Machine ServerState ServerLabel

namespace ServerFsm

/-- `transitions_` of `ServerFsm`. -/
def transitions : List (ServerState × ServerState) :=
  [(.idle, .registrationHandling),
    (.registrationHandling, .registrationHandling),
    (.registrationHandling, .normalOperation),
    (.normalOperation, .normalOperation),
    (.normalOperation, .faultHandling),
    (.faultHandling, .normalOperation),
    (.faultHandling, .idle)]

/-- `ServerFsm::switch_to`, for callers that ignore its result. -/
def switchTo (fsm : ServerFsm) (next : ServerState) (label : ServerLabel) : ServerFsm :=
  (Machine.switchTo transitions fsm next label).2

/-- A refused request changes nothing. -/
theorem switchTo_of_refused {fsm : ServerFsm} {next : ServerState} {label : ServerLabel}
    (h : (fsm.state, next) ∉ transitions) : fsm.switchTo next label = fsm := by
  rw [switchTo, Machine.switchTo_of_not_mem h]

/-- An allowed request is carried out. -/
theorem switchTo_of_allowed {fsm : ServerFsm} {next : ServerState} {label : ServerLabel}
    (h : (fsm.state, next) ∈ transitions) : fsm.switchTo next label = fsm.assign next label := by
  rw [switchTo, Machine.switchTo_of_mem h]

end ServerFsm

/-- A call of `send_cmd_to_uri`. -/
structure CmdCall where
  /-- The lamp. -/
  uri : Bytes
  /-- 1 is SWITCH_ON, 2 is SWITCH_OFF and 3 is SET_INTENSITY. -/
  cmd : UInt8
  /-- The argument of the command. -/
  value : UInt8
  deriving DecidableEq

/-- The arguments of `regional_server` that the handlers use. -/
structure RegionConfig where
  /-- `region_id`. -/
  regionId : UInt32
  /-- `comm_lost_timeout_s * 1000`. -/
  timeoutMs : UInt64

/-- The regional server between two handlers. Sessions are numbered by their acceptance. -/
structure Region where
  /-- The device registry. -/
  reg : Registry
  /-- The state machine of the server. -/
  fsm : ServerFsm
  /-- `active_lost` of the comm-lost timer. -/
  activeLost : Finset Bytes
  /-- `last_motion_` of the telemetry server. -/
  lastMotion : AssocMap Bytes UInt8
  /-- The members of each session. -/
  sessions : ℕ → DeviceSession
  /-- Sessions on which `on_close` has run. -/
  closed : Finset ℕ
  /-- Sessions that no longer exist, so that `weak_ptr::lock` fails. -/
  expired : Finset ℕ
  /-- `sessions_`: the session of each name. -/
  sessionMap : AssocMap Bytes ℕ
  /-- Calls to the database writer. -/
  db : List DbCall
  /-- Calls of `send_alarm_now`. -/
  alarms : List AlarmUp
  /-- Calls of `send_cmd_to_uri`. -/
  cmds : List CmdCall

namespace Region

/-- The server when its threads enter `io.run`. -/
def start : Region where
  reg := .empty
  fsm := (ServerFsm.switchTo ⟨.idle, []⟩ .registrationHandling .bootDone).switchTo
    .normalOperation .serverReady
  activeLost := ∅
  lastMotion := ∅
  sessions := fun _ => .fresh
  closed := ∅
  expired := ∅
  sessionMap := ∅
  db := []
  alarms := []
  cmds := []

/-- `fsm.switch_to`. -/
def switchTo (r : Region) (next : ServerState) (label : ServerLabel) : Region :=
  { r with fsm := r.fsm.switchTo next label }

/-- `sync->send_alarm_now`. -/
def sendAlarmNow (r : Region) (a : AlarmUp) : Region := { r with alarms := r.alarms ++ [a] }

/-- Replace the members of one session. -/
def setSession (r : Region) (k : ℕ) (s : DeviceSession) : Region :=
  { r with sessions := Function.update r.sessions k s }

/-- `send_cmd_to_uri`. A stored name came from the wire, so it fits a command. -/
def sendCmdToUri (r : Region) (uri : Bytes) (cmd value : UInt8) : Region :=
  let r := { r with cmds := r.cmds ++ [⟨uri, cmd, value⟩] }
  match r.sessionMap.lookup uri with
  | none => r
  | some k =>
    if k ∈ r.expired then { r with sessionMap := r.sessionMap.erase uri }
    else
      match (r.sessions k).sendCmd cmd value with
      | .ok s => r.setSession k s
      | .error _ => r

/-- The callback for a rising motion edge: switch on every lamp of the zone. -/
def motionOn (r : Region) (zone : UInt32) : Region :=
  if r.fsm.state ≠ .normalOperation then r
  else (r.reg.getLampsInZone zone).foldl
    (fun r uri => (r.sendCmdToUri uri 1 0).sendCmdToUri uri 3 60) r

/-- The callback for a falling motion edge: switch off every lamp of the zone. -/
def motionOff (r : Region) (zone : UInt32) : Region :=
  if r.fsm.state ≠ .normalOperation then r
  else (r.reg.getLampsInZone zone).foldl (fun r uri => r.sendCmdToUri uri 2 0) r

/-- The fault callback of the device sessions. -/
def deviceFault (cfg : RegionConfig) (clock : Clock) (r : Region) (f : FaultReport)
    (type : DeviceType) : Region :=
  (r.switchTo .faultHandling .deviceFault).sendAlarmNow
    { regionId := cfg.regionId
      tsUnix := clock.unix
      deviceType := if type = .luminaire then 1 else 2
      zoneId := f.zoneId
      code := f.code
      uri := f.uri
      text := f.text }

/-- The fault callback of the telemetry server. -/
def sensorFault (cfg : RegionConfig) (clock : Clock) (r : Region) (zone : UInt32) (uri : Bytes)
    (code : UInt8) : Region :=
  let r := r.switchTo .faultHandling .sensorFault
  let st : DeviceState := ⟨.sensor, zone, 0, 0, 0, true, clock.nowMs⟩
  let r := { r with
    reg := r.reg.upsert uri st
    db := r.db ++ [DbCall.upsertDevice uri 2 cfg.regionId zone true 0 0 0,
      DbCall.fault uri cfg.regionId zone code (ascii "sensor_fault")] }
  r.sendAlarmNow
    { regionId := cfg.regionId
      tsUnix := clock.unix
      deviceType := 2
      zoneId := zone
      code := code
      uri := uri
      text := ascii "sensor_fault" }

/-- The fault marker part of `do_receive`. -/
def faultMarker (cfg : RegionConfig) (clock : Clock) (r : Region) (t : Telemetry) : Region :=
  let r := match r.reg.get t.uri with
    | some st => { r with
        reg := r.reg.upsert t.uri { st with fault := true, lastSeenMs := clock.nowMs } }
    | none => r
  sensorFault cfg clock r t.zoneId t.uri 1

/-- The edge detection part of `do_receive`. -/
def motionEdge (r : Region) (t : Telemetry) : Region :=
  let prev := (r.lastMotion.lookup t.uri).getD 0
  let r := if prev = 0 ∧ t.motion = 1 then r.motionOn t.zoneId else r
  let r := if prev = 1 ∧ t.motion = 0 then r.motionOff t.zoneId else r
  { r with lastMotion := r.lastMotion.insert t.uri t.motion }

/-- `do_receive`: a datagram that holds a telemetry structure. -/
def receive (cfg : RegionConfig) (clock : Clock) (r : Region) (t : Telemetry) : Region :=
  let st := telemetryState t clock.nowMs (r.reg.get t.uri)
  let r := { r with reg := r.reg.upsert t.uri st }
  let r := if t.motion = 254 then faultMarker cfg clock r t else r
  if t.motion = 0 ∨ t.motion = 1 then r.motionEdge t else r

/-- The alarm for a lost device, with what the registry knows about it. -/
def commLostAlarm (cfg : RegionConfig) (clock : Clock) (r : Region) (uri : Bytes) : AlarmUp where
  regionId := cfg.regionId
  tsUnix := clock.unix
  deviceType := match r.reg.get uri with
    | some st => if st.type = .luminaire then 1 else 2
    | none => 1
  zoneId := match r.reg.get uri with
    | some st => st.zoneId
    | none => 0
  code := 9
  uri := uri
  text := ascii "comm_lost"

/-- The body of the alarm loop of `schedule_comm_lost_check`. -/
def reportLost (cfg : RegionConfig) (clock : Clock) (r : Region) (uri : Bytes) : Region :=
  if uri ∈ r.activeLost then r
  else
    let r := { r with activeLost := insert uri r.activeLost }
    let r := r.switchTo .faultHandling .commLost
    r.sendAlarmNow (commLostAlarm cfg clock r uri)

/-- The tick handler of `schedule_comm_lost_check`. -/
def tick (cfg : RegionConfig) (clock : Clock) (r : Region) : Region :=
  let (lost, reg) := r.reg.detectCommLost clock.nowMs cfg.timeoutMs
  let r := lost.foldl (reportLost cfg clock) { r with reg := reg }
  let r := { r with activeLost := r.activeLost.filter fun uri => uri ∈ lost }
  if r.activeLost = ∅ then
    if r.fsm.state = .faultHandling then r.switchTo .normalOperation .recoverOk else r
  else r

/-- The region after the registry program of a frame has left `out` and `reg`. -/
def afterFrame (r : Region) (k : ℕ) (out : Outcome) (reg : Registry) : Region :=
  { r.setSession k out.session with
    reg := reg
    db := r.db ++ out.db
    sessionMap := match out.bound with
      | some uri => r.sessionMap.insert uri k
      | none => r.sessionMap }

/-- A frame of a session is handled: its registry program runs, then its calls are made. -/
def handleFrame (cfg : RegionConfig) (clock : Clock) (r : Region) (k : ℕ) (body : Bytes) :
    Region :=
  let (out, reg) := ((r.sessions k).onMessage cfg.regionId body clock).exec r.reg
  match out.fault with
  | some (f, type) => deviceFault cfg clock (afterFrame r k out reg) f type
  | none => afterFrame r k out reg

/-- `DeviceSession::on_close`: remove the session from `sessions_`, unless its
name now belongs to another session. -/
def onClose (r : Region) (k : ℕ) : Region :=
  let uri := (r.sessions k).uri
  let r := { r with closed := insert k r.closed }
  if uri = [] then r
  else
    match r.sessionMap.lookup uri with
    | none => r
    | some j =>
      if j ∈ r.expired ∨ j = k then { r with sessionMap := r.sessionMap.erase uri } else r

/-- What can happen to a regional server. -/
inductive Event
  /-- A session receives a frame. -/
  | frame (session : ℕ) (body : Bytes) (clock : Clock)
  /-- The telemetry socket receives a datagram; `beyond` is the memory behind it. -/
  | datagram (bytes beyond : Bytes) (clock : Clock)
  /-- The comm-lost timer expires. -/
  | tick (clock : Clock)
  /-- A posted send of a session runs. -/
  | posted (session : ℕ)
  /-- A write of a session completes. -/
  | writeDone (session i : ℕ) (ok : Bool)
  /-- A read of a session fails, or its frame length is out of range. -/
  | close (session : ℕ)
  /-- The last reference to a closed session is dropped. -/
  | expire (session : ℕ)

/-- One handler of the regional server. A session handles frames as long as it
exists: a read may have succeeded before a write failed. -/
def step (cfg : RegionConfig) (r : Region) : Event → Option Region
  | .frame k body clock =>
    if k ∈ r.expired then none else some (handleFrame cfg clock r k body)
  | .datagram bytes beyond clock =>
    match parseTelemetry bytes beyond with
    | some t => some (receive cfg clock r t)
    | none => some r
  | .tick clock => some (tick cfg clock r)
  | .posted k =>
    (r.sessions k).queue.runPosted.map fun q => r.setSession k { r.sessions k with queue := q }
  | .writeDone k i ok =>
    ((r.sessions k).writeDone i ok).map fun s =>
      if ok then r.setSession k s else (r.setSession k s).onClose k
  | .close k => if k ∈ r.expired then none else some (r.onClose k)
  | .expire k => if k ∈ r.closed then some { r with expired := insert k r.expired } else none

end Region

end SmartLighting
