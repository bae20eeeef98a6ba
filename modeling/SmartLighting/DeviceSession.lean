import SmartLighting.Library.Programs
import SmartLighting.Registry
import SmartLighting.SendQueue

/-!
# The device sessions of a region

`DeviceSession` serves one TLS connection of a device. Its handlers reach the
registry through separate critical sections, so each handler is a program whose
atoms are the registry calls. The session's own members are only touched by its
own handlers.
-/

namespace SmartLighting

open Transition

/-- A call that queues a database event. -/
inductive DbCall
  /-- `upsert_device`. -/
  | upsertDevice (uri : Bytes) (type : UInt8) (regionId zoneId : UInt32) (fault : Bool)
      (on intensity : UInt8) (powerMw : UInt32)
  /-- `log_lamp_status`. -/
  | lampStatus (uri : Bytes) (regionId zoneId : UInt32) (on intensity : UInt8) (powerMw : UInt32)
  /-- `log_fault`. -/
  | fault (uri : Bytes) (regionId zoneId : UInt32) (code : UInt8) (text : Bytes)
  deriving DecidableEq

/-- The clocks as a handler reads them. -/
structure Clock where
  /-- `now_ms`. -/
  nowMs : UInt64
  /-- `std::time`. -/
  unix : UInt32
  deriving DecidableEq

/-- `class DeviceSession`: its members. -/
structure DeviceSession where
  /-- `registered_`. -/
  registered : Bool
  /-- `session_type_`. -/
  sessionType : DeviceType
  /-- `uri_`. -/
  uri : Bytes
  /-- The write queue. -/
  queue : SendQueue
  deriving DecidableEq

/-- What a handler leaves besides the registry. -/
structure Outcome where
  /-- The session's members. -/
  session : DeviceSession
  /-- Calls to the database writer, in order. -/
  db : List DbCall
  /-- The call of the fault callback. -/
  fault : Option (FaultReport × DeviceType)
  /-- The name under which `sessions_` was pointed to this session. -/
  bound : Option Bytes

namespace DeviceSession

/-- A session that was just accepted. -/
def fresh : DeviceSession := ⟨false, .luminaire, [], .empty⟩

/-- `queue_send`. -/
def queueSend (s : DeviceSession) (type : MsgType) (payload : Bytes) : DeviceSession :=
  { s with queue := s.queue.post ⟨type, payload⟩ }

/-- `send_cmd`: nothing is sent before a registration. -/
def sendCmd (s : DeviceSession) (cmd value : UInt8) : Except String DeviceSession :=
  if s.uri = [] then .ok s
  else do
    let payload ← encodeCommand ⟨s.uri, cmd, value⟩
    return s.queueSend .cmd payload

/-- The completion handler of `do_write`. After an error nothing more is written. -/
def writeDone (s : DeviceSession) (i : ℕ) (ok : Bool) : Option DeviceSession :=
  (s.queue.complete i ok).map fun q => { s with queue := if ok then q.doWrite else q }

/-- `handle_register`. -/
def handleRegister (s : DeviceSession) (req : RegisterReq) (clock : Clock) :
    Program Registry Outcome :=
  if req.uri = [] ∨ req.zoneId = 0 then
    return ⟨s.queueSend .registerNack [], [], none, none⟩
  else do
    let s := { s with registered := true, sessionType := req.type, uri := req.uri }
    let st : DeviceState := ⟨req.type, req.zoneId, 0, 0, 0, false, clock.nowMs⟩
    Program.write fun reg => reg.upsert req.uri st
    if req.type = .luminaire then
      Program.write fun reg => reg.registerLamp req.uri req.zoneId
    return ⟨s.queueSend .registerAck (encodeRegisterAck ⟨clock.unix⟩), [], none, some req.uri⟩

/-- The state that `handle_status` stores after `get` returned `got`; `none` when
it returns early, because the device is unknown and the session is not its own. -/
def statusState (s : DeviceSession) (report : StatusReport) (clock : Clock)
    (got : Option DeviceState) : Option DeviceState :=
  let store (st : DeviceState) : DeviceState :=
    { st with
      zoneId := report.zoneId
      on := report.on
      intensity := report.intensity
      powerMw := report.powerMw
      lastSeenMs := clock.nowMs }
  match got with
  | some st => some (store st)
  | none =>
    if s.registered = false ∨ s.uri = [] ∨ report.uri ≠ s.uri then none
    else some (store ⟨s.sessionType, report.zoneId, 0, 0, 0, false, 0⟩)

/-- `handle_status`. -/
def handleStatus (regionId : UInt32) (s : DeviceSession) (report : StatusReport) (clock : Clock) :
    Program Registry Outcome := do
  let got ← Program.read fun reg => reg.get report.uri
  match s.statusState report clock got with
  | none => return ⟨s, [], none, none⟩
  | some st =>
    Program.write fun reg => reg.upsert report.uri st
    let type : UInt8 := if st.type = .luminaire then 1 else 2
    let upsert := DbCall.upsertDevice report.uri type regionId report.zoneId st.fault report.on
      report.intensity report.powerMw
    let status := DbCall.lampStatus report.uri regionId report.zoneId report.on report.intensity
      report.powerMw
    return ⟨s, if st.type = .luminaire then [upsert, status] else [upsert], none, none⟩

/-- The device type that `handle_fault` resolves after `get` returned `got`. -/
def faultType (s : DeviceSession) (report : FaultReport) (got : Option DeviceState) :
    DeviceType :=
  match got with
  | some st => st.type
  | none =>
    if s.registered = true ∧ s.uri ≠ [] ∧ report.uri = s.uri then s.sessionType else .luminaire

/-- The state that `handle_fault` stores after `get` returned `got`. -/
def faultState (s : DeviceSession) (report : FaultReport) (clock : Clock)
    (got : Option DeviceState) : DeviceState :=
  let st := got.getD ⟨s.faultType report got, report.zoneId, 0, 0, 0, false, 0⟩
  { st with zoneId := report.zoneId, fault := true, lastSeenMs := clock.nowMs }

/-- `handle_fault`. -/
def handleFault (regionId : UInt32) (s : DeviceSession) (report : FaultReport) (clock : Clock) :
    Program Registry Outcome := do
  let logged := DbCall.fault report.uri regionId report.zoneId report.code report.text
  let got ← Program.read fun reg => reg.get report.uri
  Program.write fun reg => reg.upsert report.uri (s.faultState report clock got)
  return ⟨s.queueSend .faultAck [], [logged], some (report, s.faultType report got), none⟩

/-- `on_message`: a body that is empty, has another type or does not decode is
dropped. -/
def onMessage (regionId : UInt32) (s : DeviceSession) (body : Bytes) (clock : Clock) :
    Program Registry Outcome :=
  let dropped : Program Registry Outcome := return ⟨s, [], none, none⟩
  match body with
  | [] => dropped
  | code :: p =>
    let t : MsgType := ⟨code⟩
    if t = .registerReq then
      match Reader.decode decodeRegisterReq p with
      | .ok req => s.handleRegister req clock
      | .error _ => dropped
    else if t = .statusReport then
      match Reader.decode decodeStatusReport p with
      | .ok report => s.handleStatus regionId report clock
      | .error _ => dropped
    else if t = .faultReport then
      match Reader.decode decodeFaultReport p with
      | .ok report => s.handleFault regionId report clock
      | .error _ => dropped
    else dropped

end DeviceSession

end SmartLighting
