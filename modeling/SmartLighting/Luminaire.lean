import SmartLighting.Library.Runs
import SmartLighting.Library.StateMachine
import SmartLighting.Proto
import SmartLighting.SendQueue
import Mathlib.Algebra.Order.Ring.Int

/-!
# The lamp

`luminaire_client.cpp`: a lamp connects to its region, registers, obeys commands
and reports its status and its simulated faults. It runs on one thread, so a step
is one completion handler. A handler that throws ends the process, apart from
the command branch, which catches everything.
-/

namespace SmartLighting

open StateMachine Transition

/-- `enum class LampState`. -/
inductive LampState
  | idle | unregistered | registering | off | on | fault
  deriving DecidableEq

/-- The event labels passed to `SwitchToState`, and the two direct assignments. -/
inductive LampLabel
  /-- `boot_done`. -/
  | bootDone
  /-- `send_uri/REGISTER_REQ`. -/
  | registerReq
  /-- `register_OK/REGISTER_ACK`. -/
  | registerAck
  /-- `register_fail/REGISTER_NACK`. -/
  | registerNack
  /-- `timeout`. -/
  | timeout
  /-- `CMD:SWITCH_ON/STATUS_REPORT`. -/
  | switchOn
  /-- `CMD:SWITCH_OFF/STATUS_REPORT`. -/
  | switchOff
  /-- `CMD:SET_INTENSITY->OFF/STATUS_REPORT`. -/
  | setIntensityOff
  /-- `CMD:SET_INTENSITY->ON/STATUS_REPORT`. -/
  | setIntensityOn
  /-- `fault_detected/FAULT_REPORT`. -/
  | faultDetected
  /-- `manual_reset`. -/
  | manualReset
  /-- The assignment in `schedule_reconnect`. -/
  | reconnect
  /-- The assignment in `send_register`. -/
  | registerAgain
  deriving DecidableEq

/-- The arguments of `luminaire_client`. -/
structure LampConfig where
  /-- `uri_`. -/
  uri : Bytes
  /-- `zone_`. -/
  zone : UInt32
  /-- `run_s_`. -/
  runS : ℤ
  /-- `reset_after_s_`. -/
  resetAfterS : ℤ
  /-- `heartbeat_s_`. -/
  heartbeatS : ℤ
  /-- `fault_prob_per_mille_`. -/
  faultProbPerMille : ℤ

/-- `LuminaireClient`: its members, and how many operations of each kind are pending. -/
structure Lamp where
  /-- `state_` and its changes. -/
  fsm : Machine LampState LampLabel
  /-- `intensity_`. -/
  intensity : UInt8
  /-- The write queue. -/
  queue : SendQueue
  /-- `pending_fault_`. -/
  pendingFault : Bool
  /-- `pending_fault_msg_`. -/
  pendingFaultMsg : FaultReport
  /-- `sock_` is set. -/
  hasSock : Bool
  /-- Pending `async_resolve`. -/
  resolves : ℕ
  /-- Pending `async_connect`. -/
  connects : ℕ
  /-- Pending `async_handshake`. -/
  handshakes : ℕ
  /-- Read loops that wait for a frame. -/
  reads : ℕ
  /-- Pending waits of `timer_register_timeout_`. -/
  registerWaits : ℕ
  /-- Pending waits of `timer_reconnect_`. -/
  reconnectWaits : ℕ
  /-- Pending waits of `timer_heartbeat_`. -/
  heartbeatWaits : ℕ
  /-- Pending waits of `timer_reset_`. -/
  resetWaits : ℕ
  /-- Pending waits of `timer_stop_`. -/
  stopWaits : ℕ
  /-- The process has ended. -/
  stopped : Bool
  deriving DecidableEq

namespace Lamp

/-- `state_`. -/
def state (l : Lamp) : LampState := l.fsm.state

/-- `transitions_`. -/
def transitions : List (LampState × LampState) :=
  [(.idle, .unregistered), (.unregistered, .registering), (.registering, .off),
    (.registering, .unregistered), (.off, .on), (.on, .off), (.on, .fault), (.off, .fault),
    (.fault, .idle)]

/-- `SwitchToState`. -/
def switchToState (l : Lamp) (next : LampState) (label : LampLabel) : Bool × Lamp :=
  let (allowed, fsm) := Machine.switchTo transitions l.fsm next label
  (allowed, { l with fsm := fsm })

/-- An assignment of `state_` that does not ask the matrix. -/
def assign (l : Lamp) (next : LampState) (label : LampLabel) : Lamp :=
  { l with fsm := l.fsm.assign next label }

/-- An assignment of `intensity_`. -/
def setIntensity (l : Lamp) (v : UInt8) : Lamp := { l with intensity := v }

/-- The write queue changed. -/
def setQueue (l : Lamp) (q : SendQueue) : Lamp := { l with queue := q }

/-- `queue_send`. -/
def queueSend (l : Lamp) (type : MsgType) (payload : Bytes) : Lamp :=
  if l.hasSock then l.setQueue (l.queue.post ⟨type, payload⟩) else l

/-- `queue_send` of a message that is encoded first. The error carries the
members as the exception leaves them. -/
def queueEncoded (l : Lamp) (type : MsgType) (payload : Except String Bytes) : Except Lamp Lamp :=
  match payload with
  | .ok payload => .ok (l.queueSend type payload)
  | .error _ => .error l

/-- `schedule_reconnect`. Cancelled waits still complete, with an error. -/
def scheduleReconnect (l : Lamp) : Lamp :=
  let l := l.setQueue l.queue.reset
  let l := if l.state ≠ .unregistered then l.assign .unregistered .reconnect else l
  { l with reconnectWaits := l.reconnectWaits + 1 }

/-- `do_connect`. -/
def doConnect (l : Lamp) : Lamp := { l with hasSock := true, resolves := l.resolves + 1 }

/-- `start`. -/
def start (cfg : LampConfig) : Lamp :=
  let l : Lamp :=
    { fsm := ⟨.idle, []⟩, intensity := 0, queue := .empty, pendingFault := false,
      pendingFaultMsg := ⟨[], 0, 0, []⟩, hasSock := false, resolves := 0, connects := 0,
      handshakes := 0, reads := 0, registerWaits := 0, reconnectWaits := 0, heartbeatWaits := 0,
      resetWaits := 0, stopWaits := 0, stopped := false }
  let l := (l.switchToState .unregistered .bootDone).2.doConnect
  { l with
    stopWaits := if cfg.runS > 0 then 1 else 0
    resetWaits := if cfg.resetAfterS > 0 then 1 else 0 }

/-- `send_register`. -/
def sendRegister (cfg : LampConfig) (l : Lamp) : Except Lamp Lamp :=
  let l := if l.state ≠ .unregistered ∧ l.state ≠ .registering then
    l.assign .unregistered .registerAgain else l
  let (allowed, l) := l.switchToState .registering .registerReq
  if allowed = false then .ok l
  else do
    let l ← l.queueEncoded .registerReq (encodeRegisterReq ⟨.luminaire, cfg.uri, cfg.zone⟩)
    return { l with registerWaits := l.registerWaits + 1 }

/-- `schedule_heartbeat`. -/
def scheduleHeartbeat (cfg : LampConfig) (l : Lamp) : Lamp :=
  if cfg.heartbeatS ≤ 0 then l else { l with heartbeatWaits := l.heartbeatWaits + 1 }

/-- The report that `send_status` fills in. -/
def statusReport (cfg : LampConfig) (l : Lamp) : StatusReport :=
  let on : UInt8 := if l.state = .on then 1 else 0
  { uri := cfg.uri
    zoneId := cfg.zone
    on := on
    intensity := l.intensity
    powerMw := if on ≠ 0 then 70000 + 800 * l.intensity.toUInt32 else 0 }

/-- `send_status`. -/
def sendStatus (cfg : LampConfig) (l : Lamp) : Except Lamp Lamp :=
  l.queueEncoded .statusReport (encodeStatusReport (l.statusReport cfg))

/-- `request_fault`. -/
def requestFault (cfg : LampConfig) (l : Lamp) (code : UInt8) (text : Bytes) : Except Lamp Lamp :=
  let f : FaultReport := ⟨cfg.uri, cfg.zone, code, text⟩
  if l.queue.writing ∨ l.queue.outQ ≠ [] then
    .ok { l with pendingFault := true, pendingFaultMsg := f }
  else l.queueEncoded .faultReport (encodeFaultReport f)

/-- `maybe_simulate_fault`, with the value that `urand(0,999)` draws. -/
def maybeSimulateFault (cfg : LampConfig) (l : Lamp) (draw : Fin 1000) : Except Lamp Lamp :=
  if cfg.faultProbPerMille ≤ 0 then .ok l
  else if l.state ≠ .on ∧ l.state ≠ .off then .ok l
  else if (draw.val : ℤ) < cfg.faultProbPerMille then
    let (allowed, l) := l.switchToState .fault .faultDetected
    if allowed then l.requestFault cfg 1 (ascii "fault_detected") else .ok l
  else .ok l

/-- `manual_reset`. -/
def manualReset (l : Lamp) : Lamp :=
  if l.state = .fault then
    let (allowed, l) := l.switchToState .idle .manualReset
    if allowed then (l.switchToState .unregistered .bootDone).2.scheduleReconnect else l
  else l

/-- The `try` block of the command branch, for a decoded command. -/
def command (cfg : LampConfig) (l : Lamp) (c : Command) (draw : Fin 1000) : Except Lamp Lamp :=
  if c.cmd = 1 then
    if l.state = .off then
      let (allowed, l) := l.switchToState .on .switchOn
      if allowed then do
        let l := l.setIntensity (if l.intensity < 30 then 30 else l.intensity)
        let l ← l.sendStatus cfg
        l.maybeSimulateFault cfg draw
      else .ok l
    else .ok l
  else if c.cmd = 2 then
    if l.state = .on then
      let (allowed, l) := l.switchToState .off .switchOff
      if allowed then (l.setIntensity 0).sendStatus cfg else .ok l
    else .ok l
  else if c.cmd = 3 then do
    let l := l.setIntensity c.value
    let l :=
      if l.intensity = 0 ∧ l.state = .on then (l.switchToState .off .setIntensityOff).2
      else if l.intensity > 0 ∧ l.state = .off then (l.switchToState .on .setIntensityOn).2
      else l
    if l.state = .on ∨ l.state = .off then
      let l ← l.sendStatus cfg
      l.maybeSimulateFault cfg draw
    else .ok l
  else .ok l

/-- `catch(...)`: go on with the members as the exception has left them. -/
def caught : Except Lamp Lamp → Lamp
  | .ok l => l
  | .error l => l

/-- `on_message`. -/
def onMessage (cfg : LampConfig) (l : Lamp) (body : Bytes) (draw : Fin 1000) : Except Lamp Lamp :=
  match body with
  | [] => .ok l
  | code :: p =>
    let t : MsgType := ⟨code⟩
    if t = .registerAck then
      let (allowed, l) := l.switchToState .off .registerAck
      if allowed then do
        let l ← (l.setIntensity 0).sendStatus cfg
        return l.scheduleHeartbeat cfg
      else .ok l
    else if t = .registerNack then
      .ok (l.switchToState .unregistered .registerNack).2.scheduleReconnect
    else if t = .cmd then
      match Reader.decode decodeCommand p with
      | .ok c => .ok (caught (l.command cfg c draw))
      | .error _ => .ok l
    else .ok l

/-- After each write, if there is a pending fault, it is sent. -/
def sendPending (l : Lamp) : Except Lamp Lamp :=
  if l.pendingFault then
    let l := { l with pendingFault := false }
    l.queueEncoded .faultReport (encodeFaultReport l.pendingFaultMsg)
  else .ok l

/-- The completion handler of `do_write`. -/
def writeDone (l : Lamp) (i : ℕ) (ok : Bool) : Option (Except Lamp Lamp) :=
  (l.queue.complete i ok).map fun q =>
    let l := l.setQueue q
    if ok = false then .ok l.scheduleReconnect
    else do
      let l ← l.sendPending
      return l.setQueue l.queue.doWrite

/-- The handler of `timer_register_timeout_`, when the wait was not cancelled. -/
def registerTimeout (l : Lamp) : Lamp :=
  if l.state = .registering then (l.switchToState .unregistered .timeout).2.scheduleReconnect
  else l

/-- The handler of `timer_heartbeat_`, when the wait was not cancelled. -/
def heartbeat (cfg : LampConfig) (l : Lamp) : Except Lamp Lamp := do
  let l ← if l.state = .on ∨ l.state = .off ∨ l.state = .fault then l.sendStatus cfg else .ok l
  return l.scheduleHeartbeat cfg

/-- What can happen to a lamp. -/
inductive Event
  /-- `async_resolve` completes. -/
  | resolved (ok : Bool)
  /-- `async_connect` completes. -/
  | connected (ok : Bool)
  /-- `async_handshake` completes. -/
  | handshaken (ok : Bool)
  /-- A posted send runs. -/
  | posted
  /-- A write completes. -/
  | writeDone (i : ℕ) (ok : Bool)
  /-- A read fails, or a header announces a length out of range. -/
  | readFailed
  /-- A read loop receives a frame. -/
  | frame (body : Bytes) (draw : Fin 1000)
  /-- A wait of `timer_register_timeout_` completes. -/
  | registerTimer (cancelled : Bool)
  /-- A wait of `timer_reconnect_` completes. -/
  | reconnectTimer (cancelled : Bool)
  /-- A wait of `timer_heartbeat_` completes. -/
  | heartbeatTimer (cancelled : Bool)
  /-- The wait of `timer_reset_` completes. -/
  | resetTimer
  /-- The wait of `timer_stop_` completes. -/
  | stopTimer
  deriving DecidableEq

/-- An exception that leaves a handler ends the process. -/
def finish : Except Lamp Lamp → Lamp
  | .ok l => l
  | .error l => { l with stopped := true }

/-- The handler of an event, if the operation is pending. -/
def handle (cfg : LampConfig) (l : Lamp) : Event → Option (Except Lamp Lamp)
  | .resolved ok =>
    if l.resolves = 0 then none
    else
      let l := { l with resolves := l.resolves - 1 }
      some (.ok (if ok then { l with connects := l.connects + 1 } else l.scheduleReconnect))
  | .connected ok =>
    if l.connects = 0 then none
    else
      let l := { l with connects := l.connects - 1 }
      some (.ok (if ok then { l with handshakes := l.handshakes + 1 } else l.scheduleReconnect))
  | .handshaken ok =>
    if l.handshakes = 0 then none
    else
      let l := { l with handshakes := l.handshakes - 1 }
      some (if ok then do
          let l ← l.sendRegister cfg
          return { l with reads := l.reads + 1 }
        else .ok l.scheduleReconnect)
  | .posted => l.queue.runPosted.map fun q => .ok (l.setQueue q)
  | .writeDone i ok => l.writeDone i ok
  | .readFailed =>
    if l.reads = 0 then none
    else some (.ok { l with reads := l.reads - 1 }.scheduleReconnect)
  | .frame body draw =>
    if l.reads = 0 ∨ body.length < 1 ∨ body.length > 1024 * 1024 then none
    else
      let l := { l with reads := l.reads - 1 }
      some (do
        let l ← l.onMessage cfg body draw
        return { l with reads := l.reads + 1 })
  | .registerTimer cancelled =>
    if l.registerWaits = 0 then none
    else
      let l := { l with registerWaits := l.registerWaits - 1 }
      some (.ok (if cancelled then l else l.registerTimeout))
  | .reconnectTimer cancelled =>
    if l.reconnectWaits = 0 then none
    else
      let l := { l with reconnectWaits := l.reconnectWaits - 1 }
      some (.ok (if cancelled then l else l.doConnect))
  | .heartbeatTimer cancelled =>
    if l.heartbeatWaits = 0 then none
    else
      let l := { l with heartbeatWaits := l.heartbeatWaits - 1 }
      some (if cancelled then .ok l else l.heartbeat cfg)
  | .resetTimer =>
    if l.resetWaits = 0 then none
    else some (.ok { l with resetWaits := l.resetWaits - 1 }.manualReset)
  | .stopTimer =>
    if l.stopWaits = 0 then none
    else some (.ok { l with stopWaits := l.stopWaits - 1, stopped := true })

/-- One handler of the lamp. Nothing runs after the process has ended. -/
def step (cfg : LampConfig) (l : Lamp) (e : Event) : Option Lamp :=
  if l.stopped then none else (l.handle cfg e).map finish

end Lamp

end SmartLighting
