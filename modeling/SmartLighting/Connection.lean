import SmartLighting.Luminaire
import SmartLighting.DeviceSession

/-!
# A lamp and its session

One lamp and the `DeviceSession` that serves it, over one connection that stays
up. Each side writes its frames to a reliable stream, which the other side reads
in order; a frame can be read as soon as its write has started. Handlers run one
at a time. Other devices may change the registry, but not the lamp's entry.
-/

namespace SmartLighting

open Transition

/-- The two sides of a connection. -/
structure Link where
  /-- The lamp. -/
  lamp : Lamp
  /-- Its session. -/
  session : DeviceSession
  /-- `Registry` of the region. -/
  registry : Registry
  /-- How many frames of the lamp the session has read. -/
  atRegion : ℕ
  /-- How many frames of the session the lamp has read. -/
  atLamp : ℕ

namespace Link

/-- What can happen on a connection that stays up. -/
inductive Event
  /-- The lamp completes its handshake. -/
  | handshake
  /-- A posted send of the lamp runs. -/
  | lampPosted
  /-- A write of the lamp completes. -/
  | lampWritten (i : ℕ)
  /-- The lamp reads the next frame. -/
  | lampFrame (draw : Fin 1000)
  /-- A heartbeat wait of the lamp completes. -/
  | heartbeat (cancelled : Bool)
  /-- A posted send of the session runs. -/
  | regionPosted
  /-- A write of the session completes. -/
  | regionWritten (i : ℕ)
  /-- The session reads the next frame. -/
  | regionFrame (clock : Clock)
  /-- `send_cmd` of the session. -/
  | sendCmd (cmd value : UInt8)
  /-- Another device is stored. -/
  | other (uri : Bytes) (st : DeviceState)

/-- The lamp handles an event. -/
def lampStep (cfg : LampConfig) (k : Link) (e : Lamp.Event) : Option Link :=
  (Lamp.step cfg k.lamp e).map fun l => { k with lamp := l }

/-- The session handles a frame. -/
def sessionStep (regionId : UInt32) (k : Link) (body : Bytes) (clock : Clock) : Link :=
  let (out, registry) := (k.session.onMessage regionId body clock).exec k.registry
  { k with session := out.session, registry := registry }

/-- One handler of the lamp or of the region. -/
def step (cfg : LampConfig) (regionId : UInt32) (k : Link) : Event → Option Link
  | .handshake => k.lampStep cfg (.handshaken true)
  | .lampPosted => k.lampStep cfg .posted
  | .lampWritten i => k.lampStep cfg (.writeDone i true)
  | .lampFrame draw =>
    match k.session.queue.written[k.atLamp]? with
    | none => none
    | some m => { k with atLamp := k.atLamp + 1 }.lampStep cfg (.frame m.body draw)
  | .heartbeat cancelled => k.lampStep cfg (.heartbeatTimer cancelled)
  | .regionPosted =>
    k.session.queue.runPosted.map fun q => { k with session := { k.session with queue := q } }
  | .regionWritten i => (k.session.writeDone i true).map fun s => { k with session := s }
  | .regionFrame clock =>
    match k.lamp.queue.written[k.atRegion]? with
    | none => none
    | some m => some ({ k with atRegion := k.atRegion + 1 }.sessionStep regionId m.body clock)
  | .sendCmd cmd value =>
    match k.session.sendCmd cmd value with
    | .ok s => some { k with session := s }
    | .error _ => some k
  | .other uri st =>
    if uri = cfg.uri then none else some { k with registry := k.registry.upsert uri st }

/-- The lamp was started and has connected; the region knows what it knows. -/
def start (cfg : LampConfig) (registry : Registry) : Link :=
  { lamp := { Lamp.start cfg with resolves := 0, handshakes := 1 }
    session := .fresh
    registry := registry
    atRegion := 0
    atLamp := 0 }

/-- The lamp of the start is the lamp whose first resolve and connect succeeded. -/
example (cfg : LampConfig) (registry : Registry) :
    run (Lamp.step cfg) (Lamp.start cfg) [.resolved true, .connected true] =
      some (start cfg registry).lamp := rfl

/-- Nothing is posted, queued, being written, in flight or held back on either side. -/
structure AtRest (k : Link) : Prop where
  /-- The lamp has nothing to send. -/
  lamp : k.lamp.queue.posted = [] ∧ k.lamp.queue.outQ = [] ∧ k.lamp.queue.outstanding = []
  /-- The session has nothing to send. -/
  session : k.session.queue.posted = [] ∧ k.session.queue.outQ = [] ∧
    k.session.queue.outstanding = []
  /-- The session has read every frame. -/
  atRegion : k.atRegion = k.lamp.queue.written.length
  /-- The lamp has read every frame. -/
  atLamp : k.atLamp = k.session.queue.written.length
  /-- The lamp holds no fault report back. -/
  held : k.lamp.pendingFault = false

/-- The lamp has processed its REGISTER_ACK. -/
def Acked (l : Lamp) : Prop := ∃ c ∈ l.fsm.log, c.label = .registerAck

/-- The registry shows the lamp as it is. -/
def Shows (cfg : LampConfig) (k : Link) : Prop :=
  ∃ st, k.registry.get cfg.uri = some st ∧
    (st.fault = true ↔ k.lamp.state = .fault) ∧
    (k.lamp.state = .on ∨ k.lamp.state = .off →
      st.on = (k.lamp.statusReport cfg).on ∧ st.intensity = (k.lamp.statusReport cfg).intensity ∧
        st.powerMw = (k.lamp.statusReport cfg).powerMw ∧
        st.zoneId = (k.lamp.statusReport cfg).zoneId)

/-- Lamp and region agree at rest. -/
def RestLaw (cfg : LampConfig) (k : Link) : Prop := AtRest k → Acked k.lamp → Shows cfg k

end Link

end SmartLighting
