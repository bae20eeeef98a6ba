import SmartLighting.LampReports

/-!
# The phases of a connection

A connection goes through five phases. Once the registration was accepted, the
reports under way always lead from what the registry shows to what the lamp is;
when nothing is under way, the two agree.
-/

namespace SmartLighting

open Lamp StateMachine Transition

namespace Link

variable {cfg : LampConfig} {regionId : UInt32} {k k' : Link} {l : Lamp}

/-- The lamp has not been registered. -/
structure Silent (l : Lamp) : Prop where
  /-- It has processed no REGISTER_ACK. -/
  acked : ¬Acked l
  /-- It holds no report back. -/
  pendingFault : l.pendingFault = false
  /-- It sends no heartbeats. -/
  heartbeatWaits : l.heartbeatWaits = 0
  /-- It has not got past its registration. -/
  state : l.state = .unregistered ∨ l.state = .registering

/-- The reports that the region has not handled lead to what the lamp is. -/
def Pipeline (cfg : LampConfig) (k : Link) : Prop :=
  ∃ st ms, k.registry.get cfg.uri = some st ∧
    List.Forall₂ (fun (msg : DeviceMessage) out => msg.encode = .ok out) ms
      (k.lamp.queue.sent.drop k.atRegion) ∧
    (∀ msg ∈ ms, Own cfg msg) ∧ Agrees cfg k.lamp (ms.foldl Shown.after st.shown)

/-- How far the connection has got. -/
inductive Phase (cfg : LampConfig) (k : Link) : Prop
  /-- The handshake is under way. -/
  | connecting (hsilent : Silent k.lamp) (hstate : k.lamp.state = .unregistered)
      (hhandshakes : k.lamp.handshakes = 1) (hup : k.lamp.queue.sent = [])
      (hdown : k.session.queue.sent = []) (huri : k.session.uri = [])
      (hread : k.atRegion = 0 ∧ k.atLamp = 0)
  /-- The registration is under way. -/
  | asking (hsilent : Silent k.lamp) (hfits : cfg.uri.length ≤ 65535)
      (hstate : k.lamp.state = .registering)
      (hhandshakes : k.lamp.handshakes = 0) (hup : k.lamp.queue.sent = [registerFrame cfg])
      (hdown : k.session.queue.sent = []) (huri : k.session.uri = [])
      (hread : k.atRegion = 0 ∧ k.atLamp = 0)
  /-- The registration was refused, or the process of the lamp has ended. -/
  | closed (hsilent : Silent k.lamp) (hhandshakes : k.lamp.handshakes = 0)
      (hup : k.lamp.queue.sent.length ≤ k.atRegion)
      (hdown : ∀ m ∈ k.session.queue.sent.drop k.atLamp, m.type ≠ .registerAck)
  /-- The REGISTER_ACK is under way. -/
  | waiting (hsilent : Silent k.lamp) (hstate : k.lamp.state = .registering)
      (hhandshakes : k.lamp.handshakes = 0) (hread : k.atRegion ≤ k.lamp.queue.sent.length)
      (hpipeline : Pipeline cfg k)
      (hdown : ∃ ack rest, k.session.queue.sent.drop k.atLamp = ack :: rest ∧
        ack.type = .registerAck ∧ ∀ m ∈ rest, Plain m)
  /-- The lamp is registered. -/
  | serving (hregistered : Registered k.lamp) (hhandshakes : k.lamp.handshakes = 0)
      (hread : k.atRegion ≤ k.lamp.queue.sent.length) (hpipeline : Pipeline cfg k)
      (hdown : ∀ m ∈ k.session.queue.sent.drop k.atLamp, Plain m)

/-- What holds between two handlers. -/
structure Inv (cfg : LampConfig) (k : Link) : Prop where
  /-- The lamp is sound. -/
  sound : Sound cfg k.lamp
  /-- The connection is in one of its phases. -/
  phase : Phase cfg k

/-- In every phase the two sides agree at rest. -/
theorem Phase.restLaw (h : Phase cfg k) : RestLaw cfg k := by
  intro hrest hacked
  cases h with
  | connecting hsilent => exact absurd hacked hsilent.acked
  | asking hsilent => exact absurd hacked hsilent.acked
  | closed hsilent => exact absurd hacked hsilent.acked
  | waiting hsilent => exact absurd hacked hsilent.acked
  | serving hregistered hhandshakes hread hpipeline hdown =>
    obtain ⟨st, ms, hst, hencode, -, hagrees⟩ := hpipeline
    have hsent := SendQueue.sent_of_idle hrest.lamp.1 hrest.lamp.2.1
    rw [hsent, hrest.atRegion, List.drop_length] at hencode
    cases hencode
    refine ⟨st, hst, ⟨fun hfault => ?_, fun hfault => ?_⟩, fun hstate => ?_⟩
    · by_contra hne
      have hclear : st.fault = false := (hagrees.clear hne).1
      rw [hfault] at hclear
      cases hclear
    · refine (hagrees.latched hfault).resolve_right fun hheld => ?_
      rw [hrest.held] at hheld
      cases hheld
    · have hshown : st.shown = _ := hagrees.values hstate
      exact ⟨congrArg Shown.on hshown, congrArg Shown.intensity hshown,
        congrArg Shown.powerMw hshown, congrArg Shown.zoneId hshown⟩

/-! ## Handlers that only move frames -/

/-- Only the queues have changed, and with them no order of frames. -/
structure Same (cfg : LampConfig) (k k' : Link) : Prop where
  /-- The lamp. -/
  lamp : ∃ q, k'.lamp = k.lamp.setQueue q ∧ q.sent = k.lamp.queue.sent
  /-- The name of the session. -/
  uri : k'.session.uri = k.session.uri
  /-- The frames of the session. -/
  down : k'.session.queue.sent = k.session.queue.sent
  /-- The lamp's entry. -/
  entry : k'.registry.get cfg.uri = k.registry.get cfg.uri
  /-- What was read. -/
  read : k'.atRegion = k.atRegion ∧ k'.atLamp = k.atLamp

private theorem Silent.setQueue (h : Silent l) (q : SendQueue) : Silent (l.setQueue q) :=
  ⟨h.acked, h.pendingFault, h.heartbeatWaits, h.state⟩

private theorem Pipeline.same (h : Pipeline cfg k) (hsame : Same cfg k k') : Pipeline cfg k' := by
  obtain ⟨st, ms, hst, hencode, hown, hagrees⟩ := h
  obtain ⟨⟨q, hlamp, hq⟩, -, -, hentry, hread, -⟩ := hsame
  refine ⟨st, ms, hentry.trans hst, ?_, hown, ?_⟩
  · rw [hlamp, setQueue_queue, hq, hread]
    exact hencode
  · rw [hlamp]
    exact ⟨⟨hagrees.clear, hagrees.latched⟩, hagrees.values⟩

theorem Phase.same (h : Phase cfg k) (hsame : Same cfg k k') : Phase cfg k' := by
  obtain ⟨q, hlamp, hq⟩ := hsame.lamp
  have hup : k'.lamp.queue.sent = k.lamp.queue.sent := by
    rw [hlamp]
    exact hq
  have hsilent' : Silent k.lamp → Silent k'.lamp := by
    rw [hlamp]
    exact fun h => h.setQueue q
  have hstate' : k'.lamp.state = k.lamp.state := by
    rw [hlamp]
    rfl
  have hhandshakes' : k'.lamp.handshakes = k.lamp.handshakes := by
    rw [hlamp]
    rfl
  cases h with
  | connecting hsilent hstate hhandshakes hnone hdown huri hread =>
    refine .connecting (hsilent' hsilent) (hstate'.trans hstate) (hhandshakes'.trans hhandshakes)
      (hup.trans hnone) (hsame.down.trans hdown) (hsame.uri.trans huri) ?_
    exact ⟨hsame.read.1.trans hread.1, hsame.read.2.trans hread.2⟩
  | asking hsilent hfits hstate hhandshakes hone hdown huri hread =>
    refine .asking (hsilent' hsilent) hfits (hstate'.trans hstate) (hhandshakes'.trans hhandshakes)
      (hup.trans hone) (hsame.down.trans hdown) (hsame.uri.trans huri) ?_
    exact ⟨hsame.read.1.trans hread.1, hsame.read.2.trans hread.2⟩
  | closed hsilent hhandshakes hlength hdown =>
    refine .closed (hsilent' hsilent) (hhandshakes'.trans hhandshakes) ?_ ?_
    · rw [hup, hsame.read.1]
      exact hlength
    · rw [hsame.down, hsame.read.2]
      exact hdown
  | waiting hsilent hstate hhandshakes hread hpipeline hdown =>
    refine .waiting (hsilent' hsilent) (hstate'.trans hstate) (hhandshakes'.trans hhandshakes) ?_
      (hpipeline.same hsame) ?_
    · rw [hup, hsame.read.1]
      exact hread
    · rw [hsame.down, hsame.read.2]
      exact hdown
  | serving hregistered hhandshakes hread hpipeline hdown =>
    refine .serving ?_ (hhandshakes'.trans hhandshakes) ?_ (hpipeline.same hsame) ?_
    · rw [hlamp]
      exact hregistered
    · rw [hup, hsame.read.1]
      exact hread
    · rw [hsame.down, hsame.read.2]
      exact hdown

end Link

end SmartLighting
