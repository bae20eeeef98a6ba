import SmartLighting.Codec
import SmartLighting.Luminaire

/-!
# What the handlers of a lamp do

A lamp whose name fits a message never throws once it is connected. For such a
lamp each handler is given here as a plain function of the lamp, with the
transition matrix and the encoders evaluated.
-/

namespace SmartLighting

open StateMachine Transition

namespace Lamp

variable {cfg : LampConfig} {l : Lamp} {next : LampState} {label : LampLabel}

@[simp] theorem assign_state : (l.assign next label).state = next := rfl

@[simp] theorem assign_log :
    (l.assign next label).fsm.log = l.fsm.log ++ [⟨l.state, next, label⟩] := rfl

@[simp] theorem assign_intensity : (l.assign next label).intensity = l.intensity := rfl

@[simp] theorem setIntensity_state (v : UInt8) : (l.setIntensity v).state = l.state := rfl

@[simp] theorem setIntensity_intensity (v : UInt8) : (l.setIntensity v).intensity = v := rfl

@[simp] theorem setQueue_state (q : SendQueue) : (l.setQueue q).state = l.state := rfl

@[simp] theorem setQueue_queue (q : SendQueue) : (l.setQueue q).queue = q := rfl

@[simp] theorem setQueue_pendingFault (q : SendQueue) :
    (l.setQueue q).pendingFault = l.pendingFault := rfl

/-- Scheduling a heartbeat changes only the pending waits. -/
theorem scheduleHeartbeat_eq : l.scheduleHeartbeat cfg =
    { l with heartbeatWaits := (l.scheduleHeartbeat cfg).heartbeatWaits } := by
  unfold scheduleHeartbeat
  split <;> rfl

@[simp] theorem scheduleHeartbeat_fsm : (l.scheduleHeartbeat cfg).fsm = l.fsm := by
  rw [scheduleHeartbeat_eq]

@[simp] theorem scheduleHeartbeat_state : (l.scheduleHeartbeat cfg).state = l.state := by
  rw [scheduleHeartbeat_eq]
  rfl

@[simp] theorem scheduleHeartbeat_queue : (l.scheduleHeartbeat cfg).queue = l.queue := by
  rw [scheduleHeartbeat_eq]

@[simp] theorem scheduleHeartbeat_pendingFault :
    (l.scheduleHeartbeat cfg).pendingFault = l.pendingFault := by
  rw [scheduleHeartbeat_eq]

/-- Giving up a connection changes the state, the queue and the pending waits. -/
theorem scheduleReconnect_eq : l.scheduleReconnect =
    { l with
      fsm := l.scheduleReconnect.fsm
      queue := l.queue.reset
      reconnectWaits := l.reconnectWaits + 1 } := by
  unfold scheduleReconnect
  dsimp only
  split <;> rfl

/-- A lamp that gives up its connection records it, unless it is unregistered. -/
theorem scheduleReconnect_log : l.scheduleReconnect.fsm.log =
    l.fsm.log ++ if l.state = .unregistered then [] else
      [⟨l.state, .unregistered, .reconnect⟩] := by
  unfold scheduleReconnect
  by_cases hstate : l.state = .unregistered
  · simp only [setQueue_state, hstate, ne_eq, not_true_eq_false, if_false, if_true,
      List.append_nil]
    rfl
  · simp only [setQueue_state, hstate, ne_eq, not_false_eq_true, if_false, if_true]
    rfl

@[simp] theorem scheduleReconnect_state : l.scheduleReconnect.state = .unregistered := by
  unfold scheduleReconnect
  by_cases hstate : l.state = .unregistered
  · simp only [setQueue_state, hstate, ne_eq, not_true_eq_false, if_false]
    exact hstate
  · simp only [setQueue_state, hstate, ne_eq, not_false_eq_true, if_true]
    rfl

@[simp] theorem scheduleReconnect_queue : l.scheduleReconnect.queue = l.queue.reset := by
  rw [scheduleReconnect_eq]

@[simp] theorem scheduleReconnect_pendingFault :
    l.scheduleReconnect.pendingFault = l.pendingFault := by
  rw [scheduleReconnect_eq]

/-- An edge of the matrix is taken. -/
theorem switchToState_of_mem (h : (l.state, next) ∈ transitions) :
    l.switchToState next label = (true, l.assign next label) := by
  simp only [switchToState, Machine.switchTo_of_mem (m := l.fsm) h, assign]

/-- Any other pair is refused. -/
theorem switchToState_of_not_mem (h : (l.state, next) ∉ transitions) :
    l.switchToState next label = (false, l) := by
  simp only [switchToState, Machine.switchTo_of_not_mem (m := l.fsm) h]

/-! ## Sending -/

/-- The lamp can send: it has a socket, and its name fits a message. -/
structure Ready (cfg : LampConfig) (l : Lamp) : Prop where
  /-- `sock_` is set. -/
  sock : l.hasSock = true
  /-- The name can be encoded. -/
  fits : cfg.uri.length ≤ 65535

/-- A frame was posted. -/
def post (l : Lamp) (frame : OutMsg) : Lamp := l.setQueue (l.queue.post frame)

theorem Ready.queueSend_eq (hready : Ready cfg l) (type : MsgType) (payload : Bytes) :
    l.queueSend type payload = l.post ⟨type, payload⟩ := if_pos hready.sock

theorem Ready.assign (hready : Ready cfg l) : Ready cfg (l.assign next label) :=
  ⟨hready.sock, hready.fits⟩

theorem Ready.setIntensity (hready : Ready cfg l) (v : UInt8) : Ready cfg (l.setIntensity v) :=
  ⟨hready.sock, hready.fits⟩

theorem Ready.post (hready : Ready cfg l) (frame : OutMsg) : Ready cfg (l.post frame) :=
  ⟨hready.sock, hready.fits⟩

/-- The frame of the status report. -/
def statusFrame (cfg : LampConfig) (l : Lamp) : OutMsg :=
  ⟨.statusReport, (encodeStatusReport (l.statusReport cfg)).toOption.getD []⟩

/-- The report of the simulated fault. -/
def faultMessage (cfg : LampConfig) : FaultReport := ⟨cfg.uri, cfg.zone, 1, ascii "fault_detected"⟩

/-- The frame of the fault report. -/
def faultFrame (cfg : LampConfig) : OutMsg :=
  ⟨.faultReport, (encodeFaultReport (faultMessage cfg)).toOption.getD []⟩

theorem encode_statusReport (hready : Ready cfg l) (l' : Lamp) :
    encodeStatusReport (l'.statusReport cfg) = .ok (l'.statusFrame cfg).payload := by
  have hok := encodeStatusReport_eq_ok.mpr
    (⟨hready.fits, rfl⟩ : (l'.statusReport cfg).uri.length ≤ 65535 ∧ _ = _)
  rw [statusFrame, hok]
  rfl

theorem encode_faultReport (hready : Ready cfg l) :
    encodeFaultReport (faultMessage cfg) = .ok (faultFrame cfg).payload := by
  have htext : (ascii "fault_detected").length ≤ 65535 := by decide
  have hok := encodeFaultReport_eq_ok.mpr
    (⟨hready.fits, htext, rfl⟩ : (faultMessage cfg).uri.length ≤ 65535 ∧ _ ∧ _ = _)
  rw [faultFrame, hok]
  rfl

/-- The lamp posts its status. -/
def reported (cfg : LampConfig) (l : Lamp) : Lamp := l.post (l.statusFrame cfg)

theorem sendStatus_eq (hready : Ready cfg l) : l.sendStatus cfg = .ok (l.reported cfg) := by
  simp only [sendStatus, queueEncoded, encode_statusReport hready, hready.queueSend_eq]
  rfl

/-- The lamp holds its fault report back. -/
def hold (cfg : LampConfig) (l : Lamp) : Lamp :=
  { l with pendingFault := true, pendingFaultMsg := faultMessage cfg }

/-- The lamp detects a fault, and posts its report or holds it back. -/
def detected (cfg : LampConfig) (l : Lamp) : Lamp :=
  if l.queue.writing ∨ l.queue.outQ ≠ [] then (l.assign .fault .faultDetected).hold cfg
  else (l.assign .fault .faultDetected).post (faultFrame cfg)

/-- The report of a fault that was just detected. -/
private theorem requestFault_eq (hready : Ready cfg l) :
    (l.assign .fault .faultDetected).requestFault cfg 1 (ascii "fault_detected") =
      .ok (l.detected cfg) := by
  unfold requestFault detected
  by_cases hbusy : l.queue.writing = true ∨ l.queue.outQ ≠ []
  · have hbusy' : (l.assign .fault .faultDetected).queue.writing = true ∨
        (l.assign .fault .faultDetected).queue.outQ ≠ [] := hbusy
    simp only [if_pos hbusy, if_pos hbusy']
    rfl
  · have hidle' : ¬((l.assign .fault .faultDetected).queue.writing = true ∨
        (l.assign .fault .faultDetected).queue.outQ ≠ []) := hbusy
    have hencode : encodeFaultReport ⟨cfg.uri, cfg.zone, 1, ascii "fault_detected"⟩ =
        .ok (faultFrame cfg).payload := encode_faultReport hready
    simp only [if_neg hbusy, if_neg hidle', queueEncoded, hencode, hready.assign.queueSend_eq]
    rfl

/-- The draw makes a lamp that is on or off detect a fault. -/
def simulated (cfg : LampConfig) (l : Lamp) (draw : Fin 1000) : Lamp :=
  if (draw.val : ℤ) < cfg.faultProbPerMille ∧ (l.state = .on ∨ l.state = .off) then
    l.detected cfg
  else l

theorem maybeSimulateFault_eq (hready : Ready cfg l) (draw : Fin 1000) :
    l.maybeSimulateFault cfg draw = .ok (l.simulated cfg draw) := by
  unfold maybeSimulateFault simulated
  by_cases hdraw : (draw.val : ℤ) < cfg.faultProbPerMille
  · have hprob : ¬cfg.faultProbPerMille ≤ 0 := by omega
    by_cases hstate : l.state = .on ∨ l.state = .off
    · have hedge : (l.state, LampState.fault) ∈ transitions := by
        rcases hstate with h | h <;> rw [h] <;> decide
      have hnot : ¬(l.state ≠ .on ∧ l.state ≠ .off) := by tauto
      rw [if_neg hprob, if_neg hnot, if_pos hdraw, if_pos ⟨hdraw, hstate⟩,
        switchToState_of_mem hedge]
      exact requestFault_eq hready
    · have hnot : l.state ≠ .on ∧ l.state ≠ .off := by tauto
      rw [if_neg hprob, if_pos hnot, if_neg fun h => hstate h.2]
  · simp only [hdraw, false_and, if_false, ite_self]

/-! ## Commands -/

/-- A command that the lamp obeys, without the reports that follow. -/
def switched (l : Lamp) (c : Command) : Lamp :=
  if c.cmd = 1 then
    (l.assign .on .switchOn).setIntensity (if l.intensity < 30 then 30 else l.intensity)
  else if c.cmd = 2 then (l.assign .off .switchOff).setIntensity 0
  else if c.value = 0 ∧ l.state = .on then
    (l.setIntensity c.value).assign .off .setIntensityOff
  else if c.value > 0 ∧ l.state = .off then
    (l.setIntensity c.value).assign .on .setIntensityOn
  else l.setIntensity c.value

/-- A lamp obeys a switch command in the opposite state, and an intensity while
it is on or off. -/
def Obeys (l : Lamp) (c : Command) : Prop :=
  c.cmd = 1 ∧ l.state = .off ∨ c.cmd = 2 ∧ l.state = .on ∨
    c.cmd = 3 ∧ (l.state = .on ∨ l.state = .off)

instance (l : Lamp) (c : Command) : Decidable (l.Obeys c) := inferInstanceAs (Decidable (_ ∨ _))

/-- The lamp after a command. An intensity is kept even if the lamp does not obey. -/
def commanded (cfg : LampConfig) (l : Lamp) (c : Command) (draw : Fin 1000) : Lamp :=
  if l.Obeys c then
    if c.cmd = 2 then (l.switched c).reported cfg
    else ((l.switched c).reported cfg).simulated cfg draw
  else if c.cmd = 3 then l.setIntensity c.value
  else l

theorem Ready.reported (hready : Ready cfg l) : Ready cfg (l.reported cfg) :=
  hready.post _

theorem Ready.switched (hready : Ready cfg l) (c : Command) : Ready cfg (l.switched c) := by
  unfold Lamp.switched
  split
  · exact hready.assign.setIntensity _
  split
  · exact hready.assign.setIntensity _
  split
  · exact (hready.setIntensity _).assign
  split
  · exact (hready.setIntensity _).assign
  · exact hready.setIntensity _

/-- The status and the simulated fault that follow a command. -/
private theorem sendStatus_simulate (hready : Ready cfg l) (draw : Fin 1000) :
    (l.sendStatus cfg >>= fun l => l.maybeSimulateFault cfg draw) =
      .ok ((l.reported cfg).simulated cfg draw) := by
  rw [sendStatus_eq hready]
  exact maybeSimulateFault_eq hready.reported draw

/-- SWITCH_ON. -/
private theorem command_switchOn (hready : Ready cfg l) {c : Command} (hcmd : c.cmd = 1)
    (draw : Fin 1000) : l.command cfg c draw = .ok (l.commanded cfg c draw) := by
  have hnext := sendStatus_simulate (hready.switched c) draw
  unfold command commanded Obeys
  by_cases hoff : l.state = .off
  · have hedge : (l.state, LampState.on) ∈ transitions := by
      rw [hoff]
      decide
    rw [switched, if_pos hcmd] at *
    simp only [hcmd, hoff, switchToState_of_mem hedge, if_true]
    exact hnext
  · simp [hcmd, hoff]

/-- SWITCH_OFF. -/
private theorem command_switchOff (hready : Ready cfg l) {c : Command} (hcmd : c.cmd = 2)
    (draw : Fin 1000) : l.command cfg c draw = .ok (l.commanded cfg c draw) := by
  have hsend := sendStatus_eq (hready.switched c)
  unfold command commanded Obeys
  by_cases hon : l.state = .on
  · have hedge : (l.state, LampState.off) ∈ transitions := by
      rw [hon]
      decide
    have h1 : ¬(2 : UInt8) = 1 := by decide
    simp only [switched, hcmd, h1, if_true, if_false] at hsend ⊢
    simp only [hon, switchToState_of_mem hedge, if_true]
    simpa using hsend
  · simp [hcmd, hon]

/-- The change of state by SET_INTENSITY. -/
private theorem switched_setIntensity {c : Command} (hcmd : c.cmd = 3) :
    l.switched c =
      (if (l.setIntensity c.value).intensity = 0 ∧ (l.setIntensity c.value).state = .on then
        ((l.setIntensity c.value).switchToState .off .setIntensityOff).2
      else if (l.setIntensity c.value).intensity > 0 ∧ (l.setIntensity c.value).state = .off then
        ((l.setIntensity c.value).switchToState .on .setIntensityOn).2
      else l.setIntensity c.value) ∧
    ((l.switched c).state = .on ∨ (l.switched c).state = .off ↔
      l.state = .on ∨ l.state = .off) := by
  have h1 : c.cmd ≠ 1 := by
    rw [hcmd]
    decide
  have h2 : c.cmd ≠ 2 := by
    rw [hcmd]
    decide
  simp only [switched, if_neg h1, if_neg h2, setIntensity_state, setIntensity_intensity]
  by_cases hoff : c.value = 0 ∧ l.state = .on
  · have hedge : ((l.setIntensity 0).state, LampState.off) ∈ transitions := by
      rw [setIntensity_state, hoff.2]
      decide
    simp [switchToState_of_mem hedge, hoff.1, hoff.2]
  by_cases hon : c.value > 0 ∧ l.state = .off
  · have hedge : ((l.setIntensity c.value).state, LampState.on) ∈ transitions := by
      rw [setIntensity_state, hon.2]
      decide
    have hpos : 0 < c.value := hon.1
    simp [switchToState_of_mem hedge, hpos, hon.2]
  · simp only [hoff, hon, if_false, setIntensity_state, and_self]

/-- SET_INTENSITY. -/
private theorem command_setIntensity (hready : Ready cfg l) {c : Command} (hcmd : c.cmd = 3)
    (draw : Fin 1000) : l.command cfg c draw = .ok (l.commanded cfg c draw) := by
  have hnext := sendStatus_simulate (hready.switched c) draw
  obtain ⟨hswitched, hstate⟩ := switched_setIntensity (l := l) hcmd
  have h1 : ¬(3 : UInt8) = 1 := by decide
  have h2 : ¬(3 : UInt8) = 2 := by decide
  unfold command commanded Obeys
  simp only [hcmd, h1, h2, if_false, if_true, false_and, true_and, false_or, ← hswitched, hstate]
  split
  · exact hnext
  · next hnot =>
    simp only [not_or] at hnot
    simp [switched, hcmd, h1, h2, hnot]

/-- Other commands are ignored. -/
private theorem command_other {c : Command} (h1 : c.cmd ≠ 1) (h2 : c.cmd ≠ 2) (h3 : c.cmd ≠ 3)
    (draw : Fin 1000) : l.command cfg c draw = .ok (l.commanded cfg c draw) := by
  simp [command, commanded, Obeys, h1, h2, h3]

theorem command_eq (hready : Ready cfg l) (c : Command) (draw : Fin 1000) :
    l.command cfg c draw = .ok (l.commanded cfg c draw) := by
  by_cases h1 : c.cmd = 1
  · exact command_switchOn hready h1 draw
  by_cases h2 : c.cmd = 2
  · exact command_switchOff hready h2 draw
  by_cases h3 : c.cmd = 3
  · exact command_setIntensity hready h3 draw
  · exact command_other h1 h2 h3 draw

end Lamp

end SmartLighting
