import SmartLighting.LampAfter

/-!
# What holds of a lamp between two handlers

Every handler keeps the facts of `Sound`, so `step_eq` applies throughout a run.
-/

namespace SmartLighting

open StateMachine Transition

namespace Lamp

variable {cfg : LampConfig} {l t : Lamp} {e : Event}

/-- For a lamp that can send, three facts are left to show. -/
private theorem Ready.sound (hready : Ready cfg l) (hidle : l.state ≠ .idle)
    (hheld : l.pendingFault = true → l.pendingFaultMsg = faultMessage cfg) : Sound cfg l :=
  ⟨hready.sock, hidle, hheld, fun _ hlong => absurd hready.fits (by omega)⟩

/-- No handler leaves such a lamp in IDLE. -/
private theorem Ready.sound_assign (hready : Ready cfg l) {next : LampState} {label : LampLabel}
    (hnext : next ≠ .idle) (hheld : l.pendingFault = true → l.pendingFaultMsg = faultMessage cfg) :
    Sound cfg (l.assign next label) :=
  hready.assign.sound hnext hheld

/-- Giving up the connection keeps what is held back. -/
private theorem Sound.scheduleReconnect (hsound : Sound cfg l) : Sound cfg l.scheduleReconnect := by
  have hstate : l.scheduleReconnect.state = .unregistered := scheduleReconnect_state
  have heq := scheduleReconnect_eq (l := l)
  refine ⟨?_, ?_, ?_, fun halive hlong => ⟨hstate, ?_⟩⟩
  · rw [heq]
    exact hsound.sock
  · rw [hstate]
    decide
  · rw [heq]
    exact hsound.held
  · rw [heq] at halive ⊢
    exact (hsound.fits halive hlong).2

private theorem Sound.scheduleHeartbeat (hready : Ready cfg l) (hsound : Sound cfg l) :
    Sound cfg (l.scheduleHeartbeat cfg) := by
  rw [scheduleHeartbeat_eq]
  exact Ready.sound ⟨hready.sock, hready.fits⟩ hsound.idle hsound.held

private theorem Sound.detected (hready : Ready cfg l) (hsound : Sound cfg l) :
    Sound cfg (l.detected cfg) := by
  unfold Lamp.detected
  split
  · exact Ready.sound ⟨hready.sock, hready.fits⟩ nofun fun _ => rfl
  · exact Ready.sound ⟨hready.sock, hready.fits⟩ nofun hsound.held

private theorem Sound.switched (hready : Ready cfg l) (hsound : Sound cfg l) {c : Command}
    (hobeys : l.Obeys c) : Sound cfg (l.switched c) := by
  refine Ready.sound (hready.switched c) ?_ ?_
  · rcases switched_state hobeys with h | h <;> rw [h] <;> decide
  · rw [switched_eq]
    exact hsound.held

private theorem Sound.reaction (hready : Ready cfg l) (hsound : Sound cfg l) {body : Bytes}
    {draw : Fin 1000} (hreaction : Reaction cfg l body draw t) : Sound cfg t := by
  cases hreaction with
  | acked htype hstate =>
    have hready' : Ready cfg (((l.assign .off .registerAck).setIntensity 0).reported cfg) :=
      (hready.assign.setIntensity 0).reported
    exact Sound.scheduleHeartbeat hready' (Ready.sound hready' nofun hsound.held)
  | nacked htype =>
    unfold nacked
    split
    · exact Sound.scheduleReconnect (hready.sound_assign (by decide) hsound.held)
    · exact hsound.scheduleReconnect
  | obeyed c hc hobeys hquiet =>
    have hswitched := hsound.switched hready hobeys
    exact Ready.sound (hready.switched c).reported hswitched.idle hswitched.held
  | faulted c hc hobeys hcmd hdraw =>
    have hswitched := hsound.switched hready hobeys
    have hready' := (hready.switched c).reported
    exact Sound.detected hready' (Ready.sound hready' hswitched.idle hswitched.held)
  | kept v hack hnack hobeys hv => exact Ready.sound (hready.setIntensity v) hsound.idle hsound.held

/-- The facts do not depend on most operations that are pending. -/
private theorem Sound.of_eq (hsound : Sound cfg l) (halive : l.stopped = false)
    (hfsm : t.fsm = l.fsm) (hpending : t.pendingFault = l.pendingFault)
    (hmsg : t.pendingFaultMsg = l.pendingFaultMsg) (hsock : t.hasSock = l.hasSock)
    (hreads : t.reads ≤ l.reads) (hbeats : t.heartbeatWaits ≤ l.heartbeatWaits) : Sound cfg t := by
  have hstate : t.state = l.state := congrArg Machine.state hfsm
  refine ⟨hsock.trans hsound.sock, hstate ▸ hsound.idle, ?_, fun _ hlong => ?_⟩
  · rw [hpending, hmsg]
    exact hsound.held
  · obtain ⟨hunregistered, hzero, hnone, hclear⟩ := hsound.fits halive hlong
    exact ⟨hstate.trans hunregistered, by omega, by omega, hpending.trans hclear⟩

private theorem Sound.connectedUp (hsound : Sound cfg l) (halive : l.stopped = false) :
    Sound cfg (l.connectedUp cfg) := by
  unfold Lamp.connectedUp
  by_cases hfits : cfg.uri.length ≤ 65535
  · have hready : Ready cfg l := ⟨hsound.sock, hfits⟩
    dsimp only
    split <;> split
    · exact Ready.sound ⟨hready.sock, hready.fits⟩ nofun hsound.held
    · exact Ready.sound ⟨hready.sock, hready.fits⟩ nofun hsound.held
    · exact Ready.sound ⟨hready.sock, hready.fits⟩ hsound.idle hsound.held
    · exact Ready.sound ⟨hready.sock, hready.fits⟩ nofun hsound.held
  · have hunregistered := (hsound.fits halive (by omega)).1
    have hother : ¬(l.state ≠ .unregistered ∧ l.state ≠ .registering) := fun h =>
      h.1 hunregistered
    have hnot : l.state ≠ .registering := by
      rw [hunregistered]
      decide
    simp only [if_neg hother, if_neg hnot, if_neg hfits]
    exact ⟨hsound.sock, nofun, hsound.held, nofun⟩

private theorem Sound.written (hsound : Sound cfg l) (halive : l.stopped = false) (q : SendQueue)
    (ok : Bool) : Sound cfg (l.written cfg q ok) := by
  have hqueue : Sound cfg (l.setQueue q) := ⟨hsound.sock, hsound.idle, hsound.held, hsound.fits⟩
  cases ok with
  | false => exact hqueue.scheduleReconnect
  | true =>
    by_cases hpending : l.pendingFault = true
    · have hready := hsound.ready halive (Or.inr (Or.inr hpending))
      rw [written_of_pending hpending]
      exact Ready.sound ⟨hready.sock, hready.fits⟩ hsound.idle nofun
    · rw [written_of_clear (Bool.eq_false_of_not_eq_true hpending)]
      exact ⟨hsound.sock, hsound.idle, hsound.held, hsound.fits⟩

/-- A timer that acts on a registered lamp finds one that can send. -/
private theorem Sound.ready_of_state (hsound : Sound cfg l) (halive : l.stopped = false)
    (hstate : l.state ≠ .unregistered) : Ready cfg l := by
  refine ⟨hsound.sock, ?_⟩
  by_contra hlong
  exact hstate (hsound.fits halive (by omega)).1

/-- Every handler keeps these facts. -/
theorem Sound.step (hsound : Sound cfg l) (h : step cfg l e = some t) : Sound cfg t := by
  obtain ⟨halive, hpending, rfl⟩ := step_eq hsound h
  cases e with
  | resolved ok =>
    have hwaits : Sound cfg { l with resolves := l.resolves - 1 } :=
      hsound.of_eq halive rfl rfl rfl rfl le_rfl le_rfl
    cases ok with
    | true => exact hsound.of_eq halive rfl rfl rfl rfl le_rfl le_rfl
    | false => exact hwaits.scheduleReconnect
  | connected ok =>
    have hwaits : Sound cfg { l with connects := l.connects - 1 } :=
      hsound.of_eq halive rfl rfl rfl rfl le_rfl le_rfl
    cases ok with
    | true => exact hsound.of_eq halive rfl rfl rfl rfl le_rfl le_rfl
    | false => exact hwaits.scheduleReconnect
  | handshaken ok =>
    have hwaits : Sound cfg { l with handshakes := l.handshakes - 1 } :=
      hsound.of_eq halive rfl rfl rfl rfl le_rfl le_rfl
    cases ok with
    | true => exact hwaits.connectedUp halive
    | false => exact hwaits.scheduleReconnect
  | posted =>
    obtain ⟨q, hq⟩ := hpending
    simp only [after, hq]
    exact hsound.of_eq halive rfl rfl rfl rfl le_rfl le_rfl
  | writeDone i ok =>
    obtain ⟨q, hq⟩ := hpending
    simp only [after, hq]
    exact hsound.written halive q ok
  | readFailed =>
    have hwaits : Sound cfg { l with reads := l.reads - 1 } :=
      hsound.of_eq halive rfl rfl rfl rfl (Nat.sub_le _ _) le_rfl
    exact hwaits.scheduleReconnect
  | frame body draw =>
    have hready := hsound.ready halive (Or.inl hpending.1)
    have hready' : Ready cfg { l with reads := l.reads - 1 } := ⟨hready.sock, hready.fits⟩
    have hwaits : Sound cfg { l with reads := l.reads - 1 } :=
      hsound.of_eq halive rfl rfl rfl rfl (Nat.sub_le _ _) le_rfl
    have hreceived := Sound.reaction hready' hwaits (received_reaction cfg _ body draw)
    exact Ready.sound ⟨hreceived.sock, hready.fits⟩ hreceived.idle hreceived.held
  | registerTimer cancelled =>
    have hwaits : Sound cfg { l with registerWaits := l.registerWaits - 1 } :=
      hsound.of_eq halive rfl rfl rfl rfl le_rfl le_rfl
    cases cancelled with
    | true => exact hwaits
    | false =>
      simp only [after, Bool.false_eq_true, if_false]
      split
      · next hregistering =>
        have hready := hwaits.ready_of_state halive (by rw [hregistering]; decide)
        exact Sound.scheduleReconnect (hready.sound_assign (by decide) hsound.held)
      · exact hwaits
  | reconnectTimer cancelled =>
    cases cancelled with
    | true => exact hsound.of_eq halive rfl rfl rfl rfl le_rfl le_rfl
    | false => exact hsound.of_eq halive rfl rfl rfl hsound.sock.symm le_rfl le_rfl
  | heartbeatTimer cancelled =>
    have hready := hsound.ready halive (Or.inr (Or.inl hpending))
    have hready' : Ready cfg { l with heartbeatWaits := l.heartbeatWaits - 1 } :=
      ⟨hready.sock, hready.fits⟩
    have hwaits : Sound cfg { l with heartbeatWaits := l.heartbeatWaits - 1 } :=
      hsound.of_eq halive rfl rfl rfl rfl le_rfl (Nat.sub_le _ _)
    cases cancelled with
    | true => exact hwaits
    | false =>
      simp only [after, Bool.false_eq_true, if_false]
      split
      · exact Sound.scheduleHeartbeat hready'.reported
          (Ready.sound hready'.reported hsound.idle hsound.held)
      · exact Sound.scheduleHeartbeat hready' hwaits
  | resetTimer =>
    have hwaits : Sound cfg { l with resetWaits := l.resetWaits - 1 } :=
      hsound.of_eq halive rfl rfl rfl rfl le_rfl le_rfl
    simp only [after]
    split
    · next hfault =>
      have hready := hwaits.ready_of_state halive (by rw [hfault]; decide)
      exact Sound.scheduleReconnect (hready.assign.sound_assign (by decide) hsound.held)
    · exact hwaits
  | stopTimer => exact hsound.of_eq halive rfl rfl rfl rfl le_rfl le_rfl

/-! ## A lamp that fails -/

/-- A lamp whose every switching on ends in a fault. -/
def faultyConfig : LampConfig := ⟨ascii "lamp1", 1, 0, 0, 0, 1000⟩

/-- The lamp connects and registers. -/
def registration : List Event :=
  [.resolved true, .connected true, .handshaken true, .posted, .writeDone 0 true,
    .frame [MsgType.registerAck.code] 0]

/-- The lamp is told to switch on. -/
def switchOn : Event :=
  .frame (MsgType.cmd.code :: (encodeCommand ⟨ascii "lamp1", 1, 0⟩).toOption.getD []) 0

end Lamp

end SmartLighting
