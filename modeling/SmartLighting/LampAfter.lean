import SmartLighting.LampFrames

/-!
# The lamp after each event

`after` gives the lamp that the handler of an event leaves, for every event. It
rests on a few facts that hold between any two handlers: the lamp has a socket,
and one whose name does not fit a message never gets past its registration.
-/

namespace SmartLighting

open StateMachine Transition

namespace Lamp

variable {cfg : LampConfig} {l t : Lamp} {e : Event}

/-- The frame of the registration. -/
def registerFrame (cfg : LampConfig) : OutMsg :=
  ⟨.registerReq, (encodeRegisterReq ⟨.luminaire, cfg.uri, cfg.zone⟩).toOption.getD []⟩

/-- The lamp at the end of a handshake. A name that does not fit ends the process. -/
def connectedUp (cfg : LampConfig) (l : Lamp) : Lamp :=
  let l := if l.state ≠ .unregistered ∧ l.state ≠ .registering then
    l.assign .unregistered .registerAgain else l
  if l.state = .registering then { l with reads := l.reads + 1 }
  else
    let l := l.assign .registering .registerReq
    if cfg.uri.length ≤ 65535 then
      let l := l.post (registerFrame cfg)
      { l with registerWaits := l.registerWaits + 1, reads := l.reads + 1 }
    else { l with stopped := true }

/-- An unregistered lamp asks for its registration. -/
theorem connectedUp_of_unregistered (hstate : l.state = .unregistered) :
    l.connectedUp cfg =
      if cfg.uri.length ≤ 65535 then
        { (l.assign .registering .registerReq).post (registerFrame cfg) with
          registerWaits := l.registerWaits + 1, reads := l.reads + 1 }
      else { l.assign .registering .registerReq with stopped := true } := by
  have hkept : ¬(l.state ≠ .unregistered ∧ l.state ≠ .registering) := fun h => h.1 hstate
  have hother : ¬l.state = .registering := by
    rw [hstate]
    decide
  unfold connectedUp
  dsimp only
  rw [if_neg hkept, if_neg hother]
  rfl

/-- The end of a handshake, as far as the state goes. -/
theorem connectedUp_fsm : (l.connectedUp cfg).fsm =
    if l.state = .registering then l.fsm
    else if l.state = .unregistered then (l.assign .registering .registerReq).fsm
    else ((l.assign .unregistered .registerAgain).assign .registering .registerReq).fsm := by
  unfold connectedUp
  dsimp only
  cases hstate : l.state <;> simp [hstate] <;> split <;> rfl

/-- The lamp sent the report that it had held back. -/
def flushed (cfg : LampConfig) (l : Lamp) : Lamp :=
  if l.pendingFault then { l with pendingFault := false }.post (faultFrame cfg) else l

/-- The lamp after a write, whose queue is `q` before the next write starts. -/
def written (cfg : LampConfig) (l : Lamp) (q : SendQueue) (ok : Bool) : Lamp :=
  if ok then
    let l := (l.setQueue q).flushed cfg
    l.setQueue l.queue.doWrite
  else (l.setQueue q).scheduleReconnect

/-- After a write, a report that was held back is sent. -/
theorem written_of_pending (hpending : l.pendingFault = true) (q : SendQueue) :
    l.written cfg q true =
      let l := { l.setQueue q with pendingFault := false }.post (faultFrame cfg)
      l.setQueue l.queue.doWrite := by
  have hflushed : (l.setQueue q).flushed cfg =
      { l.setQueue q with pendingFault := false }.post (faultFrame cfg) := if_pos hpending
  simp only [written, if_true, hflushed]

/-- After a write, a lamp that holds no report back only starts the next write. -/
theorem written_of_clear (hclear : l.pendingFault = false) (q : SendQueue) :
    l.written cfg q true = l.setQueue q.doWrite := by
  have hflushed : (l.setQueue q).flushed cfg = l.setQueue q := by
    refine if_neg ?_
    rw [setQueue_pendingFault, hclear]
    decide
  simp only [written, if_true, hflushed]
  rfl

/-- A write changes nothing but the queue and the report that was held back. -/
theorem written_eq (q : SendQueue) :
    l.written cfg q true =
      { l with queue := (l.written cfg q true).queue, pendingFault := false } := by
  cases hpending : l.pendingFault with
  | true =>
    rw [written_of_pending hpending]
    rfl
  | false =>
    rw [written_of_clear hpending, ← hpending]
    rfl

theorem written_fsm (q : SendQueue) : (l.written cfg q true).fsm = l.fsm :=
  (congrArg Lamp.fsm (written_eq q) :)

theorem written_intensity (q : SendQueue) : (l.written cfg q true).intensity = l.intensity :=
  (congrArg Lamp.intensity (written_eq q) :)

theorem written_handshakes (q : SendQueue) :
    (l.written cfg q true).handshakes = l.handshakes :=
  (congrArg Lamp.handshakes (written_eq q) :)

/-- The lamp after an event. -/
def after (cfg : LampConfig) (l : Lamp) : Event → Lamp
  | .resolved ok =>
    let l := { l with resolves := l.resolves - 1 }
    if ok then { l with connects := l.connects + 1 } else l.scheduleReconnect
  | .connected ok =>
    let l := { l with connects := l.connects - 1 }
    if ok then { l with handshakes := l.handshakes + 1 } else l.scheduleReconnect
  | .handshaken ok =>
    let l := { l with handshakes := l.handshakes - 1 }
    if ok then l.connectedUp cfg else l.scheduleReconnect
  | .posted =>
    match l.queue.runPosted with
    | some q => l.setQueue q
    | none => l
  | .writeDone i ok =>
    match l.queue.complete i ok with
    | some q => l.written cfg q ok
    | none => l
  | .readFailed => { l with reads := l.reads - 1 }.scheduleReconnect
  | .frame body draw =>
    let l := { l with reads := l.reads - 1 }.received cfg body draw
    { l with reads := l.reads + 1 }
  | .registerTimer cancelled =>
    let l := { l with registerWaits := l.registerWaits - 1 }
    if cancelled then l
    else if l.state = .registering then (l.assign .unregistered .timeout).scheduleReconnect
    else l
  | .reconnectTimer cancelled =>
    let l := { l with reconnectWaits := l.reconnectWaits - 1 }
    if cancelled then l else l.doConnect
  | .heartbeatTimer cancelled =>
    let l := { l with heartbeatWaits := l.heartbeatWaits - 1 }
    if cancelled then l
    else
      (if l.state = .on ∨ l.state = .off ∨ l.state = .fault then l.reported cfg
        else l).scheduleHeartbeat cfg
  | .resetTimer =>
    let l := { l with resetWaits := l.resetWaits - 1 }
    if l.state = .fault then
      ((l.assign .idle .manualReset).assign .unregistered .bootDone).scheduleReconnect
    else l
  | .stopTimer => { l with stopWaits := l.stopWaits - 1, stopped := true }

/-- The operation that an event completes is pending. -/
def Pending (l : Lamp) : Event → Prop
  | .resolved _ => l.resolves ≠ 0
  | .connected _ => l.connects ≠ 0
  | .handshaken _ => l.handshakes ≠ 0
  | .posted => ∃ q, l.queue.runPosted = some q
  | .writeDone i ok => ∃ q, l.queue.complete i ok = some q
  | .readFailed => l.reads ≠ 0
  | .frame body _ => l.reads ≠ 0 ∧ 1 ≤ body.length ∧ body.length ≤ 1024 * 1024
  | .registerTimer _ => l.registerWaits ≠ 0
  | .reconnectTimer _ => l.reconnectWaits ≠ 0
  | .heartbeatTimer _ => l.heartbeatWaits ≠ 0
  | .resetTimer => l.resetWaits ≠ 0
  | .stopTimer => l.stopWaits ≠ 0

/-- What holds of a lamp between two handlers. -/
structure Sound (cfg : LampConfig) (l : Lamp) : Prop where
  /-- `sock_` is set. -/
  sock : l.hasSock = true
  /-- IDLE is passed through within a handler. -/
  idle : l.state ≠ .idle
  /-- A report is held back only for the simulated fault. -/
  held : l.pendingFault = true → l.pendingFaultMsg = faultMessage cfg
  /-- A lamp whose name does not fit stays unregistered, or has ended. -/
  fits : l.stopped = false → 65535 < cfg.uri.length → l.state = .unregistered ∧ l.reads = 0 ∧
    l.heartbeatWaits = 0 ∧ l.pendingFault = false

theorem Sound.start : Sound cfg (start cfg) := by
  refine ⟨rfl, ?_, nofun, fun _ _ => ⟨rfl, rfl, rfl, rfl⟩⟩
  have hstate : (Lamp.start cfg).state = .unregistered := rfl
  rw [hstate]
  nofun

/-- A lamp that reads frames can send. -/
theorem Sound.ready (hsound : Sound cfg l) (halive : l.stopped = false)
    (hpast : l.reads ≠ 0 ∨ l.heartbeatWaits ≠ 0 ∨ l.pendingFault = true) : Ready cfg l := by
  refine ⟨hsound.sock, ?_⟩
  by_contra hlong
  obtain ⟨-, hreads, hheartbeat, hpending⟩ := hsound.fits halive (by omega)
  rcases hpast with h | h | h
  · exact h hreads
  · exact h hheartbeat
  · rw [hpending] at h
    cases h

/-- Posting the registration, or ending the process. -/
private theorem queueEncoded_register (hsock : l.hasSock = true) :
    l.queueEncoded .registerReq (encodeRegisterReq ⟨.luminaire, cfg.uri, cfg.zone⟩) =
      if cfg.uri.length ≤ 65535 then .ok (l.post (registerFrame cfg)) else .error l := by
  unfold queueEncoded registerFrame
  split
  · next payload hpayload =>
    have hfits : cfg.uri.length ≤ 65535 := (encodeRegisterReq_eq_ok.mp hpayload).1
    rw [if_pos hfits, hpayload]
    exact congrArg Except.ok ((⟨hsock, hfits⟩ : Ready cfg l).queueSend_eq _ _)
  · next message hlong =>
    have hlong' : ¬cfg.uri.length ≤ 65535 := by
      intro hfits
      rw [encodeRegisterReq_eq_ok.mpr ⟨hfits, rfl⟩] at hlong
      cases hlong
    rw [if_neg hlong']

/-- The end of a handshake. -/
private theorem finish_sendRegister (hsock : l.hasSock = true) :
    finish (do
      let l ← l.sendRegister cfg
      return { l with reads := l.reads + 1 }) = l.connectedUp cfg := by
  unfold sendRegister connectedUp
  dsimp only
  by_cases hregistering : l.state = .registering
  · have hrefused : (l.state, LampState.registering) ∉ transitions := by
      rw [hregistering]
      decide
    have hno : ¬(l.state ≠ .unregistered ∧ l.state ≠ .registering) := fun h => h.2 hregistering
    simp only [if_neg hno, switchToState_of_not_mem hrefused, if_true, if_pos hregistering]
    rfl
  · -- In every other state the lamp is unregistered when it asks for its registration.
    generalize hl : (if l.state ≠ .unregistered ∧ l.state ≠ .registering then
      l.assign .unregistered .registerAgain else l) = m
    have hstate : m.state = .unregistered := by
      rw [← hl]
      split
      · rfl
      · next hkept =>
        by_contra hne
        exact hkept ⟨hne, hregistering⟩
    have hsock' : (m.assign .registering .registerReq).hasSock = true := by
      rw [← hl]
      split <;> exact hsock
    have hedge : (m.state, LampState.registering) ∈ transitions := by
      rw [hstate]
      decide
    have hother : ¬m.state = .registering := by
      rw [hstate]
      decide
    rw [switchToState_of_mem hedge, if_neg hother]
    simp only [Bool.true_eq_false, if_false, queueEncoded_register hsock']
    by_cases hfits : cfg.uri.length ≤ 65535
    · rw [if_pos hfits, if_pos hfits]
      rfl
    · rw [if_neg hfits, if_neg hfits]
      rfl

/-- Sending the simulated fault's report. -/
private theorem queueEncoded_fault (hready : Ready cfg l)
    (hheld : l.pendingFaultMsg = faultMessage cfg) :
    l.queueEncoded .faultReport (encodeFaultReport l.pendingFaultMsg) =
      .ok (l.post (faultFrame cfg)) := by
  rw [hheld]
  simp only [queueEncoded, encode_faultReport hready]
  exact congrArg Except.ok (hready.queueSend_eq _ _)

/-- Sending the report that was held back. -/
private theorem sendPending_eq (hready : l.pendingFault = true → Ready cfg l)
    (hheld : l.pendingFault = true → l.pendingFaultMsg = faultMessage cfg) :
    l.sendPending = .ok (l.flushed cfg) := by
  unfold sendPending flushed
  split
  · next hpending =>
    have hready' : Ready cfg { l with pendingFault := false } :=
      ⟨(hready hpending).sock, (hready hpending).fits⟩
    exact queueEncoded_fault hready' (hheld hpending)
  · rfl

/-- The completion of a write. -/
private theorem writeDone_eq (hsound : Sound cfg l) (halive : l.stopped = false) {i : ℕ}
    {ok : Bool} : (l.writeDone i ok).map finish =
      (l.queue.complete i ok).map fun q => l.written cfg q ok := by
  unfold writeDone
  rw [Option.map_map]
  refine congrArg (Option.map · _) (funext fun q => ?_)
  cases ok with
  | false => rfl
  | true =>
    have hready : l.pendingFault = true → Ready cfg (l.setQueue q) := fun hpending =>
      ⟨hsound.sock, (hsound.ready halive (Or.inr (Or.inr hpending))).fits⟩
    have heq : (l.setQueue q).sendPending = .ok ((l.setQueue q).flushed cfg) :=
      sendPending_eq hready hsound.held
    simp only [Function.comp_apply, heq, Bool.true_eq_false, if_false]
    rfl

/-- The registration times out. -/
private theorem registerTimeout_eq : l.registerTimeout =
    if l.state = .registering then (l.assign .unregistered .timeout).scheduleReconnect else l := by
  unfold registerTimeout
  by_cases hregistering : l.state = .registering
  · have hedge : (l.state, LampState.unregistered) ∈ transitions := by
      rw [hregistering]
      decide
    rw [if_pos hregistering, if_pos hregistering, switchToState_of_mem hedge]
  · rw [if_neg hregistering, if_neg hregistering]

/-- A reset passes through IDLE. -/
private theorem manualReset_eq : l.manualReset =
    if l.state = .fault then
      ((l.assign .idle .manualReset).assign .unregistered .bootDone).scheduleReconnect
    else l := by
  unfold manualReset
  by_cases hfault : l.state = .fault
  · have hedge : (l.state, LampState.idle) ∈ transitions := by
      rw [hfault]
      decide
    have hedge' : ((l.assign .idle .manualReset).state, LampState.unregistered) ∈ transitions := by
      rw [assign_state]
      decide
    rw [if_pos hfault, if_pos hfault, switchToState_of_mem hedge]
    simp only [if_true, switchToState_of_mem hedge']
  · rw [if_neg hfault, if_neg hfault]

/-- The heartbeat reports the status of a registered lamp. -/
private theorem heartbeat_eq (hready : Ready cfg l) : l.heartbeat cfg =
    .ok ((if l.state = .on ∨ l.state = .off ∨ l.state = .fault then l.reported cfg
      else l).scheduleHeartbeat cfg) := by
  unfold heartbeat
  split
  · rw [sendStatus_eq hready]
    rfl
  · rfl

/-- The handler of an event leaves what `after` says. -/
private theorem handle_eq (hsound : Sound cfg l) (halive : l.stopped = false)
    {r : Except Lamp Lamp} (h : l.handle cfg e = some r) :
    Pending l e ∧ finish r = l.after cfg e := by
  cases e with
  | resolved ok =>
    obtain ⟨hpending, hr⟩ := Option.ite_none_left_eq_some.mp h
    cases hr
    exact ⟨hpending, rfl⟩
  | connected ok =>
    obtain ⟨hpending, hr⟩ := Option.ite_none_left_eq_some.mp h
    cases hr
    exact ⟨hpending, rfl⟩
  | handshaken ok =>
    obtain ⟨hpending, hr⟩ := Option.ite_none_left_eq_some.mp h
    cases hr
    refine ⟨hpending, ?_⟩
    cases ok with
    | true => exact finish_sendRegister hsound.sock
    | false => rfl
  | posted =>
    obtain ⟨q, hq, rfl⟩ := Option.map_eq_some_iff.mp h
    refine ⟨⟨q, hq⟩, ?_⟩
    simp only [after, hq]
    rfl
  | writeDone i ok =>
    have heq : (l.writeDone i ok).map finish = _ := writeDone_eq hsound halive
    have h' : l.writeDone i ok = some r := h
    rw [h', Option.map_some] at heq
    obtain ⟨q, hq, hwritten⟩ := Option.map_eq_some_iff.mp heq.symm
    refine ⟨⟨q, hq⟩, ?_⟩
    simp only [after, hq, ← hwritten]
  | readFailed =>
    obtain ⟨hpending, hr⟩ := Option.ite_none_left_eq_some.mp h
    cases hr
    exact ⟨hpending, rfl⟩
  | frame body draw =>
    obtain ⟨hpending, hr⟩ := Option.ite_none_left_eq_some.mp h
    cases hr
    simp only [not_or, not_lt] at hpending
    refine ⟨hpending, ?_⟩
    have hready := hsound.ready halive (Or.inl hpending.1)
    have hready' : Ready cfg { l with reads := l.reads - 1 } := ⟨hready.sock, hready.fits⟩
    simp only [onMessage_eq hready' hsound.idle body draw]
    rfl
  | registerTimer cancelled =>
    obtain ⟨hpending, hr⟩ := Option.ite_none_left_eq_some.mp h
    cases hr
    refine ⟨hpending, ?_⟩
    cases cancelled with
    | true => rfl
    | false => exact registerTimeout_eq
  | reconnectTimer cancelled =>
    obtain ⟨hpending, hr⟩ := Option.ite_none_left_eq_some.mp h
    cases hr
    refine ⟨hpending, ?_⟩
    cases cancelled <;> rfl
  | heartbeatTimer cancelled =>
    obtain ⟨hpending, hr⟩ := Option.ite_none_left_eq_some.mp h
    cases hr
    refine ⟨hpending, ?_⟩
    have hready := hsound.ready halive (Or.inr (Or.inl hpending))
    have hready' : Ready cfg { l with heartbeatWaits := l.heartbeatWaits - 1 } :=
      ⟨hready.sock, hready.fits⟩
    cases cancelled with
    | true => rfl
    | false => exact congrArg finish (heartbeat_eq hready')
  | resetTimer =>
    obtain ⟨hpending, hr⟩ := Option.ite_none_left_eq_some.mp h
    cases hr
    exact ⟨hpending, manualReset_eq⟩
  | stopTimer =>
    obtain ⟨hpending, hr⟩ := Option.ite_none_left_eq_some.mp h
    cases hr
    exact ⟨hpending, rfl⟩

/-- A step completes a pending operation and leaves what `after` says. -/
theorem step_eq (hsound : Sound cfg l) (h : step cfg l e = some t) :
    l.stopped = false ∧ Pending l e ∧ t = l.after cfg e := by
  obtain ⟨hstopped, hsome⟩ := Option.ite_none_left_eq_some.mp h
  have halive : l.stopped = false := by simpa using hstopped
  obtain ⟨r, hhandle, rfl⟩ := Option.map_eq_some_iff.mp hsome
  exact ⟨halive, handle_eq hsound halive hhandle⟩

end Lamp

end SmartLighting
