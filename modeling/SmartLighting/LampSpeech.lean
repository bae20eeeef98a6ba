import SmartLighting.LampSound
import SmartLighting.Messages

/-!
# What a lamp says

Whatever frames reach a lamp, it sends three kinds of messages only, all of them about itself: its
registration, its status and the simulated fault.
-/

namespace SmartLighting

open StateMachine Transition

namespace Lamp

variable {cfg : LampConfig} {l m t : Lamp} {e : Event}

/-- The messages of a lamp. -/
inductive Says (cfg : LampConfig) : DeviceMessage → Prop
  /-- It asks for its registration. -/
  | register : Says cfg (.register ⟨.luminaire, cfg.uri, cfg.zone⟩)
  /-- It reports the status that it has at some time. -/
  | status (l : Lamp) : Says cfg (.status (l.statusReport cfg))
  /-- It reports its fault. -/
  | fault : Says cfg (.fault (faultMessage cfg))

/-- A frame holds one of these messages. -/
def Speaks (cfg : LampConfig) (frame : OutMsg) : Prop :=
  ∃ msg, Says cfg msg ∧ msg.encode = .ok frame

/-- The receiver of such a frame finds the message. -/
theorem Speaks.ofBody {frame : OutMsg} (h : Speaks cfg frame) :
    ∃ msg, Says cfg msg ∧ DeviceMessage.ofBody frame.body = some msg := by
  obtain ⟨msg, hsaid, hencode⟩ := h
  exact ⟨msg, hsaid, DeviceMessage.ofBody_encode hencode⟩

theorem speaks_registerFrame (hfits : cfg.uri.length ≤ 65535) :
    Speaks cfg (registerFrame cfg) := by
  obtain ⟨payload, hpayload⟩ :
      ∃ payload, encodeRegisterReq ⟨.luminaire, cfg.uri, cfg.zone⟩ = .ok payload :=
    ⟨_, encodeRegisterReq_eq_ok.mpr ⟨hfits, rfl⟩⟩
  refine ⟨_, .register, ?_⟩
  rw [DeviceMessage.encode, registerFrame, hpayload]
  rfl

theorem speaks_statusFrame (hready : Ready cfg l) (l' : Lamp) :
    Speaks cfg (l'.statusFrame cfg) := by
  refine ⟨_, .status l', ?_⟩
  rw [DeviceMessage.encode, encode_statusReport hready]
  rfl

theorem speaks_faultFrame (hready : Ready cfg l) : Speaks cfg (faultFrame cfg) := by
  refine ⟨_, .fault, ?_⟩
  rw [DeviceMessage.encode, encode_faultReport hready]
  rfl

/-- From `l` to `t` the lamp sent nothing but its messages. -/
def Adds (cfg : LampConfig) (l t : Lamp) : Prop :=
  ∀ frame ∈ t.queue.sent, frame ∈ l.queue.sent ∨ Speaks cfg frame

namespace Adds

/-- A lamp whose queue stays says nothing. -/
theorem of_eq (h : t.queue = l.queue) : Adds cfg l t := by
  intro frame hframe
  rw [h] at hframe
  exact Or.inl hframe

theorem trans (h : Adds cfg l m) (h' : Adds cfg m t) : Adds cfg l t := by
  intro frame hframe
  rcases h' frame hframe with hold | hnew
  · exact h frame hold
  · exact Or.inr hnew

/-- A message was posted. -/
theorem post {frame : OutMsg} (hspeaks : Speaks cfg frame) : Adds cfg l (l.post frame) := by
  intro frame' hframe
  have hsent : (l.post frame).queue.sent = l.queue.sent ++ [frame] := SendQueue.sent_post frame
  rw [hsent, List.mem_append, List.mem_singleton] at hframe
  rcases hframe with hold | rfl
  · exact Or.inl hold
  · exact Or.inr hspeaks

/-- What was sent stays the same. -/
theorem of_sent (h : t.queue.sent = l.queue.sent) : Adds cfg l t := by
  intro frame hframe
  rw [h] at hframe
  exact Or.inl hframe

/-- Giving up a connection drops frames. -/
theorem scheduleReconnect (l : Lamp) : Adds cfg l l.scheduleReconnect := by
  intro frame hframe
  rw [scheduleReconnect_queue] at hframe
  refine Or.inl ?_
  simp only [SendQueue.sent, SendQueue.reset, List.nil_append, List.mem_append] at hframe ⊢
  tauto

theorem scheduleHeartbeat (l : Lamp) : Adds cfg l (l.scheduleHeartbeat cfg) :=
  of_eq scheduleHeartbeat_queue

theorem reported (hready : Ready cfg l) : Adds cfg l (l.reported cfg) :=
  post (speaks_statusFrame hready l)

theorem switched (l : Lamp) (c : Command) : Adds cfg l (l.switched c) := by
  refine of_eq ?_
  rw [switched_eq]

/-- A detected fault is reported or held back. -/
theorem detected (hready : Ready cfg l) : Adds cfg l (l.detected cfg) := by
  unfold Lamp.detected
  split
  · exact of_eq rfl
  · exact post (l := l.assign .fault .faultDetected) (speaks_faultFrame hready)

/-- A frame makes a lamp say nothing else. -/
theorem reaction (hready : Ready cfg l) {body : Bytes} {draw : Fin 1000}
    (h : Reaction cfg l body draw t) : Adds cfg l t := by
  cases h with
  | acked htype hstate =>
    have hready' : Ready cfg ((l.assign .off .registerAck).setIntensity 0) :=
      hready.assign.setIntensity 0
    have hreported : Adds cfg l (((l.assign .off .registerAck).setIntensity 0).reported cfg) :=
      trans (m := (l.assign .off .registerAck).setIntensity 0) (of_eq rfl) (reported hready')
    exact hreported.trans (scheduleHeartbeat _)
  | nacked htype =>
    unfold nacked
    split
    · exact trans (m := l.assign .unregistered .registerNack) (of_eq rfl) (scheduleReconnect _)
    · exact scheduleReconnect l
  | obeyed c hc hobeys hquiet => exact (switched l c).trans (reported (hready.switched c))
  | faulted c hc hobeys hcmd hdraw =>
    exact ((switched l c).trans (reported (hready.switched c))).trans
      (detected (hready.switched c).reported)
  | kept v hack hnack hobeys hv => exact of_eq rfl

/-- At the end of a handshake a lamp asks for its registration. -/
theorem connectedUp (l : Lamp) : Adds cfg l (l.connectedUp cfg) := by
  unfold Lamp.connectedUp
  by_cases hfits : cfg.uri.length ≤ 65535
  · have hpost : ∀ l' : Lamp, l'.queue = l.queue → Adds cfg l (l'.post (registerFrame cfg)) :=
      fun l' hqueue => trans (of_eq hqueue) (post (speaks_registerFrame hfits))
    dsimp only
    rw [if_pos hfits]
    split <;> split
    · exact of_eq rfl
    · exact hpost _ rfl
    · exact of_eq rfl
    · exact hpost _ rfl
  · dsimp only
    rw [if_neg hfits]
    split <;> split <;> exact of_eq rfl

/-- After a write the lamp sends at most the report that it held back. -/
theorem written (hready : l.pendingFault = true → Ready cfg l) {q : SendQueue}
    (hq : q.sent = l.queue.sent) (ok : Bool) : Adds cfg l (l.written cfg q ok) := by
  have hqueue : Adds cfg l (l.setQueue q) := of_sent hq
  cases ok with
  | false => exact hqueue.trans (scheduleReconnect _)
  | true =>
    cases hpending : l.pendingFault with
    | true =>
      rw [written_of_pending hpending]
      have hposted : Adds cfg (l.setQueue q)
          ({ l.setQueue q with pendingFault := false }.post (faultFrame cfg)) :=
        trans (m := { l.setQueue q with pendingFault := false }) (of_eq rfl)
          (post (speaks_faultFrame (hready hpending)))
      exact (hqueue.trans hposted).trans (of_sent SendQueue.sent_doWrite)
    | false =>
      rw [written_of_clear hpending]
      exact of_sent (SendQueue.sent_doWrite.trans hq)

/-- **Step lemma.** No handler makes a lamp say anything else. -/
theorem step (hsound : Sound cfg l) (h : step cfg l e = some t) : Adds cfg l t := by
  obtain ⟨halive, hpending, rfl⟩ := step_eq hsound h
  cases e with
  | resolved ok =>
    cases ok with
    | true => exact of_eq rfl
    | false =>
      exact trans (m := { l with resolves := l.resolves - 1 }) (of_eq rfl) (scheduleReconnect _)
  | connected ok =>
    cases ok with
    | true => exact of_eq rfl
    | false =>
      exact trans (m := { l with connects := l.connects - 1 }) (of_eq rfl) (scheduleReconnect _)
  | handshaken ok =>
    have hwaits : Adds cfg l { l with handshakes := l.handshakes - 1 } := of_eq rfl
    cases ok with
    | true => exact hwaits.trans (connectedUp _)
    | false => exact hwaits.trans (scheduleReconnect _)
  | posted =>
    obtain ⟨q, hq⟩ := hpending
    simp only [after, hq]
    exact of_sent (SendQueue.sent_runPosted hq)
  | writeDone i ok =>
    obtain ⟨q, hq⟩ := hpending
    simp only [after, hq]
    exact written (fun h => hsound.ready halive (Or.inr (Or.inr h))) (SendQueue.sent_complete hq) ok
  | readFailed =>
    exact trans (m := { l with reads := l.reads - 1 }) (of_eq rfl) (scheduleReconnect _)
  | frame body draw =>
    have hready := hsound.ready halive (Or.inl hpending.1)
    have hreads : Adds cfg l { l with reads := l.reads - 1 } := of_eq rfl
    have hreceived : Adds cfg { l with reads := l.reads - 1 }
        ({ l with reads := l.reads - 1 }.received cfg body draw) :=
      reaction ⟨hready.sock, hready.fits⟩ (received_reaction cfg _ body draw)
    exact (hreads.trans hreceived).trans (of_eq rfl)
  | registerTimer cancelled =>
    cases cancelled with
    | true => exact of_eq rfl
    | false =>
      simp only [after, Bool.false_eq_true, if_false]
      split
      · exact trans (m := { l with registerWaits := l.registerWaits - 1 }.assign .unregistered
          .timeout) (of_eq rfl) (scheduleReconnect _)
      · exact of_eq rfl
  | reconnectTimer cancelled =>
    cases cancelled with
    | true => exact of_eq rfl
    | false => exact of_eq rfl
  | heartbeatTimer cancelled =>
    have hready := hsound.ready halive (Or.inr (Or.inl hpending))
    cases cancelled with
    | true => exact of_eq rfl
    | false =>
      simp only [after, Bool.false_eq_true, if_false]
      have hwaits : Adds cfg l { l with heartbeatWaits := l.heartbeatWaits - 1 } := of_eq rfl
      split
      · exact (hwaits.trans (reported ⟨hready.sock, hready.fits⟩)).trans (scheduleHeartbeat _)
      · exact hwaits.trans (scheduleHeartbeat _)
  | resetTimer =>
    simp only [after]
    split
    · exact trans (m := ({ l with resetWaits := l.resetWaits - 1 }.assign .idle .manualReset).assign
        .unregistered .bootDone) (of_eq rfl) (scheduleReconnect _)
    · exact of_eq rfl
  | stopTimer => exact of_eq rfl

end Adds

/-- What holds of everything that a lamp has sent. -/
structure Truthful (cfg : LampConfig) (l : Lamp) : Prop where
  /-- It is sound. -/
  sound : Sound cfg l
  /-- Every frame holds one of its messages. -/
  sent : ∀ frame ∈ l.queue.sent, Speaks cfg frame

theorem truthful_start (cfg : LampConfig) : Truthful cfg (start cfg) :=
  ⟨.start, fun _ hframe => absurd hframe List.not_mem_nil⟩

theorem Truthful.step (h : Truthful cfg l) (hstep : Lamp.step cfg l e = some t) :
    Truthful cfg t := by
  refine ⟨h.sound.step hstep, fun frame hframe => ?_⟩
  rcases Adds.step h.sound hstep frame hframe with hold | hnew
  · exact h.sent frame hold
  · exact hnew

/-- What was written was sent. -/
theorem Truthful.written (h : Truthful cfg l) {n : ℕ} {frame : OutMsg}
    (hframe : l.queue.written[n]? = some frame) : Speaks cfg frame :=
  h.sent frame (List.mem_append_left _ (List.mem_of_getElem? hframe))

end Lamp

end SmartLighting
