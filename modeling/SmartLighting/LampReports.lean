import SmartLighting.LampSound
import SmartLighting.SessionSteps
import SmartLighting.Connection

/-!
# What a lamp reports, and what the region makes of it

A registered lamp changes only together with the messages it sends: whatever it
sends next, the registry will show the lamp correctly once the region has
handled all of it. This is stated here for one handler of the lamp and for one
message at the region.
-/

namespace SmartLighting

open StateMachine Transition

/-- What the registry shows of a lamp. -/
structure Shown where
  /-- The zone. -/
  zoneId : UInt32
  /-- Nonzero when switched on. -/
  on : UInt8
  /-- Light level. -/
  intensity : UInt8
  /-- Power consumption in milliwatts. -/
  powerMw : UInt32
  /-- The latched fault. -/
  fault : Bool

/-- What an entry shows. -/
def DeviceState.shown (st : DeviceState) : Shown :=
  ⟨st.zoneId, st.on, st.intensity, st.powerMw, st.fault⟩

/-- What is shown after a message of a known lamp. -/
def Shown.after (v : Shown) : DeviceMessage → Shown
  | .register req => ⟨req.zoneId, 0, 0, 0, false⟩
  | .status report => ⟨report.zoneId, report.on, report.intensity, report.powerMw, v.fault⟩
  | .fault report => { v with zoneId := report.zoneId, fault := true }

/-- A report of the lamp about itself. -/
def Own (cfg : LampConfig) : DeviceMessage → Prop
  | .register _ => False
  | .status report => report.uri = cfg.uri
  | .fault report => report.uri = cfg.uri

/-- An answer that neither accepts nor refuses a registration. -/
def Plain (m : OutMsg) : Prop := m.type ≠ .registerAck ∧ m.type ≠ .registerNack

namespace DeviceSession

variable {cfg : LampConfig} {reg : Registry} {m : DeviceMessage} {out : OutMsg} {st : DeviceState}

/-- A report about a known lamp changes what is shown of it. -/
theorem get_exec_report (regionId : UInt32) (s : DeviceSession) (clock : Clock) (hown : Own cfg m)
    (hout : m.encode = .ok out) (hst : reg.get cfg.uri = some st) :
    ∃ st', ((s.onMessage regionId out.body clock).exec reg).2.get cfg.uri = some st' ∧
      st'.shown = st.shown.after m := by
  rw [get_exec_onMessage, stored, DeviceMessage.ofBody_encode hout]
  cases m with
  | register req => exact hown.elim
  | status report =>
    have huri : report.uri = cfg.uri := hown
    simp only [huri, hst, statusState, Option.map_some, if_true]
    exact ⟨_, rfl, rfl⟩
  | fault report =>
    have huri : report.uri = cfg.uri := hown
    simp only [huri, hst, faultState, Option.getD_some, if_true]
    exact ⟨_, rfl, rfl⟩

/-- The session answers a report with plain frames at most. -/
theorem sent_exec_report (regionId : UInt32) (s : DeviceSession) (clock : Clock) (reg : Registry)
    (hown : Own cfg m) (hout : m.encode = .ok out) :
    ∃ answers, ((s.onMessage regionId out.body clock).exec reg).1.session.queue.sent =
      s.queue.sent ++ answers ∧ ∀ a ∈ answers, Plain a := by
  rw [onMessage_eq, DeviceMessage.ofBody_encode hout]
  cases m with
  | register req => exact hown.elim
  | status report => exact ⟨[], by rw [exec_handleStatus_out.1, List.append_nil], nofun⟩
  | fault report =>
    refine ⟨[⟨.faultAck, []⟩], ?_, ?_⟩
    · rw [exec_handleFault]
      exact SendQueue.sent_post _
    · intro a ha
      obtain rfl := List.mem_singleton.mp ha
      exact ⟨by decide, by decide⟩

end DeviceSession

namespace Lamp

variable {cfg : LampConfig} {l m t : Lamp} {v : Shown} {ms ns : List DeviceMessage}
  {next : LampState} {label : LampLabel}

/-- The fault flag is shown, or its report is held back. -/
structure Latched (l : Lamp) (v : Shown) : Prop where
  /-- No fault is shown or held back of a lamp that has none. -/
  clear : l.state ≠ .fault → v.fault = false ∧ l.pendingFault = false
  /-- A fault is shown or held back. -/
  latched : l.state = .fault → v.fault = true ∨ l.pendingFault = true

/-- What is shown is what the lamp would report. -/
structure Agrees (cfg : LampConfig) (l : Lamp) (v : Shown) : Prop extends Latched l v where
  /-- The values of a lamp that is on or off. -/
  values : l.state = .on ∨ l.state = .off →
    v = ⟨cfg.zone, (l.statusReport cfg).on, l.intensity, (l.statusReport cfg).powerMw, false⟩

/-- The lamp has sent these messages on its way from `l` to `t`. -/
def Sends (l : Lamp) (ms : List DeviceMessage) (t : Lamp) : Prop :=
  ∃ frames, t.queue.sent = l.queue.sent ++ frames ∧
    List.Forall₂ (fun (msg : DeviceMessage) out => msg.encode = .ok out) ms frames

/-- The lamp has sent reports, after which it will be shown as it is. -/
def Continues (cfg : LampConfig) (l : Lamp) (v : Shown) (t : Lamp) : Prop :=
  ∃ ms, Sends l ms t ∧ (∀ msg ∈ ms, Own cfg msg) ∧ Agrees cfg t (ms.foldl Shown.after v)

/-- Nothing was sent. -/
private theorem Sends.nothing (h : t.queue.sent = l.queue.sent) : Sends l [] t :=
  ⟨[], by rw [h, List.append_nil], .nil⟩

private theorem Sends.trans (h : Sends l ms m) (h' : Sends m ns t) : Sends l (ms ++ ns) t := by
  obtain ⟨frames, hsent, hencode⟩ := h
  obtain ⟨frames', hsent', hencode'⟩ := h'
  refine ⟨frames ++ frames', ?_, List.rel_append hencode hencode'⟩
  rw [hsent', hsent, List.append_assoc]

/-- A status report was sent. -/
private theorem sends_reported (hready : Ready cfg l) :
    Sends l [.status (l.statusReport cfg)] (l.reported cfg) := by
  refine ⟨[l.statusFrame cfg], SendQueue.sent_post _, .cons ?_ .nil⟩
  simp only [DeviceMessage.encode, encode_statusReport hready]
  rfl

/-- The fault report was sent. -/
private theorem sends_fault (hready : Ready cfg l) :
    Sends l [.fault (faultMessage cfg)] (l.post (faultFrame cfg)) := by
  refine ⟨[faultFrame cfg], SendQueue.sent_post _, .cons ?_ .nil⟩
  simp only [DeviceMessage.encode, encode_faultReport hready]
  rfl

/-- What was sent on the way comes first. -/
private theorem Continues.of_sends (hsends : Sends l ms m) (hown : ∀ msg ∈ ms, Own cfg msg)
    (h : Continues cfg m (ms.foldl Shown.after v) t) : Continues cfg l v t := by
  obtain ⟨ns, hsends', hown', hagrees⟩ := h
  refine ⟨ms ++ ns, hsends.trans hsends', ?_, ?_⟩
  · intro msg hmsg
    exact (List.mem_append.mp hmsg).elim (hown msg) (hown' msg)
  · rw [List.foldl_append]
    exact hagrees

/-- A lamp that is shown as it is, and sent nothing. -/
private theorem Continues.of_agrees (hsent : t.queue.sent = l.queue.sent) (h : Agrees cfg t v) :
    Continues cfg l v t :=
  ⟨[], .nothing hsent, List.forall_mem_nil _, h⟩

/-- After its status report a lamp is shown as it is. -/
private theorem continues_reported (hready : Ready cfg l) (hlatched : Latched l v) :
    Continues cfg l v (l.reported cfg) := by
  refine ⟨_, sends_reported hready, ?_, ⟨hlatched.clear, hlatched.latched⟩, fun hstate => ?_⟩
  · intro msg hmsg
    obtain rfl := List.mem_singleton.mp hmsg
    exact rfl
  · have hnofault : l.state ≠ .fault := by
      intro hfault
      have hfault' : (l.reported cfg).state = .fault := hfault
      rw [hfault'] at hstate
      simp only [reduceCtorEq, or_self] at hstate
    simp only [List.foldl_cons, List.foldl_nil, Shown.after, (hlatched.clear hnofault).1]
    rfl

/-- A lamp that detects a fault reports it or holds the report back. -/
private theorem continues_detected (hready : Ready cfg l) : Continues cfg l v (l.detected cfg) := by
  unfold detected
  split
  · refine .of_agrees rfl ⟨⟨fun h => absurd rfl h, fun _ => Or.inr rfl⟩, fun h => ?_⟩
    exact h.elim nofun nofun
  · refine .of_sends (.nothing rfl) (List.forall_mem_nil _) ⟨_, sends_fault hready.assign, ?_,
      ⟨fun h => absurd rfl h, fun _ => Or.inl rfl⟩, fun h => h.elim nofun nofun⟩
    intro msg hmsg
    obtain rfl := List.mem_singleton.mp hmsg
    exact rfl

/-- A command is followed by a status report. -/
private theorem continues_obeyed (hready : Ready cfg l) (hlatched : Latched l v) {c : Command}
    (hobeys : l.Obeys c) : Continues cfg l v ((l.switched c).reported cfg) := by
  have hstate : l.state ≠ .fault := by
    intro hfault
    have hnot : ¬l.Obeys c := by simp [Obeys, hfault]
    exact hnot hobeys
  have hstate' : (l.switched c).state ≠ .fault := by
    rcases switched_state hobeys with h | h <;> rw [h] <;> decide
  have heq := switched_eq (l := l) c
  have hpending : (l.switched c).pendingFault = l.pendingFault := by rw [heq]
  have hqueue : (l.switched c).queue = l.queue := by rw [heq]
  have hlatched' : Latched (l.switched c) v := by
    refine ⟨fun _ => ?_, fun h => absurd h hstate'⟩
    rw [hpending]
    exact hlatched.clear hstate
  exact .of_sends (.nothing (by rw [hqueue])) (List.forall_mem_nil _)
    (continues_reported (hready.switched c) hlatched')

/-- What is shown does not depend on the operations that are pending. -/
theorem Continues.of_eq {t' : Lamp} (h : Continues cfg l v t) (hfsm : t'.fsm = t.fsm)
    (hintensity : t'.intensity = t.intensity) (hqueue : t'.queue.sent = t.queue.sent)
    (hpending : t'.pendingFault = t.pendingFault) : Continues cfg l v t' := by
  obtain ⟨ms, ⟨frames, hsent, hencode⟩, hown, hagrees⟩ := h
  have hstate : t'.state = t.state := congrArg Machine.state hfsm
  refine ⟨ms, ⟨frames, hqueue.trans hsent, hencode⟩, hown, ⟨?_, ?_⟩, ?_⟩
  · rw [hstate, hpending]
    exact hagrees.clear
  · rw [hstate, hpending]
    exact hagrees.latched
  · unfold statusReport
    rw [hstate, hintensity]
    exact hagrees.values

private theorem Continues.scheduleHeartbeat (h : Continues cfg l v t) :
    Continues cfg l v (t.scheduleHeartbeat cfg) := by
  rw [scheduleHeartbeat_eq]
  exact h.of_eq rfl rfl rfl rfl

/-- An accepted REGISTER_ACK is followed by a status report. -/
theorem continues_acked (hready : Ready cfg l) (hlatched : Latched l v)
    (hstate : l.state ≠ .fault) : Continues cfg l v (l.acked cfg) := by
  have hready' : Ready cfg ((l.assign .off .registerAck).setIntensity 0) :=
    hready.assign.setIntensity 0
  have hlatched' : Latched ((l.assign .off .registerAck).setIntensity 0) v :=
    ⟨fun _ => hlatched.clear hstate, nofun⟩
  have hreported := continues_reported hready' hlatched'
  exact (Continues.of_sends (.nothing rfl) (List.forall_mem_nil _) hreported).scheduleHeartbeat

/-- The lamp has been registered. -/
def Registered (l : Lamp) : Prop := l.state = .off ∨ l.state = .on ∨ l.state = .fault

/-- Any other frame leaves a registered lamp registered, and reports what changed. -/
theorem continues_reaction (hready : Ready cfg l) (hagrees : Agrees cfg l v)
    (hregistered : Registered l) {body : Bytes} {draw : Fin 1000}
    (hack : frameType body ≠ some .registerAck) (hnack : frameType body ≠ some .registerNack)
    (hreaction : Reaction cfg l body draw t) : Continues cfg l v t ∧ Registered t := by
  cases hreaction with
  | acked htype => exact absurd htype hack
  | nacked htype => exact absurd htype hnack
  | obeyed c hc hobeys hquiet =>
    refine ⟨continues_obeyed hready hagrees.toLatched hobeys, ?_⟩
    rcases switched_state hobeys with h | h
    · exact Or.inr (Or.inl h)
    · exact Or.inl h
  | faulted c hc hobeys hcmd hdraw =>
    obtain ⟨ms, hsends, hown, -⟩ := continues_obeyed hready hagrees.toLatched hobeys
    have hready' := (hready.switched c).reported
    refine ⟨.of_sends hsends hown (continues_detected hready'), Or.inr (Or.inr ?_)⟩
    unfold detected
    split <;> rfl
  | kept w _ _ _ hw =>
    refine ⟨.of_agrees rfl ⟨⟨hagrees.clear, hagrees.latched⟩, fun hstate => ?_⟩, hregistered⟩
    have hsame : l.setIntensity w = l := by
      rw [hw hstate]
      rfl
    rw [hsame]
    exact hagrees.values hstate

/-- A heartbeat reports the status of a registered lamp. -/
theorem continues_heartbeat (hready : Ready cfg l) (hagrees : Agrees cfg l v)
    (hregistered : Registered l) (cancelled : Bool) :
    Continues cfg l v (l.after cfg (.heartbeatTimer cancelled)) := by
  cases cancelled with
  | true => exact (Continues.of_agrees rfl hagrees).of_eq rfl rfl rfl rfl
  | false =>
    have hreports : l.state = .on ∨ l.state = .off ∨ l.state = .fault := by
      unfold Registered at hregistered
      tauto
    have hready' : Ready cfg { l with heartbeatWaits := l.heartbeatWaits - 1 } :=
      ⟨hready.sock, hready.fits⟩
    have hlatched : Latched { l with heartbeatWaits := l.heartbeatWaits - 1 } v :=
      ⟨hagrees.clear, hagrees.latched⟩
    have hreported := continues_reported hready' hlatched
    simp only [after, Bool.false_eq_true, if_false]
    split
    · exact (Continues.of_sends (.nothing rfl) (List.forall_mem_nil _) hreported).scheduleHeartbeat
    · next hnot => exact absurd hreports hnot

/-- A completed write sends the report that was held back. -/
theorem continues_written (hready : l.pendingFault = true → Ready cfg l) (hagrees : Agrees cfg l v)
    {q : SendQueue} (hq : q.sent = l.queue.sent) : Continues cfg l v (l.written cfg q true) := by
  by_cases hpending : l.pendingFault = true
  · have hfault : l.state = .fault := by
      by_contra hne
      have hclear := (hagrees.clear hne).2
      rw [hpending] at hclear
      cases hclear
    have hready' : Ready cfg { l.setQueue q with pendingFault := false } :=
      ⟨(hready hpending).sock, (hready hpending).fits⟩
    have hreported : Continues cfg l v
        ({ l.setQueue q with pendingFault := false }.post (faultFrame cfg)) := by
      refine .of_sends (.nothing hq) (List.forall_mem_nil _) ⟨_, sends_fault hready', ?_,
        ⟨fun h => absurd hfault h, fun _ => Or.inl rfl⟩, fun h => ?_⟩
      · intro msg hmsg
        obtain rfl := List.mem_singleton.mp hmsg
        exact rfl
      · have hnot : ¬(l.state = .on ∨ l.state = .off) := by simp [hfault]
        exact absurd h hnot
    rw [written_of_pending hpending]
    exact hreported.of_eq rfl rfl SendQueue.sent_doWrite rfl
  · rw [written_of_clear (Bool.eq_false_of_not_eq_true hpending)]
    exact .of_agrees (SendQueue.sent_doWrite.trans hq)
      ⟨⟨hagrees.clear, hagrees.latched⟩, hagrees.values⟩

end Lamp

end SmartLighting
