import SmartLighting.LampSound
import SmartLighting.Messages

/-!
# The light of a lamp

What a lamp is for: a light that can be switched and dimmed. A lamp that is on or off, and
does not simulate faults, obeys every command as its light does, and sends nothing but
status reports.
-/

namespace SmartLighting

open StateMachine Transition

/-- A light that can be dimmed. -/
structure Light where
  /-- It is switched on. -/
  on : Bool
  /-- Its level. -/
  intensity : UInt8
  deriving DecidableEq

namespace Light

/-- The light is off. -/
def dark : Light := ⟨false, 0⟩

/-- The light after a command. Switching on raises the level to at least 30; a level of zero
switches off, and any other level on. -/
def obey (x : Light) (c : Command) : Light :=
  if c.cmd = 1 then if x.on then x else ⟨true, if x.intensity < 30 then 30 else x.intensity⟩
  else if c.cmd = 2 then if x.on then dark else x
  else if c.cmd = 3 then ⟨decide (c.value ≠ 0), c.value⟩
  else x

/-- The light after a frame is read. -/
def read (x : Light) (m : OutMsg) : Light := (Lamp.commandOf m.body).elim x x.obey

end Light

namespace Lamp

variable {cfg : LampConfig} {l t : Lamp} {e : Event}

/-- The light of a lamp. -/
def light (l : Lamp) : Light := ⟨decide (l.state = .on), l.intensity⟩

/-- A lamp that obeys commands. -/
structure Serving (cfg : LampConfig) (l : Lamp) : Prop where
  /-- It can send. -/
  ready : Ready cfg l
  /-- It is on or off. -/
  state : l.state = .on ∨ l.state = .off
  /-- It holds no fault report back. -/
  pendingFault : l.pendingFault = false

/-- A frame reports the status of the lamp. -/
def Reports (cfg : LampConfig) (m : OutMsg) : Prop :=
  ∃ report, DeviceMessage.ofBody m.body = some (.status report) ∧ report.zoneId = cfg.zone

/-- What a lamp does between two handlers, apart from its light. -/
structure Serves (cfg : LampConfig) (l t : Lamp) : Prop where
  /-- It still obeys commands. -/
  serving : Serving cfg t
  /-- It sends only reports. -/
  sent : ∃ frames, t.queue.sent = l.queue.sent ++ frames ∧ ∀ m ∈ frames, Reports cfg m

/-- A lamp that obeys commands is sound. -/
theorem Serving.sound (h : Serving cfg l) : Sound cfg l := by
  constructor
  · exact h.ready.sock
  · rcases h.state with hstate | hstate <;> rw [hstate] <;> decide
  · intro hpending
    rw [h.pendingFault] at hpending
    cases hpending
  · intro _ hlong
    have hfits := h.ready.fits
    omega

theorem Serves.refl (h : Serving cfg l) : Serves cfg l l :=
  ⟨h, [], (List.append_nil _).symm, List.forall_mem_nil _⟩

/-- A status frame reports the status. -/
theorem reports_statusFrame (hready : Ready cfg l) (l' : Lamp) :
    Reports cfg (l'.statusFrame cfg) := by
  have hencode : (DeviceMessage.status (l'.statusReport cfg)).encode =
      .ok (l'.statusFrame cfg) := by
    simp only [DeviceMessage.encode, encode_statusReport hready]
    rfl
  exact ⟨l'.statusReport cfg, DeviceMessage.ofBody_encode hencode, rfl⟩

/-- The status is sent. -/
theorem Serves.reported (h : Serving cfg l) : Serves cfg l (l.reported cfg) := by
  refine ⟨⟨h.ready.reported, h.state, h.pendingFault⟩, [l.statusFrame cfg],
    SendQueue.sent_post _, ?_⟩
  intro m hm
  obtain rfl := List.mem_singleton.mp hm
  exact reports_statusFrame h.ready l

/-- An obeyed command changes the light as it should. -/
theorem light_switched {c : Command} (hobeys : l.Obeys c) :
    (l.switched c).light = l.light.obey c := by
  unfold switched Light.obey light
  rcases hobeys with ⟨hcmd, hoff⟩ | ⟨hcmd, hon⟩ | ⟨hcmd, hstate⟩
  · simp [hcmd, hoff]
  · simp [hcmd, hon, Light.dark]
  · have hpos : c.value > 0 ↔ c.value ≠ 0 := UInt8.pos_iff_ne_zero
    by_cases hzero : c.value = 0
    · rcases hstate with hon | hoff
      · simp [hcmd, hon, hzero]
      · simp [hcmd, hoff, hzero]
    · rcases hstate with hon | hoff
      · simp [hcmd, hon, hzero]
      · simp [hcmd, hoff, hzero, hpos]

/-- A command that is not obeyed would not change the light. -/
theorem obey_of_not_obeys {c : Command} (hstate : l.state = .on ∨ l.state = .off)
    (hobeys : ¬l.Obeys c) : l.light.obey c = l.light := by
  unfold Obeys at hobeys
  unfold Light.obey light
  rcases hstate with hon | hoff
  · have hcmd : c.cmd ≠ 2 ∧ c.cmd ≠ 3 := by
      constructor
      · exact fun h => hobeys (Or.inr (Or.inl ⟨h, hon⟩))
      · exact fun h => hobeys (Or.inr (Or.inr ⟨h, Or.inl hon⟩))
    simp [hon, hcmd.1, hcmd.2]
  · have hcmd : c.cmd ≠ 1 ∧ c.cmd ≠ 3 := by
      constructor
      · exact fun h => hobeys (Or.inl ⟨h, hoff⟩)
      · exact fun h => hobeys (Or.inr (Or.inr ⟨h, Or.inr hoff⟩))
    simp [hoff, hcmd.1, hcmd.2]

/-- The lamp reads a command frame: its light obeys. -/
theorem serves_received {m : OutMsg} (hserving : Serving cfg l) (hquiet : cfg.faultProbPerMille ≤ 0)
    (hcmd : m.type = .cmd) (draw : Fin 1000) :
    Serves cfg l (l.received cfg m.body draw) ∧
      (l.received cfg m.body draw).light = l.light.read m := by
  have htype : frameType m.body = some .cmd := congrArg some hcmd
  have hreaction := received_reaction cfg l m.body draw
  generalize l.received cfg m.body draw = t at hreaction ⊢
  cases hreaction with
  | acked hack hstate =>
    rw [htype] at hack
    cases hack
  | nacked hnack =>
    rw [htype] at hnack
    cases hnack
  | obeyed c hc hobeys hnofault =>
    have hswitched : Serving cfg (l.switched c) := by
      refine ⟨hserving.ready.switched c, switched_state hobeys, ?_⟩
      rw [switched_eq]
      exact hserving.pendingFault
    obtain ⟨hreported, frames, hsent, hframes⟩ := Serves.reported hswitched
    have hqueue : (l.switched c).queue = l.queue := by rw [switched_eq]
    rw [hqueue] at hsent
    refine ⟨⟨hreported, frames, hsent, hframes⟩, ?_⟩
    have hlight : ((l.switched c).reported cfg).light = (l.switched c).light := rfl
    rw [hlight, light_switched hobeys, Light.read, hc, Option.elim_some]
  | faulted c hc hobeys hcmd hdraw => omega
  | kept v hack hnack hobeys hv =>
    rw [hv hserving.state]
    refine ⟨.refl hserving, ?_⟩
    unfold Light.read
    cases hc : commandOf m.body with
    | none => rfl
    | some c =>
      rw [Option.elim_some, obey_of_not_obeys hserving.state (hobeys c hc)]
      rfl

/-- What a lamp does depends on neither its loops nor its waits. -/
theorem Serves.of_eq {l' t' : Lamp} (h : Serves cfg l t) (hqueue : l'.queue = l.queue)
    (hsock : t'.hasSock = t.hasSock) (hstate : t'.state = t.state)
    (hpending : t'.pendingFault = t.pendingFault) (hqueue' : t'.queue.sent = t.queue.sent) :
    Serves cfg l' t' := by
  refine ⟨⟨⟨hsock.trans h.serving.ready.sock, h.serving.ready.fits⟩, ?_,
    hpending.trans h.serving.pendingFault⟩, ?_⟩
  · rw [hstate]
    exact h.serving.state
  · rw [hqueue, hqueue']
    exact h.sent

/-- The lamp reads a frame of its session. -/
theorem serves_frame {m : OutMsg} {draw : Fin 1000} (hserving : Serving cfg l)
    (hquiet : cfg.faultProbPerMille ≤ 0) (hcmd : m.type = .cmd)
    (h : step cfg l (.frame m.body draw) = some t) :
    Serves cfg l t ∧ t.light = l.light.read m := by
  obtain ⟨-, -, rfl⟩ := step_eq hserving.sound h
  have hreading : Serving cfg { l with reads := l.reads - 1 } :=
    ⟨⟨hserving.ready.sock, hserving.ready.fits⟩, hserving.state, hserving.pendingFault⟩
  obtain ⟨hserves, hlight⟩ := serves_received hreading hquiet hcmd draw
  exact ⟨hserves.of_eq rfl rfl rfl rfl rfl, hlight⟩

/-- A posted send of the lamp runs. -/
theorem serves_posted (hserving : Serving cfg l) (h : step cfg l .posted = some t) :
    Serves cfg l t ∧ t.light = l.light := by
  obtain ⟨-, ⟨q, hq⟩, rfl⟩ := step_eq hserving.sound h
  have hafter : l.after cfg .posted = l.setQueue q := by
    simp only [after, hq]
  rw [hafter]
  exact ⟨(Serves.refl hserving).of_eq rfl rfl rfl rfl (SendQueue.sent_runPosted hq), rfl⟩

/-- A write of the lamp completes. -/
theorem serves_writeDone {i : ℕ} (hserving : Serving cfg l)
    (h : step cfg l (.writeDone i true) = some t) : Serves cfg l t ∧ t.light = l.light := by
  obtain ⟨-, ⟨q, hq⟩, rfl⟩ := step_eq hserving.sound h
  have hafter : l.after cfg (.writeDone i true) = l.setQueue q.doWrite := by
    simp only [after, hq, written_of_clear hserving.pendingFault]
  have hsent : q.doWrite.sent = l.queue.sent :=
    SendQueue.sent_doWrite.trans (SendQueue.sent_complete hq)
  rw [hafter]
  exact ⟨(Serves.refl hserving).of_eq rfl rfl rfl rfl hsent, rfl⟩

/-- A heartbeat wait of the lamp completes. -/
theorem serves_heartbeat {cancelled : Bool} (hserving : Serving cfg l)
    (h : step cfg l (.heartbeatTimer cancelled) = some t) :
    Serves cfg l t ∧ t.light = l.light := by
  obtain ⟨-, -, rfl⟩ := step_eq hserving.sound h
  cases cancelled with
  | true => exact ⟨(Serves.refl hserving).of_eq rfl rfl rfl rfl rfl, rfl⟩
  | false =>
    have hstate : l.state = .on ∨ l.state = .off ∨ l.state = .fault := by
      rcases hserving.state with hon | hoff
      · exact Or.inl hon
      · exact Or.inr (Or.inl hoff)
    have hafter : l.after cfg (.heartbeatTimer false) =
        ({ l with heartbeatWaits := l.heartbeatWaits - 1 }.reported cfg).scheduleHeartbeat cfg := by
      unfold after
      exact congrArg (scheduleHeartbeat cfg) (if_pos hstate)
    rw [hafter, scheduleHeartbeat_eq]
    exact ⟨(Serves.reported hserving).of_eq rfl rfl rfl rfl rfl, rfl⟩

/-! ## Without simulated faults -/

/-- No frame makes the lamp hold back a report. -/
theorem pendingFault_received (hquiet : cfg.faultProbPerMille ≤ 0) (hclear : l.pendingFault = false)
    (body : Bytes) (draw : Fin 1000) : (l.received cfg body draw).pendingFault = false := by
  have hreaction := received_reaction cfg l body draw
  generalize l.received cfg body draw = t at hreaction ⊢
  cases hreaction with
  | acked htype hstate =>
    rw [acked, scheduleHeartbeat_pendingFault]
    exact hclear
  | nacked htype =>
    rw [nacked, scheduleReconnect_pendingFault]
    split <;> exact hclear
  | obeyed c hc hobeys hnofault =>
    rw [switched_eq]
    exact hclear
  | faulted c hc hobeys hcmd hdraw => omega
  | kept v hack hnack hobeys hv => exact hclear

/-- No handler makes the lamp hold back a report. -/
theorem pendingFault_step (hquiet : cfg.faultProbPerMille ≤ 0) (hsound : Sound cfg l)
    (hclear : l.pendingFault = false) (h : step cfg l e = some t) : t.pendingFault = false := by
  obtain ⟨-, hpending, rfl⟩ := step_eq hsound h
  cases e with
  | resolved ok =>
    cases ok
    · exact scheduleReconnect_pendingFault.trans hclear
    · exact hclear
  | connected ok =>
    cases ok
    · exact scheduleReconnect_pendingFault.trans hclear
    · exact hclear
  | handshaken ok =>
    cases ok
    · exact scheduleReconnect_pendingFault.trans hclear
    · simp only [after, connectedUp, if_true]
      split_ifs <;> exact hclear
  | posted =>
    obtain ⟨q, hq⟩ := hpending
    simp only [after, hq]
    exact hclear
  | writeDone i ok =>
    obtain ⟨q, hq⟩ := hpending
    simp only [after, hq]
    cases ok
    · exact scheduleReconnect_pendingFault.trans hclear
    · rw [written_of_clear hclear]
      exact hclear
  | readFailed => exact scheduleReconnect_pendingFault.trans hclear
  | frame body draw =>
    exact pendingFault_received (l := { l with reads := l.reads - 1 }) hquiet hclear body draw
  | registerTimer cancelled =>
    unfold after
    dsimp only
    split_ifs
    · exact hclear
    · exact scheduleReconnect_pendingFault.trans hclear
    · exact hclear
  | reconnectTimer cancelled =>
    unfold after
    dsimp only
    split <;> exact hclear
  | heartbeatTimer cancelled =>
    unfold after
    dsimp only
    split_ifs
    · exact hclear
    · exact scheduleHeartbeat_pendingFault.trans hclear
    · exact scheduleHeartbeat_pendingFault.trans hclear
  | resetTimer =>
    unfold after
    dsimp only
    split
    · exact scheduleReconnect_pendingFault.trans hclear
    · exact hclear
  | stopTimer => exact hclear

/-- A lamp that was started, was not stopped and has been registered obeys commands. -/
theorem serving_of_run {es : List Event} (hquiet : cfg.faultProbPerMille ≤ 0)
    (hrun : run (step cfg) (start cfg) es = some l) (halive : l.stopped = false)
    (hstate : l.state = .on ∨ l.state = .off) : Serving cfg l := by
  have hinv : Sound cfg l ∧ l.pendingFault = false := by
    refine run_of_invariant (I := fun l => Sound cfg l ∧ l.pendingFault = false)
      (A := fun _ => True) ?_ (fun _ _ => trivial) ⟨Sound.start, rfl⟩ hrun
    intro l e t _ hold h
    exact ⟨hold.1.step h, pendingFault_step hquiet hold.1 hold.2 h⟩
  obtain ⟨hsound, hclear⟩ := hinv
  refine ⟨⟨hsound.sock, ?_⟩, hstate, hclear⟩
  by_contra hlong
  have hunregistered := (hsound.fits halive (by omega)).1
  rw [hunregistered] at hstate
  rcases hstate with h | h <;> cases h

end Lamp

end SmartLighting
