import SmartLighting.LinkLamp

/-!
# Lamp and region agree at rest

Each handler of the region keeps the connection in one of its phases as well.
So lamp and region agree whenever nothing is under way between them.
-/

namespace SmartLighting

open Lamp StateMachine Transition

namespace Link

variable {cfg : LampConfig} {regionId : UInt32} {k k' : Link}

/-! ## The region's handlers -/

/-- The session moves frames only. -/
private theorem Inv.regionMoved {s : DeviceSession} (hinv : Inv cfg k)
    (huri : s.uri = k.session.uri) (hsent : s.queue.sent = k.session.queue.sent) :
    Inv cfg { k with session := s } :=
  ⟨hinv.sound, hinv.phase.same ⟨⟨k.lamp.queue, rfl, rfl⟩, huri, hsent, rfl, rfl, rfl⟩⟩

/-- The lamp still has its REGISTER_ACK to read, then plain frames. -/
private theorem waiting_append {d answers : List OutMsg} {b : ℕ}
    (h : ∃ ack rest, d.drop b = ack :: rest ∧ ack.type = .registerAck ∧ ∀ m ∈ rest, Plain m)
    (hplain : ∀ m ∈ answers, Plain m) :
    ∃ ack rest, (d ++ answers).drop b = ack :: rest ∧ ack.type = .registerAck ∧
      ∀ m ∈ rest, Plain m := by
  obtain ⟨ack, rest, hdrop, hack, hrest⟩ := h
  have hlength : b ≤ d.length := by
    by_contra hlong
    rw [List.drop_eq_nil_of_le (by omega)] at hdrop
    cases hdrop
  refine ⟨ack, rest ++ answers, ?_, hack, ?_⟩
  · rw [List.drop_append_of_le_length hlength, hdrop, List.cons_append]
  · exact fun m hm => (List.mem_append.mp hm).elim (hrest m) (hplain m)

/-- `send_cmd` is called. -/
private theorem Inv.sendCmd {cmd value : UInt8} {s : DeviceSession} (hinv : Inv cfg k)
    (h : k.session.sendCmd cmd value = .ok s) : Inv cfg { k with session := s } := by
  rcases DeviceSession.sendCmd_eq_ok h with rfl | ⟨hnamed, payload, rfl⟩
  · exact hinv.regionMoved rfl rfl
  refine ⟨hinv.sound, ?_⟩
  have hsent : (k.session.queueSend .cmd payload).queue.sent =
      k.session.queue.sent ++ [⟨.cmd, payload⟩] := SendQueue.sent_post _
  have hplain : ∀ m ∈ [(⟨.cmd, payload⟩ : OutMsg)], Plain m := by
    intro m hm
    obtain rfl := List.mem_singleton.mp hm
    exact ⟨by change MsgType.cmd ≠ _; decide, by change MsgType.cmd ≠ _; decide⟩
  cases hinv.phase with
  | connecting hsilent hstate hhandshakes hup hdown huri => exact absurd huri hnamed
  | asking hsilent hfits hstate hhandshakes hup hdown huri => exact absurd huri hnamed
  | closed hsilent hhandshakes hup hdown =>
    refine .closed hsilent hhandshakes hup fun m hm => ?_
    rw [hsent] at hm
    exact (SendQueue.mem_unread_append hm).elim (hdown m) fun h => (hplain m h).1
  | waiting hsilent hstate hhandshakes hread hpipeline hdown =>
    refine .waiting hsilent hstate hhandshakes hread hpipeline ?_
    rw [hsent]
    exact waiting_append hdown hplain
  | serving hregistered hhandshakes hread hpipeline hdown =>
    refine .serving hregistered hhandshakes hread hpipeline fun m hm => ?_
    rw [hsent] at hm
    exact (SendQueue.mem_unread_append hm).elim (hdown m) (hplain m)

/-- The frame of the registration holds the registration. -/
private theorem registerFrame_encode (hfits : cfg.uri.length ≤ 65535) :
    (DeviceMessage.register ⟨.luminaire, cfg.uri, cfg.zone⟩).encode = .ok (registerFrame cfg) := by
  have hok := encodeRegisterReq_eq_ok.mpr
    (⟨hfits, rfl⟩ : (⟨.luminaire, cfg.uri, cfg.zone⟩ : RegisterReq).uri.length ≤ 65535 ∧ _ = _)
  simp only [DeviceMessage.encode, registerFrame, hok]
  rfl

/-- The session reads the registration. -/
private theorem Phase.registered {clock : Clock} (hsilent : Silent k.lamp)
    (hfits : cfg.uri.length ≤ 65535) (hstate : k.lamp.state = .registering)
    (hhandshakes : k.lamp.handshakes = 0) (hup : k.lamp.queue.sent = [registerFrame cfg])
    (hdown : k.session.queue.sent = []) (hread : k.atRegion = 1 ∧ k.atLamp = 0) :
    Phase cfg (k.sessionStep regionId (registerFrame cfg).body clock) := by
  have hmessage := DeviceMessage.ofBody_encode (registerFrame_encode hfits)
  have hup' : k.lamp.queue.sent.drop k.atRegion = [] := by
    rw [hup, hread.1]
    rfl
  by_cases haccepts : DeviceSession.Accepts ⟨.luminaire, cfg.uri, cfg.zone⟩
  · have hexec : (k.session.handleRegister ⟨.luminaire, cfg.uri, cfg.zone⟩ clock).exec
        k.registry = _ := DeviceSession.exec_handleRegister haccepts
    have hsent : (k.session.registeredAs ⟨.luminaire, cfg.uri, cfg.zone⟩ clock).queue.sent =
        [⟨.registerAck, encodeRegisterAck ⟨clock.unix⟩⟩] :=
      (SendQueue.sent_post _).trans (congrArg (· ++ _) hdown)
    have hclear : Agrees cfg k.lamp ⟨cfg.zone, 0, 0, 0, false⟩ := by
      refine ⟨⟨fun _ => ⟨rfl, hsilent.pendingFault⟩, fun h => ?_⟩, fun h => ?_⟩
      · rw [hstate] at h
        cases h
      · rw [hstate] at h
        exact h.elim nofun nofun
    unfold sessionStep
    rw [DeviceSession.onMessage_eq, hmessage]
    simp only [hexec, if_true]
    refine .waiting hsilent hstate hhandshakes ?_
      ⟨_, [], Registry.get_upsert_self, ?_, nofun, hclear⟩
      ⟨⟨.registerAck, encodeRegisterAck ⟨clock.unix⟩⟩, [], ?_, rfl, nofun⟩
    · rw [hup, hread.1]
      exact le_rfl
    · exact hup' ▸ .nil
    · rw [hsent, hread.2]
      rfl
  · have hexec : (k.session.onMessage regionId (registerFrame cfg).body clock).exec k.registry =
        (⟨k.session.queueSend .registerNack [], [], none, none⟩, k.registry) := by
      rw [DeviceSession.onMessage_eq, hmessage]
      exact DeviceSession.exec_handleRegister_refused haccepts
    have hsent : (k.session.queueSend .registerNack []).queue.sent = [⟨.registerNack, []⟩] :=
      (SendQueue.sent_post _).trans (congrArg (· ++ _) hdown)
    unfold sessionStep
    rw [hexec]
    refine .closed hsilent hhandshakes (by rw [hup, hread.1]; exact le_rfl) fun m hm => ?_
    dsimp only at hm
    rw [hsent, hread.2] at hm
    obtain rfl := List.mem_singleton.mp hm
    change MsgType.registerNack ≠ _
    decide

/-- The session handles a report that was under way. -/
private theorem Pipeline.handled {m : OutMsg} {clock : Clock}
    (h : Pipeline cfg k)
    (hnext : k.lamp.queue.sent.drop k.atRegion = m :: k.lamp.queue.sent.drop (k.atRegion + 1)) :
    Pipeline cfg ({ k with atRegion := k.atRegion + 1 }.sessionStep regionId m.body clock) ∧
      ∃ answers, ({ k with atRegion := k.atRegion + 1 }.sessionStep regionId m.body
        clock).session.queue.sent = k.session.queue.sent ++ answers ∧ ∀ a ∈ answers, Plain a := by
  obtain ⟨st, ms, hst, hencode, hown, hagrees⟩ := h
  rw [hnext] at hencode
  cases hencode with
  | cons hmsg hms =>
    next msg ms' =>
    have hown' := hown msg List.mem_cons_self
    obtain ⟨st', hst', hshown⟩ :=
      DeviceSession.get_exec_report regionId k.session clock hown' hmsg hst
    refine ⟨⟨st', ms', hst', ?_, fun msg' h => hown msg' (List.mem_cons_of_mem msg h), ?_⟩,
      DeviceSession.sent_exec_report regionId k.session clock k.registry hown' hmsg⟩
    · exact hms
    · rw [hshown]
      exact hagrees

/-- The session reads the next frame. -/
private theorem Inv.regionFrame {m : OutMsg} {clock : Clock} (hinv : Inv cfg k)
    (hm : k.lamp.queue.written[k.atRegion]? = some m) :
    Inv cfg ({ k with atRegion := k.atRegion + 1 }.sessionStep regionId m.body clock) := by
  have hnext := SendQueue.sent_of_written hm
  have hlength : k.atRegion < k.lamp.queue.sent.length := by
    by_contra hread
    rw [List.drop_eq_nil_of_le (by omega)] at hnext
    cases hnext
  refine ⟨hinv.sound, ?_⟩
  cases hinv.phase with
  | connecting hsilent hstate hhandshakes hup => simp [hup] at hnext
  | asking hsilent hfits hstate hhandshakes hup hdown huri hread =>
    rw [hup, hread.1] at hnext
    obtain rfl : registerFrame cfg = m := (List.cons.inj hnext).1
    exact Phase.registered (k := { k with atRegion := k.atRegion + 1 }) hsilent hfits hstate
      hhandshakes hup hdown ⟨congrArg (· + 1) hread.1, hread.2⟩
  | closed hsilent hhandshakes hup => exact absurd hup (by omega)
  | waiting hsilent hstate hhandshakes hread hpipeline hdown =>
    obtain ⟨hpipeline', answers, hsent, hplain⟩ := hpipeline.handled hnext
    refine .waiting hsilent hstate hhandshakes hlength hpipeline' ?_
    rw [hsent]
    exact waiting_append hdown hplain
  | serving hregistered hhandshakes hread hpipeline hdown =>
    obtain ⟨hpipeline', answers, hsent, hplain⟩ := hpipeline.handled hnext
    refine .serving hregistered hhandshakes hlength hpipeline' fun m' hm' => ?_
    rw [hsent] at hm'
    exact (SendQueue.mem_unread_append hm').elim (hdown m') (hplain m')

/-! ## Every run -/

/-- Every handler keeps the connection in one of its phases. -/
theorem Inv.step {e : Event} (hinv : Inv cfg k) (h : step cfg regionId k e = some k') :
    Inv cfg k' := by
  cases e with
  | handshake => exact hinv.handshake h
  | lampPosted => exact hinv.lampPosted h
  | lampWritten i => exact hinv.lampWritten h
  | lampFrame draw =>
    cases hm : k.session.queue.written[k.atLamp]? with
    | none =>
      simp only [Link.step, hm] at h
      cases h
    | some m =>
      simp only [Link.step, hm] at h
      exact hinv.lampFrame hm h
  | heartbeat cancelled => exact hinv.heartbeat h
  | regionPosted =>
    obtain ⟨q, hq, rfl⟩ := Option.map_eq_some_iff.mp h
    exact hinv.regionMoved rfl (SendQueue.sent_runPosted hq)
  | regionWritten i =>
    obtain ⟨s, hs, rfl⟩ := Option.map_eq_some_iff.mp h
    obtain ⟨q, hq, rfl⟩ := Option.map_eq_some_iff.mp hs
    exact hinv.regionMoved rfl (SendQueue.sent_doWrite.trans (SendQueue.sent_complete hq))
  | regionFrame clock =>
    cases hm : k.lamp.queue.written[k.atRegion]? with
    | none =>
      simp only [Link.step, hm] at h
      cases h
    | some m =>
      simp only [Link.step, hm] at h
      cases h
      exact hinv.regionFrame hm
  | sendCmd cmd value =>
    cases hsend : k.session.sendCmd cmd value with
    | error message =>
      simp only [Link.step, hsend] at h
      cases h
      exact hinv
    | ok s =>
      simp only [Link.step, hsend] at h
      cases h
      exact hinv.sendCmd hsend
  | other uri st =>
    obtain ⟨hother, hstored⟩ := Option.ite_none_left_eq_some.mp h
    cases hstored
    have hentry : (k.registry.upsert uri st).get cfg.uri = k.registry.get cfg.uri :=
      Registry.get_upsert_ne (Ne.symm hother)
    exact ⟨hinv.sound,
      hinv.phase.same ⟨⟨k.lamp.queue, rfl, rfl⟩, rfl, rfl, hentry, rfl, rfl⟩⟩

/-- A lamp that has just connected has not asked for its registration. -/
private theorem Inv.start (cfg : LampConfig) (registry : Registry) :
    Inv cfg (start cfg registry) := by
  have hstarted : Sound cfg (Lamp.start cfg) := Sound.start
  refine ⟨⟨hstarted.sock, hstarted.idle, hstarted.held, hstarted.fits⟩, ?_⟩
  refine .connecting ⟨?_, rfl, rfl, Or.inl rfl⟩ rfl rfl rfl rfl rfl ⟨rfl, rfl⟩
  rintro ⟨c, hc, hack⟩
  obtain rfl := List.mem_singleton.mp hc
  cases hack

/-- Whatever the two sides do and in whatever order, lamp and region agree
whenever the connection is at rest. -/
theorem always_restLaw (cfg : LampConfig) (regionId : UInt32) (registry : Registry)
    (es : List Event) : Always (step cfg regionId) (RestLaw cfg) (start cfg registry) es :=
  (Always.of_invariant (P := Inv cfg) (fun _ _ _ hinv h => hinv.step h)
    (Inv.start cfg registry)).mono fun _ hinv => hinv.phase.restLaw

/-- A registered lamp is switched on and detects a fault; then everything comes to rest. -/
example : ((run (step faultyConfig 1) (start faultyConfig .empty)
    [.handshake, .lampPosted, .lampWritten 0, .regionFrame ⟨5, 5⟩, .regionPosted, .lampFrame 0,
      .regionWritten 0, .lampPosted, .lampWritten 0, .regionFrame ⟨6, 6⟩, .sendCmd 1 0,
      .regionPosted, .lampFrame 0, .regionWritten 0, .lampPosted, .lampPosted, .lampWritten 0,
      .lampWritten 0, .regionFrame ⟨7, 7⟩, .regionFrame ⟨7, 7⟩, .regionPosted, .lampFrame 0,
      .regionWritten 0]).map fun k =>
    (k.lamp.state, k.registry.get (ascii "lamp1"), k.atRegion, k.atLamp)) =
    some (.fault, some ⟨.luminaire, 1, 1, 30, 94000, true, 7⟩, 4, 3) := by
  decide

end Link

end SmartLighting
