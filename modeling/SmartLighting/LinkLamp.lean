import SmartLighting.LinkPhases

/-!
# The lamp's side of a connection

Each handler of the lamp keeps the connection in one of its phases.
-/

namespace SmartLighting

open Lamp StateMachine Transition

namespace Link

variable {cfg : LampConfig} {k k' : Link} {l : Lamp}

/-- The step of the lamp alone. -/
private theorem lampStep_eq_some {e : Lamp.Event} (hsound : Sound cfg k.lamp)
    (h : k.lampStep cfg e = some k') : k.lamp.stopped = false ∧ Lamp.Pending k.lamp e ∧
      k' = { k with lamp := k.lamp.after cfg e } ∧ Sound cfg (k.lamp.after cfg e) := by
  obtain ⟨t, hstep, rfl⟩ := Option.map_eq_some_iff.mp h
  obtain ⟨halive, hpending, rfl⟩ := step_eq hsound hstep
  exact ⟨halive, hpending, rfl, hsound.step hstep⟩

/-- What the lamp sends next joins the reports under way. -/
private theorem Pipeline.continues {t : Lamp} (h : Pipeline cfg k)
    (hread : k.atRegion ≤ k.lamp.queue.sent.length)
    (hcontinues : ∀ v, Agrees cfg k.lamp v → Continues cfg k.lamp v t) :
    Pipeline cfg { k with lamp := t } ∧ k.atRegion ≤ t.queue.sent.length := by
  obtain ⟨st, ms, hst, hencode, hown, hagrees⟩ := h
  obtain ⟨ns, ⟨frames, hsent, hencode'⟩, hown', hagrees'⟩ := hcontinues _ hagrees
  refine ⟨⟨st, ms ++ ns, hst, ?_, ?_, ?_⟩, ?_⟩
  · rw [hsent, List.drop_append_of_le_length hread]
    exact List.rel_append hencode hencode'
  · intro msg hmsg
    exact (List.mem_append.mp hmsg).elim (hown msg) (hown' msg)
  · rw [List.foldl_append]
    exact hagrees'
  · rw [hsent, List.length_append]
    omega

private theorem acked_assign {next : LampState} {label : LampLabel}
    (hlabel : label ≠ .registerAck) (h : ¬Acked l) : ¬Acked (l.assign next label) := by
  rintro ⟨c, hc, hack⟩
  rcases List.mem_append.mp hc with hold | hnew
  · exact h ⟨c, hold, hack⟩
  · obtain rfl := List.mem_singleton.mp hnew
    exact hlabel hack

/-- The lamp completes its handshake. -/
theorem Inv.handshake (hinv : Inv cfg k)
    (h : k.lampStep cfg (.handshaken true) = some k') : Inv cfg k' := by
  obtain ⟨-, hpending, rfl, hsound⟩ := lampStep_eq_some hinv.sound h
  refine ⟨hsound, ?_⟩
  cases hinv.phase with
  | connecting hsilent hstate hhandshakes hup hdown huri hread =>
    have hacked : ¬Acked (k.lamp.assign .registering .registerReq) :=
      acked_assign (by decide) hsilent.acked
    have hnone : k.lamp.handshakes - 1 = 0 := by omega
    have hstate' : { k.lamp with handshakes := k.lamp.handshakes - 1 }.state = .unregistered :=
      hstate
    have hafter : k.lamp.after cfg (.handshaken true) =
        { k.lamp with handshakes := k.lamp.handshakes - 1 }.connectedUp cfg := rfl
    rw [hafter, connectedUp_of_unregistered hstate']
    by_cases hfits : cfg.uri.length ≤ 65535
    · rw [if_pos hfits]
      refine .asking ⟨hacked, hsilent.pendingFault, hsilent.heartbeatWaits, Or.inr rfl⟩ hfits rfl
        hnone ?_ hdown huri hread
      have hpost := SendQueue.sent_post (q := k.lamp.queue) (registerFrame cfg)
      rw [hup] at hpost
      exact hpost
    · rw [if_neg hfits]
      refine .closed ⟨hacked, hsilent.pendingFault, hsilent.heartbeatWaits, Or.inr rfl⟩ hnone ?_ ?_
      · exact le_of_eq_of_le (congrArg List.length hup) (Nat.zero_le _)
      · rw [hdown]
        simp
  | asking _ _ _ hhandshakes => exact absurd hhandshakes hpending
  | closed _ hhandshakes => exact absurd hhandshakes hpending
  | waiting _ _ hhandshakes => exact absurd hhandshakes hpending
  | serving _ hhandshakes => exact absurd hhandshakes hpending

/-- A posted send of the lamp runs. -/
theorem Inv.lampPosted (hinv : Inv cfg k) (h : k.lampStep cfg .posted = some k') :
    Inv cfg k' := by
  obtain ⟨-, ⟨q, hq⟩, rfl, hsound⟩ := lampStep_eq_some hinv.sound h
  refine ⟨hsound, hinv.phase.same ⟨⟨q, ?_, SendQueue.sent_runPosted hq⟩, rfl, rfl, rfl, rfl, rfl⟩⟩
  simp only [after, hq]

/-- A heartbeat does not change the state of the lamp. -/
private theorem after_heartbeat (cfg : LampConfig) (l : Lamp) (cancelled : Bool) :
    (l.after cfg (.heartbeatTimer cancelled)).state = l.state ∧
      (l.after cfg (.heartbeatTimer cancelled)).handshakes = l.handshakes := by
  cases cancelled with
  | true => exact ⟨rfl, rfl⟩
  | false =>
    simp only [after, Bool.false_eq_true, if_false]
    rw [scheduleHeartbeat_eq]
    split <;> exact ⟨rfl, rfl⟩

/-- A heartbeat wait completes. -/
theorem Inv.heartbeat {cancelled : Bool} (hinv : Inv cfg k)
    (h : k.lampStep cfg (.heartbeatTimer cancelled) = some k') : Inv cfg k' := by
  obtain ⟨halive, hpending, rfl, hsound⟩ := lampStep_eq_some hinv.sound h
  refine ⟨hsound, ?_⟩
  cases hinv.phase with
  | connecting hsilent => exact absurd hsilent.heartbeatWaits hpending
  | asking hsilent => exact absurd hsilent.heartbeatWaits hpending
  | closed hsilent => exact absurd hsilent.heartbeatWaits hpending
  | waiting hsilent => exact absurd hsilent.heartbeatWaits hpending
  | serving hregistered hhandshakes hread hpipeline hdown =>
    have hready := hinv.sound.ready halive (Or.inr (Or.inl hpending))
    obtain ⟨hpipeline', hread'⟩ := hpipeline.continues hread fun v hagrees =>
      continues_heartbeat hready hagrees hregistered cancelled
    obtain ⟨hstate', hhandshakes'⟩ := after_heartbeat cfg k.lamp cancelled
    refine .serving ?_ (hhandshakes'.trans hhandshakes) hread' hpipeline' hdown
    rw [Registered, hstate']
    exact hregistered

/-- A write of the lamp completes. -/
theorem Inv.lampWritten {i : ℕ} (hinv : Inv cfg k)
    (h : k.lampStep cfg (.writeDone i true) = some k') : Inv cfg k' := by
  obtain ⟨halive, ⟨q, hq⟩, rfl, hsound⟩ := lampStep_eq_some hinv.sound h
  have hsent := SendQueue.sent_complete hq
  have hafter : k.lamp.after cfg (.writeDone i true) = k.lamp.written cfg q true := by
    simp only [after, hq]
  refine ⟨hsound, ?_⟩
  rw [hafter]
  have hmoved : k.lamp.pendingFault = false →
      Phase cfg { k with lamp := k.lamp.written cfg q true } := by
    intro hclear
    exact hinv.phase.same
      ⟨⟨q.doWrite, written_of_clear hclear q, SendQueue.sent_doWrite.trans hsent⟩,
        rfl, rfl, rfl, rfl, rfl⟩
  cases hinv.phase with
  | connecting hsilent => exact hmoved hsilent.pendingFault
  | asking hsilent => exact hmoved hsilent.pendingFault
  | closed hsilent => exact hmoved hsilent.pendingFault
  | waiting hsilent => exact hmoved hsilent.pendingFault
  | serving hregistered hhandshakes hread hpipeline hdown =>
    have hready : k.lamp.pendingFault = true → Ready cfg k.lamp := fun hpending =>
      hinv.sound.ready halive (Or.inr (Or.inr hpending))
    obtain ⟨hpipeline', hread'⟩ := hpipeline.continues hread fun v hagrees =>
      continues_written hready hagrees hsent
    have hregistered' : Registered (k.lamp.written cfg q true) := by
      unfold Registered Lamp.state
      rw [written_fsm]
      exact hregistered
    exact .serving hregistered' ((written_handshakes q).trans hhandshakes) hread' hpipeline' hdown

/-- Giving up the connection keeps a lamp silent. -/
private theorem Silent.scheduleReconnect (hsilent : Silent l) :
    Silent l.scheduleReconnect ∧
      l.scheduleReconnect.queue.sent.length ≤ l.queue.sent.length := by
  refine ⟨⟨?_, ?_, ?_, Or.inl scheduleReconnect_state⟩, ?_⟩
  · rintro ⟨c, hc, hack⟩
    rw [scheduleReconnect_log] at hc
    rcases List.mem_append.mp hc with hold | hnew
    · exact hsilent.acked ⟨c, hold, hack⟩
    · split at hnew
      · cases hnew
      · obtain rfl := List.mem_singleton.mp hnew
        cases hack
  · rw [scheduleReconnect_pendingFault]
    exact hsilent.pendingFault
  · rw [scheduleReconnect_eq]
    exact hsilent.heartbeatWaits
  · rw [scheduleReconnect_queue]
    exact SendQueue.length_sent_reset

/-- A silent lamp stays silent, unless it accepts a registration. -/
private theorem Silent.reaction {body : Bytes} {draw : Fin 1000} {t : Lamp} (hsilent : Silent l)
    (hack : frameType body ≠ some .registerAck) (hreaction : Reaction cfg l body draw t) :
    Silent t ∧ t.queue.sent.length ≤ l.queue.sent.length := by
  have hnot : ∀ c, ¬l.Obeys c := by
    intro c
    rcases hsilent.state with h | h <;> simp [Obeys, h]
  cases hreaction with
  | acked htype => exact absurd htype hack
  | nacked htype =>
    unfold nacked
    split
    · have hassign : Silent (l.assign .unregistered .registerNack) :=
        ⟨acked_assign (by decide) hsilent.acked, hsilent.pendingFault, hsilent.heartbeatWaits,
          Or.inl rfl⟩
      exact hassign.scheduleReconnect
    · exact hsilent.scheduleReconnect
  | obeyed c _ hobeys => exact absurd hobeys (hnot c)
  | faulted c _ hobeys => exact absurd hobeys (hnot c)
  | kept w =>
    exact ⟨⟨hsilent.acked, hsilent.pendingFault, hsilent.heartbeatWaits, hsilent.state⟩, le_rfl⟩

/-- A frame completes no handshake. -/
private theorem reaction_handshakes {body : Bytes} {draw : Fin 1000} {t : Lamp}
    (hreaction : Reaction cfg l body draw t) : t.handshakes = l.handshakes := by
  cases hreaction with
  | acked =>
    rw [acked, scheduleHeartbeat_eq]
    rfl
  | nacked =>
    rw [nacked, scheduleReconnect_eq]
    split <;> rfl
  | obeyed c =>
    have heq := congrArg Lamp.handshakes (switched_eq (l := l) c)
    exact heq
  | faulted c =>
    have heq := congrArg Lamp.handshakes (switched_eq (l := l) c)
    unfold detected
    split <;> exact heq
  | kept => rfl

/-- The lamp reads the next frame. -/
theorem Inv.lampFrame {m : OutMsg} {draw : Fin 1000} (hinv : Inv cfg k)
    (hm : k.session.queue.written[k.atLamp]? = some m)
    (h : { k with atLamp := k.atLamp + 1 }.lampStep cfg (.frame m.body draw) = some k') :
    Inv cfg k' := by
  have hbefore : Sound cfg { k with atLamp := k.atLamp + 1 }.lamp := hinv.sound
  obtain ⟨halive, ⟨hreads, -⟩, rfl, hsound⟩ := lampStep_eq_some hbefore h
  have hready := hinv.sound.ready halive (Or.inl hreads)
  have hready' : Ready cfg { k.lamp with reads := k.lamp.reads - 1 } := ⟨hready.sock, hready.fits⟩
  have hreaction := received_reaction cfg { k.lamp with reads := k.lamp.reads - 1 } m.body draw
  have hnext := SendQueue.sent_of_written hm
  have htype : frameType m.body = some m.type := rfl
  have hsame := reaction_handshakes hreaction
  refine ⟨hsound, ?_⟩
  cases hinv.phase with
  | connecting hsilent hstate hhandshakes hup hdown huri hread => simp [hdown] at hnext
  | asking hsilent hfits hstate hhandshakes hup hdown huri hread => simp [hdown] at hnext
  | closed hsilent hhandshakes hup hdown =>
    rw [hnext] at hdown
    have hack : frameType m.body ≠ some .registerAck := by
      rw [htype]
      exact fun h => hdown m List.mem_cons_self (Option.some.inj h)
    have hwaits : Silent { k.lamp with reads := k.lamp.reads - 1 } :=
      ⟨hsilent.acked, hsilent.pendingFault, hsilent.heartbeatWaits, hsilent.state⟩
    obtain ⟨hsilent', hlength⟩ := hwaits.reaction hack hreaction
    refine .closed ⟨hsilent'.acked, hsilent'.pendingFault, hsilent'.heartbeatWaits,
      hsilent'.state⟩ (hsame.trans hhandshakes) (hlength.trans hup) fun m' hm' => ?_
    exact hdown m' (List.mem_cons_of_mem m hm')
  | waiting hsilent hstate hhandshakes hread hpipeline hdown =>
    obtain ⟨ack, rest, hcons, hack, hplain⟩ := hdown
    rw [hnext] at hcons
    obtain ⟨rfl, rfl⟩ := List.cons.inj hcons
    have hregistering : { k.lamp with reads := k.lamp.reads - 1 }.state = .registering := hstate
    have hreceived : { k.lamp with reads := k.lamp.reads - 1 }.received cfg m.body draw =
        { k.lamp with reads := k.lamp.reads - 1 }.acked cfg := by
      have hack' : frameType m.body = some .registerAck := congrArg some hack
      rw [received, if_pos hack', if_pos (Or.inl hregistering)]
    have hnofault : { k.lamp with reads := k.lamp.reads - 1 }.state ≠ .fault := by
      rw [hregistering]
      decide
    have hcontinues : ∀ v, Agrees cfg k.lamp v →
        Continues cfg k.lamp v (k.lamp.after cfg (.frame m.body draw)) := by
      intro v hagrees
      have hlatched : Latched { k.lamp with reads := k.lamp.reads - 1 } v :=
        ⟨hagrees.clear, hagrees.latched⟩
      have hacked := continues_acked hready' hlatched hnofault
      rw [← hreceived] at hacked
      exact hacked.of_eq rfl rfl rfl rfl
    obtain ⟨hpipeline', hread'⟩ := hpipeline.continues hread hcontinues
    refine .serving (Or.inl ?_) (hsame.trans hhandshakes) hread' hpipeline' hplain
    have hoff : ({ k.lamp with reads := k.lamp.reads - 1 }.received cfg m.body draw).state =
        .off := by
      rw [hreceived, acked, scheduleHeartbeat_state]
      rfl
    exact hoff
  | serving hregistered hhandshakes hread hpipeline hdown =>
    rw [hnext] at hdown
    have hplain := hdown m List.mem_cons_self
    have hack : frameType m.body ≠ some .registerAck := fun h => hplain.1 (Option.some.inj h)
    have hnack : frameType m.body ≠ some .registerNack := fun h => hplain.2 (Option.some.inj h)
    have hreacts : ∀ v, Agrees cfg k.lamp v →
        Continues cfg k.lamp v (k.lamp.after cfg (.frame m.body draw)) ∧
          Registered (k.lamp.after cfg (.frame m.body draw)) := by
      intro v hagrees
      have hagrees' : Agrees cfg { k.lamp with reads := k.lamp.reads - 1 } v :=
        ⟨⟨hagrees.clear, hagrees.latched⟩, hagrees.values⟩
      obtain ⟨hcontinues, hregistered'⟩ :=
        continues_reaction hready' hagrees' hregistered hack hnack hreaction
      exact ⟨hcontinues.of_eq rfl rfl rfl rfl, hregistered'⟩
    obtain ⟨hpipeline', hread'⟩ := hpipeline.continues hread fun v h => (hreacts v h).1
    obtain ⟨st, ms, -, -, -, hagrees⟩ := hpipeline
    exact .serving (hreacts _ hagrees).2 (hsame.trans hhandshakes) hread' hpipeline' fun m' hm' =>
      hdown m' (List.mem_cons_of_mem m hm')

end Link

end SmartLighting
