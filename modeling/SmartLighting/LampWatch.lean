import SmartLighting.LampReports
import SmartLighting.LampSpeech
import SmartLighting.RegionTicks
import SmartLighting.SilentDevices
import Mathlib.Data.List.Chain

/-!
# A lamp under the comm-lost timer

A registered lamp reports its status whenever it arms its heartbeat. Where the heartbeat keeps time
and these reports reach the region in time, the comm-lost timer never reports a registered lamp as
lost, whatever anybody else sends, even in the name of the lamp.
-/

namespace SmartLighting

open StateMachine Transition

/-- A status that a lamp has queued together with its heartbeat. -/
structure Beat where
  /-- When it was queued. -/
  time : ℕ
  /-- Its place among the frames of the lamp. -/
  place : ℕ
  /-- It has reached the region. -/
  arrived : Bool
  deriving DecidableEq

/-- The frame at a place has reached the region. -/
def Beat.arrive (n : ℕ) (beat : Beat) : Beat :=
  if beat.place = n then { beat with arrived := true } else beat

@[simp] theorem Beat.arrive_time (n : ℕ) (beat : Beat) : (beat.arrive n).time = beat.time := by
  unfold Beat.arrive
  split <;> rfl

@[simp] theorem Beat.arrive_place (n : ℕ) (beat : Beat) : (beat.arrive n).place = beat.place := by
  unfold Beat.arrive
  split <;> rfl

/-- A lamp and its region, with a record of the heartbeat. -/
structure LampWatch where
  /-- The lamp. -/
  lamp : Lamp
  /-- The region. -/
  region : Region
  /-- The time of the last event. -/
  time : ℕ
  /-- When the lamp was last registered. -/
  since : ℕ
  /-- The beats since then, the last one first. -/
  beats : List Beat

namespace LampWatch

/-- The lamp and the region start at the given time. -/
def start (cfg : LampConfig) (now : ℕ) : LampWatch := ⟨.start cfg, .start, now, now, []⟩

/-- What can happen. -/
inductive Event
  /-- A handler of the lamp. -/
  | lamp (e : Lamp.Event) (now : ℕ)
  /-- A frame that the lamp has written reaches the region. -/
  | arrive (n session : ℕ) (clock : Clock)
  /-- Any handler of the region. -/
  | region (e : Region.Event)

/-- The lamp is registered, and its process runs. -/
def Runs (l : Lamp) : Prop := l.stopped = false ∧ l.Registered

instance (l : Lamp) : Decidable (Runs l) := inferInstanceAs (Decidable (_ ∧ (_ ∨ _ ∨ _)))

/-- How many waits of the heartbeat an event completes. -/
def fired : Lamp.Event → ℕ
  | .heartbeatTimer _ => 1
  | _ => 0

/-- The handler of an event has armed the heartbeat. -/
def Arms (l : Lamp) (e : Lamp.Event) (t : Lamp) : Prop :=
  l.heartbeatWaits < t.heartbeatWaits + fired e

instance (l : Lamp) (e : Lamp.Event) (t : Lamp) : Decidable (Arms l e t) :=
  inferInstanceAs (Decidable (_ < _))

/-- The beats after a handler of the lamp. -/
def beatsAfter (w : LampWatch) (e : Lamp.Event) (now : ℕ) (t : Lamp) : List Beat :=
  if ¬Runs t then []
  else if Arms w.lamp e t then ⟨now, w.lamp.queue.sent.length, false⟩ :: w.beats
  else w.beats

/-- The time of an event. -/
def now (w : LampWatch) : Event → ℕ
  | .lamp _ now => now
  | .arrive _ _ clock => clock.nowMs.toNat
  | .region e => e.nowMs.elim w.time UInt64.toNat

/-- One handler of either process. -/
def handle (cfg : LampConfig) (rcfg : RegionConfig) (w : LampWatch) : Event → Option LampWatch
  | .lamp e now =>
    (Lamp.step cfg w.lamp e).map fun lamp =>
      { w with
        lamp := lamp
        time := now
        since := if Runs w.lamp then w.since else now
        beats := w.beatsAfter e now lamp }
  | .arrive n session clock =>
    w.lamp.queue.written[n]?.bind fun frame =>
      (Region.step rcfg w.region (.frame session frame.body clock)).map fun region =>
        { w with
          region := region
          time := clock.nowMs.toNat
          beats := w.beats.map (Beat.arrive n) }
  | .region e =>
    (Region.step rcfg w.region e).map fun region =>
      { w with region := region, time := w.now (.region e) }

/-- The time does not run past the next beat, or past the arrival of a beat. -/
structure Timely (period delay : ℕ) (w : LampWatch) (now : ℕ) : Prop where
  /-- It does not run back. -/
  forward : w.time ≤ now
  /-- The heartbeat is armed anew after a period. -/
  heartbeat : ∀ beat ∈ w.beats.head?, now ≤ beat.time + period
  /-- A beat arrives after a delay. -/
  arrivals : ∀ beat ∈ w.beats, beat.arrived = false → now ≤ beat.time + delay

instance (period delay : ℕ) (w : LampWatch) (now : ℕ) : Decidable (w.Timely period delay now) :=
  decidable_of_iff (w.time ≤ now ∧ (∀ beat ∈ w.beats.head?, now ≤ beat.time + period) ∧
      ∀ beat ∈ w.beats, beat.arrived = false → now ≤ beat.time + delay)
    ⟨fun h => ⟨h.1, h.2.1, h.2.2⟩, fun h => ⟨h.forward, h.heartbeat, h.arrivals⟩⟩

/-- One handler, in time. -/
def step (cfg : LampConfig) (rcfg : RegionConfig) (period delay : ℕ) :
    LampWatch → Event → Option LampWatch :=
  restrict (fun w e => w.Timely period delay (w.now e)) (handle cfg rcfg)

/-- A tick of the timer does not report the lamp when it has been registered for longer than the
delay. -/
def Spared (cfg : LampConfig) (delay : ℕ) (w : LampWatch) (e : Event) (t : LampWatch) : Prop :=
  ∀ clock, e = .region (.tick clock) → Runs w.lamp → w.since + delay < clock.nowMs.toNat →
    cfg.uri ∉ t.region.activeLost ∧
      t.region.commLostAlarms cfg.uri = w.region.commLostAlarms cfg.uri

/-! ## What the lamp queues -/

variable {cfg : LampConfig} {l t : Lamp} {e : Lamp.Event}

/-- What a handler that leaves the lamp registered does to its frames and its heartbeat. -/
structure Beats (cfg : LampConfig) (l : Lamp) (e : Lamp.Event) (t : Lamp) : Prop where
  /-- No frame is dropped. -/
  grows : l.queue.sent <+: t.queue.sent
  /-- Whoever arms the heartbeat queues a status. -/
  beat : Arms l e t → ∃ l' : Lamp, t.queue.sent[l.queue.sent.length]? = some (l'.statusFrame cfg)
  /-- The heartbeat is armed whenever the lamp is registered. -/
  ran : ¬Arms l e t → Runs l

/-- A handler that does not touch the heartbeat. -/
private theorem Beats.quiet (hwaits : t.heartbeatWaits + fired e = l.heartbeatWaits)
    (hgrows : l.queue.sent <+: t.queue.sent) (hran : Runs l) : Beats cfg l e t := by
  have hquiet : ¬Arms l e t := by
    rw [Arms, hwaits]
    exact lt_irrefl _
  exact ⟨hgrows, fun harms => absurd harms hquiet, fun _ => hran⟩

/-- A handler that does not touch the lamp's frames either. -/
private theorem Beats.same (hwaits : t.heartbeatWaits + fired e = l.heartbeatWaits)
    (hsent : t.queue.sent = l.queue.sent) (hran : Runs l) : Beats cfg l e t :=
  .quiet hwaits (by rw [hsent]) hran

/-- A handler that queues the status and arms the heartbeat. -/
private theorem Beats.armed (l' : Lamp) (harms : Arms l e t)
    (hsent : t.queue.sent = l.queue.sent ++ [l'.statusFrame cfg]) : Beats cfg l e t := by
  refine ⟨by rw [hsent]; exact List.prefix_append .., fun _ => ⟨l', ?_⟩, fun h => absurd harms h⟩
  rw [hsent, List.getElem?_append_right le_rfl, Nat.sub_self]
  rfl

/-- A lamp that has yet to be registered is not. -/
private theorem not_runs_of_state (hstate : l.state = .unregistered ∨ l.state = .registering) :
    ¬Runs l := by
  rintro ⟨-, hregistered⟩
  unfold Lamp.Registered at hregistered
  rcases hstate with h | h <;> simp [h] at hregistered

/-- A lamp that gives up its connection has. -/
private theorem not_runs_scheduleReconnect (l : Lamp) : ¬Runs l.scheduleReconnect :=
  not_runs_of_state (Or.inl Lamp.scheduleReconnect_state)

/-- So has one that asks for its registration. -/
private theorem not_runs_connectedUp (l : Lamp) : ¬Runs (l.connectedUp cfg) := by
  have hstate : (l.connectedUp cfg).state = .registering := by
    rw [Lamp.state, Lamp.connectedUp_fsm]
    split
    · assumption
    split <;> rfl
  exact not_runs_of_state (Or.inr hstate)

/-- A detected fault adds to the frames. -/
private theorem grows_detected (l : Lamp) : l.queue.sent <+: (l.detected cfg).queue.sent := by
  unfold Lamp.detected
  split
  · exact List.prefix_refl _
  · exact ⟨[Lamp.faultFrame cfg], (SendQueue.sent_post _).symm⟩

/-- So does a status. -/
private theorem grows_reported (l : Lamp) : l.queue.sent <+: (l.reported cfg).queue.sent :=
  ⟨[l.statusFrame cfg], (SendQueue.sent_post _).symm⟩

/-- Obeying a command leaves the frames and the heartbeat. -/
private theorem sent_switched (l : Lamp) (c : Command) :
    (l.switched c).queue.sent = l.queue.sent ∧
      (l.switched c).heartbeatWaits = l.heartbeatWaits := by
  rw [Lamp.switched_eq]
  exact ⟨rfl, rfl⟩

/-- A lamp that obeys is registered. -/
private theorem registered_of_obeys {c : Command} (hobeys : l.Obeys c) : l.Registered := by
  rcases hobeys with ⟨-, hoff⟩ | ⟨-, hon⟩ | ⟨-, hon | hoff⟩
  · exact Or.inl hoff
  · exact Or.inr (Or.inl hon)
  · exact Or.inr (Or.inl hon)
  · exact Or.inl hoff

/-- Detecting a fault leaves the heartbeat. -/
private theorem heartbeatWaits_detected (l : Lamp) :
    (l.detected cfg).heartbeatWaits = l.heartbeatWaits := by
  unfold Lamp.detected
  split <;> rfl

/-- A frame that leaves the lamp registered. -/
private theorem beats_reaction (hheart : 0 < cfg.heartbeatS) (halive : l.stopped = false)
    {body : Bytes} {draw : Fin 1000} (h : Lamp.Reaction cfg l body draw t) (hruns : Runs t) :
    Beats cfg l (.frame body draw) t := by
  cases h with
  | acked htype hstate =>
    have hwaits : (l.acked cfg).heartbeatWaits = l.heartbeatWaits + 1 := by
      rw [Lamp.acked, Lamp.scheduleHeartbeat, if_neg (by omega)]
      rfl
    refine .armed ((l.assign .off .registerAck).setIntensity 0) ?_ ?_
    · rw [Arms, hwaits]
      exact Nat.lt_succ_self _
    · rw [Lamp.acked, Lamp.scheduleHeartbeat_queue]
      exact SendQueue.sent_post _
  | nacked htype => exact absurd hruns (not_runs_scheduleReconnect _)
  | obeyed c hc hobeys hquiet =>
    obtain ⟨hsent, hwaits⟩ := sent_switched l c
    refine .quiet hwaits ?_ ⟨halive, registered_of_obeys hobeys⟩
    rw [← hsent]
    exact grows_reported _
  | faulted c hc hobeys hcmd hdraw =>
    obtain ⟨hsent, hwaits⟩ := sent_switched l c
    refine .quiet ((heartbeatWaits_detected _).trans hwaits) ?_
      ⟨halive, registered_of_obeys hobeys⟩
    rw [← hsent]
    exact (grows_reported _).trans (grows_detected _)
  | kept v hack hnack hobeys hv => exact .same rfl rfl ⟨halive, hruns.2⟩

/-- After a write the lamp still has all its frames, and its heartbeat. -/
private theorem grows_written {q : SendQueue} (hq : q.sent = l.queue.sent) :
    l.queue.sent <+: (l.written cfg q true).queue.sent ∧
      (l.written cfg q true).heartbeatWaits = l.heartbeatWaits := by
  refine ⟨?_, (congrArg Lamp.heartbeatWaits (Lamp.written_eq q) :)⟩
  cases hpending : l.pendingFault with
  | true =>
    rw [Lamp.written_of_pending hpending]
    refine ⟨[Lamp.faultFrame cfg], ?_⟩
    rw [← hq]
    exact (SendQueue.sent_doWrite.trans (SendQueue.sent_post _)).symm
  | false =>
    rw [Lamp.written_of_clear hpending, ← hq]
    exact ⟨[], (List.append_nil _).trans SendQueue.sent_doWrite.symm⟩

/-- A beat of the heartbeat. -/
private theorem beats_heartbeat (hheart : 0 < cfg.heartbeatS)
    (hwaits : l.heartbeatWaits - 1 + 1 = l.heartbeatWaits)
    (hruns : Runs (l.after cfg (.heartbeatTimer false))) :
    Beats cfg l (.heartbeatTimer false) (l.after cfg (.heartbeatTimer false)) := by
  have hregistered : l.state = .on ∨ l.state = .off ∨ l.state = .fault := by
    have hstate : (l.after cfg (.heartbeatTimer false)).state = l.state := by
      simp only [Lamp.after, Bool.false_eq_true, if_false, Lamp.scheduleHeartbeat_state]
      split <;> rfl
    have h := hruns.2
    rw [Lamp.Registered, hstate] at h
    tauto
  have hafter : l.after cfg (.heartbeatTimer false) =
      ({ l with heartbeatWaits := l.heartbeatWaits - 1 }.reported cfg).scheduleHeartbeat cfg :=
    congrArg (Lamp.scheduleHeartbeat cfg) (if_pos hregistered)
  rw [hafter]
  refine .armed l ?_ ?_
  · rw [Arms, Lamp.scheduleHeartbeat, if_neg (by omega)]
    exact Nat.lt_succ_of_le hwaits.ge
  · rw [Lamp.scheduleHeartbeat_queue]
    exact SendQueue.sent_post _

/-- **Step lemma.** A handler that leaves the lamp registered keeps its frames, and arms the
heartbeat with a status. -/
theorem beats_step (hheart : 0 < cfg.heartbeatS) (hsound : Lamp.Sound cfg l)
    (h : Lamp.step cfg l e = some t) (hruns : Runs t) : Beats cfg l e t := by
  obtain ⟨halive, hpending, rfl⟩ := Lamp.step_eq hsound h
  cases e with
  | resolved ok =>
    cases ok with
    | true => exact .same rfl rfl hruns
    | false => exact absurd hruns (not_runs_scheduleReconnect _)
  | connected ok =>
    cases ok with
    | true => exact .same rfl rfl hruns
    | false => exact absurd hruns (not_runs_scheduleReconnect _)
  | handshaken ok =>
    cases ok with
    | true => exact absurd hruns (not_runs_connectedUp _)
    | false => exact absurd hruns (not_runs_scheduleReconnect _)
  | posted =>
    obtain ⟨q, hq⟩ := hpending
    simp only [Lamp.after, hq] at hruns ⊢
    exact .same rfl (SendQueue.sent_runPosted hq) hruns
  | writeDone i ok =>
    obtain ⟨q, hq⟩ := hpending
    simp only [Lamp.after, hq] at hruns ⊢
    cases ok with
    | true =>
      obtain ⟨hgrows, hwaits⟩ := grows_written (SendQueue.sent_complete hq)
      refine .quiet hwaits hgrows ⟨halive, ?_⟩
      have hfsm : (l.written cfg q true).fsm = l.fsm := Lamp.written_fsm q
      have hregistered := hruns.2
      unfold Lamp.Registered Lamp.state at hregistered ⊢
      rwa [hfsm] at hregistered
    | false => exact absurd hruns (not_runs_scheduleReconnect _)
  | readFailed => exact absurd hruns (not_runs_scheduleReconnect _)
  | frame body draw =>
    -- One read loop less makes no difference to what is recorded of the lamp.
    have hreaction := Lamp.received_reaction cfg { l with reads := l.reads - 1 } body draw
    have hbeats := beats_reaction (l := { l with reads := l.reads - 1 }) hheart halive hreaction
      hruns
    exact ⟨hbeats.grows, hbeats.beat, hbeats.ran⟩
  | registerTimer cancelled =>
    cases cancelled with
    | true => exact .same rfl rfl hruns
    | false =>
      simp only [Lamp.after, Bool.false_eq_true, if_false] at hruns ⊢
      split at hruns
      · exact absurd hruns (not_runs_scheduleReconnect _)
      · next hother =>
        rw [if_neg hother]
        exact .same rfl rfl hruns
  | reconnectTimer cancelled =>
    cases cancelled with
    | true => exact .same rfl rfl hruns
    | false => exact .same rfl rfl hruns
  | heartbeatTimer cancelled =>
    have hwaits : l.heartbeatWaits - 1 + 1 = l.heartbeatWaits :=
      Nat.succ_pred_eq_of_ne_zero hpending
    cases cancelled with
    | true => exact .same hwaits rfl hruns
    | false =>
      exact beats_heartbeat hheart hwaits hruns
  | resetTimer =>
    simp only [Lamp.after] at hruns ⊢
    split at hruns
    · exact absurd hruns (not_runs_scheduleReconnect _)
    · next hother =>
      rw [if_neg hother]
      exact .same rfl rfl hruns
  | stopTimer => exact absurd hruns.1 Bool.true_eq_false_eq_False

/-! ## When the region has seen the lamp -/

variable {rcfg : RegionConfig} {r r' : Region} {v : Bytes} {st : DeviceState}

/-- An entry was last seen when it was last seen before the handler, or in the handler. -/
private theorem seen_step {e : Region.Event} (h : Region.step rcfg r e = some r')
    (hget : r'.reg.get v = some st) :
    (∃ old, r.reg.get v = some old ∧ old.lastSeenMs = st.lastSeenMs) ∨
      e.nowMs = some st.lastSeenMs := by
  rcases Region.step_cases h with ⟨clock, -, hticks⟩ | ⟨-, hstores⟩
  · rw [hticks.get] at hget
    obtain ⟨old, hold, rfl⟩ := Option.map_eq_some_iff.mp hget
    refine Or.inl ⟨old, hold, ?_⟩
    unfold Registry.latch
    split <;> rfl
  · by_cases hstored : ∃ st', r.stored e = some (v, st')
    · obtain ⟨st', hst'⟩ := hstored
      rw [hstores.get_stored hst'] at hget
      cases hget
      exact Or.inr (Region.nowMs_of_stored hst')
    · rw [hstores.get_other (not_exists.mp hstored)] at hget
      exact Or.inl ⟨st, hget, rfl⟩

/-- A status that arrives renews the entry, if there is one. -/
private theorem seen_status {k : ℕ} {body : Bytes} {clock : Clock} {report : StatusReport}
    (hm : DeviceMessage.ofBody body = some (.status report))
    (h : Region.step rcfg r (.frame k body clock) = some r')
    (hget : r'.reg.get report.uri = some st) : st.lastSeenMs = clock.nowMs := by
  have hstores := Region.stores_step h (by simp [Region.Event.IsTick])
  cases hst : (r.sessions k).statusState report clock (r.reg.get report.uri) with
  | some st' =>
    have hstored := (Region.Storing.status (r := r) k clock hm hst).stored_eq
    rw [hstores.get_stored hstored] at hget
    cases hget
    exact (DeviceSession.statusState_eq_some hst).1
  | none =>
    have hnone : r.reg.get report.uri = none := by
      cases hold : r.reg.get report.uri with
      | none => rfl
      | some old =>
        rw [hold] at hst
        cases hst
    have hunstored : ∀ st', r.stored (.frame k body clock) ≠ some (report.uri, st') := by
      intro st' hstored
      simp only [Region.stored, DeviceSession.stored, hm, hst, Option.map_none] at hstored
      cases hstored
    rw [hstores.get_other hunstored, hnone] at hget
    cases hget

/-! ## The beats -/

variable {period delay : ℕ} {w w' : LampWatch} {beats : List Beat} {now : ℕ}

/-- Once a beat has arrived, one of the last period and delay has. -/
private theorem exists_recent
    (hrhythm : beats.IsChain fun newer older => newer.time ≤ older.time + period)
    (hlast : ∀ beat ∈ beats.head?, now ≤ beat.time + period + delay)
    (harrivals : ∀ beat ∈ beats, beat.arrived = false → now ≤ beat.time + delay)
    (hsome : ∃ beat ∈ beats, beat.arrived = true) :
    ∃ beat ∈ beats, beat.arrived = true ∧ now ≤ beat.time + period + delay := by
  induction beats with
  | nil => exact absurd hsome (by simp)
  | cons newest older ih =>
    cases harrived : newest.arrived with
    | true => exact ⟨newest, List.mem_cons_self, harrived, hlast newest rfl⟩
    | false =>
      -- The newest beat is still on its way, so the one before is not too old either.
      have hdue := harrivals newest List.mem_cons_self harrived
      obtain ⟨hgap, hrest⟩ := List.isChain_cons.mp hrhythm
      have hlast' : ∀ beat ∈ older.head?, now ≤ beat.time + period + delay := by
        intro beat hbeat
        have h := hgap beat hbeat
        omega
      have hsome' : ∃ beat ∈ older, beat.arrived = true := by
        obtain ⟨beat, hbeat, hbeat'⟩ := hsome
        rcases List.mem_cons.mp hbeat with rfl | hold
        · rw [harrived] at hbeat'
          cases hbeat'
        · exact ⟨beat, hold, hbeat'⟩
      obtain ⟨beat, hbeat, h⟩ := ih hrest hlast'
        (fun beat hbeat => harrivals beat (List.mem_cons_of_mem _ hbeat)) hsome'
      exact ⟨beat, List.mem_cons_of_mem _ hbeat, h⟩

/-- A frame holds a status of the lamp. -/
def HoldsStatus (cfg : LampConfig) (frame : OutMsg) : Prop :=
  ∃ report : StatusReport, report.uri = cfg.uri ∧
    DeviceMessage.ofBody frame.body = some (.status report)

/-- The frames of the status do. -/
private theorem holdsStatus_statusFrame (hsound : Lamp.Sound cfg l) (hruns : Runs l) (l' : Lamp) :
    HoldsStatus cfg (l'.statusFrame cfg) := by
  have hready : Lamp.Ready cfg l := by
    refine ⟨hsound.sock, ?_⟩
    by_contra hlong
    have hstate := (hsound.fits hruns.1 (not_le.mp hlong)).1
    exact not_runs_of_state (Or.inl hstate) hruns
  refine ⟨l'.statusReport cfg, rfl, DeviceMessage.ofBody_encode ?_⟩
  rw [DeviceMessage.encode, Lamp.encode_statusReport hready]
  rfl

/-- What holds between two handlers. -/
structure Inv (cfg : LampConfig) (period : ℕ) (w : LampWatch) : Prop where
  /-- The lamp is sound. -/
  sound : Lamp.Sound cfg w.lamp
  /-- The first beat of a registered lamp is that of its registration. -/
  beating : Runs w.lamp → ∃ beat ∈ w.beats, beat.time = w.since
  /-- The beats are in the past. -/
  past : ∀ beat ∈ w.beats, beat.time ≤ w.time
  /-- They follow each other within a period. -/
  rhythm : w.beats.IsChain fun newer older => newer.time ≤ older.time + period
  /-- Their frames hold the status of the lamp. -/
  status : ∀ beat ∈ w.beats, ∃ frame,
    w.lamp.queue.sent[beat.place]? = some frame ∧ HoldsStatus cfg frame
  /-- The lamp was not seen in the future. -/
  seen : ∀ st, w.region.reg.get cfg.uri = some st → st.lastSeenMs.toNat ≤ w.time
  /-- It was seen when a beat arrived. -/
  heard : ∀ st, w.region.reg.get cfg.uri = some st →
    ∀ beat ∈ w.beats, beat.arrived = true → beat.time ≤ st.lastSeenMs.toNat

theorem inv_start (cfg : LampConfig) (period now : ℕ) : Inv cfg period (start cfg now) where
  sound := .start
  beating h := absurd h (not_runs_of_state (Or.inl rfl))
  past _ h := absurd h List.not_mem_nil
  rhythm := List.isChain_nil
  status _ h := absurd h List.not_mem_nil
  seen _ h := nomatch h
  heard _ h := nomatch h

/-- A frame keeps its place. -/
private theorem getElem?_of_grown {frames frames' : List OutMsg} {n : ℕ} {frame : OutMsg}
    (hgrown : frames <+: frames') (h : frames[n]? = some frame) : frames'[n]? = some frame := by
  obtain ⟨new, rfl⟩ := hgrown
  rw [List.getElem?_append_left (List.getElem?_eq_some_iff.mp h).1]
  exact h

/-- A handler of the lamp keeps the invariant. -/
private theorem Inv.lamp (hheart : 0 < cfg.heartbeatS) (h : Inv cfg period w)
    (htime : w.Timely period delay now) {l : Lamp} (hstep : Lamp.step cfg w.lamp e = some l) :
    Inv cfg period { w with
      lamp := l
      time := now
      since := if Runs w.lamp then w.since else now
      beats := w.beatsAfter e now l } := by
  have hsound := h.sound.step hstep
  have hseen : ∀ st, w.region.reg.get cfg.uri = some st → st.lastSeenMs.toNat ≤ now :=
    fun st hget => (h.seen st hget).trans htime.forward
  have hpast : ∀ beat ∈ w.beats, beat.time ≤ now :=
    fun beat hbeat => (h.past beat hbeat).trans htime.forward
  by_cases hruns : Runs l
  · have hbeats := beats_step hheart h.sound hstep hruns
    have hstatus : ∀ beat ∈ w.beats, ∃ frame,
        l.queue.sent[beat.place]? = some frame ∧ HoldsStatus cfg frame := fun beat hbeat =>
      (h.status beat hbeat).imp fun frame hframe =>
        ⟨getElem?_of_grown hbeats.grows hframe.1, hframe.2⟩
    by_cases harms : Arms w.lamp e l
    · obtain ⟨l', hl'⟩ := hbeats.beat harms
      have hafter : w.beatsAfter e now l =
          ⟨now, w.lamp.queue.sent.length, false⟩ :: w.beats := by
        rw [beatsAfter, if_neg (not_not.mpr hruns), if_pos harms]
      rw [hafter]
      refine ⟨hsound, fun _ => ?_, ?_, ?_, ?_, hseen, ?_⟩
      · by_cases hran : Runs w.lamp
        · obtain ⟨beat, hbeat, hsince⟩ := h.beating hran
          exact ⟨beat, List.mem_cons_of_mem _ hbeat, by rw [hsince, if_pos hran]⟩
        · exact ⟨_, List.mem_cons_self, by rw [if_neg hran]⟩
      · exact List.forall_mem_cons.mpr ⟨le_rfl, hpast⟩
      · exact List.isChain_cons.mpr ⟨htime.heartbeat, h.rhythm⟩
      · exact List.forall_mem_cons.mpr
          ⟨⟨_, hl', holdsStatus_statusFrame hsound hruns l'⟩, hstatus⟩
      · exact fun st hget => List.forall_mem_cons.mpr ⟨nofun, h.heard st hget⟩
    · have hran := hbeats.ran harms
      have hafter : w.beatsAfter e now l = w.beats := by
        rw [beatsAfter, if_neg (not_not.mpr hruns), if_neg harms]
      rw [hafter, if_pos hran]
      exact ⟨hsound, fun _ => h.beating hran, hpast, h.rhythm, hstatus, hseen, h.heard⟩
  · have hafter : w.beatsAfter e now l = [] := if_pos hruns
    rw [hafter]
    exact ⟨hsound, fun hran => absurd hran hruns, List.forall_mem_nil _, List.isChain_nil,
      List.forall_mem_nil _, hseen, fun _ _ => List.forall_mem_nil _⟩

/-- A handler of the region that hears of no beat keeps the invariant. -/
private theorem Inv.region (h : Inv cfg period w) {e : Region.Event} {r : Region}
    (htime : w.Timely period delay (w.now (.region e)))
    (hstep : Region.step rcfg w.region e = some r) :
    Inv cfg period { w with region := r, time := w.now (.region e) } := by
  have hentry : ∀ st, r.reg.get cfg.uri = some st →
      st.lastSeenMs.toNat ≤ w.now (.region e) ∧
        ∀ beat ∈ w.beats, beat.arrived = true → beat.time ≤ st.lastSeenMs.toNat := by
    intro st hget
    rcases seen_step hstep hget with ⟨old, hold, hsame⟩ | hnow
    · rw [← hsame]
      exact ⟨(h.seen old hold).trans htime.forward, h.heard old hold⟩
    · have heq : w.now (.region e) = st.lastSeenMs.toNat := by
        rw [LampWatch.now, hnow, Option.elim_some]
      refine ⟨heq.ge, fun beat hbeat _ => ?_⟩
      rw [← heq]
      exact (h.past beat hbeat).trans htime.forward
  exact ⟨h.sound, h.beating, fun beat hbeat => (h.past beat hbeat).trans htime.forward, h.rhythm,
    h.status, fun st hget => (hentry st hget).1, fun st hget => (hentry st hget).2⟩

/-- The arrival of a frame keeps the invariant. -/
private theorem Inv.arrive (h : Inv cfg period w) {n k : ℕ} {clock : Clock} {frame : OutMsg}
    {r : Region} (htime : w.Timely period delay clock.nowMs.toNat)
    (hframe : w.lamp.queue.written[n]? = some frame)
    (hstep : Region.step rcfg w.region (.frame k frame.body clock) = some r) :
    Inv cfg period { w with
      region := r
      time := clock.nowMs.toNat
      beats := w.beats.map (Beat.arrive n) } := by
  have hkept := h.region (e := .frame k frame.body clock) htime hstep
  have hplace : w.lamp.queue.sent[n]? = some frame :=
    getElem?_of_grown (List.prefix_append _ _) hframe
  refine ⟨h.sound, fun hran => ?_, ?_, ?_, ?_, hkept.seen, fun st hget => ?_⟩
  · obtain ⟨beat, hbeat, hsince⟩ := h.beating hran
    exact ⟨beat.arrive n, List.mem_map_of_mem hbeat, by rw [Beat.arrive_time, hsince]⟩
  · refine List.forall_mem_map.mpr fun beat hbeat => ?_
    rw [Beat.arrive_time]
    exact hkept.past beat hbeat
  · refine (List.isChain_map _).mpr ?_
    simp only [Beat.arrive_time]
    exact h.rhythm
  · refine List.forall_mem_map.mpr fun beat hbeat => ?_
    rw [Beat.arrive_place]
    exact h.status beat hbeat
  · refine List.forall_mem_map.mpr fun beat hbeat harrived => ?_
    rw [Beat.arrive_time]
    by_cases hn : beat.place = n
    · -- The frame is that of the beat, so the entry was renewed.
      obtain ⟨frame', hframe', report, huri, hm⟩ := h.status beat hbeat
      rw [hn, hplace] at hframe'
      cases hframe'
      rw [← huri] at hget
      rw [seen_status hm hstep hget]
      exact (h.past beat hbeat).trans htime.forward
    · rw [Beat.arrive, if_neg hn] at harrived
      exact hkept.heard st hget beat hbeat harrived

/-- **Step lemma.** Every handler keeps the invariant. -/
theorem Inv.step (hheart : 0 < cfg.heartbeatS) (h : Inv cfg period w) {e : Event}
    (hstep : LampWatch.step cfg rcfg period delay w e = some w') : Inv cfg period w' := by
  obtain ⟨htime, hhandle⟩ := restrict_eq_some.mp hstep
  cases e with
  | lamp e now =>
    obtain ⟨l, hl, rfl⟩ := Option.map_eq_some_iff.mp hhandle
    exact h.lamp hheart htime hl
  | arrive n k clock =>
    obtain ⟨frame, hframe, hregion⟩ := Option.bind_eq_some_iff.mp hhandle
    obtain ⟨r, hr, rfl⟩ := Option.map_eq_some_iff.mp hregion
    exact h.arrive htime hframe hr
  | region e =>
    obtain ⟨r, hr, rfl⟩ := Option.map_eq_some_iff.mp hhandle
    exact h.region htime hr

/-! ## The timer -/

/-- A tick does not list a lamp whose beats arrive. -/
private theorem Inv.not_newlyLost (h : Inv cfg period w) {clock : Clock}
    (htimeout : period + delay ≤ rcfg.timeoutMs.toNat)
    (htime : w.Timely period delay clock.nowMs.toNat) (hruns : Runs w.lamp)
    (hlong : w.since + delay < clock.nowMs.toNat) :
    ¬Region.NewlyLost rcfg clock w.region cfg.uri := by
  have hsome : ∃ beat ∈ w.beats, beat.arrived = true := by
    obtain ⟨beat, hbeat, hsince⟩ := h.beating hruns
    refine ⟨beat, hbeat, ?_⟩
    by_contra hnot
    have hdue := htime.arrivals beat hbeat (Bool.eq_false_of_not_eq_true hnot)
    omega
  have hlast : ∀ beat ∈ w.beats.head?, clock.nowMs.toNat ≤ beat.time + period + delay :=
    fun beat hbeat => (htime.heartbeat beat hbeat).trans (Nat.le_add_right _ _)
  obtain ⟨beat, hbeat, harrived, hrecent⟩ :=
    exists_recent h.rhythm hlast htime.arrivals hsome
  rw [Region.newlyLost_iff]
  rintro ⟨st, hget, hlost⟩
  have hpast := (h.seen st hget).trans htime.forward
  have hheard := h.heard st hget beat hbeat harrived
  rw [Registry.commLost_iff] at hlost
  rcases hlost with ⟨-, -, hsilent⟩ | ⟨-, hlater, -⟩
  · omega
  · omega

/-- In every run of a lamp with a heartbeat and its region, whatever anybody else sends: where the
heartbeat keeps time, its reports arrive in time and the timeout covers both, no tick of the timer
reports the lamp as lost when it has been registered for longer than a report needs. -/
theorem always_spared (cfg : LampConfig) (rcfg : RegionConfig) (period delay now : ℕ)
    (hheart : 0 < cfg.heartbeatS) (htimeout : period + delay ≤ rcfg.timeoutMs.toNat)
    (es : List Event) :
    EachStep (step cfg rcfg period delay) (Spared cfg delay) (start cfg now) es := by
  refine .of_invariant (P := Inv cfg period) (fun _ _ _ h hstep => h.step hheart hstep) ?_
    (inv_start cfg period now)
  rintro w e w' h hstep clock rfl hruns hlong
  obtain ⟨htime, hhandle⟩ := restrict_eq_some.mp hstep
  rw [handle] at hhandle
  obtain ⟨r, hr, rfl⟩ := Option.map_eq_some_iff.mp hhandle
  have hspared := h.not_newlyLost htimeout htime hruns hlong
  rcases Region.step_cases hr with ⟨clock', hclock, hticks⟩ | ⟨hnot, -⟩
  · cases hclock
    refine ⟨fun hmem => hspared ((hticks.activeLost _).mp hmem), ?_⟩
    rw [hticks.alarms, if_neg fun hboth => hspared hboth.1, Nat.add_zero]
  · exact absurd trivial hnot

/-- A lamp with a beat every ten seconds. -/
def quietLamp : LampConfig := ⟨ascii "lamp1", 1, 0, 0, 10, 0⟩

/-- It registers, and reports its status before the timer expires. -/
def registration : List Event :=
  [.lamp (.resolved true) 1000, .lamp (.connected true) 1000, .lamp (.handshaken true) 1100,
    .lamp .posted 1100, .arrive 0 0 ⟨1200, 1⟩, .lamp (.writeDone 0 true) 1200,
    .lamp (.frame [MsgType.registerAck.code] (Fin.last 999)) 1300, .lamp .posted 1300,
    .arrive 1 0 ⟨1400, 1⟩, .region (.tick ⟨6000, 6⟩)]

/-- Beats at most eleven seconds apart that arrive within a second, and a timeout of fifteen. -/
theorem always_spared_quietLamp :
    EachStep (step quietLamp ⟨1, 15000⟩ 11000 1000) (Spared quietLamp 1000) (start quietLamp 1000)
      registration :=
  always_spared quietLamp ⟨1, 15000⟩ 11000 1000 1000 (by decide) (by decide) _

example : ((run (step quietLamp ⟨1, 15000⟩ 11000 1000) (start quietLamp 1000)
    registration).map fun w => (w.since, w.beats)) = some (1300, [⟨1300, 1, true⟩]) := by
  decide +kernel

end LampWatch

end SmartLighting
