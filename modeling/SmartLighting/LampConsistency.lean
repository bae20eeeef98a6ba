import SmartLighting.LampSound

/-!
# The intensity of a lamp

A command sets the intensity before the state is looked at, also in states in
which it is otherwise ignored. Every way back to ON or OFF sets it again, so in
these states the intensity, the state and the reports agree.
-/

namespace SmartLighting

open StateMachine Transition

namespace Lamp

variable {cfg : LampConfig} {l s t : Lamp} {e : Event} {new : List OutMsg}

/-- A lamp has light exactly when it is switched on; nothing is said in other states. -/
structure Consistent (l : Lamp) : Prop where
  /-- ON. -/
  on : l.state = .on → 0 < l.intensity
  /-- OFF. -/
  off : l.state = .off → l.intensity = 0

/-- A report agrees with itself. -/
structure ConsistentReport (report : StatusReport) : Prop where
  /-- The switch is 0 or 1. -/
  bit : report.on = 0 ∨ report.on = 1
  /-- It is on exactly when there is light. -/
  light : report.on = 1 ↔ 0 < report.intensity
  /-- The power of a lamp that is on, without wrapping. -/
  power : report.on = 1 → report.powerMw.toNat = 70000 + 800 * report.intensity.toNat
  /-- A lamp that is off uses no power. -/
  none : report.on = 0 → report.powerMw = 0

/-- The frames that a step has posted. -/
def postedBy (s t : Lamp) : List OutMsg := t.queue.posted.drop s.queue.posted.length

/-- The reports that a step has built agree with themselves, but for those of a lamp in FAULT,
which only its heartbeat builds. -/
def ReportsLaw (s : Lamp) (e : Event) (t : Lamp) : Prop :=
  ∀ m ∈ postedBy s t, m.type = .statusReport →
    (∃ report, encodeStatusReport report = .ok m.payload ∧ ConsistentReport report) ∨
      (s.state = .fault ∧ ∃ cancelled, e = .heartbeatTimer cancelled)

/-- The power of a level does not wrap. -/
theorem toNat_power (v : UInt8) :
    (70000 + 800 * v.toUInt32 : UInt32).toNat = 70000 + 800 * v.toNat := by
  have hlt := v.toNat_lt
  rw [UInt32.toNat_add, UInt32.toNat_mul, UInt8.toNat_toUInt32]
  have hbase : (70000 : UInt32).toNat = 70000 := by decide
  have hfactor : (800 : UInt32).toNat = 800 := by decide
  rw [hbase, hfactor]
  omega

/-- The status of a consistent lamp that is on or off. -/
theorem Consistent.report (h : Consistent l) (hstate : l.state = .on ∨ l.state = .off) :
    ConsistentReport (l.statusReport cfg) := by
  rcases hstate with hon | hoff
  · have hbit : (l.statusReport cfg).on = 1 := by
      simp only [statusReport, hon, if_true]
    have hpower : (l.statusReport cfg).powerMw = 70000 + 800 * l.intensity.toUInt32 := by
      simp only [statusReport, hon, if_true]
      rfl
    refine ⟨Or.inr hbit, iff_of_true hbit (h.on hon), fun _ => ?_, fun hzero => ?_⟩
    · rw [hpower]
      exact toNat_power l.intensity
    · rw [hbit] at hzero
      cases hzero
  · have hbit : (l.statusReport cfg).on = 0 := by
      simp [statusReport, hoff]
    have hpower : (l.statusReport cfg).powerMw = 0 := by
      simp [statusReport, hoff]
    have hdark : (l.statusReport cfg).intensity = 0 := h.off hoff
    refine ⟨Or.inl hbit, ?_, fun hone => ?_, fun _ => hpower⟩
    · rw [hbit, hdark]
      decide
    · rw [hbit] at hone
      cases hone

/-! ## What keeps a lamp consistent -/

theorem Consistent.of_eq (h : Consistent s) (hfsm : t.fsm = s.fsm)
    (hintensity : t.intensity = s.intensity) : Consistent t := by
  have hstate : t.state = s.state := congrArg Machine.state hfsm
  constructor
  · rw [hstate, hintensity]
    exact h.on
  · rw [hstate, hintensity]
    exact h.off

/-- Nothing is required in the other states. -/
theorem consistent_of_state (hon : l.state ≠ .on) (hoff : l.state ≠ .off) : Consistent l :=
  ⟨fun h => absurd h hon, fun h => absurd h hoff⟩

/-- A lamp that gives up its connection. -/
theorem consistent_scheduleReconnect (l : Lamp) : Consistent l.scheduleReconnect := by
  apply consistent_of_state <;> rw [scheduleReconnect_state] <;> decide

/-- A lamp that is off and has no light. -/
theorem consistent_off (hstate : l.state = .off) (hdark : l.intensity = 0) : Consistent l := by
  refine ⟨fun hon => ?_, fun _ => hdark⟩
  rw [hstate] at hon
  cases hon

/-- A lamp that is on and has light. -/
theorem consistent_on (hstate : l.state = .on) (hlight : 0 < l.intensity) : Consistent l := by
  refine ⟨fun _ => hlight, fun hoff => ?_⟩
  rw [hstate] at hoff
  cases hoff

/-- A lamp that obeys a command has light exactly when it is then on. -/
theorem consistent_switched {c : Command} (hobeys : l.Obeys c) : Consistent (l.switched c) := by
  unfold switched
  rcases hobeys with ⟨hcmd, -⟩ | ⟨hcmd, -⟩ | ⟨hcmd, hstate⟩
  · rw [if_pos hcmd]
    refine consistent_on rfl ?_
    rw [setIntensity_intensity]
    split
    · decide
    · next hbright => grind
  · rw [if_neg (by rw [hcmd]; decide), if_pos hcmd]
    exact consistent_off rfl rfl
  · rw [if_neg (by rw [hcmd]; decide), if_neg (by rw [hcmd]; decide)]
    split
    · next hoff => exact consistent_off rfl hoff.1
    · next hnot =>
      split
      · next hon => exact consistent_on rfl hon.1
      · next hnot' =>
        have hpos : c.value > 0 ↔ c.value ≠ 0 := UInt8.pos_iff_ne_zero
        rcases hstate with hon | hoff
        · exact consistent_on hon (hpos.mpr fun hzero => hnot ⟨hzero, hon⟩)
        · refine consistent_off hoff ?_
          by_contra hlight
          exact hnot' ⟨hpos.mpr hlight, hoff⟩

/-- A lamp that has asked for its registration. -/
theorem consistent_connectedUp (cfg : LampConfig) (l : Lamp) : Consistent (l.connectedUp cfg) := by
  have hstate : (l.connectedUp cfg).state = .registering := by
    rw [state, connectedUp_fsm]
    split
    · next hregistering => exact hregistering
    · split <;> rfl
  apply consistent_of_state <;> rw [hstate] <;> decide

/-! ## What a step posts -/

/-- What was posted at the end of the list is what a step has posted. -/
theorem postedBy_of_append (h : t.queue.posted = s.queue.posted ++ new) : postedBy s t = new := by
  rw [postedBy, h, List.drop_left]

/-- A step that posts no status satisfies the law. -/
theorem reportsLaw_of_append (h : t.queue.posted = s.queue.posted ++ new)
    (hnew : ∀ m ∈ new, m.type ≠ .statusReport) : ReportsLaw s e t := by
  intro m hm htype
  rw [postedBy_of_append h] at hm
  exact absurd htype (hnew m hm)

/-- So does a step that posts nothing. -/
theorem reportsLaw_of_eq (h : t.queue.posted = s.queue.posted) : ReportsLaw s e t := by
  have hnothing : t.queue.posted = s.queue.posted ++ [] := by rw [h, List.append_nil]
  exact reportsLaw_of_append hnothing (List.forall_mem_nil _)

/-- A status of a consistent lamp that is on or off satisfies the law, also before other frames. -/
theorem reportsLaw_of_status {built : Lamp}
    (h : t.queue.posted = s.queue.posted ++ built.statusFrame cfg :: new) (hready : Ready cfg s)
    (hbuilt : Consistent built) (hstate : built.state = .on ∨ built.state = .off)
    (hnew : ∀ m ∈ new, m.type ≠ .statusReport) : ReportsLaw s e t := by
  intro m hm htype
  rw [postedBy_of_append h] at hm
  rcases List.mem_cons.mp hm with rfl | hm
  · exact Or.inl ⟨_, encode_statusReport hready built, hbuilt.report hstate⟩
  · exact absurd htype (hnew m hm)

/-- The status is often the only frame. -/
theorem reportsLaw_of_reported {built : Lamp} (hready : Ready cfg s) (hbuilt : Consistent built)
    (hstate : built.state = .on ∨ built.state = .off)
    (h : t.queue.posted = s.queue.posted ++ [built.statusFrame cfg]) : ReportsLaw s e t :=
  reportsLaw_of_status h hready hbuilt hstate (List.forall_mem_nil _)

/-- Running a posted handler posts nothing. -/
theorem reportsLaw_runPosted {q : SendQueue} (hq : s.queue.runPosted = some q) :
    ReportsLaw s e (s.setQueue q) := by
  have hle : q.posted.length ≤ s.queue.posted.length := by
    unfold SendQueue.runPosted at hq
    split at hq
    · cases hq
    · next m rest hposted =>
      cases hq
      rw [hposted]
      split
      · exact Nat.le_succ _
      · rw [SendQueue.posted_doWrite]
        exact Nat.le_succ _
  intro m hm
  rw [postedBy, setQueue_queue, List.drop_eq_nil_of_le hle] at hm
  cases hm

/-- A fault report is no status. -/
theorem type_ne_of_mem_faultFrame : ∀ m ∈ [faultFrame cfg], m.type ≠ .statusReport := by
  intro m hm
  rw [List.mem_singleton.mp hm]
  exact (by decide : MsgType.faultReport ≠ .statusReport)

/-- The simulated fault posts no status. -/
theorem posted_detected (cfg : LampConfig) (l : Lamp) :
    ∃ new, (l.detected cfg).queue.posted = l.queue.posted ++ new ∧
      ∀ m ∈ new, m.type ≠ .statusReport := by
  unfold detected
  split
  · exact ⟨[], (List.append_nil _).symm, List.forall_mem_nil _⟩
  · exact ⟨[faultFrame cfg], rfl, type_ne_of_mem_faultFrame⟩

/-- Asking for a registration posts no status. -/
theorem posted_connectedUp (cfg : LampConfig) (l : Lamp) :
    ∃ new, (l.connectedUp cfg).queue.posted = l.queue.posted ++ new ∧
      ∀ m ∈ new, m.type ≠ .statusReport := by
  have hregister : ∀ m ∈ [registerFrame cfg], m.type ≠ .statusReport := by
    intro m hm
    rw [List.mem_singleton.mp hm]
    exact (by decide : MsgType.registerReq ≠ .statusReport)
  unfold connectedUp
  dsimp only
  have hqueue : (if l.state ≠ .unregistered ∧ l.state ≠ .registering then
      l.assign .unregistered .registerAgain else l).queue = l.queue := by
    split <;> rfl
  generalize (if l.state ≠ .unregistered ∧ l.state ≠ .registering then
    l.assign .unregistered .registerAgain else l) = l' at hqueue ⊢
  rw [← hqueue]
  split
  · exact ⟨[], (List.append_nil _).symm, List.forall_mem_nil _⟩
  · split
    · exact ⟨[registerFrame cfg], rfl, hregister⟩
    · exact ⟨[], (List.append_nil _).symm, List.forall_mem_nil _⟩

/-- After a write the lamp posts at most a fault report. -/
theorem posted_written (cfg : LampConfig) (l : Lamp) (q : SendQueue) :
    ∃ new, (l.written cfg q true).queue.posted = q.posted ++ new ∧
      ∀ m ∈ new, m.type ≠ .statusReport := by
  by_cases hheld : l.pendingFault = true
  · refine ⟨[faultFrame cfg], ?_, type_ne_of_mem_faultFrame⟩
    rw [written_of_pending hheld]
    exact SendQueue.posted_doWrite
  · refine ⟨[], ?_, List.forall_mem_nil _⟩
    rw [written_of_clear (Bool.eq_false_of_not_eq_true hheld), List.append_nil]
    exact SendQueue.posted_doWrite

/-! ## A step -/

/-- A step that leaves the lamp consistent and satisfies the law. -/
structure ConsistentStep (s : Lamp) (e : Event) (t : Lamp) : Prop where
  /-- The lamp afterwards. -/
  consistent : Consistent t
  /-- The reports. -/
  reports : ReportsLaw s e t

/-- Nothing changes that matters here. -/
theorem consistentStep_of_eq (h : Consistent s) (hfsm : t.fsm = s.fsm)
    (hintensity : t.intensity = s.intensity) (hposted : t.queue.posted = s.queue.posted) :
    ConsistentStep s e t :=
  ⟨h.of_eq hfsm hintensity, reportsLaw_of_eq hposted⟩

/-- Giving up the connection posts nothing. -/
theorem consistentStep_scheduleReconnect (h : l.queue.posted = s.queue.posted) :
    ConsistentStep s e l.scheduleReconnect := by
  refine ⟨consistent_scheduleReconnect l, reportsLaw_of_eq ?_⟩
  rw [scheduleReconnect_queue]
  exact h

/-- What follows from a frame. -/
theorem consistentStep_reaction (h : Consistent l) (hqueue : l.queue = s.queue)
    (hready : Ready cfg s) {body : Bytes} {draw : Fin 1000}
    (hreaction : Reaction cfg l body draw t) : ConsistentStep s e t := by
  cases hreaction with
  | acked htype hstate =>
    have hdark : Consistent ((l.assign .off .registerAck).setIntensity 0) :=
      consistent_off rfl rfl
    constructor
    · rw [acked, scheduleHeartbeat_eq]
      exact hdark.of_eq rfl rfl
    · refine reportsLaw_of_reported hready hdark (Or.inr rfl) ?_
      rw [acked, scheduleHeartbeat_queue, ← hqueue]
      rfl
  | nacked htype =>
    refine consistentStep_scheduleReconnect ?_
    rw [← hqueue]
    split <;> rfl
  | obeyed c hc hobeys hquiet =>
    have hswitched := consistent_switched hobeys
    refine ⟨hswitched.of_eq rfl rfl, ?_⟩
    refine reportsLaw_of_reported hready hswitched (switched_state hobeys) ?_
    rw [switched_eq, ← hqueue]
    rfl
  | faulted c hc hobeys hcmd hdraw =>
    have hswitched := consistent_switched hobeys
    obtain ⟨new, hposted, hnew⟩ := posted_detected cfg ((l.switched c).reported cfg)
    have hfault : (((l.switched c).reported cfg).detected cfg).state = .fault := by
      unfold detected
      split <;> rfl
    constructor
    · apply consistent_of_state <;> rw [hfault] <;> decide
    · refine reportsLaw_of_status ?_ hready hswitched (switched_state hobeys) hnew
      rw [hposted, switched_eq, ← hqueue]
      exact List.append_assoc ..
  | kept v hack hnack hobeys hv =>
    refine ⟨⟨fun hon => ?_, fun hoff => ?_⟩, reportsLaw_of_eq (congrArg SendQueue.posted hqueue)⟩
    · rw [setIntensity_intensity, hv (Or.inl hon)]
      exact h.on hon
    · rw [setIntensity_intensity, hv (Or.inr hoff)]
      exact h.off hoff

/-- A completed write. -/
theorem consistentStep_written (h : Consistent s) {q : SendQueue} {i : ℕ} {ok : Bool}
    (hq : s.queue.complete i ok = some q) : ConsistentStep s e (s.written cfg q ok) := by
  have hkept : q.posted = s.queue.posted := by
    unfold SendQueue.complete at hq
    split at hq
    · cases hq
    · cases hq
      rfl
  cases ok with
  | false => exact consistentStep_scheduleReconnect hkept
  | true =>
    obtain ⟨new, hposted, hnew⟩ := posted_written cfg s q
    exact ⟨h.of_eq (written_fsm q) (written_intensity q),
      reportsLaw_of_append (hkept ▸ hposted) hnew⟩

/-- A heartbeat, which also reports in FAULT. -/
theorem consistentStep_heartbeat (h : Consistent s) (hready : Ready cfg s) (cancelled : Bool) :
    ConsistentStep s (.heartbeatTimer cancelled) (s.after cfg (.heartbeatTimer cancelled)) := by
  have hwaits : Consistent { s with heartbeatWaits := s.heartbeatWaits - 1 } := h.of_eq rfl rfl
  cases cancelled with
  | true => exact consistentStep_of_eq h rfl rfl rfl
  | false =>
    simp only [after, Bool.false_eq_true, if_false]
    split
    · next hstate =>
      refine ⟨?_, ?_⟩
      · rw [scheduleHeartbeat_eq]
        exact h.of_eq rfl rfl
      · by_cases hfault : s.state = .fault
        · exact fun _ _ _ => Or.inr ⟨hfault, false, rfl⟩
        · have hlit : s.state = .on ∨ s.state = .off := by
            rcases hstate with hon | hoff | hfault'
            · exact Or.inl hon
            · exact Or.inr hoff
            · exact absurd hfault' hfault
          refine reportsLaw_of_reported hready hwaits hlit ?_
          rw [scheduleHeartbeat_queue]
          rfl
    · rw [scheduleHeartbeat_eq]
      exact consistentStep_of_eq h rfl rfl rfl

/-- **Step lemma.** Every handler leaves a consistent lamp consistent, and its reports agree. -/
theorem Consistent.step (h : Consistent s) (hsound : Sound cfg s)
    (hstep : step cfg s e = some t) : ConsistentStep s e t := by
  obtain ⟨halive, hpending, rfl⟩ := step_eq hsound hstep
  cases e with
  | resolved ok =>
    cases ok with
    | true => exact consistentStep_of_eq h rfl rfl rfl
    | false => exact consistentStep_scheduleReconnect rfl
  | connected ok =>
    cases ok with
    | true => exact consistentStep_of_eq h rfl rfl rfl
    | false => exact consistentStep_scheduleReconnect rfl
  | handshaken ok =>
    cases ok with
    | true =>
      obtain ⟨new, hposted, hnew⟩ :=
        posted_connectedUp cfg { s with handshakes := s.handshakes - 1 }
      exact ⟨consistent_connectedUp cfg _, reportsLaw_of_append hposted hnew⟩
    | false => exact consistentStep_scheduleReconnect rfl
  | posted =>
    obtain ⟨q, hq⟩ := hpending
    simp only [after, hq]
    exact ⟨h.of_eq rfl rfl, reportsLaw_runPosted hq⟩
  | writeDone i ok =>
    obtain ⟨q, hq⟩ := hpending
    simp only [after, hq]
    exact consistentStep_written h hq
  | readFailed => exact consistentStep_scheduleReconnect rfl
  | frame body draw =>
    have hready : Ready cfg s := hsound.ready halive (Or.inl hpending.1)
    have hread : Consistent { s with reads := s.reads - 1 } := h.of_eq rfl rfl
    have hreceived : ConsistentStep s (.frame body draw)
        ({ s with reads := s.reads - 1 }.received cfg body draw) :=
      consistentStep_reaction hread rfl hready (received_reaction cfg _ body draw)
    exact ⟨hreceived.consistent.of_eq rfl rfl, hreceived.reports⟩
  | registerTimer cancelled =>
    cases cancelled with
    | true => exact consistentStep_of_eq h rfl rfl rfl
    | false =>
      simp only [after, Bool.false_eq_true, if_false]
      split
      · exact consistentStep_scheduleReconnect rfl
      · exact consistentStep_of_eq h rfl rfl rfl
  | reconnectTimer cancelled =>
    cases cancelled with
    | true => exact consistentStep_of_eq h rfl rfl rfl
    | false => exact consistentStep_of_eq h rfl rfl rfl
  | heartbeatTimer cancelled =>
    exact consistentStep_heartbeat h (hsound.ready halive (Or.inr (Or.inl hpending))) cancelled
  | resetTimer =>
    simp only [after]
    split
    · exact consistentStep_scheduleReconnect rfl
    · exact consistentStep_of_eq h rfl rfl rfl
  | stopTimer => exact consistentStep_of_eq h rfl rfl rfl

/-! ## A whole run -/

/-- A command that does not decode changes nothing. -/
theorem step_undecodable {p : Bytes} {message : String} {draw : Fin 1000}
    (hp : Reader.decode decodeCommand p = .error message)
    (hstep : Lamp.step cfg s (.frame (MsgType.cmd.code :: p) draw) = some t) : t = s := by
  have hignored : ∀ l : Lamp, l.onMessage cfg (MsgType.cmd.code :: p) draw = .ok l := by
    intro l
    have hack : (⟨MsgType.cmd.code⟩ : MsgType) ≠ .registerAck := by decide
    have hnack : (⟨MsgType.cmd.code⟩ : MsgType) ≠ .registerNack := by decide
    simp only [onMessage, if_neg hack, if_neg hnack, hp]
    rfl
  obtain ⟨-, hsome⟩ := Option.ite_none_left_eq_some.mp hstep
  obtain ⟨r, hhandle, rfl⟩ := Option.map_eq_some_iff.mp hsome
  obtain ⟨hidle, hr⟩ := Option.ite_none_left_eq_some.mp hhandle
  rw [hignored] at hr
  cases hr
  -- the read loop waits again
  have hreads : s.reads - 1 + 1 = s.reads := by omega
  change ({ s with reads := s.reads - 1 + 1 } : Lamp) = s
  rw [hreads]

/-- A lamp starts without a state in which its light matters. -/
theorem consistent_start (cfg : LampConfig) : Consistent (start cfg) := by
  have hstate : (start cfg).state = .unregistered := rfl
  apply consistent_of_state <;> rw [hstate] <;> decide

/-- In every run, the intensity agrees with the state, the reports agree with
themselves, and what does not decode as a command changes nothing. -/
theorem consistent_run (cfg : LampConfig) (es : List Event) :
    Always (step cfg) Consistent (start cfg) es ∧
      EachStep (step cfg) ReportsLaw (start cfg) es ∧
      ∀ s p message draw t, Reader.decode decodeCommand p = .error message →
        step cfg s (.frame (MsgType.cmd.code :: p) draw) = some t → t = s := by
  have hkeep : ∀ s e t, Sound cfg s ∧ Consistent s → step cfg s e = some t →
      Sound cfg t ∧ Consistent t := fun s e t hinv hstep =>
    ⟨hinv.1.step hstep, (hinv.2.step hinv.1 hstep).consistent⟩
  have hstart : Sound cfg (start cfg) ∧ Consistent (start cfg) :=
    ⟨Sound.start, consistent_start cfg⟩
  refine ⟨(Always.of_invariant hkeep hstart).mono fun s hinv => hinv.2, ?_, ?_⟩
  · exact EachStep.of_invariant hkeep
      (fun s e t hinv hstep => (hinv.2.step hinv.1 hstep).reports) hstart
  · intro s p message draw t hp hstep
    exact step_undecodable hp hstep

end Lamp

end SmartLighting
