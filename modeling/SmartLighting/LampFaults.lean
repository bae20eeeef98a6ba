import SmartLighting.LampSound

/-!
# The fault reports of a lamp

A lamp that detects a fault posts a FAULT_REPORT, or holds it back in
`pending_fault_` while a write is under way. Each fault that a run detects is
compared here with the reports that were written or still wait to be.
-/

namespace SmartLighting

open StateMachine Transition

namespace Lamp

variable {cfg : LampConfig} {l t : Lamp} {e : Event} {next : LampState} {label : LampLabel}

/-- The frame is a FAULT_REPORT. -/
def isFault (m : OutMsg) : Bool := m.type = .faultReport

/-- How often the lamp has entered FAULT. -/
def faultsDetected (l : Lamp) : ℕ := l.fsm.log.countP fun c => c.target = .fault

/-- The reports that were written or are posted, queued, being written or held back. -/
def faultsReported (l : Lamp) : ℕ := l.queue.count isFault + if l.pendingFault then 1 else 0

/-- No detected fault was forgotten, and none was reported twice. -/
def Balanced (l : Lamp) : Prop := l.faultsDetected = l.faultsReported

/-- `out_q_` holds no FAULT_REPORT. -/
def NoneQueued (l : Lamp) : Prop := ∀ m ∈ l.queue.outQ, m.type ≠ .faultReport

/-- The handler of the event drops no report: a connection is given up only when
no report is queued, the write that failed is not one of a report, and a fault is
not detected while an earlier one is held back and a write is under way. -/
def Keeps (cfg : LampConfig) (l : Lamp) : Event → Prop
  | .resolved false | .connected false | .handshaken false | .readFailed => NoneQueued l
  | .writeDone i false =>
    NoneQueued l ∧ ∀ m, l.queue.outstanding[i]? = some m → m.type ≠ .faultReport
  | .registerTimer false => l.state = .registering → NoneQueued l
  | .resetTimer => l.state = .fault → NoneQueued l
  | .frame body draw =>
    (frameType body = some .registerNack → NoneQueued l) ∧
      (draw.val < cfg.faultProbPerMille → ∀ c, commandOf body = some c → l.Obeys c →
        c.cmd ≠ 2 → l.pendingFault = true → l.queue.writing = false ∧ l.queue.outQ = [])
  | _ => True

/-! ## What each change does to the two counts -/

private theorem faultsDetected_assign (h : next ≠ .fault) :
    (l.assign next label).faultsDetected = l.faultsDetected := by
  simp [faultsDetected, List.countP_append, h]

private theorem faultsDetected_scheduleReconnect :
    l.scheduleReconnect.faultsDetected = l.faultsDetected := by
  rw [faultsDetected, scheduleReconnect_log]
  by_cases hstate : l.state = .unregistered
  · simp [faultsDetected, hstate]
  · simp [faultsDetected, hstate, List.countP_append]

private theorem noneQueued_iff : NoneQueued l ↔ l.queue.outQ.countP isFault = 0 := by
  simp only [NoneQueued, List.countP_eq_zero, isFault, decide_eq_true_eq, ne_eq]

/-- Giving up the connection drops the queued reports. -/
private theorem balanced_scheduleReconnect (hbalanced : Balanced l) :
    Balanced l.scheduleReconnect ↔ NoneQueued l := by
  have hcount := SendQueue.count_reset (q := l.queue) (p := isFault)
  unfold Balanced at hbalanced ⊢
  rw [noneQueued_iff, faultsDetected_scheduleReconnect, hbalanced, faultsReported, faultsReported,
    scheduleReconnect_queue, scheduleReconnect_pendingFault]
  omega

/-- Any other frame may be posted. -/
private theorem balanced_post {frame : OutMsg} (h : frame.type ≠ .faultReport) :
    Balanced (l.post frame) ↔ Balanced l := by
  have hcount : (l.post frame).queue.count isFault = l.queue.count isFault := by
    have hpost := SendQueue.count_post (q := l.queue) (p := isFault) frame
    have hother : ¬isFault frame = true := by simpa [isFault] using h
    rw [if_neg hother] at hpost
    exact hpost
  unfold Balanced faultsReported
  rw [hcount]
  rfl

/-- A status report may be posted. -/
private theorem balanced_reported : Balanced (l.reported cfg) ↔ Balanced l := by
  have hstatus : MsgType.statusReport ≠ .faultReport := by decide
  exact balanced_post hstatus

private theorem balanced_assign (h : next ≠ .fault) :
    Balanced (l.assign next label) ↔ Balanced l := by
  rw [Balanced, faultsDetected_assign h]
  rfl

private theorem balanced_scheduleHeartbeat :
    Balanced (l.scheduleHeartbeat cfg) ↔ Balanced l := by
  unfold Balanced faultsDetected faultsReported
  simp only [scheduleHeartbeat_fsm, scheduleHeartbeat_queue, scheduleHeartbeat_pendingFault]

private theorem balanced_setIntensity (v : UInt8) : Balanced (l.setIntensity v) ↔ Balanced l :=
  Iff.rfl

private theorem balanced_switched (c : Command) : Balanced (l.switched c) ↔ Balanced l := by
  unfold switched
  split
  · exact balanced_assign (by decide)
  split
  · exact balanced_assign (by decide)
  split
  · exact balanced_assign (l := l.setIntensity _) (by decide)
  split
  · exact balanced_assign (l := l.setIntensity _) (by decide)
  · exact balanced_setIntensity _

/-- A detected fault is kept, unless an earlier one is still held back. -/
private theorem balanced_detected (hbalanced : Balanced l) : Balanced (l.detected cfg) ↔
    (l.pendingFault = true → l.queue.writing = false ∧ l.queue.outQ = []) := by
  have hdetected : (l.assign .fault .faultDetected).faultsDetected = l.faultsDetected + 1 := by
    simp [faultsDetected, List.countP_append]
  have hbefore : l.faultsDetected = l.queue.count isFault + if l.pendingFault then 1 else 0 :=
    hbalanced
  unfold detected
  by_cases hbusy : l.queue.writing = true ∨ l.queue.outQ ≠ []
  · -- The new report takes the slot.
    have hnot : ¬(l.queue.writing = false ∧ l.queue.outQ = []) := by
      rintro ⟨hidle, hempty⟩
      exact hbusy.elim (by simp [hidle]) fun h => h hempty
    have hslot : Balanced ((l.assign .fault .faultDetected).hold cfg) ↔
        (l.assign .fault .faultDetected).faultsDetected = l.queue.count isFault + 1 := Iff.rfl
    rw [if_pos hbusy, hslot, hdetected, hbefore]
    cases l.pendingFault <;> simp [hnot]
  · have hidle : l.queue.writing = false ∧ l.queue.outQ = [] := by
      simpa using hbusy
    have hpost := SendQueue.count_post (q := l.queue) (p := isFault) (faultFrame cfg)
    have hreport : isFault (faultFrame cfg) = true := rfl
    rw [if_pos hreport] at hpost
    have hposted : Balanced ((l.assign .fault .faultDetected).post (faultFrame cfg)) ↔
        (l.assign .fault .faultDetected).faultsDetected =
          (l.queue.post (faultFrame cfg)).count isFault + if l.pendingFault then 1 else 0 := Iff.rfl
    rw [if_neg hbusy, hposted, hdetected, hbefore, hpost]
    exact iff_of_true (by omega) fun _ => hidle

/-- A command keeps the queue and the slot as they are. -/
private theorem switched_slot (c : Command) : (l.switched c).queue = l.queue ∧
    (l.switched c).pendingFault = l.pendingFault := by
  rw [switched_eq]
  exact ⟨rfl, rfl⟩

private theorem balanced_reaction (hbalanced : Balanced l) {body : Bytes} {draw : Fin 1000}
    (hreaction : Reaction cfg l body draw t) : Balanced t ↔ Keeps cfg l (.frame body draw) := by
  cases hreaction with
  | acked htype hstate =>
    have hkeeps : Keeps cfg l (.frame body draw) := by
      refine ⟨fun h => ?_, fun _ c hc => ?_⟩
      · rw [htype] at h
        cases h
      · rw [frameType_of_commandOf hc] at htype
        cases htype
    refine iff_of_true ?_ hkeeps
    refine balanced_scheduleHeartbeat.mpr (balanced_reported.mpr ?_)
    exact (balanced_setIntensity 0).mpr ((balanced_assign (by decide)).mpr hbalanced)
  | nacked htype =>
    have hkeeps : Keeps cfg l (.frame body draw) ↔ NoneQueued l := by
      refine ⟨fun h => h.1 htype, fun h => ⟨fun _ => h, fun _ c hc => ?_⟩⟩
      rw [frameType_of_commandOf hc] at htype
      cases htype
    rw [hkeeps]
    unfold nacked
    split
    · exact balanced_scheduleReconnect ((balanced_assign (by decide)).mpr hbalanced)
    · exact balanced_scheduleReconnect hbalanced
  | obeyed c hc hobeys hquiet =>
    have hkeeps : Keeps cfg l (.frame body draw) := by
      refine ⟨fun h => ?_, fun hdraw c' hc' _ hcmd => ?_⟩
      · rw [frameType_of_commandOf hc] at h
        cases h
      · obtain rfl : c = c' := Option.some.inj (hc.symm.trans hc')
        exact absurd hdraw (not_lt.mpr (hquiet.resolve_left hcmd))
    refine iff_of_true ?_ hkeeps
    exact balanced_reported.mpr ((balanced_switched c).mpr hbalanced)
  | faulted c hc hobeys hcmd hdraw =>
    obtain ⟨hqueue, hpending⟩ := switched_slot (l := l) c
    have hkeeps : Keeps cfg l (.frame body draw) ↔
        (l.pendingFault = true → l.queue.writing = false ∧ l.queue.outQ = []) := by
      refine ⟨fun h => h.2 hdraw c hc hobeys hcmd, fun h => ⟨fun hnack => ?_, fun _ _ _ _ _ => h⟩⟩
      rw [frameType_of_commandOf hc] at hnack
      cases hnack
    have hreported : Balanced ((l.switched c).reported cfg) :=
      balanced_reported.mpr ((balanced_switched c).mpr hbalanced)
    have hslot : ((l.switched c).reported cfg).pendingFault = l.pendingFault := hpending
    have hwriting : ((l.switched c).reported cfg).queue.writing = l.queue.writing := by
      rw [← hqueue]
      rfl
    have houtQ : ((l.switched c).reported cfg).queue.outQ = l.queue.outQ := by
      rw [← hqueue]
      rfl
    rw [hkeeps, balanced_detected hreported, hslot, hwriting, houtQ]
  | kept v hack hnack hobeys hv =>
    refine iff_of_true ((balanced_setIntensity v).mpr hbalanced) ⟨fun h => absurd h hnack, ?_⟩
    exact fun _ c hc hobeyed => absurd hobeyed (hobeys c hc)

/-- The end of a handshake posts no report. -/
private theorem balanced_connectedUp (hbalanced : Balanced l) : Balanced (l.connectedUp cfg) := by
  have hother : (registerFrame cfg).type ≠ .faultReport := by
    have hregister : MsgType.registerReq ≠ .faultReport := by decide
    exact hregister
  have hpost : ∀ m : Lamp, Balanced m →
      Balanced ((m.assign .registering .registerReq).post (registerFrame cfg)) := fun m hm =>
    (balanced_post hother).mpr ((balanced_assign (by decide)).mpr hm)
  have hagain : Balanced (l.assign .unregistered .registerAgain) :=
    (balanced_assign (by decide)).mpr hbalanced
  unfold connectedUp
  dsimp only
  by_cases hfits : cfg.uri.length ≤ 65535
  · simp only [if_pos hfits]
    split <;> split
    · exact hagain
    · exact hpost _ hagain
    · exact hbalanced
    · exact hpost _ hbalanced
  · simp only [if_neg hfits]
    split <;> split
    · exact hagain
    · exact (balanced_assign (by decide)).mpr hagain
    · exact hbalanced
    · exact (balanced_assign (by decide)).mpr hbalanced

/-- Sending what was held back moves a report. -/
private theorem faultsReported_flushed : (l.flushed cfg).faultsReported = l.faultsReported := by
  have hpost := SendQueue.count_post (q := l.queue) (p := isFault) (faultFrame cfg)
  have hreport : isFault (faultFrame cfg) = true := rfl
  rw [if_pos hreport] at hpost
  unfold flushed
  split
  · next hpending =>
    rw [faultsReported, faultsReported, if_pos hpending]
    exact hpost
  · rfl

/-- A write that completes makes way for the report that was held back. -/
private theorem balanced_written {i : ℕ} {ok : Bool} {q : SendQueue} (hbalanced : Balanced l)
    (hq : l.queue.complete i ok = some q) :
    Balanced (l.written cfg q ok) ↔ Keeps cfg l (.writeDone i ok) := by
  obtain ⟨m, hm, houtQ, hcount⟩ := SendQueue.count_complete (p := isFault) hq
  cases ok with
  | true =>
    refine iff_of_true ?_ trivial
    have hwritten : (l.written cfg q true).faultsReported =
        ((l.setQueue q).flushed cfg).faultsReported :=
      congrArg (· + _) SendQueue.count_doWrite
    have hqueue : (l.setQueue q).faultsReported = l.faultsReported := congrArg (· + _) hcount
    rw [Balanced, faultsDetected, written_fsm, hwritten, faultsReported_flushed, hqueue]
    exact hbalanced
  | false =>
    have hreset := SendQueue.count_reset (q := q) (p := isFault)
    have hkeeps : Keeps cfg l (.writeDone i false) ↔
        l.queue.outQ.countP isFault = 0 ∧ ¬isFault m = true := by
      rw [← noneQueued_iff]
      refine and_congr_right fun _ => ?_
      simp only [hm, Option.some.injEq, forall_eq', isFault, decide_eq_true_eq, ne_eq]
    have hlost : (l.setQueue q).scheduleReconnect.faultsReported +
        q.outQ.countP isFault + (if isFault m = true then 1 else 0) = l.faultsReported := by
      simp only [faultsReported, scheduleReconnect_queue, scheduleReconnect_pendingFault,
        setQueue_queue, setQueue_pendingFault, true_and] at hcount ⊢
      omega
    have hsame : (l.setQueue q).scheduleReconnect.faultsDetected = l.faultsDetected :=
      faultsDetected_scheduleReconnect
    have hbefore : l.faultsDetected = l.faultsReported := hbalanced
    have hafter : Balanced (l.written cfg q false) ↔
        (l.setQueue q).scheduleReconnect.faultsDetected =
          (l.setQueue q).scheduleReconnect.faultsReported := Iff.rfl
    rw [hkeeps, hafter, hsame, hbefore, ← houtQ]
    split at hlost
    · next hreport =>
      refine iff_of_false (by omega) fun h => h.2 hreport
    · next hother =>
      rw [and_iff_left hother]
      omega

/-- The counts stay equal exactly when the handler drops no report. -/
private theorem balanced_step (hsound : Sound cfg l) (hbalanced : Balanced l)
    (h : step cfg l e = some t) : Balanced t ↔ Keeps cfg l e := by
  obtain ⟨-, hpending, rfl⟩ := step_eq hsound h
  cases e with
  | resolved ok =>
    cases ok with
    | true => exact iff_of_true hbalanced trivial
    | false => exact balanced_scheduleReconnect (l := { l with resolves := _ }) hbalanced
  | connected ok =>
    cases ok with
    | true => exact iff_of_true hbalanced trivial
    | false => exact balanced_scheduleReconnect (l := { l with connects := _ }) hbalanced
  | handshaken ok =>
    cases ok with
    | true =>
      have hup : Balanced { l with handshakes := l.handshakes - 1 } := hbalanced
      exact iff_of_true (balanced_connectedUp hup) trivial
    | false => exact balanced_scheduleReconnect (l := { l with handshakes := _ }) hbalanced
  | posted =>
    obtain ⟨q, hq⟩ := hpending
    have hcount := SendQueue.count_runPosted (p := isFault) hq
    simp only [after, hq]
    refine iff_of_true ?_ trivial
    unfold Balanced faultsReported
    rw [setQueue_queue, hcount]
    exact hbalanced
  | writeDone i ok =>
    obtain ⟨q, hq⟩ := hpending
    simp only [after, hq]
    exact balanced_written hbalanced hq
  | readFailed => exact balanced_scheduleReconnect (l := { l with reads := _ }) hbalanced
  | frame body draw =>
    have hreaction := received_reaction cfg { l with reads := l.reads - 1 } body draw
    have hreads : Balanced { l with reads := l.reads - 1 } := hbalanced
    have hreceived := balanced_reaction hreads hreaction
    exact hreceived
  | registerTimer cancelled =>
    cases cancelled with
    | true => exact iff_of_true hbalanced trivial
    | false =>
      have hwaits : Balanced { l with registerWaits := l.registerWaits - 1 } := hbalanced
      simp only [after, Bool.false_eq_true, if_false]
      split
      · next hregistering =>
        have hassign : Balanced ({ l with registerWaits := l.registerWaits - 1 }.assign
            .unregistered .timeout) := (balanced_assign (by decide)).mpr hwaits
        exact (balanced_scheduleReconnect hassign).trans
          ⟨fun h _ => h, fun h => h hregistering⟩
      · next hother => exact iff_of_true hwaits fun h => absurd h hother
  | reconnectTimer cancelled =>
    cases cancelled with
    | true => exact iff_of_true hbalanced trivial
    | false => exact iff_of_true hbalanced trivial
  | heartbeatTimer cancelled =>
    have hwaits : Balanced { l with heartbeatWaits := l.heartbeatWaits - 1 } := hbalanced
    refine iff_of_true ?_ trivial
    cases cancelled with
    | true => exact hwaits
    | false =>
      simp only [after, Bool.false_eq_true, if_false]
      rw [balanced_scheduleHeartbeat]
      split
      · exact balanced_reported.mpr hwaits
      · exact hwaits
  | resetTimer =>
    have hwaits : Balanced { l with resetWaits := l.resetWaits - 1 } := hbalanced
    simp only [after]
    split
    · next hfault =>
      have hidle : Balanced ({ l with resetWaits := l.resetWaits - 1 }.assign .idle
          .manualReset) := (balanced_assign (by decide)).mpr hwaits
      have hboot : Balanced (({ l with resetWaits := l.resetWaits - 1 }.assign .idle
          .manualReset).assign .unregistered .bootDone) := (balanced_assign (by decide)).mpr hidle
      exact (balanced_scheduleReconnect hboot).trans ⟨fun h _ => h, fun h => h hfault⟩
    · next hother => exact iff_of_true hwaits fun h => absurd h hother
  | stopTimer => exact iff_of_true hbalanced trivial

/-- In any run no detected fault is forgotten or reported twice exactly when no
handler drops a report. -/
theorem always_balanced_iff (es : List Event) :
    Always (step cfg) Balanced (start cfg) es ↔
      EachStep (step cfg) (fun l e _ => Keeps cfg l e) (start cfg) es := by
  refine always_iff_of_invariant (I := fun l => Balanced l ∧ Sound cfg l) (fun _ h => h.1) ?_ ?_
    ⟨rfl, Sound.start⟩
  · rintro l e t ⟨hbalanced, hsound⟩ hkeeps h
    exact ⟨(balanced_step hsound hbalanced h).mpr hkeeps, hsound.step h⟩
  · rintro l e t ⟨hbalanced, hsound⟩ hdrops h hbalanced'
    exact hdrops ((balanced_step hsound hbalanced h).mp hbalanced')

/-- A lamp registers and is switched on, which ends in a fault. While its status
is being written and the report is queued, the connection is lost. -/
def lostWhileQueued : List Event :=
  registration ++ [.posted, .writeDone 0 true, switchOn, .posted, .posted, .readFailed]

/-- The queued report is dropped: one fault was detected, and no report is left. -/
theorem not_always_balanced_lostWhileQueued :
    ¬Always (step faultyConfig) Balanced (start faultyConfig) lostWhileQueued := by
  intro h
  have hbalanced := h lostWhileQueued (List.prefix_refl _) _ rfl
  exact absurd hbalanced (by unfold Balanced; decide)

end Lamp

end SmartLighting
