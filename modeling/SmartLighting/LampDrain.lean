import SmartLighting.LampSound

/-!
# What a lamp has queued

`LuminaireClient` writes its queue as a device session does, but drops it when it gives up a
connection, and writes under way complete even then. In every state of every run a write is under
way as long as something waits in the queue. So the queue is never stuck: each posted handler and
each successful write brings the lamp closer to having written all that it has to say.
-/

namespace SmartLighting

open StateMachine Transition

namespace SendQueue

variable {q r : SendQueue} {i : ℕ}

/-- The queue is not stuck. -/
structure Flows (q : SendQueue) : Prop where
  /-- While `writing_` is set, a write is under way. -/
  busy : q.writing = true → q.outstanding ≠ []
  /-- Otherwise nothing waits. -/
  idle : q.writing = false → q.outQ = []

theorem Flows.post (h : Flows q) (m : OutMsg) : Flows (q.post m) := ⟨h.busy, h.idle⟩

theorem flows_reset (q : SendQueue) : Flows q.reset := ⟨nofun, fun _ => rfl⟩

/-- The next write is started, or nothing waits. -/
theorem flows_doWrite (q : SendQueue) : Flows q.doWrite := by
  unfold doWrite
  split
  · next houtQ => exact ⟨nofun, fun _ => houtQ⟩
  · next m rest houtQ => exact ⟨fun _ => List.append_ne_nil_of_right_ne_nil _ nofun, nofun⟩

/-- A posted handler leaves the write under way, or starts one. -/
theorem Flows.runPosted (h : Flows q) (hstep : q.runPosted = some r) : Flows r := by
  unfold SendQueue.runPosted at hstep
  split at hstep
  · cases hstep
  · next m rest hposted =>
    cases hstep
    dsimp only
    split
    · next hwriting =>
      exact ⟨fun _ => h.busy hwriting, fun hidle => nomatch hwriting.symm.trans hidle⟩
    · exact flows_doWrite _

/-- Nothing is posted, queued or being written. -/
structure Idle (q : SendQueue) : Prop where
  /-- No handler has yet to run. -/
  posted : q.posted = []
  /-- Nothing waits. -/
  outQ : q.outQ = []
  /-- No write is under way. -/
  outstanding : q.outstanding = []

/-- The handlers until all frames are written. A posted frame has to be queued first. -/
def backlog (q : SendQueue) : ℕ := 2 * q.posted.length + q.outQ.length + q.outstanding.length

theorem backlog_post (m : OutMsg) : (q.post m).backlog = q.backlog + 2 := by
  simp only [backlog, post, List.length_append, List.length_singleton]
  omega

theorem backlog_reset : q.reset.backlog ≤ q.backlog := by
  simp only [backlog, reset, List.length_nil]
  omega

/-- Starting a write moves a frame. -/
theorem backlog_doWrite : q.doWrite.backlog = q.backlog := by
  unfold doWrite
  split
  · rfl
  · next m rest houtQ =>
    simp only [backlog, houtQ, List.length_append, List.length_cons, List.length_nil]
    omega

/-- A posted handler is one handler less. -/
theorem backlog_runPosted (h : q.runPosted = some r) : r.backlog + 1 = q.backlog := by
  unfold runPosted at h
  split at h
  · cases h
  · next m rest hposted =>
    cases h
    have hqueued : ({ q with posted := rest, outQ := q.outQ ++ [m] } : SendQueue).backlog + 1 =
        q.backlog := by
      simp only [backlog, hposted, List.length_append, List.length_cons, List.length_nil]
      omega
    dsimp only
    split
    · exact hqueued
    · rw [backlog_doWrite, hqueued]

/-- So is a completed write. -/
theorem backlog_complete {ok : Bool} (h : q.complete i ok = some r) :
    r.backlog + 1 = q.backlog := by
  unfold complete at h
  split at h
  · cases h
  · next m hm =>
    cases h
    have hi := (List.getElem?_eq_some_iff.mp hm).1
    simp only [backlog, List.length_eraseIdx_of_lt hi]
    omega

/-- In an idle queue the only frame is written at once. -/
theorem Idle.runPosted_post (hidle : Idle q) (hflows : Flows q) (m : OutMsg) :
    (q.post m).runPosted = some
      { q with writing := true, outstanding := [m], written := q.written ++ [m] } := by
  have hwriting : q.writing = false := by
    by_contra hwriting
    exact hflows.busy (Bool.eq_true_of_not_eq_false hwriting) hidle.outstanding
  obtain ⟨posted, outQ, writing, outstanding, written, completed⟩ := q
  obtain ⟨hposted, houtQ, houtstanding⟩ := hidle
  cases hposted
  cases houtQ
  cases houtstanding
  cases hwriting
  rfl

/-- The next write completes no other. -/
theorem completed_doWrite : q.doWrite.completed = q.completed := by
  unfold doWrite
  split <;> rfl

end SendQueue

namespace Lamp

variable {cfg : LampConfig} {l m t : Lamp} {e : Event}

/-! ## The queue is never stuck -/

/-- A frame makes a lamp post frames, or give up its connection. -/
private theorem flows_reaction (hflows : l.queue.Flows) {body : Bytes} {draw : Fin 1000}
    (h : Reaction cfg l body draw t) : t.queue.Flows := by
  have hswitched (c : Command) : (l.switched c).queue = l.queue := by rw [switched_eq]
  cases h with
  | acked htype hstate =>
    rw [acked, scheduleHeartbeat_queue]
    exact hflows.post _
  | nacked htype =>
    rw [nacked, scheduleReconnect_queue]
    exact SendQueue.flows_reset _
  | obeyed c hc hobeys hquiet =>
    refine SendQueue.Flows.post ?_ _
    rw [hswitched]
    exact hflows
  | faulted c hc hobeys hcmd hdraw =>
    have hreported : ((l.switched c).reported cfg).queue.Flows := by
      refine SendQueue.Flows.post ?_ _
      rw [hswitched]
      exact hflows
    unfold detected
    split
    · exact hreported
    · exact hreported.post _
  | kept v hack hnack hobeys hv => exact hflows

/-- The end of a handshake posts at most the registration. -/
theorem queue_connectedUp (cfg : LampConfig) (l : Lamp) : (l.connectedUp cfg).queue = l.queue ∨
    (l.connectedUp cfg).queue = l.queue.post (registerFrame cfg) := by
  unfold connectedUp
  dsimp only
  split_ifs
  · exact Or.inl rfl
  · exact Or.inr rfl
  · exact Or.inl rfl
  · exact Or.inl rfl
  · exact Or.inr rfl
  · exact Or.inl rfl

/-- **Step lemma.** No handler leaves the queue stuck. -/
theorem flows_step (hsound : Sound cfg l) (hflows : l.queue.Flows) (h : step cfg l e = some t) :
    t.queue.Flows := by
  obtain ⟨-, hpending, rfl⟩ := step_eq hsound h
  have hlost (l' : Lamp) : l'.scheduleReconnect.queue.Flows := by
    rw [scheduleReconnect_queue]
    exact SendQueue.flows_reset _
  cases e with
  | resolved ok =>
    cases ok with
    | true => exact hflows
    | false => exact hlost _
  | connected ok =>
    cases ok with
    | true => exact hflows
    | false => exact hlost _
  | handshaken ok =>
    cases ok with
    | true =>
      rcases queue_connectedUp cfg { l with handshakes := l.handshakes - 1 } with hq | hq
      · exact hq ▸ hflows
      · exact hq ▸ hflows.post _
    | false => exact hlost _
  | posted =>
    obtain ⟨q, hq⟩ := hpending
    simp only [after, hq]
    exact hflows.runPosted hq
  | writeDone i ok =>
    obtain ⟨q, hq⟩ := hpending
    simp only [after, hq]
    cases ok with
    | true => exact SendQueue.flows_doWrite _
    | false => exact hlost _
  | readFailed => exact hlost _
  | frame body draw =>
    have hreaction := received_reaction cfg { l with reads := l.reads - 1 } body draw
    have hflows' : ({ l with reads := l.reads - 1 } : Lamp).queue.Flows := hflows
    have hreceived := flows_reaction hflows' hreaction
    exact hreceived
  | registerTimer cancelled =>
    simp only [after]
    split
    · exact hflows
    split
    · exact hlost _
    · exact hflows
  | reconnectTimer cancelled =>
    cases cancelled with
    | true => exact hflows
    | false => exact hflows
  | heartbeatTimer cancelled =>
    simp only [after]
    split
    · exact hflows
    · rw [scheduleHeartbeat_queue]
      split
      · exact hflows.post _
      · exact hflows
  | resetTimer =>
    simp only [after]
    split
    · exact hlost _
    · exact hflows
  | stopTimer => exact hflows

/-- In every state of every run the queue is not stuck. -/
theorem always_flows (cfg : LampConfig) (es : List Event) :
    Always (step cfg) (fun l => l.queue.Flows) (start cfg) es := by
  have hinv : Always (step cfg) (fun l => Sound cfg l ∧ l.queue.Flows) (start cfg) es :=
    Always.of_invariant (fun _ _ _ h hstep => ⟨h.1.step hstep, flows_step h.1 h.2 hstep⟩)
      ⟨.start, nofun, fun _ => rfl⟩
  exact hinv.mono fun _ h => h.2

/-! ## What is queued gets written -/

/-- The handlers until everything is written, with the report that is held back. -/
def backlog (l : Lamp) : ℕ := l.queue.backlog + if l.pendingFault then 2 else 0

theorem backlog_setQueue (q : SendQueue) :
    (l.setQueue q).backlog = q.backlog + if l.pendingFault then 2 else 0 := rfl

theorem backlog_scheduleReconnect (l : Lamp) : l.scheduleReconnect.backlog ≤ l.backlog := by
  have hreset : l.queue.reset.backlog ≤ l.queue.backlog := SendQueue.backlog_reset
  rw [backlog, backlog, scheduleReconnect_queue, scheduleReconnect_pendingFault]
  omega

/-- A registration takes two handlers to be written. -/
theorem backlog_connectedUp (cfg : LampConfig) (l : Lamp) :
    (l.connectedUp cfg).backlog ≤ l.backlog + 2 := by
  have hpending : (l.connectedUp cfg).pendingFault = l.pendingFault := by
    unfold connectedUp
    dsimp only
    split_ifs <;> rfl
  have hqueue : (l.connectedUp cfg).queue.backlog ≤ l.queue.backlog + 2 := by
    rcases queue_connectedUp cfg l with hq | hq
    · rw [hq]
      exact Nat.le_add_right ..
    · rw [hq, SendQueue.backlog_post]
  rw [backlog, backlog, hpending]
  omega

/-- The lamps differ in what they have still to write. -/
def SameButQueue (l t : Lamp) : Prop :=
  t = { l with queue := t.queue, pendingFault := t.pendingFault }

theorem SameButQueue.refl (l : Lamp) : SameButQueue l l := rfl

theorem SameButQueue.trans (h : SameButQueue l m) (h' : SameButQueue m t) : SameButQueue l t := by
  rw [SameButQueue] at h h' ⊢
  rw [h', h]

theorem SameButQueue.stopped (h : SameButQueue l t) : t.stopped = l.stopped :=
  (congrArg Lamp.stopped h :)

theorem SameButQueue.state (h : SameButQueue l t) : t.state = l.state := (congrArg Lamp.state h :)

theorem SameButQueue.reads (h : SameButQueue l t) : t.reads = l.reads := (congrArg Lamp.reads h :)

theorem SameButQueue.statusFrame (h : SameButQueue l t) :
    t.statusFrame cfg = l.statusFrame cfg :=
  (congrArg (Lamp.statusFrame cfg) h :)

/-- A write leaves the rest of the lamp. -/
theorem sameButQueue_written (q : SendQueue) : SameButQueue l (l.written cfg q true) := by
  cases hpending : l.pendingFault with
  | true =>
    rw [written_of_pending hpending]
    rfl
  | false =>
    rw [written_of_clear hpending]
    rfl

/-- A write is one handler less. -/
private theorem backlog_written {q : SendQueue} (hq : q.backlog + 1 = l.queue.backlog) :
    (l.written cfg q true).backlog + 1 = l.backlog := by
  cases hpending : l.pendingFault with
  | true =>
    rw [written_of_pending hpending]
    have hposted : (q.post (faultFrame cfg)).doWrite.backlog = q.backlog + 2 := by
      rw [SendQueue.backlog_doWrite, SendQueue.backlog_post]
    simp only [backlog, hpending, if_true]
    change (q.post (faultFrame cfg)).doWrite.backlog + 0 + 1 = _
    omega
  | false =>
    rw [written_of_clear hpending]
    rw [backlog_setQueue, SendQueue.backlog_doWrite, backlog]
    omega

/-- A lamp that starts the next write completes no other. -/
theorem completed_written (q : SendQueue) :
    (l.written cfg q true).queue.completed = q.completed := by
  cases hpending : l.pendingFault with
  | true =>
    rw [written_of_pending hpending]
    exact SendQueue.completed_doWrite
  | false =>
    rw [written_of_clear hpending]
    exact SendQueue.completed_doWrite

/-- As long as something is queued, some handler can run that gets the lamp closer to its end. -/
theorem exists_write (cfg : LampConfig) (hflows : l.queue.Flows) (hbusy : ¬l.queue.Idle) :
    ∃ e, (e = .posted ∨ e = .writeDone 0 true) ∧ Pending l e ∧ SameButQueue l (l.after cfg e) ∧
      (l.after cfg e).backlog + 1 = l.backlog := by
  cases hposted : l.queue.posted with
  | cons m rest =>
    have hsome : ∃ q, l.queue.runPosted = some q := by
      unfold SendQueue.runPosted
      rw [hposted]
      exact ⟨_, rfl⟩
    obtain ⟨q, hq⟩ := hsome
    have hbacklog := SendQueue.backlog_runPosted hq
    refine ⟨.posted, Or.inl rfl, ⟨q, hq⟩, ?_⟩
    simp only [after, hq]
    refine ⟨rfl, ?_⟩
    rw [backlog_setQueue, backlog]
    omega
  | nil =>
    cases houtstanding : l.queue.outstanding with
    | cons m rest =>
      have hsome : ∃ q, l.queue.complete 0 true = some q := by
        unfold SendQueue.complete
        rw [houtstanding]
        exact ⟨_, rfl⟩
      obtain ⟨q, hq⟩ := hsome
      refine ⟨.writeDone 0 true, Or.inr rfl, ⟨q, hq⟩, ?_⟩
      simp only [after, hq]
      exact ⟨sameButQueue_written q, backlog_written (SendQueue.backlog_complete hq)⟩
    | nil =>
      -- Nothing is under way, so nothing waits either.
      have hwriting : l.queue.writing = false := by
        by_contra hwriting
        exact hflows.busy (Bool.eq_true_of_not_eq_false hwriting) houtstanding
      exact absurd ⟨hposted, hflows.idle hwriting, houtstanding⟩ hbusy

end Lamp

end SmartLighting
