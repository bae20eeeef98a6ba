import SmartLighting.ZoneLamps

/-!
# The write queue of a device session

The queue takes a step when `queue_send` posts a handler, when a posted handler runs and
when a write completes. The handlers may run in any order, and a write may fail. A monitor
notes the frames that `queue_send` is given, and the order in which the handlers push them.
The steps of a region move the queue of each session by such steps only.
-/

namespace SmartLighting

open Transition

namespace SendQueue

/-- The posted handler at a position runs. -/
def runHandler (q : SendQueue) (i : ℕ) : Option SendQueue :=
  match q.posted[i]? with
  | none => none
  | some m =>
    let q := { q with posted := q.posted.eraseIdx i, outQ := q.outQ ++ [m] }
    some (if q.writing then q else q.doWrite)

/-- The completion handler of `do_write`. After an error nothing more is written. -/
def writeDone (q : SendQueue) (i : ℕ) (ok : Bool) : Option SendQueue :=
  (q.complete i ok).map fun q => if ok then q.doWrite else q

/-- What can happen to the queue of a device session. -/
inductive Event
  /-- `queue_send` is called. -/
  | queueSend (m : OutMsg)
  /-- A posted handler runs. -/
  | handler (i : ℕ)
  /-- A write completes. -/
  | writeDone (i : ℕ) (ok : Bool)

/-- One step of the queue of a device session. -/
def step (q : SendQueue) : Event → Option SendQueue
  | .queueSend m => some (q.post m)
  | .handler i => q.runHandler i
  | .writeDone i ok => q.writeDone i ok

variable {q r : SendQueue} {e : Event}

/-- Handlers that run in posting order run from the front. -/
theorem runPosted_eq (q : SendQueue) : q.runPosted = q.runHandler 0 := by
  unfold runPosted runHandler
  cases hposted : q.posted with
  | nil => rfl
  | cons m rest => rfl

/-! ## The law of the queue -/

/-- What a monitor of the queue remembers. -/
structure QueueLog where
  /-- The frames that `queue_send` was given, in order. -/
  sent : List OutMsg
  /-- The frames that handlers pushed, in order. -/
  pushed : List OutMsg
  /-- The frames that had been written when the first write failed. -/
  failedAt : Option (List OutMsg)

/-- Nothing was seen yet. -/
def QueueLog.empty : QueueLog := ⟨[], [], none⟩

/-- The frame that a step gives to `queue_send`. -/
def sentBy : Event → Option OutMsg
  | .queueSend m => some m
  | _ => none

/-- The frame that a step pushes. -/
def pushedBy (q : SendQueue) : Event → Option OutMsg
  | .handler i => q.posted[i]?
  | _ => none

/-- What was written when a step makes a write fail. -/
def failedBy (q : SendQueue) : Event → Option (List OutMsg)
  | .writeDone _ false => some q.written
  | _ => none

/-- A monitor of the queue. -/
def watchQueue (log : QueueLog) (q : SendQueue) (e : Event) (_ : SendQueue) : QueueLog where
  sent := log.sent ++ (sentBy e).toList
  pushed := log.pushed ++ (q.pushedBy e).toList
  failedAt := log.failedAt.or (q.failedBy e)

/-- A single writer: each frame is pushed once, and the pushed frames are written once and in
order, until a write fails. -/
structure SingleWriter (q : SendQueue) (log : QueueLog) : Prop where
  /-- Every frame that was sent was pushed once, or its handler has yet to run. -/
  once : (log.pushed ++ q.posted).Perm log.sent
  /-- Every pushed frame was written, or it is queued behind the others. -/
  pushed : log.pushed = q.written ++ q.outQ
  /-- At most one write is outstanding. -/
  single : q.outstanding.length ≤ 1
  /-- The frames are written in the order in which they are pushed. -/
  fifo : q.written <+: log.pushed
  /-- As long as no write failed, `writing_` tells whether one is outstanding. -/
  writing : log.failedAt = none → (q.outstanding = [] ↔ q.writing = false)
  /-- As long as no write failed, no frame is stuck. -/
  drained : log.failedAt = none → q.writing = false → q.outQ = []
  /-- Nothing is written after a failure. -/
  silent : ∀ written, log.failedAt = some written → q.written = written

/-- The phases of a queue: idle, writing or failed. -/
inductive Phase (q : SendQueue) (log : QueueLog) : Prop
  /-- Nothing is queued or written. -/
  | idle (hfailed : log.failedAt = none) (hwriting : q.writing = false)
      (houtstanding : q.outstanding = []) (houtQ : q.outQ = [])
  /-- One write is outstanding. -/
  | busy (m : OutMsg) (hfailed : log.failedAt = none) (hwriting : q.writing = true)
      (houtstanding : q.outstanding = [m])
  /-- A write failed, so that `writing_` stays set. -/
  | stopped (hfailed : log.failedAt = some q.written) (hwriting : q.writing = true)
      (houtstanding : q.outstanding = [])

/-- What holds between two steps: every frame is posted, written or queued, in order. -/
structure QueueInv (q : SendQueue) (log : QueueLog) : Prop where
  /-- The frames that were sent. -/
  once : (log.pushed ++ q.posted).Perm log.sent
  /-- The frames in order. -/
  pushed : log.pushed = q.written ++ q.outQ
  /-- The phase. -/
  phase : Phase q log

/-- The invariant implies the law. -/
theorem QueueInv.singleWriter {log : QueueLog} (h : QueueInv q log) : SingleWriter q log := by
  have hfifo : q.written <+: log.pushed := h.pushed ▸ List.prefix_append ..
  cases h.phase with
  | idle hfailed hwriting houtstanding houtQ =>
    constructor
    · exact h.once
    · exact h.pushed
    · simp [houtstanding]
    · exact hfifo
    · exact fun _ => iff_of_true houtstanding hwriting
    · exact fun _ _ => houtQ
    · simp [hfailed]
  | busy m hfailed hwriting houtstanding =>
    constructor
    · exact h.once
    · exact h.pushed
    · simp [houtstanding]
    · exact hfifo
    · exact fun _ => iff_of_false (by simp [houtstanding]) (by simp [hwriting])
    · intro _ hidle
      rw [hwriting] at hidle
      cases hidle
    · simp [hfailed]
  | stopped hfailed hwriting houtstanding =>
    constructor
    · exact h.once
    · exact h.pushed
    · simp [houtstanding]
    · exact hfifo
    · simp [hfailed]
    · simp [hfailed]
    · intro written hwritten
      exact Option.some.inj (hfailed.symm.trans hwritten)

/-- A queue without an outstanding write starts the next one, or becomes idle. -/
theorem queueInv_doWrite {log : QueueLog} (honce : (log.pushed ++ q.posted).Perm log.sent)
    (hpushed : log.pushed = q.written ++ q.outQ) (hfailed : log.failedAt = none)
    (houtstanding : q.outstanding = []) : QueueInv q.doWrite log := by
  unfold doWrite
  split
  · next houtQ =>
    exact ⟨honce, hpushed, .idle hfailed rfl houtstanding houtQ⟩
  · next m rest houtQ =>
    rw [houtQ] at hpushed
    constructor
    · exact honce
    · simp only [hpushed, List.append_assoc, List.singleton_append]
    · refine .busy m hfailed rfl ?_
      simp only [houtstanding, List.nil_append]

/-- A posted handler keeps the invariant. -/
theorem QueueInv.handler {log : QueueLog} {i : ℕ} (h : QueueInv q log)
    (hstep : q.runHandler i = some r) : QueueInv r (watchQueue log q (.handler i) r) := by
  unfold runHandler at hstep
  cases hm : q.posted[i]? with
  | none =>
    rw [hm] at hstep
    cases hstep
  | some m =>
    rw [hm] at hstep
    cases hstep
    dsimp only
    have hpushed : ∀ r,
        (watchQueue log q (.handler i) r).pushed = q.written ++ (q.outQ ++ [m]) := by
      intro r
      simp only [watchQueue, pushedBy, hm, h.pushed, Option.toList_some, List.append_assoc]
    have honce : ∀ r, ((watchQueue log q (.handler i) r).pushed ++ q.posted.eraseIdx i).Perm
        (watchQueue log q (.handler i) r).sent := by
      intro r
      simp only [watchQueue, pushedBy, sentBy, hm, Option.toList_some, Option.toList_none,
        List.append_nil, List.append_assoc, List.singleton_append]
      obtain ⟨hi, rfl⟩ := List.getElem?_eq_some_iff.mp hm
      -- The handler takes its frame out of the posted ones.
      exact ((List.getElem_cons_eraseIdx_perm hi).append_left log.pushed).trans h.once
    have hkept : ∀ r, (watchQueue log q (.handler i) r).failedAt = log.failedAt := by
      intro r
      simp only [watchQueue, failedBy, Option.or_none]
    cases h.phase with
    | idle hfailed hwriting houtstanding houtQ =>
      rw [hwriting, if_neg Bool.false_ne_true]
      exact queueInv_doWrite (honce _) (hpushed _) ((hkept _).trans hfailed) houtstanding
    | busy m' hfailed hwriting houtstanding =>
      rw [if_pos hwriting]
      exact ⟨honce _, hpushed _, .busy m' ((hkept _).trans hfailed) hwriting houtstanding⟩
    | stopped hfailed hwriting houtstanding =>
      rw [if_pos hwriting]
      exact ⟨honce _, hpushed _, .stopped ((hkept _).trans hfailed) hwriting houtstanding⟩

/-- A completed write keeps the invariant. Only a writing queue has one to complete. -/
theorem QueueInv.writeDone {log : QueueLog} {i : ℕ} {ok : Bool} (h : QueueInv q log)
    (hstep : q.writeDone i ok = some r) : QueueInv r (watchQueue log q (.writeDone i ok) r) := by
  obtain ⟨r', hcomplete, rfl⟩ := Option.map_eq_some_iff.mp hstep
  unfold complete at hcomplete
  cases hm : q.outstanding[i]? with
  | none =>
    rw [hm] at hcomplete
    cases hcomplete
  | some m =>
    rw [hm] at hcomplete
    cases hcomplete
    have hpushed : ∀ r, (watchQueue log q (.writeDone i ok) r).pushed = q.written ++ q.outQ := by
      intro r
      simp only [watchQueue, pushedBy, h.pushed, Option.toList_none, List.append_nil]
    have honce : ∀ r, ((watchQueue log q (.writeDone i ok) r).pushed ++ q.posted).Perm
        (watchQueue log q (.writeDone i ok) r).sent := by
      intro r
      simp only [watchQueue, pushedBy, sentBy, Option.toList_none, List.append_nil]
      exact h.once
    cases h.phase with
    | idle hfailed hwriting houtstanding houtQ => simp [houtstanding] at hm
    | stopped hfailed hwriting houtstanding => simp [houtstanding] at hm
    | busy m' hfailed hwriting houtstanding =>
      have hi : i = 0 := by
        rw [houtstanding] at hm
        obtain ⟨hi, -⟩ := List.getElem?_eq_some_iff.mp hm
        simpa using hi
      have hempty : q.outstanding.eraseIdx i = [] := by simp [houtstanding, hi]
      cases ok with
      | true =>
        exact queueInv_doWrite (honce _) (hpushed _) (by simp [watchQueue, failedBy, hfailed])
          hempty
      | false =>
        exact ⟨honce _, hpushed _,
          .stopped (by simp [watchQueue, failedBy, hfailed]) hwriting hempty⟩

/-- Every step keeps the invariant. -/
theorem QueueInv.step {log : QueueLog} (h : QueueInv q log) (hstep : q.step e = some r) :
    QueueInv r (watchQueue log q e r) := by
  cases e with
  | queueSend m =>
    cases hstep
    have hnew : watchQueue log q (.queueSend m) (q.post m) =
        { log with sent := log.sent ++ [m] } := by
      simp [watchQueue, sentBy, pushedBy, failedBy]
    rw [hnew]
    constructor
    · have honce := h.once.append_right [m]
      rw [List.append_assoc] at honce
      exact honce
    · exact h.pushed
    · cases h.phase with
      | idle hfailed hwriting houtstanding houtQ =>
        exact .idle hfailed hwriting houtstanding houtQ
      | busy m' hfailed hwriting houtstanding => exact .busy m' hfailed hwriting houtstanding
      | stopped hfailed hwriting houtstanding => exact .stopped hfailed hwriting houtstanding
  | handler i => exact h.handler hstep
  | writeDone i ok => exact h.writeDone hstep

/-- The invariant holds in every run. -/
theorem always_queueInv (es : List Event) :
    Always (monitored step watchQueue) (fun p => QueueInv p.1 p.2) (empty, .empty) es :=
  .of_monitored (fun _ _ _ _ h hstep => h.step hstep)
    ⟨List.Perm.nil, rfl, .idle rfl rfl rfl rfl⟩

/-- In every order of the steps, and whatever the results of the writes, the queue is a single
writer of the frames that it is given: each is pushed once, and none is dropped or stuck. -/
theorem always_singleWriter (es : List Event) :
    Always (monitored step watchQueue) (fun p => SingleWriter p.1 p.2) (empty, .empty) es :=
  (always_queueInv es).mono fun _ h => h.singleWriter

/-! ## The queues of a region -/

/-- Some steps lead from one queue to the other. -/
def Moves (q r : SendQueue) : Prop := ∃ es, run step q es = some r

theorem Moves.refl (q : SendQueue) : Moves q q := ⟨[], rfl⟩

theorem Moves.trans {a b c : SendQueue} (hab : Moves a b) (hbc : Moves b c) : Moves a c := by
  obtain ⟨es, hes⟩ := hab
  obtain ⟨fs, hfs⟩ := hbc
  refine ⟨es ++ fs, ?_⟩
  rw [run_append, hes, Option.bind_some, hfs]

/-- A single step. -/
theorem Moves.step (h : q.step e = some r) : Moves q r := by
  refine ⟨[e], ?_⟩
  rw [run_cons, h, Option.bind_some, run_nil]

end SendQueue

namespace Region

variable {cfg : RegionConfig} {r t : Region} {clock : Clock}

/-- The queue of each session takes steps. -/
def QueuesMove (r t : Region) : Prop :=
  ∀ k, SendQueue.Moves (r.sessions k).queue (t.sessions k).queue

/-- Where the sessions are the same, no queue moves. -/
theorem QueuesMove.of_eq (h : t.sessions = r.sessions) : QueuesMove r t := by
  intro k
  rw [h]
  exact .refl _

theorem QueuesMove.trans {a b c : Region} (hab : QueuesMove a b) (hbc : QueuesMove b c) :
    QueuesMove a c :=
  fun k => (hab k).trans (hbc k)

/-- The queue of one session moves. -/
theorem QueuesMove.setSession {k : ℕ} {s : DeviceSession}
    (h : SendQueue.Moves (r.sessions k).queue s.queue) : QueuesMove r (r.setSession k s) := by
  intro j
  rw [sessions_setSession]
  split
  · next hj => rwa [hj]
  · exact .refl _

/-- A command queues at most one frame. -/
theorem QueuesMove.sendCmdToUri (r : Region) (uri : Bytes) (cmd value : UInt8) :
    QueuesMove r (r.sendCmdToUri uri cmd value) := by
  unfold Region.sendCmdToUri
  dsimp only
  split
  · exact .of_eq rfl
  · next k hk =>
    split
    · exact .of_eq rfl
    split
    · next s hs =>
      refine .trans (.of_eq rfl) (.setSession ?_)
      rcases DeviceSession.sendCmd_eq_ok hs with rfl | ⟨-, payload, rfl⟩
      · exact .refl _
      · exact .step (e := .queueSend ⟨.cmd, payload⟩) rfl
    · exact .of_eq rfl

/-- The calls of an edge queue frames. -/
theorem QueuesMove.makeCalls (r : Region) (calls : List CmdCall) :
    QueuesMove r (r.makeCalls calls) := by
  induction calls generalizing r with
  | nil => exact .of_eq rfl
  | cons c calls ih => exact (QueuesMove.sendCmdToUri r c.uri c.cmd c.value).trans (ih _)

/-- The edge detection queues the commands of its edge. -/
theorem QueuesMove.motionEdge (r : Region) (tel : Telemetry) :
    QueuesMove r (r.motionEdge tel) := by
  rw [motionEdge_eq]
  split
  · exact (QueuesMove.makeCalls r _).trans (.of_eq rfl)
  · exact .of_eq rfl

/-- Telemetry queues at most the commands of its edge. -/
theorem QueuesMove.receive (cfg : RegionConfig) (clock : Clock) (r : Region) (tel : Telemetry) :
    QueuesMove r (Region.receive cfg clock r tel) := by
  by_cases hmotion : tel.motion = 0 ∨ tel.motion = 1
  · rw [receive_of_motion hmotion]
    refine QueuesMove.trans (b := { r with
      reg := r.reg.upsert tel.uri (telemetryState tel clock.nowMs (r.reg.get tel.uri)) })
      (.of_eq rfl) ?_
    exact .motionEdge _ tel
  · exact .of_eq (receive_of_other hmotion).1

/-- A frame is answered by at most one frame. -/
theorem QueuesMove.handleFrame (cfg : RegionConfig) (clock : Clock) (r : Region) (k : ℕ)
    (body : Bytes) : QueuesMove r (Region.handleFrame cfg clock r k body) := by
  have hsession := DeviceSession.session_exec_onMessage cfg.regionId (r.sessions k) body clock r.reg
  unfold Region.handleFrame
  generalize ((r.sessions k).onMessage cfg.regionId body clock).exec r.reg = result at hsession ⊢
  obtain ⟨out, reg⟩ := result
  dsimp only at hsession ⊢
  have hmoves : SendQueue.Moves (r.sessions k).queue out.session.queue := by
    rw [hsession]
    split
    · split
      · exact .step (e := .queueSend _) rfl
      · exact .step (e := .queueSend _) rfl
    · exact .step (e := .queueSend _) rfl
    · exact .refl _
  have hafter : QueuesMove r (afterFrame r k out reg) :=
    QueuesMove.trans (.setSession hmoves) (.of_eq rfl)
  split
  · exact hafter.trans (.of_eq rfl)
  · exact hafter

/-- Every step of the region moves the queue of each session by steps of the queue. -/
theorem queuesMove_step {e : Event} (h : step cfg r e = some t) : QueuesMove r t := by
  cases e with
  | frame k body clock =>
    simp only [step] at h
    split at h
    · cases h
    · cases h
      exact .handleFrame cfg clock r k body
  | datagram bytes beyond clock =>
    simp only [step] at h
    split at h
    · cases h
      exact .receive cfg clock r _
    · cases h
      exact .of_eq rfl
  | tick clock =>
    cases h
    exact .of_eq sessions_tick
  | posted k =>
    obtain ⟨q, hq, rfl⟩ := Option.map_eq_some_iff.mp h
    rw [SendQueue.runPosted_eq] at hq
    exact .setSession (.step (e := .handler 0) hq)
  | writeDone k i ok =>
    obtain ⟨s, hs, rfl⟩ := Option.map_eq_some_iff.mp h
    obtain ⟨q, hq, rfl⟩ := Option.map_eq_some_iff.mp hs
    have hmove : SendQueue.Moves (r.sessions k).queue (if ok then q.doWrite else q) := by
      refine .step (e := .writeDone i ok) ?_
      simp only [SendQueue.step, SendQueue.writeDone, hq, Option.map_some]
    have hset := QueuesMove.setSession (s := { r.sessions k with
      queue := if ok then q.doWrite else q }) hmove
    cases ok with
    | true => exact hset
    | false => exact hset.trans (.of_eq (onClose_routes _ k).1)
  | close k =>
    simp only [step] at h
    split at h
    · cases h
    · cases h
      exact .of_eq (onClose_routes r k).1
  | expire k =>
    simp only [step] at h
    split at h
    · cases h
      exact .of_eq rfl
    · cases h

/-- In every run of a region the queue of each session makes a run of its own. -/
theorem moves_of_run {es : List Event} (h : run (step cfg) r es = some t) : QueuesMove r t := by
  induction es generalizing r with
  | nil =>
    cases h
    exact .of_eq rfl
  | cons e es ih =>
    obtain ⟨s, hs, hrest⟩ := Option.bind_eq_some_iff.mp h
    exact (queuesMove_step hs).trans (ih hrest)

/-- The queues of a region that was started are single writers. -/
theorem singleWriter_of_run {es : List Event} (h : run (step cfg) start es = some r) (k : ℕ) :
    ∃ log, SendQueue.SingleWriter (r.sessions k).queue log := by
  obtain ⟨moves, hmoves⟩ := moves_of_run h k
  obtain ⟨log, hlog⟩ := run_monitored SendQueue.watchQueue .empty hmoves
  exact ⟨log, (SendQueue.always_queueInv moves moves (List.prefix_refl _) _ hlog).singleWriter⟩

end Region

end SmartLighting
