import SmartLighting.Database
import SmartLighting.Library.Runs
import Mathlib.Logic.Function.Basic

/-!
# The queue of the database writer

Any thread may call `enqueue`, one thread calls `stop`, and the worker takes events from the
queue. A step is one critical section of the mutex, one access to an atomic flag, or the
handling of an event, which only the worker does. The worker may wake up at any time.
-/

namespace SmartLighting

open Transition

/-- Where the worker stands in `worker_main`. -/
inductive Worker
  /-- It is about to check the predicate of its wait. -/
  | checking
  /-- It sleeps in `cv_.wait`. -/
  | waiting
  /-- It took an event and released the mutex. -/
  | handling (e : DbEvent)
  /-- It left the loop. -/
  | exited
  deriving DecidableEq

/-- Where the caller stands in `stop`. -/
inductive Stopper
  /-- The call has not begun. -/
  | outside
  /-- It found `running_` set. -/
  | entered
  /-- It set `stop_requested_`. -/
  | joining
  /-- The worker was joined, and `running_` reset. -/
  | joined
  /-- The queue was cleared, and the call returned. -/
  | returned
  deriving DecidableEq

/-- `class DbWriter` with its threads. `ι` names the threads that call `enqueue`. -/
structure DbWriter (ι : Type) where
  /-- `running_`. -/
  running : Bool
  /-- `stop_requested_`. -/
  stopRequested : Bool
  /-- `q_`. -/
  q : List DbEvent
  /-- The worker thread. -/
  worker : Worker
  /-- The thread that calls `stop`. -/
  stopper : Stopper
  /-- The event of each thread that has found `running_` set in `enqueue`. -/
  entering : ι → Option DbEvent
  /-- The database. -/
  db : Sqlite

namespace DbWriter

variable {ι : Type} [DecidableEq ι]

/-- The writer when `start` returns, with the database that it opened. -/
def start (db : Sqlite) : DbWriter ι :=
  ⟨true, false, [], .checking, .outside, fun _ => none, db⟩

/-- What can happen to the writer. -/
inductive Event (ι : Type)
  /-- A thread calls `enqueue`, which reads `running_`. -/
  | enqueue (i : ι) (e : DbEvent)
  /-- The critical section of `enqueue`. -/
  | push (i : ι)
  /-- The worker evaluates the predicate, and goes on unless it must wait. -/
  | check
  /-- The worker wakes up. -/
  | wake
  /-- The worker handles its event; a step of the database may fail. -/
  | handle (failAt : Option ℕ)
  /-- A thread calls `stop`, which reads `running_`. -/
  | stop
  /-- The critical section that sets `stop_requested_`. -/
  | request
  /-- `join` returns. -/
  | join
  /-- The critical section that clears the queue. -/
  | clear

/-- The critical section of `worker_main`. -/
def check (w : DbWriter ι) : DbWriter ι :=
  match w.q with
  | [] => { w with worker := if w.stopRequested then .exited else .waiting }
  | e :: rest => { w with worker := .handling e, q := rest }

/-- One atomic step of one thread. -/
def step (w : DbWriter ι) : Event ι → Option (DbWriter ι)
  | .enqueue i e =>
    if w.entering i = none then
      some (if w.running then { w with entering := Function.update w.entering i (some e) } else w)
    else none
  | .push i =>
    (w.entering i).map fun e =>
      { w with q := w.q ++ [e], entering := Function.update w.entering i none }
  | .check => if w.worker = .checking then some w.check else none
  | .wake => if w.worker = .waiting then some { w with worker := .checking } else none
  | .handle failAt =>
    match w.worker with
    | .handling e => some { w with db := w.db.work failAt e, worker := .checking }
    | _ => none
  | .stop =>
    if w.stopper = .outside then
      some { w with stopper := if w.running then .entered else .returned }
    else none
  | .request =>
    if w.stopper = .entered then some { w with stopRequested := true, stopper := .joining }
    else none
  | .join =>
    if w.stopper = .joining ∧ w.worker = .exited then
      some { w with running := false, stopper := .joined }
    else none
  | .clear => if w.stopper = .joined then some { w with q := [], stopper := .returned } else none

/-! ## The law of the queue -/

/-- What a monitor of the writer remembers. -/
structure DbLog where
  /-- The events that were pushed, in order. -/
  pushed : List DbEvent
  /-- The events that the worker handled, in order, with the failure of each. -/
  handled : List (Option ℕ × DbEvent)
  /-- What had been pushed when `stop_requested_` was set. -/
  requestedAt : Option (List DbEvent)

/-- Nothing was seen yet. -/
def DbLog.empty : DbLog := ⟨[], [], none⟩

/-- A monitor of the writer. -/
def watchDb (log : DbLog) (w : DbWriter ι) (e : Event ι) (_ : DbWriter ι) : DbLog :=
  match e with
  | .push i => { log with pushed := log.pushed ++ (w.entering i).toList }
  | .handle failAt =>
    match w.worker with
    | .handling e => { log with handled := log.handled ++ [(failAt, e)] }
    | _ => log
  | .request => { log with requestedAt := some log.pushed }
  | _ => log

/-- The queue loses and repeats nothing, and `stop` comes to its end. -/
structure LosesNothing (w : DbWriter ι) (log : DbLog) : Prop where
  /-- The events are handled once each, in the order in which they were pushed. -/
  inOrder : log.handled.map Prod.snd <+: log.pushed
  /-- When `stop` has returned, all events that were pushed before its request are handled. -/
  drained : w.stopper = .returned → ∃ before, log.requestedAt = some before ∧
    before <+: log.handled.map Prod.snd
  /-- From wherever it is, `stop` can return. -/
  returns : ∃ (es : List (Event ι)) (v : DbWriter ι), run step w es = some v ∧
    v.stopper = .returned

/-- The event that the worker has taken from the queue. -/
def inHand : Worker → List DbEvent
  | .handling e => [e]
  | _ => []

/-- What holds between two steps. -/
structure DbInv (w : DbWriter ι) (log : DbLog) : Prop where
  /-- As long as the worker runs, the events that it has not handled wait in order. -/
  kept : w.worker ≠ .exited → log.pushed = log.handled.map Prod.snd ++ (inHand w.worker ++ w.q)
  /-- Before the request both flags are as `start` left them. -/
  early : w.stopper = .outside ∨ w.stopper = .entered →
    w.running = true ∧ w.stopRequested = false
  /-- The worker is joined after the request. -/
  late : w.stopper = .joining → w.stopRequested = true
  /-- The request came after the events that it must wait for. -/
  requested : w.stopRequested = true → ∃ before, log.requestedAt = some before ∧
    before <+: log.pushed
  /-- The worker leaves its loop only after it has handled them. -/
  exited : w.worker = .exited → w.stopRequested = true ∧
    log.handled.map Prod.snd <+: log.pushed ∧ ∃ before, log.requestedAt = some before ∧
      before <+: log.handled.map Prod.snd
  /-- The worker is joined before the queue is cleared. -/
  joined : w.stopper = .joined ∨ w.stopper = .returned → w.worker = .exited

variable {w v : DbWriter ι} {log : DbLog} {e : Event ι}

/-! ## The end of `stop` -/

/-- After the request the worker can empty the queue and leave. -/
theorem exists_exited_of_checking (hrequest : w.stopRequested = true)
    (hworker : w.worker = .checking) :
    ∃ (es : List (Event ι)) (v : DbWriter ι), run step w es = some v ∧ v.worker = .exited ∧
      v.stopper = w.stopper := by
  induction hq : w.q generalizing w with
  | nil =>
    refine ⟨[.check], w.check, ?_, ?_, ?_⟩
    · simp [step, hworker]
    · simp [DbWriter.check, hq, hrequest]
    · simp [DbWriter.check, hq]
  | cons e rest ih =>
    let u : DbWriter ι := { w with worker := .checking, q := rest, db := w.db.work none e }
    obtain ⟨es, v, hrun, hexited, hstopper⟩ := ih (w := u) hrequest rfl rfl
    refine ⟨.check :: .handle none :: es, v, ?_, hexited, hstopper⟩
    have hcheck : w.step .check = some { w with worker := .handling e, q := rest } := by
      simp [step, hworker, DbWriter.check, hq]
    have hhandle : step { w with worker := .handling e, q := rest } (.handle none) = some u := rfl
    rw [run_cons, hcheck, Option.bind_some, run_cons, hhandle, Option.bind_some, hrun]

/-- From every state in which `stop` waits for the worker, `stop` can return. -/
theorem exists_returned (hrequest : w.stopRequested = true) (hstopper : w.stopper = .joining) :
    ∃ (es : List (Event ι)) (v : DbWriter ι), run step w es = some v ∧
      v.stopper = .returned := by
  -- The worker is brought to the head of its loop first.
  have hexited : ∃ (es : List (Event ι)) (v : DbWriter ι), run step w es = some v ∧
      v.worker = .exited ∧ v.stopper = w.stopper := by
    cases hworker : w.worker with
    | checking => exact exists_exited_of_checking hrequest hworker
    | waiting =>
      obtain ⟨es, v, hrun, hv⟩ := exists_exited_of_checking (w := { w with worker := .checking })
        hrequest rfl
      refine ⟨.wake :: es, v, ?_, hv⟩
      rw [run_cons]
      simp [step, hworker, hrun]
    | handling e =>
      obtain ⟨es, v, hrun, hv⟩ := exists_exited_of_checking
        (w := { w with worker := .checking, db := w.db.work none e }) hrequest rfl
      refine ⟨.handle none :: es, v, ?_, hv⟩
      rw [run_cons]
      simp [step, hworker, hrun]
    | exited => exact ⟨[], w, rfl, hworker, rfl⟩
  obtain ⟨es, v, hrun, hexited, hsame⟩ := hexited
  refine ⟨es ++ [.join, .clear], { v with running := false, q := [], stopper := .returned }, ?_,
    rfl⟩
  rw [run_append, hrun, Option.bind_some]
  simp [step, hexited, hsame, hstopper]

/-- `stop` can return from wherever it is. -/
theorem DbInv.returns (h : DbInv w log) :
    ∃ (es : List (Event ι)) (v : DbWriter ι), run step w es = some v ∧ v.stopper = .returned := by
  have hrequested : ∃ (es : List (Event ι)) (v : DbWriter ι),
      run step { w with stopRequested := true, stopper := .joining } es = some v ∧
        v.stopper = .returned := exists_returned rfl rfl
  obtain ⟨es, v, hrun, hreturned⟩ := hrequested
  cases hstopper : w.stopper with
  | outside =>
    have hrunning := (h.early (Or.inl hstopper)).1
    refine ⟨.stop :: .request :: es, v, ?_, hreturned⟩
    simpa [step, hstopper, hrunning] using hrun
  | entered =>
    refine ⟨.request :: es, v, ?_, hreturned⟩
    simp [step, hstopper, hrun]
  | joining => exact exists_returned (h.late hstopper) hstopper
  | joined =>
    refine ⟨[.clear], { w with q := [], stopper := .returned }, ?_, rfl⟩
    simp [step, hstopper]
  | returned => exact ⟨[], w, rfl, hstopper⟩

/-- The invariant implies the law. -/
theorem DbInv.losesNothing (h : DbInv w log) : LosesNothing w log := by
  constructor
  · by_cases hexited : w.worker = .exited
    · exact (h.exited hexited).2.1
    · rw [h.kept hexited]
      exact List.prefix_append ..
  · intro hreturned
    exact (h.exited (h.joined (Or.inr hreturned))).2.2
  · exact h.returns

/-! ## The steps of the threads -/

/-- A pushed event waits at the end of the queue. -/
theorem DbInv.push {i : ι} (h : DbInv w log) (hstep : w.step (.push i) = some v) :
    DbInv v (watchDb log w (.push i) v) := by
  obtain ⟨e, he, rfl⟩ := Option.map_eq_some_iff.mp hstep
  have hpushed : log.pushed <+: log.pushed ++ [e] := List.prefix_append ..
  simp only [watchDb, he, Option.toList_some]
  constructor
  · intro hworker
    simp only [h.kept hworker, List.append_assoc]
  · exact h.early
  · exact h.late
  · intro hrequest
    obtain ⟨before, hbefore, hprefix⟩ := h.requested hrequest
    exact ⟨before, hbefore, hprefix.trans hpushed⟩
  · intro hworker
    obtain ⟨hrequest, hhandled, hdrained⟩ := h.exited hworker
    exact ⟨hrequest, hhandled.trans hpushed, hdrained⟩
  · exact h.joined

omit [DecidableEq ι] in
/-- The worker takes the first event, waits or, where all are handled, leaves. -/
theorem DbInv.check (h : DbInv w log) (hworker : w.worker = .checking) :
    DbInv w.check log := by
  have hrunning : w.worker ≠ .exited := by
    rw [hworker]
    nofun
  have hunjoined : ¬(w.stopper = .joined ∨ w.stopper = .returned) := fun hjoined =>
    hrunning (h.joined hjoined)
  have hkept := h.kept hrunning
  rw [hworker] at hkept
  unfold DbWriter.check
  split
  · next hq =>
    rw [hq] at hkept
    have hall : log.pushed = log.handled.map Prod.snd := by
      rw [hkept]
      simp [inHand]
    constructor
    · intro _
      dsimp only
      split <;> simp [hall, hq, inHand]
    · exact h.early
    · exact h.late
    · exact h.requested
    · intro hexited
      have hrequest : w.stopRequested = true := by
        by_contra hno
        simp [hno] at hexited
      refine ⟨hrequest, hall ▸ List.prefix_refl _, ?_⟩
      rw [← hall]
      exact h.requested hrequest
    · exact fun hjoined => absurd hjoined hunjoined
  · next e rest hq =>
    rw [hq] at hkept
    constructor
    · intro _
      exact hkept
    · exact h.early
    · exact h.late
    · exact h.requested
    · nofun
    · exact fun hjoined => absurd hjoined hunjoined

/-- The event in hand is handled, whether or not the handler throws. -/
theorem DbInv.handle {failAt : Option ℕ} (h : DbInv w log)
    (hstep : w.step (.handle failAt) = some v) : DbInv v (watchDb log w (.handle failAt) v) := by
  simp only [step] at hstep
  split at hstep
  · next e hworker =>
    cases hstep
    have hrunning : w.worker ≠ .exited := by
      rw [hworker]
      nofun
    have hkept := h.kept hrunning
    rw [hworker] at hkept
    simp only [watchDb, hworker]
    constructor
    · intro _
      simp only [hkept, inHand, List.map_append, List.map_cons, List.map_nil, List.append_assoc,
        List.nil_append]
    · exact h.early
    · exact h.late
    · exact h.requested
    · nofun
    · exact fun hjoined => absurd (h.joined hjoined) hrunning
  · cases hstep

omit [DecidableEq ι] in
/-- A sleeping worker returns to the head of its loop. -/
theorem DbInv.wake (h : DbInv w log) (hworker : w.worker = .waiting) :
    DbInv { w with worker := .checking } log := by
  have hrunning : w.worker ≠ .exited := by
    rw [hworker]
    nofun
  have hkept := h.kept hrunning
  rw [hworker] at hkept
  constructor
  · exact fun _ => hkept
  · exact h.early
  · exact h.late
  · exact h.requested
  · nofun
  · exact fun hjoined => absurd (h.joined hjoined) hrunning

omit [DecidableEq ι] in
/-- `stop` finds the writer running and has nothing to return from. -/
theorem DbInv.stop (h : DbInv w log) (hstopper : w.stopper = .outside) :
    DbInv { w with stopper := if w.running then .entered else .returned } log := by
  obtain ⟨hrunning, hrequest⟩ := h.early (Or.inl hstopper)
  rw [hrunning, if_pos rfl]
  constructor
  · exact h.kept
  · exact fun _ => ⟨rfl, hrequest⟩
  · nofun
  · exact h.requested
  · exact h.exited
  · intro hjoined
    simp at hjoined

omit [DecidableEq ι] in
/-- The request is made while the worker runs, after the events that were pushed so far. -/
theorem DbInv.request (h : DbInv w log) (hstopper : w.stopper = .entered) :
    DbInv { w with stopRequested := true, stopper := .joining }
      { log with requestedAt := some log.pushed } := by
  obtain ⟨-, hrequest⟩ := h.early (Or.inr hstopper)
  have hrunning : w.worker ≠ .exited := by
    intro hexited
    rw [(h.exited hexited).1] at hrequest
    cases hrequest
  constructor
  · exact h.kept
  · intro hearly
    simp at hearly
  · exact fun _ => rfl
  · exact fun _ => ⟨log.pushed, rfl, List.prefix_refl _⟩
  · exact fun hexited => absurd hexited hrunning
  · intro hjoined
    simp at hjoined

omit [DecidableEq ι] in
/-- The worker is joined when it has left its loop. -/
theorem DbInv.join (h : DbInv w log) (hexited : w.worker = .exited) :
    DbInv { w with running := false, stopper := .joined } log := by
  constructor
  · exact h.kept
  · intro hearly
    simp at hearly
  · nofun
  · exact h.requested
  · exact h.exited
  · exact fun _ => hexited

omit [DecidableEq ι] in
/-- The queue is cleared when nobody takes from it any more. -/
theorem DbInv.clear (h : DbInv w log) (hstopper : w.stopper = .joined) :
    DbInv { w with q := [], stopper := .returned } log := by
  have hexited := h.joined (Or.inl hstopper)
  constructor
  · exact fun hrunning => absurd hexited hrunning
  · intro hearly
    simp at hearly
  · nofun
  · exact h.requested
  · exact h.exited
  · exact fun _ => hexited

/-- Every step keeps the invariant. -/
theorem DbInv.step (h : DbInv w log) (hstep : w.step e = some v) :
    DbInv v (watchDb log w e v) := by
  cases e with
  | push i => exact h.push hstep
  | handle failAt => exact h.handle hstep
  | enqueue i e =>
    obtain ⟨-, hstep⟩ := Option.ite_none_right_eq_some.mp hstep
    cases hstep
    split <;> exact ⟨h.kept, h.early, h.late, h.requested, h.exited, h.joined⟩
  | check =>
    obtain ⟨hworker, hstep⟩ := Option.ite_none_right_eq_some.mp hstep
    cases hstep
    exact h.check hworker
  | wake =>
    obtain ⟨hworker, hstep⟩ := Option.ite_none_right_eq_some.mp hstep
    cases hstep
    exact h.wake hworker
  | stop =>
    obtain ⟨hstopper, hstep⟩ := Option.ite_none_right_eq_some.mp hstep
    cases hstep
    exact h.stop hstopper
  | request =>
    obtain ⟨hstopper, hstep⟩ := Option.ite_none_right_eq_some.mp hstep
    cases hstep
    exact h.request hstopper
  | join =>
    obtain ⟨hstopper, hstep⟩ := Option.ite_none_right_eq_some.mp hstep
    cases hstep
    exact h.join hstopper.2
  | clear =>
    obtain ⟨hstopper, hstep⟩ := Option.ite_none_right_eq_some.mp hstep
    cases hstep
    exact h.clear hstopper

omit [DecidableEq ι] in
/-- A writer that has just been started satisfies the invariant. -/
theorem dbInv_start (db : Sqlite) : DbInv (start db : DbWriter ι) .empty := by
  constructor
  · exact fun _ => rfl
  · exact fun _ => ⟨rfl, rfl⟩
  · nofun
  · nofun
  · nofun
  · intro hjoined
    simp [start] at hjoined

/-- In every interleaving of the threads that call `enqueue`, the worker and one call of `stop`,
and whatever fails in the database, the queue loses and repeats nothing, and `stop` can return. -/
theorem always_losesNothing (db : Sqlite) (es : List (Event ι)) :
    Always (monitored step watchDb) (fun p => LosesNothing p.1 p.2) (start db, .empty) es := by
  have hinv : Always (monitored step watchDb) (fun p => DbInv p.1 p.2) (start db, .empty) es :=
    .of_monitored (fun _ _ _ _ h hstep => h.step hstep) (dbInv_start db)
  exact hinv.mono fun _ h => h.losesNothing

/-! ## What the queue leaves -/

/-- The database is what the handled events made of it. -/
theorem always_db_eq (db : Sqlite) (es : List (Event ι)) :
    Always (monitored step watchDb) (fun p => p.1.db = db.workAll p.2.handled)
      (start db, .empty) es := by
  refine Always.of_monitored (J := fun (w : DbWriter ι) (log : DbLog) =>
    w.db = db.workAll log.handled) ?_ rfl
  intro w log e v h hmove
  cases e with
  | handle failAt =>
    simp only [step] at hmove
    split at hmove
    · next e hworker =>
      cases hmove
      simp only [watchDb, hworker, h, Sqlite.workAll, List.foldl_append, List.foldl_cons,
        List.foldl_nil]
    · cases hmove
  | push i =>
    obtain ⟨e, he, rfl⟩ := Option.map_eq_some_iff.mp hmove
    exact h
  | check =>
    obtain ⟨-, hmove⟩ := Option.ite_none_right_eq_some.mp hmove
    cases hmove
    unfold DbWriter.check
    split <;> exact h
  | enqueue i e =>
    obtain ⟨-, hmove⟩ := Option.ite_none_right_eq_some.mp hmove
    cases hmove
    split <;> exact h
  | wake | stop | request | join | clear =>
    obtain ⟨-, hmove⟩ := Option.ite_none_right_eq_some.mp hmove
    cases hmove
    exact h

/-- When no handler has failed, the handled events are known from their order alone. -/
theorem handled_eq_map {handled : List (Option ℕ × DbEvent)} (hok : ∀ e ∈ handled, e.1 = none) :
    handled = (handled.map Prod.snd).map fun e => (none, e) := by
  rw [List.map_map]
  refine ((List.map_congr_left fun e he => ?_).trans (List.map_id _)).symm
  exact Prod.ext (hok e he).symm rfl

omit [DecidableEq ι] in
/-- When the queue is drained, all pushed events are handled. -/
theorem DbInv.handled_of_drained (h : DbInv w log)
    (hworker : w.worker = .checking ∨ w.worker = .waiting) (hq : w.q = []) :
    log.handled.map Prod.snd = log.pushed := by
  have hrunning : w.worker ≠ .exited := by
    rcases hworker with hworker | hworker <;> rw [hworker] <;> nofun
  rw [h.kept hrunning, hq]
  rcases hworker with hworker | hworker <;> rw [hworker] <;> simp [inHand]

end DbWriter

end SmartLighting
