import SmartLighting.Proto
import Mathlib.Data.List.Perm.Basic

/-!
# The write queue of a connection

`DeviceSession` and `LuminaireClient` send through the same code: `queue_send`
posts a handler that appends to `out_q_`, and `do_write` writes one frame at a
time, each started by the completion of the one before. The two records at the
end list what the code hands to the stream; the code itself keeps no such lists.
-/

namespace SmartLighting

/-- `OutMsg`: a frame before it is framed. -/
structure OutMsg where
  /-- Its type byte. -/
  type : MsgType
  /-- The bytes after the type byte. -/
  payload : Bytes
  deriving DecidableEq

/-- The bytes that the receiver of a frame finds in its body buffer. -/
def OutMsg.body (m : OutMsg) : Bytes := m.type.code :: m.payload

/-- The sending side of a connection. -/
structure SendQueue where
  /-- Handlers posted by `queue_send` that have not run, in posting order. -/
  posted : List OutMsg
  /-- `out_q_`. -/
  outQ : List OutMsg
  /-- `writing_`. -/
  writing : Bool
  /-- Frames whose `async_write_frame` has started and not completed. -/
  outstanding : List OutMsg
  /-- All frames handed to `async_write_frame`, in order. -/
  written : List OutMsg
  /-- The frames whose write completed without an error. -/
  completed : List OutMsg
  deriving DecidableEq

namespace SendQueue

/-- Nothing was sent yet. -/
def empty : SendQueue := ⟨[], [], false, [], [], []⟩

/-- `queue_send`: post the handler that appends the frame. -/
def post (q : SendQueue) (m : OutMsg) : SendQueue := { q with posted := q.posted ++ [m] }

/-- `do_write`: start writing the first queued frame, if there is one. -/
def doWrite (q : SendQueue) : SendQueue :=
  match q.outQ with
  | [] => { q with writing := false }
  | m :: rest =>
    { q with
      outQ := rest
      writing := true
      outstanding := q.outstanding ++ [m]
      written := q.written ++ [m] }

/-- The first posted handler runs. -/
def runPosted (q : SendQueue) : Option SendQueue :=
  match q.posted with
  | [] => none
  | m :: rest =>
    let q := { q with posted := rest, outQ := q.outQ ++ [m] }
    some (if q.writing then q else q.doWrite)

/-- `schedule_reconnect` drops what is queued. Writes under way still complete. -/
def reset (q : SendQueue) : SendQueue := { q with outQ := [], writing := false }

/-- The named outstanding write completes. What follows is the caller's. -/
def complete (q : SendQueue) (i : ℕ) (ok : Bool) : Option SendQueue :=
  match q.outstanding[i]? with
  | none => none
  | some m =>
    some { q with
      outstanding := q.outstanding.eraseIdx i
      completed := if ok then q.completed ++ [m] else q.completed }

variable {q r : SendQueue} {p : OutMsg → Bool} {i : ℕ}

/-! ## Frames are written in the order in which they were posted -/

/-- All frames that were posted, apart from those that a reset dropped. -/
def sent (q : SendQueue) : List OutMsg := q.written ++ (q.outQ ++ q.posted)

theorem sent_post (m : OutMsg) : (q.post m).sent = q.sent ++ [m] := by
  simp only [sent, post, List.append_assoc]

/-- Starting a write keeps the order. -/
theorem sent_doWrite : q.doWrite.sent = q.sent := by
  unfold doWrite
  cases hq : q.outQ with
  | nil => simp only [sent, hq]
  | cons m rest => simp only [sent, hq, List.append_assoc, List.cons_append, List.nil_append]

/-- Starting a write leaves what is posted. -/
theorem posted_doWrite : q.doWrite.posted = q.posted := by
  unfold doWrite
  split <;> rfl

/-- A posted handler keeps the order. -/
theorem sent_runPosted (h : q.runPosted = some r) : r.sent = q.sent := by
  unfold runPosted at h
  cases hposted : q.posted with
  | nil =>
    rw [hposted] at h
    cases h
  | cons m rest =>
    rw [hposted] at h
    cases h
    have hqueued : ({ q with posted := rest, outQ := q.outQ ++ [m] } : SendQueue).sent =
        q.sent := by
      simp only [sent, hposted, List.append_assoc, List.cons_append, List.nil_append]
    dsimp only
    split
    · exact hqueued
    · rw [sent_doWrite, hqueued]

/-- A completed write keeps the order. -/
theorem sent_complete {ok : Bool} (h : q.complete i ok = some r) : r.sent = q.sent := by
  unfold complete at h
  cases hm : q.outstanding[i]? with
  | none =>
    rw [hm] at h
    cases h
  | some m =>
    rw [hm] at h
    cases h
    rfl

/-- A reset drops frames. -/
theorem length_sent_reset : q.reset.sent.length ≤ q.sent.length := by
  simp only [sent, reset, List.length_append, List.length_nil]
  omega

/-- The written frames come first. -/
theorem sent_of_written {m : OutMsg} (h : q.written[i]? = some m) :
    q.sent.drop i = m :: q.sent.drop (i + 1) := by
  obtain ⟨hi, rfl⟩ := List.getElem?_eq_some_iff.mp h
  have hlength : i < q.sent.length := by
    simp only [sent, List.length_append]
    omega
  rw [List.drop_eq_getElem_cons hlength]
  congr 1
  exact List.getElem_append_left hi

/-- When nothing waits, everything that was sent was written. -/
theorem sent_of_idle (hposted : q.posted = []) (houtQ : q.outQ = []) : q.sent = q.written := by
  rw [sent, hposted, houtQ, List.append_nil, List.append_nil]

/-- What is not read of a longer queue was not read before, or is new. -/
theorem mem_unread_append {d new : List OutMsg} {b : ℕ} {m : OutMsg}
    (h : m ∈ (d ++ new).drop b) : m ∈ d.drop b ∨ m ∈ new := by
  rw [List.drop_append] at h
  exact (List.mem_append.mp h).imp id List.mem_of_mem_drop

/-! ## No frame is lost or doubled, except by a reset or a failed write -/

/-- How many of the frames that were sent, or are still to be, satisfy `p`. -/
def count (p : OutMsg → Bool) (q : SendQueue) : ℕ :=
  q.completed.countP p + q.posted.countP p + q.outQ.countP p + q.outstanding.countP p

/-- A posted frame is counted. -/
theorem count_post (m : OutMsg) : (q.post m).count p = q.count p + if p m then 1 else 0 := by
  simp only [count, post, List.countP_append, List.countP_singleton]
  omega

/-- Starting a write moves a frame. -/
theorem count_doWrite : q.doWrite.count p = q.count p := by
  unfold doWrite
  cases hq : q.outQ with
  | nil => simp only [count, hq]
  | cons m rest =>
    simp only [count, hq, List.countP_append, List.countP_cons, List.countP_nil]
    omega

/-- A posted handler moves a frame. -/
theorem count_runPosted (h : q.runPosted = some r) : r.count p = q.count p := by
  unfold runPosted at h
  cases hposted : q.posted with
  | nil =>
    rw [hposted] at h
    cases h
  | cons m rest =>
    rw [hposted] at h
    cases h
    have hqueued : ({ q with posted := rest, outQ := q.outQ ++ [m] } : SendQueue).count p =
        q.count p := by
      simp only [count, hposted, List.countP_append, List.countP_cons, List.countP_nil]
      omega
    dsimp only
    split
    · exact hqueued
    · rw [count_doWrite, hqueued]

/-- A reset loses what is queued. -/
theorem count_reset : q.reset.count p + q.outQ.countP p = q.count p := by
  simp only [count, reset, List.countP_nil]
  omega

/-- A completed write keeps its frame, a failed one loses it. -/
theorem count_complete {ok : Bool} (h : q.complete i ok = some r) :
    ∃ m, q.outstanding[i]? = some m ∧ r.outQ = q.outQ ∧
      r.count p + (if ok = false ∧ p m then 1 else 0) = q.count p := by
  unfold complete at h
  cases hm : q.outstanding[i]? with
  | none =>
    rw [hm] at h
    cases h
  | some m =>
    rw [hm] at h
    cases h
    refine ⟨m, rfl, rfl, ?_⟩
    obtain ⟨hi, hget⟩ := List.getElem?_eq_some_iff.mp hm
    have hperm := List.getElem_cons_eraseIdx_perm hi
    have hcount : (m :: q.outstanding.eraseIdx i).countP p = q.outstanding.countP p := by
      rw [← hget]
      exact hperm.countP_eq p
    rw [List.countP_cons] at hcount
    cases ok with
    | true =>
      simp only [count, if_true, List.countP_append, List.countP_singleton, Bool.true_eq_false,
        false_and, if_false]
      omega
    | false =>
      simp only [count, Bool.false_eq_true, if_false, true_and]
      omega

end SendQueue

end SmartLighting
