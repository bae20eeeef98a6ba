import SmartLighting.AdminCli
import SmartLighting.Framing
import SmartLighting.Library.Runs

/-!
# The stream of a central session

`CentralSession` answers a request by starting a write, and goes on reading at once. A write
puts its frame on the stream in several parts, and parts of different writes may come in any
order. Other sessions of the server change the store meanwhile.
-/

namespace SmartLighting

open Transition

/-- What a session waits for. -/
inductive Reading
  /-- The four bytes of `hdr_`. -/
  | header
  /-- As many bytes as `body_len_` says. -/
  | body (len : UInt32)
  /-- A read failed, or a length was refused. -/
  | ended
  deriving DecidableEq

/-- The central server with the TLS stream of one of its sessions. -/
structure CentralStream where
  /-- The server. -/
  server : CentralServer
  /-- The reading side of the session. -/
  reading : Reading
  /-- For each outstanding `async_write`, the bytes that it still has to write. -/
  outstanding : List Bytes
  /-- The bytes that were put on the stream. -/
  stream : Bytes
  deriving DecidableEq

namespace CentralStream

/-- A session after its handshake. -/
def start : CentralStream := ⟨.start, .header, [], []⟩

/-- The frame of a reply. -/
def frameOf (m : OutMsg) : Bytes := frame m.type m.payload

/-- The replies of a session among the calls of `async_send`. -/
def repliesOf (k : ℕ) (sent : List (ℕ × OutMsg)) : List Bytes :=
  (sent.filter fun out => out.1 = k).map fun out => frameOf out.2

/-- What can happen to session `k`. -/
inductive Event
  /-- The read of a header completes. -/
  | header (hdr : Bytes)
  /-- The read of a body completes. -/
  | body (bytes : Bytes)
  /-- A read fails. -/
  | readError
  /-- Another session handles a body. -/
  | other (session : ℕ) (bytes : Bytes)
  /-- An outstanding write puts some bytes on the stream. -/
  | put (i n : ℕ)
  /-- An outstanding write completes. -/
  | writeDone (i : ℕ) (ok : Bool)

/-- `on_message` of session `k`: each reply starts a write. -/
def onMessage (k : ℕ) (s : CentralStream) (bytes : Bytes) : CentralStream :=
  let server := s.server.onMessage k bytes
  { s with
    server := server
    outstanding := s.outstanding ++ repliesOf k (server.sent.drop s.server.sent.length) }

/-- One completion handler of session `k`, or what happens around it. -/
def step (k : ℕ) (s : CentralStream) : Event → Option CentralStream
  | .header hdr =>
    if s.reading = .header ∧ hdr.length = 4 then
      some { s with
        reading := if AcceptsLength (bodyLen hdr) then .body (bodyLen hdr) else .ended }
    else none
  | .body bytes =>
    match s.reading with
    | .body len =>
      if bytes.length = len.toNat then some { s.onMessage k bytes with reading := .header }
      else none
    | _ => none
  | .readError => if s.reading = .ended then none else some { s with reading := .ended }
  | .other j bytes =>
    if j = k then none else some { s with server := s.server.onMessage j bytes }
  | .put i n =>
    (s.outstanding[i]?).map fun rest =>
      { s with
        outstanding := s.outstanding.set i (rest.drop n)
        stream := s.stream ++ rest.take n }
  | .writeDone i ok =>
    match s.outstanding[i]? with
    | none => none
    | some rest =>
      if ok = true → rest = [] then some { s with outstanding := s.outstanding.eraseIdx i }
      else none

/-! ## The law of the stream -/

/-- Whether a write has failed. -/
def watchFailure (failed : Bool) (_ : CentralStream) (e : Event) (_ : CentralStream) : Bool :=
  match e with
  | .writeDone _ false => true
  | _ => failed

/-- Replies are written one at a time. -/
structure WritesWhole (k : ℕ) (s : CentralStream) (failed : Bool) : Prop where
  /-- At most one write is outstanding. -/
  single : s.outstanding.length ≤ 1
  /-- As long as no write failed, the stream holds the frames whole and in request order. -/
  inOrder : failed = false → s.stream <+: (repliesOf k s.server.sent).flatten

/-- A request is read when no reply is being written. -/
def Paced (s : CentralStream) : Event → Prop
  | .body bytes => CentralMessage.ofBody bytes ≠ none → s.outstanding = []
  | _ => True

end CentralStream

namespace CentralServer

open CentralMessage

variable {c : CentralServer} {session : ℕ} {body : Bytes}

/-- A server that handled bodies answers every well-formed message, to its session. -/
theorem sent_onMessage_run (session : ℕ) (bodies : List (ℕ × Bytes)) {m : CentralMessage}
    (hbody : ofBody body = some m) :
    ∃ reply, ((start.run bodies).onMessage session body).sent =
      (start.run bodies).sent ++ [(session, reply)] := by
  rw [onMessage_eq, hbody, Option.elim_some]
  cases m with
  | sync up => exact ⟨_, rfl⟩
  | alarm up => exact ⟨_, rfl⟩
  | snapshotReq =>
    have hencode := encodeAdminSnapshot_eq (bounded_run bodies).strings
    refine ⟨⟨.adminSnapshotAck, snapshotBytes (start.run bodies).store⟩, ?_⟩
    rw [handle, onSnapshotReq, hencode]
    rfl

/-- Nothing is answered where there is no message. -/
theorem onMessage_of_none (hbody : ofBody body = none) : c.onMessage session body = c := by
  rw [onMessage_eq, hbody, Option.elim_none]

/-- One more body. -/
theorem run_concat (bodies : List (ℕ × Bytes)) :
    c.run (bodies ++ [(session, body)]) = (c.run bodies).onMessage session body := by
  simp only [run, List.foldl_append, List.foldl_cons, List.foldl_nil]

end CentralServer

namespace CentralStream

open CentralServer CentralMessage

variable {k : ℕ} {s t : CentralStream} {e : Event} {failed : Bool}

/-- What holds between two steps as long as requests are paced. -/
structure StreamInv (k : ℕ) (s : CentralStream) (failed : Bool) : Prop where
  /-- The server has handled bodies only. -/
  reached : ∃ bodies, s.server = CentralServer.start.run bodies
  /-- At most one write is outstanding. -/
  single : s.outstanding.length ≤ 1
  /-- What is still to be written follows what was written. -/
  rest : failed = false → s.stream ++ s.outstanding.flatten = (repliesOf k s.server.sent).flatten

/-- The invariant implies the law. -/
theorem StreamInv.writesWhole (h : StreamInv k s failed) : WritesWhole k s failed := by
  constructor
  · exact h.single
  · intro hok
    rw [← h.rest hok]
    exact List.prefix_append ..

/-- A paced body keeps the invariant. -/
theorem StreamInv.onMessage {bytes : Bytes} (h : StreamInv k s failed)
    (hpaced : Paced s (.body bytes)) : StreamInv k (s.onMessage k bytes) failed := by
  obtain ⟨bodies, hserver⟩ := h.reached
  have hreached : ∃ bodies, (s.onMessage k bytes).server = CentralServer.start.run bodies := by
    refine ⟨bodies ++ [(k, bytes)], ?_⟩
    rw [run_concat, ← hserver]
    rfl
  cases hbody : ofBody bytes with
  | none =>
    have hsame : s.onMessage k bytes = s := by
      simp [CentralStream.onMessage, onMessage_of_none hbody, repliesOf]
    rw [hsame]
    exact h
  | some m =>
    have hidle : s.outstanding = [] := hpaced (by simp [hbody])
    obtain ⟨reply, hreply⟩ := sent_onMessage_run k bodies hbody
    rw [← hserver] at hreply
    have houtstanding : (s.onMessage k bytes).outstanding = [frameOf reply] := by
      simp [CentralStream.onMessage, hreply, hidle, repliesOf]
    have hreplies : repliesOf k (s.onMessage k bytes).server.sent =
        repliesOf k s.server.sent ++ [frameOf reply] := by
      simp [CentralStream.onMessage, hreply, repliesOf]
    constructor
    · exact hreached
    · simp [houtstanding]
    · intro hok
      have hrest := h.rest hok
      rw [hidle, List.flatten_nil, List.append_nil] at hrest
      rw [houtstanding, hreplies, List.flatten_append, ← hrest]
      rfl

/-- A body that was read is handled, and the next header is read. -/
theorem eq_of_step_body {bytes : Bytes} (hstep : step k s (.body bytes) = some t) :
    t = { s.onMessage k bytes with reading := .header } := by
  simp only [CentralStream.step] at hstep
  split at hstep
  · split at hstep
    · cases hstep
      rfl
    · cases hstep
  · cases hstep

/-- The only outstanding write. -/
theorem eq_singleton_of_single {l : List Bytes} {i : ℕ} {rest : Bytes} (hsingle : l.length ≤ 1)
    (hrest : l[i]? = some rest) : l = [rest] ∧ i = 0 := by
  obtain ⟨hi, hget⟩ := List.getElem?_eq_some_iff.mp hrest
  obtain ⟨a, rfl⟩ := List.length_eq_one_iff.mp (by omega : l.length = 1)
  have hzero : i = 0 := by simpa using hi
  subst hzero
  exact ⟨congrArg (fun a => [a]) hget, rfl⟩

/-- Another session handles a body and answers its own peer. -/
theorem StreamInv.other {j : ℕ} {bytes : Bytes} (h : StreamInv k s failed) (hj : j ≠ k) :
    StreamInv k { s with server := s.server.onMessage j bytes } failed := by
  obtain ⟨bodies, hserver⟩ := h.reached
  have hreplies : repliesOf k (s.server.onMessage j bytes).sent = repliesOf k s.server.sent := by
    cases hbody : ofBody bytes with
    | none => rw [onMessage_of_none hbody]
    | some m =>
      obtain ⟨reply, hreply⟩ := sent_onMessage_run j bodies hbody
      rw [hserver, hreply]
      simp [repliesOf, hj]
  constructor
  · refine ⟨bodies ++ [(j, bytes)], ?_⟩
    rw [run_concat, ← hserver]
  · exact h.single
  · intro hok
    rw [hreplies]
    exact h.rest hok

/-- The outstanding write puts some bytes on the stream. -/
theorem StreamInv.put {i n : ℕ} {rest : Bytes} (h : StreamInv k s failed)
    (hrest : s.outstanding[i]? = some rest) :
    StreamInv k { s with
      outstanding := s.outstanding.set i (rest.drop n)
      stream := s.stream ++ rest.take n } failed := by
  obtain ⟨hone, rfl⟩ := eq_singleton_of_single h.single hrest
  constructor
  · exact h.reached
  · simpa using h.single
  · intro hok
    have hall := h.rest hok
    rw [hone] at hall
    simpa [hone] using hall

/-- The outstanding write completes; one that succeeds has put its whole frame on the stream. -/
theorem StreamInv.writeDone {i : ℕ} {ok : Bool} {rest : Bytes} (h : StreamInv k s failed)
    (hrest : s.outstanding[i]? = some rest) (hcomplete : ok = true → rest = []) :
    StreamInv k { s with outstanding := s.outstanding.eraseIdx i }
      (watchFailure failed s (.writeDone i ok) t) := by
  obtain ⟨hone, rfl⟩ := eq_singleton_of_single h.single hrest
  constructor
  · exact h.reached
  · simp [hone]
  · intro hok
    cases ok with
    | false => cases hok
    | true =>
      have hall := h.rest hok
      simpa [hone, hcomplete rfl] using hall

/-- Every paced step keeps the invariant. -/
theorem StreamInv.step (h : StreamInv k s failed) (hpaced : Paced s e)
    (hstep : step k s e = some t) : StreamInv k t (watchFailure failed s e t) := by
  cases e with
  | header hdr =>
    obtain ⟨-, hstep⟩ := Option.ite_none_right_eq_some.mp hstep
    cases hstep
    exact ⟨h.reached, h.single, h.rest⟩
  | body bytes =>
    obtain rfl := eq_of_step_body hstep
    have hkept := h.onMessage hpaced
    exact ⟨hkept.reached, hkept.single, hkept.rest⟩
  | readError =>
    obtain ⟨-, hstep⟩ := Option.ite_none_left_eq_some.mp hstep
    cases hstep
    exact ⟨h.reached, h.single, h.rest⟩
  | other j bytes =>
    obtain ⟨hj, hstep⟩ := Option.ite_none_left_eq_some.mp hstep
    cases hstep
    exact h.other hj
  | put i n =>
    obtain ⟨rest, hrest, rfl⟩ := Option.map_eq_some_iff.mp hstep
    exact h.put hrest
  | writeDone i ok =>
    simp only [CentralStream.step] at hstep
    split at hstep
    · cases hstep
    · next rest hrest =>
      obtain ⟨hcomplete, hstep⟩ := Option.ite_none_right_eq_some.mp hstep
      cases hstep
      exact h.writeDone hrest hcomplete

/-- A request that is not paced leads to a second outstanding write. -/
theorem not_writesWhole_of_not_paced (h : StreamInv k s failed) (hpaced : ¬Paced s e)
    (hstep : step k s e = some t) : ¬WritesWhole k t (watchFailure failed s e t) := by
  cases e with
  | body bytes =>
    simp only [Paced, Classical.not_imp] at hpaced
    obtain ⟨hmessage, hbusy⟩ := hpaced
    obtain ⟨m, hbody⟩ := Option.ne_none_iff_exists'.mp hmessage
    obtain ⟨bodies, hserver⟩ := h.reached
    obtain ⟨reply, hreply⟩ := sent_onMessage_run k bodies hbody
    rw [← hserver] at hreply
    obtain rfl := eq_of_step_body hstep
    intro hlaw
    have hsingle := hlaw.single
    simp [CentralStream.onMessage, hreply, repliesOf] at hsingle
    exact hbusy hsingle
  | header | readError | other | put | writeDone => exact absurd trivial hpaced

/-- In every run of a session its replies are written one at a time, whole and in order, exactly
when every request is read after the reply before it was written. -/
theorem always_writesWhole_iff (k : ℕ) (es : List Event) :
    Always (monitored (step k) watchFailure) (fun p => WritesWhole k p.1 p.2) (start, false) es ↔
      EachStep (monitored (step k) watchFailure) (fun p e _ => Paced p.1 e) (start, false) es := by
  refine always_monitored_iff (J := StreamInv k) (C := fun s _ e => Paced s e) ?_ ?_ ?_ ?_
  · exact fun _ _ h => h.writesWhole
  · intro s failed e t h hpaced hstep
    exact h.step hpaced hstep
  · intro s failed e t h hpaced hstep
    exact not_writesWhole_of_not_paced h hpaced hstep
  · exact ⟨⟨[], rfl⟩, by simp [start], fun _ => rfl⟩

/-- The header of a snapshot request, and its body. -/
def snapshotRequest : List Event :=
  [.header [0, 0, 0, 1], .body [MsgType.adminSnapshotReq.code]]

/-- Two requests that arrive back to back have two writes outstanding. -/
theorem not_always_writesWhole_backToBack :
    ¬Always (monitored (step 0) watchFailure) (fun p => WritesWhole 0 p.1 p.2) (start, false)
      (snapshotRequest ++ snapshotRequest) := by
  intro h
  have hrun : (run (monitored (step 0) watchFailure) (start, false)
      (snapshotRequest ++ snapshotRequest)).any fun p => p.1.outstanding.length = 2 := by
    decide +kernel
  obtain ⟨p, hp, hlength⟩ := (Option.any_eq_true _ _).mp hrun
  have hsingle := (h _ (List.prefix_refl _) p hp).single
  simp at hlength
  omega

end CentralStream

end SmartLighting
