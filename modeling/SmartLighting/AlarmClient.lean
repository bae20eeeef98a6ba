import SmartLighting.Library.Runs
import SmartLighting.SendQueue

/-!
# The alarm path to the central server

`RegionSyncClient::post_alarm` creates a stream in the member `alarm_sock_` and
starts a chain of asynchronous operations. Each completion handler starts the
next operation on whatever stream the member then holds. All operations succeed
here; which chain proceeds next is up to the environment.
-/

namespace SmartLighting

open Transition

/-- The pending operation of a chain, with the stream it was started on. -/
inductive AlarmOp
  /-- `async_resolve`, which needs no stream. -/
  | resolve
  /-- `async_connect`. -/
  | connect (stream : ℕ)
  /-- `async_handshake`. -/
  | handshake (stream : ℕ)
  /-- `async_write_frame`, with the encoded alarm. -/
  | write (stream : ℕ) (payload : Bytes)
  /-- `async_read` of the header of the answer. -/
  | readHeader (stream : ℕ)
  /-- `async_read` of the body of the answer. -/
  | readBody (stream : ℕ)
  /-- Nothing is left to do. -/
  | finished
  deriving DecidableEq

/-- A chain that `post_alarm` has started. -/
structure AlarmChain where
  /-- The alarm that the handlers of the chain carry. -/
  alarm : AlarmUp
  /-- The stream that its `post_alarm` has created. -/
  own : ℕ
  /-- The pending operation. -/
  pending : AlarmOp
  deriving DecidableEq

/-- A frame on a stream: the chain that wrote it, and whether the handshake of
the stream had completed. -/
structure WrittenFrame where
  /-- The chain. -/
  chain : ℕ
  /-- The frame. -/
  frame : OutMsg
  /-- Whether the stream was ready for it. -/
  ready : Bool
  deriving DecidableEq

/-- What has happened on a stream. -/
structure AlarmStream where
  /-- Its handshake has completed. -/
  handshaken : Bool
  /-- The frames written to it in full. -/
  written : List WrittenFrame
  deriving DecidableEq

/-- `RegionSyncClient`, as far as alarms go. Streams and chains are numbered by
their creation. -/
structure AlarmClient where
  /-- The stream in `alarm_sock_`. -/
  alarmSock : Option ℕ
  /-- All streams that `alarm_sock_` has held. -/
  streams : List AlarmStream
  /-- All chains. -/
  chains : List AlarmChain
  /-- A handler has thrown, which ends the process. -/
  terminated : Bool
  deriving DecidableEq

namespace AlarmClient

/-- No alarm was sent yet. -/
def start : AlarmClient := ⟨none, [], [], false⟩

/-- `send_alarm_now`, which is `post_alarm`. -/
def sendAlarmNow (s : AlarmClient) (alarm : AlarmUp) : AlarmClient :=
  { s with
    alarmSock := some s.streams.length
    streams := s.streams ++ [⟨false, []⟩]
    chains := s.chains ++ [⟨alarm, s.streams.length, .resolve⟩] }

/-- Replace the pending operation of a chain. -/
def setPending (s : AlarmClient) (k : ℕ) (op : AlarmOp) : AlarmClient :=
  { s with chains := s.chains.modify k fun chain => { chain with pending := op } }

/-- Update a stream. -/
def updateStream (s : AlarmClient) (i : ℕ) (f : AlarmStream → AlarmStream) : AlarmClient :=
  { s with streams := s.streams.modify i f }

/-- The pending operation of a chain completes and its handler runs. The handler
reaches the stream for the next operation through `alarm_sock_`. -/
def complete (s : AlarmClient) (k : ℕ) : Option AlarmClient := do
  let chain ← s.chains[k]?
  let current ← s.alarmSock
  match chain.pending with
  | .resolve => some (s.setPending k (.connect current))
  | .connect _ => some (s.setPending k (.handshake current))
  | .handshake i =>
    let s := s.updateStream i fun stream => { stream with handshaken := true }
    match encodeAlarmUp chain.alarm with
    | .ok payload => some (s.setPending k (.write current payload))
    | .error _ => some { s with terminated := true }
  | .write i payload =>
    let s := s.updateStream i fun stream =>
      { stream with written := stream.written ++ [⟨k, ⟨.alarmUp, payload⟩, stream.handshaken⟩] }
    some (s.setPending k (.readHeader current))
  | .readHeader _ => some (s.setPending k (.readBody current))
  | .readBody _ => some (s.setPending k .finished)
  | .finished => none

/-- What can happen. -/
inductive Event
  /-- A call of `send_alarm_now`. -/
  | send (alarm : AlarmUp)
  /-- The pending operation of a chain completes. -/
  | complete (chain : ℕ)

/-- One call or completion. -/
def step (s : AlarmClient) : Event → Option AlarmClient
  | .send alarm => if s.terminated then none else some (s.sendAlarmNow alarm)
  | .complete k => if s.terminated then none else s.complete k

end AlarmClient

end SmartLighting
