import SmartLighting.Commands
import SmartLighting.Library.Runs
import SmartLighting.TelemetryFormat
import Mathlib.Data.List.Induction

/-!
# Motion edges of a sensor

`UdpTelemetryServer` remembers the last motion of each sensor and calls back when
it changes. The server stands alone here, with the calls of its callbacks in a
list; the region makes these calls at once. It is shown that the calls for one
sensor depend on nothing but the datagrams of this sensor with motion 0 or 1, as
the bytes of the datagrams have them.
-/

namespace SmartLighting

open Transition

/-- A call of a callback. -/
inductive TelemetryCall
  /-- `motion_on_cb_`. -/
  | motionOn (zone : UInt32) (uri : Bytes)
  /-- `motion_off_cb_`. -/
  | motionOff (zone : UInt32) (uri : Bytes)
  /-- `sensor_fault_cb_`. -/
  | sensorFault (zone : UInt32) (uri : Bytes) (code : UInt8)
  deriving DecidableEq

/-- `class UdpTelemetryServer`. -/
structure UdpTelemetryServer where
  /-- `reg_`. -/
  reg : Registry
  /-- `last_motion_`. -/
  lastMotion : AssocMap Bytes UInt8
  /-- The calls of the callbacks, which are all set. -/
  calls : List TelemetryCall

/-- What `async_receive_from` stores in `buf_`, and the clock at that time. -/
structure Datagram where
  /-- The bytes of the datagram. -/
  bytes : Bytes
  /-- The memory behind the structure that is copied from it. -/
  beyond : Bytes
  /-- `now_ms`. -/
  nowMs : UInt64

/-- The telemetry in a datagram that is long enough. -/
def Datagram.telemetry (d : Datagram) : Option Telemetry := parseTelemetry d.bytes d.beyond

/-! ## The bytes of a datagram -/

namespace Datagram

/-- The datagram holds the whole structure, with a NUL in the name field. -/
structure WellFormed (d : Datagram) : Prop where
  /-- `sizeof(TelemetryUdp)` bytes or more. -/
  size : telemetrySize ≤ d.bytes.length
  /-- The name field is terminated. -/
  nul : 0 ∈ d.bytes.take 48

/-- The bytes before the first NUL of the name field. -/
def name (d : Datagram) : Bytes := (d.bytes.take 48).takeWhile fun b => b ≠ 0

/-- The zone behind the name field, in network byte order. -/
def zone (d : Datagram) : UInt32 := fromBe32 (load32 d.bytes 48)

/-- The motion byte. -/
def motion (d : Datagram) : UInt8 := byteAt d.bytes 54

/-- A datagram of the sensor with motion 0 or 1. -/
def IsMotionOf (u : Bytes) (d : Datagram) : Prop := d.name = u ∧ (d.motion = 0 ∨ d.motion = 1)

instance (u : Bytes) : DecidablePred (IsMotionOf u) :=
  fun d => inferInstanceAs (Decidable (d.name = u ∧ (d.motion = 0 ∨ d.motion = 1)))

/-- The receiver takes name, zone and motion from the bytes of the datagram. -/
theorem WellFormed.exists_telemetry {d : Datagram} (h : d.WellFormed) :
    ∃ t, d.telemetry = some t ∧ t.uri = d.name ∧ t.zoneId = d.zone ∧ t.motion = d.motion := by
  obtain ⟨t, ht⟩ := exists_parseTelemetry h.size d.beyond
  have huri : t.uri = d.name := (uri_eq_field_iff ht).mpr (Or.inl h.nul)
  have hbyte : ∀ i, i < telemetrySize →
      byteAt (d.bytes.take telemetrySize) i = byteAt d.bytes i := by
    intro i hi
    simp only [byteAt, List.getD_eq_getElem?_getD, List.getElem?_take_of_lt hi]
  obtain ⟨-, hparts⟩ := Option.ite_none_left_eq_some.mp ht
  cases hparts
  refine ⟨_, ht, huri, ?_, hbyte 54 (by decide)⟩
  simp only [zone, load32, hbyte _ (by decide : 48 < telemetrySize),
    hbyte _ (by decide : 48 + 1 < telemetrySize), hbyte _ (by decide : 48 + 2 < telemetrySize),
    hbyte _ (by decide : 48 + 3 < telemetrySize)]

end Datagram

namespace UdpTelemetryServer

/-- Call a callback. -/
def call (s : UdpTelemetryServer) (c : TelemetryCall) : UdpTelemetryServer :=
  { s with calls := s.calls ++ [c] }

/-- The fault marker part of `do_receive`. -/
def faultMarker (nowMs : UInt64) (s : UdpTelemetryServer) (t : Telemetry) :
    UdpTelemetryServer :=
  let s := match s.reg.get t.uri with
    | some st => { s with reg := s.reg.upsert t.uri { st with fault := true, lastSeenMs := nowMs } }
    | none => s
  s.call (.sensorFault t.zoneId t.uri 1)

/-- The edge detection part of `do_receive`. -/
def motionEdge (s : UdpTelemetryServer) (t : Telemetry) : UdpTelemetryServer :=
  let prev := (s.lastMotion.lookup t.uri).getD 0
  let s := if prev = 0 ∧ t.motion = 1 then s.call (.motionOn t.zoneId t.uri) else s
  let s := if prev = 1 ∧ t.motion = 0 then s.call (.motionOff t.zoneId t.uri) else s
  { s with lastMotion := s.lastMotion.insert t.uri t.motion }

/-- `do_receive`, after parsing. -/
def receive (nowMs : UInt64) (s : UdpTelemetryServer) (t : Telemetry) : UdpTelemetryServer :=
  let st := telemetryState t nowMs (s.reg.get t.uri)
  let s := { s with reg := s.reg.upsert t.uri st }
  let s := if t.motion = 254 then s.faultMarker nowMs t else s
  if t.motion = 0 ∨ t.motion = 1 then s.motionEdge t else s

/-- `do_receive`. -/
def doReceive (s : UdpTelemetryServer) (d : Datagram) : UdpTelemetryServer :=
  match d.telemetry with
  | some t => s.receive d.nowMs t
  | none => s

/-- The server after a sequence of datagrams. -/
def serve (reg : Registry) (ds : List Datagram) : UdpTelemetryServer :=
  ds.foldl doReceive ⟨reg, ∅, []⟩

end UdpTelemetryServer

/-- The motion callback of a sensor in a call: whether it is that for rising motion, and the
zone. -/
def TelemetryCall.motionOf (u : Bytes) : TelemetryCall → Option (Bool × UInt32)
  | motionOn zone uri => if uri = u then some (true, zone) else none
  | motionOff zone uri => if uri = u then some (false, zone) else none
  | sensorFault .. => none

/-- The motion callbacks of a sensor. -/
def motionCalls (u : Bytes) (calls : List TelemetryCall) : List (Bool × UInt32) :=
  calls.filterMap (TelemetryCall.motionOf u)

/-- The telemetry of a sensor in a datagram, if it has motion 0 or 1. -/
def Datagram.motionOf (u : Bytes) (d : Datagram) : Option Telemetry :=
  d.telemetry.filter fun t => t.uri = u ∧ (t.motion = 0 ∨ t.motion = 1)

/-- The callback for a change of motion. -/
def edgeOf (prev : UInt8) (t : Telemetry) : List (Bool × UInt32) :=
  if prev = 0 ∧ t.motion = 1 then [(true, t.zoneId)]
  else if prev = 1 ∧ t.motion = 0 then [(false, t.zoneId)]
  else []

/-- A datagram that raises the motion does not lower it. -/
theorem not_fall_of_rise {prev motion : UInt8} (hrise : prev = 0 ∧ motion = 1) :
    ¬(prev = 1 ∧ motion = 0) := by
  rintro ⟨hprev, -⟩
  rw [hrise.1] at hprev
  cases hprev

namespace UdpTelemetryServer

/-- The edge detector is exact for a sensor, by the bytes of the datagrams. -/
structure ExactFor (u : Bytes) (reg : Registry) (ds : List Datagram) : Prop where
  /-- The callbacks alternate, and the first is that for rising motion. -/
  alternates : ∀ i c, (motionCalls u (serve reg ds).calls)[i]? = some c → c.1 = decide (i % 2 = 0)
  /-- What rose more often than it fell is the motion that is remembered. -/
  balance : ((motionCalls u (serve reg ds).calls).countP fun c => c.1 = true) =
    ((motionCalls u (serve reg ds).calls).countP fun c => c.1 = false) +
      (((serve reg ds).lastMotion.lookup u).getD 0).toNat
  /-- What is remembered is the last motion byte 0 or 1 that was received. -/
  last : (serve reg ds).lastMotion.lookup u =
    (ds.filter (Datagram.IsMotionOf u)).getLast?.map Datagram.motion
  /-- A callback carries the zone of the datagram that raised it. -/
  zones : ∀ before d after, ds = before ++ d :: after → ∃ new,
    (serve reg (before ++ [d])).calls = (serve reg before).calls ++ new ∧
      ∀ c ∈ motionCalls u new, d.name = u ∧ c.2 = d.zone
  /-- Nothing else matters for the callbacks than motion 0 and 1 of the sensor. -/
  alone : motionCalls u (serve reg (ds.filter (Datagram.IsMotionOf u))).calls =
    motionCalls u (serve reg ds).calls

variable {s : UdpTelemetryServer} {u : Bytes} {d : Datagram} {t : Telemetry} {nowMs : UInt64}

/-- The edge detection calls back for its sensor, if there is an edge. -/
theorem calls_motionEdge (s : UdpTelemetryServer) (t : Telemetry) (u : Bytes) :
    ∃ new, (s.motionEdge t).calls = s.calls ++ new ∧
      motionCalls u new =
        if t.uri = u then edgeOf ((s.lastMotion.lookup t.uri).getD 0) t else [] := by
  unfold motionEdge
  dsimp only
  generalize (s.lastMotion.lookup t.uri).getD 0 = prev
  by_cases hrise : prev = 0 ∧ t.motion = 1
  · have hfall := not_fall_of_rise hrise
    refine ⟨[.motionOn t.zoneId t.uri], ?_, ?_⟩
    · rw [if_neg hfall, if_pos hrise, call]
    · rw [edgeOf, if_pos hrise, motionCalls, List.filterMap_cons, List.filterMap_nil]
      by_cases hu : t.uri = u <;> simp [TelemetryCall.motionOf, hu]
  · by_cases hfall : prev = 1 ∧ t.motion = 0
    · refine ⟨[.motionOff t.zoneId t.uri], ?_, ?_⟩
      · rw [if_pos hfall, if_neg hrise, call]
      · rw [edgeOf, if_neg hrise, if_pos hfall, motionCalls, List.filterMap_cons,
          List.filterMap_nil]
        by_cases hu : t.uri = u <;> simp [TelemetryCall.motionOf, hu]
    · refine ⟨[], ?_, ?_⟩
      · rw [if_neg hfall, if_neg hrise, List.append_nil]
      · rw [edgeOf, if_neg hrise, if_neg hfall, ite_self]
        rfl

/-- The edge detection remembers the motion of its sensor. -/
theorem lastMotion_motionEdge (s : UdpTelemetryServer) (t : Telemetry) :
    (s.motionEdge t).lastMotion = s.lastMotion.insert t.uri t.motion := by
  unfold motionEdge
  dsimp only
  split <;> split <;> rfl

/-- What the handler does before the edge detection does not concern the motion. -/
theorem receive_eq (nowMs : UInt64) (s : UdpTelemetryServer) (t : Telemetry) :
    ∃ before : UdpTelemetryServer, before.lastMotion = s.lastMotion ∧
      (∃ new, before.calls = s.calls ++ new ∧ ∀ u, motionCalls u new = []) ∧
      s.receive nowMs t =
        if t.motion = 0 ∨ t.motion = 1 then before.motionEdge t else before := by
  unfold receive
  dsimp only
  by_cases hmarker : t.motion = 254
  · refine ⟨_, ?_, ⟨[.sensorFault t.zoneId t.uri 1], ?_, fun u => rfl⟩, by rw [if_pos hmarker]⟩
    · unfold faultMarker
      split <;> rfl
    · unfold faultMarker
      split <;> rfl
  · refine ⟨_, ?_, ⟨[], ?_, fun u => rfl⟩, by rw [if_neg hmarker]⟩
    · rfl
    · rw [List.append_nil]

/-- What a datagram does for a sensor: only motion 0 and 1 of this sensor matter. -/
theorem doReceive_spec (s : UdpTelemetryServer) (d : Datagram) (u : Bytes) :
    (∃ new, (s.doReceive d).calls = s.calls ++ new ∧
      motionCalls u new =
        (d.motionOf u).elim [] (edgeOf ((s.lastMotion.lookup u).getD 0))) ∧
    (s.doReceive d).lastMotion.lookup u =
      (d.motionOf u).elim (s.lastMotion.lookup u) fun t => some t.motion := by
  unfold doReceive Datagram.motionOf
  cases d.telemetry with
  | none => exact ⟨⟨[], (List.append_nil _).symm, rfl⟩, rfl⟩
  | some t =>
    dsimp only
    obtain ⟨before, hlast, ⟨earlier, hcalls, hearlier⟩, hreceive⟩ := receive_eq d.nowMs s t
    by_cases hmotion : t.motion = 0 ∨ t.motion = 1
    · rw [hreceive, if_pos hmotion]
      obtain ⟨new, hnew, hedge⟩ := calls_motionEdge before t u
      have hmine : motionCalls u (earlier ++ new) =
          if t.uri = u then edgeOf ((s.lastMotion.lookup t.uri).getD 0) t else [] := by
        rw [motionCalls, List.filterMap_append]
        change motionCalls u earlier ++ motionCalls u new = _
        rw [hearlier, hedge, hlast, List.nil_append]
      by_cases hu : t.uri = u
      · subst hu
        simp only [Option.filter_some, hmotion, and_true, decide_true, if_true, Option.elim_some]
        refine ⟨⟨earlier ++ new, ?_, ?_⟩, ?_⟩
        · rw [hnew, hcalls, List.append_assoc]
        · rw [hmine, if_pos rfl]
        · rw [lastMotion_motionEdge, AList.lookup_insert]
      · simp only [Option.filter_some, hu, false_and, decide_false, Bool.false_eq_true, if_false,
          Option.elim_none]
        refine ⟨⟨earlier ++ new, ?_, ?_⟩, ?_⟩
        · rw [hnew, hcalls, List.append_assoc]
        · rw [hmine, if_neg hu]
        · rw [lastMotion_motionEdge, hlast, AList.lookup_insert_ne (Ne.symm hu)]
    · rw [hreceive, if_neg hmotion]
      simp only [Option.filter_some, hmotion, and_false, decide_false, Bool.false_eq_true, if_false,
        Option.elim_none]
      exact ⟨⟨earlier, hcalls, hearlier u⟩, by rw [hlast]⟩

/-! ## Sequences of datagrams -/

variable {reg reg' : Registry} {ds : List Datagram}

theorem serve_concat (reg : Registry) (ds : List Datagram) (d : Datagram) :
    serve reg (ds ++ [d]) = (serve reg ds).doReceive d := List.foldl_concat ..

/-- The callbacks of a sensor after one datagram more. -/
theorem motionCalls_concat (reg : Registry) (ds : List Datagram) (d : Datagram) (u : Bytes) :
    motionCalls u (serve reg (ds ++ [d])).calls = motionCalls u (serve reg ds).calls ++
      (d.motionOf u).elim [] (edgeOf (((serve reg ds).lastMotion.lookup u).getD 0)) := by
  obtain ⟨⟨new, hnew, hedge⟩, -⟩ := doReceive_spec (serve reg ds) d u
  rw [serve_concat, hnew, motionCalls, List.filterMap_append, ← hedge]
  rfl

/-- The motion that is remembered after one datagram more. -/
theorem lookup_concat (reg : Registry) (ds : List Datagram) (d : Datagram) (u : Bytes) :
    (serve reg (ds ++ [d])).lastMotion.lookup u =
      (d.motionOf u).elim ((serve reg ds).lastMotion.lookup u) fun t => some t.motion := by
  rw [serve_concat]
  exact (doReceive_spec (serve reg ds) d u).2

/-- The motion of a datagram for a sensor is 0 or 1. -/
theorem motion_of_motionOf (h : d.motionOf u = some t) :
    d.telemetry = some t ∧ t.uri = u ∧ (t.motion = 0 ∨ t.motion = 1) := by
  obtain ⟨htelemetry, hmotion⟩ := Option.filter_eq_some_iff.mp h
  obtain ⟨huri, hmotion⟩ := of_decide_eq_true hmotion
  exact ⟨htelemetry, huri, hmotion⟩

/-- What is remembered is the last motion that was received. -/
theorem lookup_serve (reg : Registry) (ds : List Datagram) (u : Bytes) :
    (serve reg ds).lastMotion.lookup u =
      (ds.filterMap (Datagram.motionOf u)).getLast?.map Telemetry.motion := by
  induction ds using List.reverseRecOn with
  | nil => rfl
  | append_singleton ds d ih =>
    rw [lookup_concat, List.filterMap_append]
    cases hd : d.motionOf u with
    | none => simp [hd, ih]
    | some t => simp [hd]

/-- The callbacks so far, with the motion that is remembered. -/
structure Alternates (calls : List (Bool × UInt32)) (last : UInt8) : Prop where
  /-- The calls alternate, and the first is that for rising motion. -/
  order : ∀ i c, calls[i]? = some c → c.1 = decide (i % 2 = 0)
  /-- The parity of their number is the motion. -/
  parity : calls.length % 2 = last.toNat
  /-- What rose more often than it fell is the motion. -/
  balance : (calls.countP fun c => c.1 = true) =
    (calls.countP fun c => c.1 = false) + last.toNat

/-- A change of motion is of the kind that is due. -/
theorem Alternates.append {calls : List (Bool × UInt32)} {last : UInt8}
    (h : Alternates calls last) (hmotion : t.motion = 0 ∨ t.motion = 1) :
    Alternates (calls ++ edgeOf last t) t.motion := by
  have hlast : last = 0 ∨ last = 1 := by
    have hparity := h.parity
    rw [← UInt8.toNat_inj, ← UInt8.toNat_inj]
    have hzero : (0 : UInt8).toNat = 0 := rfl
    have hone : (1 : UInt8).toNat = 1 := rfl
    omega
  have hbalance := h.balance
  have hparity := h.parity
  rcases hlast with rfl | rfl <;> rcases hmotion with hmotion | hmotion <;>
    rw [edgeOf, hmotion]
  · -- No motion stays.
    rw [if_neg (by simp), if_neg (by simp), List.append_nil]
    exact h
  · -- Motion rises.
    rw [if_pos ⟨rfl, rfl⟩]
    refine ⟨forall_getElem?_concat h.order ?_, ?_, ?_⟩
    · exact (decide_eq_true hparity).symm
    · rw [List.length_append, List.length_singleton, Nat.add_mod, hparity]
      rfl
    · rw [List.countP_append, List.countP_append, hbalance]
      rfl
  · -- Motion falls.
    rw [if_neg (by simp), if_pos ⟨rfl, rfl⟩]
    refine ⟨forall_getElem?_concat h.order ?_, ?_, ?_⟩
    · rw [hparity]
      rfl
    · rw [List.length_append, List.length_singleton, Nat.add_mod, hparity]
      rfl
    · rw [List.countP_append, List.countP_append, hbalance]
      rfl
  · -- Motion stays.
    rw [if_neg (by simp), if_neg (by simp), List.append_nil]
    exact h

/-- The callbacks of a sensor alternate throughout. -/
theorem alternates_serve (reg : Registry) (ds : List Datagram) (u : Bytes) :
    Alternates (motionCalls u (serve reg ds).calls)
      (((serve reg ds).lastMotion.lookup u).getD 0) := by
  induction ds using List.reverseRecOn with
  | nil =>
    refine ⟨fun i c hget => ?_, rfl, rfl⟩
    cases hget
  | append_singleton ds d ih =>
    rw [motionCalls_concat, lookup_concat]
    cases hd : d.motionOf u with
    | none =>
      rw [Option.elim_none, Option.elim_none, List.append_nil]
      exact ih
    | some t =>
      rw [Option.elim_some, Option.elim_some, Option.getD_some]
      exact ih.append (motion_of_motionOf hd).2.2

/-- Without the other datagrams, the callbacks and the remembered motion are the same. -/
theorem serve_filter (reg reg' : Registry) (ds : List Datagram) (u : Bytes) :
    motionCalls u (serve reg' (ds.filter fun d => (d.motionOf u).isSome)).calls =
        motionCalls u (serve reg ds).calls ∧
      (serve reg' (ds.filter fun d => (d.motionOf u).isSome)).lastMotion.lookup u =
        (serve reg ds).lastMotion.lookup u := by
  induction ds using List.reverseRecOn with
  | nil => exact ⟨rfl, rfl⟩
  | append_singleton ds d ih =>
    obtain ⟨hcalls, hlookup⟩ := ih
    rw [List.filter_append, motionCalls_concat, lookup_concat]
    cases hd : d.motionOf u with
    | none =>
      have hnone : [d].filter (fun d => (d.motionOf u).isSome) = [] := by
        rw [List.filter_singleton, hd]
        rfl
      rw [hnone, List.append_nil, Option.elim_none, Option.elim_none, List.append_nil]
      exact ⟨hcalls, hlookup⟩
    | some t =>
      have hkept : [d].filter (fun d => (d.motionOf u).isSome) = [d] := by
        rw [List.filter_singleton, hd]
        rfl
      rw [hkept, motionCalls_concat, lookup_concat, hd, hcalls, hlookup]
      exact ⟨rfl, rfl⟩

/-- The zone of a callback is that of the datagram. -/
theorem zone_of_edgeOf {prev : UInt8} {c : Bool × UInt32} (h : c ∈ edgeOf prev t) :
    c.2 = t.zoneId := by
  unfold edgeOf at h
  split at h
  · rw [List.mem_singleton.mp h]
  · split at h
    · rw [List.mem_singleton.mp h]
    · cases h

/-- A datagram has telemetry of the sensor exactly when its bytes say so. -/
theorem isSome_motionOf (h : d.WellFormed) : (d.motionOf u).isSome = decide (d.IsMotionOf u) := by
  obtain ⟨t, ht, huri, -, hmotion⟩ := h.exists_telemetry
  rw [Datagram.motionOf, ht, Option.filter_some, huri, hmotion]
  by_cases hmine : d.name = u ∧ (d.motion = 0 ∨ d.motion = 1)
  · simp only [hmine, Datagram.IsMotionOf, decide_true, if_true, Option.isSome_some, and_self]
  · simp only [hmine, Datagram.IsMotionOf, decide_false, Bool.false_eq_true, if_false,
      Option.isSome_none]

/-- The motion in the telemetry of a sensor is the motion byte. -/
theorem map_motion_motionOf (h : d.WellFormed) :
    (d.motionOf u).map Telemetry.motion = if d.IsMotionOf u then some d.motion else none := by
  have hsome : (d.motionOf u).isSome = decide (d.IsMotionOf u) := isSome_motionOf h
  cases hd : d.motionOf u with
  | none =>
    rw [hd] at hsome
    rw [if_neg (of_decide_eq_false hsome.symm), Option.map_none]
  | some t =>
    rw [hd] at hsome
    obtain ⟨t', ht', -, -, hmotion⟩ := h.exists_telemetry
    obtain rfl := Option.some.inj ((motion_of_motionOf hd).1.symm.trans ht')
    rw [if_pos (of_decide_eq_true hsome.symm), Option.map_some, hmotion]

/-- The motions of a sensor in a sequence are the motion bytes of its datagrams. -/
theorem map_motion_filterMap (hds : ∀ d ∈ ds, d.WellFormed) :
    (ds.filterMap (Datagram.motionOf u)).map Telemetry.motion =
      (ds.filter (Datagram.IsMotionOf u)).map Datagram.motion := by
  rw [List.map_filterMap, ← List.filterMap_eq_map, List.filterMap_filter]
  refine List.filterMap_congr fun d hd => ?_
  rw [map_motion_motionOf (hds d hd)]
  simp only [decide_eq_true_eq, Function.comp_apply]

/-- The edge detector is exact for every sensor, whatever sequence of whole datagrams with
terminated names arrives. -/
theorem exactFor_serve (u : Bytes) (reg : Registry) {ds : List Datagram}
    (hds : ∀ d ∈ ds, d.WellFormed) : ExactFor u reg ds where
  alternates := (alternates_serve reg ds u).order
  balance := (alternates_serve reg ds u).balance
  last := by
    rw [lookup_serve, ← List.getLast?_map, map_motion_filterMap hds, List.getLast?_map]
  zones before d after hsplit := by
    obtain ⟨⟨new, hnew, hedge⟩, -⟩ := doReceive_spec (serve reg before) d u
    refine ⟨new, by rw [serve_concat, hnew], fun c hc => ?_⟩
    rw [hedge] at hc
    cases hd : d.motionOf u with
    | none =>
      rw [hd] at hc
      cases hc
    | some t =>
      rw [hd] at hc
      have hwell : d.WellFormed := hds d (hsplit ▸ List.mem_append_right _ List.mem_cons_self)
      obtain ⟨htelemetry, huri, -⟩ := motion_of_motionOf hd
      obtain ⟨t', ht', huri', hzone, -⟩ := hwell.exists_telemetry
      obtain rfl := Option.some.inj (htelemetry.symm.trans ht')
      exact ⟨huri'.symm.trans huri, (zone_of_edgeOf hc).trans hzone⟩
  alone := by
    rw [← (serve_filter reg reg ds u).1]
    have hfilter : ds.filter (Datagram.IsMotionOf u) =
        ds.filter fun d => (d.motionOf u).isSome :=
      List.filter_congr fun d hd => (isSome_motionOf (hds d hd)).symm
    rw [hfilter]

/-- Two sensors: motion of one, a fault marker of the other, and the motion falls. -/
theorem exactFor_serve_pair :
    ExactFor (ascii "s1") .empty
      [⟨telemetryPacket (ascii "s1") 3 500 1 210, [], 1000⟩,
        ⟨telemetryPacket (ascii "s2") 3 500 254 210, [], 2000⟩,
        ⟨telemetryPacket (ascii "s1") 3 500 0 210, [], 3000⟩] :=
  exactFor_serve (ascii "s1") .empty (by
    simp only [List.forall_mem_cons]
    exact ⟨⟨by decide, by decide⟩, ⟨by decide, by decide⟩, ⟨by decide, by decide⟩, nofun⟩)

end UdpTelemetryServer

/-- The callbacks that the region sets. -/
def Region.callback (cfg : RegionConfig) (clock : Clock) (r : Region) : TelemetryCall → Region
  | .motionOn zone _ => r.motionOn zone
  | .motionOff zone _ => r.motionOff zone
  | .sensorFault zone uri code => r.sensorFault cfg clock zone uri code

/-- The edge detection of the region makes the calls of the server. -/
theorem Region.motionEdge_eq_callbacks (cfg : RegionConfig) (clock : Clock) (r : Region)
    (t : Telemetry) :
    let s := UdpTelemetryServer.motionEdge ⟨r.reg, r.lastMotion, []⟩ t
    s.reg = r.reg ∧ r.motionEdge t =
      { s.calls.foldl (callback cfg clock) r with lastMotion := s.lastMotion } := by
  rw [motionEdge_eq]
  unfold UdpTelemetryServer.motionEdge
  dsimp only
  generalize (r.lastMotion.lookup t.uri).getD 0 = prev
  by_cases hrise : prev = 0 ∧ t.motion = 1
  · have hfall := not_fall_of_rise hrise
    rw [if_pos hrise, if_neg hfall]
    refine ⟨rfl, ?_⟩
    rw [hrise.1, hrise.2, ← motionOn_eq]
    rfl
  · by_cases hfall : prev = 1 ∧ t.motion = 0
    · rw [if_neg hrise, if_pos hfall]
      refine ⟨rfl, ?_⟩
      rw [hfall.1, hfall.2, ← motionOff_eq]
      rfl
    · rw [if_neg hrise, if_neg hfall]
      have hnone : edgeCommands prev t.motion = [] := by
        rw [edgeCommands, if_neg hrise, if_neg hfall]
      rw [edgeCalls_eq_nil hnone]
      refine ⟨rfl, ?_⟩
      split <;> rfl

/-- The region handles telemetry as the server does, and makes the calls of its callbacks. -/
theorem Region.receive_eq_callbacks (cfg : RegionConfig) (clock : Clock) (r : Region)
    (t : Telemetry) :
    let s := UdpTelemetryServer.receive clock.nowMs ⟨r.reg, r.lastMotion, []⟩ t
    r.receive cfg clock t =
      { s.calls.foldl (callback cfg clock) { r with reg := s.reg } with
        lastMotion := s.lastMotion } := by
  unfold receive UdpTelemetryServer.receive
  dsimp only
  by_cases hmarker : t.motion = 254
  · have hmotion : ¬(t.motion = 0 ∨ t.motion = 1) := by
      rw [hmarker]
      decide
    rw [if_pos hmarker, if_pos hmarker, if_neg hmotion, if_neg hmotion]
    unfold faultMarker UdpTelemetryServer.faultMarker
    dsimp only
    rw [Registry.get_upsert_self]
    rfl
  · rw [if_neg hmarker, if_neg hmarker]
    by_cases hmotion : t.motion = 0 ∨ t.motion = 1
    · rw [if_pos hmotion, if_pos hmotion]
      obtain ⟨hreg, hedge⟩ := motionEdge_eq_callbacks cfg clock
        { r with reg := r.reg.upsert t.uri (telemetryState t clock.nowMs (r.reg.get t.uri)) } t
      rw [hedge, hreg]
    · rw [if_neg hmotion, if_neg hmotion]
      rfl

/-- A datagram that the region receives goes through `do_receive`, and the region makes the calls
of its callbacks. -/
theorem Region.step_datagram (cfg : RegionConfig) (clock : Clock) (r : Region)
    (bytes beyond : Bytes) :
    let s := UdpTelemetryServer.doReceive ⟨r.reg, r.lastMotion, []⟩ ⟨bytes, beyond, clock.nowMs⟩
    step cfg r (.datagram bytes beyond clock) =
      some { s.calls.foldl (callback cfg clock) { r with reg := s.reg } with
        lastMotion := s.lastMotion } := by
  dsimp only [UdpTelemetryServer.doReceive, Datagram.telemetry, step]
  cases parseTelemetry bytes beyond with
  | none => rfl
  | some t => exact congrArg some (receive_eq_callbacks cfg clock r t)

end SmartLighting
