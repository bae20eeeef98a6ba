import SmartLighting.Codec

/-!
# The protocol between region and central server

The second half of `proto.hpp`: the messages a region exchanges with the central
server. Counted lists have a 16-bit count, which the encoder casts from the
length of the list without a check.
-/

namespace SmartLighting

open Reader

namespace MsgType

/-- Region to central: the aggregates of a region. -/
def regionSyncUp : MsgType := ⟨20⟩
/-- Central to region. -/
def regionSyncAck : MsgType := ⟨21⟩
/-- Administrator to central. -/
def adminSnapshotReq : MsgType := ⟨40⟩
/-- Central to administrator. -/
def adminSnapshotAck : MsgType := ⟨41⟩

end MsgType

/-- `ZoneDeviceSummary`: how many devices a zone has. -/
structure ZoneDeviceSummary where
  /-- The zone. -/
  zoneId : UInt32
  /-- Lamps. -/
  lampTotal : UInt16
  /-- Lamps that are switched on. -/
  lampOn : UInt16
  /-- Lamps with a latched fault. -/
  lampFault : UInt16
  /-- Sensors. -/
  sensorTotal : UInt16
  /-- Sensors with a latched fault. -/
  sensorFault : UInt16
  deriving DecidableEq

/-- `RegionSyncUp`. -/
structure RegionSyncUp where
  /-- The reporting region. -/
  regionId : UInt32
  /-- How many times the region has synchronized. -/
  version : UInt32
  /-- The power consumption of each zone in milliwatts. -/
  zonePowerSum : List (UInt32 × UInt32)
  /-- The devices of each zone. -/
  zoneDeviceSummary : List ZoneDeviceSummary
  deriving DecidableEq

/-- `RegionSyncAck`. -/
structure RegionSyncAck where
  /-- The region that is answered. -/
  regionId : UInt32
  /-- The version that is answered. -/
  version : UInt32
  /-- 1 when the message was handled. -/
  ok : UInt8
  deriving DecidableEq

/-- `AlarmAck`. -/
structure AlarmAck where
  /-- The region that is answered. -/
  regionId : UInt32
  /-- The time stamp of the alarm. -/
  tsUnix : UInt32
  /-- 1 when the message was handled. -/
  ok : UInt8
  deriving DecidableEq

/-! ## Encoders and decoders -/

/-- `decode_alarm_up`. -/
def decodeAlarmUp : Reader AlarmUp := do
  let regionId ← getU32
  let tsUnix ← getU32
  let deviceType ← getU8
  let zoneId ← getU32
  let code ← getU8
  let uri ← getStr
  let text ← getStr
  return ⟨regionId, tsUnix, deviceType, zoneId, code, uri, text⟩

/-- `encode_alarm_ack`. -/
def encodeAlarmAck (a : AlarmAck) : Bytes :=
  let b := putU32 [] a.regionId
  let b := putU32 b a.tsUnix
  putU8 b a.ok

/-- `encode_region_sync_up`. -/
def encodeRegionSyncUp (s : RegionSyncUp) : Bytes :=
  let b := putU32 [] s.regionId
  let b := putU32 b s.version
  let b := putU16 b s.zonePowerSum.length.toUInt16
  let b := s.zonePowerSum.foldl (fun b zp => putU32 (putU32 b zp.1) zp.2) b
  let b := putU16 b s.zoneDeviceSummary.length.toUInt16
  s.zoneDeviceSummary.foldl (fun b zs =>
    let b := putU32 b zs.zoneId
    let b := putU16 b zs.lampTotal
    let b := putU16 b zs.lampOn
    let b := putU16 b zs.lampFault
    let b := putU16 b zs.sensorTotal
    putU16 b zs.sensorFault) b

/-- One pass of the first loop of `decode_region_sync_up`. -/
def getZonePower : Reader (UInt32 × UInt32) := do
  let z ← getU32
  let pw ← getU32
  return (z, pw)

/-- One pass of the second loop of `decode_region_sync_up`. -/
def getZoneDeviceSummary : Reader ZoneDeviceSummary := do
  let zoneId ← getU32
  let lampTotal ← getU16
  let lampOn ← getU16
  let lampFault ← getU16
  let sensorTotal ← getU16
  let sensorFault ← getU16
  return ⟨zoneId, lampTotal, lampOn, lampFault, sensorTotal, sensorFault⟩

/-- `decode_region_sync_up`. A body may end after the first list. -/
def decodeRegionSyncUp : Reader RegionSyncUp := do
  let regionId ← getU32
  let version ← getU32
  let cnt ← getU16
  let zonePowerSum ← times cnt.toNat getZonePower
  if (← get) = [] then return ⟨regionId, version, zonePowerSum, []⟩
  else do
    let scnt ← getU16
    let zoneDeviceSummary ← times scnt.toNat getZoneDeviceSummary
    return ⟨regionId, version, zonePowerSum, zoneDeviceSummary⟩

/-- `encode_region_sync_ack`. -/
def encodeRegionSyncAck (a : RegionSyncAck) : Bytes :=
  let b := putU32 [] a.regionId
  let b := putU32 b a.version
  putU8 b a.ok

/-! ## Exactness -/

/-- A loop that appends the encoding of each element appends their concatenation. -/
theorem foldl_put {α : Type} {put : Bytes → α → Bytes} {encode : α → Bytes}
    (h : ∀ b a, put b a = b ++ encode a) (as : List α) (b : Bytes) :
    as.foldl put b = b ++ as.flatMap encode := by
  induction as generalizing b with
  | nil => rw [List.foldl_nil, List.flatMap_nil, List.append_nil]
  | cons a as ih => rw [List.foldl_cons, ih, h, List.flatMap_cons, List.append_assoc]

/-- The same for a loop that may throw, but does not. -/
theorem foldlM_put {α : Type} {put : Bytes → α → Except String Bytes} {encode : α → Bytes}
    {as : List α} (h : ∀ a ∈ as, ∀ b, put b a = .ok (b ++ encode a)) (b : Bytes) :
    as.foldlM put b = .ok (b ++ as.flatMap encode) := by
  induction as generalizing b with
  | nil => rw [List.foldlM_nil, List.flatMap_nil, List.append_nil]; rfl
  | cons a as ih =>
    have htail := ih (fun a' ha' => h a' (List.mem_cons_of_mem a ha')) (b ++ encode a)
    rw [List.foldlM_cons, h a List.mem_cons_self, List.flatMap_cons, ← List.append_assoc]
    exact htail

/-- A count that fits is recovered. -/
theorem toNat_toUInt16 {n : ℕ} (h : n ≤ 65535) : n.toUInt16.toNat = n := by
  rw [Nat.toUInt16, UInt16.toNat_ofNat']
  exact Nat.mod_eq_of_lt (by omega)

@[simp] theorem length_u16Bytes (v : UInt16) : (u16Bytes v).length = 2 := rfl

@[simp] theorem length_u32Bytes (v : UInt32) : (u32Bytes v).length = 4 := rfl

@[simp] theorem length_strBytes (s : Bytes) : (strBytes s).length = 2 + s.length := by
  rw [strBytes, List.length_append, length_u16Bytes]

theorem encodeAlarmUp_eq_ok {a : AlarmUp} {b : Bytes} :
    encodeAlarmUp a = .ok b ↔ a.uri.length ≤ 65535 ∧ a.text.length ≤ 65535 ∧
      u32Bytes a.regionId ++ (u32Bytes a.tsUnix ++ ([a.deviceType] ++ (u32Bytes a.zoneId ++
        ([a.code] ++ (strBytes a.uri ++ strBytes a.text))))) = b := by
  simp only [encodeAlarmUp, bind_putStr_eq_ok, putStr_eq_ok, putU32_eq, putU8_eq,
    List.nil_append, List.append_assoc, eq_comm (a := b)]

theorem decodeAlarmUp_exact {a : AlarmUp} {b : Bytes} (h : encodeAlarmUp a = .ok b) :
    Exact decodeAlarmUp b a := by
  obtain ⟨huri, htext, rfl⟩ := encodeAlarmUp_eq_ok.mp h
  exact (getU32_exact _).bind ((getU32_exact _).bind ((getU8_exact _).bind ((getU32_exact _).bind
    ((getU8_exact _).bind ((getStr_exact huri).bind ((getStr_exact htext).bind_pure _))))))

/-- The wire form of the power of a zone. -/
def zonePowerBytes (zp : UInt32 × UInt32) : Bytes := u32Bytes zp.1 ++ u32Bytes zp.2

/-- The wire form of the five counts of a zone. -/
def countsBytes (zs : ZoneDeviceSummary) : Bytes :=
  u16Bytes zs.lampTotal ++ (u16Bytes zs.lampOn ++ (u16Bytes zs.lampFault ++
    (u16Bytes zs.sensorTotal ++ u16Bytes zs.sensorFault)))

/-- The wire form of the devices of a zone. -/
def zoneSummaryBytes (zs : ZoneDeviceSummary) : Bytes := u32Bytes zs.zoneId ++ countsBytes zs

theorem getZonePower_exact (zp : UInt32 × UInt32) :
    Exact getZonePower (zonePowerBytes zp) zp :=
  (getU32_exact zp.1).bind ((getU32_exact zp.2).bind_pure _)

theorem getZoneDeviceSummary_exact (zs : ZoneDeviceSummary) :
    Exact getZoneDeviceSummary (zoneSummaryBytes zs) zs :=
  (getU32_exact _).bind ((getU16_exact _).bind ((getU16_exact _).bind ((getU16_exact _).bind
    ((getU16_exact _).bind ((getU16_exact _).bind_pure _)))))

/-- The payload of a synchronization. -/
theorem encodeRegionSyncUp_eq (s : RegionSyncUp) :
    encodeRegionSyncUp s = u32Bytes s.regionId ++ (u32Bytes s.version ++
      (u16Bytes s.zonePowerSum.length.toUInt16 ++ (s.zonePowerSum.flatMap zonePowerBytes ++
        (u16Bytes s.zoneDeviceSummary.length.toUInt16 ++
          s.zoneDeviceSummary.flatMap zoneSummaryBytes)))) := by
  have hpower : ∀ (b : Bytes) (zp : UInt32 × UInt32),
      putU32 (putU32 b zp.1) zp.2 = b ++ zonePowerBytes zp := by
    intro b zp
    rw [putU32_eq, putU32_eq, List.append_assoc, zonePowerBytes]
  have hsummary : ∀ (b : Bytes) (zs : ZoneDeviceSummary),
      putU16 (putU16 (putU16 (putU16 (putU16 (putU32 b zs.zoneId) zs.lampTotal) zs.lampOn)
        zs.lampFault) zs.sensorTotal) zs.sensorFault = b ++ zoneSummaryBytes zs := by
    intro b zs
    simp only [putU32_eq, putU16_eq, List.append_assoc, zoneSummaryBytes, countsBytes]
  unfold encodeRegionSyncUp
  dsimp only
  rw [foldl_put hsummary, foldl_put hpower]
  simp only [putU32_eq, putU16_eq, List.nil_append, List.append_assoc]

/-- A synchronization with at most 65535 zones in each list is recovered. -/
theorem decodeRegionSyncUp_exact {s : RegionSyncUp} (hpower : s.zonePowerSum.length ≤ 65535)
    (hsummary : s.zoneDeviceSummary.length ≤ 65535) :
    Exact decodeRegionSyncUp (encodeRegionSyncUp s) s := by
  have hzones : Exact (times s.zonePowerSum.length.toUInt16.toNat getZonePower)
      (s.zonePowerSum.flatMap zonePowerBytes) s.zonePowerSum := by
    rw [toNat_toUInt16 hpower]
    exact .times fun zp _ => getZonePower_exact zp
  have hdevices : Exact (times s.zoneDeviceSummary.length.toUInt16.toNat getZoneDeviceSummary)
      (s.zoneDeviceSummary.flatMap zoneSummaryBytes) s.zoneDeviceSummary := by
    rw [toNat_toUInt16 hsummary]
    exact .times fun zs _ => getZoneDeviceSummary_exact zs
  rw [encodeRegionSyncUp_eq]
  exact (getU32_exact _).bind ((getU32_exact _).bind ((getU16_exact _).bind (hzones.bind
    (Exact.unless_empty (by simp [u16Bytes, putU16])
      ((getU16_exact _).bind (hdevices.bind_pure _))))))

private theorem length_flatMap_of_const {α : Type} (encode : α → Bytes) {n : ℕ}
    (h : ∀ a, (encode a).length = n) (as : List α) :
    (as.flatMap encode).length = n * as.length := by
  induction as with
  | nil => rfl
  | cons a as ih =>
    rw [List.flatMap_cons, List.length_append, ih, h, List.length_cons, Nat.mul_succ]
    omega

/-- The payload of a synchronization grows with the number of zones. -/
theorem length_encodeRegionSyncUp (s : RegionSyncUp) :
    (encodeRegionSyncUp s).length =
      12 + 8 * s.zonePowerSum.length + 14 * s.zoneDeviceSummary.length := by
  have hpower := length_flatMap_of_const zonePowerBytes (n := 8) (fun _ => rfl) s.zonePowerSum
  have hsummary := length_flatMap_of_const zoneSummaryBytes (n := 14) (fun _ => rfl)
    s.zoneDeviceSummary
  rw [encodeRegionSyncUp_eq]
  simp only [List.length_append, length_u32Bytes, length_u16Bytes, hpower, hsummary]
  omega

/-! ## What the decoders can return -/

/-- The strings of a decoded alarm fit their length prefixes. -/
theorem decodeAlarmUp_yields :
    Yields decodeAlarmUp fun a => a.uri.length ≤ 65535 ∧ a.text.length ≤ 65535 :=
  .bind .trivial fun _ _ => .bind .trivial fun _ _ => .bind .trivial fun _ _ =>
    .bind .trivial fun _ _ => .bind .trivial fun _ _ => getStr_yields.bind fun _ huri =>
      getStr_yields.bind fun _ htext => .pure ⟨huri, htext⟩

/-- A decoded synchronization lists at most 65535 zones. -/
theorem decodeRegionSyncUp_yields :
    Yields decodeRegionSyncUp fun s => s.zonePowerSum.length ≤ 65535 ∧
      s.zoneDeviceSummary.length ≤ 65535 := by
  refine .bind .trivial fun _ _ => .bind .trivial fun _ _ => .bind .trivial fun cnt _ =>
    (Yields.trivial.times cnt.toNat).bind fun power hpower => .bind .trivial fun p _ => ?_
  have hcnt : power.length ≤ 65535 := by
    have hlt := cnt.toNat_lt
    omega
  split
  · exact .pure ⟨hcnt, Nat.zero_le _⟩
  · refine .bind .trivial fun scnt _ => (Yields.trivial.times scnt.toNat).bind fun devices hdevices =>
      .pure ⟨hcnt, ?_⟩
    have hlt := scnt.toNat_lt
    rw [hdevices.1]
    omega

/-- The region and the version of a synchronization come first, so they are decoded even where
its counts were cut off. -/
theorem decodeRegionSyncUp_header {up up' : RegionSyncUp}
    (h : decode decodeRegionSyncUp (encodeRegionSyncUp up) = .ok up') :
    up'.regionId = up.regionId ∧ up'.version = up.version := by
  rw [encodeRegionSyncUp_eq, decodeRegionSyncUp, (getU32_exact _).decode_bind,
    (getU32_exact _).decode_bind] at h
  refine Yields.of_decode (P := fun s => s.regionId = up.regionId ∧ s.version = up.version)
    (.bind .trivial fun cnt _ => .bind .trivial fun power _ => .bind .trivial fun p _ => ?_) h
  split
  · exact .pure ⟨rfl, rfl⟩
  · exact .bind .trivial fun scnt _ => .bind .trivial fun devices _ => .pure ⟨rfl, rfl⟩

end SmartLighting
