import SmartLighting.Library.Reader

/-!
# The shared binary protocol

Message types, message structures and their byte encodings, as in `proto.hpp`.
A `std::string` is a byte string. Encoders append to a buffer; decoders read
from the front of a body and ignore what follows, and throw on underflow.
-/

namespace SmartLighting

/-- The bytes of an ASCII literal. -/
def ascii (text : String) : Bytes := text.toList.map fun c => c.toNat.toUInt8

/-- Names are compared byte by byte. -/
instance : LawfulBEq Bytes := inferInstance

/-- `enum class MsgType : uint8_t`. A received type byte is cast without a check,
so every byte is a value. -/
structure MsgType where
  /-- The underlying byte. -/
  code : UInt8
  deriving DecidableEq

namespace MsgType

/-- Device to region. -/
def registerReq : MsgType := ⟨1⟩
/-- Region to device. -/
def registerAck : MsgType := ⟨2⟩
/-- Region to device. -/
def registerNack : MsgType := ⟨3⟩
/-- Device to region. -/
def statusReport : MsgType := ⟨4⟩
/-- Region to device. -/
def cmd : MsgType := ⟨5⟩
/-- Device to region. -/
def faultReport : MsgType := ⟨6⟩
/-- Region to device. -/
def faultAck : MsgType := ⟨7⟩
/-- Region to central: an alarm. -/
def alarmUp : MsgType := ⟨22⟩
/-- Central to region. -/
def alarmAck : MsgType := ⟨23⟩

end MsgType

/-- `enum class DeviceType : uint8_t`, cast from a received byte without a check. -/
structure DeviceType where
  /-- The underlying byte. -/
  code : UInt8
  deriving DecidableEq

namespace DeviceType

/-- A lamp. -/
def luminaire : DeviceType := ⟨1⟩
/-- A sensor. -/
def sensor : DeviceType := ⟨2⟩

theorem sensor_ne_luminaire : sensor ≠ luminaire := by decide

end DeviceType

/-! ## Minimal serialization -/

/-- Append one byte. -/
def putU8 (b : Bytes) (v : UInt8) : Bytes := b ++ [v]

/-- Append a 16-bit word, high byte first. -/
def putU16 (b : Bytes) (v : UInt16) : Bytes :=
  b ++ [((v >>> 8) &&& 0xFF).toUInt8, (v &&& 0xFF).toUInt8]

/-- Append a 32-bit word, high byte first. -/
def putU32 (b : Bytes) (v : UInt32) : Bytes :=
  b ++ [((v >>> 24) &&& 0xFF).toUInt8, ((v >>> 16) &&& 0xFF).toUInt8,
    ((v >>> 8) &&& 0xFF).toUInt8, (v &&& 0xFF).toUInt8]

/-- Read one byte. -/
def getU8 : Reader UInt8
  | b :: rest => .ok (b, rest)
  | [] => .error "underflow u8"

/-- Read a 16-bit word. -/
def getU16 : Reader UInt16
  | b0 :: b1 :: rest => .ok ((b0.toUInt16 <<< 8) ||| b1.toUInt16, rest)
  | _ => .error "underflow u16"

/-- Read a 32-bit word. -/
def getU32 : Reader UInt32
  | b0 :: b1 :: b2 :: b3 :: rest =>
    .ok ((b0.toUInt32 <<< 24) ||| (b1.toUInt32 <<< 16) ||| (b2.toUInt32 <<< 8) ||| b3.toUInt32,
      rest)
  | _ => .error "underflow u32"

/-- Append a length prefix and the bytes of a string. -/
def putStr (b : Bytes) (s : Bytes) : Except String Bytes :=
  if s.length > 65535 then .error "string too long"
  else .ok (putU16 b s.length.toUInt16 ++ s)

/-- Read a length prefix and that many bytes. -/
def getStr : Reader Bytes := do
  let n ← getU16
  fun p =>
    if n.toNat > p.length then .error "underflow str"
    else .ok (p.take n.toNat, p.drop n.toNat)

/-! ## Messages -/

/-- `RegisterReq`. -/
structure RegisterReq where
  /-- Kind of device. -/
  type : DeviceType
  /-- Name of the device. -/
  uri : Bytes
  /-- Zone it serves. -/
  zoneId : UInt32
  deriving DecidableEq

/-- `RegisterAck`. -/
structure RegisterAck where
  /-- Clock of the region in seconds. -/
  serverTimeUnix : UInt32
  deriving DecidableEq

/-- `StatusReport`. -/
structure StatusReport where
  /-- Name of the device. -/
  uri : Bytes
  /-- Zone it serves. -/
  zoneId : UInt32
  /-- Nonzero when switched on. -/
  on : UInt8
  /-- Light level. -/
  intensity : UInt8
  /-- Power consumption in milliwatts. -/
  powerMw : UInt32
  deriving DecidableEq

/-- `Command`: 1 is SWITCH_ON, 2 is SWITCH_OFF and 3 is SET_INTENSITY. -/
structure Command where
  /-- Name of the device. -/
  uri : Bytes
  /-- Which command. -/
  cmd : UInt8
  /-- Its argument. -/
  value : UInt8
  deriving DecidableEq

/-- `FaultReport`. -/
structure FaultReport where
  /-- Name of the device. -/
  uri : Bytes
  /-- Zone it serves. -/
  zoneId : UInt32
  /-- Kind of fault. -/
  code : UInt8
  /-- Description. -/
  text : Bytes
  deriving DecidableEq

/-- `AlarmUp`. -/
structure AlarmUp where
  /-- The reporting region. -/
  regionId : UInt32
  /-- Clock of the region in seconds. -/
  tsUnix : UInt32
  /-- 1 for a lamp and 2 for a sensor. -/
  deviceType : UInt8
  /-- Zone of the device. -/
  zoneId : UInt32
  /-- Kind of fault. -/
  code : UInt8
  /-- Name of the device. -/
  uri : Bytes
  /-- Description. -/
  text : Bytes
  deriving DecidableEq

/-! ## Encoders and decoders -/

/-- `encode_register_req`. -/
def encodeRegisterReq (r : RegisterReq) : Except String Bytes := do
  let b := putU8 [] r.type.code
  let b ← putStr b r.uri
  return putU32 b r.zoneId

/-- `decode_register_req`. -/
def decodeRegisterReq : Reader RegisterReq := do
  let type ← getU8
  let uri ← getStr
  let zoneId ← getU32
  return ⟨⟨type⟩, uri, zoneId⟩

/-- `encode_register_ack`. -/
def encodeRegisterAck (a : RegisterAck) : Bytes := putU32 [] a.serverTimeUnix

/-- `encode_alarm_up`. -/
def encodeAlarmUp (a : AlarmUp) : Except String Bytes := do
  let b := putU32 [] a.regionId
  let b := putU32 b a.tsUnix
  let b := putU8 b a.deviceType
  let b := putU32 b a.zoneId
  let b := putU8 b a.code
  let b ← putStr b a.uri
  putStr b a.text

/-- `encode_status_report`. -/
def encodeStatusReport (s : StatusReport) : Except String Bytes := do
  let b ← putStr [] s.uri
  let b := putU32 b s.zoneId
  let b := putU8 b s.on
  let b := putU8 b s.intensity
  return putU32 b s.powerMw

/-- `decode_status_report`. -/
def decodeStatusReport : Reader StatusReport := do
  let uri ← getStr
  let zoneId ← getU32
  let on ← getU8
  let intensity ← getU8
  let powerMw ← getU32
  return ⟨uri, zoneId, on, intensity, powerMw⟩

/-- `encode_command`. -/
def encodeCommand (c : Command) : Except String Bytes := do
  let b ← putStr [] c.uri
  let b := putU8 b c.cmd
  return putU8 b c.value

/-- `decode_command`. -/
def decodeCommand : Reader Command := do
  let uri ← getStr
  let cmd ← getU8
  let value ← getU8
  return ⟨uri, cmd, value⟩

/-- `encode_fault_report`. -/
def encodeFaultReport (f : FaultReport) : Except String Bytes := do
  let b ← putStr [] f.uri
  let b := putU32 b f.zoneId
  let b := putU8 b f.code
  putStr b f.text

/-- `decode_fault_report`. -/
def decodeFaultReport : Reader FaultReport := do
  let uri ← getStr
  let zoneId ← getU32
  let code ← getU8
  let text ← getStr
  return ⟨uri, zoneId, code, text⟩

end SmartLighting
