import SmartLighting.Registry

/-!
# UDP telemetry

A sensor sends one packed `TelemetryUdp` structure of 57 bytes for each event:
a name field of 48 bytes, then zone, lux, motion and temperature, the words in
network byte order. The receiver copies the structure and converts the words on
a little-endian host.
-/

namespace SmartLighting

/-- `to_be32`: swap the four bytes of a word. -/
def toBe32 (x : UInt32) : UInt32 :=
  ((x &&& 0x000000FF) <<< 24) ||| ((x &&& 0x0000FF00) <<< 8) ||| ((x &&& 0x00FF0000) >>> 8) |||
    ((x &&& 0xFF000000) >>> 24)

/-- `from_be32`. -/
def fromBe32 (x : UInt32) : UInt32 := toBe32 x

/-- `to_be16`: swap the two bytes of a word. -/
def toBe16 (x : UInt16) : UInt16 := (x >>> 8) ||| (x <<< 8)

/-- `from_be16`. -/
def fromBe16 (x : UInt16) : UInt16 := toBe16 x

/-- The byte at an offset of a structure in memory. -/
def byteAt (memory : Bytes) (offset : ℕ) : UInt8 := memory.getD offset 0

/-- A 16-bit member at an offset, as a little-endian host loads it. -/
def load16 (memory : Bytes) (offset : ℕ) : UInt16 :=
  (byteAt memory offset).toUInt16 ||| ((byteAt memory (offset + 1)).toUInt16 <<< 8)

/-- A 32-bit member at an offset, as a little-endian host loads it. -/
def load32 (memory : Bytes) (offset : ℕ) : UInt32 :=
  (byteAt memory offset).toUInt32 ||| ((byteAt memory (offset + 1)).toUInt32 <<< 8) |||
    ((byteAt memory (offset + 2)).toUInt32 <<< 16) ||| ((byteAt memory (offset + 3)).toUInt32 <<< 24)

/-- `sizeof(TelemetryUdp)`. -/
def telemetrySize : ℕ := 57

/-- The values that `do_receive` takes from a datagram. -/
structure Telemetry where
  /-- Name of the sensor. -/
  uri : Bytes
  /-- Zone of the sensor. -/
  zoneId : UInt32
  /-- Ambient light. -/
  lux : UInt16
  /-- 0 or 1, or the fault marker 254. -/
  motion : UInt8
  /-- Tenths of a degree. -/
  temp10 : Int16

/-- The parsing part of `do_receive`. The name is read as a C string: up to the
first NUL, which may lie behind the name field, or even behind the structure in
the memory `beyond` it. -/
def parseTelemetry (datagram beyond : Bytes) : Option Telemetry :=
  if datagram.length < telemetrySize then none
  else
    let t := datagram.take telemetrySize
    some
      { uri := (t ++ beyond).takeWhile fun b => b ≠ 0
        zoneId := fromBe32 (load32 t 48)
        lux := fromBe16 (load16 t 52)
        motion := byteAt t 54
        temp10 := (fromBe16 (load16 t 55)).toInt16 }

/-- The state that `do_receive` stores after `get` returned `got`. -/
def telemetryState (t : Telemetry) (nowMs : UInt64) (got : Option DeviceState) : DeviceState :=
  match got with
  | some st => { st with type := .sensor, zoneId := t.zoneId, lastSeenMs := nowMs }
  | none => ⟨.sensor, t.zoneId, 0, 0, 0, false, nowMs⟩

/-- Telemetry stores a sensor that was just heard, with the fault that was known. -/
theorem telemetryState_spec (t : Telemetry) (nowMs : UInt64) (got : Option DeviceState) :
    (telemetryState t nowMs got).type = .sensor ∧
      (telemetryState t nowMs got).lastSeenMs = nowMs ∧
      (telemetryState t nowMs got).fault = got.elim false fun old => old.fault := by
  cases got <;> exact ⟨rfl, rfl, rfl⟩

end SmartLighting
