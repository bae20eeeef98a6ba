import SmartLighting.Proto
import SmartLighting.Telemetry
import Mathlib.Tactic.IntervalCases

/-!
# Framing on a TLS stream

`framed_tls.hpp` sends a message as its length, its type byte and its payload.
The length counts the type byte, and is cast to 32 bits without a check. The
central server reads the length first and refuses what its limits exclude.
-/

namespace SmartLighting

/-- A 32-bit word as a little-endian host stores it. -/
def store32 (x : UInt32) : Bytes :=
  [x.toUInt8, (x >>> 8).toUInt8, (x >>> 16).toUInt8, (x >>> 24).toUInt8]

/-- `async_write_frame`: the bytes that are written. -/
def frame (type : MsgType) (payload : Bytes) : Bytes :=
  let len : UInt32 := (1 + payload.length).toUInt32
  store32 (toBe32 len) ++ [type.code] ++ payload

/-- `body_len_`, computed from the four bytes of `hdr_`. -/
def bodyLen (hdr : Bytes) : UInt32 := fromBe32 (load32 hdr 0)

/-- The test of `CentralSession::read_header`. -/
def AcceptsLength (len : UInt32) : Prop := ¬(len < 1 ∨ len > 1024 * 1024)

instance (len : UInt32) : Decidable (AcceptsLength len) := inferInstanceAs (Decidable (¬_))

/-- `read_header` and `read_body` of `CentralSession`: the next body and what
follows it, unless the stream ends or the length is refused. -/
def readFrame (stream : Bytes) : Option (Bytes × Bytes) :=
  if stream.length < 4 then none
  else
    let len := bodyLen (stream.take 4)
    if AcceptsLength len then
      let rest := stream.drop 4
      if rest.length < len.toNat then none
      else some (rest.take len.toNat, rest.drop len.toNat)
    else none

/-- A stored word is loaded again. -/
theorem load32_store32 (x : UInt32) : load32 (store32 x) 0 = x := by
  change x.toUInt8.toUInt32 ||| ((x >>> 8).toUInt8.toUInt32 <<< 8) |||
    ((x >>> 16).toUInt8.toUInt32 <<< 16) ||| ((x >>> 24).toUInt8.toUInt32 <<< 24) = x
  apply UInt32.eq_of_toBitVec_eq
  apply BitVec.eq_of_getLsbD_eq
  intro i hi
  simp only [UInt32.toBitVec_or, UInt32.toBitVec_shiftLeft, UInt8.toBitVec_toUInt32,
    UInt32.toBitVec_toUInt8, UInt32.toBitVec_shiftRight, BitVec.getLsbD_or]
  interval_cases i <;> simp

/-- Swapping the bytes of a word twice restores it. -/
theorem toBe32_toBe32 (x : UInt32) : toBe32 (toBe32 x) = x := by
  unfold toBe32
  apply UInt32.eq_of_toBitVec_eq
  apply BitVec.eq_of_getLsbD_eq
  intro i hi
  interval_cases i <;> simp

/-- The receiver recovers the length that the sender computed. -/
theorem bodyLen_store32 (len : UInt32) : bodyLen (store32 (toBe32 len)) = len := by
  rw [bodyLen, load32_store32, fromBe32, toBe32_toBe32]

variable {type : MsgType} {payload rest : Bytes}

/-- The length of a frame below 4 GiB is the length of its body. -/
theorem toNat_frameLength (h : payload.length < 4294967295) :
    (1 + payload.length).toUInt32.toNat = 1 + payload.length := by
  rw [Nat.toUInt32, UInt32.toNat_ofNat']
  exact Nat.mod_eq_of_lt (by omega)

/-- The limits of the central server, as numbers. -/
theorem acceptsLength_iff_toNat {len : UInt32} :
    AcceptsLength len ↔ 1 ≤ len.toNat ∧ len.toNat ≤ 1048576 := by
  unfold AcceptsLength
  rw [UInt32.lt_iff_toNat_lt, gt_iff_lt, UInt32.lt_iff_toNat_lt]
  have hone : (1 : UInt32).toNat = 1 := by decide
  have hmax : (1024 * 1024 : UInt32).toNat = 1048576 := by decide
  rw [hone, hmax]
  omega

/-- The limits of the central server, for a frame below 4 GiB. -/
theorem acceptsLength_iff (h : payload.length < 4294967295) :
    AcceptsLength (1 + payload.length).toUInt32 ↔ 1 + payload.length ≤ 1048576 := by
  rw [acceptsLength_iff_toNat, toNat_frameLength h]
  omega

/-- The central server reads the header of a frame. -/
theorem readFrame_frame_eq :
    readFrame (frame type payload ++ rest) =
      let len := (1 + payload.length).toUInt32
      let body := type.code :: payload ++ rest
      if AcceptsLength len then
        if body.length < len.toNat then none
        else some (body.take len.toNat, body.drop len.toNat)
      else none := by
  unfold readFrame
  have hlength : ¬(frame type payload ++ rest).length < 4 := by simp [frame, store32]
  rw [if_neg hlength]
  have hhdr : (frame type payload ++ rest).take 4 =
      store32 (toBe32 (1 + payload.length).toUInt32) := rfl
  have hbody : (frame type payload ++ rest).drop 4 = type.code :: payload ++ rest := rfl
  rw [hhdr, hbody, bodyLen_store32]

/-- A frame within the limits arrives. -/
theorem readFrame_frame (h : 1 + payload.length ≤ 1048576) :
    readFrame (frame type payload ++ rest) = some (type.code :: payload, rest) := by
  have hsmall : payload.length < 4294967295 := by omega
  have hlen := toNat_frameLength hsmall
  have hfits : ¬(type.code :: payload ++ rest).length < 1 + payload.length := by
    simp only [List.length_append, List.length_cons]
    omega
  have hbody : (type.code :: payload).length = 1 + payload.length := by
    rw [List.length_cons, Nat.add_comm]
  rw [readFrame_frame_eq]
  simp only [if_pos ((acceptsLength_iff hsmall).mpr h), hlen, if_neg hfits]
  rw [← hbody, List.take_left, List.drop_left]

/-- A longer frame is refused. -/
theorem readFrame_frame_refused (h : ¬1 + payload.length ≤ 1048576)
    (hsmall : payload.length < 4294967295) : readFrame (frame type payload ++ rest) = none := by
  have hrefused : ¬AcceptsLength (1 + payload.length).toUInt32 :=
    fun haccepts => h ((acceptsLength_iff hsmall).mp haccepts)
  rw [readFrame_frame_eq]
  simp only [if_neg hrefused]

end SmartLighting
