import SmartLighting.Codec
import SmartLighting.SendQueue

/-!
# Messages of a device

The three messages that a device sends to its region. `ofBody` is what
`DeviceSession::on_message` finds in the body of a frame; it recovers every
message that a device was able to encode.
-/

namespace SmartLighting

open Reader

/-- A message that a device sends to its region. -/
inductive DeviceMessage
  | register (req : RegisterReq)
  | status (report : StatusReport)
  | fault (report : FaultReport)
  deriving DecidableEq

namespace DeviceMessage

/-- The frame of a message. Encoding throws when a string is too long. -/
def encode : DeviceMessage → Except String OutMsg
  | register req => do return ⟨.registerReq, ← encodeRegisterReq req⟩
  | status report => do return ⟨.statusReport, ← encodeStatusReport report⟩
  | fault report => do return ⟨.faultReport, ← encodeFaultReport report⟩

/-- The body of the frame of a message, and no bytes where there is no frame. -/
def body (m : DeviceMessage) : Bytes := m.encode.toOption.elim [] OutMsg.body

/-- The message in a body, if `on_message` finds one. -/
def ofBody : Bytes → Option DeviceMessage
  | [] => none
  | code :: p =>
    let t : MsgType := ⟨code⟩
    if t = .registerReq then
      (decode decodeRegisterReq p).toOption.map .register
    else if t = .statusReport then
      (decode decodeStatusReport p).toOption.map .status
    else if t = .faultReport then
      (decode decodeFaultReport p).toOption.map .fault
    else none

/-- A frame exists when its payload does. -/
private theorem frame_eq_ok {x : Except String Bytes} {type : MsgType} {out : OutMsg}
    (h : (do return ⟨type, ← x⟩ : Except String OutMsg) = .ok out) :
    ∃ payload, x = .ok payload ∧ out = ⟨type, payload⟩ := by
  cases x with
  | error message => cases h
  | ok payload => exact ⟨payload, rfl, (Except.ok.inj h).symm⟩

/-- Every encoded message is found again. -/
theorem ofBody_encode {m : DeviceMessage} {out : OutMsg} (h : m.encode = .ok out) :
    ofBody out.body = some m := by
  cases m with
  | register req =>
    obtain ⟨payload, hpayload, rfl⟩ := frame_eq_ok h
    simp only [OutMsg.body, ofBody, if_true, (decodeRegisterReq_exact hpayload).decode_eq]
    rfl
  | status report =>
    obtain ⟨payload, hpayload, rfl⟩ := frame_eq_ok h
    have hother : MsgType.statusReport ≠ .registerReq := by decide
    simp only [OutMsg.body, ofBody, if_neg hother, if_true,
      (decodeStatusReport_exact hpayload).decode_eq]
    rfl
  | fault report =>
    obtain ⟨payload, hpayload, rfl⟩ := frame_eq_ok h
    have hother : MsgType.faultReport ≠ .registerReq ∧ MsgType.faultReport ≠ .statusReport := by
      decide
    simp only [OutMsg.body, ofBody, if_neg hother.1, if_neg hother.2, if_true,
      (decodeFaultReport_exact hpayload).decode_eq]
    rfl

/-- The strings of a message fit their length prefixes. -/
def Fits : DeviceMessage → Prop
  | register req => req.uri.length ≤ 65535
  | status report => report.uri.length ≤ 65535
  | fault report => report.uri.length ≤ 65535 ∧ report.text.length ≤ 65535

/-- Every message that is found in a body fits. -/
theorem fits_of_ofBody {body : Bytes} {m : DeviceMessage} (h : ofBody body = some m) :
    m.Fits := by
  unfold ofBody at h
  split at h
  · cases h
  · dsimp only at h
    split at h
    · obtain ⟨req, hreq, rfl⟩ := Option.map_eq_some_iff.mp h
      exact decodeRegisterReq_yields.of_toOption hreq
    split at h
    · obtain ⟨report, hreport, rfl⟩ := Option.map_eq_some_iff.mp h
      exact decodeStatusReport_yields.of_toOption hreport
    split at h
    · obtain ⟨report, hreport, rfl⟩ := Option.map_eq_some_iff.mp h
      exact decodeFaultReport_yields.of_toOption hreport
    · cases h

end DeviceMessage

end SmartLighting
