import SmartLighting.CentralProto

/-!
# The formats of the messages

The codecs of `proto.hpp` are separate sequences of puts and gets. The decoders
are exact on what the encoders write; here the converse is shown, that a decoder
takes nothing but what its encoder writes. The words are settled first, and a
message is composed from them.
-/

namespace SmartLighting

open Reader

/-! ## Messages

For each message: what its decoder takes is what its encoder writes for the
decoded value. -/

theorem registerReq_format : Format encodeRegisterReq decodeRegisterReq where
  exact r b hb := decodeRegisterReq_exact hb
  consumes := by
    refine getU8_consumes.bind fun type b1 h1 => getStr_consumes.bind fun uri b2 h2 =>
      getU32_consumes.bind_pure fun zoneId b3 h3 => ?_
    rw [h1, h2.2, h3]
    exact encodeRegisterReq_eq_ok.mpr ⟨h2.1, rfl⟩

theorem statusReport_format : Format encodeStatusReport decodeStatusReport where
  exact s b hb := decodeStatusReport_exact hb
  consumes := by
    refine getStr_consumes.bind fun uri b1 h1 => getU32_consumes.bind fun zoneId b2 h2 =>
      getU8_consumes.bind fun on b3 h3 => getU8_consumes.bind fun intensity b4 h4 =>
      getU32_consumes.bind_pure fun powerMw b5 h5 => ?_
    rw [h1.2, h2, h3, h4, h5]
    exact encodeStatusReport_eq_ok.mpr ⟨h1.1, rfl⟩

theorem command_format : Format encodeCommand decodeCommand where
  exact c b hb := decodeCommand_exact hb
  consumes := by
    refine getStr_consumes.bind fun uri b1 h1 => getU8_consumes.bind fun cmd b2 h2 =>
      getU8_consumes.bind_pure fun value b3 h3 => ?_
    rw [h1.2, h2, h3]
    exact encodeCommand_eq_ok.mpr ⟨h1.1, rfl⟩

theorem faultReport_format : Format encodeFaultReport decodeFaultReport where
  exact f b hb := decodeFaultReport_exact hb
  consumes := by
    refine getStr_consumes.bind fun uri b1 h1 => getU32_consumes.bind fun zoneId b2 h2 =>
      getU8_consumes.bind fun code b3 h3 => getStr_consumes.bind_pure fun text b4 h4 => ?_
    rw [h1.2, h2, h3, h4.2]
    exact encodeFaultReport_eq_ok.mpr ⟨h1.1, h4.1, rfl⟩

theorem alarmUp_format : Format encodeAlarmUp decodeAlarmUp where
  exact a b hb := decodeAlarmUp_exact hb
  consumes := by
    refine getU32_consumes.bind fun regionId b1 h1 => getU32_consumes.bind fun tsUnix b2 h2 =>
      getU8_consumes.bind fun deviceType b3 h3 => getU32_consumes.bind fun zoneId b4 h4 =>
      getU8_consumes.bind fun code b5 h5 => getStr_consumes.bind fun uri b6 h6 =>
      getStr_consumes.bind_pure fun text b7 h7 => ?_
    rw [h1, h2, h3, h4, h5, h6.2, h7.2]
    exact encodeAlarmUp_eq_ok.mpr ⟨h6.1, h7.1, rfl⟩

/-- The messages that carry strings are self-delimiting: each encoder throws exactly on a string
that is longer than 65535 bytes. -/
theorem messages_selfDelimiting :
    SelfDelimiting encodeRegisterReq decodeRegisterReq (fun r => r.uri.length ≤ 65535) ∧
    SelfDelimiting encodeStatusReport decodeStatusReport (fun s => s.uri.length ≤ 65535) ∧
    SelfDelimiting encodeCommand decodeCommand (fun c => c.uri.length ≤ 65535) ∧
    SelfDelimiting encodeFaultReport decodeFaultReport
      (fun f => f.uri.length ≤ 65535 ∧ f.text.length ≤ 65535) ∧
    SelfDelimiting encodeAlarmUp decodeAlarmUp
      (fun a => a.uri.length ≤ 65535 ∧ a.text.length ≤ 65535) := by
  refine ⟨registerReq_format.selfDelimiting fun r => ?_,
    statusReport_format.selfDelimiting fun s => ?_, command_format.selfDelimiting fun c => ?_,
    faultReport_format.selfDelimiting fun f => ?_, alarmUp_format.selfDelimiting fun a => ?_⟩
  · simp only [encodeRegisterReq_eq_ok, exists_and_left, exists_eq', and_true]
  · simp only [encodeStatusReport_eq_ok, exists_and_left, exists_eq', and_true]
  · simp only [encodeCommand_eq_ok, exists_and_left, exists_eq', and_true]
  · simp only [encodeFaultReport_eq_ok, exists_and_left, exists_eq', and_true]
  · simp only [encodeAlarmUp_eq_ok, exists_and_left, exists_eq', and_true]

end SmartLighting
