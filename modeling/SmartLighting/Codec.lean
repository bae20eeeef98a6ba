import SmartLighting.Library.Formats
import SmartLighting.Proto
import Mathlib.Tactic.IntervalCases

/-!
# The message codecs are exact

A decoder recovers every message that its encoder produced. The word codecs are
settled first; a message codec is a sequence of word and string codecs, so its
exactness is composed from theirs.
-/

namespace SmartLighting

open Reader

private theorem and_255 (n : ℕ) : n &&& 255 = n % 256 := Nat.and_two_pow_sub_one_eq_mod n 8

/-- Two bytes combine to a 16-bit word. -/
private theorem combine16 {b1 b0 : ℕ} (h1 : b1 < 256) (h0 : b0 < 256) :
    b1 <<< 8 % 65536 ||| b0 = b1 * 256 + b0 := by
  have hfit : b1 <<< 8 < 65536 := by rw [Nat.shiftLeft_eq]; omega
  rw [Nat.mod_eq_of_lt hfit, ← Nat.shiftLeft_add_eq_or_of_lt (by omega), Nat.shiftLeft_eq]

/-- Four bytes combine to a 32-bit word. -/
private theorem combine32 {b3 b2 b1 b0 : ℕ} (h3 : b3 < 256) (h2 : b2 < 256) (h1 : b1 < 256)
    (h0 : b0 < 256) :
    b3 <<< 24 % 4294967296 ||| b2 <<< 16 % 4294967296 ||| b1 <<< 8 % 4294967296 ||| b0 =
      b3 * 16777216 + (b2 * 65536 + (b1 * 256 + b0)) := by
  have hfit3 : b3 <<< 24 < 4294967296 := by rw [Nat.shiftLeft_eq]; omega
  have hfit2 : b2 <<< 16 < 4294967296 := by rw [Nat.shiftLeft_eq]; omega
  have hfit1 : b1 <<< 8 < 4294967296 := by rw [Nat.shiftLeft_eq]; omega
  have hlow : b1 <<< 8 + b0 < 2 ^ 16 := by rw [Nat.shiftLeft_eq]; omega
  have hmiddle : b2 <<< 16 + (b1 <<< 8 + b0) < 2 ^ 24 := by rw [Nat.shiftLeft_eq]; omega
  rw [Nat.mod_eq_of_lt hfit3, Nat.mod_eq_of_lt hfit2, Nat.mod_eq_of_lt hfit1, Nat.or_assoc,
    Nat.or_assoc, ← Nat.shiftLeft_add_eq_or_of_lt (i := 8) h0,
    ← Nat.shiftLeft_add_eq_or_of_lt hlow, ← Nat.shiftLeft_add_eq_or_of_lt hmiddle]
  simp only [Nat.shiftLeft_eq, Nat.reducePow]

/-- A 16-bit word is recovered from its two bytes. -/
theorem word16_of_bytes (v : UInt16) :
    (((v >>> 8) &&& 0xFF).toUInt8.toUInt16 <<< 8) ||| (v &&& 0xFF).toUInt8.toUInt16 = v := by
  apply UInt16.toNat_inj.mp
  have hlt := v.toNat_lt
  simp only [UInt16.toNat_or, UInt16.toNat_shiftLeft, UInt8.toNat_toUInt16, UInt16.toNat_toUInt8,
    UInt16.toNat_and, UInt16.toNat_shiftRight, UInt16.reduceToNat, and_255, Nat.reduceMod,
    Nat.shiftRight_eq_div_pow, Nat.reducePow, Nat.mod_mod]
  rw [combine16 (Nat.mod_lt _ (by decide)) (Nat.mod_lt _ (by decide))]
  omega

/-- A 32-bit word is recovered from its four bytes. -/
theorem word32_of_bytes (v : UInt32) :
    (((v >>> 24) &&& 0xFF).toUInt8.toUInt32 <<< 24) |||
      (((v >>> 16) &&& 0xFF).toUInt8.toUInt32 <<< 16) |||
      (((v >>> 8) &&& 0xFF).toUInt8.toUInt32 <<< 8) ||| (v &&& 0xFF).toUInt8.toUInt32 = v := by
  apply UInt32.toNat_inj.mp
  have hlt := v.toNat_lt
  simp only [UInt32.toNat_or, UInt32.toNat_shiftLeft, UInt8.toNat_toUInt32, UInt32.toNat_toUInt8,
    UInt32.toNat_and, UInt32.toNat_shiftRight, UInt32.reduceToNat, and_255, Nat.reduceMod,
    Nat.shiftRight_eq_div_pow, Nat.reducePow, Nat.mod_mod]
  rw [combine32 (Nat.mod_lt _ (by decide)) (Nat.mod_lt _ (by decide)) (Nat.mod_lt _ (by decide))
    (Nat.mod_lt _ (by decide))]
  omega

/-! ## Words and strings -/

/-- The wire form of a 16-bit word. -/
def u16Bytes (v : UInt16) : Bytes := putU16 [] v

/-- The wire form of a 32-bit word. -/
def u32Bytes (v : UInt32) : Bytes := putU32 [] v

/-- The wire form of a string: its length and its bytes. -/
def strBytes (s : Bytes) : Bytes := u16Bytes s.length.toUInt16 ++ s

theorem putU8_eq (b : Bytes) (v : UInt8) : putU8 b v = b ++ [v] := rfl

theorem putU16_eq (b : Bytes) (v : UInt16) : putU16 b v = b ++ u16Bytes v := rfl

theorem putU32_eq (b : Bytes) (v : UInt32) : putU32 b v = b ++ u32Bytes v := rfl

theorem getU8_exact (v : UInt8) : Exact getU8 [v] v := fun _ => rfl

theorem getU16_exact (v : UInt16) : Exact getU16 (u16Bytes v) v := by
  intro rest
  change Except.ok (_, rest) = _
  rw [word16_of_bytes]

theorem getU32_exact (v : UInt32) : Exact getU32 (u32Bytes v) v := by
  intro rest
  change Except.ok (_, rest) = _
  rw [word32_of_bytes]

/-- Bytes with the same bits are equal. -/
theorem byte_eq_of_bits {a b : UInt8}
    (h : ∀ i < 8, a.toBitVec.getLsbD i = b.toBitVec.getLsbD i) : a = b :=
  UInt8.eq_of_toBitVec_eq (BitVec.eq_of_getLsbD_eq h)

/-- The bytes of a word that was combined from two bytes. -/
theorem u16Bytes_combine (b0 b1 : UInt8) :
    u16Bytes ((b0.toUInt16 <<< 8) ||| b1.toUInt16) = [b0, b1] := by
  simp only [u16Bytes, putU16, List.nil_append, List.cons.injEq, and_true]
  constructor
  all_goals
    apply byte_eq_of_bits
    intro i hi
    interval_cases i <;> simp

/-- The bytes of a word that was combined from four bytes. -/
theorem u32Bytes_combine (b0 b1 b2 b3 : UInt8) :
    u32Bytes ((b0.toUInt32 <<< 24) ||| (b1.toUInt32 <<< 16) ||| (b2.toUInt32 <<< 8) |||
      b3.toUInt32) = [b0, b1, b2, b3] := by
  simp only [u32Bytes, putU32, List.nil_append, List.cons.injEq, and_true]
  refine ⟨?_, ?_, ?_, ?_⟩
  all_goals
    apply byte_eq_of_bits
    intro i hi
    interval_cases i <;> simp

theorem getU8_consumes : Consumes getU8 fun v b => b = [v] := by
  intro input v rest hrun
  cases input with
  | nil => cases hrun
  | cons b0 input =>
    cases hrun
    exact ⟨[v], rfl, rfl⟩

theorem getU16_consumes : Consumes getU16 fun v b => b = u16Bytes v := by
  intro input v rest hrun
  match input, hrun with
  | b0 :: b1 :: input, hrun =>
    cases hrun
    exact ⟨[b0, b1], rfl, (u16Bytes_combine b0 b1).symm⟩

theorem getU32_consumes : Consumes getU32 fun v b => b = u32Bytes v := by
  intro input v rest hrun
  match input, hrun with
  | b0 :: b1 :: b2 :: b3 :: input, hrun =>
    cases hrun
    exact ⟨[b0, b1, b2, b3], rfl, (u32Bytes_combine b0 b1 b2 b3).symm⟩

/-- Appending a string succeeds exactly when its length fits the prefix. -/
theorem putStr_eq_ok {b s c : Bytes} :
    putStr b s = .ok c ↔ s.length ≤ 65535 ∧ c = b ++ strBytes s := by
  unfold putStr
  split
  · next h => simp only [reduceCtorEq, false_iff, not_and]; omega
  · next h =>
    have hle : s.length ≤ 65535 := by omega
    rw [Except.ok.injEq, putU16_eq, List.append_assoc, eq_comm]
    exact (and_iff_right hle).symm

/-- An encoder that appends a string continues exactly when the string fits. -/
theorem bind_putStr_eq_ok {b s c : Bytes} {next : Bytes → Except String Bytes} :
    (putStr b s >>= next) = .ok c ↔ s.length ≤ 65535 ∧ next (b ++ strBytes s) = .ok c := by
  cases hput : putStr b s with
  | error e =>
    have hlong : ¬s.length ≤ 65535 := fun h => by
      have hok := putStr_eq_ok.mpr (⟨h, rfl⟩ : s.length ≤ 65535 ∧ b ++ strBytes s = b ++ strBytes s)
      rw [hput] at hok
      cases hok
    simp only [Bind.bind, Except.bind, reduceCtorEq, hlong, false_and]
  | ok d =>
    obtain ⟨hle, rfl⟩ := putStr_eq_ok.mp hput
    simp only [Bind.bind, Except.bind, hle, true_and]

theorem getStr_exact {s : Bytes} (h : s.length ≤ 65535) : Exact getStr (strBytes s) s := by
  have hlength : s.length.toUInt16.toNat = s.length := by
    rw [Nat.toUInt16, UInt16.toNat_ofNat']
    exact Nat.mod_eq_of_lt (by omega)
  apply Exact.bind (getU16_exact _)
  intro rest
  simp [StateT.run, hlength]

/-- A string is taken with its length, which it has. -/
theorem getStr_consumes : Consumes getStr fun s b => s.length ≤ 65535 ∧ b = strBytes s := by
  refine getU16_consumes.bind fun n first hfirst input s rest hrun => ?_
  have hlt := n.toNat_lt
  change (if n.toNat > input.length then _ else _) = _ at hrun
  split at hrun
  · cases hrun
  · next hfits =>
    cases hrun
    have hlength : (input.take n.toNat).length = n.toNat := by
      rw [List.length_take]
      omega
    refine ⟨input.take n.toNat, (List.take_append_drop n.toNat input).symm, by omega, ?_⟩
    rw [hfirst, strBytes, hlength, Nat.toUInt16_eq, UInt16.ofNat_toNat]

/-! ## Messages

For each message: the bytes its encoder produces, which exist exactly when its
strings fit, and the exactness of its decoder on them. -/

theorem encodeRegisterReq_eq_ok {r : RegisterReq} {b : Bytes} :
    encodeRegisterReq r = .ok b ↔ r.uri.length ≤ 65535 ∧
      [r.type.code] ++ (strBytes r.uri ++ u32Bytes r.zoneId) = b := by
  simp only [encodeRegisterReq, bind_putStr_eq_ok, pure, Except.pure, Except.ok.injEq, putU32_eq,
    putU8_eq, List.nil_append, List.append_assoc]

theorem decodeRegisterReq_exact {r : RegisterReq} {b : Bytes} (h : encodeRegisterReq r = .ok b) :
    Exact decodeRegisterReq b r := by
  obtain ⟨huri, rfl⟩ := encodeRegisterReq_eq_ok.mp h
  exact (getU8_exact _).bind ((getStr_exact huri).bind ((getU32_exact _).bind (.pure _)))

theorem encodeStatusReport_eq_ok {s : StatusReport} {b : Bytes} :
    encodeStatusReport s = .ok b ↔ s.uri.length ≤ 65535 ∧
      strBytes s.uri ++ (u32Bytes s.zoneId ++ ([s.on] ++ ([s.intensity] ++ u32Bytes s.powerMw))) =
        b := by
  simp only [encodeStatusReport, bind_putStr_eq_ok, pure, Except.pure, Except.ok.injEq, putU32_eq,
    putU8_eq, List.nil_append, List.append_assoc]

theorem decodeStatusReport_exact {s : StatusReport} {b : Bytes}
    (h : encodeStatusReport s = .ok b) : Exact decodeStatusReport b s := by
  obtain ⟨huri, rfl⟩ := encodeStatusReport_eq_ok.mp h
  exact (getStr_exact huri).bind ((getU32_exact _).bind ((getU8_exact _).bind
    ((getU8_exact _).bind ((getU32_exact _).bind (.pure _)))))

theorem encodeCommand_eq_ok {c : Command} {b : Bytes} :
    encodeCommand c = .ok b ↔ c.uri.length ≤ 65535 ∧
      strBytes c.uri ++ ([c.cmd] ++ [c.value]) = b := by
  simp only [encodeCommand, bind_putStr_eq_ok, pure, Except.pure, Except.ok.injEq, putU8_eq,
    List.nil_append, List.append_assoc]

/-- A command whose name fits its length field can be encoded. -/
theorem encodeCommand_of_fits {c : Command} (h : c.uri.length ≤ 65535) :
    ∃ b, encodeCommand c = .ok b :=
  ⟨_, encodeCommand_eq_ok.mpr ⟨h, rfl⟩⟩

theorem decodeCommand_exact {c : Command} {b : Bytes} (h : encodeCommand c = .ok b) :
    Exact decodeCommand b c := by
  obtain ⟨huri, rfl⟩ := encodeCommand_eq_ok.mp h
  exact (getStr_exact huri).bind ((getU8_exact _).bind ((getU8_exact _).bind (.pure _)))

theorem encodeFaultReport_eq_ok {f : FaultReport} {b : Bytes} :
    encodeFaultReport f = .ok b ↔ f.uri.length ≤ 65535 ∧ f.text.length ≤ 65535 ∧
      strBytes f.uri ++ (u32Bytes f.zoneId ++ ([f.code] ++ strBytes f.text)) = b := by
  simp only [encodeFaultReport, bind_putStr_eq_ok, putStr_eq_ok, putU32_eq, putU8_eq,
    List.nil_append, List.append_assoc, eq_comm (a := b)]

theorem decodeFaultReport_exact {f : FaultReport} {b : Bytes} (h : encodeFaultReport f = .ok b) :
    Exact decodeFaultReport b f := by
  obtain ⟨huri, htext, rfl⟩ := encodeFaultReport_eq_ok.mp h
  exact (getStr_exact huri).bind ((getU32_exact _).bind ((getU8_exact _).bind
    ((getStr_exact htext).bind_pure _)))

/-! ## What the decoders can return -/

/-- A decoded string fits its length prefix. -/
theorem getStr_yields : Yields getStr fun s => s.length ≤ 65535 :=
  getStr_consumes.yields fun _ _ h => h.1

/-- The string of a decoded registration fits its length prefix. -/
theorem decodeRegisterReq_yields : Yields decodeRegisterReq fun r => r.uri.length ≤ 65535 :=
  .bind .trivial fun _ _ => getStr_yields.bind fun _ huri => .bind .trivial fun _ _ => .pure huri

/-- The string of a decoded status report fits its length prefix. -/
theorem decodeStatusReport_yields : Yields decodeStatusReport fun s => s.uri.length ≤ 65535 :=
  getStr_yields.bind fun _ huri => .bind .trivial fun _ _ => .bind .trivial fun _ _ =>
    .bind .trivial fun _ _ => .bind .trivial fun _ _ => .pure huri

/-- The strings of a decoded fault report fit their length prefixes. -/
theorem decodeFaultReport_yields :
    Yields decodeFaultReport fun f => f.uri.length ≤ 65535 ∧ f.text.length ≤ 65535 :=
  getStr_yields.bind fun _ huri => .bind .trivial fun _ _ => .bind .trivial fun _ _ =>
    getStr_yields.bind fun _ htext => .pure ⟨huri, htext⟩

end SmartLighting
