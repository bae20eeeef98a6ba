import SmartLighting.MessageFormats

/-!
# The format of a synchronization

`encode_region_sync_up` writes two counted lists. Its decoder takes a body that
ends after the first list as one of the old format, without summaries. This is
the only strict prefix of an encoding that is accepted, and what is accepted is
either an encoding, with more bytes behind it, or such a body.
-/

namespace SmartLighting

open Reader

namespace RegionSyncUp

/-- The synchronization as the old format has it. -/
def withoutDevices (s : RegionSyncUp) : RegionSyncUp := { s with zoneDeviceSummary := [] }

/-- The part of the encoding that ends right after the power list. -/
def powerBytes (s : RegionSyncUp) : Bytes :=
  u32Bytes s.regionId ++ (u32Bytes s.version ++
    (u16Bytes s.zonePowerSum.length.toUInt16 ++ s.zonePowerSum.flatMap zonePowerBytes))

/-- The part of the encoding that follows the power list. -/
def deviceBytes (s : RegionSyncUp) : Bytes :=
  u16Bytes s.zoneDeviceSummary.length.toUInt16 ++ s.zoneDeviceSummary.flatMap zoneSummaryBytes

end RegionSyncUp

open RegionSyncUp

/-- The part of the decoder up to the end of the power list. -/
def getPowers : Reader RegionSyncUp := do
  let regionId ← getU32
  let version ← getU32
  let cnt ← getU16
  let zonePowerSum ← times cnt.toNat getZonePower
  return ⟨regionId, version, zonePowerSum, []⟩

/-- The part of the decoder that follows the power list. -/
def getDevices (s : RegionSyncUp) : Reader RegionSyncUp := do
  let scnt ← getU16
  let zoneDeviceSummary ← times scnt.toNat getZoneDeviceSummary
  return { s with zoneDeviceSummary := zoneDeviceSummary }

/-- The decoder after the power list: a body may end here. -/
def getDevicesIfAny (s : RegionSyncUp) : Reader RegionSyncUp := do
  if (← get) = [] then return s else getDevices s

variable {s : RegionSyncUp} {input rest p : Bytes}

theorem encodeRegionSyncUp_split (s : RegionSyncUp) :
    encodeRegionSyncUp s = s.powerBytes ++ s.deviceBytes := by
  simp only [encodeRegionSyncUp_eq, powerBytes, deviceBytes, List.append_assoc]

theorem decodeRegionSyncUp_split :
    decodeRegionSyncUp = getPowers >>= getDevicesIfAny := by
  simp only [decodeRegionSyncUp, getPowers, getDevicesIfAny, getDevices, bind_assoc, pure_bind]

theorem length_powerBytes (s : RegionSyncUp) :
    s.powerBytes.length = 10 + 8 * s.zonePowerSum.length := by
  have hlength := length_encodeRegionSyncUp s.withoutDevices
  rw [encodeRegionSyncUp_split, List.length_append] at hlength
  have hpower : s.withoutDevices.powerBytes.length = s.powerBytes.length := rfl
  have hdevices : s.withoutDevices.deviceBytes.length = 2 := rfl
  have hzones : s.withoutDevices.zonePowerSum.length = s.zonePowerSum.length := rfl
  have hempty : s.withoutDevices.zoneDeviceSummary.length = 0 := rfl
  omega

/-! ## What the two parts take -/

theorem getZonePower_consumes : Consumes getZonePower fun zp b => b = zonePowerBytes zp := by
  refine getU32_consumes.bind fun z b1 h1 => getU32_consumes.bind_pure fun pw b2 h2 => ?_
  rw [h1, h2]
  rfl

theorem getZoneDeviceSummary_consumes :
    Consumes getZoneDeviceSummary fun zs b => b = zoneSummaryBytes zs := by
  refine getU32_consumes.bind fun z b1 h1 => getU16_consumes.bind fun lampTotal b2 h2 =>
    getU16_consumes.bind fun lampOn b3 h3 => getU16_consumes.bind fun lampFault b4 h4 =>
    getU16_consumes.bind fun sensorTotal b5 h5 =>
    getU16_consumes.bind_pure fun sensorFault b6 h6 => ?_
  rw [h1, h2, h3, h4, h5, h6]
  rfl

/-- A count that was read is the count of as many elements. -/
private theorem count_eq {n : UInt16} {l : ℕ} (h : l = n.toNat) :
    l ≤ 65535 ∧ l.toUInt16 = n := by
  have hlt := n.toNat_lt
  constructor
  · omega
  · rw [h, Nat.toUInt16_eq, UInt16.ofNat_toNat]

theorem getPowers_exact (h : s.zonePowerSum.length ≤ 65535) :
    Exact getPowers s.powerBytes s.withoutDevices := by
  have hzones : Exact (times s.zonePowerSum.length.toUInt16.toNat getZonePower)
      (s.zonePowerSum.flatMap zonePowerBytes) s.zonePowerSum := by
    rw [toNat_toUInt16 h]
    exact .times fun zp _ => getZonePower_exact zp
  exact (getU32_exact _).bind ((getU32_exact _).bind ((getU16_exact _).bind
    (hzones.bind_pure _)))

theorem getPowers_consumes : Consumes getPowers fun s b =>
    b = s.powerBytes ∧ s.zonePowerSum.length ≤ 65535 ∧ s.zoneDeviceSummary = [] := by
  refine getU32_consumes.bind fun regionId b1 h1 => getU32_consumes.bind fun version b2 h2 =>
    getU16_consumes.bind fun cnt b3 h3 =>
    (getZonePower_consumes.times cnt.toNat).bind_pure fun power b4 h4 => ?_
  obtain ⟨hle, hcnt⟩ := count_eq h4.1
  refine ⟨?_, hle, rfl⟩
  rw [h1, h2, h3, h4.2, powerBytes, hcnt]

theorem getDevices_consumes : Consumes (getDevices s) fun t b =>
    b = t.deviceBytes ∧ t.zoneDeviceSummary.length ≤ 65535 ∧
      t.withoutDevices = s.withoutDevices := by
  refine getU16_consumes.bind fun scnt b1 h1 =>
    (getZoneDeviceSummary_consumes.times scnt.toNat).bind_pure fun devices b2 h2 => ?_
  obtain ⟨hle, hcnt⟩ := count_eq h2.1
  refine ⟨?_, hle, rfl⟩
  rw [h1, h2.2, deviceBytes, hcnt]

/-! ## What the decoder accepts -/

/-- An accepted input is an encoding with something behind it, or it ends right after the power
list. -/
theorem decodeRegionSyncUp_cases (h : decodeRegionSyncUp.run input = .ok (s, rest)) :
    (input = s.powerBytes ∧ s.zonePowerSum.length ≤ 65535 ∧ s.zoneDeviceSummary = []) ∨
    (input = encodeRegionSyncUp s ++ rest ∧ s.zonePowerSum.length ≤ 65535 ∧
      s.zoneDeviceSummary.length ≤ 65535) := by
  rw [decodeRegionSyncUp_split] at h
  obtain ⟨s', middle, hpowers, htail⟩ := run_bind_eq_ok.mp h
  obtain ⟨used, rfl, rfl, hfits, hnone⟩ := getPowers_consumes input s' middle hpowers
  rw [getDevicesIfAny, StateT.run_bind, StateT.run_get] at htail
  simp only [pure_bind] at htail
  split at htail
  · next hend =>
    cases htail
    rw [hend, List.append_nil]
    exact Or.inl ⟨rfl, hfits, hnone⟩
  · obtain ⟨more, rfl, rfl, hdevices, hsame⟩ := getDevices_consumes middle s rest htail
    have hpower : s.powerBytes = s'.powerBytes := (congrArg powerBytes hsame :)
    have hzones : s.zonePowerSum = s'.zonePowerSum := (congrArg zonePowerSum hsame :)
    rw [encodeRegionSyncUp_split, hpower, hzones, List.append_assoc]
    exact Or.inr ⟨rfl, hfits, hdevices⟩

/-- A body that ends right after the power list is accepted. -/
theorem decode_powerBytes (h : s.zonePowerSum.length ≤ 65535) :
    decode decodeRegionSyncUp s.powerBytes = .ok s.withoutDevices := by
  have hdecode : decode (getPowers >>= getDevicesIfAny) (s.powerBytes ++ []) =
      decode (getDevicesIfAny s.withoutDevices) [] := (getPowers_exact h).decode_bind []
  rw [← decodeRegionSyncUp_split, List.append_nil] at hdecode
  exact hdecode

/-- The power list of an encoding is determined by where it begins. -/
theorem zonePowerSum_eq_of_append {s' : RegionSyncUp} {x y : Bytes}
    (h : s.zonePowerSum.length ≤ 65535) (h' : s'.zonePowerSum.length ≤ 65535)
    (heq : s.powerBytes ++ x = s'.powerBytes ++ y) : s.zonePowerSum = s'.zonePowerSum := by
  have hrun := getPowers_exact h x
  rw [heq, getPowers_exact h' y] at hrun
  have hsame : s'.withoutDevices = s.withoutDevices := congrArg Prod.fst (Except.ok.inj hrun)
  exact (congrArg zonePowerSum hsame).symm

/-- Every other strict prefix of an encoding is rejected. -/
theorem decodeRegionSyncUp_truncated (hpower : s.zonePowerSum.length ≤ 65535)
    (hsummary : s.zoneDeviceSummary.length ≤ 65535) (hcut : p <+: encodeRegionSyncUp s)
    (hne : p ≠ encodeRegionSyncUp s) (hlength : p.length ≠ 10 + 8 * s.zonePowerSum.length) :
    ∃ e, decode decodeRegionSyncUp p = .error e := by
  obtain ⟨more, hmore⟩ := hcut
  refine decode_eq_error fun s' rest hrun => ?_
  rcases decodeRegionSyncUp_cases hrun with ⟨rfl, hpower', -⟩ | ⟨rfl, hpower', hsummary'⟩
  · -- The prefix ends after a power list, which is that of the encoding.
    rw [encodeRegionSyncUp_split] at hmore
    have hsame := zonePowerSum_eq_of_append hpower' hpower hmore
    rw [length_powerBytes, hsame] at hlength
    exact hlength rfl
  · -- The prefix is an encoding, after which nothing is left.
    have hexact := decodeRegionSyncUp_exact hpower hsummary []
    rw [List.append_nil, ← hmore, List.append_assoc,
      decodeRegionSyncUp_exact hpower' hsummary' (rest ++ more)] at hexact
    have hrest : rest ++ more = [] := congrArg Prod.snd (Except.ok.inj hexact)
    rw [(List.append_eq_nil_iff.mp hrest).2, List.append_nil] at hmore
    exact hne hmore

/-- The codec of synchronizations is exact: encodings are recovered whatever follows them, a
strict prefix is rejected unless it ends right after the power list, and an accepted body is an
encoding with something behind it, or lacks the empty summary. -/
theorem regionSyncUp_codec_exact :
    (∀ s : RegionSyncUp, s.zonePowerSum.length ≤ 65535 → s.zoneDeviceSummary.length ≤ 65535 →
      (∀ t, decode decodeRegionSyncUp (encodeRegionSyncUp s ++ t) = .ok s) ∧
      ∀ p, p <+: encodeRegionSyncUp s → p ≠ encodeRegionSyncUp s →
        if p.length = 10 + 8 * s.zonePowerSum.length then
          decode decodeRegionSyncUp p = .ok { s with zoneDeviceSummary := [] }
        else ∃ e, decode decodeRegionSyncUp p = .error e) ∧
    ∀ b s, decode decodeRegionSyncUp b = .ok s →
      encodeRegionSyncUp s <+: b ∨
      (b.length = 10 + 8 * s.zonePowerSum.length ∧ encodeRegionSyncUp s = b ++ [0, 0]) := by
  constructor
  · intro s hpower hsummary
    refine ⟨(decodeRegionSyncUp_exact hpower hsummary).decode_append, fun p hcut hne => ?_⟩
    split
    · next hlength =>
      rw [encodeRegionSyncUp_split] at hcut
      have hp : p = s.powerBytes :=
        (List.prefix_of_prefix_length_le hcut (List.prefix_append _ _)
          (by rw [length_powerBytes, hlength])).eq_of_length (by rw [length_powerBytes, hlength])
      rw [hp]
      exact decode_powerBytes hpower
    · next hlength => exact decodeRegionSyncUp_truncated hpower hsummary hcut hne hlength
  · intro b s hdecode
    obtain ⟨rest, hrun⟩ := run_of_decode hdecode
    rcases decodeRegionSyncUp_cases hrun with ⟨rfl, -, hnone⟩ | ⟨rfl, -, -⟩
    · refine Or.inr ⟨length_powerBytes s, ?_⟩
      rw [encodeRegionSyncUp_split, deviceBytes, hnone]
      rfl
    · exact Or.inl (List.prefix_append _ _)

end SmartLighting
