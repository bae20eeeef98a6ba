import SmartLighting.Sensor

/-!
# The datagram of a sensor

The name of a sensor stands in a field of 48 bytes, which the receiver reads as a
C string. A sensor cuts its name to 47 bytes and pads it with NULs, so it is read
back, as are the other members. A peer that fills the whole field makes the
receiver read on into the zone behind it.
-/

namespace SmartLighting

variable {d beyond : Bytes} {t : Telemetry}

/-- The scan for a NUL ends in a part that has one. -/
private theorem takeWhile_append_of_mem {xs : Bytes} (h : 0 ∈ xs) (ys : Bytes) :
    ((xs ++ ys).takeWhile fun b => b ≠ 0) = xs.takeWhile fun b => b ≠ 0 := by
  rw [List.takeWhile_append, if_neg]
  intro hlength
  have hall := List.takeWhile_eq_self_iff.mp
    ((List.takeWhile_prefix (p := fun b : UInt8 => decide (b ≠ 0)) (l := xs)).eq_of_length hlength)
  exact absurd rfl (of_decide_eq_true (hall 0 h))

/-- The scan for a NUL does not end in a part without one. -/
private theorem takeWhile_append_of_notMem {xs : Bytes} (h : 0 ∉ xs) (ys : Bytes) :
    ((xs ++ ys).takeWhile fun b => b ≠ 0) = xs ++ ys.takeWhile fun b => b ≠ 0 := by
  refine List.takeWhile_append_of_pos fun b hb => decide_eq_true ?_
  rintro rfl
  exact h hb

/-- The name that the receiver reads: the scan begins with the field and goes on with the zone. -/
theorem uri_of_parseTelemetry (h : parseTelemetry d beyond = some t) :
    ∃ rest, t.uri = (d.take 48 ++ byteAt d 48 :: rest).takeWhile fun b => b ≠ 0 := by
  obtain ⟨hlength, h⟩ := Option.ite_none_left_eq_some.mp h
  have hlt : 48 < d.length := by
    rw [telemetrySize] at hlength
    omega
  have hbyte : d.drop 48 = byteAt d 48 :: d.drop 49 := by
    rw [List.drop_eq_getElem_cons hlt, byteAt, List.getD_eq_getElem?_getD,
      List.getElem?_eq_getElem hlt, Option.getD_some]
  have hsplit : d.take telemetrySize = d.take 48 ++ byteAt d 48 :: (d.drop 49).take 8 := by
    have htake : d.take (48 + 9) = d.take 48 ++ (d.drop 48).take 9 := List.take_add
    rw [hbyte, List.take_succ_cons] at htake
    exact htake
  cases h
  refine ⟨(d.drop 49).take 8 ++ beyond, ?_⟩
  change ((d.take telemetrySize ++ beyond).takeWhile fun b => b ≠ 0) = _
  rw [hsplit, List.append_assoc, List.cons_append]

/-- The name is that of the field exactly when the field has a NUL, or the zone behind it begins
with one. -/
theorem uri_eq_field_iff (h : parseTelemetry d beyond = some t) :
    (t.uri = (d.take 48).takeWhile fun b => b ≠ 0) ↔ 0 ∈ d.take 48 ∨ byteAt d 48 = 0 := by
  obtain ⟨rest, huri⟩ := uri_of_parseTelemetry h
  rw [huri]
  by_cases hnul : 0 ∈ d.take 48
  · rw [takeWhile_append_of_mem hnul]
    exact iff_of_true rfl (Or.inl hnul)
  · have hfield : ((d.take 48).takeWhile fun b => b ≠ 0) = d.take 48 := by
      have hempty := takeWhile_append_of_notMem hnul []
      rwa [List.append_nil, List.takeWhile_nil, List.append_nil] at hempty
    rw [takeWhile_append_of_notMem hnul, hfield, List.append_right_eq_self]
    by_cases hzone : byteAt d 48 = 0
    · simp [hzone]
    · simp [hzone, hnul]

/-- The name is read from its own field: it consists of the bytes before the first NUL, or of all
bytes if there is none, and the other members do not matter for it. -/
structure ReadsOwnField (d beyond : Bytes) : Prop where
  /-- The name. -/
  uri : ∀ t, parseTelemetry d beyond = some t → t.uri = (d.take 48).takeWhile fun b => b ≠ 0
  /-- A datagram with other members addresses the same device. -/
  same : ∀ d' beyond' t t', d'.take 48 = d.take 48 → parseTelemetry d beyond = some t →
    parseTelemetry d' beyond' = some t' → t'.uri = t.uri

/-- A datagram that is long enough has telemetry. -/
theorem exists_parseTelemetry (h : 57 ≤ d.length) (beyond : Bytes) :
    ∃ t, parseTelemetry d beyond = some t := by
  unfold parseTelemetry
  rw [if_neg (by rw [telemetrySize]; omega)]
  exact ⟨_, rfl⟩

/-- The name is read from its own field exactly when the field has a NUL. -/
theorem readsOwnField_iff (d beyond : Bytes) (h : 57 ≤ d.length) :
    ReadsOwnField d beyond ↔ 0 ∈ d.take 48 := by
  constructor
  · intro hreads
    by_contra hnul
    -- With a zone that does not begin with a NUL, the scan leaves the field.
    let d' : Bytes := d.take 48 ++ List.replicate 9 1
    have hfield : (d.take 48).length = 48 := by
      rw [List.length_take]
      omega
    have hlength : 57 ≤ d'.length := by
      rw [List.length_append, hfield, List.length_replicate]
    have htake : d'.take 48 = d.take 48 := by rw [← hfield, List.take_left, hfield]
    have hbyte : byteAt d' 48 = 1 := byteAt_append hfield (List.replicate 9 1) 0
    obtain ⟨t, ht⟩ := exists_parseTelemetry h beyond
    obtain ⟨t', ht'⟩ := exists_parseTelemetry hlength beyond
    have huri' : t'.uri = (d'.take 48).takeWhile fun b => b ≠ 0 := by
      rw [hreads.same d' beyond t t' htake ht ht', htake]
      exact hreads.uri t ht
    rcases (uri_eq_field_iff ht').mp huri' with hmem | hzero
    · rw [htake] at hmem
      exact hnul hmem
    · rw [hbyte] at hzero
      cases hzero
  · intro hnul
    refine ⟨fun t ht => (uri_eq_field_iff ht).mpr (Or.inl hnul), ?_⟩
    intro d' beyond' t t' htake ht ht'
    rw [(uri_eq_field_iff ht).mpr (Or.inl hnul),
      (uri_eq_field_iff ht').mpr (Or.inl (by rwa [htake])), htake]

/-- A name of one byte. -/
theorem readsOwnField_short :
    ReadsOwnField (97 :: List.replicate 56 0) [] ↔ 0 ∈ (97 :: List.replicate 56 0 : Bytes).take 48 :=
  readsOwnField_iff (97 :: List.replicate 56 0) [] (by decide)

/-- A datagram whose name field is full, for zone 1627389952. -/
def fullField : Bytes := List.replicate 49 97 ++ List.replicate 8 0

/-- Its name goes on with the first byte of the zone. -/
theorem not_readsOwnField_fullField : ¬ReadsOwnField fullField [] := by
  intro h
  obtain ⟨t, ht⟩ := exists_parseTelemetry (d := fullField) (by decide) []
  have huri : t.uri = List.replicate 49 97 := by
    cases ht
    decide
  have hfield : t.uri = List.replicate 48 97 := h.uri t ht
  rw [huri] at hfield
  exact absurd hfield (by decide)

/-! ## The datagrams of sensors -/

/-- A sensor leaves a NUL in the name field. -/
theorem nul_mem_telemetryPacket (uri : Bytes) (zone : UInt32) (lux : UInt16) (motion : UInt8)
    (tempX10 : Int16) : 0 ∈ (telemetryPacket uri zone lux motion tempX10).take 48 := by
  have hfield : (telemetryPacket uri zone lux motion tempX10).take 48 = nameField uri := by
    have hpacket : telemetryPacket uri zone lux motion tempX10 = nameField uri ++
        (store32 (swap32 zone) ++ (store16 (swap16 lux) ++ ([motion] ++
          store16 (swap16 tempX10.toUInt16)))) := by
      simp only [telemetryPacket, List.append_assoc]
    rw [hpacket, ← length_nameField uri, List.take_left]
  rw [hfield, nameField]
  refine List.mem_append_right _ (List.mem_replicate.mpr ⟨?_, rfl⟩)
  rw [List.length_take]
  omega

/-- So the name of a sensor is read from the field. -/
theorem uri_of_telemetryPacket {uri : Bytes} {zone : UInt32} {lux : UInt16} {motion : UInt8}
    {tempX10 : Int16}
    (h : parseTelemetry (telemetryPacket uri zone lux motion tempX10) beyond = some t) :
    t.uri = ((telemetryPacket uri zone lux motion tempX10).take 48).takeWhile fun b => b ≠ 0 :=
  (uri_eq_field_iff h).mpr (Or.inl (nul_mem_telemetryPacket uri zone lux motion tempX10))

/-- A datagram is received as it was sent, with the name cut to 47 bytes; so sensors have the same
name for the receiver exactly when their names agree on these bytes. -/
theorem telemetry_survives (uri uri' : Bytes) (htext : 0 ∉ uri) (htext' : 0 ∉ uri')
    (zone zone' : UInt32) (lux lux' : UInt16) (motion motion' : UInt8) (tempX10 tempX10' : Int16)
    (beyond beyond' : Bytes) :
    parseTelemetry (telemetryPacket uri zone lux motion tempX10) beyond =
        some ⟨uri.take 47, zone, lux, motion, tempX10⟩ ∧
      ((parseTelemetry (telemetryPacket uri zone lux motion tempX10) beyond).map Telemetry.uri =
          (parseTelemetry (telemetryPacket uri' zone' lux' motion' tempX10') beyond').map
            Telemetry.uri ↔
        uri.take 47 = uri'.take 47) := by
  rw [parseTelemetry_packet htext, parseTelemetry_packet htext', Option.map_some,
    Option.map_some]
  refine ⟨rfl, ?_⟩
  rw [Option.some.injEq]

/-- Two sensors at a temperature of -5.5 and 21 degrees. -/
theorem telemetry_survives_pair :
    parseTelemetry (telemetryPacket [97] 3 500 1 (-55)) [] = some ⟨[97], 3, 500, 1, -55⟩ ∧
      ((parseTelemetry (telemetryPacket [97] 3 500 1 (-55)) []).map Telemetry.uri =
          (parseTelemetry (telemetryPacket [98] 3 500 1 210) []).map Telemetry.uri ↔
        [97].take 47 = ([98] : Bytes).take 47) :=
  telemetry_survives [97] [98] (by decide) (by decide) 3 3 500 500 1 1 (-55) 210 [] []

end SmartLighting
