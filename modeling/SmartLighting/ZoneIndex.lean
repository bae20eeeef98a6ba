import SmartLighting.RegionTicks

/-!
# The zone index

Motion commands go to the devices that the index lists for a zone. The index
never misses a lamp and lists none twice, whatever is stored in the registry.
But nothing removes a lamp from a list, so the index is right only as long as no
lamp moves to another zone or turns into a sensor.
-/

namespace SmartLighting

open StateMachine Transition

/-! ## No lamp is missed -/

/-- A call that changes the registry. -/
inductive RegistryOp
  /-- `upsert`. -/
  | upsert (uri : Bytes) (st : DeviceState)
  /-- `register_lamp`. -/
  | registerLamp (uri : Bytes) (zone : UInt32)
  /-- `detect_comm_lost`. -/
  | detectCommLost (now timeoutMs : UInt64)

namespace Registry

variable {r : Registry} {uri v : Bytes} {st : DeviceState} {zone z : UInt32}
  {now timeoutMs : UInt64}

/-- The registry after a call. -/
def apply (r : Registry) : RegistryOp → Registry
  | .upsert uri st => r.upsert uri st
  | .registerLamp uri zone => r.registerLamp uri zone
  | .detectCommLost now timeoutMs => (r.detectCommLost now timeoutMs).2

/-- Every lamp of a zone is listed for it. -/
def Indexed (r : Registry) : Prop :=
  ∀ uri st, r.get uri = some st → st.type = .luminaire → st.zoneId ≠ 0 →
    uri ∈ r.getLampsInZone st.zoneId

/-- Every lamp of a zone is listed for it exactly once, and no list repeats a name. -/
structure IndexComplete (r : Registry) : Prop where
  /-- A lamp occurs once in the list of its zone. -/
  once : ∀ uri st, r.get uri = some st → st.type = .luminaire → st.zoneId ≠ 0 →
    (r.getLampsInZone st.zoneId).count uri = 1
  /-- The lists have no duplicates. -/
  nodup : ∀ zone, (r.getLampsInZone zone).Nodup

/-- Latching a fault changes neither the kind of a device nor its zone. -/
theorem latch_type_zoneId :
    (latch now timeoutMs st).type = st.type ∧ (latch now timeoutMs st).zoneId = st.zoneId := by
  unfold latch
  split <;> exact ⟨rfl, rfl⟩

/-- A push does not create a duplicate. -/
theorem nodup_registerLamp (h : ∀ z, (r.getLampsInZone z).Nodup) (z : UInt32) :
    ((r.registerLamp uri zone).getLampsInZone z).Nodup := by
  unfold registerLamp getLampsInZone
  rw [lookup_pushLamp]
  split
  · split
    · exact h zone
    · next hnew =>
      rw [List.nodup_append]
      refine ⟨h zone, List.nodup_singleton uri, ?_⟩
      rintro a ha b hb rfl
      rw [List.mem_singleton.mp hb] at ha
      exact hnew ha
  · exact h z

theorem nodup_upsert (h : ∀ z, (r.getLampsInZone z).Nodup) (z : UInt32) :
    ((r.upsert uri st).getLampsInZone z).Nodup := by
  unfold upsert
  split
  · exact nodup_registerLamp h z
  · exact h z

/-- Every call keeps the lamps listed. -/
theorem Indexed.apply (h : r.Indexed) (op : RegistryOp) : (r.apply op).Indexed := by
  intro v st' hget htype hzone
  cases op with
  | upsert uri st =>
    simp only [Registry.apply] at hget ⊢
    rw [get_upsert] at hget
    rw [mem_upsert]
    split at hget
    · next hv =>
      obtain rfl := Option.some.inj hget
      exact Or.inr ⟨hv, htype, hzone, rfl⟩
    · exact Or.inl (h v st' hget htype hzone)
  | registerLamp uri zone => exact mem_registerLamp.mpr (Or.inl (h v st' hget htype hzone))
  | detectCommLost now timeoutMs =>
    simp only [Registry.apply, get_detectCommLost] at hget
    obtain ⟨st, hst, rfl⟩ := Option.map_eq_some_iff.mp hget
    rw [latch_type_zoneId.1] at htype
    rw [latch_type_zoneId.2] at hzone ⊢
    exact h v st hst htype hzone

/-- Every call keeps the lists free of duplicates. -/
theorem nodup_apply (h : ∀ z, (r.getLampsInZone z).Nodup) (op : RegistryOp) (z : UInt32) :
    ((r.apply op).getLampsInZone z).Nodup := by
  cases op with
  | upsert uri st => exact nodup_upsert h z
  | registerLamp uri zone => exact nodup_registerLamp h z
  | detectCommLost now timeoutMs => exact h z

/-- Whatever calls are made from the empty registry, no lamp is missed and none
is listed twice. -/
theorem indexComplete_foldl_apply (ops : List RegistryOp) :
    IndexComplete (ops.foldl apply .empty) := by
  have hrun : ∀ (ops : List RegistryOp) (r : Registry), r.Indexed →
      (∀ z, (r.getLampsInZone z).Nodup) → IndexComplete (ops.foldl apply r) := by
    intro ops
    induction ops with
    | nil =>
      intro r hindexed hnodup
      refine ⟨fun uri st hget htype hzone => ?_, hnodup⟩
      exact List.count_eq_one_of_mem (hnodup _) (hindexed uri st hget htype hzone)
    | cons op ops ih =>
      intro r hindexed hnodup
      exact ih (r.apply op) (hindexed.apply op) (nodup_apply hnodup op)
  refine hrun ops .empty ?_ ?_
  · intro uri st hget
    cases hget
  · intro z
    exact List.nodup_nil

/-! ## Stale lamps -/

/-- Every device listed for a zone is a lamp of this zone. -/
def IndexSound (r : Registry) : Prop :=
  ∀ uri zone, uri ∈ r.getLampsInZone zone →
    ∃ st, r.get uri = some st ∧ st.type = .luminaire ∧ st.zoneId = zone

end Registry

namespace Region

variable {cfg : RegionConfig} {r t : Region} {e : Event}

/-- Where a handled message places its device: the name, the kind of device
unless the message leaves it open, and the zone. -/
def Event.placement : Event → Option (Bytes × Option DeviceType × UInt32)
  | .frame _ body _ =>
    match DeviceMessage.ofBody body with
    | some (.register req) =>
      if DeviceSession.Accepts req then some (req.uri, some req.type, req.zoneId) else none
    | some (.status report) => some (report.uri, none, report.zoneId)
    | some (.fault report) => some (report.uri, none, report.zoneId)
    | none => none
  | .datagram bytes beyond _ =>
    (parseTelemetry bytes beyond).map fun tel => (tel.uri, some .sensor, tel.zoneId)
  | _ => none

/-- The event leaves every indexed lamp in its zone, and a lamp. -/
def KeepsPlaces (r : Region) (e : Event) : Prop :=
  ∀ uri kind zone st, e.placement = some (uri, kind, zone) → r.reg.get uri = some st →
    st.type = .luminaire → st.zoneId ≠ 0 → zone = st.zoneId ∧ ∀ k ∈ kind, k = .luminaire

/-- What a handler should leave: an index that lists only lamps of the zone, so
no lamp in two zones, and commands only to lamps that are in the zone of a motion edge. -/
structure ZoneLaw (r : Region) (e : Event) (t : Region) : Prop where
  /-- The index has no stale entry. -/
  sound : t.reg.IndexSound
  /-- No device is listed for two zones. -/
  unique : ∀ uri zone zone', uri ∈ t.reg.getLampsInZone zone → uri ∈ t.reg.getLampsInZone zone' →
    zone = zone'
  /-- Commands go to lamps of the zone in which there is motion. -/
  commands : ∃ new, t.cmds = r.cmds ++ new ∧ ∀ c ∈ new, ∃ st, t.reg.get c.uri = some st ∧
    st.type = .luminaire ∧ e.motionZone = some st.zoneId

/-- The law follows from the soundness of the index. -/
theorem zoneLaw_of_indexSound (h : step cfg r e = some t) (hsound : t.reg.IndexSound) :
    ZoneLaw r e t where
  sound := hsound
  unique := by
    intro uri zone zone' hzone hzone'
    obtain ⟨st, hget, -, rfl⟩ := hsound uri zone hzone
    obtain ⟨st', hget', -, rfl⟩ := hsound uri zone' hzone'
    rw [hget] at hget'
    rw [Option.some.inj hget']
  commands := by
    obtain ⟨new, hcmds, hnew⟩ := issues_step h
    refine ⟨new, hcmds, fun c hc => ?_⟩
    have hlisted := hnew c hc
    cases hzone : e.motionZone with
    | none =>
      rw [hzone] at hlisted
      cases hlisted
    | some zone =>
      rw [hzone] at hlisted
      obtain ⟨st, hget, htype, rfl⟩ := hsound c.uri zone hlisted
      exact ⟨st, hget, htype, rfl⟩

/-- A known device is stored where the message places it. -/
theorem placement_of_stored {uri : Bytes} {st old : DeviceState}
    (hget : r.reg.get uri = some old) (h : r.stored e = some (uri, st)) :
    ∃ kind, e.placement = some (uri, kind, st.zoneId) ∧ st.type = kind.getD old.type := by
  cases storing_of_stored h with
  | registration k clock hm haccepts =>
    refine ⟨some _, ?_, rfl⟩
    simp only [Event.placement, hm, if_pos haccepts, DeviceSession.registerState]
  | status k clock hm hst =>
    rw [hget] at hst
    obtain rfl := Option.some.inj hst
    refine ⟨none, ?_, rfl⟩
    simp only [Event.placement, hm]
  | fault k clock hm =>
    rw [hget]
    refine ⟨none, ?_, rfl⟩
    simp only [Event.placement, hm, DeviceSession.faultState]
  | marker clock hparse hmarker =>
    refine ⟨some .sensor, ?_, rfl⟩
    simp only [Event.placement, hparse, Option.map_some]
  | telemetry clock hparse hplain =>
    rw [hget]
    refine ⟨some .sensor, ?_, rfl⟩
    simp only [Event.placement, hparse, Option.map_some, telemetryState]

/-- A message that places a known device stores it. -/
theorem stored_of_placement {uri : Bytes} {old : DeviceState} {kind : Option DeviceType}
    {zone : UInt32} (hget : r.reg.get uri = some old)
    (h : e.placement = some (uri, kind, zone)) : ∃ st, r.stored e = some (uri, st) := by
  unfold Event.placement at h
  split at h
  · split at h
    · next hm =>
      obtain ⟨haccepts, heq⟩ := Option.ite_none_right_eq_some.mp h
      cases heq
      exact ⟨_, (Storing.registration _ _ hm haccepts).stored_eq⟩
    · next hm =>
      cases h
      exact ⟨_, (Storing.status _ _ hm (by rw [hget]; rfl)).stored_eq⟩
    · next hm =>
      cases h
      exact ⟨_, (Storing.fault _ _ hm).stored_eq⟩
    · cases h
  · obtain ⟨tel, hparse, heq⟩ := Option.map_eq_some_iff.mp h
    cases heq
    simp only [stored, hparse, Option.map_some]
    exact ⟨_, rfl⟩
  · cases h

/-- The places of indexed lamps are kept exactly when the stored state keeps them. -/
theorem keepsPlaces_iff :
    KeepsPlaces r e ↔ ∀ uri st old, r.stored e = some (uri, st) → r.reg.get uri = some old →
      old.type = .luminaire → old.zoneId ≠ 0 →
        st.type = .luminaire ∧ st.zoneId = old.zoneId := by
  constructor
  · intro hkeeps uri st old hstored hget htype hzone
    obtain ⟨kind, hplace, hkind⟩ := placement_of_stored hget hstored
    obtain ⟨hsame, hlamp⟩ := hkeeps uri kind st.zoneId old hplace hget htype hzone
    refine ⟨?_, hsame⟩
    cases kind with
    | none => exact hkind.trans htype
    | some k => exact hkind.trans (hlamp k rfl)
  · intro hkeeps uri kind zone old hplace hget htype hzone
    obtain ⟨st, hstored⟩ := stored_of_placement hget hplace
    obtain ⟨kind', hplace', hkind⟩ := placement_of_stored hget hstored
    obtain ⟨hlamp, hsame⟩ := hkeeps uri st old hstored hget htype hzone
    rw [hplace] at hplace'
    obtain ⟨-, rfl, rfl⟩ : uri = uri ∧ kind = kind' ∧ zone = st.zoneId := by
      simpa using hplace'
    refine ⟨hsame, ?_⟩
    rintro k rfl
    exact hkind.symm.trans hlamp

/-- What holds of the index in every run. -/
structure IndexInv (reg : Registry) : Prop where
  /-- Lamps are listed. -/
  indexed : reg.Indexed
  /-- Zone zero has no list. -/
  zero : ∀ uri, uri ∉ reg.getLampsInZone 0

/-- Every step keeps the lamps listed. -/
theorem IndexInv.step (hinv : IndexInv r.reg) (h : step cfg r e = some t) : IndexInv t.reg := by
  rcases step_cases h with ⟨clock, rfl, hticks⟩ | ⟨-, hstores⟩
  · refine ⟨fun uri st hget htype hzone => ?_, fun uri => ?_⟩
    · rw [hticks.get] at hget
      obtain ⟨old, hold, rfl⟩ := Option.map_eq_some_iff.mp hget
      rw [Registry.latch_type_zoneId.1] at htype
      rw [Registry.latch_type_zoneId.2] at hzone ⊢
      rw [hticks.lamps]
      exact hinv.indexed uri old hold htype hzone
    · rw [hticks.lamps]
      exact hinv.zero uri
  · refine ⟨fun uri st hget htype hzone => ?_, fun uri => ?_⟩
    · rw [hstores.lamps]
      rw [hstores.get] at hget
      split at hget
      · next uri' st' hstored =>
        split at hget
        · next huri =>
          subst huri
          obtain rfl := Option.some.inj hget
          exact Or.inr ⟨st', hstored, htype, hzone, rfl⟩
        · exact Or.inl (hinv.indexed uri st hget htype hzone)
      · exact Or.inl (hinv.indexed uri st hget htype hzone)
    · rw [hstores.lamps]
      rintro (hmem | ⟨st, -, -, hne, hzero⟩)
      · exact hinv.zero uri hmem
      · exact hne hzero

/-- While all places are kept, the index stays sound. -/
theorem indexSound_step (hinv : IndexInv r.reg) (hsound : r.reg.IndexSound)
    (hkeeps : KeepsPlaces r e) (h : step cfg r e = some t) : t.reg.IndexSound := by
  intro uri zone hmem
  rcases step_cases h with ⟨clock, rfl, hticks⟩ | ⟨-, hstores⟩
  · rw [hticks.lamps] at hmem
    obtain ⟨st, hget, htype, hzone⟩ := hsound uri zone hmem
    refine ⟨_, by rw [hticks.get, hget]; rfl, ?_⟩
    rw [Registry.latch_type_zoneId.1, Registry.latch_type_zoneId.2]
    exact ⟨htype, hzone⟩
  · rw [hstores.get]
    rcases (hstores.lamps uri zone).mp hmem with hold | ⟨st, hstored, htype, -, hzone⟩
    · obtain ⟨old, hget, htype, hzone⟩ := hsound uri zone hold
      have hne : old.zoneId ≠ 0 := by
        rw [hzone]
        rintro rfl
        exact hinv.zero uri hold
      cases hstored : r.stored e with
      | none => exact ⟨old, hget, htype, hzone⟩
      | some entry =>
        obtain ⟨uri', st⟩ := entry
        by_cases huri : uri = uri'
        · subst huri
          obtain ⟨htype', hzone'⟩ :=
            keepsPlaces_iff.mp hkeeps uri st old hstored hget htype hne
          exact ⟨st, by simp, htype', hzone'.trans hzone⟩
        · exact ⟨old, by simp [huri, hget], htype, hzone⟩
    · rw [hstored]
      exact ⟨st, by simp, htype, hzone⟩

/-- A step that moves an indexed lamp leaves a stale entry behind. -/
theorem keepsPlaces_of_indexSound (hinv : IndexInv r.reg) (h : step cfg r e = some t)
    (hsound : t.reg.IndexSound) : KeepsPlaces r e := by
  rw [keepsPlaces_iff]
  intro uri st old hstored hget htype hzone
  rcases step_cases h with ⟨clock, rfl, -⟩ | ⟨-, hstores⟩
  · cases hstored
  · have hlisted := (hstores.lamps uri old.zoneId).mpr
      (Or.inl (hinv.indexed uri old hget htype hzone))
    obtain ⟨st', hget', htype', hzone'⟩ := hsound uri old.zoneId hlisted
    rw [hstores.get, hstored] at hget'
    obtain rfl : st = st' := by simpa using hget'
    exact ⟨htype', hzone'⟩

/-- In any run of the server the zone law holds at every step exactly when every
step leaves the indexed lamps in their places. -/
theorem eachStep_zoneLaw_iff (cfg : RegionConfig) (es : List Event) :
    EachStep (step cfg) ZoneLaw start es ↔
      EachStep (step cfg) (fun r e _ => KeepsPlaces r e) start es := by
  refine eachStep_iff_of_invariant (I := fun r => IndexInv r.reg ∧ r.reg.IndexSound) ?_ ?_ ?_
  · rintro r e t ⟨hinv, hsound⟩ hkeeps h
    exact ⟨hinv.step h, indexSound_step hinv hsound hkeeps h⟩
  · rintro r e t ⟨hinv, hsound⟩ h
    constructor
    · intro hlaw
      exact keepsPlaces_of_indexSound hinv h hlaw.sound
    · intro hkeeps
      exact zoneLaw_of_indexSound h (indexSound_step hinv hsound hkeeps h)
  · refine ⟨⟨fun uri st hget => ?_, fun uri => ?_⟩, fun uri zone hmem => ?_⟩
    · cases hget
    · exact List.not_mem_nil
    · cases hmem

/-- A lamp registers in zone 1 and, after it was moved, in zone 2. -/
def movedLamp : List Event :=
  [.frame 0 (DeviceMessage.register ⟨.luminaire, ascii "lamp", 1⟩).body ⟨1000, 0⟩,
    .frame 1 (DeviceMessage.register ⟨.luminaire, ascii "lamp", 2⟩).body ⟨2000, 1⟩]

/-- The list of zone 1 keeps the lamp that was moved to zone 2. -/
theorem not_eachStep_zoneLaw_movedLamp :
    ¬EachStep (step ⟨1, 20000⟩) ZoneLaw start movedLamp := by
  intro h
  have hlaw := h [movedLamp[0]] movedLamp[1] (List.prefix_refl _) _ _ rfl rfl
  obtain ⟨st, hget, -, hzone⟩ := hlaw.sound (ascii "lamp") 1 (by decide)
  obtain rfl := Option.some.inj hget
  exact absurd hzone (by decide)

end Region

end SmartLighting
