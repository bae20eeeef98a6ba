import SmartLighting.FleetTotals
import SmartLighting.SyncVersions
import SmartLighting.CentralStream

/-!
# From the devices to the administrator

A region with its devices, its synchronization client and the central server run together. The
client reads the registry whenever its timer expires, and its messages reach the central server in
any order, between those of others, who do not synchronize in the name of the region. What the
administrator is then shown of the region was true at one of the moments at which the client read
the registry.
-/

namespace SmartLighting

open Transition CentralServer CentralMessage

/-! ## The lines of a region -/

namespace Deployment

variable {ι κ : Type} [Fintype ι] [Fintype κ]

/-- A line of the snapshot states the power and the counts of the devices of a zone. -/
inductive IsTrueLine (d : Deployment ι κ) (reg : Registry) : SnapshotLine → Prop
  | zone {z power : UInt32} {lampTotal lampOn lampFault sensTotal sensFault : UInt16} {i : ι}
      (hzone : (d.lamp i).zone = z) (hnonzero : z ≠ 0)
      (hlamp : (reg.get (d.lamp i).uri).isSome)
      (hpower : power.toNat = ((d.devices reg z).map fun st => st.powerMw.toNat).sum)
      (hcounts : ⟨lampTotal.toNat, lampOn.toNat, lampFault.toNat, sensTotal.toNat,
        sensFault.toNat⟩ = ZoneCounts.count (d.devices reg z)) :
      IsTrueLine d reg (.zone z power lampTotal lampOn lampFault sensTotal sensFault)

/-- The lines under the heading of a region are true, and every zone with a lamp has one. -/
structure IsTrueOf (d : Deployment ι κ) (reg : Registry) (lines : List SnapshotLine) : Prop where
  /-- Each line is true. -/
  each : ∀ line ∈ lines, d.IsTrueLine reg line
  /-- No registered lamp is left out, but in zone zero. -/
  all : ∀ i, (d.lamp i).zone ≠ 0 → (reg.get (d.lamp i).uri).isSome →
    ∃ power lampTotal lampOn lampFault sensTotal sensFault,
      .zone (d.lamp i).zone power lampTotal lampOn lampFault sensTotal sensFault ∈ lines

variable {d : Deployment ι κ} {reg : Registry}

/-- The aggregate of the registry shows true lines, in whatever order its maps are iterated. -/
theorem IsRegistry.isTrueOf (h : d.IsRegistry reg) (hsized : d.Sized) {regionId version : UInt32}
    {agg : RegionAggregate}
    (hsame : (CentralStore.aggregateOf (syncUp regionId version reg)).Same agg)
    {lines : List SnapshotLine}
    (hlines : ∀ line, line ∈ lines ↔ line ∈ agg.zonePowerMw.entries.map (zoneLine agg)) :
    d.IsTrueOf reg lines := by
  have hsync := isSyncUp_syncUp regionId version reg
  have hpower (z p : UInt32) : (⟨z, p⟩ : Σ _ : UInt32, UInt32) ∈ agg.zonePowerMw.entries ↔
      (z, p) ∈ reg.zonePowerSum := by
    rw [AssocMap.mem_entries_iff, hsame.power]
    exact hsync.lookup_powerMap z p
  constructor
  · intro line hline
    obtain ⟨⟨z, p⟩, hentry, rfl⟩ := List.mem_map.mp ((hlines line).mp hline)
    have hmem := (hpower z p).mp hentry
    obtain ⟨hne, i, hzone, hlamp⟩ :=
      (h.mem_zones_iff hsized.names).mp (List.mem_map_of_mem (f := Prod.fst) hmem)
    -- The zone has a lamp, so it is in the summary as well.
    obtain ⟨st, hget⟩ := Option.isSome_iff_exists.mp hlamp
    obtain ⟨zs, hzs, rfl⟩ := exists_summary hne
      ⟨_, st, hget, (h.isLampState hsized.names hget).zone.trans hzone⟩
    have hshown : agg.shownSummary zs.zoneId = zs := by
      have hlookup := (hsync.lookup_summaryMap zs.zoneId zs).mpr ⟨hzs, rfl⟩
      rw [RegionAggregate.shownSummary, hsame.summary, CentralStore.aggregateOf, hlookup,
        Option.getD_some]
    simp only [zoneLine, hshown]
    exact .zone hzone hne hlamp (h.power hsized hmem) (h.counts hsized hzs)
  · intro i hne hlamp
    have hzone := (h.mem_zones_iff hsized.names).mpr ⟨hne, i, rfl, hlamp⟩
    obtain ⟨⟨z, p⟩, hmem, hz⟩ := List.mem_map.mp hzone
    have hz : z = (d.lamp i).zone := hz
    rw [hz] at hmem
    exact ⟨_, _, _, _, _, _, (hlines _).mpr
      (List.mem_map.mpr ⟨⟨_, p⟩, (hpower _ p).mpr hmem, rfl⟩)⟩

end Deployment

/-! ## The system -/

/-- A region with its devices, its synchronization client and the central server. -/
structure Installation (ι κ : Type) where
  /-- The devices and the region. -/
  fleet : Fleet ι κ
  /-- The client and the central server. -/
  sync : SyncSystem

namespace Installation

variable {ι κ : Type} {d : Deployment ι κ} {s t : Installation ι κ} {collected : List Registry}

/-- What can happen. -/
inductive Event (ι κ : Type)
  /-- A handler of a device or of the region. -/
  | fleet (e : Fleet.Event ι κ)
  /-- The timer of the client expires. -/
  | collect
  /-- The handshake of the client completes. -/
  | connected
  /-- A step of the client fails. -/
  | failed
  /-- The client reads an acknowledgement. -/
  | acked
  /-- A session of the central server handles a message of the client. -/
  | process (i : ℕ)
  /-- A session of the central server handles a message of someone else, if it is no
  synchronization of the region. -/
  | other (session : ℕ) (body : Bytes)

/-- All processes have just started. -/
def start (d : Deployment ι κ) : Installation ι κ := ⟨.start d, .start⟩

/-- The event of the client or the central server. The client reads the registry as it is. -/
def syncEvent (s : Installation ι κ) : Event ι κ → Option SyncSystem.Event
  | .fleet _ => none
  | .collect => some (.sync s.fleet.region.reg)
  | .connected => some .connected
  | .failed => some .failed
  | .acked => some .acked
  | .process i => some (.process i)
  | .other session body => some (.other session body)

/-- One handler of one process. Others send no synchronization in the name of the region. -/
def step [DecidableEq ι] [DecidableEq κ] (d : Deployment ι κ) (s : Installation ι κ) :
    Event ι κ → Option (Installation ι κ)
  | .fleet e => (Fleet.step d s.fleet e).map fun f => { s with fleet := f }
  | e => (s.syncEvent e).bind fun e =>
    (SyncSystem.step d.region.regionId s.sync e).map fun c => { s with sync := c }

/-- A monitor of the registries that the client has read. -/
def watch (collected : List Registry) (s : Installation ι κ) :
    Event ι κ → Installation ι κ → List Registry
  | .collect, _ => collected ++ [s.fleet.region.reg]
  | _, _ => collected

/-- A message that the client built from a registry that it has read. -/
def Collected (regionId : UInt32) (collected : List Registry) (up : RegionSyncUp) : Prop :=
  ∃ k reg, collected[k]? = some reg ∧ up = syncUp regionId (k + 1).toUInt32 reg

/-- What the administrator is told of the region. -/
structure TellsTruth [Fintype ι] [Fintype κ] (d : Deployment ι κ) (s : Installation ι κ)
    (collected : List Registry) : Prop where
  /-- The central server accepts the frame of every message. -/
  frames : ∀ message ∈ s.sync.pending, ∃ up, ∀ rest,
    readFrame (sendSync up ++ rest) = some (message.2, rest)
  /-- As long as fewer than 65536 regions are stored, a snapshot counts the region if it is one. -/
  counted : s.sync.server.store.regions.entries.length < 65536 →
    (s.sync.stored d.region.regionId).isSome →
    ∀ st, s.sync.server.store.Same st → d.region.regionId ∈ (shownRegions st).map Sigma.fst
  /-- A snapshot can be encoded. Where it counts the region, the lines of the region were true when
  the client read the registry for the message whose version they have. -/
  shown : ∀ st, s.sync.server.store.Same st → ∃ payload, st.encodeAdminSnapshot = .ok payload ∧
    ∀ agg, st.regions.lookup d.region.regionId = some agg →
      d.region.regionId ∈ (shownRegions st).map Sigma.fst →
      ∃ k reg, collected[k]? = some reg ∧ agg.version = (k + 1).toUInt32 ∧
        d.IsTrueOf reg (zonesUnder d.region.regionId false (printSnapshot payload))

/-- What holds between two handlers. -/
structure Inv (d : Deployment ι κ) (s : Installation ι κ) (collected : List Registry) : Prop where
  /-- The devices and the region are in order. -/
  fleet : Fleet.Inv d s.fleet
  /-- The client has read registries of the deployment. -/
  registries : ∀ reg ∈ collected, d.IsRegistry reg
  /-- It has counted them. -/
  version : s.sync.version = collected.length.toUInt32
  /-- The message that it is about to send is made of one of them. -/
  sending : ∀ up, s.sync.phase = .connecting up → Collected d.region.regionId collected up
  /-- So are those under way. -/
  pending : ∀ message ∈ s.sync.pending,
    ∃ up, Collected d.region.regionId collected up ∧ message.2 = syncBody up
  /-- So is the one that is stored. -/
  stored : ∀ agg, s.sync.stored d.region.regionId = some agg →
    ∃ up, Collected d.region.regionId collected up ∧ agg = CentralStore.aggregateOf up
  /-- The central server has handled bodies only. -/
  server : ∃ bodies, s.sync.server = CentralServer.start.run bodies

/-- One more registry takes no message away. -/
theorem Collected.concat {regionId : UInt32} {up : RegionSyncUp} (reg : Registry)
    (h : Collected regionId collected up) : Collected regionId (collected ++ [reg]) up := by
  obtain ⟨k, reg', hget, rfl⟩ := h
  exact ⟨k, reg', getElem?_concat_eq_some.mpr (Or.inl hget), rfl⟩

/-- The next message is made of the registry that is read. -/
theorem collected_concat (regionId : UInt32) (collected : List Registry) (reg : Registry) :
    Collected regionId (collected ++ [reg])
      (syncUp regionId (collected.length.toUInt32 + 1) reg) := by
  refine ⟨collected.length, reg, getElem?_concat_eq_some.mpr (Or.inr ⟨rfl, rfl⟩), ?_⟩
  simp only [Nat.toUInt32, UInt32.ofNat_add]
  rfl

theorem inv_start (d : Deployment ι κ) : Inv d (start d) [] where
  fleet := Fleet.inv_start d
  registries _ hreg := absurd hreg List.not_mem_nil
  version := rfl
  sending _ hphase := by cases hphase
  pending _ hmessage := absurd hmessage List.not_mem_nil
  stored _ hagg := by cases hagg
  server := ⟨[], rfl⟩

/-- The client reads the registry. -/
private theorem Inv.collect (h : Inv d s collected) :
    Inv d { s with sync := s.sync.doSyncOnce d.region.regionId s.fleet.region.reg }
      (collected ++ [s.fleet.region.reg]) where
  fleet := h.fleet
  registries reg hreg := by
    rcases List.mem_append.mp hreg with hold | hnew
    · exact h.registries reg hold
    · rw [List.mem_singleton.mp hnew]
      exact h.fleet.region.entries
  version := by
    rw [SyncSystem.doSyncOnce, h.version, List.length_append, List.length_singleton]
    simp only [Nat.toUInt32, UInt32.ofNat_add]
    rfl
  sending up hphase := by
    cases hphase
    rw [h.version]
    exact collected_concat d.region.regionId collected s.fleet.region.reg
  pending message hmessage := by
    obtain ⟨up, hup, hbody⟩ := h.pending message hmessage
    exact ⟨up, hup.concat _, hbody⟩
  stored agg hagg := by
    obtain ⟨up, hup, heq⟩ := h.stored agg hagg
    exact ⟨up, hup.concat _, heq⟩
  server := h.server

variable [Fintype ι] [Fintype κ]

/-- A message that the client has built fits its frame and is found in its body. -/
theorem Inv.fits (h : Inv d s collected) (hsized : d.Sized) {up : RegionSyncUp}
    (hup : Collected d.region.regionId collected up) :
    ofBody (syncBody up) = some (.sync up) ∧
      ∀ rest, readFrame (sendSync up ++ rest) = some (syncBody up, rest) := by
  obtain ⟨k, reg, hget, rfl⟩ := hup
  have hregistry := h.registries reg (List.mem_of_getElem? hget)
  have hsummary := hregistry.length_zoneDeviceSummary_le
  have hpower := reg.length_zonePowerSum_le
  have htotal := hsized.total
  refine ⟨ofBody_syncBody ?_ ?_, fun rest => readFrame_frame ?_⟩
  · change reg.zonePowerSum.length ≤ 65535
    omega
  · change reg.zoneDeviceSummary.length ≤ 65535
    omega
  · rw [length_encodeRegionSyncUp]
    change 1 + (12 + 8 * reg.zonePowerSum.length + 14 * reg.zoneDeviceSummary.length) ≤ 1048576
    omega

/-- What the central server handles is a message that the client has built. -/
theorem Inv.processed (h : Inv d s collected) (hsized : d.Sized) {e : SyncSystem.Event}
    {up : RegionSyncUp} (hprocessed : s.sync.processed e = some up) :
    Collected d.region.regionId collected up := by
  obtain ⟨message, hmem, hbody⟩ := SyncSystem.mem_of_processed hprocessed
  obtain ⟨up', hup', hmessage⟩ := h.pending message hmem
  rw [hmessage, (h.fits hsized hup').1] at hbody
  cases hbody
  exact hup'

/-- The client and the central server go on without a look at the registry. -/
private theorem Inv.sync (h : Inv d s collected) (hsized : d.Sized) {e : SyncSystem.Event}
    {c : SyncSystem} (hsteps : SyncSystem.Steps d.region.regionId s.sync e c)
    (hquiet : ∀ reg, e ≠ .sync reg) : Inv d { s with sync := c } collected where
  fleet := h.fleet
  registries := h.registries
  version := by
    cases hsteps with
    | sync reg => exact absurd rfl (hquiet reg)
    | connected hphase => exact h.version
    | failed => exact h.version
    | acked => exact h.version
    | process hmessage => exact h.version
    | other hforeign => exact h.version
  sending up hphase := by
    cases hsteps with
    | sync reg => exact absurd rfl (hquiet reg)
    | connected _ => cases hphase
    | failed => cases hphase
    | acked => cases hphase
    | process hmessage => exact h.sending up hphase
    | other hforeign => exact h.sending up hphase
  pending message hmessage := by
    rcases hsteps.pending hmessage with hold | ⟨up, hphase, hbody⟩
    · exact h.pending message hold
    · exact ⟨up, h.sending up hphase, hbody⟩
  stored agg hagg := by
    have hregion (up : RegionSyncUp) (hup : s.sync.processed e = some up) :
        up.regionId = d.region.regionId := by
      obtain ⟨k, reg, -, rfl⟩ := h.processed hsized hup
      rfl
    rw [hsteps.stored hregion] at hagg
    cases hprocessed : s.sync.processed e with
    | none =>
      rw [hprocessed] at hagg
      exact h.stored agg hagg
    | some up =>
      rw [hprocessed] at hagg
      cases hagg
      exact ⟨up, h.processed hsized hprocessed, rfl⟩
  server := by
    obtain ⟨bodies, hbodies⟩ := h.server
    cases hsteps with
    | sync reg => exact ⟨bodies, hbodies⟩
    | connected hphase => exact ⟨bodies, hbodies⟩
    | failed => exact ⟨bodies, hbodies⟩
    | acked => exact ⟨bodies, hbodies⟩
    | @process i session body hmessage =>
      refine ⟨bodies ++ [(session, body)], ?_⟩
      rw [run_concat, ← hbodies]
    | @other session body hforeign =>
      refine ⟨bodies ++ [(session, body)], ?_⟩
      rw [run_concat, ← hbodies]

/-- **Step lemma.** Every handler keeps the invariant. -/
theorem Inv.step [DecidableEq ι] [DecidableEq κ] (h : Inv d s collected) (hsized : d.Sized)
    {e : Event ι κ} (hstep : step d s e = some t) : Inv d t (watch collected s e t) := by
  have hsync (hquiet : ∀ reg, s.syncEvent e ≠ some (.sync reg))
      (hevent : ((s.syncEvent e).bind fun e =>
        (SyncSystem.step d.region.regionId s.sync e).map fun c => { s with sync := c }) = some t) :
      Inv d t collected := by
    obtain ⟨e', he', hmap⟩ := Option.bind_eq_some_iff.mp hevent
    obtain ⟨c, hc, rfl⟩ := Option.map_eq_some_iff.mp hmap
    refine h.sync hsized (SyncSystem.steps_of_step hc) fun reg heq => hquiet reg ?_
    rw [he', heq]
  cases e with
  | fleet e =>
    obtain ⟨f, hf, rfl⟩ := Option.map_eq_some_iff.mp hstep
    exact ⟨h.fleet.step hf, h.registries, h.version, h.sending, h.pending, h.stored, h.server⟩
  | collect =>
    have hmap : (SyncSystem.step d.region.regionId s.sync (.sync s.fleet.region.reg)).map
        (fun c => { s with sync := c }) = some t := hstep
    obtain ⟨c, hc, rfl⟩ := Option.map_eq_some_iff.mp hmap
    obtain ⟨-, heq⟩ := Option.ite_none_right_eq_some.mp hc
    cases heq
    exact h.collect
  | connected => exact hsync (fun reg hreg => by cases hreg) hstep
  | failed => exact hsync (fun reg hreg => by cases hreg) hstep
  | acked => exact hsync (fun reg hreg => by cases hreg) hstep
  | process i => exact hsync (fun reg hreg => by cases hreg) hstep
  | other session body => exact hsync (fun reg hreg => by cases hreg) hstep

omit [Fintype ι] [Fintype κ] in
/-- What the central server holds fits the format, in whatever order its maps are iterated. -/
theorem Inv.bounded (h : Inv d s collected) {st : CentralStore}
    (hsame : s.sync.server.store.Same st) : Bounded st := by
  obtain ⟨bodies, hbodies⟩ := h.server
  have hbounded := bounded_run bodies
  rw [← hbodies] at hbounded
  exact hsame.bounded hbounded

/-- Between two handlers the administrator is told the truth. -/
theorem Inv.tellsTruth (h : Inv d s collected) (hsized : d.Sized) : TellsTruth d s collected where
  frames message hmessage := by
    obtain ⟨up, hup, hbody⟩ := h.pending message hmessage
    refine ⟨up, fun rest => ?_⟩
    rw [hbody]
    exact (h.fits hsized hup).2 rest
  counted hroom hstored st hsame := by
    obtain ⟨agg, hagg⟩ := Option.isSome_iff_exists.mp hstored
    exact hsame.mem_shownRegions hroom hagg
  shown st hsame := by
    have hbounded := h.bounded hsame
    refine ⟨snapshotBytes st, encodeAdminSnapshot_eq hbounded.strings, fun agg hagg hshown => ?_⟩
    obtain ⟨a, ha, hrel⟩ := hsame.lookup hagg
    obtain ⟨up, ⟨k, reg, hget, rfl⟩, rfl⟩ := h.stored a ha
    refine ⟨k, reg, hget, hrel.version, ?_⟩
    have hregistry := h.registries reg (List.mem_of_getElem? hget)
    refine hregistry.isTrueOf hsized hrel fun line => ?_
    rw [mem_zonesUnder_iff hbounded hagg]
    exact and_iff_right hshown

/-- In every run of a deployment that the wire formats have room for, whatever the network does, and
as long as nobody else synchronizes in the name of the region: each message of the client arrives as
it is, and the lines of the region in a snapshot that counts it state for each zone the power and
the counts of its devices, as the registry had them when the client read it for the message with the
shown version. -/
theorem always_tellsTruth [DecidableEq ι] [DecidableEq κ] (d : Deployment ι κ) (hsized : d.Sized)
    (es : List (Event ι κ)) :
    Always (monitored (Installation.step d) watch) (fun p => TellsTruth d p.1 p.2)
      (start d, []) es :=
  have hinv : Always (monitored (Installation.step d) watch) (fun p => Inv d p.1 p.2)
      (start d, []) es :=
    Always.of_monitored (fun _ _ _ _ h hstep => h.step hsized hstep) (inv_start d)
  hinv.mono fun _ h => h.tellsTruth hsized

/-- One lamp in zone 3 of region 7. -/
def oneLamp : Deployment Unit Empty where
  lamp _ := ⟨ascii "lamp", 3, 60, 30, 10, 0⟩
  sensor := Empty.elim
  region := ⟨7, 15000⟩
  apart _ j := j.elim

/-- The lamp registers, and the region is synchronized. -/
def firstSync : List (Event Unit Empty) :=
  [.fleet (.lamp () (.resolved true)), .fleet (.lamp () (.connected true)),
    .fleet (.lamp () (.handshaken true)), .fleet (.lamp () .posted),
    .fleet (.lamp () (.writeDone 0 true)), .fleet (.frame () 0 0 ⟨1000, 1⟩), .collect, .connected,
    .process 0]

theorem sized_oneLamp : oneLamp.Sized where
  names := by
    rintro (_ | j) (_ | j') _
    · rfl
    · exact j'.elim
    · exact j.elim
    · exact j.elim
  lamps _ := (Finset.card_le_univ _).trans (by decide)
  total := by decide

/-- The administrator is told of the lamp. -/
theorem always_tellsTruth_oneLamp :
    ∃ s collected, run (monitored (Installation.step oneLamp) watch) (start oneLamp, []) firstSync =
        some (s, collected) ∧
      (s.sync.stored 7).map (fun agg => agg.zonePowerMw.lookup 3) = some (some 0) ∧
      TellsTruth oneLamp s collected := by
  have hstored : (run (monitored (Installation.step oneLamp) watch) (start oneLamp, [])
      firstSync).map (fun p => (p.1.sync.stored 7).map fun agg => agg.zonePowerMw.lookup 3) =
        some (some (some 0)) := by decide +kernel
  obtain ⟨⟨s, collected⟩, hrun, hlookup⟩ := Option.map_eq_some_iff.mp hstored
  exact ⟨s, collected, hrun, hlookup,
    always_tellsTruth oneLamp sized_oneLamp firstSync _ (List.prefix_refl _) _ hrun⟩

end Installation

end SmartLighting
