import SmartLighting.Installation

/-!
# Catching up

Connections fail, messages arrive late or never, and the devices change in the meantime. Whatever
has happened, the client and the central server need at most four steps, and no device or region
any, until the administrator is shown the region as its registry is now.
-/

namespace SmartLighting

open Transition CentralServer CentralMessage

namespace Installation

variable {ι κ : Type} [Fintype ι] [Fintype κ] {d : Deployment ι κ} {s t : Installation ι κ}
  {collected : List Registry}

/-- The administrator is shown the region as its registry is now, if a snapshot counts it. -/
structure UpToDate (d : Deployment ι κ) (s : Installation ι κ) : Prop where
  /-- The central server knows the region. -/
  known : (s.sync.stored d.region.regionId).isSome
  /-- As long as fewer than 65536 regions are stored, a snapshot counts the region. -/
  counted : s.sync.server.store.regions.entries.length < 65536 →
    ∀ st, s.sync.server.store.Same st → d.region.regionId ∈ (shownRegions st).map Sigma.fst
  /-- A snapshot can be encoded, and where it counts the region, the lines of the region are
  true. -/
  shown : ∀ st, s.sync.server.store.Same st → ∃ payload, st.encodeAdminSnapshot = .ok payload ∧
    (d.region.regionId ∈ (shownRegions st).map Sigma.fst →
      d.IsTrueOf s.fleet.region.reg (zonesUnder d.region.regionId false (printSnapshot payload)))

/-- What the system can still come to, with no step of a device or the region. -/
def CatchesUp [DecidableEq ι] [DecidableEq κ] (d : Deployment ι κ) (s : Installation ι κ) : Prop :=
  CanReach (step d) (fun t => t.fleet = s.fleet ∧ UpToDate d t) 4 s

/-- Where the message of the present registry is stored, the administrator is up to date. -/
theorem Inv.upToDate (h : Inv d s collected) (hsized : d.Sized) {version : UInt32}
    (hstored : s.sync.stored d.region.regionId = some
      (CentralStore.aggregateOf (syncUp d.region.regionId version s.fleet.region.reg))) :
    UpToDate d s where
  known := by
    rw [hstored]
    rfl
  counted hroom st hsame := hsame.mem_shownRegions hroom hstored
  shown st hsame := by
    have hbounded := h.bounded hsame
    refine ⟨snapshotBytes st, encodeAdminSnapshot_eq hbounded.strings, fun hshown => ?_⟩
    obtain ⟨agg, hagg, hrel⟩ := hsame.lookup_rearranged hstored
    have hregistry : d.IsRegistry s.fleet.region.reg := h.fleet.region.entries
    refine hregistry.isTrueOf hsized hrel fun line => ?_
    rw [mem_zonesUnder_iff hbounded hagg]
    exact and_iff_right hshown

variable [DecidableEq ι] [DecidableEq κ]

/-- The message of the client is handled. -/
private theorem Inv.catchesUp_of_sent (h : Inv d s collected) (hsized : d.Sized) {version : UInt32}
    {k i : ℕ} (hup : Collected d.region.regionId collected
      (syncUp d.region.regionId version s.fleet.region.reg))
    (hmessage : s.sync.pending[i]? =
      some (k, syncBody (syncUp d.region.regionId version s.fleet.region.reg))) :
    CanReach (Installation.step d) (fun t => t.fleet = s.fleet ∧ UpToDate d t) 1 s := by
  have hsync : SyncSystem.step d.region.regionId s.sync (.process i) = some { s.sync with
      pending := s.sync.pending.eraseIdx i
      server := s.sync.server.onMessage k
        (syncBody (syncUp d.region.regionId version s.fleet.region.reg)) } := by
    simp only [SyncSystem.step, hmessage]
  have hprocessed : s.sync.processed (.process i) =
      some (syncUp d.region.regionId version s.fleet.region.reg) := by
    simp only [SyncSystem.processed, hmessage, Option.bind_eq_bind, Option.bind_some,
      (h.fits hsized hup).1]
    rfl
  have hstored := (SyncSystem.steps_of_step hsync).stored fun up hsame => by
    rw [hprocessed] at hsame
    cases hsame
    rfl
  rw [hprocessed] at hstored
  have hstep : Installation.step d s (.process i) = some { s with sync := { s.sync with
      pending := s.sync.pending.eraseIdx i
      server := s.sync.server.onMessage k
        (syncBody (syncUp d.region.regionId version s.fleet.region.reg)) } } := by
    simp only [Installation.step, syncEvent, Option.bind_some, hsync, Option.map_some]
  exact .cons hstep (.done ⟨rfl, (h.step hsized hstep).upToDate hsized hstored⟩)

/-- The client sends its message. -/
private theorem Inv.catchesUp_of_connecting (h : Inv d s collected) (hsized : d.Sized)
    {version : UInt32} (hphase : s.sync.phase =
      .connecting (syncUp d.region.regionId version s.fleet.region.reg)) :
    CanReach (Installation.step d) (fun t => t.fleet = s.fleet ∧ UpToDate d t) 2 s := by
  have hstep : Installation.step d s .connected = some
      { s with sync := s.sync.sendSync (syncUp d.region.regionId version s.fleet.region.reg) } := by
    simp only [Installation.step, syncEvent, Option.bind_some, SyncSystem.step, hphase,
      Option.map_some]
  have hnext : Inv d _ collected := h.step hsized hstep
  have hmessage : (s.sync.sendSync (syncUp d.region.regionId version
      s.fleet.region.reg)).pending[s.sync.pending.length]? = some (s.sync.connection,
        syncBody (syncUp d.region.regionId version s.fleet.region.reg)) := by
    simp [SyncSystem.sendSync]
  exact .cons hstep (hnext.catchesUp_of_sent hsized (h.sending _ hphase) hmessage)

/-- The timer of the client expires, and it reads the registry. -/
private theorem Inv.catchesUp_of_timer (h : Inv d s collected) (hsized : d.Sized)
    (hphase : s.sync.phase = .timer) :
    CanReach (Installation.step d) (fun t => t.fleet = s.fleet ∧ UpToDate d t) 3 s := by
  have hstep : Installation.step d s .collect = some
      { s with sync := s.sync.doSyncOnce d.region.regionId s.fleet.region.reg } := by
    simp only [Installation.step, syncEvent, Option.bind_some, SyncSystem.step, hphase, if_true,
      Option.map_some]
  exact .cons hstep ((h.step hsized hstep).catchesUp_of_connecting hsized rfl)

/-- Whatever the client waits for, it gets back to its timer, if only by giving up. -/
theorem Inv.catchesUp (h : Inv d s collected) (hsized : d.Sized) : CatchesUp d s := by
  by_cases hphase : s.sync.phase = .timer
  · exact (h.catchesUp_of_timer hsized hphase).mono (by decide)
  · have hstep : Installation.step d s .failed = some { s with sync := s.sync.scheduleTick } := by
      simp only [Installation.step, syncEvent, Option.bind_some, SyncSystem.step, hphase, if_false,
        Option.map_some]
    exact .cons hstep ((h.step hsized hstep).catchesUp_of_timer hsized rfl)

/-- From every state of every run of a deployment that the wire formats have room for, in which
nobody else synchronizes in the name of the region, at most four steps of the client and the central
server lead to where every snapshot that counts the region shows the present registry. -/
theorem always_catchesUp (d : Deployment ι κ) (hsized : d.Sized) (es : List (Event ι κ)) :
    Always (Installation.step d) (CatchesUp d) (start d) es := by
  have hinv : Always (monitored (Installation.step d) watch) (fun p => Inv d p.1 p.2)
      (start d, []) es :=
    Always.of_monitored (fun _ _ _ _ h hstep => h.step hsized hstep) (inv_start d)
  intro before hbefore s hrun
  obtain ⟨collected, hwatched⟩ := run_monitored watch [] hrun
  exact (hinv before hbefore (s, collected) hwatched).catchesUp hsized

/-- A message from before the lamp registered is handled last. -/
theorem always_catchesUp_oneLamp :
    Always (Installation.step oneLamp) (CatchesUp oneLamp) (start oneLamp)
      (.collect :: .connected :: .failed :: firstSync) :=
  always_catchesUp oneLamp sized_oneLamp _

end Installation

end SmartLighting
