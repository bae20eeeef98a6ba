import SmartLighting.ActiveLost

/-!
# Silence episodes

An episode starts at the first tick that finds a device silent for longer than
the timeout and ends when a message of the device is handled. The server raises
its alarm when it latches the fault, and only a registration releases the latch.
So an episode that is not ended by a registration hides all episodes after it.
-/

namespace SmartLighting

open StateMachine Transition

namespace Region

variable {cfg : RegionConfig} {uri : Bytes} {e : Event}

/-- What an observer of one device notes. -/
structure Silence where
  /-- The time of its last handled message. -/
  heard : Option UInt64
  /-- Whether an episode is open. -/
  isOpen : Bool
  /-- The number of episodes that have started. -/
  started : ℕ
  /-- Whether an episode has started since the last registration. -/
  sinceRegistration : Bool
  /-- Whether an episode has started at the last tick. -/
  atLastTick : Bool

namespace Silence

/-- Nothing was heard yet. -/
def none : Silence := ⟨.none, false, 0, false, false⟩

/-- An episode starts at a tick: the device is silent and no episode is open. -/
def Starts (cfg : RegionConfig) (m : Silence) (now : UInt64) : Prop :=
  m.isOpen = false ∧ ∃ h ∈ m.heard, SilentFor cfg.timeoutMs now h

instance (m : Silence) (now : UInt64) : Decidable (m.Starts cfg now) :=
  inferInstanceAs (Decidable (_ ∧ _))

/-- Watch the device: messages end an episode, ticks may start one. -/
def watch (cfg : RegionConfig) (uri : Bytes) (m : Silence) (p : Region × UInt64) (e : Event)
    (_ : Region × UInt64) : Silence :=
  match e with
  | .tick clock =>
    if m.Starts cfg clock.nowMs then ⟨m.heard, true, m.started + 1, true, true⟩
    else { m with atLastTick := false }
  | e =>
    if (p.1.stored e).map Prod.fst = some uri then
      { m with
        heard := e.nowMs
        isOpen := false
        sinceRegistration := m.sinceRegistration && decide (e.registered ≠ some uri) }
    else m

end Silence

/-- The server and its clock, with an observer of one device, while no fault is
reported for this device. -/
def quietStep (cfg : RegionConfig) (uri : Bytes) :
    (Region × UInt64) × Silence → Event → Option ((Region × UInt64) × Silence) :=
  monitored (restrict (fun _ e => e.faultReport.map Prod.fst ≠ some uri) (timedStep cfg))
    (Silence.watch cfg uri)

/-- One alarm for each episode, and after a tick a fault exactly while an episode is open. -/
def EpisodeLaw (uri : Bytes) (e : Event) (q : (Region × UInt64) × Silence) : Prop :=
  q.1.1.commLostAlarms uri = q.2.started ∧
    (e.IsTick → (q.1.1.Faulty uri ↔ q.2.isOpen = true))

/-- At a tick, no episode since the last registration has ended, and one that
starts now is not the second in a row, nor one of a device heard at time zero. -/
def EpisodeCond (cfg : RegionConfig) (m : Silence) (e : Event) : Prop :=
  ∀ clock, e = .tick clock → (m.sinceRegistration = true → m.isOpen = true) ∧
    (m.Starts cfg clock.nowMs → m.heard ≠ some 0 ∧ m.atLastTick = false)

/-- The server knows of the device what the observer notes. -/
structure EpisodeInv (cfg : RegionConfig) (uri : Bytes) (p : (Region × UInt64) × Silence) :
    Prop where
  /-- Each episode has raised an alarm. -/
  alarms : p.1.1.commLostAlarms uri = p.2.started
  /-- The registry knows the last message. -/
  heard : (p.1.1.reg.get uri).map (fun st => st.lastSeenMs) = p.2.heard
  /-- The fault is latched since an episode after the last registration. -/
  latched : p.1.1.Faulty uri ↔ p.2.sinceRegistration = true
  /-- The clock is ahead of all messages. -/
  past : HeardBy p.1.1 p.1.2
  /-- In an open episode the device is silent, and has not registered. -/
  silent : p.2.isOpen = true → p.2.sinceRegistration = true ∧
    ∃ h ∈ p.2.heard, SilentFor cfg.timeoutMs p.1.2 h
  /-- The device is in `active_lost` when an episode has started at the last tick. -/
  active : uri ∈ p.1.1.activeLost ↔ p.2.atLastTick = true

theorem quietStep_eq_some {p q : (Region × UInt64) × Silence} :
    quietStep cfg uri p e = some q ↔ e.faultReport.map Prod.fst ≠ some uri ∧
      timedStep cfg p.1 e = some q.1 ∧ q.2 = p.2.watch cfg uri p.1 e q.1 := by
  rw [quietStep, monitored_eq_some, restrict_eq_some, and_assoc]

/-- A message of another device does not concern the observer. -/
theorem watch_other {m : Silence} {p q : Region × UInt64} (htick : ¬e.IsTick)
    (hother : ∀ st, p.1.stored e ≠ some (uri, st)) : m.watch cfg uri p e q = m := by
  unfold Silence.watch
  split
  · exact absurd trivial htick
  · refine if_neg fun hheard => ?_
    obtain ⟨⟨v, st⟩, hstored, rfl⟩ := Option.map_eq_some_iff.mp hheard
    exact hother st hstored

/-- A message of the device ends an episode. -/
theorem watch_stored {m : Silence} {p q : Region × UInt64} {st : DeviceState} (htick : ¬e.IsTick)
    (hstored : p.1.stored e = some (uri, st)) :
    m.watch cfg uri p e q =
      { m with
        heard := some st.lastSeenMs
        isOpen := false
        sinceRegistration := m.sinceRegistration && decide (e.registered ≠ some uri) } := by
  rw [← nowMs_of_stored hstored]
  unfold Silence.watch
  split
  · exact absurd trivial htick
  · exact if_pos (by rw [hstored]; rfl)

/-- A message keeps the invariant. -/
theorem EpisodeInv.message {p q : (Region × UInt64) × Silence} (hinv : EpisodeInv cfg uri p)
    (htick : ¬e.IsTick) (h : quietStep cfg uri p e = some q) : EpisodeInv cfg uri q := by
  obtain ⟨hquiet, htimed, hwatch⟩ := quietStep_eq_some.mp h
  obtain ⟨hle, hstep, hnow⟩ := timedStep_eq_some.mp htimed
  rw [← hnow] at hle
  have hstores := stores_step hstep htick
  have halarms : q.1.1.commLostAlarms uri = p.1.1.commLostAlarms uri :=
    hstores.commLostAlarms_eq hquiet
  have hfaulty := hstores.faulty_iff (v := uri)
  by_cases hstored : ∃ st, p.1.1.stored e = some (uri, st)
  · obtain ⟨st, hstored⟩ := hstored
    rw [watch_stored htick hstored] at hwatch
    refine ⟨?_, ?_, ?_, hinv.past.step htimed, ?_, ?_⟩
    · rw [halarms, hwatch]
      exact hinv.alarms
    · rw [hstores.get_stored hstored, hwatch]
      rfl
    · rw [hfaulty, hinv.latched, hwatch]
      simp only [hquiet, false_or, Bool.and_eq_true, decide_eq_true_eq]
      exact and_comm
    · intro hopen
      rw [hwatch] at hopen
      cases hopen
    · rw [hstores.activeLost, hwatch]
      exact hinv.active
  · have hother := not_exists.mp hstored
    rw [watch_other htick hother] at hwatch
    have hregistered : e.registered ≠ some uri := fun heq => hstored (stored_of_registered heq)
    refine ⟨?_, ?_, ?_, hinv.past.step htimed, ?_, ?_⟩
    · rw [halarms, hwatch]
      exact hinv.alarms
    · rw [hstores.get_other hother, hwatch]
      exact hinv.heard
    · rw [hfaulty, hwatch]
      simp only [hquiet, hregistered, false_or, ne_eq, not_false_eq_true, true_and]
      exact hinv.latched
    · intro hopen
      rw [hwatch] at hopen ⊢
      obtain ⟨hsince, heard, hheard, hsilent⟩ := hinv.silent hopen
      exact ⟨hsince, heard, hheard, hsilent.mono hle⟩
    · rw [hstores.activeLost, hwatch]
      exact hinv.active

/-- The server lists the device when it is silent and its fault is not latched,
unless it was heard at time zero. -/
theorem EpisodeInv.newlyLost_iff {p : (Region × UInt64) × Silence} {clock : Clock}
    (hinv : EpisodeInv cfg uri p) (hle : p.1.2 ≤ clock.nowMs) :
    NewlyLost cfg clock p.1.1 uri ↔ p.2.sinceRegistration = false ∧ p.2.heard ≠ some 0 ∧
      ∃ h ∈ p.2.heard, SilentFor cfg.timeoutMs clock.nowMs h := by
  have hlatched := hinv.latched
  rw [Region.newlyLost_iff, ← hinv.heard, ← Bool.not_eq_true, ← hlatched]
  unfold Faulty Registry.CommLost
  cases hget : p.1.1.reg.get uri with
  | none => simp
  | some st =>
    have hpast := UInt64.le_trans (hinv.past uri st hget) hle
    simp only [Option.some.injEq, exists_eq_left', Option.map_some, Option.mem_some_iff,
      sub_gt_iff_silentFor hpast, Bool.not_eq_true, ne_eq]
    have hpos : st.lastSeenMs > 0 ↔ ¬st.lastSeenMs = 0 := UInt64.pos_iff_ne_zero
    rw [hpos]

/-- The observer after a tick. -/
theorem watch_tick (cfg : RegionConfig) (uri : Bytes) (m : Silence) (p q : Region × UInt64)
    (clock : Clock) :
    let n := m.watch cfg uri p (.tick clock) q
    n.heard = m.heard ∧
      (n.isOpen = true ↔ m.isOpen = true ∨ m.Starts cfg clock.nowMs) ∧
      n.started = m.started + (if m.Starts cfg clock.nowMs then 1 else 0) ∧
      (n.sinceRegistration = true ↔
        m.sinceRegistration = true ∨ m.Starts cfg clock.nowMs) ∧
      (n.atLastTick = true ↔ m.Starts cfg clock.nowMs) := by
  simp only [Silence.watch]
  split
  · next hstarts => simp [hstarts]
  · next hstarts => simp [hstarts]

/-- At a tick that meets the condition the server lists the device exactly when
an episode starts. -/
theorem EpisodeInv.newlyLost_iff_starts {p : (Region × UInt64) × Silence} {clock : Clock}
    (hinv : EpisodeInv cfg uri p) (hle : p.1.2 ≤ clock.nowMs)
    (hcond : EpisodeCond cfg p.2 (.tick clock)) :
    NewlyLost cfg clock p.1.1 uri ↔ p.2.Starts cfg clock.nowMs := by
  obtain ⟨hended, hstart⟩ := hcond clock rfl
  rw [hinv.newlyLost_iff hle]
  constructor
  · rintro ⟨hsince, -, hsilent⟩
    refine ⟨?_, hsilent⟩
    by_contra hopen
    rw [(hinv.silent (by simpa using hopen)).1] at hsince
    cases hsince
  · intro hstarts
    refine ⟨?_, (hstart hstarts).1, hstarts.2⟩
    by_contra hsince
    have hopen := hended (by simpa using hsince)
    rw [hstarts.1] at hopen
    cases hopen

/-- A tick that meets the condition keeps the invariant. -/
theorem EpisodeInv.tick {p q : (Region × UInt64) × Silence} {clock : Clock}
    (hinv : EpisodeInv cfg uri p) (hcond : EpisodeCond cfg p.2 (.tick clock))
    (h : quietStep cfg uri p (.tick clock) = some q) : EpisodeInv cfg uri q := by
  obtain ⟨-, htimed, hwatch⟩ := quietStep_eq_some.mp h
  obtain ⟨hle, hstep, hnow⟩ := timedStep_eq_some.mp htimed
  have hticks : Ticks cfg clock p.1.1 q.1.1 := by
    rw [← Option.some.inj hstep]
    exact ticks_tick cfg clock p.1.1
  have hle' : p.1.2 ≤ clock.nowMs := hle
  have hnow' : q.1.2 = clock.nowMs := hnow
  have hlost := hinv.newlyLost_iff_starts hle' hcond
  obtain ⟨hheard, hopen, hstarted, hsince, hlast⟩ :=
    watch_tick cfg uri p.2 p.1 q.1 clock
  rw [← hwatch] at hheard hopen hstarted hsince hlast
  refine ⟨?_, ?_, ?_, hinv.past.step htimed, ?_, ?_⟩
  · rw [hticks.alarms, hstarted, hinv.alarms]
    congr 1
    refine if_congr ?_ rfl rfl
    rw [hlost, hinv.active]
    refine and_iff_left_of_imp fun hstarts => ?_
    rw [((hcond clock rfl).2 hstarts).2]
    exact Bool.false_ne_true
  · rw [hticks.get, Option.map_map, hheard, ← hinv.heard]
    congr 1
    funext st
    exact latch_lastSeenMs
  · rw [hticks.faulty_iff, hinv.latched, hlost, hsince]
  · intro hisOpen
    rw [hsince, hheard, hnow']
    rcases hopen.mp hisOpen with hold | hstarts
    · obtain ⟨hold', heard, hmem, hsilent⟩ := hinv.silent hold
      exact ⟨Or.inl hold', heard, hmem, hsilent.mono hle'⟩
    · exact ⟨Or.inr hstarts, hstarts.2⟩
  · rw [hticks.activeLost, hlost, hlast]

/-- A tick obeys the law exactly when it meets the condition. -/
theorem episodeLaw_iff {p q : (Region × UInt64) × Silence} {clock : Clock}
    (hinv : EpisodeInv cfg uri p) (h : quietStep cfg uri p (.tick clock) = some q) :
    EpisodeLaw uri (.tick clock) q ↔ EpisodeCond cfg p.2 (.tick clock) := by
  obtain ⟨-, htimed, hwatch⟩ := quietStep_eq_some.mp h
  obtain ⟨hle, hstep, -⟩ := timedStep_eq_some.mp htimed
  have hticks : Ticks cfg clock p.1.1 q.1.1 := by
    rw [← Option.some.inj hstep]
    exact ticks_tick cfg clock p.1.1
  obtain ⟨-, hopen, hstarted, hsince, -⟩ :=
    watch_tick cfg uri p.2 p.1 q.1 clock
  rw [← hwatch] at hopen hstarted hsince
  have hlost : NewlyLost cfg clock p.1.1 uri ↔ _ := hinv.newlyLost_iff hle
  constructor
  · rintro ⟨halarms, hfault⟩ clock' heq
    cases heq
    -- An episode that starts needs an alarm, so the device must be listed for the first time.
    have hraised : p.2.Starts cfg clock.nowMs →
        NewlyLost cfg clock p.1.1 uri ∧ uri ∉ p.1.1.activeLost := by
      intro hstarts
      by_contra hnot
      rw [hticks.alarms, if_neg hnot, hstarted, if_pos hstarts, hinv.alarms] at halarms
      omega
    refine ⟨fun hlatched => ?_, fun hstarts => ?_⟩
    · have hshown := (hfault trivial).mp (hticks.faulty_iff.mpr (Or.inl (hinv.latched.mpr hlatched)))
      rcases hopen.mp hshown with hstill | hstarts
      · exact hstill
      · have hclear := (hlost.mp (hraised hstarts).1).1
        rw [hlatched] at hclear
        cases hclear
    · refine ⟨(hlost.mp (hraised hstarts).1).2.1, ?_⟩
      rw [← Bool.not_eq_true, ← hinv.active]
      exact (hraised hstarts).2
  · intro hcond
    have hinv' := hinv.tick hcond h
    refine ⟨hinv'.alarms, fun _ => ?_⟩
    rw [hinv'.latched, hsince, hopen]
    exact or_congr_left ⟨(hcond clock rfl).1, fun hstill => (hinv.silent hstill).1⟩

/-- In any run the server raises one alarm for each silence episode of a device,
and shows its fault exactly while one is open, if and only if every tick meets
the condition on the episodes. -/
theorem eachStep_episodeLaw_iff (cfg : RegionConfig) (uri : Bytes) (now : UInt64)
    (es : List Event) :
    EachStep (quietStep cfg uri) (fun _ e q => EpisodeLaw uri e q) ((start, now), .none) es ↔
      EachStep (quietStep cfg uri) (fun p e _ => EpisodeCond cfg p.2 e) ((start, now), .none) es := by
  refine eachStep_iff_of_invariant (I := EpisodeInv cfg uri) ?_ ?_ ?_
  · intro p e q hinv hcond h
    by_cases htick : e.IsTick
    · obtain ⟨clock, rfl⟩ := Event.isTick_iff.mp htick
      exact hinv.tick hcond h
    · exact hinv.message htick h
  · intro p e q hinv h
    by_cases htick : e.IsTick
    · obtain ⟨clock, rfl⟩ := Event.isTick_iff.mp htick
      exact episodeLaw_iff hinv h
    · have hlaw : EpisodeLaw uri e q :=
        ⟨(hinv.message htick h).alarms, fun htick' => absurd htick' htick⟩
      have hcond : EpisodeCond cfg p.2 e := by
        rintro clock rfl
        exact absurd trivial htick
      simp only [hlaw, hcond]
  · refine ⟨rfl, rfl, ?_, fun uri st hget => ?_, fun hopen => ?_, ?_⟩
    · refine iff_of_false ?_ Bool.false_ne_true
      rintro ⟨st, hget, -⟩
      cases hget
    · cases hget
    · cases hopen
    · exact iff_of_false (Finset.notMem_empty uri) Bool.false_ne_true

/-- A lamp registers, is lost, sends a status report and is lost again. -/
def lostTwice : List Event :=
  [.frame 0 (DeviceMessage.register ⟨.luminaire, ascii "lamp", 1⟩).body ⟨1000, 1⟩,
    .tick ⟨26000, 26⟩,
    .frame 0 (DeviceMessage.status ⟨ascii "lamp", 1, 0, 0, 0⟩).body ⟨27000, 27⟩,
    .tick ⟨31000, 31⟩, .tick ⟨51000, 51⟩]

/-- The second episode raises no alarm; already between the episodes the fault is shown. -/
theorem not_eachStep_episodeLaw_lostTwice :
    ¬EachStep (quietStep ⟨1, 20000⟩ (ascii "lamp")) (fun _ e q => EpisodeLaw (ascii "lamp") e q)
      ((start, 0), .none) lostTwice := by
  intro h
  have hlaw := h (lostTwice.take 4) lostTwice[4] (List.prefix_refl _) _ _ rfl rfl
  exact absurd hlaw.1 (by decide)

end Region

end SmartLighting
