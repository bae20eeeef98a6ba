import SmartLighting.RegionSteps

/-!
# The session map

`sessions_` maps a name to the session that registered it. A session enters itself
under each name that it registers, but removes on its close only the entry of its
last name. Commands for a name go to the session that the map shows.
-/

namespace SmartLighting

open Transition DeviceSession

namespace Region

variable {cfg : RegionConfig} {r t : Region} {e : Event} {clock : Clock} {uri : Bytes}

/-- The sessions after one of them was replaced. -/
theorem sessions_setSession (r : Region) (k : ℕ) (s : DeviceSession) (j : ℕ) :
    (r.setSession k s).sessions j = if j = k then s else r.sessions j :=
  Function.update_apply ..

@[simp] theorem sessions_setSession_self (r : Region) (k : ℕ) (s : DeviceSession) :
    (r.setSession k s).sessions k = s := Function.update_self ..

/-- The comm-lost timer changes no session and remembers no motion. -/
theorem tick_leaves :
    (tick cfg clock r).sessions = r.sessions ∧ (tick cfg clock r).lastMotion = r.lastMotion := by
  have hloop : ∀ (lost : List Bytes) (r : Region),
      (lost.foldl (reportLost cfg clock) r).sessions = r.sessions ∧
        (lost.foldl (reportLost cfg clock) r).lastMotion = r.lastMotion := by
    intro lost
    induction lost with
    | nil => exact fun r => ⟨rfl, rfl⟩
    | cons uri lost ih =>
      intro r
      rw [List.foldl_cons, (ih _).1, (ih _).2]
      unfold reportLost
      split <;> exact ⟨rfl, rfl⟩
  unfold tick
  dsimp only
  split
  · split <;> exact hloop _ _
  · exact hloop _ _

theorem sessions_tick : (tick cfg clock r).sessions = r.sessions := tick_leaves.1

theorem lastMotion_tick : (tick cfg clock r).lastMotion = r.lastMotion := tick_leaves.2

theorem sessions_setSession_of_ne {j k : ℕ} (hj : j ≠ k) (r : Region) (s : DeviceSession) :
    (r.setSession k s).sessions j = r.sessions j := Function.update_of_ne hj ..

/-- A session sends one more frame. -/
theorem sent_setSession_queueSend (r : Region) (k : ℕ) (type : MsgType) (payload : Bytes) :
    ((r.setSession k ((r.sessions k).queueSend type payload)).sessions k).queue.sent =
      (r.sessions k).queue.sent ++ [⟨type, payload⟩] := by
  rw [sessions_setSession_self]
  exact SendQueue.sent_post _

/-! ## Handlers that leave the routes -/

/-- No session changes its name or its liveness, and live sessions keep their entries. -/
structure KeepsRoutes (r t : Region) : Prop where
  /-- The names of the sessions. -/
  uri : ∀ k, (t.sessions k).uri = (r.sessions k).uri
  /-- The closed sessions. -/
  closed : t.closed = r.closed
  /-- The sessions that no longer exist. -/
  expired : t.expired = r.expired
  /-- The entries of live sessions. -/
  entry : ∀ u k, k ∉ r.expired → (t.sessionMap.lookup u = some k ↔ r.sessionMap.lookup u = some k)

namespace KeepsRoutes

/-- Where sessions and their map are the same, the routes are. -/
theorem of_eq (hsessions : t.sessions = r.sessions) (hclosed : t.closed = r.closed)
    (hexpired : t.expired = r.expired) (hmap : t.sessionMap = r.sessionMap) : KeepsRoutes r t := by
  constructor
  · intro k
    rw [hsessions]
  · exact hclosed
  · exact hexpired
  · intro u k _
    rw [hmap]

theorem refl (r : Region) : KeepsRoutes r r := .of_eq rfl rfl rfl rfl

theorem trans {a b c : Region} (hab : KeepsRoutes a b) (hbc : KeepsRoutes b c) :
    KeepsRoutes a c := by
  constructor
  · intro k
    rw [hbc.uri, hab.uri]
  · rw [hbc.closed, hab.closed]
  · rw [hbc.expired, hab.expired]
  · intro u k hk
    rw [hbc.entry u k (by rwa [hab.expired]), hab.entry u k hk]

/-- A loop whose body keeps the routes keeps them. -/
theorem foldl {α : Type} {f : Region → α → Region} (hf : ∀ r a, KeepsRoutes r (f r a))
    (l : List α) (r : Region) : KeepsRoutes r (l.foldl f r) := by
  induction l generalizing r with
  | nil => exact .refl r
  | cons a l ih => exact (hf r a).trans (ih (f r a))

/-- A session may change anything but its name. -/
theorem setSession {k : ℕ} {s : DeviceSession} (h : s.uri = (r.sessions k).uri) :
    KeepsRoutes r (r.setSession k s) := by
  constructor
  · intro j
    rw [sessions_setSession]
    split
    · next hj => rw [hj, h]
    · rfl
  · rfl
  · rfl
  · exact fun _ _ _ => Iff.rfl

/-- A queued command leaves the name of the session. -/
theorem uri_sendCmd {s s' : DeviceSession} {cmd value : UInt8} (h : s.sendCmd cmd value = .ok s') :
    s'.uri = s.uri := by
  rcases DeviceSession.sendCmd_eq_ok h with rfl | ⟨-, payload, rfl⟩
  · rfl
  · rfl

/-- Commands remove no entry of a live session. -/
theorem sendCmdToUri (r : Region) (uri : Bytes) (cmd value : UInt8) :
    KeepsRoutes r (r.sendCmdToUri uri cmd value) := by
  unfold Region.sendCmdToUri
  dsimp only
  split
  · exact .of_eq rfl rfl rfl rfl
  · next k hk =>
    split
    · next hexpired =>
      constructor
      · exact fun _ => rfl
      · rfl
      · rfl
      · intro u j hj
        by_cases hu : u = uri
        · subst hu
          rw [AList.lookup_erase, hk]
          refine iff_of_false (Option.some_ne_none j).symm fun heq => ?_
          rw [Option.some.inj heq] at hexpired
          exact hj hexpired
        · exact iff_of_eq (congrArg (· = some j) (AList.lookup_erase_ne hu))
    · split
      · next s hs =>
        exact KeepsRoutes.trans (b := { r with cmds := r.cmds ++ [⟨uri, cmd, value⟩] })
          (.of_eq rfl rfl rfl rfl) (setSession (uri_sendCmd hs))
      · exact .of_eq rfl rfl rfl rfl

theorem makeCalls (r : Region) (calls : List CmdCall) : KeepsRoutes r (r.makeCalls calls) := by
  unfold Region.makeCalls
  exact .foldl (fun r call => sendCmdToUri r call.uri call.cmd call.value) calls r

theorem motionEdge (r : Region) (tel : Telemetry) : KeepsRoutes r (r.motionEdge tel) := by
  rw [motionEdge_eq]
  split
  · exact (makeCalls r _).trans (.of_eq rfl rfl rfl rfl)
  · exact .of_eq rfl rfl rfl rfl

theorem receive (r : Region) (tel : Telemetry) :
    KeepsRoutes r (Region.receive cfg clock r tel) := by
  have hstored : KeepsRoutes r { r with
      reg := r.reg.upsert tel.uri (telemetryState tel clock.nowMs (r.reg.get tel.uri)) } :=
    .of_eq rfl rfl rfl rfl
  unfold Region.receive
  dsimp only
  generalize ({ r with
    reg := r.reg.upsert tel.uri (telemetryState tel clock.nowMs (r.reg.get tel.uri)) } : Region) =
      r₁ at hstored ⊢
  have hmarker : KeepsRoutes r₁
      (if tel.motion = 254 then faultMarker cfg clock r₁ tel else r₁) := by
    split
    · unfold faultMarker
      dsimp only
      split <;> exact .of_eq rfl rfl rfl rfl
    · exact .refl r₁
  generalize (if tel.motion = 254 then faultMarker cfg clock r₁ tel else r₁) = r₂ at hmarker ⊢
  refine (hstored.trans hmarker).trans ?_
  split
  · exact motionEdge r₂ tel
  · exact .refl r₂

theorem tick (r : Region) : KeepsRoutes r (Region.tick cfg clock r) := by
  have hloop : ∀ lost : List Bytes, KeepsRoutes r (lost.foldl (reportLost cfg clock)
      { r with reg := (r.reg.detectCommLost clock.nowMs cfg.timeoutMs).2 }) := by
    intro lost
    refine KeepsRoutes.trans (b := { r with
      reg := (r.reg.detectCommLost clock.nowMs cfg.timeoutMs).2 }) (.of_eq rfl rfl rfl rfl) ?_
    refine .foldl (fun r uri => ?_) lost _
    unfold reportLost
    split
    · exact .refl r
    · exact .of_eq rfl rfl rfl rfl
  unfold Region.tick
  dsimp only
  split
  · split <;> exact (hloop _).trans (.of_eq rfl rfl rfl rfl)
  · exact (hloop _).trans (.of_eq rfl rfl rfl rfl)

end KeepsRoutes

/-! ## Handlers that change the routes -/

/-- The session that an event closes. -/
def Event.closes : Event → Option ℕ
  | .close k => some k
  | .writeDone k _ false => some k
  | _ => none

/-- A frame changes its session, which takes the name that the frame registers and is entered
under it. -/
theorem handleFrame_routes (cfg : RegionConfig) (clock : Clock) (r : Region) (k : ℕ)
    (body : Bytes) :
    (∀ j, j ≠ k → (handleFrame cfg clock r k body).sessions j = r.sessions j) ∧
      ((handleFrame cfg clock r k body).sessions k).uri =
        (Event.registered (.frame k body clock)).getD (r.sessions k).uri ∧
      (handleFrame cfg clock r k body).closed = r.closed ∧
      (handleFrame cfg clock r k body).expired = r.expired ∧
      (handleFrame cfg clock r k body).sessionMap =
        (Event.registered (.frame k body clock)).elim r.sessionMap
          fun uri => r.sessionMap.insert uri k := by
  have huri := (uri_exec_onMessage cfg.regionId (r.sessions k) body clock r.reg).1
  have hbound : (((r.sessions k).onMessage cfg.regionId body clock).exec r.reg).1.bound =
      Event.registered (.frame k body clock) :=
    bound_exec_onMessage cfg.regionId (r.sessions k) body clock r.reg
  rw [← hbound]
  unfold handleFrame
  generalize ((r.sessions k).onMessage cfg.regionId body clock).exec r.reg = result at huri ⊢
  obtain ⟨⟨session, db, fault, bound⟩, reg⟩ := result
  have hself : (Function.update r.sessions k session k).uri = session.uri := by
    rw [Function.update_self]
  have hother : ∀ j, j ≠ k → Function.update r.sessions k session j = r.sessions j :=
    fun j hj => Function.update_of_ne hj ..
  cases fault <;> cases bound <;> exact ⟨hother, hself.trans huri, rfl, rfl, rfl⟩

/-- An accepted registration names its device. -/
theorem ne_nil_of_registered {u : Bytes} (h : e.registered = some u) : u ≠ [] := by
  unfold Event.registered at h
  split at h
  · split at h
    · obtain ⟨haccepts, heq⟩ := Option.ite_none_right_eq_some.mp h
      cases heq
      exact haccepts.1
    · cases h
  · cases h

/-- A frame that registers no name keeps the routes. -/
theorem keepsRoutes_handleFrame {k : ℕ} {body : Bytes}
    (h : Event.registered (.frame k body clock) = none) :
    KeepsRoutes r (handleFrame cfg clock r k body) := by
  obtain ⟨hother, hself, hclosed, hexpired, hmap⟩ := handleFrame_routes cfg clock r k body
  rw [h] at hself hmap
  constructor
  · intro j
    by_cases hj : j = k
    · rw [hj, hself, Option.getD_none]
    · rw [hother j hj]
  · exact hclosed
  · exact hexpired
  · intro u j _
    rw [hmap, Option.elim_none]

/-- A close removes from the live entries that of the session under its last name. -/
theorem lookup_onClose {k : ℕ} {u : Bytes} {j : ℕ} (hj : j ∉ r.expired) :
    (r.onClose k).sessionMap.lookup u = some j ↔
      r.sessionMap.lookup u = some j ∧ ¬(j = k ∧ u = (r.sessions k).uri ∧ u ≠ []) := by
  unfold onClose
  dsimp only
  split
  · next hempty => grind
  · next hname =>
    split
    · next hnone => grind
    · next i hi =>
      split
      · next hremoved =>
        dsimp only
        by_cases hu : u = (r.sessions k).uri
        · rw [hu, AList.lookup_erase, hi]
          grind
        · rw [AList.lookup_erase_ne hu]
          grind
      · next hkept => grind

/-- A close changes no session and ends none. -/
theorem onClose_routes (r : Region) (k : ℕ) :
    (r.onClose k).sessions = r.sessions ∧ (r.onClose k).closed = insert k r.closed ∧
      (r.onClose k).expired = r.expired := by
  unfold onClose
  dsimp only
  split
  · exact ⟨rfl, rfl, rfl⟩
  · split
    · exact ⟨rfl, rfl, rfl⟩
    · split <;> exact ⟨rfl, rfl, rfl⟩

/-! ## The law of the session map -/

/-- The name that an event registers, and the session that registers it. -/
def Event.registers : Event → Option (Bytes × ℕ)
  | .frame k body clock => (Event.registered (.frame k body clock)).map fun uri => (uri, k)
  | _ => none

/-- The ways in which an event can change the routes. -/
inductive Routing (cfg : RegionConfig) (r : Region) : Event → Region → Prop
  /-- No session registers, closes or ends. -/
  | kept {e : Event} {t : Region} (hkeeps : KeepsRoutes r t) (hregisters : e.registers = none)
      (hcloses : e.closes = none) : Routing cfg r e t
  /-- A session registers a name. -/
  | registered {u : Bytes} (k : ℕ) (body : Bytes) (clock : Clock) (hlive : k ∉ r.expired)
      (hregistered : Event.registered (.frame k body clock) = some u) :
      Routing cfg r (.frame k body clock) (handleFrame cfg clock r k body)
  /-- A session closes. -/
  | closed {e : Event} {s : Region} (k : ℕ) (hkeeps : KeepsRoutes r s)
      (hregisters : e.registers = none) (hcloses : e.closes = some k) :
      Routing cfg r e (s.onClose k)
  /-- A session ends. -/
  | ended (k : ℕ) : Routing cfg r (.expire k) { r with expired := insert k r.expired }

/-- Every step changes the routes in one of these ways. -/
theorem routing_of_step (h : step cfg r e = some t) : Routing cfg r e t := by
  cases e with
  | frame k body clock =>
    simp only [step] at h
    split at h
    · cases h
    · next hlive =>
      cases h
      cases hregistered : Event.registered (.frame k body clock) with
      | none =>
        refine .kept (keepsRoutes_handleFrame hregistered) ?_ rfl
        rw [Event.registers, hregistered, Option.map_none]
      | some u => exact .registered k body clock hlive hregistered
  | datagram bytes beyond clock =>
    simp only [step] at h
    split at h
    · next tel htel =>
      cases h
      exact .kept (.receive r tel) rfl rfl
    · cases h
      exact .kept (.refl r) rfl rfl
  | tick clock =>
    cases h
    exact .kept (.tick r) rfl rfl
  | posted k =>
    obtain ⟨q, -, rfl⟩ := Option.map_eq_some_iff.mp h
    exact .kept (.setSession rfl) rfl rfl
  | writeDone k i ok =>
    obtain ⟨s, hs, rfl⟩ := Option.map_eq_some_iff.mp h
    obtain ⟨q, -, rfl⟩ := Option.map_eq_some_iff.mp hs
    cases ok with
    | true => exact .kept (.setSession rfl) rfl rfl
    | false => exact .closed k (.setSession rfl) rfl rfl
  | close k =>
    simp only [step] at h
    split at h
    · cases h
    · cases h
      exact .closed k (.refl r) rfl rfl
  | expire k =>
    simp only [step] at h
    split at h
    · cases h
      exact .ended k
    · cases h

/-- A session that exists after a step existed before it, and was not entered anew unless it
registered. -/
theorem entered_before {k : ℕ} (h : step cfg r e = some t)
    (hother : ∀ u, e.registers ≠ some (u, k)) (hlive : k ∉ t.expired) :
    k ∉ r.expired ∧ ∀ u, t.sessionMap.lookup u = some k → r.sessionMap.lookup u = some k := by
  cases routing_of_step h with
  | kept hkeeps hregisters hcloses =>
    rw [hkeeps.expired] at hlive
    exact ⟨hlive, fun u => (hkeeps.entry u k hlive).mp⟩
  | @registered u j body clock hsession hregistered =>
    obtain ⟨-, -, -, hexpired, hmap⟩ := handleFrame_routes cfg clock r j body
    rw [hregistered, Option.elim_some] at hmap
    rw [hexpired] at hlive
    refine ⟨hlive, fun v hlookup => ?_⟩
    rw [hmap] at hlookup
    rw [Event.registers, hregistered, Option.map_some] at hother
    by_cases hv : v = u
    · rw [hv, AList.lookup_insert] at hlookup
      cases hlookup
      exact absurd rfl (hother u)
    · rwa [AList.lookup_insert_ne hv] at hlookup
  | closed j hkeeps hregisters hcloses =>
    rw [(onClose_routes _ j).2.2, hkeeps.expired] at hlive
    refine ⟨hlive, fun u hlookup => (hkeeps.entry u k hlive).mp ?_⟩
    rw [← hkeeps.expired] at hlive
    exact ((lookup_onClose hlive).mp hlookup).1
  | ended j => exact ⟨fun hmem => hlive (Finset.mem_insert_of_mem hmem), fun u hlookup => hlookup⟩

/-- A session that never registered is not entered. -/
theorem not_entered_of_run {k : ℕ} {es : List Event} (hrun : run (step cfg) start es = some r)
    (hother : ∀ e ∈ es, ∀ u, e.registers ≠ some (u, k)) (hlive : k ∉ r.expired) (u : Bytes) :
    r.sessionMap.lookup u ≠ some k := by
  have hinv := run_of_invariant (I := fun r => k ∉ r.expired → ∀ u, r.sessionMap.lookup u ≠ some k)
    (A := fun e => ∀ u, e.registers ≠ some (u, k))
    (fun r e t hothers hold hstep hlive u hlookup => by
      obtain ⟨hbefore, hentry⟩ := entered_before hstep hothers hlive
      exact hold hbefore u (hentry u hlookup)) hother (fun _ u hlookup => by cases hlookup) hrun
  exact hinv hlive u

/-- A monitor of the session that registered each name last. -/
def watchLast (last : Bytes → Option ℕ) (_ : Region) (e : Event) (_ : Region) :
    Bytes → Option ℕ :=
  match e.registers with
  | some (uri, k) => Function.update last uri (some k)
  | none => last

/-- What `send_cmd_to_uri` returns, and `none` where it throws. -/
def sendCmdToUriResult (r : Region) (uri : Bytes) (cmd value : UInt8) : Option Bool :=
  match r.sessionMap.lookup uri with
  | none => some false
  | some k =>
    if k ∈ r.expired then some false
    else
      match (r.sessions k).sendCmd cmd value with
      | .ok _ => some true
      | .error _ => none

/-- A name leads to the session that has it, is open and registered it last. -/
def Owned (r : Region) (last : Bytes → Option ℕ) : Prop :=
  ∀ u k, r.sessionMap.lookup u = some k → k ∉ r.expired →
    (r.sessions k).uri = u ∧ k ∉ r.closed ∧ last u = some k

/-- What a step should leave, with the last registrations up to it. -/
structure SessionLaw (r : Region) (e : Event) (t : Region) (last : Bytes → Option ℕ) : Prop where
  /-- The entries of live sessions. -/
  owned : Owned t last
  /-- A close of one session leaves the entries of the others. -/
  others : ∀ k, e.closes = some k → ∀ u j, j ≠ k → j ∉ r.expired →
    r.sessionMap.lookup u = some j → t.sessionMap.lookup u = some j
  /-- A command that is reported as sent is queued under its name for that session. -/
  commands : ∀ u cmd value, t.sendCmdToUriResult u cmd value = some true →
    ∃ k payload, last u = some k ∧ k ∉ t.closed ∧ k ∉ t.expired ∧
      encodeCommand ⟨u, cmd, value⟩ = .ok payload ∧
      (t.sendCmdToUri u cmd value).sessions =
        Function.update t.sessions k ((t.sessions k).queueSend .cmd payload)

/-- A session registers only while it is open, and registers another name only when its old
name does not lead to it. -/
def ClearRegistration (r : Region) (e : Event) : Prop :=
  ∀ u k, e.registers = some (u, k) →
    k ∉ r.closed ∧ ((r.sessions k).uri = u ∨ r.sessionMap.lookup (r.sessions k).uri ≠ some k)

/-- The invariant: besides the law, no live session is entered without a name. -/
structure Routed (r : Region) (last : Bytes → Option ℕ) : Prop where
  /-- The entries of live sessions. -/
  owned : Owned r last
  /-- They have names. -/
  named : ∀ u k, r.sessionMap.lookup u = some k → k ∉ r.expired → u ≠ []

variable {last : Bytes → Option ℕ}

/-- The session and the body of a registration. -/
theorem frame_of_registers {u : Bytes} {k : ℕ} (h : e.registers = some (u, k)) :
    ∃ body clock, e = .frame k body clock ∧ e.registered = some u := by
  cases e with
  | frame j body clock =>
    obtain ⟨v, hregistered, heq⟩ := Option.map_eq_some_iff.mp h
    cases heq
    exact ⟨body, clock, rfl, hregistered⟩
  | _ => cases h

/-- Handlers that keep the routes keep the invariant. -/
theorem Routed.of_keepsRoutes (hinv : Routed r last) (h : KeepsRoutes r t) : Routed t last := by
  constructor
  · intro u k hlookup hlive
    rw [h.expired] at hlive
    rw [h.uri, h.closed]
    exact hinv.owned u k ((h.entry u k hlive).mp hlookup) hlive
  · intro u k hlookup hlive
    rw [h.expired] at hlive
    exact hinv.named u k ((h.entry u k hlive).mp hlookup) hlive

/-- A close keeps the invariant: an entry of the session would be under its name. -/
theorem Routed.onClose (hinv : Routed r last) (k : ℕ) : Routed (r.onClose k) last := by
  obtain ⟨hsessions, hclosed, hexpired⟩ := onClose_routes r k
  constructor
  · intro u j hlookup hlive
    rw [hexpired] at hlive
    obtain ⟨hold, hkept⟩ := (lookup_onClose hlive).mp hlookup
    obtain ⟨huri, hopen, hlast⟩ := hinv.owned u j hold hlive
    rw [hsessions, hclosed]
    refine ⟨huri, ?_, hlast⟩
    rw [Finset.mem_insert, not_or]
    refine ⟨?_, hopen⟩
    rintro rfl
    exact hkept ⟨rfl, huri.symm, hinv.named u j hold hlive⟩
  · intro u j hlookup hlive
    rw [hexpired] at hlive
    exact hinv.named u j ((lookup_onClose hlive).mp hlookup).1 hlive

/-- The last reference to a session is dropped: fewer sessions are live. -/
theorem Routed.expire (hinv : Routed r last) (k : ℕ) :
    Routed { r with expired := insert k r.expired } last := by
  have hlive : ∀ j, j ∉ insert k r.expired → j ∉ r.expired :=
    fun j hj hmem => hj (Finset.mem_insert_of_mem hmem)
  constructor
  · intro u j hlookup hj
    exact hinv.owned u j hlookup (hlive j hj)
  · intro u j hlookup hj
    exact hinv.named u j hlookup (hlive j hj)

/-- A registration that leaves no old entry behind keeps the invariant. -/
theorem Routed.register {u : Bytes} {k : ℕ} {body : Bytes} (hinv : Routed r last)
    (hregistered : Event.registered (.frame k body clock) = some u) (hopen : k ∉ r.closed)
    (hclear : (r.sessions k).uri = u ∨ r.sessionMap.lookup (r.sessions k).uri ≠ some k) :
    Routed (handleFrame cfg clock r k body) (Function.update last u (some k)) := by
  obtain ⟨hother, hself, hclosed, hexpired, hmap⟩ := handleFrame_routes cfg clock r k body
  rw [hregistered, Option.getD_some] at hself
  rw [hregistered, Option.elim_some] at hmap
  constructor
  · intro v j hlookup hlive
    rw [hexpired] at hlive
    rw [hmap] at hlookup
    rw [hclosed]
    by_cases hv : v = u
    · subst hv
      rw [AList.lookup_insert] at hlookup
      cases hlookup
      exact ⟨hself, hopen, Function.update_self ..⟩
    · rw [AList.lookup_insert_ne hv] at hlookup
      obtain ⟨huri, hj, hlast⟩ := hinv.owned v j hlookup hlive
      have hne : j ≠ k := by
        rintro rfl
        rcases hclear with hsame | hgone
        · exact hv (huri.symm.trans hsame)
        · exact hgone (huri.symm ▸ hlookup)
      rw [hother j hne, Function.update_of_ne hv]
      exact ⟨huri, hj, hlast⟩
  · intro v j hlookup hlive
    rw [hexpired] at hlive
    rw [hmap] at hlookup
    by_cases hv : v = u
    · rw [hv]
      exact ne_nil_of_registered hregistered
    · rw [AList.lookup_insert_ne hv] at hlookup
      exact hinv.named v j hlookup hlive

/-- Where nothing is registered, the last registrations stay. -/
theorem watchLast_of_none (h : e.registers = none) : watchLast last r e t = last := by
  rw [watchLast, h]

/-- Every step whose registrations are clear keeps the invariant. -/
theorem Routed.step (hinv : Routed r last) (hclear : ClearRegistration r e)
    (h : step cfg r e = some t) : Routed t (watchLast last r e t) := by
  cases routing_of_step h with
  | kept hkeeps hregisters hcloses =>
    rw [watchLast_of_none hregisters]
    exact hinv.of_keepsRoutes hkeeps
  | @registered u k body clock hlive hregistered =>
    have hregisters : Event.registers (.frame k body clock) = some (u, k) := by
      rw [Event.registers, hregistered, Option.map_some]
    obtain ⟨hopen, hname⟩ := hclear u k hregisters
    simp only [watchLast, hregisters]
    exact hinv.register hregistered hopen hname
  | closed k hkeeps hregisters hcloses =>
    rw [watchLast_of_none hregisters]
    exact (hinv.of_keepsRoutes hkeeps).onClose k
  | ended k => exact hinv.expire k

/-- A close leaves the entries of the other live sessions. -/
theorem lookup_of_closes {k : ℕ} (h : step cfg r e = some t) (hcloses : e.closes = some k)
    {u : Bytes} {j : ℕ} (hj : j ≠ k) (hlive : j ∉ r.expired)
    (hlookup : r.sessionMap.lookup u = some j) : t.sessionMap.lookup u = some j := by
  cases routing_of_step h with
  | kept hkeeps hregisters hnone =>
    rw [hnone] at hcloses
    cases hcloses
  | registered i body clock hsession hregistered => cases hcloses
  | closed i hkeeps hregisters hsome =>
    rw [hsome] at hcloses
    cases hcloses
    have hkept := (hkeeps.entry u j hlive).mpr hlookup
    rw [← hkeeps.expired] at hlive
    exact (lookup_onClose hlive).mpr ⟨hkept, fun hmine => hj hmine.1⟩
  | ended i => cases hcloses

/-- Where the invariant holds, a command that is reported as sent is queued for the right
session. -/
theorem Routed.queued {u : Bytes} {cmd value : UInt8} (hinv : Routed r last)
    (hsent : r.sendCmdToUriResult u cmd value = some true) :
    ∃ k payload, last u = some k ∧ k ∉ r.closed ∧ k ∉ r.expired ∧
      encodeCommand ⟨u, cmd, value⟩ = .ok payload ∧
      (r.sendCmdToUri u cmd value).sessions =
        Function.update r.sessions k ((r.sessions k).queueSend .cmd payload) := by
  unfold sendCmdToUriResult at hsent
  cases hlookup : r.sessionMap.lookup u with
  | none =>
    rw [hlookup] at hsent
    cases hsent
  | some k =>
    simp only [hlookup] at hsent
    split at hsent
    · cases hsent
    · next hlive =>
      obtain ⟨huri, hopen, hlast⟩ := hinv.owned u k hlookup hlive
      have hnamed : (r.sessions k).uri ≠ [] := huri ▸ hinv.named u k hlookup hlive
      have hcmd : (r.sessions k).sendCmd cmd value =
          (encodeCommand ⟨u, cmd, value⟩).map ((r.sessions k).queueSend .cmd) := by
        rw [DeviceSession.sendCmd_of_named hnamed, huri]
      rw [hcmd] at hsent
      cases hencode : encodeCommand ⟨u, cmd, value⟩ with
      | error message =>
        rw [hencode] at hsent
        cases hsent
      | ok payload =>
        refine ⟨k, payload, hlast, hopen, hlive, rfl, ?_⟩
        unfold sendCmdToUri
        simp only [hlookup, if_neg hlive, hcmd, hencode]
        rfl

/-- A law that holds after a registration shows that the registration was clear. -/
theorem clearRegistration_of_owned (h : step cfg r e = some t)
    (howned : Owned t (watchLast last r e t)) : ClearRegistration r e := by
  intro u k hregisters
  obtain ⟨body, clock, rfl, hregistered⟩ := frame_of_registers hregisters
  simp only [step] at h
  split at h
  · cases h
  · next hlive =>
    cases h
    obtain ⟨hother, hself, hclosed, hexpired, hmap⟩ := handleFrame_routes cfg clock r k body
    rw [hregistered, Option.getD_some] at hself
    rw [hregistered, Option.elim_some] at hmap
    have hentry : ∀ v, (handleFrame cfg clock r k body).sessionMap.lookup v = some k →
        u = v ∧ k ∉ r.closed := by
      intro v hlookup
      obtain ⟨huri, hopen, -⟩ := howned v k hlookup (by rwa [hexpired])
      exact ⟨hself.symm.trans huri, by rwa [hclosed] at hopen⟩
    refine ⟨(hentry u (by rw [hmap, AList.lookup_insert])).2, ?_⟩
    by_contra hstale
    rw [not_or, not_not] at hstale
    obtain ⟨hne, hold⟩ := hstale
    have hkept : (handleFrame cfg clock r k body).sessionMap.lookup (r.sessions k).uri =
        some k := by
      rw [hmap, AList.lookup_insert_ne hne, hold]
    exact hne (hentry _ hkept).1.symm

/-- In any run of a region names lead to their open, last registered sessions exactly when
every session registers while it is open and leaves no entry of an old name behind. -/
theorem eachStep_sessionLaw_iff (cfg : RegionConfig) (es : List Event) :
    EachStep (monitored (step cfg) watchLast) (fun p e q => SessionLaw p.1 e q.1 q.2)
        (start, fun _ => none) es ↔
      EachStep (monitored (step cfg) watchLast) (fun p e _ => ClearRegistration p.1 e)
        (start, fun _ => none) es := by
  refine eachStep_monitored_iff (J := Routed) (L := fun r _ e t last => SessionLaw r e t last)
    (C := fun r _ e => ClearRegistration r e) ?_ ?_ ?_
  · intro r last e t hinv hclear hstep
    exact hinv.step hclear hstep
  · intro r last e t hinv hstep
    constructor
    · intro hlaw
      exact clearRegistration_of_owned hstep hlaw.owned
    · intro hclear
      have hnext := hinv.step hclear hstep
      constructor
      · exact hnext.owned
      · intro k hcloses u j hj hlive hlookup
        exact lookup_of_closes hstep hcloses hj hlive hlookup
      · intro u cmd value hsent
        exact hnext.queued hsent
  · constructor
    · intro u k hlookup
      cases hlookup
    · intro u k hlookup
      cases hlookup

/-- One session registers two names. -/
def twoNames : List Event :=
  [.frame 0 (DeviceMessage.register ⟨.luminaire, ascii "a", 1⟩).body ⟨1000, 1⟩,
    .frame 0 (DeviceMessage.register ⟨.luminaire, ascii "b", 1⟩).body ⟨2000, 2⟩]

/-- The first name still leads to the session, which now has the second. -/
theorem not_eachStep_sessionLaw_twoNames :
    ¬EachStep (monitored (step ⟨7, 5000⟩) watchLast) (fun p e q => SessionLaw p.1 e q.1 q.2)
      (start, fun _ => none) twoNames := by
  intro h
  have hlaw := h (twoNames.take 1) twoNames[1] (List.prefix_refl _) _ _ rfl rfl
  have hstale := hlaw.owned (ascii "a") 0 (by decide) (by decide)
  exact absurd hstale.1 (by decide)

end Region

end SmartLighting
