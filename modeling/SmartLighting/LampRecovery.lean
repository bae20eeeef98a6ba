import SmartLighting.LampDrain

/-!
# A lamp comes back

However connections fail, time out or are given up, some operation of `LuminaireClient` is under
way that leads to the next attempt. From every state that a run reaches, the lamp can write what it
has queued, its registration included, be registered and write its status. If its name does not fit
a message, the next attempt ends the process.
-/

namespace SmartLighting

open StateMachine Transition

namespace Lamp

variable {cfg : LampConfig} {l t : Lamp} {e : Event}

/-- A wait of `timer_reconnect_` is cancelled only by a later one. -/
def Cancels (l : Lamp) : Event → Prop
  | .reconnectTimer true => 2 ≤ l.reconnectWaits
  | _ => True

instance (l : Lamp) (e : Event) : Decidable (l.Cancels e) := by
  unfold Cancels
  split <;> infer_instance

/-- The lamp with its timers. -/
def timedStep (cfg : LampConfig) : Lamp → Event → Option Lamp := restrict Cancels (step cfg)

/-- An operation of the connection is pending. -/
def Connecting (l : Lamp) : Prop :=
  l.resolves ≠ 0 ∨ l.connects ≠ 0 ∨ l.handshakes ≠ 0 ∨ l.reads ≠ 0 ∨ l.reconnectWaits ≠ 0

/-- The lamp is registered, and the last frame whose write has completed says that it is off; or its
name has ended the process. -/
def CameBack (cfg : LampConfig) (l : Lamp) : Prop :=
  if cfg.uri.length ≤ 65535 then
    l.stopped = false ∧ l.state = .off ∧ l.queue.completed.getLast? = some (l.statusFrame cfg)
  else l.stopped = true

/-- A lamp that runs can come back, with ten handlers more than it needs to write what it has
queued. -/
def ComesBack (cfg : LampConfig) (l : Lamp) : Prop :=
  l.stopped = false → CanReach (timedStep cfg) (CameBack cfg) (l.backlog + 10) l

/-- What holds between two handlers. -/
structure Alive (cfg : LampConfig) (l : Lamp) : Prop where
  /-- The facts that all handlers keep. -/
  sound : Sound cfg l
  /-- The queue is not stuck. -/
  flows : l.queue.Flows
  /-- There will be another attempt. -/
  connects : l.stopped = false → l.Connecting

/-! ## The next attempt -/

/-- A lamp that gave up its connection waits. -/
theorem connecting_scheduleReconnect : l.scheduleReconnect.Connecting := by
  rw [scheduleReconnect_eq]
  exact Or.inr (Or.inr (Or.inr (Or.inr (Nat.succ_ne_zero _))))

/-- After a handshake the lamp reads. -/
theorem connecting_of_reads (h : l.reads ≠ 0) : l.Connecting :=
  Or.inr (Or.inr (Or.inr (Or.inl h)))

/-- A handshake ends with a registration, or ends the process. -/
theorem connectedUp_spec (cfg : LampConfig) (hsound : Sound cfg l) (hrunning : l.stopped = false) :
    if cfg.uri.length ≤ 65535 then
      (l.connectedUp cfg).stopped = false ∧ (l.connectedUp cfg).state = .registering ∧
        (l.connectedUp cfg).reads ≠ 0
    else (l.connectedUp cfg).stopped = true := by
  by_cases hfits : cfg.uri.length ≤ 65535
  · rw [if_pos hfits]
    unfold connectedUp
    dsimp only
    rw [if_pos hfits]
    by_cases hregistering : l.state = .registering
    · have hkept : ¬(l.state ≠ .unregistered ∧ l.state ≠ .registering) := fun h => h.2 hregistering
      rw [if_neg hkept, if_pos hregistering]
      exact ⟨hrunning, hregistering, Nat.succ_ne_zero _⟩
    · by_cases hkept : l.state ≠ .unregistered ∧ l.state ≠ .registering
      · rw [if_pos hkept, if_neg (by rw [assign_state]; decide)]
        exact ⟨hrunning, rfl, Nat.succ_ne_zero _⟩
      · rw [if_neg hkept, if_neg hregistering]
        exact ⟨hrunning, rfl, Nat.succ_ne_zero _⟩
  · have hunregistered := (hsound.fits hrunning (by omega)).1
    rw [if_neg hfits, connectedUp_of_unregistered hunregistered, if_neg hfits]

/-- Every handler leaves such an operation. -/
theorem Alive.step (h : Alive cfg l) (hstep : timedStep cfg l e = some t) : Alive cfg t := by
  obtain ⟨hcancels, hstep⟩ := restrict_eq_some.mp hstep
  refine ⟨h.sound.step hstep, flows_step h.sound h.flows hstep, fun halive => ?_⟩
  obtain ⟨hrunning, hpending, rfl⟩ := step_eq h.sound hstep
  have hsome := h.connects hrunning
  cases e with
  | resolved ok =>
    cases ok with
    | true => exact Or.inr (Or.inl (Nat.succ_ne_zero _))
    | false => exact connecting_scheduleReconnect
  | connected ok =>
    cases ok with
    | true => exact Or.inr (Or.inr (Or.inl (Nat.succ_ne_zero _)))
    | false => exact connecting_scheduleReconnect
  | handshaken ok =>
    cases ok with
    | true =>
      have hsound : Sound cfg { l with handshakes := l.handshakes - 1 } :=
        ⟨h.sound.sock, h.sound.idle, h.sound.held, h.sound.fits⟩
      have hup := connectedUp_spec cfg hsound hrunning
      split at hup
      · exact connecting_of_reads hup.2.2
      · have hstopped :
            (connectedUp cfg { l with handshakes := l.handshakes - 1 }).stopped = false := halive
        rw [hup] at hstopped
        cases hstopped
    | false => exact connecting_scheduleReconnect
  | posted =>
    obtain ⟨q, hq⟩ := hpending
    simp only [after, hq]
    exact hsome
  | writeDone i ok =>
    obtain ⟨q, hq⟩ := hpending
    simp only [after, hq]
    cases ok with
    | true =>
      rw [written_eq]
      exact hsome
    | false => exact connecting_scheduleReconnect
  | readFailed => exact connecting_scheduleReconnect
  | frame body draw => exact connecting_of_reads (Nat.succ_ne_zero _)
  | registerTimer cancelled =>
    simp only [after]
    split
    · exact hsome
    split
    · exact connecting_scheduleReconnect
    · exact hsome
  | reconnectTimer cancelled =>
    cases cancelled with
    | true =>
      -- Another wait is left.
      have htwo : 2 ≤ l.reconnectWaits := hcancels
      have hleft : l.reconnectWaits - 1 ≠ 0 := by omega
      exact Or.inr (Or.inr (Or.inr (Or.inr hleft)))
    | false => exact Or.inl (Nat.succ_ne_zero _)
  | heartbeatTimer cancelled =>
    simp only [after]
    split
    · exact hsome
    · rw [scheduleHeartbeat_eq]
      split <;> exact hsome
  | resetTimer =>
    simp only [after]
    split
    · exact connecting_scheduleReconnect
    · exact hsome
  | stopTimer => cases halive

/-! ## The way back -/

/-- An operation that is pending can complete. -/
theorem exists_handle (hrunning : l.stopped = false) (hpending : Pending l e) :
    ∃ t, step cfg l e = some t := by
  have hhandle : ∃ r, l.handle cfg e = some r := by
    cases e with
    | resolved ok => exact ⟨_, if_neg hpending⟩
    | connected ok => exact ⟨_, if_neg hpending⟩
    | handshaken ok => exact ⟨_, if_neg hpending⟩
    | posted =>
      obtain ⟨q, hq⟩ := hpending
      exact ⟨_, by rw [handle, hq]; rfl⟩
    | writeDone i ok =>
      obtain ⟨q, hq⟩ := hpending
      exact ⟨_, by rw [handle, writeDone, hq]; rfl⟩
    | readFailed => exact ⟨_, if_neg hpending⟩
    | frame body draw =>
      obtain ⟨hreads, hmin, hmax⟩ := hpending
      refine ⟨_, if_neg ?_⟩
      simp only [not_or, not_lt]
      exact ⟨hreads, hmin, hmax⟩
    | registerTimer cancelled => exact ⟨_, if_neg hpending⟩
    | reconnectTimer cancelled => exact ⟨_, if_neg hpending⟩
    | heartbeatTimer cancelled => exact ⟨_, if_neg hpending⟩
    | resetTimer => exact ⟨_, if_neg hpending⟩
    | stopTimer => exact ⟨_, if_neg hpending⟩
  obtain ⟨r, hr⟩ := hhandle
  refine ⟨finish r, ?_⟩
  rw [step, hrunning, hr]
  rfl

/-- It takes the lamp one handler closer. -/
private theorem canReach_after {n : ℕ} (halive : Alive cfg l) (hrunning : l.stopped = false)
    (hpending : Pending l e) (hcancels : l.Cancels e)
    (h : Alive cfg (l.after cfg e) → CanReach (timedStep cfg) (CameBack cfg) n (l.after cfg e)) :
    CanReach (timedStep cfg) (CameBack cfg) (n + 1) l := by
  have hsome : ∃ t, step cfg l e = some t := exists_handle hrunning hpending
  obtain ⟨t, ht⟩ := hsome
  have htimed : timedStep cfg l e = some t := restrict_eq_some.mpr ⟨hcancels, ht⟩
  have hnext := halive.step htimed
  obtain ⟨-, -, rfl⟩ := step_eq halive.sound ht
  exact .cons htimed (h hnext)

/-- The lamp writes what it has queued, and nothing else happens. -/
private theorem canReach_idle {n m : ℕ} (halive : Alive cfg l) (hrunning : l.stopped = false)
    (hbacklog : l.backlog ≤ n)
    (h : ∀ t, Alive cfg t → SameButQueue l t → t.queue.Idle →
      CanReach (timedStep cfg) (CameBack cfg) m t) :
    CanReach (timedStep cfg) (CameBack cfg) (n + m) l := by
  induction n generalizing l with
  | zero =>
    by_cases hidle : l.queue.Idle
    · exact (h l halive (.refl l) hidle).mono (Nat.le_add_left ..)
    · obtain ⟨e, -, -, -, hless⟩ := exists_write cfg halive.flows hidle
      omega
  | succ n ih =>
    by_cases hidle : l.queue.Idle
    · exact (h l halive (.refl l) hidle).mono (Nat.le_add_left ..)
    · obtain ⟨e, he, hpending, hsame, hless⟩ := exists_write cfg halive.flows hidle
      have hcancels : l.Cancels e := by rcases he with rfl | rfl <;> trivial
      rw [Nat.add_right_comm]
      exact canReach_after halive hrunning hpending hcancels fun hnext =>
        ih hnext (hsame.stopped.trans hrunning) (by omega) fun t ht hsame' =>
          h t ht (hsame.trans hsame')

/-- A status that is the only frame of its lamp is written. -/
private theorem canReach_of_status {q : SendQueue} (halive : Alive cfg l)
    (hrunning : l.stopped = false) (hfits : cfg.uri.length ≤ 65535) (hstate : l.state = .off)
    (hidle : q.Idle) (hflows : q.Flows) (hqueue : l.queue = q.post (l.statusFrame cfg)) :
    CanReach (timedStep cfg) (CameBack cfg) 2 l := by
  have hposted := hidle.runPosted_post hflows (l.statusFrame cfg)
  rw [← hqueue] at hposted
  have hpending : Pending l .posted := ⟨_, hposted⟩
  refine canReach_after halive hrunning hpending trivial fun hnext => ?_
  simp only [after, hposted] at hnext ⊢
  generalize hm : l.setQueue _ = m at hnext ⊢
  obtain ⟨r, hcomplete, hcompleted⟩ : ∃ r, m.queue.complete 0 true = some r ∧
      r.completed = q.completed ++ [l.statusFrame cfg] := by
    rw [← hm]
    exact ⟨_, rfl, rfl⟩
  have hsame : SameButQueue l m := by
    rw [← hm]
    rfl
  have hpending' : Pending m (.writeDone 0 true) := ⟨_, hcomplete⟩
  refine canReach_after hnext (hsame.stopped.trans hrunning) hpending' trivial fun _ => ?_
  refine .done ?_
  simp only [after, hcomplete]
  have hwritten : SameButQueue l (m.written cfg r true) := hsame.trans (sameButQueue_written r)
  rw [CameBack, if_pos hfits, completed_written, hwritten.statusFrame, hcompleted]
  exact ⟨hwritten.stopped.trans hrunning, hwritten.state.trans hstate, List.getLast?_concat⟩

/-- The REGISTER_ACK is answered with a status. -/
private theorem after_ack (hstate : l.state = .registering) :
    (l.after cfg (.frame [MsgType.registerAck.code] 0)).stopped = l.stopped ∧
      (l.after cfg (.frame [MsgType.registerAck.code] 0)).state = .off ∧
      (l.after cfg (.frame [MsgType.registerAck.code] 0)).queue =
        l.queue.post ((l.after cfg (.frame [MsgType.registerAck.code] 0)).statusFrame cfg) := by
  have hack : frameType [MsgType.registerAck.code] = some .registerAck := rfl
  have hstate' : ({ l with reads := l.reads - 1 } : Lamp).state = .registering ∨
      ({ l with reads := l.reads - 1 } : Lamp).state = .on := Or.inl hstate
  simp only [after, received, if_pos hack, if_pos hstate', acked]
  rw [scheduleHeartbeat_eq]
  exact ⟨rfl, rfl, rfl⟩

/-- A lamp that waits for its REGISTER_ACK has written its registration before the ACK comes. -/
private theorem canReach_of_registering (halive : Alive cfg l) (hrunning : l.stopped = false)
    (hfits : cfg.uri.length ≤ 65535) (hstate : l.state = .registering) (hreads : l.reads ≠ 0) :
    CanReach (timedStep cfg) (CameBack cfg) (l.backlog + 3) l := by
  refine canReach_idle halive hrunning (Nat.le_refl _) fun t ht hsame hidle => ?_
  have hreads' : t.reads ≠ 0 := by rwa [hsame.reads]
  have hframe : Pending t (.frame [MsgType.registerAck.code] 0) :=
    ⟨hreads', Nat.le_refl 1, by decide⟩
  have hrunning' : t.stopped = false := hsame.stopped.trans hrunning
  obtain ⟨hstopped, hoff, hqueue⟩ := after_ack (hsame.state.trans hstate)
  exact canReach_after ht hrunning' hframe trivial fun hnext =>
    canReach_of_status hnext (hstopped.trans hrunning') hfits hoff hidle ht.flows hqueue

/-- After a handshake. -/
private theorem canReach_of_handshakes (halive : Alive cfg l) (hrunning : l.stopped = false)
    (h : l.handshakes ≠ 0) : CanReach (timedStep cfg) (CameBack cfg) (l.backlog + 6) l := by
  have hpending : Pending l (.handshaken true) := h
  refine canReach_after halive hrunning hpending trivial fun hnext => ?_
  have hsound : Sound cfg { l with handshakes := l.handshakes - 1 } :=
    ⟨halive.sound.sock, halive.sound.idle, halive.sound.held, halive.sound.fits⟩
  have hup := connectedUp_spec cfg hsound hrunning
  have hbacklog : (l.after cfg (.handshaken true)).backlog ≤ l.backlog + 2 :=
    backlog_connectedUp cfg { l with handshakes := l.handshakes - 1 }
  split at hup
  · next hfits =>
    exact (canReach_of_registering hnext hup.1 hfits hup.2.1 hup.2.2).mono (by omega)
  · next hlong =>
    refine .done ?_
    rw [CameBack, if_neg hlong]
    exact hup

/-- After a connection. -/
private theorem canReach_of_connects (halive : Alive cfg l) (hrunning : l.stopped = false)
    (h : l.connects ≠ 0) : CanReach (timedStep cfg) (CameBack cfg) (l.backlog + 7) l := by
  have hpending : Pending l (.connected true) := h
  exact canReach_after halive hrunning hpending trivial fun hnext =>
    canReach_of_handshakes hnext hrunning (Nat.succ_ne_zero _)

/-- After a resolution. -/
private theorem canReach_of_resolves (halive : Alive cfg l) (hrunning : l.stopped = false)
    (h : l.resolves ≠ 0) : CanReach (timedStep cfg) (CameBack cfg) (l.backlog + 8) l := by
  have hpending : Pending l (.resolved true) := h
  exact canReach_after halive hrunning hpending trivial fun hnext =>
    canReach_of_connects hnext hrunning (Nat.succ_ne_zero _)

/-- After the wait for a new attempt. -/
private theorem canReach_of_reconnectWaits (halive : Alive cfg l) (hrunning : l.stopped = false)
    (h : l.reconnectWaits ≠ 0) : CanReach (timedStep cfg) (CameBack cfg) (l.backlog + 9) l := by
  have hpending : Pending l (.reconnectTimer false) := h
  exact canReach_after halive hrunning hpending trivial fun hnext =>
    canReach_of_resolves hnext hrunning (Nat.succ_ne_zero _)

/-- After a read, which may fail. -/
private theorem canReach_of_reads (halive : Alive cfg l) (hrunning : l.stopped = false)
    (h : l.reads ≠ 0) : CanReach (timedStep cfg) (CameBack cfg) (l.backlog + 10) l := by
  have hpending : Pending l .readFailed := h
  refine canReach_after halive hrunning hpending trivial fun hnext => ?_
  have hwaits : (l.after cfg .readFailed).reconnectWaits ≠ 0 := by
    simp only [after]
    rw [scheduleReconnect_eq]
    exact Nat.succ_ne_zero _
  have hrunning' : (l.after cfg .readFailed).stopped = false := by
    simp only [after]
    rw [scheduleReconnect_eq]
    exact hrunning
  have hbacklog : (l.after cfg .readFailed).backlog ≤ l.backlog :=
    backlog_scheduleReconnect { l with reads := l.reads - 1 }
  exact (canReach_of_reconnectWaits hnext hrunning' hwaits).mono (by omega)

/-- Whichever operation is pending, it leads back. -/
theorem Alive.comesBack (h : Alive cfg l) : ComesBack cfg l := by
  intro hrunning
  rcases h.connects hrunning with hpending | hpending | hpending | hpending | hpending
  · exact (canReach_of_resolves h hrunning hpending).mono (by omega)
  · exact (canReach_of_connects h hrunning hpending).mono (by omega)
  · exact (canReach_of_handshakes h hrunning hpending).mono (by omega)
  · exact canReach_of_reads h hrunning hpending
  · exact (canReach_of_reconnectWaits h hrunning hpending).mono (by omega)

theorem alive_start (cfg : LampConfig) : Alive cfg (start cfg) :=
  ⟨.start, ⟨nofun, fun _ => rfl⟩, fun _ => Or.inl (Nat.succ_ne_zero _)⟩

/-- A lamp always comes back: in every state of every run, whatever failed before, ten handlers more
than it needs to write what it has queued are enough to register it and to write its status; or to
end the process, where its name does not fit a message. -/
theorem always_comesBack (cfg : LampConfig) (es : List Event) :
    Always (timedStep cfg) (ComesBack cfg) (start cfg) es :=
  (Always.of_invariant (fun _ _ _ h hstep => Alive.step h hstep) (alive_start cfg)).mono
    fun _ => Alive.comesBack

end Lamp

end SmartLighting
