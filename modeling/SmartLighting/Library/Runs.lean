import Mathlib.Data.List.Basic

/-!
# Runs of a partial transition function

A system is a function `step : σ → ε → Option σ`: an event that is not enabled
in a state has no successor. Every choice of the environment is part of the
event, so a run is determined by its events. The rules below turn facts about
one step into facts about every state, or every step, of every run.
-/

namespace Transition

variable {σ ε μ : Type*}

/-- The state after the listed events, or `none` if one of them is not enabled. -/
def run (step : σ → ε → Option σ) : σ → List ε → Option σ
  | s, [] => some s
  | s, e :: es => (step s e).bind fun t => run step t es

/-- `P` holds in every state that some prefix of the events reaches. -/
def Always (step : σ → ε → Option σ) (P : σ → Prop) (s : σ) (es : List ε) : Prop :=
  ∀ before, before <+: es → ∀ t, run step s before = some t → P t

/-- `Q` holds of every step taken along the events. -/
def EachStep (step : σ → ε → Option σ) (Q : σ → ε → σ → Prop) (s : σ) (es : List ε) : Prop :=
  ∀ before e, before ++ [e] <+: es → ∀ t u, run step s before = some t →
    step t e = some u → Q t e u

variable {step : σ → ε → Option σ} {P I : σ → Prop} {Q : σ → ε → σ → Prop}
  {C : σ → ε → Prop} {s : σ} {es : List ε}

@[simp] theorem run_nil : run step s [] = some s := rfl

@[simp] theorem run_cons (e : ε) :
    run step s (e :: es) = (step s e).bind fun t => run step t es := rfl

/-- A run of two lists of events is a run of the first followed by one of the second. -/
theorem run_append (before after : List ε) :
    run step s (before ++ after) = (run step s before).bind fun t => run step t after := by
  induction before generalizing s with
  | nil => rfl
  | cons e before ih =>
    rw [List.cons_append, run_cons, run_cons]
    cases step s e with
    | none => rfl
    | some t => exact ih

/-- The empty run visits only its starting state. -/
@[simp] theorem always_nil : Always step P s [] ↔ P s := by
  constructor
  · intro h
    exact h [] (List.prefix_refl _) s rfl
  · intro hs before hbefore t hrun
    obtain rfl := List.prefix_nil.mp hbefore
    cases hrun
    exact hs

/-- A nonempty run visits its starting state and the states of the remaining run. -/
theorem always_cons {e : ε} :
    Always step P s (e :: es) ↔ P s ∧ ∀ t, step s e = some t → Always step P t es := by
  constructor
  · intro h
    refine ⟨h [] List.nil_prefix s rfl, ?_⟩
    intro t ht before hbefore u hrun
    exact h (e :: before) (List.cons_prefix_cons.mpr ⟨rfl, hbefore⟩) u (by simp [ht, hrun])
  · rintro ⟨hs, htail⟩ before hbefore u hrun
    cases before with
    | nil =>
      cases hrun
      exact hs
    | cons e' before =>
      obtain ⟨rfl, hrest⟩ := List.cons_prefix_cons.mp hbefore
      obtain ⟨t, ht, hrun⟩ := Option.bind_eq_some_iff.mp hrun
      exact htail t ht before hrest u hrun

/-- The states that the events lead through. -/
def visited (step : σ → ε → Option σ) : σ → List ε → List σ
  | s, [] => [s]
  | s, e :: es => s :: (step s e).elim [] fun t => visited step t es

/-- A property that can be decided of a state can be decided of all states of a run. -/
theorem always_iff_visited : Always step P s es ↔ ∀ t ∈ visited step s es, P t := by
  induction es generalizing s with
  | nil => simp [visited]
  | cons e es ih =>
    rw [always_cons, visited, List.forall_mem_cons]
    refine and_congr_right fun _ => ?_
    cases step s e with
    | none => simp
    | some t => simp [ih]

instance [DecidablePred P] : Decidable (Always step P s es) :=
  decidable_of_iff _ always_iff_visited.symm

/-- The empty run takes no step. -/
@[simp] theorem eachStep_nil : EachStep step Q s [] := by
  intro before e hprefix
  simp at hprefix

/-- The steps of a nonempty run are its first step and those of the remaining run. -/
theorem eachStep_cons {e : ε} :
    EachStep step Q s (e :: es) ↔
      ∀ t, step s e = some t → Q s e t ∧ EachStep step Q t es := by
  constructor
  · intro h t ht
    refine ⟨h [] e (by simp) s t rfl ht, ?_⟩
    intro before e' hbefore u v hrun hstep
    exact h (e :: before) e' (List.cons_prefix_cons.mpr ⟨rfl, hbefore⟩) u v
      (by simp [ht, hrun]) hstep
  · intro h before e' hbefore u v hrun hstep
    cases before with
    | nil =>
      cases hrun
      obtain ⟨rfl, -⟩ := List.cons_prefix_cons.mp hbefore
      exact (h v hstep).1
    | cons e'' before =>
      obtain ⟨rfl, hrest⟩ := List.cons_prefix_cons.mp hbefore
      obtain ⟨t, ht, hrun⟩ := Option.bind_eq_some_iff.mp hrun
      exact (h t ht).2 before e' hrest u v hrun hstep

/-- **Invariant rule.** What holds initially and survives every step holds throughout. -/
theorem Always.of_invariant (hkeep : ∀ s e t, P s → step s e = some t → P t) (hs : P s) :
    Always step P s es := by
  induction es generalizing s with
  | nil => exact always_nil.mpr hs
  | cons e es ih =>
    exact always_cons.mpr ⟨hs, fun t ht => ih (hkeep s e t hs ht)⟩

/-- What an invariant allows at each step holds at every step of a run. -/
theorem EachStep.of_invariant (hkeep : ∀ s e t, P s → step s e = some t → P t)
    (hallow : ∀ s e t, P s → step s e = some t → Q s e t) (hs : P s) :
    EachStep step Q s es := by
  induction es generalizing s with
  | nil => exact eachStep_nil
  | cons e es ih =>
    exact eachStep_cons.mpr fun t ht => ⟨hallow s e t hs ht, ih (hkeep s e t hs ht)⟩

/-- **Run rule.** Along a run whose states satisfy `P` and whose events satisfy `A`, what holds
initially and survives such steps holds at the end. -/
theorem run_of_always {A : ε → Prop} {t : σ}
    (hkeep : ∀ s e t, P s → A e → I s → step s e = some t → I t) (halways : Always step P s es)
    (hall : ∀ e ∈ es, A e) (hs : I s) (hrun : run step s es = some t) : I t := by
  induction es generalizing s with
  | nil =>
    cases hrun
    exact hs
  | cons e es ih =>
    obtain ⟨hp, htail⟩ := always_cons.mp halways
    obtain ⟨he, hrest⟩ := List.forall_mem_cons.mp hall
    obtain ⟨u, hu, hrun⟩ := Option.bind_eq_some_iff.mp hrun
    exact ih (htail u hu) hrest (hkeep s e u hp he hs hu) hrun

/-- The run rule where nothing is known of the states. -/
theorem run_of_invariant {A : ε → Prop} {t : σ}
    (hkeep : ∀ s e t, A e → I s → step s e = some t → I t) (hall : ∀ e ∈ es, A e) (hs : I s)
    (hrun : run step s es = some t) : I t :=
  run_of_always (P := fun _ => True) (fun s e t _ => hkeep s e t) (fun _ _ _ _ => trivial) hall hs
    hrun

/-- A weaker property holds throughout as well. -/
theorem Always.mono {P' : σ → Prop} (h : Always step P s es) (hweaken : ∀ s, P s → P' s) :
    Always step P' s es :=
  fun before hbefore t hrun => hweaken t (h before hbefore t hrun)

/-- A state property holds throughout exactly when it holds initially and at
the target of every step. -/
theorem always_iff_targets :
    Always step P s es ↔ P s ∧ EachStep step (fun _ _ t => P t) s es := by
  induction es generalizing s with
  | nil => simp
  | cons e es ih =>
    rw [always_cons, eachStep_cons]
    refine and_congr_right fun _ => forall_congr' fun t => forall_congr' fun _ => ?_
    exact ih

/-- **Exact blame rule.** If an invariant is kept by the steps that meet `C`,
and under it a step has the property `Q` exactly when it meets `C`, then all
steps of a run have the property exactly when all of them meet the condition. -/
theorem eachStep_iff_of_invariant
    (hkeep : ∀ s e t, I s → C s e → step s e = some t → I t)
    (hexact : ∀ s e t, I s → step s e = some t → (Q s e t ↔ C s e)) (hs : I s) :
    EachStep step Q s es ↔ EachStep step (fun s e _ => C s e) s es := by
  induction es generalizing s with
  | nil => simp
  | cons e es ih =>
    rw [eachStep_cons, eachStep_cons]
    refine forall_congr' fun t => forall_congr' fun ht => ?_
    constructor
    · rintro ⟨hq, hrest⟩
      have hc := (hexact s e t hs ht).mp hq
      exact ⟨hc, (ih (hkeep s e t hs hc ht)).mp hrest⟩
    · rintro ⟨hc, hrest⟩
      exact ⟨(hexact s e t hs ht).mpr hc, (ih (hkeep s e t hs hc ht)).mpr hrest⟩

/-- The blame rule for a property of states: the invariant implies it, and a
step that breaks the condition breaks the property at its target. -/
theorem always_iff_of_invariant (hgood : ∀ s, I s → P s)
    (hkeep : ∀ s e t, I s → C s e → step s e = some t → I t)
    (hbad : ∀ s e t, I s → ¬C s e → step s e = some t → ¬P t) (hs : I s) :
    Always step P s es ↔ EachStep step (fun s e _ => C s e) s es := by
  rw [always_iff_targets, and_iff_right (hgood s hs)]
  refine eachStep_iff_of_invariant hkeep (fun s e t hinv ht => ⟨fun hp => ?_, fun hc => ?_⟩) hs
  · by_contra hc
    exact hbad s e t hinv hc ht hp
  · exact hgood t (hkeep s e t hinv hc ht)

/-- A system in which an event happens only where it is allowed. -/
def restrict (allowed : σ → ε → Prop) [∀ s e, Decidable (allowed s e)]
    (step : σ → ε → Option σ) (s : σ) (e : ε) : Option σ :=
  if allowed s e then step s e else none

/-- A step of the restricted system is an allowed step of the system. -/
theorem restrict_eq_some {allowed : σ → ε → Prop} [∀ s e, Decidable (allowed s e)] {t : σ}
    {e : ε} : restrict allowed step s e = some t ↔ allowed s e ∧ step s e = some t := by
  unfold restrict
  split
  · next h => simp only [h, true_and]
  · next h => simp only [h, false_and, reduceCtorEq]

/-- A system watched by a monitor, which sees each step but cannot prevent it. -/
def monitored (step : σ → ε → Option σ) (watch : μ → σ → ε → σ → μ) :
    σ × μ → ε → Option (σ × μ)
  | (s, m), e => (step s e).map fun t => (t, watch m s e t)

/-- A step of the watched system is a step of the system and an update of the monitor. -/
theorem monitored_eq_some {watch : μ → σ → ε → σ → μ} {p q : σ × μ} {e : ε} :
    monitored step watch p e = some q ↔
      step p.1 e = some q.1 ∧ q.2 = watch p.2 p.1 e q.1 := by
  obtain ⟨s, m⟩ := p
  obtain ⟨t, n⟩ := q
  simp only [monitored, Option.map_eq_some_iff, Prod.mk.injEq]
  constructor
  · rintro ⟨t', ht, rfl, rfl⟩
    exact ⟨ht, rfl⟩
  · rintro ⟨ht, rfl⟩
    exact ⟨t, ht, rfl, rfl⟩

/-- The invariant rule for a watched system. -/
theorem Always.of_monitored {J : σ → μ → Prop} {watch : μ → σ → ε → σ → μ} {m : μ}
    (hkeep : ∀ s m e t, J s m → step s e = some t → J t (watch m s e t)) (hs : J s m) :
    Always (monitored step watch) (fun p => J p.1 p.2) (s, m) es := by
  refine Always.of_invariant (fun p e q hinv h => ?_) hs
  obtain ⟨hstep, hwatch⟩ := monitored_eq_some.mp h
  rw [hwatch]
  exact hkeep p.1 p.2 e q.1 hinv hstep

/-- The exact blame rule for a watched system. -/
theorem eachStep_monitored_iff {J : σ → μ → Prop} {L : σ → μ → ε → σ → μ → Prop}
    {C : σ → μ → ε → Prop} {watch : μ → σ → ε → σ → μ} {m : μ}
    (hkeep : ∀ s m e t, J s m → C s m e → step s e = some t → J t (watch m s e t))
    (hexact : ∀ s m e t, J s m → step s e = some t → (L s m e t (watch m s e t) ↔ C s m e))
    (hs : J s m) :
    EachStep (monitored step watch) (fun p e q => L p.1 p.2 e q.1 q.2) (s, m) es ↔
      EachStep (monitored step watch) (fun p e _ => C p.1 p.2 e) (s, m) es := by
  refine eachStep_iff_of_invariant (I := fun p => J p.1 p.2) (fun p e q hinv hc h => ?_)
    (fun p e q hinv h => ?_) hs
  · obtain ⟨hstep, hwatch⟩ := monitored_eq_some.mp h
    rw [hwatch]
    exact hkeep p.1 p.2 e q.1 hinv hc hstep
  · obtain ⟨hstep, hwatch⟩ := monitored_eq_some.mp h
    rw [hwatch]
    exact hexact p.1 p.2 e q.1 hinv hstep

/-- The blame rule for a property of the states of a watched system. -/
theorem always_monitored_iff {J L : σ → μ → Prop} {C : σ → μ → ε → Prop}
    {watch : μ → σ → ε → σ → μ} {m : μ} (hgood : ∀ s m, J s m → L s m)
    (hkeep : ∀ s m e t, J s m → C s m e → step s e = some t → J t (watch m s e t))
    (hbad : ∀ s m e t, J s m → ¬C s m e → step s e = some t → ¬L t (watch m s e t))
    (hs : J s m) :
    Always (monitored step watch) (fun p => L p.1 p.2) (s, m) es ↔
      EachStep (monitored step watch) (fun p e _ => C p.1 p.2 e) (s, m) es := by
  refine always_iff_of_invariant (I := fun p => J p.1 p.2) (fun p => hgood p.1 p.2)
    (fun p e q hinv hc h => ?_) (fun p e q hinv hc h => ?_) hs
  · obtain ⟨hstep, hwatch⟩ := monitored_eq_some.mp h
    rw [hwatch]
    exact hkeep p.1 p.2 e q.1 hinv hc hstep
  · obtain ⟨hstep, hwatch⟩ := monitored_eq_some.mp h
    rw [hwatch]
    exact hbad p.1 p.2 e q.1 hinv hc hstep

/-- A monitor changes nothing about the steps that it sees. -/
theorem eachStep_monitored (watch : μ → σ → ε → σ → μ) (m : μ) :
    EachStep (monitored step watch) (fun p e q => Q p.1 e q.1) (s, m) es ↔
      EachStep step Q s es := by
  induction es generalizing s m with
  | nil => simp
  | cons e es ih =>
    rw [eachStep_cons, eachStep_cons]
    constructor
    · intro h t ht
      obtain ⟨hq, hrest⟩ := h (t, watch m s e t) (monitored_eq_some.mpr ⟨ht, rfl⟩)
      exact ⟨hq, (ih _).mp hrest⟩
    · intro h q hstep
      obtain ⟨ht, -⟩ := monitored_eq_some.mp hstep
      obtain ⟨hq, hrest⟩ := h q.1 ht
      exact ⟨hq, (ih _).mpr hrest⟩

/-- A monitor prevents no run. -/
theorem run_monitored (watch : μ → σ → ε → σ → μ) (m : μ) {t : σ} (h : run step s es = some t) :
    ∃ n, run (monitored step watch) (s, m) es = some (t, n) := by
  induction es generalizing s m with
  | nil =>
    cases h
    exact ⟨m, rfl⟩
  | cons e es ih =>
    obtain ⟨u, hu, hrest⟩ := Option.bind_eq_some_iff.mp h
    obtain ⟨n, hn⟩ := ih (watch m s e u) hrest
    refine ⟨n, ?_⟩
    rw [run_cons, monitored_eq_some (q := (u, watch m s e u)) |>.mpr ⟨hu, rfl⟩]
    exact hn

/-- **Simulation rule.** If each step is matched by at most one step of another system, each run is
matched by a run. -/
theorem run_simulated {σ' ε' : Type*} {step' : σ' → ε' → Option σ'} {R : σ → σ' → Prop}
    (hmatch : ∀ s e t s', R s s' → step s e = some t →
      R t s' ∨ ∃ e' t', step' s' e' = some t' ∧ R t t') {t : σ} {s' : σ'} (hs : R s s')
    (h : run step s es = some t) : ∃ es' t', run step' s' es' = some t' ∧ R t t' := by
  induction es generalizing s s' with
  | nil =>
    cases h
    exact ⟨[], s', rfl, hs⟩
  | cons e es ih =>
    obtain ⟨u, hu, hrest⟩ := Option.bind_eq_some_iff.mp h
    rcases hmatch s e u s' hs hu with hstay | ⟨e', u', hstep', hmove⟩
    · exact ih hstay hrest
    · obtain ⟨es', t', hrun', ht⟩ := ih hmove hrest
      refine ⟨e' :: es', t', ?_, ht⟩
      rw [run_cons, hstep', Option.bind_some]
      exact hrun'

/-- **Projection rule.** If a part of the state changes in each step by what that part hears of the
event, then after a run it is the fold of all that it has heard. -/
theorem run_projected {α β : Type*} {view : σ → α} {news : ε → Option β} {hear : α → β → α}
    (hkeep : ∀ s e t, I s → step s e = some t → I t)
    (hview : ∀ s e t, I s → step s e = some t →
      view t = (news e).elim (view s) (hear (view s))) {t : σ} (hs : I s)
    (h : run step s es = some t) : view t = (es.filterMap news).foldl hear (view s) := by
  induction es generalizing s with
  | nil =>
    cases h
    rfl
  | cons e es ih =>
    obtain ⟨u, hu, hrest⟩ := Option.bind_eq_some_iff.mp h
    rw [ih (hkeep s e u hs hu) hrest, hview s e u hs hu]
    cases hnews : news e with
    | none => rw [List.filterMap_cons_none hnews, Option.elim_none]
    | some n => rw [List.filterMap_cons_some hnews, List.foldl_cons, Option.elim_some]

/-! ## What a run can still reach -/

/-- Some run of at most `n` events leads to a state with the property. -/
def CanReach (step : σ → ε → Option σ) (P : σ → Prop) (n : ℕ) (s : σ) : Prop :=
  ∃ es t, es.length ≤ n ∧ run step s es = some t ∧ P t

/-- Where the property holds, nothing has to happen. -/
theorem CanReach.done {n : ℕ} (h : P s) : CanReach step P n s := ⟨[], s, Nat.zero_le n, rfl, h⟩

/-- A step closer. -/
theorem CanReach.cons {n : ℕ} {e : ε} {t : σ} (hstep : step s e = some t)
    (h : CanReach step P n t) : CanReach step P (n + 1) s := by
  obtain ⟨es, u, hlength, hrun, hu⟩ := h
  refine ⟨e :: es, u, Nat.succ_le_succ hlength, ?_, hu⟩
  rw [run_cons, hstep, Option.bind_some]
  exact hrun

/-- A longer run may do as well. -/
theorem CanReach.mono {m n : ℕ} (h : CanReach step P m s) (hle : m ≤ n) :
    CanReach step P n s := by
  obtain ⟨es, t, hlength, hrun, ht⟩ := h
  exact ⟨es, t, Nat.le_trans hlength hle, hrun, ht⟩

/-! ## Lists that a run extends -/

/-- An element of a list with one more element at its end. -/
theorem getElem?_concat_eq_some {α : Type*} {l : List α} {a b : α} {j : ℕ} :
    (l ++ [a])[j]? = some b ↔ l[j]? = some b ∨ j = l.length ∧ a = b := by
  rcases Nat.lt_trichotomy j l.length with h | h | h
  · have hne : j ≠ l.length := Nat.ne_of_lt h
    rw [List.getElem?_append_left h]
    simp [hne]
  · subst h
    simp
  · have hne : j ≠ l.length := Nat.ne_of_gt h
    have hold : l[j]? = none := List.getElem?_eq_none_iff.mpr (Nat.le_of_lt h)
    have hnew : (l ++ [a])[j]? = none := by
      rw [List.getElem?_eq_none_iff, List.length_append, List.length_singleton]
      omega
    simp only [hold, hnew, reduceCtorEq, hne, false_and, or_self]

/-- What holds of all elements and their positions survives when an element is added of which it
holds at the end. -/
theorem forall_getElem?_concat {α : Type*} {R : ℕ → α → Prop} {l : List α} {a : α}
    (h : ∀ j b, l[j]? = some b → R j b) (ha : R l.length a) (j : ℕ) (b : α)
    (hget : (l ++ [a])[j]? = some b) : R j b := by
  rcases getElem?_concat_eq_some.mp hget with hold | ⟨rfl, rfl⟩
  · exact h j b hold
  · exact ha

/-- The entries of a list that bear a tag, in their order. -/
def tagged {ι α : Type*} [DecidableEq ι] (i : ι) (l : List (ι × α)) : List α :=
  (l.filter fun entry => entry.1 = i).map Prod.snd

section

variable {ι α : Type*} [DecidableEq ι] {i j : ι} {l : List (ι × α)}

theorem tagged_append (l m : List (ι × α)) : tagged i (l ++ m) = tagged i l ++ tagged i m := by
  simp only [tagged, List.filter_append, List.map_append]

/-- Entries that all bear the tag. -/
theorem tagged_self (new : List α) : tagged i (new.map fun a => (i, a)) = new := by
  simp [tagged, List.filter_map, Function.comp_def]

/-- Entries that all bear another tag. -/
theorem tagged_of_ne (h : i ≠ j) (new : List α) : tagged i (new.map fun a => (j, a)) = [] := by
  simp [tagged, List.filter_map, Function.comp_def, h.symm]

end

/-- Two lists of the same length are related at each position. -/
def Matched {α β : Type*} (R : ℕ → α → β → Prop) (l : List α) (m : List β) : Prop :=
  l.length = m.length ∧ ∀ n a b, l[n]? = some a → m[n]? = some b → R n a b

section

variable {α β : Type*} {R R' : ℕ → α → β → Prop} {l l' : List α} {m m' : List β}

theorem Matched.nil : Matched R [] [] := ⟨rfl, nofun⟩

/-- A single pair. -/
theorem Matched.singleton {a : α} {b : β} (h : R 0 a b) : Matched R [a] [b] := by
  refine ⟨rfl, fun n a' b' ha hb => ?_⟩
  cases n with
  | zero =>
    cases ha
    cases hb
    exact h
  | succ n => cases ha

/-- A weaker relation holds at each position as well. -/
theorem Matched.imp (h : Matched R l m) (hweaken : ∀ n a b, R n a b → R' n a b) :
    Matched R' l m :=
  ⟨h.1, fun n a b ha hb => hweaken n a b (h.2 n a b ha hb)⟩

/-- What follows is matched from the next position on. -/
theorem Matched.append (h : Matched R l m)
    (h' : Matched (fun n => R (m.length + n)) l' m') : Matched R (l ++ l') (m ++ m') := by
  refine ⟨by rw [List.length_append, List.length_append, h.1, h'.1], fun n a b ha hb => ?_⟩
  rcases Nat.lt_or_ge n m.length with hn | hn
  · rw [List.getElem?_append_left (h.1 ▸ hn)] at ha
    rw [List.getElem?_append_left hn] at hb
    exact h.2 n a b ha hb
  · rw [List.getElem?_append_right (h.1 ▸ hn), h.1] at ha
    rw [List.getElem?_append_right hn] at hb
    have hlater : R (m.length + (n - m.length)) a b := h'.2 (n - m.length) a b ha hb
    rwa [Nat.add_sub_cancel' hn] at hlater

end

end Transition
