import SmartLighting.Library.Runs
import Mathlib.Logic.Function.Basic

/-!
# Programs made of atomic accesses to a shared store

Code that locks a shared object for each access, and releases it in between, is
a program whose atoms are the critical sections. Running it alone executes the
atoms back to back; several programs on one store may be interleaved between
any two atoms. Both readings are given here for the same program text.
-/

namespace Transition

/-- A program over the store `σ` with result `α`. An atom updates the store and
continues with what it read, which is a function of the store before it. -/
inductive Program (σ α : Type)
  | done (result : α)
  | atom (update : σ → σ) (next : σ → Program σ α)

namespace Program

variable {σ α β ι : Type}

/-- Continue with the result of a program. -/
def bind : Program σ α → (α → Program σ β) → Program σ β
  | done a, f => f a
  | atom update next, f => atom update fun s => (next s).bind f

instance : Monad (Program σ) where
  pure := done
  bind := bind

/-- A result is passed on at once. -/
theorem bind_done (a : α) (f : α → Program σ β) : (done a).bind f = f a := rfl

/-- The atom that reads the store. -/
def read (f : σ → α) : Program σ α := atom id fun s => done (f s)

/-- The atom that updates the store. -/
def write (f : σ → σ) : Program σ Unit := atom f fun _ => done ()

/-- Execute a program alone: its result and the store it leaves. -/
def exec : Program σ α → σ → α × σ
  | done a, s => (a, s)
  | atom update next, s => (next s).exec (update s)

@[simp] theorem exec_pure (a : α) (s : σ) : (pure a : Program σ α).exec s = (a, s) := rfl

@[simp] theorem exec_read (f : σ → α) (s : σ) : (read f).exec s = (f s, s) := rfl

@[simp] theorem exec_write (f : σ → σ) (s : σ) : (write f).exec s = ((), f s) := rfl

/-- A sequence of programs executes as the first followed by the second. -/
@[simp] theorem exec_bind (p : Program σ α) (f : α → Program σ β) (s : σ) :
    (p >>= f).exec s = (f (p.exec s).1).exec (p.exec s).2 := by
  change (p.bind f).exec s = _
  induction p generalizing s with
  | done a => rfl
  | atom update next ih => exact ih s (update s)

/-- Programs that share one store, one program for each thread. -/
structure Threads (σ ι α : Type) where
  /-- The store that all threads access. -/
  store : σ
  /-- What each thread has still to do. -/
  rest : ι → Program σ α

/-- The named thread executes its next atom. A finished thread takes no step. -/
def Threads.step [DecidableEq ι] (c : Threads σ ι α) (i : ι) : Option (Threads σ ι α) :=
  match c.rest i with
  | done _ => none
  | atom update next =>
    some ⟨update c.store, Function.update c.rest i (next c.store)⟩

/-- Every thread has finished. -/
def Threads.Finished (c : Threads σ ι α) : Prop := ∀ i, ∃ a, c.rest i = done a

/-! ## Two read-modify-write programs -/

/-- Read the store, and then either stop or update it by what was read. -/
def readModifyWrite (f : σ → Option (σ → σ)) (result : σ → α) : Program σ α :=
  atom id fun s =>
    match f s with
    | none => done (result s)
    | some update => atom update fun _ => done (result s)

/-- The store after a read-modify-write that ran alone. -/
def applied (f : σ → Option (σ → σ)) (s : σ) : σ := (f s).elim s fun update => update s

@[simp] theorem exec_readModifyWrite (f : σ → Option (σ → σ)) (result : σ → α) (s : σ) :
    (readModifyWrite f result).exec s = (result s, applied f s) := by
  simp only [readModifyWrite, exec, applied, id_eq]
  cases f s <;> rfl

/-- Both threads read before one of them writes. -/
def Overlaps (a b : ι) (schedule : List ι) : Prop :=
  [a, b] <+: schedule ∨ [b, a] <+: schedule

instance [DecidableEq ι] (a b : ι) (schedule : List ι) : Decidable (Overlaps a b schedule) :=
  inferInstanceAs (Decidable (_ ∨ _))

theorem overlaps_comm {a b : ι} {schedule : List ι} :
    Overlaps a b schedule ↔ Overlaps b a schedule := or_comm

variable [DecidableEq ι] {a b i : ι} {f g : σ → Option (σ → σ)} {p q : σ → α}
  {u v : σ → σ} {x y : α} {schedule : List ι} {c d : Threads σ ι α}

/-- The first step of a schedule executes the next atom of its thread. -/
theorem Threads.run_cons (hrun : run Threads.step c (i :: schedule) = some d) :
    ∃ update next, c.rest i = atom update next ∧
      run Threads.step ⟨update c.store, Function.update c.rest i (next c.store)⟩ schedule =
        some d := by
  obtain ⟨c', hstep, hrun⟩ := Option.bind_eq_some_iff.mp hrun
  unfold Threads.step at hstep
  split at hstep
  · cases hstep
  · next update next hrest =>
    cases hstep
    exact ⟨update, next, hrest, hrun⟩

/-- While a thread has an atom left, a schedule that finishes all threads is not empty. -/
private theorem exists_cons_of_unfinished {update : σ → σ} {next : σ → Program σ α}
    (hrest : c.rest i = atom update next) (hrun : run Threads.step c schedule = some d)
    (hfinished : d.Finished) : ∃ j rest, schedule = j :: rest := by
  cases schedule with
  | nil =>
    obtain rfl := Option.some.inj hrun
    obtain ⟨z, hz⟩ := hfinished i
    rw [hrest] at hz
    cases hz
  | cons j rest => exact ⟨j, rest, rfl⟩

/-- When both threads have finished, nothing is left to schedule. -/
private theorem run_both_done (hall : ∀ i, i = a ∨ i = b) (ha : c.rest a = done x)
    (hb : c.rest b = done y) (hrun : run Threads.step c schedule = some d) :
    schedule = [] ∧ d = c := by
  cases schedule with
  | nil => exact ⟨rfl, (Option.some.inj hrun).symm⟩
  | cons i schedule =>
    obtain ⟨update, next, hrest, -⟩ := Threads.run_cons hrun
    rcases hall i with rfl | rfl
    · simp [ha] at hrest
    · simp [hb] at hrest

/-- The only thread left has one update to make. -/
private theorem run_last_write (hab : a ≠ b) (hall : ∀ i, i = a ∨ i = b) (ha : c.rest a = done x)
    (hb : c.rest b = atom v fun _ => done y) (hrun : run Threads.step c schedule = some d)
    (hfinished : d.Finished) : schedule = [b] ∧ d.store = v c.store := by
  obtain ⟨i, schedule, rfl⟩ := exists_cons_of_unfinished hb hrun hfinished
  obtain ⟨update, next, hrest, hrun⟩ := Threads.run_cons hrun
  rcases hall i with rfl | rfl
  · simp [ha] at hrest
  · rw [hb] at hrest
    cases hrest
    obtain ⟨rfl, rfl⟩ := run_both_done (x := x) (y := y) hall (by simp [hab, ha]) (by simp) hrun
    exact ⟨rfl, rfl⟩

/-- Each thread has one update to make. -/
private theorem run_both_write (hab : a ≠ b) (hall : ∀ i, i = a ∨ i = b)
    (ha : c.rest a = atom u fun _ => done x) (hb : c.rest b = atom v fun _ => done y)
    (hrun : run Threads.step c schedule = some d) (hfinished : d.Finished) :
    schedule = [a, b] ∧ d.store = v (u c.store) ∨ schedule = [b, a] ∧ d.store = u (v c.store) := by
  obtain ⟨i, schedule, rfl⟩ := exists_cons_of_unfinished hb hrun hfinished
  obtain ⟨update, next, hrest, hrun⟩ := Threads.run_cons hrun
  rcases hall i with rfl | rfl
  · rw [ha] at hrest
    cases hrest
    obtain ⟨rfl, hstore⟩ := run_last_write (x := x) (v := v) (y := y) hab hall (by simp)
      (by simp [hab.symm, hb]) hrun hfinished
    exact Or.inl ⟨rfl, hstore⟩
  · rw [hb] at hrest
    cases hrest
    obtain ⟨rfl, hstore⟩ := run_last_write (x := y) (v := u) (y := x) hab.symm
      (fun i => (hall i).symm) (by simp) (by simp [hab, ha]) hrun hfinished
    exact Or.inr ⟨rfl, hstore⟩

/-- The only thread left has a whole read-modify-write to make. -/
private theorem run_alone (hab : a ≠ b) (hall : ∀ i, i = a ∨ i = b) (ha : c.rest a = done x)
    (hb : c.rest b = readModifyWrite g q) (hrun : run Threads.step c schedule = some d)
    (hfinished : d.Finished) : d.store = applied g c.store := by
  obtain ⟨i, schedule, rfl⟩ := exists_cons_of_unfinished hb hrun hfinished
  obtain ⟨update, next, hrest, hrun⟩ := Threads.run_cons hrun
  rcases hall i with rfl | rfl
  · simp [ha] at hrest
  · rw [hb] at hrest
    cases hrest
    unfold applied
    cases hg : g c.store with
    | none =>
      obtain ⟨-, rfl⟩ := run_both_done (x := x) (y := q c.store) hall (by simp [hab, ha])
        (by simp [hg]) hrun
      rfl
    | some v =>
      exact (run_last_write (x := x) (v := v) (y := q c.store) hab hall
        (by simp [hab, ha]) (by simp [hg]) hrun hfinished).2

/-- One thread has read, and the other has a whole read-modify-write to make. -/
private theorem run_after_read (hab : a ≠ b) (hall : ∀ i, i = a ∨ i = b)
    (ha : c.rest a = atom u fun _ => done x) (hb : c.rest b = readModifyWrite g q)
    (hrun : run Threads.step c schedule = some d) (hfinished : d.Finished) :
    schedule.head? = some a ∧ d.store = applied g (u c.store) ∨
      schedule.head? = some b ∧ (g c.store = none ∧ d.store = u c.store ∨
        ∃ v, g c.store = some v ∧
          (schedule.getLast? = some a ∧ d.store = u (v c.store) ∨
            schedule.getLast? = some b ∧ d.store = v (u c.store))) := by
  obtain ⟨i, schedule, rfl⟩ := exists_cons_of_unfinished hb hrun hfinished
  obtain ⟨update, next, hrest, hrun⟩ := Threads.run_cons hrun
  rcases hall i with rfl | rfl
  · rw [ha] at hrest
    cases hrest
    exact Or.inl ⟨rfl, run_alone (x := x) (g := g) (q := q) hab hall (by simp)
      (by simp [hab.symm, hb]) hrun hfinished⟩
  · rw [hb] at hrest
    cases hrest
    refine Or.inr ⟨rfl, ?_⟩
    cases hg : g c.store with
    | none =>
      obtain ⟨-, hstore⟩ := run_last_write (x := q c.store) (v := u) (y := x) hab.symm
        (fun i => (hall i).symm) (by simp [hg]) (by simp [hab, ha]) hrun hfinished
      exact Or.inl ⟨rfl, hstore⟩
    | some v =>
      rcases run_both_write (u := u) (x := x) (v := v) (y := q c.store) hab hall
        (by simp [hab, ha]) (by simp [hg]) hrun hfinished with ⟨rfl, hstore⟩ | ⟨rfl, hstore⟩
      · exact Or.inr ⟨v, rfl, Or.inr ⟨rfl, hstore⟩⟩
      · exact Or.inr ⟨v, rfl, Or.inl ⟨rfl, hstore⟩⟩

/-- The race when the first thread reads first. -/
private theorem race_of_first (hab : a ≠ b) (hall : ∀ i, i = a ∨ i = b)
    (ha : c.rest a = readModifyWrite f p) (hb : c.rest b = readModifyWrite g q)
    (hrun : run Threads.step c (a :: schedule) = some d) (hfinished : d.Finished) :
    (¬Overlaps a b (a :: schedule) ∨ f c.store = none ∨ g c.store = none) ∧
        (d.store = applied g (applied f c.store) ∨ d.store = applied f (applied g c.store)) ∨
      Overlaps a b (a :: schedule) ∧ ∃ u v, f c.store = some u ∧ g c.store = some v ∧
        ((a :: schedule).getLast? = some a ∧ d.store = u (v c.store) ∨
          (a :: schedule).getLast? = some b ∧ d.store = v (u c.store)) := by
  obtain ⟨update, next, hrest, hrun⟩ := Threads.run_cons hrun
  rw [ha] at hrest
  cases hrest
  cases hf : f c.store with
  | none =>
    refine Or.inl ⟨Or.inr (Or.inl rfl), Or.inl ?_⟩
    rw [run_alone (x := p c.store) (g := g) (q := q) hab hall (by simp [hf])
      (by simp [hab.symm, hb]) hrun hfinished]
    simp [applied, hf]
  | some u =>
    have hread := run_after_read (u := u) (x := p c.store) (g := g) (q := q) hab hall
      (by simp [hf]) (by simp [hab.symm, hb]) hrun hfinished
    simp only [id_eq] at hread
    rcases hread with ⟨hhead, hstore⟩ | ⟨hhead, hread⟩
    · refine Or.inl ⟨Or.inl ?_, Or.inl (by simp [hstore, applied, hf])⟩
      cases schedule with
      | nil => cases hhead
      | cons i schedule =>
        obtain rfl := Option.some.inj hhead
        simp [Overlaps, hab.symm]
    · cases schedule with
      | nil => cases hhead
      | cons i schedule =>
        obtain rfl := Option.some.inj hhead
        rcases hread with ⟨hg, hstore⟩ | ⟨v, hg, hlast⟩
        · exact Or.inl ⟨Or.inr (Or.inr hg), Or.inr (by simp [hstore, applied, hf, hg])⟩
        · refine Or.inr ⟨by simp [Overlaps], u, v, rfl, hg, ?_⟩
          rw [List.getLast?_cons_cons]
          exact hlast

/-- **Races of two read-modify-writes.** Every finished interleaving leaves what
one of the two orders leaves, unless both threads read first; then both updates
are those for the initial store, and the last thread writes last. -/
theorem readModifyWrite_race (hab : a ≠ b) (hall : ∀ i, i = a ∨ i = b)
    (ha : c.rest a = readModifyWrite f p) (hb : c.rest b = readModifyWrite g q)
    (hrun : run Threads.step c schedule = some d) (hfinished : d.Finished) :
    (¬Overlaps a b schedule ∨ f c.store = none ∨ g c.store = none) ∧
        (d.store = applied g (applied f c.store) ∨ d.store = applied f (applied g c.store)) ∨
      Overlaps a b schedule ∧ ∃ u v, f c.store = some u ∧ g c.store = some v ∧
        (schedule.getLast? = some a ∧ d.store = u (v c.store) ∨
          schedule.getLast? = some b ∧ d.store = v (u c.store)) := by
  obtain ⟨i, schedule, rfl⟩ := exists_cons_of_unfinished ha hrun hfinished
  rcases hall i with rfl | rfl
  · rcases race_of_first hab hall ha hb hrun hfinished with ⟨hcause, hstore⟩ | hrace
    · exact Or.inl ⟨hcause, hstore⟩
    · exact Or.inr hrace
  · rcases race_of_first hab.symm (fun i => (hall i).symm) hb ha hrun hfinished with
      ⟨hcause, hstore⟩ | ⟨hoverlaps, v, u, hg, hf, hlast⟩
    · refine Or.inl ⟨?_, hstore.symm⟩
      rw [overlaps_comm, or_comm (b := g c.store = none)]
      exact hcause
    · exact Or.inr ⟨hoverlaps.symm, u, v, hf, hg, hlast.symm⟩

end Program

end Transition
