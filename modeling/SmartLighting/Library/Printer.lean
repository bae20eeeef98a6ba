import SmartLighting.Library.Reader

/-!
# Programs that read bytes and print lines

A printer reads from the front of a byte string and prints lines as it goes. It
may fail with a message; the lines that it printed before stay. `Prints` states
what a printer does on a given encoding whatever bytes follow it, `Adds` bounds
what it can print at all.
-/

/-- A computation that consumes bytes, prints lines and may fail with a message. -/
abbrev Printer (ℓ : Type) := ExceptT String (StateM (Bytes × List ℓ))

namespace Printer

variable {ℓ α β : Type}

/-- Run a printer on an input, after some lines were printed: its result, what is
left of the input, and all lines. -/
def exec (p : Printer ℓ α) (input : Bytes) (lines : List ℓ) : Except String α × Bytes × List ℓ :=
  p.run.run (input, lines)

/-- Read a value. -/
def read (get : Reader α) : Printer ℓ α := ExceptT.mk fun (input, lines) =>
  match get.run input with
  | .ok (a, rest) => (.ok a, rest, lines)
  | .error e => (.error e, input, lines)

/-- Print a line. -/
def print (line : ℓ) : Printer ℓ Unit := ExceptT.mk fun (input, lines) =>
  (.ok (), input, lines ++ [line])

/-- What is left of the input. -/
def remaining : Printer ℓ Bytes := ExceptT.mk fun (input, lines) => (.ok input, input, lines)

/-- Execute the body of a loop a number of times. -/
def times : ℕ → Printer ℓ Unit → Printer ℓ Unit
  | 0, _ => return ()
  | n + 1, body => do
    body
    times n body

/-- Reading keeps the lines, and the input where it fails. -/
theorem exec_read (get : Reader α) (input : Bytes) (lines : List ℓ) :
    (read get).exec input lines =
      match get.run input with
      | .ok (a, rest) => (.ok a, rest, lines)
      | .error e => (.error e, input, lines) := rfl

/-- A sequence executes its first part, and its second part unless the first one fails. -/
theorem exec_bind (p : Printer ℓ α) (f : α → Printer ℓ β) (input : Bytes) (lines : List ℓ) :
    (p >>= f).exec input lines =
      match p.exec input lines with
      | (.ok a, rest, printed) => (f a).exec rest printed
      | (.error e, rest, printed) => (.error e, rest, printed) := by
  unfold exec
  rw [ExceptT.run_bind, StateT.run_bind]
  cases p.run.run (input, lines) with
  | mk result state => cases result <;> rfl

/-- The printer consumes `encoding`, prints `lines` and returns `a`. -/
def Prints (p : Printer ℓ α) (encoding : Bytes) (lines : List ℓ) (a : α) : Prop :=
  ∀ rest printed, p.exec (encoding ++ rest) printed = (.ok a, rest, printed ++ lines)

/-- A constant reads and prints nothing. -/
theorem Prints.pure (a : α) : Prints (Pure.pure a : Printer ℓ α) [] [] a := by
  intro rest printed
  rw [List.append_nil]
  rfl

/-- In a sequence, encodings and lines are concatenated. -/
theorem Prints.bind {p : Printer ℓ α} {f : α → Printer ℓ β} {first second : Bytes}
    {above below : List ℓ} {a : α} {b : β} (hp : Prints p first above a)
    (hf : Prints (f a) second below b) : Prints (p >>= f) (first ++ second) (above ++ below) b := by
  intro rest printed
  rw [exec_bind, List.append_assoc, hp, ← List.append_assoc]
  exact hf rest (printed ++ above)

/-- An exact reader prints nothing. -/
theorem Prints.read {get : Reader α} {encoding : Bytes} {a : α} (h : get.Exact encoding a) :
    Prints (read get : Printer ℓ α) encoding [] a := by
  intro rest printed
  rw [exec_read, h rest, List.append_nil]

/-- Reading a value and going on with it. -/
theorem Prints.read_bind {get : Reader α} {f : α → Printer ℓ β} {first second : Bytes}
    {lines : List ℓ} {a : α} {b : β} (h : get.Exact first a)
    (hf : Prints (f a) second lines b) :
    Prints (Printer.read get >>= f) (first ++ second) lines b :=
  (Prints.read h).bind hf

/-- Printing what was just read. -/
theorem Prints.read_print {get : Reader α} {encoding : Bytes} {a : α} (h : get.Exact encoding a)
    (line : α → ℓ) :
    Prints (Printer.read get >>= fun a => Printer.print (line a)) encoding [line a] () := by
  intro rest printed
  rw [exec_bind, exec_read, h rest]
  rfl

/-- Printing reads nothing. -/
theorem Prints.print (line : ℓ) : Prints (print line) [] [line] () := fun _ _ => rfl

/-- Printing a line and going on. -/
theorem Prints.print_bind {f : Unit → Printer ℓ β} {line : ℓ} {encoding : Bytes} {lines : List ℓ}
    {b : β} (hf : Prints (f ()) encoding lines b) :
    Prints (Printer.print line >>= f) encoding (line :: lines) b :=
  (Prints.print line).bind hf

/-- A loop over encoded elements prints the lines of each of them. -/
theorem Prints.times {ε : Type} {body : Printer ℓ Unit} {encode : ε → Bytes} {linesOf : ε → List ℓ}
    {elements : List ε} (h : ∀ e ∈ elements, Prints body (encode e) (linesOf e) ()) :
    Prints (times elements.length body) (elements.flatMap encode) (elements.flatMap linesOf) () := by
  induction elements with
  | nil => exact .pure ()
  | cons e elements ih =>
    have htail := ih fun e' he' => h e' (List.mem_cons_of_mem e he')
    exact (h e List.mem_cons_self).bind htail

/-- The same for a loop that prints one line for each element. -/
theorem Prints.times_map {ε : Type} {body : Printer ℓ Unit} {encode : ε → Bytes} {line : ε → ℓ}
    {elements : List ε} (h : ∀ e ∈ elements, Prints body (encode e) [line e] ()) :
    Prints (Printer.times elements.length body) (elements.flatMap encode) (elements.map line)
      () := by
  rw [List.map_eq_flatMap]
  exact .times h

/-- Where there is more to read, the printer goes on. -/
theorem Prints.unless_end {first next : Printer ℓ α} {encoding : Bytes} {lines : List ℓ} {a : α}
    (hne : encoding ≠ []) (hnext : Prints next encoding lines a) :
    Prints (do if (← remaining) = [] then first else next) encoding lines a := by
  intro rest printed
  have hmore : encoding ++ rest ≠ [] := fun h => hne (List.append_eq_nil_iff.mp h).1
  have hremaining : remaining.exec (encoding ++ rest) printed =
      (.ok (encoding ++ rest), encoding ++ rest, printed) := rfl
  rw [exec_bind, hremaining]
  simp only [if_neg hmore]
  exact hnext rest printed

/-- On its encoding alone the printer consumes everything. -/
theorem Prints.exec_eq {p : Printer ℓ α} {encoding : Bytes} {lines : List ℓ} {a : α}
    (h : Prints p encoding lines a) : p.exec encoding [] = (.ok a, [], lines) := by
  have hrun := h [] []
  rwa [List.append_nil, List.nil_append] at hrun

/-- Whatever the input is, the printer only adds lines that satisfy `P`. -/
def Adds (p : Printer ℓ α) (P : ℓ → Prop) : Prop :=
  ∀ input printed, ∃ new, (p.exec input printed).2.2 = printed ++ new ∧ ∀ line ∈ new, P line

variable {P : ℓ → Prop}

theorem Adds.pure (a : α) : Adds (Pure.pure a : Printer ℓ α) P :=
  fun _ printed => ⟨[], (List.append_nil printed).symm, List.forall_mem_nil P⟩

theorem Adds.bind {p : Printer ℓ α} {f : α → Printer ℓ β} (hp : Adds p P)
    (hf : ∀ a, Adds (f a) P) : Adds (p >>= f) P := by
  intro input printed
  obtain ⟨above, habove, hin⟩ := hp input printed
  rw [exec_bind]
  generalize p.exec input printed = result at habove ⊢
  obtain ⟨outcome, rest, lines⟩ := result
  obtain rfl : lines = printed ++ above := habove
  cases outcome with
  | error e => exact ⟨above, rfl, hin⟩
  | ok a =>
    obtain ⟨below, hbelow, hin'⟩ := hf a rest (printed ++ above)
    refine ⟨above ++ below, by rw [← List.append_assoc]; exact hbelow, ?_⟩
    intro line hline
    rcases List.mem_append.mp hline with hline | hline
    · exact hin line hline
    · exact hin' line hline

/-- Reading prints nothing. -/
theorem Adds.read (get : Reader α) : Adds (read get) P := by
  intro input printed
  refine ⟨[], ?_, List.forall_mem_nil P⟩
  rw [List.append_nil, exec_read]
  cases get.run input <;> rfl

theorem Adds.print {line : ℓ} (h : P line) : Adds (print line) P :=
  fun _ _ => ⟨[line], rfl, by simpa using h⟩

theorem Adds.remaining : Adds remaining P :=
  fun _ printed => ⟨[], (List.append_nil printed).symm, List.forall_mem_nil P⟩

theorem Adds.times {body : Printer ℓ Unit} (h : Adds body P) (n : ℕ) : Adds (times n body) P := by
  induction n with
  | zero => exact .pure ()
  | succ n ih => exact h.bind fun _ => ih

end Printer
