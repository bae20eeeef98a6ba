import Mathlib.Data.List.Basic
import Mathlib.Data.List.Induction
import Mathlib.Data.List.Nodup
import Mathlib.Data.List.Pairwise

/-!
# Tables with a unique key

A table is a list of rows, in the order of their insertion, in which no two rows have
the same key. There are two ways to insert a row whose key may be taken: ignore it, or
replace the row that has the key.
-/

/-- A table in which each key occurs at most once. -/
structure Table {ρ κ : Type} (key : ρ → κ) where
  /-- The rows, in the order of their insertion. -/
  rows : List ρ
  /-- No key occurs twice. -/
  unique : (rows.map key).Nodup

namespace Table

variable {ρ κ : Type} {key : ρ → κ} {t : Table key} {row : ρ} {k : κ}

@[ext] theorem ext {t u : Table key} (h : t.rows = u.rows) : t = u := by
  cases t
  cases u
  cases h
  rfl

/-- The table without rows. -/
def empty : Table key := ⟨[], List.nodup_nil⟩

/-- Rows with the same key are the same. -/
theorem eq_of_key {row' : ρ} (hrow : row ∈ t.rows) (hrow' : row' ∈ t.rows)
    (hkey : key row = key row') : row = row' :=
  List.inj_on_of_nodup_map t.unique hrow hrow' hkey

variable [DecidableEq κ]

/-- The row with a key. -/
def find? (t : Table key) (k : κ) : Option ρ := t.rows.find? fun row => key row = k

@[simp] theorem find?_empty : (empty : Table key).find? k = none := rfl

/-- A row is found under its key exactly when it is in the table. -/
theorem find?_eq_some : t.find? k = some row ↔ row ∈ t.rows ∧ key row = k := by
  constructor
  · intro h
    exact ⟨List.mem_of_find?_eq_some h, by simpa using List.find?_some h⟩
  · rintro ⟨hmem, rfl⟩
    cases hfind : t.find? (key row) with
    | none => simpa using List.find?_eq_none.mp hfind row hmem
    | some row' =>
      have hkey : key row' = key row := by simpa using List.find?_some hfind
      have hmem' := List.mem_of_find?_eq_some hfind
      rw [eq_of_key hmem' hmem hkey]

/-- A key is free exactly when no row has it. -/
theorem find?_eq_none : t.find? k = none ↔ ∀ row ∈ t.rows, key row ≠ k := by
  simp [find?, List.find?_eq_none]

/-- A row with a free key is appended. -/
def append (t : Table key) (row : ρ) (h : t.find? (key row) = none) : Table key where
  rows := t.rows ++ [row]
  unique := by
    rw [List.map_append, List.map_singleton, List.nodup_append]
    refine ⟨t.unique, List.nodup_singleton _, ?_⟩
    intro k hk k' hk' heq
    obtain ⟨row', hrow', rfl⟩ := List.mem_map.mp hk
    rw [List.mem_singleton.mp hk'] at heq
    exact find?_eq_none.mp h row' hrow' heq

/-- The row with the key of another row is replaced by it. -/
def replace (t : Table key) (row : ρ) : Table key where
  rows := t.rows.map fun old => if key old = key row then row else old
  unique := by
    have hkeys : (t.rows.map fun old => if key old = key row then row else old).map key =
        t.rows.map key := by
      rw [List.map_map]
      refine List.map_congr_left fun old _ => ?_
      rw [Function.comp_apply]
      split
      · next h => exact h.symm
      · rfl
    rw [hkeys]
    exact t.unique

/-- `INSERT OR IGNORE`: a row whose key is taken is not inserted. -/
def insertOrIgnore (t : Table key) (row : ρ) : Table key :=
  if h : t.find? (key row) = none then t.append row h else t

/-- `INSERT … ON CONFLICT DO UPDATE`: a row replaces the one that has its key. -/
def upsert (t : Table key) (row : ρ) : Table key :=
  if h : t.find? (key row) = none then t.append row h else t.replace row

/-- A row is found after it was appended; the others are still found. -/
theorem find?_append (h : t.find? (key row) = none) :
    (t.append row h).find? k = if k = key row then some row else t.find? k := by
  change (t.rows ++ [row]).find? _ = _
  rw [List.find?_append]
  change (t.find? k).or _ = _
  split
  · next hk => simp [hk, h]
  · next hk => simp [Ne.symm hk]

/-- A row whose key is taken changes nothing. -/
theorem insertOrIgnore_of_taken (h : t.find? (key row) ≠ none) : t.insertOrIgnore row = t := by
  rw [insertOrIgnore, dif_neg h]

/-- A row whose key is free is appended. -/
theorem rows_insertOrIgnore_of_free (h : t.find? (key row) = none) :
    (t.insertOrIgnore row).rows = t.rows ++ [row] := by
  rw [insertOrIgnore, dif_pos h]
  rfl

/-- What is found after an insertion that may be ignored: the older row first. -/
theorem find?_insertOrIgnore :
    (t.insertOrIgnore row).find? k =
      (t.find? k).or (if k = key row then some row else none) := by
  unfold insertOrIgnore
  split
  · next h =>
    rw [find?_append]
    split
    · next hk => rw [hk, h, Option.none_or]
    · rw [Option.or_none]
  · next h =>
    split
    · next hk =>
      obtain ⟨old, hold⟩ := Option.ne_none_iff_exists'.mp h
      rw [hk, hold, Option.some_or]
    · rw [Option.or_none]

/-- An upsert changes what is found under one key. -/
theorem find?_upsert :
    (t.upsert row).find? k = if k = key row then some row else t.find? k := by
  unfold upsert
  split
  · exact find?_append _
  · next h =>
    obtain ⟨old, hold⟩ := Option.ne_none_iff_exists'.mp h
    obtain ⟨hmem, hkey⟩ := find?_eq_some.mp hold
    split
    · next hk =>
      refine find?_eq_some.mpr ⟨List.mem_map.mpr ⟨old, hmem, if_pos hkey⟩, hk.symm⟩
    · next hk =>
      cases hfind : t.find? k with
      | none =>
        refine find?_eq_none.mpr fun row' hrow' => ?_
        obtain ⟨old', hold', rfl⟩ := List.mem_map.mp hrow'
        split
        · exact Ne.symm hk
        · exact find?_eq_none.mp hfind old' hold'
      | some row' =>
        obtain ⟨hmem', rfl⟩ := find?_eq_some.mp hfind
        exact find?_eq_some.mpr ⟨List.mem_map.mpr ⟨row', hmem', if_neg hk⟩, rfl⟩

/-- A key that is taken belongs to one row. -/
theorem countP_key :
    (t.rows.countP fun row => key row = k) = if (t.find? k).isSome then 1 else 0 := by
  have hcount : (t.rows.countP fun row => key row = k) = (t.rows.map key).count k := by
    rw [List.count_eq_countP, List.countP_map]
    rfl
  rw [hcount]
  cases hfind : t.find? k with
  | none =>
    rw [List.count_eq_zero_of_not_mem]
    · rfl
    · intro hmem
      obtain ⟨row, hrow, hkey⟩ := List.mem_map.mp hmem
      exact find?_eq_none.mp hfind row hrow hkey
  | some row =>
    obtain ⟨hrow, hkey⟩ := find?_eq_some.mp hfind
    rw [List.count_eq_one_of_mem t.unique (List.mem_map.mpr ⟨row, hrow, hkey⟩)]
    rfl

end Table

/-! ## The last write -/

section LastWrite

variable {ρ σ κ : Type} [DecidableEq κ] {key : ρ → κ} {writes : List ρ} {w : ρ} {k : κ}

/-- The last of the writes under a key. -/
def lastWrite (key : ρ → κ) (writes : List ρ) (k : κ) : Option ρ :=
  (writes.filter fun w => key w = k).getLast?

/-- A write is the last one under its key until another follows. -/
theorem lastWrite_concat :
    lastWrite key (writes ++ [w]) k = if k = key w then some w else lastWrite key writes k := by
  unfold lastWrite
  rw [List.filter_append]
  by_cases hk : k = key w
  · simp [hk]
  · simp [hk, Ne.symm hk]

/-- The last write is one of the writes under its key. -/
theorem mem_of_lastWrite (h : lastWrite key writes k = some w) : w ∈ writes ∧ key w = k := by
  have hmem := List.mem_filter.mp (List.mem_of_getLast? h)
  exact ⟨hmem.1, of_decide_eq_true hmem.2⟩

/-- A key under which something was written has a last write. -/
theorem exists_lastWrite (key : ρ → κ) (h : w ∈ writes) :
    ∃ last, lastWrite key writes (key w) = some last := by
  cases hlast : lastWrite key writes (key w) with
  | some last => exact ⟨last, rfl⟩
  | none =>
    have hnil := List.getLast?_eq_none_iff.mp hlast
    have hnone := List.filter_eq_nil_iff.mp hnil w h
    exact absurd (decide_eq_true rfl) hnone

/-- Only the keys of the writes matter. -/
theorem lastWrite_congr {key' : ρ → κ} (h : ∀ w ∈ writes, key w = key' w) :
    lastWrite key writes k = lastWrite key' writes k := by
  unfold lastWrite
  rw [List.filter_congr fun w hw => by rw [h w hw]]

/-- Writing what is computed from other values. -/
theorem lastWrite_map (f : σ → ρ) (values : List σ) :
    lastWrite key (values.map f) k = (lastWrite (fun v => key (f v)) values k).map f := by
  unfold lastWrite
  rw [List.filter_map, List.getLast?_map]
  rfl

/-- **Last write wins.** Upserts make a table of the last writes, over what it was before. -/
theorem Table.find?_foldl_upsert (t : Table key) (writes : List ρ) (k : κ) :
    (writes.foldl Table.upsert t).find? k = (lastWrite key writes k).or (t.find? k) := by
  induction writes using List.reverseRecOn with
  | nil => rfl
  | append_singleton writes w ih =>
    rw [List.foldl_concat, Table.find?_upsert, lastWrite_concat]
    split
    · rfl
    · exact ih

end LastWrite
