import Mathlib.Data.List.Basic

/-!
This module contains maps from a fixed set of keys to columns of values, to which rows are appended
one column at a time.
-/

structure Columns (keys : List κ) (α : Type) where
  entries : List (κ × List α)
  keys_eq : entries.map Prod.fst = keys

namespace Columns

variable {κ α : Type} {keys : List κ}

@[ext]
theorem ext {c d : Columns keys α} (h : c.entries = d.entries) : c = d := by
  cases c
  cases d
  simp_all

def ofFn (keys : List κ) (f : κ → List α) : Columns keys α where
  entries := keys.map fun key => (key, f key)
  keys_eq := by simp [Function.comp_def]

def empty (keys : List κ) (α : Type) : Columns keys α :=
  ofFn keys fun _ => []

def clear (c : Columns keys α) : Columns keys α where
  entries := c.entries.map fun entry => (entry.1, [])
  keys_eq := by
    rw [List.map_map]
    apply c.keys_eq

@[simp]
theorem clear_eq_empty (c : Columns keys α) : c.clear = empty keys α := by
  rcases c with ⟨entries, rfl⟩
  apply ext
  simp only [clear, empty, ofFn]
  rw [List.map_map]
  rfl

theorem ofFn_congr {f g : κ → List α} (h : ∀ key, key ∈ keys → f key = g key)
    : ofFn keys f = ofFn keys g := by
  apply ext
  simp only [ofFn]
  apply List.map_congr_left
  intro key hkey
  rw [h key hkey]

variable [DecidableEq κ]

def get (c : Columns keys α) (key : κ) (_h : key ∈ keys) : List α :=
  (c.entries.lookup key).getD []

def pushBack (c : Columns keys α) (key : κ) (_h : key ∈ keys) (value : α) : Columns keys α where
  entries := c.entries.map fun entry =>
    if entry.1 = key then (entry.1, entry.2 ++ [value]) else entry
  keys_eq := by
    rw [List.map_map]
    refine Eq.trans ?_ c.keys_eq
    apply List.map_congr_left
    intro entry _
    simp only [Function.comp_apply]
    split <;> rfl

@[simp]
theorem pushBack_ofFn (f : κ → List α) (key : κ) (h : key ∈ keys) (value : α)
    : (ofFn keys f).pushBack key h value
        =
      ofFn keys fun k => if k = key then f k ++ [value] else f k := by
  apply ext
  simp only [pushBack, ofFn, List.map_map]
  apply List.map_congr_left
  intro k _
  simp only [Function.comp_apply]
  split <;> rfl

theorem lookup_map_of_mem {f : κ → List α} {key : κ} (h : key ∈ keys)
    : (keys.map fun k => (k, f k)).lookup key = some (f key) := by
  induction keys with
  | nil => simp at h
  | cons k keys ih =>
    by_cases heq : key = k
    . subst heq
      simp
    . have hmem : key ∈ keys := by
        simp only [List.mem_cons] at h
        rcases h with h | h
        . apply absurd h heq
        . exact h
      have hbeq : (key == k) = false := by simp [heq]
      simp [List.lookup_cons, hbeq, ih hmem]

@[simp]
theorem get_ofFn (f : κ → List α) (key : κ) (h : key ∈ keys) : (ofFn keys f).get key h = f key := by
  simp only [get, ofFn]
  rw [lookup_map_of_mem h]
  rfl

theorem lookup_map_entries (entries : List (κ × List α)) (key k : κ) (value : α)
    : (entries.map fun entry =>
          if entry.1 = key then (entry.1, entry.2 ++ [value]) else entry).lookup k
        =
      (entries.lookup k).map fun column => if k = key then column ++ [value] else column := by
  induction entries with
  | nil => rfl
  | cons entry entries ih =>
    rcases entry with ⟨entryKey, column⟩
    by_cases heq : k = entryKey
    . subst heq
      by_cases hk : k = key <;> simp [hk]
    . have hbeq : (k == entryKey) = false := by simp [heq]
      by_cases hentry : entryKey = key
      . subst hentry
        simp [List.lookup_cons, hbeq, ih]
      . simp [List.lookup_cons, hentry, hbeq, ih]

theorem get_pushBack (c : Columns keys α) (key : κ) (hkey : key ∈ keys) (value : α) (k : κ)
    (h : k ∈ keys)
    : (c.pushBack key hkey value).get k h = if k = key then c.get k h ++ [value] else c.get k h := by
  have hsome : (c.entries.lookup k).isSome = true := by
    rw [← c.keys_eq, List.mem_map] at h
    rcases h with ⟨entry, hentry, rfl⟩
    rw [List.lookup_isSome_iff]
    exact ⟨entry, hentry, by simp⟩
  rcases Option.isSome_iff_exists.mp hsome with ⟨column, hcolumn⟩
  simp only [get, pushBack, lookup_map_entries, hcolumn, Option.map_some, Option.getD_some]

end Columns
