import Mathlib.Data.List.Infix
import Mathlib.Algebra.GroupWithZero.Nat

/-!
This module contains meters: a counter that adds up the weights of the entries of a log and wraps
around, and an observer who reads it from time to time and reports by how much it has gone on.
-/

namespace Metering

variable {α : Type} {w : Nat} {weight : α → Nat}

def total (weight : α → Nat) (entries : List α) : Nat :=
  (entries.map weight).sum

theorem total_append (entries entries' : List α)
    : total weight (entries ++ entries') = total weight entries + total weight entries' := by
  simp [total]

/--
What the counter shows behind these entries.
-/
def count (w : Nat) (weight : α → Nat) (entries : List α) : BitVec w :=
  BitVec.ofNat w (total weight entries)

theorem count_append_sub (entries chunk : List α)
    : count w weight (entries ++ chunk) - count w weight entries = count w weight chunk := by
  rw [count, total_append, BitVec.ofNat_add, ← count, ← count, BitVec.add_comm,
    BitVec.add_sub_cancel]

/--
The reports are about one chunk of the log each. The chunks follow each other from the beginning of
the log without a gap, up to where the observer has read the counter last.
-/
structure Covers (weight : α → Nat) (log : List α) (last : BitVec w) (reports : List (BitVec w))
    (chunks : List (List α))
    : Prop where
  inLog : chunks.flatten <+: log
  last_eq : last = count w weight chunks.flatten
  reports_eq : reports = chunks.map (count w weight)

/--
The observer has read the counter once more, but has not reported it yet.
-/
structure Reads (weight : α → Nat) (log : List α) (last : BitVec w) (reports : List (BitVec w))
    (reading : BitVec w) (chunks : List (List α)) (chunk : List α)
    : Prop where
  inLog : chunks.flatten ++ chunk <+: log
  last_eq : last = count w weight chunks.flatten
  reports_eq : reports = chunks.map (count w weight)
  reading_eq : reading = count w weight (chunks.flatten ++ chunk)

variable {log log' : List α} {last reading : BitVec w} {reports : List (BitVec w)}
  {chunks : List (List α)} {chunk : List α}

theorem covers_nil (log : List α) : Covers weight log (0 : BitVec w) [] [] where
  inLog := List.nil_prefix
  last_eq := by rfl
  reports_eq := by rfl

theorem Covers.mono (h : Covers weight log last reports chunks) (hlog : log <+: log')
    : Covers weight log' last reports chunks where
  inLog := h.inLog.trans hlog
  last_eq := h.last_eq
  reports_eq := h.reports_eq

theorem Reads.mono (h : Reads weight log last reports reading chunks chunk) (hlog : log <+: log')
    : Reads weight log' last reports reading chunks chunk where
  inLog := h.inLog.trans hlog
  last_eq := h.last_eq
  reports_eq := h.reports_eq
  reading_eq := h.reading_eq

theorem Covers.read (h : Covers weight log last reports chunks)
    : ∃ chunk, Reads weight log last reports (count w weight log) chunks chunk := by
  rcases h.inLog with ⟨chunk, hlog⟩
  refine ⟨chunk, ?_, h.last_eq, h.reports_eq, ?_⟩
  . rw [hlog]
  . rw [hlog]

theorem Reads.report (h : Reads weight log last reports reading chunks chunk)
    : Covers weight log reading (reports ++ [reading - last]) (chunks ++ [chunk]) where
  inLog := by
    rw [List.flatten_concat]
    exact h.inLog
  last_eq := by rw [List.flatten_concat, h.reading_eq]
  reports_eq := by
    rw [h.reading_eq, h.last_eq, count_append_sub, h.reports_eq, List.map_append, List.map_cons,
      List.map_nil]

theorem Reads.covers (h : Reads weight log last reports reading chunks chunk)
    : Covers weight log last reports chunks where
  inLog := (List.prefix_append _ _).trans h.inLog
  last_eq := h.last_eq
  reports_eq := h.reports_eq

/--
A counter that wraps around makes no report wrong but by whole rounds within its own chunk.
-/
theorem Covers.toNat_reports (h : Covers weight log last reports chunks)
    : reports.map BitVec.toNat = chunks.map fun chunk => total weight chunk % 2 ^ w := by
  rw [h.reports_eq, List.map_map]
  apply List.map_congr_left
  intro chunk _
  simp [count]

/--
The observer, with the reading that it has not reported yet.
-/
def Metered (weight : α → Nat) (log : List α) (last : BitVec w) (reports : List (BitVec w))
    : Option (BitVec w) → Prop
  | none => ∃ chunks, Covers weight log last reports chunks
  | some reading => ∃ chunks chunk, Reads weight log last reports reading chunks chunk

variable {unreported : Option (BitVec w)}

theorem Metered.mono (h : Metered weight log last reports unreported) (hlog : log <+: log')
    : Metered weight log' last reports unreported := by
  cases unreported with
  | none =>
    rcases h with ⟨chunks, hcovers⟩
    exact ⟨chunks, hcovers.mono hlog⟩
  | some reading =>
    rcases h with ⟨chunks, chunk, hreads⟩
    exact ⟨chunks, chunk, hreads.mono hlog⟩

theorem Metered.covers (h : Metered weight log last reports unreported)
    : ∃ chunks, Covers weight log last reports chunks := by
  cases unreported with
  | none => exact h
  | some reading =>
    rcases h with ⟨chunks, chunk, hreads⟩
    exact ⟨chunks, hreads.covers⟩

theorem Covers.partition (h : Covers weight log last reports chunks)
    : chunks.flatten <+: log ∧
      (reports.map BitVec.toNat = chunks.map fun chunk => total weight chunk % 2 ^ w) ∧
      last.toNat = total weight chunks.flatten % 2 ^ w := by
  refine ⟨h.inLog, h.toNat_reports, ?_⟩
  rw [h.last_eq, count, BitVec.toNat_ofNat]

/--
The reports and the reading that is yet to be reported share out the log from its beginning.
-/
theorem Metered.partition (h : Metered weight log last reports unreported)
    : ∃ (chunks : List (List α)) (chunk : List α), chunks.flatten ++ chunk <+: log ∧
        (reports.map BitVec.toNat = chunks.map fun chunk => total weight chunk % 2 ^ w) ∧
        last.toNat = total weight chunks.flatten % 2 ^ w ∧
        ∀ reading, unreported = some reading →
          reading.toNat = total weight (chunks.flatten ++ chunk) % 2 ^ w := by
  cases unreported with
  | none =>
    rcases h with ⟨chunks, hcovers⟩
    rcases hcovers.partition with ⟨hlog, hreports, hlast⟩
    exact ⟨chunks, [], by simpa using hlog, hreports, hlast, by simp⟩
  | some reading =>
    rcases h with ⟨chunks, chunk, hreads⟩
    rcases hreads.covers.partition with ⟨_, hreports, hlast⟩
    refine ⟨chunks, chunk, hreads.inLog, hreports, hlast, ?_⟩
    rintro _ ⟨⟩
    rw [hreads.reading_eq, count, BitVec.toNat_ofNat]

theorem Metered.read (h : Metered weight log last reports unreported)
    : Metered weight log last reports (some (count w weight log)) := by
  rcases h.covers with ⟨chunks, hcovers⟩
  rcases hcovers.read with ⟨chunk, hreads⟩
  exact ⟨chunks, chunk, hreads⟩

theorem Metered.report (h : Metered weight log last reports (some reading))
    : Metered weight log reading (reports ++ [reading - last]) none := by
  rcases h with ⟨chunks, chunk, hreads⟩
  exact ⟨chunks ++ [chunk], hreads.report⟩

end Metering
