import Mathlib.Algebra.Group.Nat.Defs

/-!
This module contains the coroutine that prints the data rate: it waits on a clock, reads the two
counters of the processor one after the other, and reports by how much they have gone on. How the
rates are computed from the differences and printed is left out.
-/

namespace Srs

inductive DataPrintMode where
  | printSpeed
  | printHeader
  | printRaw
  | printAll
  deriving DecidableEq, Repr

inductive MonitorPc where
  | notSpawned
  -- The coroutine is spawned and has yet to run.
  | starting
  -- `co_await clock_.async_wait`
  | waiting
  -- The clock has expired, nothing can be cancelled any more.
  | expired
  -- The wait was cancelled, its exception is on the way.
  | cancelled
  | readBytes (totalBytesCount : BitVec 64)
  | readHits (totalBytesCount totalHitsCount : BitVec 64)
  | ended
  deriving DecidableEq, Repr

/--
`reports` is no member of the program: it keeps the differences that the rates were computed from.
-/
structure DataMonitor where
  pc : MonitorPc := .notSpawned
  lastReadDataBytes : BitVec 64 := 0
  lastProcessedHitNum : BitVec 64 := 0
  reports : List (BitVec 64 × BitVec 64) := []
  deriving DecidableEq, Repr

namespace DataMonitor

inductive Action where
  | enter
  | expire
  | readBytes
  | readHits
  | report
  | raise
  deriving DecidableEq, Repr

def start (monitor : DataMonitor) : DataMonitor :=
  { monitor with pc := .starting }

def stop (monitor : DataMonitor) : DataMonitor :=
  -- `clock_.cancel()` reaches a wait that is pending, and no other.
  match monitor.pc with
  | .waiting => { monitor with pc := .cancelled }
  | _ => monitor

/-
`print_cycle`, in the order of its steps.
-/

def enter (monitor : DataMonitor) : Option DataMonitor :=
  match monitor.pc with
  | .starting => some { monitor with pc := .waiting }
  | _ => none

def expire (monitor : DataMonitor) : Option DataMonitor :=
  match monitor.pc with
  | .waiting => some { monitor with pc := .expired }
  | _ => none

def readBytes (readDataBytes : BitVec 64) (monitor : DataMonitor) : Option DataMonitor :=
  match monitor.pc with
  | .expired => some { monitor with pc := .readBytes readDataBytes }
  | _ => none

def readHits (processedHitNumber : BitVec 64) (monitor : DataMonitor) : Option DataMonitor :=
  match monitor.pc with
  | .readBytes totalBytesCount =>
    some { monitor with pc := .readHits totalBytesCount processedHitNumber }
  | _ => none

def report (monitor : DataMonitor) : Option DataMonitor :=
  match monitor.pc with
  | .readHits totalBytesCount totalHitsCount =>
    let bytesRead := totalBytesCount - monitor.lastReadDataBytes
    let hitsProcessed := totalHitsCount - monitor.lastProcessedHitNum
    some {
      pc := .waiting
      lastReadDataBytes := totalBytesCount
      lastProcessedHitNum := totalHitsCount
      reports := monitor.reports ++ [(bytesRead, hitsProcessed)] }
  | _ => none

def raise (monitor : DataMonitor) : Option DataMonitor :=
  match monitor.pc with
  | .cancelled => some { monitor with pc := .ended }
  | _ => none

def printCycle (readDataBytes processedHitNumber : BitVec 64) (a : Action) (monitor : DataMonitor)
    : Option DataMonitor :=
  match a with
  | .enter => monitor.enter
  | .expire => monitor.expire
  | .readBytes => monitor.readBytes readDataBytes
  | .readHits => monitor.readHits processedHitNumber
  | .report => monitor.report
  | .raise => monitor.raise

/--
Whether the coroutine keeps the pool of threads from being joined.
-/
def isLive (monitor : DataMonitor) : Bool :=
  match monitor.pc with
  | .notSpawned => false
  | .ended => false
  | _ => true

/--
Whether the coroutine goes on for ever unless somebody cancels its wait.
-/
def isCycling (monitor : DataMonitor) : Bool :=
  match monitor.pc with
  | .notSpawned => false
  | .cancelled => false
  | .ended => false
  | _ => true

theorem isLive_of_isCycling {monitor : DataMonitor} (h : monitor.isCycling = true)
    : monitor.isLive = true := by
  unfold isCycling at h
  unfold isLive
  split at h <;> simp_all

inductive Effect (readDataBytes processedHitNumber : BitVec 64) (monitor : DataMonitor)
    : DataMonitor → Prop where
  | enter (hpc : monitor.pc = .starting)
    : Effect readDataBytes processedHitNumber monitor { monitor with pc := .waiting }
  | expire (hpc : monitor.pc = .waiting)
    : Effect readDataBytes processedHitNumber monitor { monitor with pc := .expired }
  | readBytes (hpc : monitor.pc = .expired)
    : Effect readDataBytes processedHitNumber monitor { monitor with pc := .readBytes readDataBytes }
  | readHits (totalBytesCount) (hpc : monitor.pc = .readBytes totalBytesCount)
    : Effect readDataBytes processedHitNumber monitor
        { monitor with pc := .readHits totalBytesCount processedHitNumber }
  | report (totalBytesCount totalHitsCount) (hpc : monitor.pc = .readHits totalBytesCount totalHitsCount)
    : Effect readDataBytes processedHitNumber monitor
        { pc := .waiting
          lastReadDataBytes := totalBytesCount
          lastProcessedHitNum := totalHitsCount
          reports := monitor.reports ++
            [(totalBytesCount - monitor.lastReadDataBytes,
              totalHitsCount - monitor.lastProcessedHitNum)] }
  | raise (hpc : monitor.pc = .cancelled)
    : Effect readDataBytes processedHitNumber monitor { monitor with pc := .ended }

section Effect

variable {readDataBytes processedHitNumber : BitVec 64} {a : Action} {monitor monitor' : DataMonitor}

theorem printCycle_effect
    (h : printCycle readDataBytes processedHitNumber a monitor = some monitor')
    : Effect readDataBytes processedHitNumber monitor monitor' := by
  cases a with
  | enter =>
    simp only [printCycle, DataMonitor.enter] at h
    split at h
    . next hpc =>
      cases h
      exact .enter hpc
    . cases h
  | expire =>
    simp only [printCycle, DataMonitor.expire] at h
    split at h
    . next hpc =>
      cases h
      exact .expire hpc
    . cases h
  | readBytes =>
    simp only [printCycle, DataMonitor.readBytes] at h
    split at h
    . next hpc =>
      cases h
      exact .readBytes hpc
    . cases h
  | readHits =>
    simp only [printCycle, DataMonitor.readHits] at h
    split at h
    . next hpc =>
      cases h
      exact .readHits _ hpc
    . cases h
  | report =>
    simp only [printCycle, DataMonitor.report] at h
    split at h
    . next hpc =>
      cases h
      exact .report _ _ hpc
    . cases h
  | raise =>
    simp only [printCycle, DataMonitor.raise] at h
    split at h
    . next hpc =>
      cases h
      exact .raise hpc
    . cases h

theorem isCycling_printCycle
    (h : printCycle readDataBytes processedHitNumber a monitor = some monitor')
    : monitor'.isCycling = monitor.isCycling := by
  cases printCycle_effect h with
  | enter hpc
  | expire hpc
  | readBytes hpc
  | readHits _ hpc
  | report _ _ hpc
  | raise hpc => simp only [isCycling, hpc]

theorem isLive_of_printCycle
    (h : printCycle readDataBytes processedHitNumber a monitor = some monitor')
    : monitor.isLive = true := by
  cases printCycle_effect h with
  | enter hpc
  | expire hpc
  | readBytes hpc
  | readHits _ hpc
  | report _ _ hpc
  | raise hpc => simp only [isLive, hpc]

/--
Only a coroutine that goes on reports anything.
-/
theorem reports_printCycle (hover : monitor.isCycling = false)
    (h : printCycle readDataBytes processedHitNumber a monitor = some monitor')
    : monitor'.reports = monitor.reports := by
  cases printCycle_effect h with
  | report _ _ hpc =>
    simp only [isCycling, hpc] at hover
    cases hover
  | _ => rfl

end Effect

theorem isCycling_stop {monitor : DataMonitor} (h : monitor.pc = .waiting)
    : monitor.stop.isCycling = false := by
  simp only [stop, h, isCycling]

theorem stop_of_ne {monitor : DataMonitor} (h : monitor.pc ≠ .waiting) : monitor.stop = monitor := by
  unfold stop
  split
  . contradiction
  . rfl

theorem isLive_of_stop {monitor : DataMonitor} (h : monitor.stop.isLive = true)
    : monitor.isLive = true := by
  unfold stop at h
  split at h
  . next hpc => simp only [isLive, hpc]
  . exact h

theorem reports_stop (monitor : DataMonitor) : monitor.stop.reports = monitor.reports := by
  unfold stop
  split <;> rfl

end DataMonitor

end Srs
