import SrsDaq.Invariants

/-!
This module contains how much the reader and the analysis still do behind the stores that tell them to
end.
-/

namespace Srs

namespace Acquisition

variable {bufferSize : Nat} {cfg : Config} {daq daq' : Acquisition bufferSize}

end Acquisition

namespace App

variable {bufferSize : Nat} {cfg : Config} {app app' : App bufferSize}

theorem isStopped_next {a : Action bufferSize}
    (hstarted : stage .startProcessor < stage app.mainPc)
    (hstopped : app.daq.isStopped = true) (h : next cfg app a = some app')
    : app'.daq.isStopped = true := by
  cases next_effect h with
  | start daq hpc hdaq => simp [hpc] at hstarted
  | startRaises daq hpc hdaq => simp [hpc] at hstarted
  | listenReader daq hpc hdaq => simp [hpc, stage] at hstarted
  | daq b daq hown hdaq =>
    rw [isStopped_own hown hdaq]
    exact hstopped
  | exit caller b _ heffect => exact (exit_keeps h).2.2.2.2 hstopped
  | closeSocket c closed hpc hclosed =>
    rw [daq_setCoroutinePc]
    cases c <;> cases hclosed <;> exact hstopped
  | armSignal c hpc => simpa using hstopped
  | leaveReading hpc hleft => simpa using hstopped
  | storeStatus c hpc =>
    rw [daq_setCoroutinePc]
    cases c <;> exact hstopped
  | notify c hpc =>
    rw [daq_setCoroutinePc]
    exact hstopped
  | cancelCoroutine c hcancel => simpa using hstopped
  | endStopper caller hpc => simpa using hstopped
  | _ => exact hstopped

theorem isAcqOff_next {a : Action bufferSize} (hoff : app.status.isAcqOff = true)
    (h : next cfg app a = some app')
    : app'.status.isAcqOff = true := by
  by_cases hexit : ∃ caller b, a = .exit caller b
  . rcases hexit with ⟨caller, b, rfl⟩
    exact (guards_exit h).1 hoff
  . rw [(guards_beside h hexit).1, hoff]

end App

end Srs
