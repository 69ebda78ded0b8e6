import SrsDaq.Analysis.DataMonitor
import SrsDaq.Data.Metering
import SrsDaq.Overrun
import SrsDaq.Recording

/-!
This module contains the application together with the monitor that it starts when it prints the data
rate: what the monitor reports about the data, and when it keeps the program from ending.
-/

namespace Srs

structure MonitoredApp (bufferSize : Nat) where
  app : App bufferSize
  monitor : DataMonitor := {}

namespace MonitoredApp

variable {bufferSize : Nat}

structure Config where
  app : App.Config
  printMode : DataPrintMode := .printSpeed

inductive Action (bufferSize : Nat) where
  | app (a : App.Action bufferSize)
  -- `DataProcessor::start` raises behind the start of the monitor.
  | postRaises
  | monitor (a : DataMonitor.Action)

def startMonitor (cfg : Config) (sys : MonitoredApp bufferSize) : DataMonitor :=
  if cfg.printMode = .printSpeed then
    sys.monitor.start
  else
    sys.monitor

def isHeld (a : App.Action bufferSize) (sys : MonitoredApp bufferSize) : Bool :=
  -- `io_context_.join()` waits for the monitor, too.
  match a, sys.app.mainPc with
  | .main _, .join => sys.monitor.isLive
  | .main _, .unwind => sys.monitor.isLive
  | _, _ => false

def monitorBehind (cfg : Config) (a : App.Action bufferSize) (sys : MonitoredApp bufferSize)
    : DataMonitor :=
  match a with
  | .main true => if sys.app.mainPc = .startProcessor then sys.startMonitor cfg else sys.monitor
  | .exit caller .advance =>
    if (sys.app.exitRun caller).pc = .stopMonitor then sys.monitor.stop else sys.monitor
  | _ => sys.monitor

def next (cfg : Config) (sys : MonitoredApp bufferSize)
    : Action bufferSize → Option (MonitoredApp bufferSize)
  | .app a =>
    if sys.isHeld a then
      none
    else
      (sys.app.next cfg.app a).map fun app => { app := app, monitor := sys.monitorBehind cfg a }
  | .postRaises =>
    if sys.app.mainPc = .startProcessor then
      (sys.app.next cfg.app (.main false)).map fun app =>
        { app := app, monitor := sys.startMonitor cfg }
    else
      none
  | .monitor a =>
    (sys.monitor.printCycle sys.app.daq.totalReadDataBytes
        sys.app.daq.processor.totalProcessedHitNumer a).map fun monitor =>
      { sys with monitor := monitor }

def init (bufferSize : Nat) (cfg : Config) : MonitoredApp bufferSize where
  app := .init bufferSize cfg.app

def system (bufferSize : Nat) (cfg : Config)
    : TransitionSystem (MonitoredApp bufferSize) (Action bufferSize) where
  init := init bufferSize cfg
  next := next cfg

inductive Effect (cfg : Config) (sys : MonitoredApp bufferSize) : MonitoredApp bufferSize → Prop where
  | beside (a) (app) (hheld : sys.isHeld a = false) (hnext : sys.app.next cfg.app a = some app)
    : Effect cfg sys { sys with app := app }
  | start (a) (app) (hpc : sys.app.mainPc = .startProcessor)
    (hnext : sys.app.next cfg.app a = some app)
    : Effect cfg sys { app := app, monitor := sys.monitor.start }
  | stop (caller) (app) (hpc : (sys.app.exitRun caller).pc = .stopMonitor)
    (hnext : sys.app.next cfg.app (.exit caller .advance) = some app)
    : Effect cfg sys { app := app, monitor := sys.monitor.stop }
  | print (a) (monitor)
    (hprint : sys.monitor.printCycle sys.app.daq.totalReadDataBytes
      sys.app.daq.processor.totalProcessedHitNumer a = some monitor)
    : Effect cfg sys { sys with monitor := monitor }

variable {cfg : Config} {sys sys' : MonitoredApp bufferSize}

theorem next_effect {a : Action bufferSize} (h : next cfg sys a = some sys')
    : Effect cfg sys sys' := by
  cases a with
  | app a =>
    simp only [next] at h
    split at h
    . cases h
    . next hheld =>
      rw [Bool.not_eq_true] at hheld
      simp only [Option.map_eq_some_iff] at h
      rcases h with ⟨app, hnext, rfl⟩
      unfold monitorBehind
      split
      . split
        . next hpc =>
          unfold startMonitor
          split
          . exact .start _ app hpc hnext
          . exact .beside _ app hheld hnext
        . exact .beside _ app hheld hnext
      . next caller =>
        split
        . next hpc => exact .stop caller app hpc hnext
        . exact .beside _ app hheld hnext
      . exact .beside _ app hheld hnext
  | postRaises =>
    simp only [next] at h
    split at h
    . next hpc =>
      simp only [Option.map_eq_some_iff] at h
      rcases h with ⟨app, hnext, rfl⟩
      unfold startMonitor
      split
      . exact .start _ app hpc hnext
      . exact .beside (.main false) app (by simp [isHeld, hpc]) hnext
    . cases h
  | monitor a =>
    simp only [next, Option.map_eq_some_iff] at h
    rcases h with ⟨monitor, hprint, rfl⟩
    exact .print a monitor hprint

/--
The monitor takes nothing from the application and gives nothing to it, so all that holds in every
run of the application does so beside the monitor.
-/
def application (bufferSize : Nat) (cfg : Config)
    : (system bufferSize cfg).Projection (App.system bufferSize cfg.app) where
  view sys := sys.app
  view_init := by rfl
  view_next := by
    intro sys a sys' h
    cases next_effect h with
    | beside b app hheld hnext => exact Or.inr ⟨b, hnext⟩
    | start b app hpc hnext => exact Or.inr ⟨b, hnext⟩
    | stop caller app hpc hnext => exact Or.inr ⟨.exit caller .advance, hnext⟩
    | print b monitor hprint => exact Or.inl rfl

/--
Without a monitor the application takes all the steps that it can take alone.
-/
def unmonitored (bufferSize : Nat) (cfg : Config) (hmode : cfg.printMode ≠ .printSpeed)
    : (App.system bufferSize cfg.app).Simulation (system bufferSize cfg) where
  rel app sys := sys = { app := app }
  rel_init := by rfl
  rel_next := by
    rintro app sys a app' rfl hnext
    refine ⟨{ app := app' }, .single ⟨.app a, ?_⟩, rfl⟩
    have hheld : isHeld a { app := app } = false := by
      unfold isHeld
      split <;> rfl
    have hmonitor : monitorBehind cfg a { app := app } = {} := by
      unfold monitorBehind startMonitor
      rw [if_neg hmode]
      split
      . split <;> rfl
      . split <;> rfl
      . rfl
    simp only [system, next, hheld, hmonitor, Bool.false_eq_true, if_false, Option.map_eq_some_iff]
    exact ⟨app', hnext, rfl⟩

/-
The reports.
-/

def unreportedBytes : MonitorPc → Option (BitVec 64)
  | .readBytes totalBytesCount => some totalBytesCount
  | .readHits totalBytesCount _ => some totalBytesCount
  | _ => none

def unreportedHits : MonitorPc → Option (BitVec 64)
  | .readHits _ totalHitsCount => some totalHitsCount
  | _ => none

structure Meters (sys : MonitoredApp bufferSize) : Prop where
  bytes : Metering.Metered List.length sys.app.daq.handedOver sys.monitor.lastReadDataBytes
    (sys.monitor.reports.map Prod.fst) (unreportedBytes sys.monitor.pc)
  hits : Metering.Metered (fun frame => (Frame.hits frame).length) sys.app.daq.decoded
    sys.monitor.lastProcessedHitNum (sys.monitor.reports.map Prod.snd)
    (unreportedHits sys.monitor.pc)

theorem Meters.mono (h : sys.Meters) {app : App bufferSize} {a : App.Action bufferSize}
    (hnext : sys.app.next cfg.app a = some app)
    : Meters { sys with app := app } := by
  rcases App.daq_next hnext with hsame | ⟨b, hdaq⟩
  . refine ⟨?_, ?_⟩
    . simp only [hsame]
      exact h.bytes
    . simp only [hsame]
      exact h.hits
  . exact ⟨h.bytes.mono (Acquisition.handedOver_step hdaq),
      h.hits.mono (Acquisition.decoded_step hdaq)⟩

theorem Meters.start (h : sys.Meters) : Meters { sys with monitor := sys.monitor.start } where
  bytes := h.bytes.covers
  hits := h.hits.covers

theorem Meters.stop (h : sys.Meters) : Meters { sys with monitor := sys.monitor.stop } := by
  unfold DataMonitor.stop
  split
  . exact ⟨h.bytes.covers, h.hits.covers⟩
  . exact h

theorem Meters.print (h : sys.Meters) (hcounts : sys.app.daq.CountsBytes)
    (hhits : sys.app.daq.processor.totalProcessedHitNumer
      = BitVec.ofNat 64 (Acquisition.hitCount sys.app.daq.decoded))
    {a : DataMonitor.Action} {monitor : DataMonitor}
    (hprint : sys.monitor.printCycle sys.app.daq.totalReadDataBytes
      sys.app.daq.processor.totalProcessedHitNumer a = some monitor)
    : Meters { sys with monitor := monitor } := by
  rcases h with ⟨hbytes, hhits'⟩
  cases DataMonitor.printCycle_effect hprint with
  | enter hpc => exact ⟨hbytes.covers, hhits'.covers⟩
  | expire hpc => exact ⟨hbytes.covers, hhits'.covers⟩
  | raise hpc => exact ⟨hbytes.covers, hhits'.covers⟩
  | readBytes hpc =>
    rw [hcounts]
    exact ⟨hbytes.read, hhits'.covers⟩
  | readHits totalBytesCount hpc =>
    rw [hpc] at hbytes
    rw [hhits]
    exact ⟨hbytes, hhits'.read⟩
  | report totalBytesCount totalHitsCount hpc =>
    rw [hpc] at hbytes hhits'
    refine ⟨?_, ?_⟩
    . simp only [List.map_append, List.map_cons, List.map_nil]
      exact hbytes.report
    . simp only [List.map_append, List.map_cons, List.map_nil]
      exact hhits'.report

theorem meters_reachable (hzpp : cfg.app.daq.zpp.Lawful ReceiveDataHeader.wireFormat)
    (hsize : bufferSize ≤ maxSize) (h : (system bufferSize cfg).Reachable sys)
    : sys.Meters := by
  induction h with
  | refl => exact ⟨⟨[], Metering.covers_nil _⟩, ⟨[], Metering.covers_nil _⟩⟩
  | @tail sys sys' hreachable hnext ih =>
    rcases hnext with ⟨a, ha⟩
    cases next_effect ha with
    | beside b app hheld hnext => exact ih.mono hnext
    | start b app hpc hnext => exact (ih.mono hnext).start
    | stop caller app hpc hnext => exact (ih.mono hnext).stop
    | print b monitor hprint =>
      have hdaq := (App.acquisition bufferSize cfg.app).reachable
        ((application bufferSize cfg).reachable hreachable)
      exact ih.print (Acquisition.conserves_reachable hdaq).countsBytes
        (Acquisition.processes_reachable hzpp hsize hdaq).hits hprint

/--
The reports of the monitor share out the data. They are about consecutive chunks of what was handed
over, from its beginning to the last reading that was reported, and the reading that is yet to be
reported is about one chunk more. A reading takes all that has been handed over by then, and a report
goes as far as its reading. And so it is with the hits of the frames that were decoded. Only a report
about 2^64 bytes or hits and more would be wrong.
-/
theorem reports_are_exact (hzpp : cfg.app.daq.zpp.Lawful ReceiveDataHeader.wireFormat)
    (hsize : bufferSize ≤ maxSize) (h : (system bufferSize cfg).Reachable sys)
    : (∃ (chunks : List (List (List Byte))) (chunk : List (List Byte)),
        chunks.flatten ++ chunk <+: sys.app.daq.handedOver ∧
        (sys.monitor.reports.map (fun report => report.1.toNat)
          = chunks.map fun chunk => (chunk.map List.length).sum % 2 ^ 64) ∧
        sys.monitor.lastReadDataBytes.toNat = (chunks.flatten.map List.length).sum % 2 ^ 64 ∧
        ∀ reading, unreportedBytes sys.monitor.pc = some reading →
          reading.toNat = ((chunks.flatten ++ chunk).map List.length).sum % 2 ^ 64) ∧
      (∃ (chunks : List (List (List Byte))) (chunk : List (List Byte)),
        chunks.flatten ++ chunk <+: sys.app.daq.decoded ∧
        (sys.monitor.reports.map (fun report => report.2.toNat)
          = chunks.map fun chunk => Acquisition.hitCount chunk % 2 ^ 64) ∧
        sys.monitor.lastProcessedHitNum.toNat
          = Acquisition.hitCount chunks.flatten % 2 ^ 64 ∧
        ∀ reading, unreportedHits sys.monitor.pc = some reading →
          reading.toNat = Acquisition.hitCount (chunks.flatten ++ chunk) % 2 ^ 64) ∧
      (∀ sys', next cfg sys (.monitor .readBytes) = some sys' →
        (unreportedBytes sys'.monitor.pc).map BitVec.toNat
          = some ((sys.app.daq.handedOver.map List.length).sum % 2 ^ 64)) ∧
      (∀ sys', next cfg sys (.monitor .readHits) = some sys' →
        (unreportedHits sys'.monitor.pc).map BitVec.toNat
          = some (Acquisition.hitCount sys.app.daq.decoded % 2 ^ 64)) ∧
      ∀ sys', next cfg sys (.monitor .report) = some sys' →
        unreportedBytes sys.monitor.pc = some sys'.monitor.lastReadDataBytes ∧
        unreportedHits sys.monitor.pc = some sys'.monitor.lastProcessedHitNum ∧
        sys'.monitor.reports.length = sys.monitor.reports.length + 1 := by
  have hmeters := meters_reachable hzpp hsize h
  have hdaq := (App.acquisition bufferSize cfg.app).reachable
    ((application bufferSize cfg).reachable h)
  refine ⟨?_, ?_, ?_, ?_, ?_⟩
  . rcases hmeters.bytes.partition with ⟨chunks, chunk, hlog, hreports, hlast, hreading⟩
    rw [List.map_map] at hreports
    exact ⟨chunks, chunk, hlog, hreports, hlast, hreading⟩
  . rcases hmeters.hits.partition with ⟨chunks, chunk, hlog, hreports, hlast, hreading⟩
    rw [List.map_map] at hreports
    exact ⟨chunks, chunk, hlog, hreports, hlast, hreading⟩
  . intro sys' hread
    have hcounts : sys.app.daq.totalReadDataBytes
        = BitVec.ofNat 64 (sys.app.daq.handedOver.map List.length).sum :=
      (Acquisition.conserves_reachable hdaq).countsBytes
    cases hprint : sys.monitor.pc <;>
      simp only [next, DataMonitor.printCycle, DataMonitor.readBytes, hprint, Option.map_none,
        Option.map_some, reduceCtorEq, Option.some.injEq] at hread
    rw [← hread, unreportedBytes, Option.map_some, hcounts, BitVec.toNat_ofNat]
  . intro sys' hread
    have hhits : sys.app.daq.processor.totalProcessedHitNumer
        = BitVec.ofNat 64 (Acquisition.hitCount sys.app.daq.decoded) :=
      (Acquisition.processes_reachable hzpp hsize hdaq).hits
    cases hprint : sys.monitor.pc <;>
      simp only [next, DataMonitor.printCycle, DataMonitor.readHits, hprint, Option.map_none,
        Option.map_some, reduceCtorEq, Option.some.injEq] at hread
    rw [← hread, unreportedHits, Option.map_some, hhits, BitVec.toNat_ofNat]
  . intro sys' hreport
    cases hprint : sys.monitor.pc <;>
      simp only [next, DataMonitor.printCycle, DataMonitor.report, hprint, Option.map_none,
        Option.map_some, reduceCtorEq, Option.some.injEq] at hreport
    rw [← hreport]
    exact ⟨rfl, rfl, by simp⟩

def plainConfig : Config where
  app := App.plainConfig

def reportOnce : List (Action 40) :=
  [.monitor .expire, .monitor .readBytes, .monitor .readHits, .monitor .report]

/--
The first report comes before the datagram is analysed. The second one is about its hit, and about the
bytes of the next datagram.
-/
def twoReports : List (Action 40) :=
  App.startUp.map .app ++ .monitor .enter :: (App.receiveFrame App.firstDatagram).map .app ++
    reportOnce ++ .app (.daq .enterLoop) :: App.analyseFrame.map .app ++
    (App.receiveFrame App.secondDatagram).map .app ++ reportOnce

theorem reports_are_exact_example
    : ∃ sys, (system 40 plainConfig).Reachable sys ∧ sys.monitor.reports = [(30, 0), (34, 1)] ∧
        sys.app.daq.handedOver = [DataProcessor.hitAndMarker, DataProcessor.markerAndHits] ∧
        ∃ chunks : List (List (List Byte)), chunks.flatten <+: sys.app.daq.handedOver ∧
          [30, 34] = (chunks.map fun chunk => (chunk.map List.length).sum % 2 ^ 64) ∧
          64 = (chunks.flatten.map List.length).sum % 2 ^ 64 := by
  have hrun : ((system 40 plainConfig).exec (init 40 plainConfig) twoReports).map
        (fun sys => decide (sys.monitor.reports = [(30, 0), (34, 1)] ∧
          sys.monitor.lastReadDataBytes = 64 ∧
          sys.app.daq.handedOver = [DataProcessor.hitAndMarker, DataProcessor.markerAndHits]))
      = some true := by
    decide +kernel
  rcases Option.map_eq_some_iff.mp hrun with ⟨sys, hexec, hsys⟩
  rcases of_decide_eq_true hsys with ⟨hreports, hlast, hhanded⟩
  have hreachable := TransitionSystem.Reachable.of_exec hexec
  rcases (reports_are_exact (ZppBits.reference_lawful _) (by decide) hreachable).1 with
    ⟨chunks, chunk, hleading, hchunks, hcovered, _⟩
  rw [hreports] at hchunks
  rw [hlast] at hcovered
  exact ⟨sys, hreachable, hreports, hhanded, chunks, (List.prefix_append _ _).trans hleading, hchunks,
    hcovered⟩

/-
The end of the monitor.
-/

/--
The processor is started, and nobody is going to cancel the clock of the monitor any more.
-/
structure Settled (app : App bufferSize) : Prop where
  started : App.stage .startProcessor < App.stage app.mainPc
  stopped : app.daq.isStopped = true
  noStop : ∀ caller, (app.exitRun caller).pc ≠ .stopMonitor

theorem noStop_exit {app app' : App bufferSize} {caller : ExitCaller} {a : ExitAction}
    (hstopped : app.daq.isStopped = true) (h : app.exit cfg.app caller a = some app')
    : (app'.exitRun caller).pc ≠ .stopMonitor := by
  cases App.exit_effect h with
  | exchangeStopped _ daq hpc hrunning hdaq =>
    rw [hrunning] at hstopped
    cases hstopped
  | callHandler hpc hsignal => simp [App.exitRun]
  | callAnalysis phase hpc hfailed => simp [App.exitRun]
  | _ => simp [App.setExitPc]

theorem noStop_touched {run run' : ExitRun} (htouched : App.Touched run run')
    (hpc : run.pc ≠ .stopMonitor)
    : run'.pc ≠ .stopMonitor := by
  cases htouched with
  | same => exact hpc
  | stopperEnded _ => exact hpc
  | notified =>
    rcases run with ⟨pc, stopper⟩
    cases pc with
    | stopMonitor => contradiction
    | _ => simp [App.ExitPc.notify]

theorem Settled.next {app app' : App bufferSize} {a : App.Action bufferSize} (h : Settled app)
    (hnext : app.next cfg.app a = some app')
    : Settled app' where
  started := Nat.lt_of_lt_of_le h.started (App.stage_next hnext)
  stopped := App.isStopped_next h.started h.stopped hnext
  noStop := by
    intro caller
    by_cases hexit : ∃ caller b, a = .exit caller b
    . rcases hexit with ⟨other, b, rfl⟩
      by_cases heq : caller = other
      . subst heq
        apply noStop_exit h.stopped hnext
      . rw [App.exitRun_exit_of_ne hnext heq]
        apply h.noStop
    . exact noStop_touched (((App.exit_or_beside hnext).resolve_left hexit).exitRun caller)
        (h.noStop caller)

def isJoined : MainPc → Bool
  | .joined => true
  | .unwound => true
  | _ => false

theorem notJoined_next {app app' : App bufferSize} {a : App.Action bufferSize}
    (hnot : ∀ succeeds, a = .main succeeds → app.mainPc ≠ .join ∧ app.mainPc ≠ .unwind)
    (hjoined : isJoined app.mainPc = false) (hnext : app.next cfg.app a = some app')
    : isJoined app'.mainPc = false := by
  rcases App.mainPc_next hnext with hsame | ⟨succeeds, rfl⟩
  . rw [hsame]
    exact hjoined
  . cases App.next_effect hnext with
    | joined _ hpc hdone => exact absurd hpc (hnot succeeds rfl).1
    | unwound _ hpc hdone => exact absurd hpc (hnot succeeds rfl).2
    | _ => rfl

theorem notJoined_of_isHeld {a : App.Action bufferSize} (hheld : sys.isHeld a = false)
    (hlive : sys.monitor.isLive = true) (succeeds : Bool) (ha : a = .main succeeds)
    : sys.app.mainPc ≠ .join ∧ sys.app.mainPc ≠ .unwind := by
  subst ha
  constructor
  . intro hpc
    simp [isHeld, hpc, hlive] at hheld
  . intro hpc
    simp [isHeld, hpc, hlive] at hheld

/--
The threads are not joined as long as there is anything left of the monitor.
-/
theorem notJoined_reachable (h : (system bufferSize cfg).Reachable sys)
    : sys.monitor.isLive = true → isJoined sys.app.mainPc = false := by
  refine h.invariant (P := fun sys : MonitoredApp bufferSize =>
    sys.monitor.isLive = true → isJoined sys.app.mainPc = false) ?_ ?_
  . intro hlive
    cases hlive
  . intro sys a sys' ih ha hlive
    cases next_effect ha with
    | beside b app hheld hnext =>
      apply notJoined_next (notJoined_of_isHeld hheld hlive) (ih hlive) hnext
    | start b app hpc hnext =>
      apply notJoined_next _ _ hnext
      . intro _ _
        simp [hpc]
      . rw [hpc]
        rfl
    | stop caller app hpc hnext =>
      apply notJoined_next _ (ih (DataMonitor.isLive_of_stop hlive)) hnext
      rintro _ ⟨⟩
    | print b monitor hprint => exact ih (DataMonitor.isLive_of_printCycle hprint)

theorem settled_leads (h : (system bufferSize cfg).Leads sys sys') (hsettled : Settled sys.app)
    : (sys.monitor.isCycling = false →
        sys'.monitor.isCycling = false ∧ sys'.monitor.reports = sys.monitor.reports) ∧
      (sys.monitor.isCycling = true → isJoined sys.app.mainPc = false →
        sys'.monitor.isCycling = true ∧ isJoined sys'.app.mainPc = false) := by
  suffices hall : Settled sys'.app ∧
      (sys.monitor.isCycling = false →
        sys'.monitor.isCycling = false ∧ sys'.monitor.reports = sys.monitor.reports) ∧
      (sys.monitor.isCycling = true → isJoined sys.app.mainPc = false →
        sys'.monitor.isCycling = true ∧ isJoined sys'.app.mainPc = false) from hall.2
  induction h with
  | refl => exact ⟨hsettled, fun hover => ⟨hover, rfl⟩, fun hcycling hjoined => ⟨hcycling, hjoined⟩⟩
  | @tail mid last _ hnext ih =>
    rcases ih with ⟨hmid, hover, hcycling⟩
    rcases hnext with ⟨a, ha⟩
    cases next_effect ha with
    | beside b app hheld hnext =>
      refine ⟨hmid.next hnext, hover, ?_⟩
      intro hon hjoined
      rcases hcycling hon hjoined with ⟨hon', hjoined'⟩
      refine ⟨hon', notJoined_next ?_ hjoined' hnext⟩
      apply notJoined_of_isHeld hheld (DataMonitor.isLive_of_isCycling hon')
    | start b app hpc hnext =>
      have hstarted := hmid.started
      simp [hpc] at hstarted
    | stop caller app hpc hnext => exact absurd hpc (hmid.noStop caller)
    | print b monitor hprint =>
      have hsame := DataMonitor.isCycling_printCycle hprint
      refine ⟨hmid, ?_, ?_⟩
      . intro hoff
        rcases hover hoff with ⟨hoff', hreports⟩
        exact ⟨hsame.trans hoff', (DataMonitor.reports_printCycle hoff' hprint).trans hreports⟩
      . intro hon hjoined
        rcases hcycling hon hjoined with ⟨hon', hjoined'⟩
        exact ⟨hsame.trans hon', hjoined'⟩

/--
What the last call of `stop` does to the monitor is final. If it meets the wait for the clock, the
monitor reports nothing any more. If it comes before that wait or while a report is on its way, the
monitor goes on, and in no order of the steps are the threads ever joined: the program does not end,
unless an exception that leaves `exit` ends the process.
-/
theorem stop_reaches_only_the_wait (h : (system bufferSize cfg).Reachable sys) {caller : ExitCaller}
    (hpc : (sys.app.exitRun caller).pc = .stopMonitor)
    (hstop : next cfg sys (.app (.exit caller .advance)) = some sys') (hsettled : Settled sys'.app)
    {later : MonitoredApp bufferSize} (hleads : (system bufferSize cfg).Leads sys' later)
    : (sys.monitor.pc = .waiting →
        later.monitor.isCycling = false ∧ later.monitor.reports = sys.monitor.reports) ∧
      (sys.monitor.pc ≠ .waiting → sys.monitor.isCycling = true →
        later.monitor.isCycling = true ∧ later.app.mainPc ≠ .joined ∧
        later.app.mainPc ≠ .unwound) := by
  have hreachable : (system bufferSize cfg).Reachable sys' :=
    Relation.ReflTransGen.tail h ⟨Action.app (.exit caller .advance), hstop⟩
  have hmonitor : sys'.monitor = sys.monitor.stop := by
    have hheld : sys.isHeld (.exit caller .advance) = false := by rfl
    simp only [next, hheld, Bool.false_eq_true, if_false, Option.map_eq_some_iff] at hstop
    rcases hstop with ⟨app, _, rfl⟩
    simp only [monitorBehind, hpc, if_true]
  rcases settled_leads hleads hsettled with ⟨hover, hcycling⟩
  constructor
  . intro hwaiting
    rcases hover (by rw [hmonitor, DataMonitor.isCycling_stop hwaiting]) with ⟨hoff, hreports⟩
    rw [hmonitor, DataMonitor.reports_stop] at hreports
    exact ⟨hoff, hreports⟩
  . intro hne hon
    rw [hmonitor, DataMonitor.stop_of_ne hne] at hcycling
    have hlive : sys'.monitor.isLive = true := by
      rw [hmonitor, DataMonitor.stop_of_ne hne]
      apply DataMonitor.isLive_of_isCycling hon
    rcases hcycling hon (notJoined_reachable hreachable hlive) with ⟨hon', hjoined⟩
    refine ⟨hon', ?_, ?_⟩
    . rintro hpc
      rw [hpc] at hjoined
      cases hjoined
    . rintro hpc
      rw [hpc] at hjoined
      cases hjoined

/--
The interrupt comes while a report is due.
-/
def missedWait : List (Action 20) :=
  App.startUp.map .app ++ [.monitor .enter, .monitor .expire] ++
    [.app (.signal .sigint), .app (.exit .handler .call), .app (.exit .handler .advance),
      .app (.exit .handler .advance)]

def restOfExit : List (App.Action 20) :=
  [.exit .handler .advance, .exit .handler .advance, .daq .enterLoop, .daq .testStopped] ++
    App.switchOff ++ [.endStopper .handler]

theorem stop_reaches_only_the_wait_example
    : ∃ sys' later, (system 20 plainConfig).Reachable sys' ∧
        (system 20 plainConfig).Leads sys' later ∧ later.app.poolIsDone = true ∧
        ∀ last, (system 20 plainConfig).Leads later last → last.app.mainPc ≠ .joined := by
  have hrun : ((system 20 plainConfig).exec (init 20 plainConfig) missedWait).bind (fun sys =>
        (next plainConfig sys (.app (.exit .handler .advance))).bind fun sys' =>
          ((system 20 plainConfig).exec sys' (restOfExit.map .app)).map fun later =>
            decide ((sys.app.exitRun .handler).pc = .stopMonitor ∧ sys.monitor.pc = .expired ∧
              App.stage .startProcessor < App.stage sys'.app.mainPc ∧
              sys'.app.daq.isStopped = true ∧
              sys'.app.handlerExit.pc ≠ .stopMonitor ∧ sys'.app.analysisExit.pc ≠ .stopMonitor ∧
              later.app.poolIsDone = true))
      = some true := by
    decide +kernel
  simp only [Option.bind_eq_some_iff, Option.map_eq_some_iff] at hrun
  rcases hrun with ⟨sys, hexec, sys', hstop, later, hrest, hfacts⟩
  rcases of_decide_eq_true hfacts with
    ⟨hpc, hmonitor, hstarted, hstopped, hhandler, hanalysis, hdone⟩
  have hreachable := TransitionSystem.Reachable.of_exec hexec
  have hsettled : Settled sys'.app := by
    refine ⟨hstarted, hstopped, ?_⟩
    rintro ⟨⟩
    . exact hhandler
    . exact hanalysis
  have hleads := TransitionSystem.Leads.of_exec hrest
  have hreachable' : (system 20 plainConfig).Reachable sys' :=
    Relation.ReflTransGen.tail hreachable ⟨Action.app (.exit .handler .advance), hstop⟩
  refine ⟨sys', later, hreachable', hleads, hdone, ?_⟩
  intro last hlast
  have hnever := (stop_reaches_only_the_wait hreachable hpc hstop hsettled
    (Relation.ReflTransGen.trans hleads hlast)).2
  refine (hnever ?_ ?_).2.1
  . simp [hmonitor]
  . simp only [DataMonitor.isCycling, hmonitor]

end MonitoredApp

end Srs
