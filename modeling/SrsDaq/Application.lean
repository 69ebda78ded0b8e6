import SrsDaq.Analysis.Acquisition
import SrsDaq.Utils.AppStatus

/-!
This module contains the application: the thread of `main`, the coroutines of its connections, the
waits for signals and the calls of `exit`, all of which take their steps in any order. What an
exception that leaves `exit` does to the process is left open, the other threads may go on or not.
-/

namespace Srs

inductive Signal where
  | sigint
  | sigterm
  deriving DecidableEq, Repr

inductive SignalWait where
  | armed
  -- A signal came, the handler has yet to run.
  | queued
  | handled
  | cancelled
  deriving DecidableEq, Repr

inductive CoroutinePc where
  | notSpawned
  | starting
  | running
  -- `end_of_read`
  | closeSocket
  | storeStatus
  | notify
  | ended
  deriving DecidableEq, Repr

inductive Coroutine where
  | readerListen
  | readerSignal
  | starterListen
  | starterSignal
  deriving DecidableEq, Repr

inductive MainPc where
  | setRemoteEndpoint
  | setOutputFilenames
  -- `read_data`
  | storeReading
  | listenReader
  -- `switch_on`
  | listenStarter
  | sendAcqOn
  -- `run`
  | startProcessor
  | join
  | joined
  -- an exception has reached the destructor of `App`
  | unwind
  | unwound
  deriving DecidableEq, Repr

inductive ExitPc where
  | notCalled
  | cancelSignals
  -- `DataProcessor::stop`
  | exchangeStopped
  | stopMonitor
  | abortQueue
  | storeAcqOff
  | waitReading (pc : WaitPc)
  -- `switch_off`
  | waitAcqOn (pc : WaitPc)
  | listenStopper
  | sendAcqOff
  | storeAcqOn
  | resetGuard
  | returned
  | raised (exception : Exception)
  deriving DecidableEq, Repr

/--
The two callers of `exit`: the handler of the signals and the loop that caught an exception.
-/
inductive ExitCaller where
  | handler
  | analysis
  deriving DecidableEq, Repr

inductive ExitAction where
  | call
  | advance
  | wait (a : WaitAction)
  | listenFails
  deriving DecidableEq, Repr

structure ExitRun where
  pc : ExitPc := .notCalled
  stopper : Option (ConnectionBase smallReadMsgBufferSize) := none

/--
The state of the program. `starterReplied` and `acqOffIssued` are no members of it: they keep whether
a datagram reached the Starter, and the messages that Stoppers have sent.
-/
structure App (bufferSize : Nat) where
  daq : Acquisition bufferSize
  status : Status := {}
  ioWorkGuard : Bool := true
  signalWait : SignalWait := .armed
  mainPc : MainPc := .setRemoteEndpoint
  readerListen : CoroutinePc := .notSpawned
  readerSignal : CoroutinePc := .notSpawned
  starter : ConnectionBase smallReadMsgBufferSize
  starterListen : CoroutinePc := .notSpawned
  starterSignal : CoroutinePc := .notSpawned
  handlerExit : ExitRun := {}
  analysisExit : ExitRun := {}
  starterReplied : Bool := false
  acqOffIssued : List (Option (List Byte)) := []

namespace App

variable {bufferSize : Nat}

/--
Besides what the acquisition depends on: what `set_output_filenames` does with the names of the
outputs, and the address that the remote endpoint resolves to.
-/
structure Config where
  daq : Acquisition.Config
  outputs : Outcome DataWriter
  remoteEndpoint : UdpEndpoint

inductive Action (bufferSize : Nat) where
  | main (succeeds : Bool)
  | signal (signal : Signal)
  | daq (a : Acquisition.Action bufferSize)
  | receiveReply
  | coroutine (c : Coroutine)
  | cancelCoroutine (c : Coroutine)
  | exit (caller : ExitCaller) (a : ExitAction)
  | endStopper (caller : ExitCaller)

def exitRun (app : App bufferSize) : ExitCaller → ExitRun
  | .handler => app.handlerExit
  | .analysis => app.analysisExit

def setExitRun (app : App bufferSize) (caller : ExitCaller) (run : ExitRun) : App bufferSize :=
  match caller with
  | .handler => { app with handlerExit := run }
  | .analysis => { app with analysisExit := run }

def setExitPc (app : App bufferSize) (caller : ExitCaller) (pc : ExitPc) : App bufferSize :=
  app.setExitRun caller { app.exitRun caller with pc := pc }

def ExitPc.notify : ExitPc → ExitPc
  | .waitReading pc => .waitReading pc.notify
  | .waitAcqOn pc => .waitAcqOn pc.notify
  | pc => pc

def notifyStatusChange (app : App bufferSize) : App bufferSize :=
  { app with
    handlerExit := { app.handlerExit with pc := ExitPc.notify app.handlerExit.pc }
    analysisExit := { app.analysisExit with pc := ExitPc.notify app.analysisExit.pc } }

def controlPortFree (app : App bufferSize) : Bool :=
  not app.starter.isOpen && not (app.handlerExit.stopper.any ConnectionBase.isOpen)
    && not (app.analysisExit.stopper.any ConnectionBase.isOpen)

def controlConnection (cfg : Config) : ConnectionBase smallReadMsgBufferSize :=
  .ofInfo smallReadMsgBufferSize
    { localPortNumber := fecControlLocalPort, endpoint := some cfg.remoteEndpoint }

/-
The thread of `main`.
-/

def switchOn (app : App bufferSize) : Option (App bufferSize) :=
  match app.starter.listen fun _ => app.controlPortFree with
  | .returned starter =>
    some { app with
      starter := starter
      starterListen := .running
      starterSignal := .starting
      mainPc := .sendAcqOn }
  | .raised _ _ => none

def isEnded : ExitPc → Bool
  | .returned => true
  | .raised _ => true
  | _ => false

def isIdle : CoroutinePc → Bool
  | .notSpawned => true
  | .ended => true
  | _ => false

def loopIsOver (app : App bufferSize) : Bool :=
  match app.daq.loopPc with
  | .notPosted => true
  | .stopped => true
  | .userAbort => true
  | .failed _ => isEnded app.analysisExit.pc
  | _ => false

def poolIsDone (app : App bufferSize) : Bool :=
  -- Whether `io_context_.join()` returns: nobody holds a guard and no work is left.
  not app.ioWorkGuard && app.loopIsOver
    && (app.signalWait = .cancelled || isEnded app.handlerExit.pc)
    && isIdle app.readerListen && isIdle app.readerSignal
    && isIdle app.starterListen && isIdle app.starterSignal
    && not (app.handlerExit.stopper.any ConnectionBase.isOpen)
    && not (app.analysisExit.stopper.any ConnectionBase.isOpen)

def main (cfg : Config) (succeeds : Bool) (app : App bufferSize) : Option (App bufferSize) :=
  -- The next step of `main`, given whether what it calls succeeds. The names of the outputs are in
  -- place from the beginning, nothing reads them before the loop runs.
  match app.mainPc, succeeds with
  | .setRemoteEndpoint, true => some { app with mainPc := .setOutputFilenames }
  | .setRemoteEndpoint, false => some { app with mainPc := .unwind }
  | .setOutputFilenames, _ =>
    match cfg.outputs with
    | .returned _ => some { app with mainPc := .storeReading }
    | .raised _ _ => some { app with mainPc := .unwind }
  | .storeReading, _ =>
    some { app with status := { app.status with isReading := true }, mainPc := .listenReader }
  | .listenReader, true =>
    app.daq.listen.map fun daq =>
      { app with
        daq := daq
        readerListen := .running
        readerSignal := .starting
        mainPc := .listenStarter }
  | .listenReader, false => some { app with mainPc := .unwind }
  | .listenStarter, true => app.switchOn
  | .listenStarter, false => some { app with mainPc := .unwind }
  | .sendAcqOn, _ =>
    some { app with
      starter := app.starter.encodeWriteMsg cfg.daq.zpp [0, 15, 1] nullAddress
      mainPc := .startProcessor }
  | .startProcessor, true => app.daq.start.map fun daq => { app with daq := daq, mainPc := .join }
  | .startProcessor, false =>
    app.daq.startRaises.map fun daq => { app with daq := daq, mainPc := .unwind }
  | .join, _ => if app.poolIsDone then some { app with mainPc := .joined } else none
  | .unwind, _ => if app.poolIsDone then some { app with mainPc := .unwound } else none
  | .joined, _ => none
  | .unwound, _ => none

/-
The connections.
-/

def signal (sig : Signal) (app : App bufferSize) : App bufferSize :=
  -- A signal completes the waits for it that are armed. The connections wait for `SIGINT` only.
  let completed (pc : CoroutinePc) : CoroutinePc :=
    if sig = .sigint && pc = .running then .closeSocket else pc
  { app with
    signalWait := if app.signalWait = .armed then .queued else app.signalWait
    readerSignal := completed app.readerSignal
    starterSignal := completed app.starterSignal }

def receiveReply (app : App bufferSize) : Option (App bufferSize) :=
  -- The datagram that `listen_message` of the Starter waits for. The Starter is not continuous, so
  -- `end_of_read` is next.
  if app.starterListen = .running && app.starter.isOpen then
    some { app with starterListen := .closeSocket, starterReplied := true }
  else
    none

def coroutinePc (app : App bufferSize) : Coroutine → CoroutinePc
  | .readerListen => app.readerListen
  | .readerSignal => app.readerSignal
  | .starterListen => app.starterListen
  | .starterSignal => app.starterSignal

def setCoroutinePc (app : App bufferSize) (c : Coroutine) (pc : CoroutinePc) : App bufferSize :=
  match c with
  | .readerListen => { app with readerListen := pc }
  | .readerSignal => { app with readerSignal := pc }
  | .starterListen => { app with starterListen := pc }
  | .starterSignal => { app with starterSignal := pc }

def closeSocket (c : Coroutine) (app : App bufferSize) : Option (App bufferSize) :=
  match c with
  | .readerListen => app.daq.closeSocket.map fun daq => { app with daq := daq }
  | .readerSignal => app.daq.closeSocket.map fun daq => { app with daq := daq }
  | .starterListen => some { app with starter := app.starter.closeSocket }
  | .starterSignal => some { app with starter := app.starter.closeSocket }

def storeStatus (c : Coroutine) (app : App bufferSize) : App bufferSize :=
  match c with
  | .readerListen => { app with status := { app.status with isReading := false } }
  | .readerSignal => { app with status := { app.status with isReading := false } }
  | .starterListen => { app with status := { app.status with isAcqOn := true } }
  | .starterSignal => { app with status := { app.status with isAcqOn := true } }

def coroutine (c : Coroutine) (app : App bufferSize) : Option (App bufferSize) :=
  match app.coroutinePc c with
  | .starting => some (app.setCoroutinePc c .running)
  | .running =>
    if c = .readerListen && app.daq.listenPc = .left then
      some (app.setCoroutinePc c .closeSocket)
    else
      none
  | .closeSocket => (app.closeSocket c).map fun app => app.setCoroutinePc c .storeStatus
  | .storeStatus => some ((app.storeStatus c).setCoroutinePc c .notify)
  | .notify => some (app.notifyStatusChange.setCoroutinePc c .ended)
  | _ => none

def canCancel (app : App bufferSize) : Coroutine → Bool
  -- Whether a coroutine can end without `end_of_read`: its socket was closed, or it waits for a
  -- signal and the listening coroutine beside it has ended.
  | .readerListen => app.readerListen = .running && app.daq.listenPc = .cancelled
  | .starterListen => app.starterListen = .running && not app.starter.isOpen
  | .readerSignal =>
    (app.readerSignal = .starting || app.readerSignal = .running) && app.readerListen = .ended
  | .starterSignal =>
    (app.starterSignal = .starting || app.starterSignal = .running) && app.starterListen = .ended

def cancelCoroutine (c : Coroutine) (app : App bufferSize) : Option (App bufferSize) :=
  if app.canCancel c then
    some (app.setCoroutinePc c .ended)
  else
    none

def isOwn (app : App bufferSize) : Acquisition.Action bufferSize → Bool
  -- Whether the data takes a step on its own. The test of `is_acq_off` reads the status.
  | .listen => false
  | .closeSocket => false
  | .start => false
  | .startRaises => false
  | .exchangeStopped => false
  | .abortQueue => false
  | .testAcqOff isAcqOff => isAcqOff = app.status.isAcqOff
  | _ => true

def acquire (cfg : Config) (a : Acquisition.Action bufferSize) (app : App bufferSize)
    : Option (App bufferSize) :=
  if app.isOwn a then
    (app.daq.next cfg.daq a).map fun daq => { app with daq := daq }
  else
    none

/-
The calls of `exit`.
-/

def callExit (caller : ExitCaller) (app : App bufferSize) : Option (App bufferSize) :=
  match caller, app.signalWait, app.daq.loopPc with
  | .handler, .queued, _ =>
    some { app with
      signalWait := .handled
      handlerExit := { app.handlerExit with pc := .cancelSignals } }
  | .analysis, _, .failed _ =>
    some { app with analysisExit := { app.analysisExit with pc := .cancelSignals } }
  | _, _, _ => none

def waitForStatus (condition : Status → Bool) (pc : WaitPc) (waits : WaitPc → ExitPc) (next : ExitPc)
    (caller : ExitCaller) (a : WaitAction) (app : App bufferSize)
    : Option (App bufferSize) :=
  match pc.next condition app.status a with
  | some (.goesOn pc) => some (app.setExitPc caller (waits pc))
  | some .returned => some (app.setExitPc caller next)
  | some .timedOut => some (app.setExitPc caller (.raised (.runtimeError "TIMEOUT")))
  | none => none

def listenStopper (cfg : Config) (caller : ExitCaller) (app : App bufferSize)
    : Option (App bufferSize) :=
  match (controlConnection cfg).listen fun _ => app.controlPortFree with
  | .returned stopper => some (app.setExitRun caller { pc := .sendAcqOff, stopper := some stopper })
  | .raised _ _ => none

def sendAcqOff (cfg : Config) (caller : ExitCaller) (app : App bufferSize)
    : Option (App bufferSize) :=
  match (app.exitRun caller).stopper with
  | none => none
  | some stopper =>
    let stopper := stopper.encodeWriteMsg cfg.daq.zpp [0, 15, 0] nullAddress
    let app := { app with acqOffIssued := app.acqOffIssued ++ [stopper.sendMessage] }
    some (app.setExitRun caller { pc := .storeAcqOn, stopper := some stopper })

def exit (cfg : Config) (caller : ExitCaller) (a : ExitAction) (app : App bufferSize)
    : Option (App bufferSize) :=
  match (app.exitRun caller).pc, a with
  | .notCalled, .call => app.callExit caller
  | .cancelSignals, .advance =>
    let signalWait : SignalWait := if app.signalWait = .armed then .cancelled else app.signalWait
    some ({ app with signalWait := signalWait }.setExitPc caller .exchangeStopped)
  | .exchangeStopped, .advance =>
    -- only the caller that sets the flag stops the monitor and the queue
    if app.daq.isStopped then
      some (app.setExitPc caller .storeAcqOff)
    else
      app.daq.exchangeStopped.map fun daq =>
        { app with daq := daq }.setExitPc caller .stopMonitor
  | .stopMonitor, .advance => some (app.setExitPc caller .abortQueue)
  | .abortQueue, .advance =>
    app.daq.abortQueue.map fun daq => { app with daq := daq }.setExitPc caller .storeAcqOff
  | .storeAcqOff, .advance =>
    let app := { app with status := { app.status with isAcqOff := true } }
    some (app.setExitPc caller (.waitReading .testing))
  | .waitReading pc, .wait a =>
    app.waitForStatus (fun status => not status.isReading) pc .waitReading (.waitAcqOn .testing)
      caller a
  | .waitAcqOn pc, .wait a =>
    app.waitForStatus (fun status => status.isAcqOn) pc .waitAcqOn .listenStopper caller a
  | .listenStopper, .advance => app.listenStopper cfg caller
  | .listenStopper, .listenFails => some (app.setExitPc caller (.raised .addressInUse))
  | .sendAcqOff, .advance => app.sendAcqOff cfg caller
  | .storeAcqOn, .advance =>
    let app := { app with status := { app.status with isAcqOn := false } }
    some (app.setExitPc caller .resetGuard)
  | .resetGuard, .advance =>
    let app := { app with ioWorkGuard := false }
    some (app.setExitPc caller .returned)
  | _, _ => none

def endStopper (caller : ExitCaller) (app : App bufferSize) : Option (App bufferSize) :=
  match (app.exitRun caller).stopper, (app.exitRun caller).pc with
  | none, _ => none
  | _, .sendAcqOff => none
  | some _, _ => some (app.setExitRun caller { app.exitRun caller with stopper := none })

def next (cfg : Config) (app : App bufferSize) : Action bufferSize → Option (App bufferSize)
  | .main succeeds => app.main cfg succeeds
  | .signal sig => some (app.signal sig)
  | .daq a => app.acquire cfg a
  | .receiveReply => app.receiveReply
  | .coroutine c => app.coroutine c
  | .cancelCoroutine c => app.cancelCoroutine c
  | .exit caller a => app.exit cfg caller a
  | .endStopper caller => app.endStopper caller

def init (bufferSize : Nat) (cfg : Config) : App bufferSize where
  daq := .init bufferSize cfg.outputs.state
  starter := controlConnection cfg

def system (bufferSize : Nat) (cfg : Config)
    : TransitionSystem (App bufferSize) (Action bufferSize) where
  init := init bufferSize cfg
  next := next cfg

end App

end Srs
