import SrsDaq.Analysis.DataProcessor
import SrsDaq.Data.TransitionSystem
import SrsDaq.Utils.ConnectionBase

/-!
This module contains the way of the data from the socket to the outputs: the coroutine that listens
to the socket, the queue, and the loop that analyses what it takes from the queue. Both sides take
their steps in any order, and so do the callers of `stop`.
-/

namespace Srs

structure Datagram (bufferSize : Nat) where
  bytes : List Byte
  length_le : bytes.length ≤ bufferSize

inductive ListenPc where
  | notSpawned
  | receiving
  | received (receiveDataSize : Nat)
  | counted (receiveDataSize : Nat)
  | handled
  | reset
  -- The loop is left, `end_of_read` is next.
  | left
  -- The coroutine is over without `end_of_read`, its `async_receive` failed.
  | cancelled
  deriving DecidableEq, Repr

inductive FramePhase where
  | decode
  | write
  | clear
  deriving DecidableEq, Repr

inductive LoopPc where
  | notPosted
  | posted
  | testing
  -- The test of `is_stopped` is passed, the call of `pop` is next.
  | tested
  -- In `pop`, which may have been aborted since it began.
  | popping (isAborted : Bool)
  | analysing (phase : FramePhase)
  | stopped
  | userAbort
  | failed (phase : FramePhase)
  deriving DecidableEq, Repr

/--
The state of both sides. `arrived`, `outcomes` and `analysed` are no members of the program: they
keep the datagrams that came in, what `try_emplace` answered for each of them, and the frames that
`analyse_one_frame` returned from.
-/
structure Acquisition (bufferSize : Nat) where
  reader : ConnectionBase bufferSize
  listenPc : ListenPc := .notSpawned
  isStopped : Bool := false
  dataQueue : List SerializableMsgBuffer := []
  totalReadDataBytes : BitVec 64 := 0
  loopPc : LoopPc := .notPosted
  inputDataBuffer : SerializableMsgBuffer := {}
  processor : DataProcessor DataWriter
  arrived : List (List Byte) := []
  outcomes : List Bool := []
  analysed : List (List Byte) := []

namespace Acquisition

variable {bufferSize : Nat}

structure Config where
  zpp : ZppBits ReceiveDataHeader
  env : Environment
  capacity : Nat

inductive Action (bufferSize : Nat) where
  -- calls from the rest of the program
  | listen
  | closeSocket
  | start
  | startRaises
  | exchangeStopped
  | abortQueue
  -- `listen_message`
  | receive (datagram : Datagram bufferSize)
  | countBytes
  | emplace
  | resetBuffer
  | testAcqOff (isAcqOff : Bool)
  | cancelReceive
  -- `analysis_loop`
  | enterLoop
  | testStopped
  | beginPop
  | takeFrame
  | raiseAbort
  | decodeFrame
  | writeFrame
  | finishFrame

def listen (daq : Acquisition bufferSize) : Option (Acquisition bufferSize) :=
  -- `DataReader::start` once the socket could be bound.
  match daq.listenPc, daq.reader.listen fun _ => true with
  | .notSpawned, .returned reader => some { daq with reader := reader, listenPc := .receiving }
  | _, _ => none

def closeSocket (daq : Acquisition bufferSize) : Option (Acquisition bufferSize) :=
  some { daq with reader := daq.reader.closeSocket }

def start (daq : Acquisition bufferSize) : Option (Acquisition bufferSize) :=
  match daq.loopPc with
  | .notPosted => some { daq with isStopped := false, loopPc := .posted }
  | _ => none

def startRaises (daq : Acquisition bufferSize) : Option (Acquisition bufferSize) :=
  -- `start` clears the flag before it posts the loop, which may raise.
  match daq.loopPc with
  | .notPosted => some { daq with isStopped := false }
  | _ => none

def exchangeStopped (daq : Acquisition bufferSize) : Option (Acquisition bufferSize) :=
  -- The exchange in `stop`. Who finds `is_stopped` set already leaves it so.
  some { daq with isStopped := true }

def abortQueue (daq : Acquisition bufferSize) : Option (Acquisition bufferSize) :=
  -- `data_queue_.abort()` reaches a `pop` that has begun, and no other.
  match daq.loopPc with
  | .popping _ => some { daq with loopPc := .popping true }
  | _ => some daq

def receive (datagram : Datagram bufferSize) (daq : Acquisition bufferSize)
    : Option (Acquisition bufferSize) :=
  match daq.listenPc, daq.reader.isOpen with
  | .receiving, true =>
    let (reader, receiveDataSize) := daq.reader.asyncReceive datagram.bytes
    some { daq with
      reader := reader
      listenPc := .received receiveDataSize
      arrived := daq.arrived ++ [datagram.bytes] }
  | _, _ => none

def countBytes (daq : Acquisition bufferSize) : Option (Acquisition bufferSize) :=
  match daq.listenPc with
  | .received receiveDataSize =>
    let readData := daq.reader.readMsg receiveDataSize
    some { daq with
      totalReadDataBytes := daq.totalReadDataBytes + BitVec.ofNat 64 readData.length
      listenPc := .counted receiveDataSize }
  | _ => none

def emplace (cfg : Config) (daq : Acquisition bufferSize) : Option (Acquisition bufferSize) :=
  -- The second half of `read_data_once`. The message is lost when the queue is full.
  match daq.listenPc with
  | .counted receiveDataSize =>
    let isSuccess := daq.dataQueue.length < cfg.capacity
    let readData := daq.reader.readMsg receiveDataSize
    some { daq with
      dataQueue := if isSuccess then daq.dataQueue ++ [.ofSpan readData] else daq.dataQueue
      outcomes := daq.outcomes ++ [decide isSuccess]
      listenPc := .handled }
  | _ => none

def resetBuffer (daq : Acquisition bufferSize) : Option (Acquisition bufferSize) :=
  match daq.listenPc with
  | .handled => some { daq with reader := daq.reader.resetReadMsgBuffer, listenPc := .reset }
  | _ => none

def testAcqOff (isAcqOff : Bool) (daq : Acquisition bufferSize) : Option (Acquisition bufferSize) :=
  -- `not is_continuous or is_acq_off`, where the reader is continuous.
  match daq.listenPc with
  | .reset => some { daq with listenPc := if isAcqOff then .left else .receiving }
  | _ => none

def cancelReceive (daq : Acquisition bufferSize) : Option (Acquisition bufferSize) :=
  match daq.listenPc, daq.reader.isOpen with
  | .receiving, false => some { daq with listenPc := .cancelled }
  | _, _ => none

def enterLoop (daq : Acquisition bufferSize) : Option (Acquisition bufferSize) :=
  match daq.loopPc with
  | .posted => some { daq with loopPc := .testing, inputDataBuffer := {} }
  | _ => none

def testStopped (daq : Acquisition bufferSize) : Option (Acquisition bufferSize) :=
  match daq.loopPc with
  | .testing => some { daq with loopPc := if daq.isStopped then .stopped else .tested }
  | _ => none

def beginPop (daq : Acquisition bufferSize) : Option (Acquisition bufferSize) :=
  match daq.loopPc with
  | .tested => some { daq with loopPc := .popping false }
  | _ => none

def takeFrame (daq : Acquisition bufferSize) : Option (Acquisition bufferSize) :=
  match daq.loopPc, daq.dataQueue with
  | .popping _, aFrame :: dataQueue =>
    some { daq with
      inputDataBuffer := aFrame
      dataQueue := dataQueue
      loopPc := .analysing .decode }
  | _, _ => none

def raiseAbort (daq : Acquisition bufferSize) : Option (Acquisition bufferSize) :=
  match daq.loopPc with
  | .popping true => some { daq with loopPc := .userAbort }
  | _ => none

def analyse (phase : FramePhase) (next : LoopPc)
    (part : DataProcessor DataWriter → Outcome (DataProcessor DataWriter))
    (daq : Acquisition bufferSize)
    : Option (Acquisition bufferSize) :=
  if daq.loopPc = .analysing phase then
    match part daq.processor with
    | .returned processor => some { daq with processor := processor, loopPc := next }
    | .raised _ processor => some { daq with processor := processor, loopPc := .failed phase }
  else
    none

def decodeFrame (cfg : Config) (daq : Acquisition bufferSize) : Option (Acquisition bufferSize) :=
  daq.analyse .decode (.analysing .write) (DataProcessor.decodeFrame cfg.zpp daq.inputDataBuffer)

def writeFrame (cfg : Config) (daq : Acquisition bufferSize) : Option (Acquisition bufferSize) :=
  daq.analyse .write (.analysing .clear)
    (DataProcessor.writeData (DataWriter.interface cfg.env) daq.inputDataBuffer)

def finishFrame (daq : Acquisition bufferSize) : Option (Acquisition bufferSize) :=
  match daq.loopPc with
  | .analysing .clear =>
    some { daq with
      processor := daq.processor.clearDataBuffer
      inputDataBuffer := daq.inputDataBuffer.clear
      analysed := daq.analysed ++ [daq.inputDataBuffer.data]
      loopPc := .testing }
  | _ => none

def next (cfg : Config) (daq : Acquisition bufferSize)
    : Action bufferSize → Option (Acquisition bufferSize)
  | .listen => daq.listen
  | .closeSocket => daq.closeSocket
  | .start => daq.start
  | .startRaises => daq.startRaises
  | .exchangeStopped => daq.exchangeStopped
  | .abortQueue => daq.abortQueue
  | .receive datagram => daq.receive datagram
  | .countBytes => daq.countBytes
  | .emplace => daq.emplace cfg
  | .resetBuffer => daq.resetBuffer
  | .testAcqOff isAcqOff => daq.testAcqOff isAcqOff
  | .cancelReceive => daq.cancelReceive
  | .enterLoop => daq.enterLoop
  | .testStopped => daq.testStopped
  | .beginPop => daq.beginPop
  | .takeFrame => daq.takeFrame
  | .raiseAbort => daq.raiseAbort
  | .decodeFrame => daq.decodeFrame cfg
  | .writeFrame => daq.writeFrame cfg
  | .finishFrame => daq.finishFrame

def init (bufferSize : Nat) (writer : DataWriter) : Acquisition bufferSize where
  reader := .ofInfo bufferSize { localPortNumber := fecDaqReceivePort }
  processor := { dataWriter := writer }

def system (bufferSize : Nat) (cfg : Config) (writer : DataWriter)
    : TransitionSystem (Acquisition bufferSize) (Action bufferSize) where
  init := init bufferSize writer
  next := next cfg

def select (entries : List α) (answers : List Bool) : List α :=
  ((entries.zip answers).filter Prod.snd).map Prod.fst

def accepted (daq : Acquisition bufferSize) : List (List Byte) :=
  select daq.arrived daq.outcomes

def inHand (daq : Acquisition bufferSize) : List (List Byte) :=
  match daq.loopPc with
  | .analysing _ => [daq.inputDataBuffer.data]
  | .failed _ => [daq.inputDataBuffer.data]
  | _ => []

def queued (daq : Acquisition bufferSize) : List (List Byte) :=
  daq.dataQueue.map SerializableMsgBuffer.data

def handedOver (daq : Acquisition bufferSize) : List (List Byte) :=
  match daq.listenPc with
  | .received _ => daq.arrived.dropLast
  | _ => daq.arrived

def written (daq : Acquisition bufferSize) : List (List Byte) :=
  match daq.loopPc with
  | .analysing .clear => daq.analysed ++ [daq.inputDataBuffer.data]
  | .failed .write => daq.analysed ++ [daq.inputDataBuffer.data]
  | _ => daq.analysed

end Acquisition

end Srs
