import SrsDaq.Data.LossyQueue
import SrsDaq.Shutdown

/-!
This module contains the refinement of the abstract queue by the program: whatever the order of its
steps, what it does with the data is what a queue of the same capacity does.
-/

namespace Srs

namespace Acquisition

variable {bufferSize : Nat} {cfg : Config} {daq daq' : Acquisition bufferSize}

/--
The abstract queue that the acquisition stands for. The datagram that is being handled has not been
offered yet, and a frame counts as taken as soon as it is in hand.
-/
structure Represents (daq : Acquisition bufferSize) (queue : LossyQueue (List Byte)) : Prop where
  offered : queue.offered ++ daq.pending = daq.arrived
  taken : queue.taken = daq.analysed ++ daq.inHand
  waiting : queue.waiting = daq.queued
  lost : queue.lost = daq.outcomes.count false

theorem Represents.length_waiting {queue : LossyQueue (List Byte)} (h : daq.Represents queue)
    : queue.waiting.length = daq.dataQueue.length := by
  rw [h.waiting, queued, List.length_map]

theorem Represents.accept {queue : LossyQueue (List Byte)} (h : daq.Represents queue) {size : Nat}
    (hpc : daq.listenPc = .counted size)
    : Represents
        { daq with
          dataQueue := daq.dataQueue ++ [.ofSpan (daq.reader.readMsg size)]
          outcomes := daq.outcomes ++ [true]
          listenPc := .handled }
        { queue with
          offered := queue.offered ++ [daq.reader.readMsg size]
          waiting := queue.waiting ++ [daq.reader.readMsg size] } where
  offered := by
    have hoffered := h.offered
    rw [pending, hpc] at hoffered
    simpa [pending] using hoffered
  taken := h.taken
  waiting := by simp [queued, h.waiting, SerializableMsgBuffer.ofSpan]
  lost := by simp [h.lost]

theorem Represents.lose {queue : LossyQueue (List Byte)} (h : daq.Represents queue) {size : Nat}
    (hpc : daq.listenPc = .counted size)
    : Represents
        { daq with
          outcomes := daq.outcomes ++ [false]
          listenPc := .handled }
        { queue with
          offered := queue.offered ++ [daq.reader.readMsg size]
          lost := queue.lost + 1 } where
  offered := by
    have hoffered := h.offered
    rw [pending, hpc] at hoffered
    simpa [pending] using hoffered
  taken := h.taken
  waiting := h.waiting
  lost := by simp [h.lost]

theorem Represents.take {queue : LossyQueue (List Byte)} (h : daq.Represents queue)
    {isAborted : Bool} {aFrame : SerializableMsgBuffer} {dataQueue : List SerializableMsgBuffer}
    (hpc : daq.loopPc = .popping isAborted)
    : Represents
        { daq with
          inputDataBuffer := aFrame
          dataQueue := dataQueue
          loopPc := .analysing .decode }
        { queue with
          taken := queue.taken ++ [aFrame.data]
          waiting := dataQueue.map SerializableMsgBuffer.data } where
  offered := h.offered
  taken := by simp [h.taken, inHand, hpc]
  waiting := by rfl
  lost := h.lost

/--
The two sides share no step of the abstract queue: the reader offers, the loop takes, and all their
other steps leave it as it is.
-/
def dataQueue_simulation (bufferSize : Nat) (cfg : Config) (writer : DataWriter)
    : (system bufferSize cfg writer).Simulation (LossyQueue.system (List Byte) cfg.capacity) where
  rel := Represents
  rel_init := ⟨rfl, rfl, rfl, rfl⟩
  rel_next := by
    intro daq queue a daq' hrel hnext
    cases next_effect hnext with
    | emplace size hpc hroom =>
      refine ⟨_, .single ⟨.offer (daq.reader.readMsg size), ?_⟩, hrel.accept hpc⟩
      rw [← hrel.length_waiting] at hroom
      simp only [LossyQueue.system, LossyQueue.next, LossyQueue.offer, hroom, if_true]
    | drop size hpc hfull =>
      refine ⟨_, .single ⟨.offer (daq.reader.readMsg size), ?_⟩, hrel.lose hpc⟩
      rw [← hrel.length_waiting] at hfull
      simp only [LossyQueue.system, LossyQueue.next, LossyQueue.offer, hfull, if_false]
    | takeFrame isAborted aFrame dataQueue hpc hqueue =>
      refine ⟨_, .single ⟨.take, ?_⟩, hrel.take hpc⟩
      have hwaiting : queue.waiting
          = aFrame.data :: dataQueue.map SerializableMsgBuffer.data := by
        rw [hrel.waiting, queued, hqueue, List.map_cons]
      simp only [LossyQueue.system, LossyQueue.next, LossyQueue.take, hwaiting]
    | receive datagram hpc hopen =>
      refine ⟨queue, .refl queue, ?_, hrel.taken, hrel.waiting, hrel.lost⟩
      have hoffered := hrel.offered
      rw [pending, hpc, List.append_nil] at hoffered
      simp only [pending, hoffered, ConnectionBase.readMsg_asyncReceive _ datagram.length_le]
    | finish hpc =>
      refine ⟨queue, .refl queue, hrel.offered, ?_, hrel.waiting, hrel.lost⟩
      simp [hrel.taken, inHand, hpc]
    | closeSocket => exact ⟨queue, .refl queue, hrel.offered, hrel.taken, hrel.waiting, hrel.lost⟩
    | _ =>
      have hoffered := hrel.offered
      have htaken := hrel.taken
      refine ⟨queue, .refl queue, ?_, ?_, hrel.waiting, hrel.lost⟩
      . simp_all [pending]
      . simp_all [inHand]

end Acquisition

namespace App

variable {bufferSize : Nat} {cfg : Config} {app : App bufferSize}

theorem exists_dataQueue (h : (system bufferSize cfg).Reachable app)
    : ∃ queue, (LossyQueue.system (List Byte) cfg.daq.capacity).Reachable queue ∧
        app.daq.Represents queue :=
  (Acquisition.dataQueue_simulation bufferSize cfg.daq _).reachable
    ((acquisition bufferSize cfg).reachable h)

/--
In every state of the program the queue is within its capacity, the frames that were analysed, are in
hand or wait are datagrams in the order of their arrival, and those that are missing were lost to a
full queue. No more are lost than came in above the capacity, so none are lost as long as it could
hold all of them.
-/
theorem dataQueue_refines (h : (system bufferSize cfg).Reachable app)
    : (∃ queue, (LossyQueue.system (List Byte) cfg.daq.capacity).Reachable queue ∧
        app.daq.Represents queue) ∧
      app.daq.dataQueue.length ≤ cfg.daq.capacity ∧
      (app.daq.analysed ++ app.daq.inHand ++ app.daq.queued).Sublist app.daq.arrived ∧
      app.daq.arrived.length
        = (app.daq.analysed ++ app.daq.inHand ++ app.daq.queued).length
          + app.daq.outcomes.count false + app.daq.pending.length ∧
      app.daq.outcomes.count false ≤ app.daq.arrived.length - cfg.daq.capacity ∧
      (app.daq.outcomes.count false = 0 →
        app.daq.analysed ++ app.daq.inHand ++ app.daq.queued ++ app.daq.pending
          = app.daq.arrived) := by
  rcases exists_dataQueue h with ⟨queue, hreachable, hrel⟩
  have haccounts := LossyQueue.accounts_reachable hreachable
  have hkept : app.daq.analysed ++ app.daq.inHand ++ app.daq.queued
      = queue.taken ++ queue.waiting := by
    rw [hrel.taken, hrel.waiting]
  have harrived : app.daq.arrived.length = queue.offered.length + app.daq.pending.length := by
    rw [← hrel.offered, List.length_append]
  refine ⟨⟨queue, hreachable, hrel⟩, ?_, ?_, ?_, ?_, ?_⟩
  . rw [← hrel.length_waiting]
    exact haccounts.bounded
  . rw [hkept, ← hrel.offered]
    apply haccounts.inOrder.trans (List.sublist_append_left _ _)
  . rw [hkept, harrived, haccounts.complete, List.length_append, hrel.lost]
  . have hlost := haccounts.lost_le
    rw [← hrel.lost]
    omega
  . intro hnone
    rw [hkept, haccounts.offered_eq (by rw [hrel.lost, hnone]), hrel.offered]

def smallQueue : Config :=
  { plainConfig with daq := Acquisition.plainConfig 1 }

/--
The loop takes the first datagram, the second one waits and the third one is lost.
-/
def lossy : List (Action 40) :=
  startUp ++ receiveFrame firstDatagram ++ .daq .enterLoop :: analyseFrame.take 3 ++
    receiveFrame secondDatagram ++ receiveFrame firstDatagram

theorem dataQueue_refines_example
    : ∃ app, (system 40 smallQueue).Reachable app ∧
        app.daq.inHand = [DataProcessor.hitAndMarker] ∧
        app.daq.queued = [DataProcessor.markerAndHits] ∧
        [DataProcessor.hitAndMarker, DataProcessor.markerAndHits].Sublist app.daq.arrived ∧
        app.daq.outcomes.count false = 1 ∧
        app.daq.outcomes.count false ≤ app.daq.arrived.length - 1 := by
  have hrun : ((system 40 smallQueue).exec (init 40 smallQueue) lossy).map
        (fun app => decide (app.daq.analysed = [] ∧
          app.daq.inHand = [DataProcessor.hitAndMarker] ∧
          app.daq.queued = [DataProcessor.markerAndHits] ∧ app.daq.pending = [] ∧
          app.daq.arrived.length = 3))
      = some true := by
    decide +kernel
  rcases Option.map_eq_some_iff.mp hrun with ⟨app, hexec, happ⟩
  rcases of_decide_eq_true happ with ⟨hanalysed, hhand, hqueued, hpending, harrived⟩
  have hreachable := TransitionSystem.Reachable.of_exec hexec
  rcases dataQueue_refines hreachable with ⟨_, _, hinOrder, hcomplete, hlost, _⟩
  rw [hanalysed, hhand, hqueued] at hinOrder hcomplete
  refine ⟨app, hreachable, hhand, hqueued, hinOrder, ?_, hlost⟩
  simp only [harrived, hpending, List.nil_append, List.singleton_append, List.length_cons,
    List.length_nil] at hcomplete
  omega

end App

end Srs
