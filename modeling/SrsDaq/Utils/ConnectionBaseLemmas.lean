import SrsDaq.Utils.ConnectionBase
import SrsDaq.Utils.SerializerLemmas

/-!
This module contains what the connections send and receive: the datagrams of any number of exchanges
on one connection, the words and the address that a message can be read back to, and the message
that a datagram becomes in the read buffer.
-/

namespace Srs

namespace ConnectionBase

variable {bufferSize : Nat}

theorem readMsg_asyncReceive (connection : ConnectionBase bufferSize) {datagram : List Byte}
    (h : datagram.length ≤ bufferSize)
    : (connection.asyncReceive datagram).1.readMsg (connection.asyncReceive datagram).2
        =
      datagram := by
  have htake : datagram.take bufferSize = datagram := List.take_of_length_le h
  apply List.ext_getElem
  . simp only [readMsg, asyncReceive, htake, List.length_take, Vector.length_toList]
    omega
  . intro i h1 h2
    simp [readMsg, asyncReceive, htake, List.getElem?_eq_getElem h2]

theorem asyncReceive_take (connection : ConnectionBase bufferSize) (datagram : List Byte)
    : connection.asyncReceive (datagram.take bufferSize) = connection.asyncReceive datagram := by
  simp only [asyncReceive, List.take_take, Nat.min_self]

def commandFrame (counter : BitVec 32) (data : List (BitVec 32)) (address : BitVec 16)
    : List Byte :=
  Bytes.toBE 4 counter.toNat ++ [0, 0] ++ Bytes.toBE 2 address.toNat ++ [0xaa, 0xaa, 0xff, 0xff]
    ++ data.flatMap fun word => Bytes.toBE 4 word.toNat

theorem length_commandFrame (counter : BitVec 32) (data : List (BitVec 32)) (address : BitVec 16)
    : (commandFrame counter data address).length = 12 + 4 * data.length := by
  simp only [commandFrame, List.length_append, Bytes.length_toBE, List.length_cons, List.length_nil,
    List.length_flatMap, List.map_const', List.sum_replicate_nat]
  omega

theorem commandFrame_ne_nil (counter : BitVec 32) (data : List (BitVec 32)) (address : BitVec 16)
    : commandFrame counter data address ≠ [] := by
  have hlength := length_commandFrame counter data address
  rw [← List.length_pos_iff]
  omega

def decodeWriteMsg (msg : List Byte) : List (BitVec 32) × BitVec 16 :=
  (SerializableMsgBuffer.bigEndianElements 32 (msg.drop 12),
    BitVec.ofNat 16 (Bytes.ofBE ((msg.drop 6).take 2)))

theorem decodeWriteMsg_commandFrame (counter : BitVec 32) (data : List (BitVec 32))
    (address : BitVec 16)
    : decodeWriteMsg (commandFrame counter data address) = (data, address) := by
  have hcounter : (Bytes.toBE 4 counter.toNat).length = 4 := Bytes.length_toBE ..
  have haddress : (Bytes.toBE 2 address.toNat).length = 2 := Bytes.length_toBE ..
  have hwords := SerializableMsgBuffer.bigEndianElements_flatMap (by decide) (by decide) data
  unfold decodeWriteMsg commandFrame
  rw [Prod.mk.injEq]
  constructor
  . rw [List.drop_left' (by simp)]
    exact hwords
  . simp only [List.append_assoc]
    rw [← List.append_assoc (Bytes.toBE 4 counter.toNat), List.drop_left' (by simp),
      List.take_left' haddress, Bytes.ofNat_ofBE_toBE (by decide)]

variable {zpp : ZppBits H} {format : WireFormat H}

theorem encodeWriteMsg_eq (hzpp : zpp.Lawful format) (data : List (BitVec 32)) (address : BitVec 16)
    (connection : ConnectionBase bufferSize)
    : connection.encodeWriteMsg zpp data address
        =
      { connection with
        writeMsgBuffer :=
          ⟨connection.writeMsgBuffer.data ++ commandFrame connection.counter data address⟩ } := by
  have hpadding : Bytes.toBE 2 zeroUint16Padding.toNat = [0, 0] := by decide
  have hlength : Bytes.toBE 2 commandLengthBits.toNat = [0xff, 0xff] := by decide
  unfold encodeWriteMsg
  simp only [SerializableMsgBuffer.serialize_eq hzpp, List.flatMap_cons, List.flatMap_nil,
    OutValue.toBytes, hpadding, hlength, commandFrame, writeCommandBits, defaultTypeBits]
  simp

theorem listen_closed {isFree : BitVec 16 → Bool} {connection : ConnectionBase bufferSize}
    (hclosed : connection.isOpen = false)
    (hfree : isFree (BitVec.ofNat 16 connection.localPortNumber) = true)
    : connection.listen isFree
        =
      .returned { connection with
        socket := some ⟨BitVec.ofNat 16 connection.localPortNumber, true⟩ } := by
  unfold listen newSharedSocket
  simp only [isOpen] at hclosed
  cases hsocket : connection.socket with
  | none => simp [hfree]
  | some socket =>
    have hopen : socket.isOpen = false := by simpa [hsocket] using hclosed
    simp [hfree, hopen]

theorem listen_returned {isFree : BitVec 16 → Bool} {connection listening : ConnectionBase bufferSize}
    (h : connection.listen isFree = .returned listening)
    : ∃ socket, listening = { connection with socket := some socket } := by
  unfold listen at h
  split at h
  . cases h
  . next socket _ =>
    cases h
    exact ⟨socket, rfl⟩

theorem isOpen_of_listen {isFree : BitVec 16 → Bool} {connection listening : ConnectionBase bufferSize}
    (h : connection.listen isFree = .returned listening)
    : listening.isOpen = true := by
  unfold listen at h
  split at h
  . cases h
  . next socket hsocket =>
    cases h
    simp only [newSharedSocket] at hsocket
    split at hsocket
    . cases hsocket
      rfl
    . cases hsocket

theorem isFree_of_listen {isFree : BitVec 16 → Bool} {connection listening : ConnectionBase bufferSize}
    (h : connection.listen isFree = .returned listening)
    : isFree (BitVec.ofNat 16 connection.localPortNumber) = true := by
  unfold listen at h
  split at h
  . cases h
  . next socket hsocket =>
    simp only [newSharedSocket] at hsocket
    split at hsocket
    . next hfree =>
      rw [Bool.and_eq_true] at hfree
      exact hfree.1
    . cases hsocket

@[simp]
theorem isOpen_encodeWriteMsg (zpp : ZppBits H) (data : List (BitVec 32)) (address : BitVec 16)
    (connection : ConnectionBase bufferSize)
    : (connection.encodeWriteMsg zpp data address).isOpen = connection.isOpen := by
  rfl

@[simp]
theorem isOpen_closeSocket (connection : ConnectionBase bufferSize)
    : connection.closeSocket.isOpen = false := by
  cases h : connection.socket <;> simp [closeSocket, isOpen, h]

/-
Exchanges on one connection.
-/

structure Exchanges (bufferSize : Nat) where
  connection : ConnectionBase bufferSize
  sent : List (Option (List Byte)) := []

def exchange (zpp : ZppBits H) (isFree : BitVec 16 → Bool)
    (call : List (BitVec 32) × BitVec 16) (exchanges : Exchanges bufferSize)
    : Outcome (Exchanges bufferSize) :=
  let spawned := (exchanges.connection.communicate zpp isFree call.1 call.2).map fun connection =>
    { exchanges with connection := connection }
  spawned.andThen fun exchanges =>
    .returned
      { connection := exchanges.connection.closeSocket
        sent := exchanges.sent ++ [exchanges.connection.sendMessage] }

def callFrame (call : List (BitVec 32) × BitVec 16) : List Byte :=
  commandFrame initCountValue call.1 call.2

structure AfterCalls (isFree : BitVec 16 → Bool) (calls : List (List (BitVec 32) × BitVec 16))
    (connection : ConnectionBase bufferSize)
    : Prop where
  isClosed : connection.isOpen = false
  isFree : isFree (BitVec.ofNat 16 connection.localPortNumber) = true
  counter : connection.counter = initCountValue
  writeMsgBuffer : connection.endpoint.isSome = true →
    connection.writeMsgBuffer.data = calls.flatMap callFrame

theorem afterCalls_ofInfo {isFree : BitVec 16 → Bool} {info : ConnectionInfo}
    (hfree : isFree (BitVec.ofNat 16 info.localPortNumber) = true)
    : AfterCalls isFree [] (ofInfo bufferSize info) where
  isClosed := by rfl
  isFree := hfree
  counter := by rfl
  writeMsgBuffer := by
    intro _
    rfl

theorem AfterCalls.exchange (hzpp : zpp.Lawful format) {isFree : BitVec 16 → Bool}
    {calls : List (List (BitVec 32) × BitVec 16)} {connection : ConnectionBase bufferSize}
    (h : AfterCalls isFree calls connection) (call : List (BitVec 32) × BitVec 16)
    (sent : List (Option (List Byte)))
    : ∃ next : ConnectionBase bufferSize,
        ConnectionBase.exchange zpp isFree call ⟨connection, sent⟩ = .returned
          ⟨next, sent ++ [connection.endpoint.map fun _ => (calls ++ [call]).flatMap callFrame]⟩ ∧
        AfterCalls isFree (calls ++ [call]) next ∧
        next.endpoint = connection.endpoint := by
  rcases connection with ⟨port, counter, socket, endpoint, write, read⟩
  rcases h with ⟨hclosed, hfree, hcounter, hbuffer⟩
  simp only at hfree hcounter hbuffer
  unfold ConnectionBase.exchange communicate
  simp only [listen_closed hclosed hfree, Outcome.andThen_returned]
  cases endpoint with
  | none => exact ⟨_, rfl, ⟨isOpen_closeSocket _, hfree, hcounter, by simp [closeSocket]⟩, rfl⟩
  | some endpoint =>
    have hdata := hbuffer (by simp)
    simp only [Option.isSome_some, if_true, Outcome.map_returned, Outcome.andThen_returned,
      encodeWriteMsg_eq hzpp, hcounter, hdata]
    have hframes : (calls ++ [call]).flatMap callFrame
        = calls.flatMap callFrame ++ commandFrame initCountValue call.1 call.2 := by
      rw [List.flatMap_append, List.flatMap_singleton]
      rfl
    rw [hframes]
    refine ⟨_, rfl, ⟨isOpen_closeSocket _, hfree, rfl, ?_⟩, rfl⟩
    intro _
    apply hframes.symm

theorem AfterCalls.forEach_exchange (hzpp : zpp.Lawful format) {isFree : BitVec 16 → Bool}
    (calls : List (List (BitVec 32) × BitVec 16))
    {before : List (List (BitVec 32) × BitVec 16)} {connection : ConnectionBase bufferSize}
    (h : AfterCalls isFree before connection) (sent : List (Option (List Byte)))
    : ∃ last : ConnectionBase bufferSize,
        Outcome.forEach (ConnectionBase.exchange zpp isFree) calls ⟨connection, sent⟩ = .returned
          ⟨last, sent ++ (List.range calls.length).map fun i =>
            connection.endpoint.map fun _ => (before ++ calls.take (i + 1)).flatMap callFrame⟩ := by
  induction calls generalizing before connection sent with
  | nil => exact ⟨connection, by simp⟩
  | cons call calls ih =>
    rcases h.exchange hzpp call sent with ⟨next, hexchange, hnext, hendpoint⟩
    rcases ih hnext (sent ++ [connection.endpoint.map fun _ => (before ++ [call]).flatMap callFrame])
      with ⟨last, hlast⟩
    refine ⟨last, ?_⟩
    rw [Outcome.forEach_cons, hexchange, Outcome.andThen_returned, hlast, hendpoint]
    simp [List.range_succ_eq_map, Function.comp_def]

def exchanges (bufferSize : Nat) (zpp : ZppBits H) (isFree : BitVec 16 → Bool)
    (info : ConnectionInfo) (calls : List (List (BitVec 32) × BitVec 16))
    : Outcome (Exchanges bufferSize) :=
  Outcome.forEach (exchange zpp isFree) calls { connection := ofInfo bufferSize info }

theorem exchanges_sent (hzpp : zpp.Lawful format) {isFree : BitVec 16 → Bool}
    {info : ConnectionInfo} (hfree : isFree (BitVec.ofNat 16 info.localPortNumber) = true)
    (calls : List (List (BitVec 32) × BitVec 16))
    : ∃ last : Exchanges bufferSize,
        exchanges bufferSize zpp isFree info calls = .returned last ∧
        last.sent.length = calls.length ∧
        ∀ i, i < calls.length →
          last.sent[i]? = some (info.endpoint.map fun _ => (calls.take (i + 1)).flatMap callFrame) := by
  have hfirst : AfterCalls isFree [] (ofInfo bufferSize info) := afterCalls_ofInfo hfree
  rcases hfirst.forEach_exchange hzpp calls [] with ⟨last, hlast⟩
  refine ⟨_, hlast, by simp, ?_⟩
  intro i hi
  simp [List.getElem?_map, List.getElem?_range hi, ofInfo]

/-
The commands that turn the acquisition on and off.
-/

def controlInfo : ConnectionInfo where
  localPortNumber := fecControlLocalPort
  endpoint := some ⟨"10.0.0.2", 6600⟩

def onAndOff : List (List (BitVec 32) × BitVec 16) :=
  [([0, 15, 1], nullAddress), ([0, 15, 0], nullAddress)]

/--
What is sent for a call is the command of this call alone exactly for the first call, for every
later one the commands before are sent once more. Without an endpoint nothing is sent.
-/
theorem exchanges_sends_command_iff_first (hzpp : zpp.Lawful format) {isFree : BitVec 16 → Bool}
    {info : ConnectionInfo} (hfree : isFree (BitVec.ofNat 16 info.localPortNumber) = true)
    (calls : List (List (BitVec 32) × BitVec 16))
    : ∃ last : Exchanges bufferSize,
        exchanges bufferSize zpp isFree info calls = .returned last ∧
        last.sent.length = calls.length ∧
        ∀ i call, calls[i]? = some call →
          ((∀ datagram, last.sent[i]? = some (some datagram) →
              datagram = commandFrame initCountValue call.1 call.2
                ∧ datagram.length = 12 + 4 * call.1.length)
            ↔
          (i = 0 ∨ info.endpoint = none)) := by
  have hexchanges := @exchanges_sent H bufferSize zpp format hzpp isFree info hfree calls
  rcases hexchanges with ⟨last, hrun, hlength, hsent⟩
  refine ⟨last, hrun, hlength, ?_⟩
  intro i call hcall
  rcases List.getElem?_eq_some_iff.mp hcall with ⟨hi, hget⟩
  rw [hsent i hi]
  cases hendpoint : info.endpoint with
  | none => simp
  | some endpoint =>
    have htake : calls.take (i + 1) = calls.take i ++ [call] := by
      rw [List.take_add_one, hcall]
      rfl
    simp only [Option.map_some, Option.some.injEq, forall_eq', htake, List.flatMap_append,
      List.flatMap_singleton, reduceCtorEq, or_false]
    constructor
    . rintro ⟨hdatagram, _⟩
      have hnil : (calls.take i).flatMap callFrame = [] := by
        rw [callFrame] at hdatagram
        apply List.append_left_eq_self.mp hdatagram
      cases i with
      | zero => rfl
      | succ i =>
        exfalso
        have hpos : 0 < (calls.take (i + 1)).length := by
          rw [List.length_take]
          omega
        rcases List.exists_cons_of_length_pos hpos with ⟨first, rest, hfirst⟩
        rw [hfirst, List.flatMap_cons, List.append_eq_nil_iff] at hnil
        apply commandFrame_ne_nil _ _ _ hnil.1
    . rintro rfl
      simp only [List.take_zero, List.flatMap_nil, List.nil_append]
      exact ⟨rfl, length_commandFrame _ _ _⟩

theorem exchanges_sends_command_iff_first_example
    : ∃ last : Exchanges smallReadMsgBufferSize,
        exchanges smallReadMsgBufferSize (ZppBits.reference ReceiveDataHeader.wireFormat)
          (fun _ => true) controlInfo onAndOff = .returned last ∧
        ∀ datagram, last.sent[0]? = some (some datagram) →
          datagram = commandFrame initCountValue [0, 15, 1] nullAddress := by
  have h := @exchanges_sends_command_iff_first ReceiveDataHeader smallReadMsgBufferSize _ _
    (ZppBits.reference_lawful ReceiveDataHeader.wireFormat) (fun _ => true) controlInfo rfl onAndOff
  rcases h with ⟨last, hrun, _, hsends⟩
  refine ⟨last, hrun, ?_⟩
  intro datagram hdatagram
  exact ((hsends 0 ([0, 15, 1], nullAddress) rfl).mpr (Or.inl rfl) datagram hdatagram).1

theorem exchanges_second_command
    : ∃ last : Exchanges smallReadMsgBufferSize,
        exchanges smallReadMsgBufferSize (ZppBits.reference ReceiveDataHeader.wireFormat)
          (fun _ => true) controlInfo onAndOff = .returned last ∧
        last.sent[1]? = some (some (commandFrame initCountValue [0, 15, 1] nullAddress
          ++ commandFrame initCountValue [0, 15, 0] nullAddress)) ∧
        last.sent[1]? ≠ some (some (commandFrame initCountValue [0, 15, 0] nullAddress)) := by
  have h := @exchanges_sent ReceiveDataHeader smallReadMsgBufferSize _ _
    (ZppBits.reference_lawful ReceiveDataHeader.wireFormat) (fun _ => true) controlInfo rfl onAndOff
  rcases h with ⟨last, hrun, _, hsent⟩
  refine ⟨last, hrun, hsent 1 (by decide), ?_⟩
  rw [hsent 1 (by decide)]
  decide

/--
Serializing appends the big endian encoding of its arguments and nothing else, in one call or in
several. The address and the words can be read back from the first message of a connection.
-/
theorem serialize_appends (hzpp : zpp.Lawful format)
    : (∀ (buf : SerializableMsgBuffer) (structs : List (OutValue H)),
        buf.serialize zpp structs = ⟨buf.data ++ structs.flatMap (OutValue.toBytes format)⟩) ∧
      (∀ (buf : SerializableMsgBuffer) (structs structs' : List (OutValue H)),
        (buf.serialize zpp structs).serialize zpp structs'
          = buf.serialize zpp (structs ++ structs')) ∧
      ∀ (info : ConnectionInfo) (data : List (BitVec 32)) (address : BitVec 16),
        let msg := ((ofInfo bufferSize info).encodeWriteMsg zpp data address).writeMsgBuffer.data
        msg.length = 12 + 4 * data.length ∧ decodeWriteMsg msg = (data, address) := by
  refine ⟨SerializableMsgBuffer.serialize_eq hzpp, SerializableMsgBuffer.serialize_serialize hzpp,
    ?_⟩
  intro info data address
  have hmsg : ((ofInfo bufferSize info).encodeWriteMsg zpp data address).writeMsgBuffer.data
      = commandFrame initCountValue data address := by
    rw [encodeWriteMsg_eq hzpp]
    rfl
  simp only [hmsg]
  exact ⟨length_commandFrame _ _ _, decodeWriteMsg_commandFrame _ _ _⟩

theorem serialize_appends_example
    : SerializableMsgBuffer.serialize (ZppBits.reference ReceiveDataHeader.wireFormat) ⟨[9]⟩
          [.uint16 0x0102, .uint32s [3]]
        =
      ⟨[9, 1, 2, 0, 0, 0, 3]⟩
        ∧
      decodeWriteMsg ((ofInfo smallReadMsgBufferSize controlInfo).encodeWriteMsg
          (ZppBits.reference ReceiveDataHeader.wireFormat) [0, 15, 1] nullAddress).writeMsgBuffer.data
        =
      ([0, 15, 1], nullAddress) := by
  have h := @serialize_appends ReceiveDataHeader smallReadMsgBufferSize _ _
    (ZppBits.reference_lawful ReceiveDataHeader.wireFormat)
  exact ⟨h.1 ⟨[9]⟩ [.uint16 0x0102, .uint32s [3]], (h.2.2 controlInfo [0, 15, 1] nullAddress).2⟩

end ConnectionBase

end Srs
