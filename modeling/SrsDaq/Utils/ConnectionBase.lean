import SrsDaq.Utils.Serializer

/-!
This module contains the connections: the socket of a connection, the buffer that its messages are
written to and the buffer that they are read into. The coroutines that a connection spawns take
their steps elsewhere.
-/

namespace Srs

structure UdpEndpoint where
  address : String
  port : BitVec 16
  deriving DecidableEq, Repr

structure UdpSocket where
  localPort : BitVec 16
  isOpen : Bool
  deriving DecidableEq, Repr

structure ConnectionInfo where
  localPortNumber : Nat := 0
  endpoint : Option UdpEndpoint := none
  deriving DecidableEq, Repr

structure ConnectionBase (bufferSize : Nat) where
  localPortNumber : Nat
  counter : BitVec 32 := initCountValue
  socket : Option UdpSocket := none
  endpoint : Option UdpEndpoint
  writeMsgBuffer : SerializableMsgBuffer := {}
  readMsgBuffer : Vector Byte bufferSize := Vector.replicate bufferSize 0
  deriving DecidableEq, Repr

namespace ConnectionBase

variable {bufferSize : Nat}

def ofInfo (bufferSize : Nat) (info : ConnectionInfo) : ConnectionBase bufferSize where
  localPortNumber := info.localPortNumber
  endpoint := info.endpoint

def isOpen (connection : ConnectionBase bufferSize) : Bool :=
  connection.socket.any UdpSocket.isOpen

/--
`std::make_unique<udp::socket>`, given which ports nobody else holds. The socket that the connection
already has is still there when the new one is bound.
-/
def newSharedSocket (isFree : BitVec 16 → Bool) (portNumber : Nat)
    (connection : ConnectionBase bufferSize)
    : Except Exception UdpSocket :=
  let port := BitVec.ofNat 16 portNumber
  let isHeld := connection.socket.any fun socket => socket.isOpen && socket.localPort = port
  if isFree port && not isHeld then
    .ok { localPort := port, isOpen := true }
  else
    .error .addressInUse

def listen (isFree : BitVec 16 → Bool) (connection : ConnectionBase bufferSize)
    : Outcome (ConnectionBase bufferSize) :=
  -- `listen`, without the coroutines that it spawns.
  match connection.newSharedSocket isFree connection.localPortNumber with
  | .error exception => .raised exception connection
  | .ok socket => .returned { connection with socket := some socket }

def closeSocket (connection : ConnectionBase bufferSize) : ConnectionBase bufferSize :=
  { connection with
    socket := connection.socket.map fun socket => { socket with isOpen := false } }

def encodeWriteMsg (zpp : ZppBits H) (data : List (BitVec 32)) (address : BitVec 16)
    (connection : ConnectionBase bufferSize)
    : ConnectionBase bufferSize :=
  let buffer := connection.writeMsgBuffer.serialize zpp
    [.uint32 connection.counter, .uint16 zeroUint16Padding, .uint16 address,
      .uint8 writeCommandBits, .uint8 defaultTypeBits, .uint16 commandLengthBits]
  { connection with writeMsgBuffer := buffer.serialize zpp [.uint32s data] }

def communicate (zpp : ZppBits H) (isFree : BitVec 16 → Bool) (data : List (BitVec 32))
    (address : BitVec 16) (connection : ConnectionBase bufferSize)
    : Outcome (ConnectionBase bufferSize) :=
  (listen isFree connection).andThen fun connection =>
    if connection.endpoint.isSome then
      .returned (connection.encodeWriteMsg zpp data address)
    else
      .returned connection

def sendMessage (connection : ConnectionBase bufferSize) : Option (List Byte) :=
  -- What `send_message` hands to the socket. Without an endpoint it is never spawned.
  connection.endpoint.map fun _ => connection.writeMsgBuffer.data

/--
`async_receive` puts a datagram at the front of the buffer, cut off where the buffer ends. It tells
how many bytes it received.
-/
def asyncReceive (datagram : List Byte) (connection : ConnectionBase bufferSize)
    : ConnectionBase bufferSize × Nat :=
  let received := datagram.take bufferSize
  let buffer := Vector.ofFn fun i : Fin bufferSize =>
    (received[i.val]?).getD (connection.readMsgBuffer.get i)
  ({ connection with readMsgBuffer := buffer }, received.length)

def readMsg (connection : ConnectionBase bufferSize) (receiveDataSize : Nat) : List Byte :=
  connection.readMsgBuffer.toList.take receiveDataSize

def resetReadMsgBuffer (connection : ConnectionBase bufferSize) : ConnectionBase bufferSize :=
  { connection with readMsgBuffer := Vector.replicate bufferSize 0 }

end ConnectionBase

end Srs
