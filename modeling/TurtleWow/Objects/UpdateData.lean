import Mathlib.Data.Finset.Card
import TurtleWow.Lib.Parse
import TurtleWow.Shared.RoundTrip

namespace TurtleWow.Objects

open Bytes Shared Parse

-- The blocks of an update, the packets they are sent in, and how a client reads
-- these.

inductive ObjectUpdateType
  | values
  | movement
  | createObject
  | createObject2
  | outOfRangeObjects
  | nearObjects
deriving DecidableEq

def ObjectUpdateType.code : ObjectUpdateType → UInt8
  | .values => 0
  | .movement => 1
  | .createObject => 2
  | .createObject2 => 3
  | .outOfRangeObjects => 4
  | .nearObjects => 5

def ObjectUpdateType.ofCode? (code : UInt8) : Option ObjectUpdateType :=
  [values, movement, createObject, createObject2, outOfRangeObjects, nearObjects].find? fun type => type.code = code

-- What a caller writes into the buffer: the type, then run after run of bytes
structure Block where
  updatetype : ObjectUpdateType
  fields : List (List UInt8)
  inRange : updatetype ≠ .outOfRangeObjects

def Block.runs (block : Block) : List (List UInt8) := [block.updatetype.code] :: block.fields

def Block.bytes (block : Block) : List UInt8 := block.runs.flatten

structure UpdatePacket where
  data : ByteBuffer
  blockCount : UInt32

def UpdatePacket.empty : UpdatePacket := ⟨.empty, 0⟩

inductive Opcode
  | none
  | updateObject
  | compressedUpdateObject
deriving DecidableEq

structure WorldPacket where
  opcode : Opcode
  buffer : ByteBuffer

def WorldPacket.clear (packet : WorldPacket) : WorldPacket := { packet with buffer := .empty }

-- zlib. `compress` is given the room there is, and fails with no bytes at all.
structure Compressor where
  bound : Nat → Nat
  compress : List UInt8 → Nat → List UInt8
  decompress : List UInt8 → Option (List UInt8)

def Compressor.destsize (c : Compressor) (size : Nat) : Nat := (UInt32.ofNat (c.bound size)).toNat

structure Compressor.Lossless (c : Compressor) : Prop where
  succeeds : ∀ src : List UInt8, c.compress src (c.destsize src.length) ≠ []
  inverse : ∀ (src : List UInt8) (room : Nat), c.compress src room ≠ [] → c.decompress (c.compress src room) = some src

-- The order in which a hash set is walked
structure HashOrder where
  walk : Finset UInt64 → List UInt64
  nodup : ∀ set, (walk set).Nodup
  mem : ∀ set guid, guid ∈ walk set ↔ guid ∈ set

structure UpdateData where
  m_outOfRangeGUIDs : Finset UInt64
  m_datas : List UpdatePacket

def write (call : Call Unit) (b : ByteBuffer) : Except Fault ByteBuffer :=
  match call.run b with
  | .ok _ c => .ok c
  | .error fault _ => .error fault

def appendBuffer (buffer : ByteBuffer) : Call Unit := do
  if buffer.wpos ≠ 0 then ByteBuffer.append (buffer.storage.take buffer.wpos)

namespace UpdateData

def empty : UpdateData := ⟨∅, []⟩

def addOutOfRangeGUID (u : UpdateData) (guid : UInt64) : UpdateData :=
  { u with m_outOfRangeGUIDs := insert guid u.m_outOfRangeGUIDs }

def addOutOfRangeGUIDs (u : UpdateData) (guids : List UInt64) : UpdateData :=
  { u with m_outOfRangeGUIDs := u.m_outOfRangeGUIDs ∪ guids.toFinset }

-- The packets before the one whose buffer is returned, and that one
def addUpdateBlockAndGetBuffer (u : UpdateData) : List UpdatePacket × UpdatePacket :=
  match u.m_datas.getLast? with
  | none => ([], { UpdatePacket.empty with blockCount := 1 })
  | some it =>
    if it.data.wpos > 0x8000 then (u.m_datas, { UpdatePacket.empty with blockCount := 1 })
    else (u.m_datas.dropLast, { it with blockCount := it.blockCount + 1 })

def addBlock (u : UpdateData) (block : Block) : Except Fault UpdateData := do
  let (before, it) := u.addUpdateBlockAndGetBuffer
  let data ← write (appendRuns block.runs) it.data
  return { u with m_datas := before ++ [{ it with data := data }] }

section

variable (c : Compressor) (order : HashOrder)

def writeOutOfRange (guids : Finset UInt64) : Call Unit := do
  if guids ≠ ∅ then
    ByteBuffer.writeUint8 ObjectUpdateType.outOfRangeObjects.code
    ByteBuffer.writeUint32 (UInt32.ofNat guids.card)
    (order.walk guids).forM ByteBuffer.appendPackGUID

def writeUpdate (u : UpdateData) (updPacket : Option UpdatePacket) (hasTransport : Bool) : Call Unit := do
  let blockCount := (updPacket.map UpdatePacket.blockCount).getD 0
  ByteBuffer.writeUint32 (if u.m_outOfRangeGUIDs ≠ ∅ then blockCount + 1 else blockCount)
  ByteBuffer.writeUint8 (if hasTransport then 1 else 0)
  writeOutOfRange order u.m_outOfRangeGUIDs
  updPacket.forM fun packet => appendBuffer packet.data

-- With false the packet has the size but not the opcode.
def buildPacket (u : UpdateData) (packet : WorldPacket) (updPacket : Option UpdatePacket) (hasTransport : Bool) :
    Except Fault (WorldPacket × Bool) := do
  if packet.buffer.storage ≠ [] then throw .assertion
  let buf ← write (writeUpdate order u updPacket hasTransport) .empty
  let pSize := buf.wpos
  if pSize > 100 then
    let destsize := c.destsize pSize
    let dst := c.compress (buf.storage.take pSize) destsize
    if dst = [] then
      let storage := toBytes 4 pSize ++ List.replicate destsize 0
      return ({ packet with buffer := ⟨0, storage.length, storage⟩ }, false)
    let storage := toBytes 4 pSize ++ dst
    return (⟨.compressedUpdateObject, ⟨0, storage.length, storage⟩⟩, true)
  else
    let buffer ← write (appendBuffer buf) packet.buffer
    return (⟨.updateObject, buffer⟩, true)

-- The loop of Send, over one packet object
def sendLoop (hasTransport : Bool) :
    UpdateData → WorldPacket → List UpdatePacket → Except Fault (List WorldPacket × UpdateData)
  | u, _, [] => return ([], u)
  | u, data, itr :: rest => do
      let (sent, _) ← u.buildPacket c order data (some itr) hasTransport
      let (later, u) ← sendLoop hasTransport { u with m_outOfRangeGUIDs := ∅ } sent.clear rest
      return (sent :: later, u)

def send (u : UpdateData) (hasTransport : Bool) : Except Fault (List WorldPacket × UpdateData) :=
  if u.m_datas.isEmpty ∧ u.m_outOfRangeGUIDs ≠ ∅ then do
    let (sent, _) ← u.buildPacket c order ⟨.none, .empty⟩ none hasTransport
    return ([sent], { u with m_outOfRangeGUIDs := ∅ })
  else sendLoop c order hasTransport u ⟨.none, .empty⟩ u.m_datas

end

end UpdateData

inductive Add
  | block (block : Block)
  | outOfRangeGUID (guid : UInt64)
  | outOfRangeGUIDs (guids : List UInt64)

namespace Add

def apply (u : UpdateData) : Add → Except Fault UpdateData
  | .block added => u.addBlock added
  | .outOfRangeGUID guid => .ok (u.addOutOfRangeGUID guid)
  | .outOfRangeGUIDs added => .ok (u.addOutOfRangeGUIDs added)

def all : UpdateData → List Add → Except Fault UpdateData
  | u, [] => .ok u
  | u, add :: rest => do all (← add.apply u) rest

def blocks : List Add → List Block := List.filterMap fun
  | .block added => some added
  | _ => none

def guids : List Add → List UInt64 := List.flatMap fun
  | .block _ => []
  | .outOfRangeGUID guid => [guid]
  | .outOfRangeGUIDs added => added

end Add

-- A client, by what it takes for the body of a block

inductive Update
  | outOfRange (guids : List UInt64)
  | block (updatetype : ObjectUpdateType) (body : List UInt8)

def Block.update (block : Block) : Update := .block block.updatetype block.fields.flatten

section

variable (body : ObjectUpdateType → Reader (List UInt8))

def readUpdate : Reader Update := do
  match ObjectUpdateType.ofCode? (← uint8) with
  | none => failure
  | some .outOfRangeObjects =>
    let count ← uint32
    return .outOfRange (← many (do return UInt64.ofNat (← packed 8)) count.toNat)
  | some updatetype => return .block updatetype (← body updatetype)

def readUpdates : Reader (UInt8 × List Update) := do
  let blockCount ← uint32
  let transport ← uint8
  return (transport, ← many (readUpdate body) blockCount.toNat)

def receive (c : Compressor) (packet : WorldPacket) : Option (UInt8 × List Update) :=
  match packet.opcode with
  | .none => none
  | .updateObject => whole (readUpdates body) packet.buffer.storage
  | .compressedUpdateObject => (c.decompress (packet.buffer.storage.drop 4)).bind (whole (readUpdates body))

end

end TurtleWow.Objects
