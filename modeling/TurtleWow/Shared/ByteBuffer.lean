import TurtleWow.Lib.Bytes

namespace TurtleWow.Shared

open Bytes

-- The buffer of a packet: values are appended at one position and read at
-- another.

structure ByteBuffer where
  rpos : Nat
  wpos : Nat
  storage : List UInt8

-- How a call may end early: with a ByteBufferException, in the assertion of
-- `append`, or undefined, at a byte the storage does not have.
inductive Fault
  | exception (add : Bool) (pos esize size : Nat)
  | assertion
  | outOfBounds (index : Nat)

abbrev Call (α : Type) := EStateM Fault ByteBuffer α

-- Positions are size_t.
def sizeT (n : Nat) : Nat := n % 2 ^ 64

namespace ByteBuffer

def empty : ByteBuffer := ⟨0, 0, []⟩

def size (b : ByteBuffer) : Nat := b.storage.length

def seek (b : ByteBuffer) (rpos : Nat) : ByteBuffer := { b with rpos := rpos }

def copyIn (b : ByteBuffer) (src : List UInt8) : ByteBuffer :=
  let storage := b.storage ++ List.replicate (b.wpos + src.length - b.storage.length) 0
  { b with
    storage := storage.take b.wpos ++ src ++ storage.drop (b.wpos + src.length),
    wpos := b.wpos + src.length }

def append (src : List UInt8) : Call Unit := do
  if src ≠ [] then
    let b ← get
    if 10000000 ≤ b.size then throw .assertion
    modify fun b => b.copyIn src

-- `append<T>`: the bytes of a value, converted to little endian
def appendValue (width value : Nat) : Call Unit := append (toBytes width value)

def writeUint8 (value : UInt8) : Call Unit := appendValue 1 value.toNat
def writeUint16 (value : UInt16) : Call Unit := appendValue 2 value.toNat
def writeUint32 (value : UInt32) : Call Unit := appendValue 4 value.toNat
def writeUint64 (value : UInt64) : Call Unit := appendValue 8 value.toNat
def writeInt8 (value : Int8) : Call Unit := appendValue 1 value.toUInt8.toNat
def writeInt16 (value : Int16) : Call Unit := appendValue 2 value.toUInt16.toNat
def writeInt32 (value : Int32) : Call Unit := appendValue 4 value.toUInt32.toNat
def writeInt64 (value : Int64) : Call Unit := appendValue 8 value.toUInt64.toNat

def writeString (value : List UInt8) : Call Unit := do
  append value
  appendValue 1 0

-- The loop of `appendPackGUID`. A guid has eight bytes, so it is 0 after as
-- many turns.
def packLoop : Nat → Nat → Nat → Nat → List UInt8 → Nat × List UInt8
  | 0, _, _, mark, packed => (mark, packed)
  | turns + 1, i, guid, mark, packed =>
    if guid = 0 then (mark, packed)
    else if guid % 256 ≠ 0 then
      packLoop turns (i + 1) (guid / 256) (mark ||| 2 ^ i) (packed ++ [UInt8.ofNat (guid % 256)])
    else packLoop turns (i + 1) (guid / 256) mark packed

def appendPackGUID (guid : UInt64) : Call Unit :=
  let (mark, packed) := packLoop 8 0 guid.toNat 0 []
  append (UInt8.ofNat mark :: packed)

-- `_storage[index]`
def touch (index : Nat) : Call UInt8 := do
  match (← get).storage[index]? with
  | some byte => return byte
  | none => throw (.outOfBounds index)

def copyOut (pos : Nat) : Nat → Call (List UInt8)
  | 0 => return []
  | len + 1 => do
      let byte ← touch pos
      let rest ← copyOut (pos + 1) len
      return byte :: rest

-- `read<T>(pos)`
def readAt (pos width : Nat) : Call Nat := do
  let b ← get
  if b.size < sizeT (pos + width) then throw (.exception false pos width b.size)
  let bytes ← copyOut pos width
  return ofBytes bytes

-- `read<T>()`
def readNext (width : Nat) : Call Nat := do
  let value ← readAt (← get).rpos width
  modify fun b => b.seek (sizeT (b.rpos + width))
  return value

-- `read(dest, len)`
def readBytes (len : Nat) : Call (List UInt8) := do
  let b ← get
  if b.size < sizeT (b.rpos + len) then throw (.exception false b.rpos len b.size)
  let bytes ← copyOut b.rpos len
  modify fun b => b.seek (sizeT (b.rpos + len))
  return bytes

def readUint8 : Call UInt8 := return UInt8.ofNat (← readNext 1)
def readUint16 : Call UInt16 := return UInt16.ofNat (← readNext 2)
def readUint32 : Call UInt32 := return UInt32.ofNat (← readNext 4)
def readUint64 : Call UInt64 := return UInt64.ofNat (← readNext 8)
def readInt8 : Call Int8 := return (UInt8.ofNat (← readNext 1)).toInt8
def readInt16 : Call Int16 := return (UInt16.ofNat (← readNext 2)).toInt16
def readInt32 : Call Int32 := return (UInt32.ofNat (← readNext 4)).toInt32
def readInt64 : Call Int64 := return (UInt64.ofNat (← readNext 8)).toInt64

-- The search for the closing zero. Each turn moves on within the buffer, so it
-- has ended before the turns have.
def findEnd : Nat → Call Unit
  | 0 => do throw (.outOfBounds (← get).rpos)
  | turns + 1 => do
      let byte ← touch (← get).rpos
      if byte ≠ 0 then
        modify fun b => b.seek (sizeT (b.rpos + 1))
        let b ← get
        if b.size < sizeT (b.rpos + 1) then throw (.exception false b.rpos 1 b.size)
        findEnd turns

-- At the end of the buffer the variable keeps what it has.
def readString (value : List UInt8) : Call (List UInt8) := do
  let b ← get
  if b.rpos < b.size then
    findEnd b.size
    let last := (← get).rpos
    let bytes ← copyOut b.rpos (last - b.rpos)
    modify fun b => b.seek (sizeT (b.rpos + 1))
    return bytes
  else return value

def readMarked (guidmark : UInt8) (guid i : Nat) : Call Nat := do
  if guidmark.toNat.testBit i then
    let bit ← readUint8
    return guid ||| bit.toNat <<< (i * 8)
  else return guid

def readPackGUID : Call UInt64 := do
  let guidmark ← readUint8
  let guid ← (List.range 8).foldlM (readMarked guidmark) 0
  return UInt64.ofNat guid

end ByteBuffer

-- A value of any type that the operators take

inductive Value
  | uint8 (value : UInt8)
  | uint16 (value : UInt16)
  | uint32 (value : UInt32)
  | uint64 (value : UInt64)
  | int8 (value : Int8)
  | int16 (value : Int16)
  | int32 (value : Int32)
  | int64 (value : Int64)
  | string (value : List UInt8)
  | packGUID (guid : UInt64)

inductive ValueType
  | uint8 | uint16 | uint32 | uint64 | int8 | int16 | int32 | int64 | string | packGUID
deriving DecidableEq

namespace Value

def type : Value → ValueType
  | uint8 _ => .uint8
  | uint16 _ => .uint16
  | uint32 _ => .uint32
  | uint64 _ => .uint64
  | int8 _ => .int8
  | int16 _ => .int16
  | int32 _ => .int32
  | int64 _ => .int64
  | string _ => .string
  | packGUID _ => .packGUID

def write : Value → Call Unit
  | uint8 value => ByteBuffer.writeUint8 value
  | uint16 value => ByteBuffer.writeUint16 value
  | uint32 value => ByteBuffer.writeUint32 value
  | uint64 value => ByteBuffer.writeUint64 value
  | int8 value => ByteBuffer.writeInt8 value
  | int16 value => ByteBuffer.writeInt16 value
  | int32 value => ByteBuffer.writeInt32 value
  | int64 value => ByteBuffer.writeInt64 value
  | string value => ByteBuffer.writeString value
  | packGUID guid => ByteBuffer.appendPackGUID guid

end Value

-- The matching reader. A string variable holds a text before.
def ValueType.read (text : List UInt8) : ValueType → Call Value
  | uint8 => return .uint8 (← ByteBuffer.readUint8)
  | uint16 => return .uint16 (← ByteBuffer.readUint16)
  | uint32 => return .uint32 (← ByteBuffer.readUint32)
  | uint64 => return .uint64 (← ByteBuffer.readUint64)
  | int8 => return .int8 (← ByteBuffer.readInt8)
  | int16 => return .int16 (← ByteBuffer.readInt16)
  | int32 => return .int32 (← ByteBuffer.readInt32)
  | int64 => return .int64 (← ByteBuffer.readInt64)
  | string => return .string (← ByteBuffer.readString text)
  | packGUID => return .packGUID (← ByteBuffer.readPackGUID)

def writeAll : List Value → Call Unit
  | [] => return ()
  | value :: rest => do
      value.write
      writeAll rest

def readAll : List ValueType → Call (List Value)
  | [] => return []
  | type :: rest => do
      let value ← type.read []
      let values ← readAll rest
      return value :: values

end TurtleWow.Shared
