import Mathlib.Data.List.Basic

namespace TurtleWow.Network

open List

-- What the two directions of a socket share: the blocks that hold bytes, the
-- packets, and the cipher of the headers, which is a template parameter.

abbrev Bytes := List UInt8

-- A message block whose read pointer is at its base.
structure Block where
  capacity : Nat
  data : Bytes
  fits : data.length ≤ capacity

namespace Block

section

variable (b : Block)

def space : Nat := b.capacity - b.data.length

def ofCapacity (capacity : Nat) : Block := ⟨capacity, [], Nat.zero_le _⟩

def copy (bytes : Bytes) (h : bytes.length ≤ b.space) : Block where
  capacity := b.capacity
  data := b.data ++ bytes
  fits := by
    have hfits := b.fits
    unfold space at h
    rw [length_append]
    omega

-- The read pointer moves on and what is left moves to the base.
def crunch (read : Nat) : Block where
  capacity := b.capacity
  data := b.data.drop read
  fits := Nat.le_trans (by simp) b.fits

def reset : Block := ofCapacity b.capacity

theorem length_add_space : b.data.length + b.space = b.capacity := by
  have hfits := b.fits
  unfold space
  omega

@[simp] theorem data_ofCapacity (capacity : Nat) : (ofCapacity capacity).data = [] := rfl

@[simp] theorem capacity_ofCapacity (capacity : Nat) : (ofCapacity capacity).capacity = capacity := rfl

@[simp] theorem space_ofCapacity (capacity : Nat) : (ofCapacity capacity).space = capacity := rfl

@[simp] theorem data_copy (bytes : Bytes) (h : bytes.length ≤ b.space) :
    (b.copy bytes h).data = b.data ++ bytes := rfl

@[simp] theorem capacity_copy (bytes : Bytes) (h : bytes.length ≤ b.space) :
    (b.copy bytes h).capacity = b.capacity := rfl

theorem space_copy (bytes : Bytes) (h : bytes.length ≤ b.space) :
    (b.copy bytes h).space = b.space - bytes.length := by
  unfold space
  rw [data_copy, capacity_copy, length_append]
  omega

theorem space_of_data_nil (h : b.data = []) : b.space = b.capacity := by
  simp [space, h]

@[simp] theorem data_crunch (read : Nat) : (b.crunch read).data = b.data.drop read := rfl

@[simp] theorem capacity_crunch (read : Nat) : (b.crunch read).capacity = b.capacity := rfl

@[simp] theorem data_reset : b.reset.data = [] := rfl

@[simp] theorem capacity_reset : b.reset.capacity = b.capacity := rfl

end

end Block

structure WorldPacket where
  opcode : UInt16
  contents : Bytes

def WorldPacket.size (pct : WorldPacket) : Nat := pct.contents.length

-- A cipher changes the bytes of a header in place.
class Crypt (κ : Type) where
  encryptSend : κ → Bytes → κ × Bytes
  decryptRecv : κ → Bytes → κ × Bytes
  length_encryptSend : ∀ crypt data, (encryptSend crypt data).2.length = data.length
  length_decryptRecv : ∀ crypt data, (decryptRecv crypt data).2.length = data.length

structure AuthCrypt where
  key : Bytes
  sendI : UInt8
  sendJ : UInt8
  recvI : UInt8
  recvJ : UInt8
  initialized : Bool

namespace AuthCrypt

def CRYPTED_SEND_LEN : Nat := 4

def CRYPTED_RECV_LEN : Nat := 6

def new : AuthCrypt := ⟨[], 0, 0, 0, 0, false⟩

def init (c : AuthCrypt) : AuthCrypt :=
  { c with sendI := 0, sendJ := 0, recvI := 0, recvJ := 0, initialized := true }

def setKey (c : AuthCrypt) (key : Bytes) : AuthCrypt := { c with key := if key.isEmpty then [0] else key }

-- The loops over the bytes
def encryptBytes (c : AuthCrypt) : Bytes → AuthCrypt × Bytes
  | [] => (c, [])
  | byte :: rest =>
    let sendI := c.sendI.toNat % c.key.length
    let x := (byte ^^^ c.key.getD sendI 0) + c.sendJ
    let last := encryptBytes { c with sendI := UInt8.ofNat (sendI + 1), sendJ := x } rest
    (last.1, x :: last.2)

def decryptBytes (c : AuthCrypt) : Bytes → AuthCrypt × Bytes
  | [] => (c, [])
  | byte :: rest =>
    let recvI := c.recvI.toNat % c.key.length
    let x := (byte - c.recvJ) ^^^ c.key.getD recvI 0
    let last := decryptBytes { c with recvI := UInt8.ofNat (recvI + 1), recvJ := byte } rest
    (last.1, x :: last.2)

theorem length_encryptBytes (c : AuthCrypt) (data : Bytes) : (c.encryptBytes data).2.length = data.length := by
  induction data generalizing c with
  | nil => rfl
  | cons byte rest ih => simp only [encryptBytes, length_cons, ih]

theorem length_decryptBytes (c : AuthCrypt) (data : Bytes) : (c.decryptBytes data).2.length = data.length := by
  induction data generalizing c with
  | nil => rfl
  | cons byte rest ih => simp only [decryptBytes, length_cons, ih]

def encryptSend (c : AuthCrypt) (data : Bytes) : AuthCrypt × Bytes :=
  if !c.initialized then (c, data)
  else if data.length < CRYPTED_SEND_LEN then (c, data)
  else
    let crypted := c.encryptBytes (data.take CRYPTED_SEND_LEN)
    (crypted.1, crypted.2 ++ data.drop CRYPTED_SEND_LEN)

def decryptRecv (c : AuthCrypt) (data : Bytes) : AuthCrypt × Bytes :=
  if !c.initialized then (c, data)
  else if data.length < CRYPTED_RECV_LEN then (c, data)
  else
    let crypted := c.decryptBytes (data.take CRYPTED_RECV_LEN)
    (crypted.1, crypted.2 ++ data.drop CRYPTED_RECV_LEN)

theorem length_encryptSend (c : AuthCrypt) (data : Bytes) : (c.encryptSend data).2.length = data.length := by
  unfold encryptSend
  split_ifs with hinit hshort
  · rfl
  · rfl
  · simp only [length_append, length_encryptBytes, length_take, length_drop]
    omega

theorem length_decryptRecv (c : AuthCrypt) (data : Bytes) : (c.decryptRecv data).2.length = data.length := by
  unfold decryptRecv
  split_ifs with hinit hshort
  · rfl
  · rfl
  · simp only [length_append, length_decryptBytes, length_take, length_drop]
    omega

instance : Crypt AuthCrypt where
  encryptSend := encryptSend
  decryptRecv := decryptRecv
  length_encryptSend := length_encryptSend
  length_decryptRecv := length_decryptRecv

end AuthCrypt

end TurtleWow.Network
