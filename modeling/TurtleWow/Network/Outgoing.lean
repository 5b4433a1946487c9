import TurtleWow.Lib.Run
import TurtleWow.Network.Socket

namespace TurtleWow.Network

open Run List

-- The output side of a socket. Every step holds the lock of the output buffer.

structure Output (κ : Type) where
  crypt : κ
  outBuffer : Block
  packetQueue : List WorldPacket
  outActive : Bool

-- The header of a packet before it is encrypted: the size is big endian, the
-- opcode little endian.
def serverPktHeader (pct : WorldPacket) : Bytes :=
  let size := UInt16.ofNat pct.size + 2
  [(size >>> 8).toUInt8, size.toUInt8, pct.opcode.toUInt8, (pct.opcode >>> 8).toUInt8]

namespace Output

variable {κ : Type} [Crypt κ]

-- `none` stands for ENOBUFS. That the two copies have room for what they copy
-- is the assertion of the source.
def iSendPacket (s : Output κ) (pct : WorldPacket) : Option (Output κ) :=
  if h : s.outBuffer.space < pct.size + 4 then none
  else
    let header := Crypt.encryptSend s.crypt (serverPktHeader pct)
    have hheader : header.2.length = 4 := Crypt.length_encryptSend _ _
    let buffer := s.outBuffer.copy header.2 (by omega)
    have hspace : pct.contents.length ≤ buffer.space := by
      rw [Block.space_copy]
      unfold WorldPacket.size at h
      omega
    some { s with crypt := header.1, outBuffer := buffer.copy pct.contents hspace }

def flush (s : Output κ) (haveone : Bool) : List WorldPacket → Bool × Output κ
  | [] => (haveone, { s with packetQueue := [] })
  | pct :: queue =>
    match s.iSendPacket pct with
    | none => (haveone, { s with packetQueue := pct :: queue })
    | some sent => sent.flush true queue

def iFlushPacketQueue (s : Output κ) : Bool × Output κ := s.flush false s.packetQueue

def sendPacket (s : Output κ) (pct : WorldPacket) : Output κ :=
  match s.iSendPacket pct with
  | none => { s with packetQueue := s.packetQueue ++ [pct] }
  | some sent => sent

def cancelWakeupOutput (s : Output κ) : Output κ := { s with outActive := false }

def scheduleWakeupOutput (s : Output κ) : Output κ := { s with outActive := true }

-- The kernel takes `accepted` bytes, or none when that is zero: the call would
-- block. The bytes it takes come first in the result.
def handleOutput (s : Output κ) (accepted : Nat) : Bytes × Output κ :=
  let sendLen := s.outBuffer.data.length
  if sendLen = 0 then ([], s.cancelWakeupOutput)
  else if accepted = 0 then ([], s.scheduleWakeupOutput)
  else if accepted < sendLen then
    (s.outBuffer.data.take accepted,
      scheduleWakeupOutput { s with outBuffer := s.outBuffer.crunch accepted })
  else
    let flushed := iFlushPacketQueue { s with outBuffer := s.outBuffer.reset }
    (s.outBuffer.data,
      if !flushed.1 then flushed.2.cancelWakeupOutput else flushed.2.scheduleWakeupOutput)

end Output

-- What is on the wire when packets are sent one after the other: the header
-- and the payload of each.
def frameHeader (pct : WorldPacket) : Bytes :=
  [UInt8.ofNat ((pct.size + 2) / 256), UInt8.ofNat ((pct.size + 2) % 256),
    UInt8.ofNat (pct.opcode.toNat % 256), UInt8.ofNat (pct.opcode.toNat / 256)]

section

variable {κ : Type} [Crypt κ]

def wire (crypt : κ) : List WorldPacket → Bytes
  | [] => []
  | pct :: rest =>
    let header := Crypt.encryptSend crypt (frameHeader pct)
    header.2 ++ pct.contents ++ wire header.1 rest

def cryptAfter (crypt : κ) : List WorldPacket → κ
  | [] => crypt
  | pct :: rest => cryptAfter (Crypt.encryptSend crypt (frameHeader pct)).1 rest

theorem wire_append (crypt : κ) (first second : List WorldPacket) :
    wire crypt (first ++ second) = wire crypt first ++ wire (cryptAfter crypt first) second := by
  induction first generalizing crypt with
  | nil => rfl
  | cons pct rest ih => simp only [cons_append, wire, cryptAfter, ih, append_assoc]

theorem cryptAfter_append (crypt : κ) (first second : List WorldPacket) :
    cryptAfter crypt (first ++ second) = cryptAfter (cryptAfter crypt first) second := by
  induction first generalizing crypt with
  | nil => rfl
  | cons pct rest ih => exact ih _

end

private theorem high_byte (x : UInt16) : (x >>> 8).toUInt8 = UInt8.ofNat (x.toNat / 256) := by
  apply UInt8.toNat_inj.mp
  simp [Nat.shiftRight_eq_div_pow]

private theorem low_byte (x : UInt16) : x.toUInt8 = UInt8.ofNat (x.toNat % 256) := by
  apply UInt8.toNat_inj.mp
  simp

theorem serverPktHeader_eq {pct : WorldPacket} (h : pct.size ≤ 0x8000) :
    serverPktHeader pct = frameHeader pct := by
  have hsize : (UInt16.ofNat pct.size + 2).toNat = pct.size + 2 := by
    rw [UInt16.toNat_add, UInt16.toNat_ofNat', show UInt16.toNat 2 = 2 from rfl]
    omega
  simp only [serverPktHeader, frameHeader]
  rw [high_byte, high_byte, low_byte, low_byte, hsize]

namespace Output

variable {κ : Type} [Crypt κ] {s sent : Output κ} {pct : WorldPacket}

theorem iSendPacket_some (hsize : pct.size ≤ 0x8000) (h : s.iSendPacket pct = some sent) :
    sent.crypt = cryptAfter s.crypt [pct] ∧ sent.outBuffer.data = s.outBuffer.data ++ wire s.crypt [pct] ∧
      sent.outBuffer.capacity = s.outBuffer.capacity ∧ sent.packetQueue = s.packetQueue := by
  unfold iSendPacket at h
  split at h
  · cases h
  · obtain rfl := (Option.some.inj h).symm
    simp only [wire, cryptAfter, serverPktHeader_eq hsize, Block.data_copy, Block.capacity_copy,
      append_assoc, append_nil, and_self]

theorem iSendPacket_eq_none : s.iSendPacket pct = none ↔ s.outBuffer.space < pct.size + 4 := by
  unfold iSendPacket
  split
  · next h => simp only [h]
  · next h => simp only [h, reduceCtorEq]

theorem exists_iSendPacket (s : Output κ) (pct : WorldPacket) (h : pct.size + 4 ≤ s.outBuffer.space) :
    ∃ sent, s.iSendPacket pct = some sent := by
  refine Option.ne_none_iff_exists'.mp fun hnone => ?_
  have hspace := iSendPacket_eq_none.mp hnone
  omega

-- The bytes handed to the kernel and those of the buffer are those of the
-- packets written so far, and the cipher has been advanced by their headers.
structure Written (start : κ) (written : List WorldPacket) (kernel : Bytes) (s : Output κ) : Prop where
  crypt : s.crypt = cryptAfter start written
  bytes : kernel ++ s.outBuffer.data = wire start written

theorem Written.iSendPacket {start : κ} {written : List WorldPacket} {kernel : Bytes}
    (h : Written start written kernel s) (hsize : pct.size ≤ 0x8000) (hsent : s.iSendPacket pct = some sent) :
    Written start (written ++ [pct]) kernel sent := by
  obtain ⟨hcrypt, hdata, -, -⟩ := iSendPacket_some hsize hsent
  constructor
  · rw [hcrypt, h.crypt, cryptAfter_append]
  · rw [hdata, ← append_assoc, h.bytes, h.crypt, wire_append]

section

variable (queue : List WorldPacket)

include queue

theorem Written.flush {start : κ} {kernel : Bytes} :
    ∀ (s : Output κ) (haveone : Bool) (written : List WorldPacket), Written start written kernel s →
      (∀ pct ∈ queue, pct.size ≤ 0x8000) →
      ∃ more, written ++ queue = more ++ (s.flush haveone queue).2.packetQueue ∧
        Written start more kernel (s.flush haveone queue).2 := by
  induction queue with
  | nil => exact fun s haveone written h _ => ⟨written, rfl, h.crypt, h.bytes⟩
  | cons pct queue ih =>
    intro s haveone written h hsizes
    obtain ⟨hsize, hrest⟩ := forall_mem_cons.mp hsizes
    rw [Output.flush]
    split
    · exact ⟨written, rfl, h.crypt, h.bytes⟩
    · next sent hsent =>
        obtain ⟨more, hmore, hwritten⟩ := ih sent true (written ++ [pct]) (h.iSendPacket hsize hsent) hrest
        exact ⟨more, by rw [← hmore, append_assoc, singleton_append], hwritten⟩

theorem capacity_flush : ∀ (s : Output κ) (haveone : Bool),
    (∀ pct ∈ queue, pct.size ≤ 0x8000) →
      (s.flush haveone queue).2.outBuffer.capacity = s.outBuffer.capacity := by
  induction queue with
  | nil => exact fun s haveone _ => rfl
  | cons pct queue ih =>
    intro s haveone hsizes
    obtain ⟨hsize, hrest⟩ := forall_mem_cons.mp hsizes
    rw [flush]
    split
    · rfl
    · next sent hsent =>
        obtain ⟨-, -, hcapacity, -⟩ := iSendPacket_some hsize hsent
        exact (ih sent true hrest).trans hcapacity

theorem suffix_flush : ∀ (s : Output κ) (haveone : Bool),
    (s.flush haveone queue).2.packetQueue <:+ queue := by
  induction queue with
  | nil => exact fun s haveone => suffix_refl _
  | cons pct queue ih =>
    intro s haveone
    rw [flush]
    split
    · exact suffix_refl _
    · next sent hsent => exact (ih sent true).trans (suffix_cons pct queue)

theorem length_flush : ∀ (s : Output κ) (haveone : Bool),
    (∀ pct ∈ queue, pct.size ≤ 0x8000) →
      s.outBuffer.data.length ≤ (s.flush haveone queue).2.outBuffer.data.length := by
  induction queue with
  | nil => exact fun s haveone _ => Nat.le_refl _
  | cons pct queue ih =>
    intro s haveone hsizes
    obtain ⟨hsize, hrest⟩ := forall_mem_cons.mp hsizes
    rw [flush]
    split
    · exact Nat.le_refl _
    · next sent hsent =>
        obtain ⟨-, hdata, -, -⟩ := iSendPacket_some hsize hsent
        have hgrow := ih sent true hrest
        rw [hdata, length_append] at hgrow
        omega

-- The head of the queue fits an empty buffer, so a flushed queue is empty or
-- leaves bytes in the buffer.
theorem drained_flush (s : Output κ) (haveone : Bool)
    (hempty : s.outBuffer.data = []) (hcapacity : 0x8000 + 4 ≤ s.outBuffer.capacity)
    (hsizes : ∀ pct ∈ queue, pct.size ≤ 0x8000)
    (h : (s.flush haveone queue).2.outBuffer.data = []) : (s.flush haveone queue).2.packetQueue = [] := by
  cases queue with
  | nil => rfl
  | cons pct queue =>
    obtain ⟨hsize, hrest⟩ := forall_mem_cons.mp hsizes
    rw [flush] at h ⊢
    split at h
    · next hnone =>
        have hspace := iSendPacket_eq_none.mp hnone
        rw [s.outBuffer.space_of_data_nil hempty] at hspace
        omega
    · next sent hsent =>
        obtain ⟨-, hdata, -, -⟩ := iSendPacket_some hsize hsent
        have hgrow := length_flush queue sent true hrest
        rw [h, hdata, length_append] at hgrow
        have hheader := Crypt.length_encryptSend s.crypt (frameHeader pct)
        have hwire : (wire s.crypt [pct]).length = 4 + pct.size := by
          simp only [wire, length_append, hheader, WorldPacket.size]
          rfl
        simp only [length_nil] at hgrow
        omega

end

end Output

end TurtleWow.Network
