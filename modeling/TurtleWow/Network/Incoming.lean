import Mathlib.Tactic.SplitIfs
import TurtleWow.Network.Socket

namespace TurtleWow.Network

open List

-- The input side of a socket: a header is filled, then the payload it
-- announces, and the packet is handed to `ProcessIncoming`.

section

variable (b : Block)

def Block.toCopy (bytes : Bytes) : Nat := if bytes.length > b.space then b.space else bytes.length

theorem Block.toCopy_eq_min (bytes : Bytes) : b.toCopy bytes = min b.space bytes.length := by
  unfold toCopy
  split_ifs <;> omega

def Block.fill (bytes : Bytes) : Block × Bytes :=
  have hroom : (bytes.take (b.toCopy bytes)).length ≤ b.space := by
    rw [length_take, toCopy_eq_min]
    omega
  (b.copy (bytes.take (b.toCopy bytes)) hroom, bytes.drop (b.toCopy bytes))

theorem Block.data_fill (bytes : Bytes) : (b.fill bytes).1.data = b.data ++ bytes.take b.space := by
  rw [fill, data_copy, toCopy_eq_min, ← take_eq_take_min]

theorem Block.rest_fill (bytes : Bytes) : (b.fill bytes).2 = bytes.drop b.space := by
  show bytes.drop (b.toCopy bytes) = bytes.drop b.space
  rw [toCopy_eq_min, ← drop_eq_drop_min]

@[simp] theorem Block.capacity_fill (bytes : Bytes) : (b.fill bytes).1.capacity = b.capacity := rfl

theorem Block.space_fill (bytes : Bytes) : (b.fill bytes).1.space = b.space - bytes.length := by
  have hfill := (b.fill bytes).1.length_add_space
  have hspace := b.length_add_space
  rw [capacity_fill, data_fill, length_append, length_take] at hfill
  omega

end

-- The fields of a client header: the size is big endian, the opcode little endian.
def headerSize (header : Bytes) : Nat := (header.getD 0 0).toNat * 256 + (header.getD 1 0).toNat

def headerCmd (header : Bytes) : Nat :=
  (header.getD 2 0).toNat + (header.getD 3 0).toNat * 256 + (header.getD 4 0).toNat * 65536 +
    (header.getD 5 0).toNat * 16777216

def malformed (header : Bytes) : Bool :=
  decide (headerSize header < 4) || decide (headerSize header > 10240) || decide (headerCmd header > 10240)

-- What `ProcessIncoming` does with a packet depends on the cipher, which it
-- may start, and on whatever else the session and the server hold. It answers
-- whether the packet is accepted.
abbrev ProcessIncoming (κ σ : Type) := κ → σ → WorldPacket → Bool × κ × σ

structure Receiver (κ σ : Type) where
  crypt : κ
  state : σ
  processed : List WorldPacket

def Receiver.process {κ σ : Type} (processIncoming : ProcessIncoming κ σ) (r : Receiver κ σ) (pct : WorldPacket) :
    Bool × Receiver κ σ :=
  let answer := processIncoming r.crypt r.state pct
  (answer.1, { crypt := answer.2.1, state := answer.2.2, processed := r.processed ++ [pct] })

inductive Errno
  | EWOULDBLOCK
  | EAGAIN
  | EINVAL

def Errno.blocks : Errno → Bool
  | .EWOULDBLOCK => true
  | .EAGAIN => true
  | .EINVAL => false

-- `assertion` is a failed MANGOS_ASSERT.
inductive Result (α : Type)
  | ok (a : α)
  | error (errno : Errno) (a : α)
  | assertion

-- The assertion on errno behind a call that failed
def Result.checked {α : Type} : Result α → Result α
  | .ok a => .ok a
  | .error errno a => if errno.blocks then .assertion else .error errno a
  | .assertion => .assertion

theorem Result.checked_eq_ok {α : Type} {r : Result α} {a : α} : r.checked = .ok a ↔ r = .ok a := by
  cases r with
  | ok b => rfl
  | error errno b => cases errno <;> simp [checked, Errno.blocks]
  | assertion => rfl

-- A packet that is being received is known by its opcode and size. Its contents
-- are the bytes of `recvPct`, which stays empty when the size is zero.
structure Input (κ σ : Type) where
  receiver : Receiver κ σ
  header : Block
  recvWPct : Option (UInt16 × Nat)
  recvPct : Block

namespace Input

variable {κ σ : Type} [Crypt κ]

def new (receiver : Receiver κ σ) : Input κ σ := ⟨receiver, Block.ofCapacity 6, none, Block.ofCapacity 0⟩

def handleInputHeader (s : Input κ σ) : Result (Input κ σ) :=
  if s.recvWPct.isSome then .assertion
  else if s.header.data.length ≠ 6 then .assertion
  else
    let header := Crypt.decryptRecv s.receiver.crypt s.header.data
    let s := { s with receiver := { s.receiver with crypt := header.1 } }
    if malformed header.2 then .error .EINVAL s
    else
      let size := headerSize header.2 - 4
      let s := { s with recvWPct := some (UInt16.ofNat (headerCmd header.2), size) }
      if size > 0 then .ok { s with recvPct := Block.ofCapacity size }
      else if s.recvPct.space ≠ 0 then .assertion
      else .ok s

def contents (s : Input κ σ) (size : Nat) : Bytes := if size > 0 then s.recvPct.data else []

section

variable (processIncoming : ProcessIncoming κ σ)

section

variable (s : Input κ σ)

def handleInputPayload : Result (Input κ σ) :=
  if s.recvPct.space ≠ 0 then .assertion
  else if s.header.space ≠ 0 then .assertion
  else
    match s.recvWPct with
    | none => .assertion
    | some (opcode, size) =>
      let answer := s.receiver.process processIncoming ⟨opcode, s.contents size⟩
      let s :=
        { receiver := answer.2, header := s.header.reset, recvWPct := none, recvPct := Block.ofCapacity 0 }
      if answer.1 then .ok s else .error .EINVAL s

def receiveHeader (bytes : Bytes) : Result (Input κ σ) × Bytes :=
  if s.header.space > 0 then
    let filled := s.header.fill bytes
    let s := { s with header := filled.1 }
    if s.header.space > 0 then
      (if filled.2.length ≠ 0 then .assertion else .error .EWOULDBLOCK s, filled.2)
    else (s.handleInputHeader.checked, filled.2)
  else (.ok s, bytes)

def receivePayload (bytes : Bytes) : Result (Input κ σ) × Bytes :=
  if s.recvWPct.isNone then (.error .EINVAL s, bytes)
  else if s.recvPct.space > 0 then
    let filled := s.recvPct.fill bytes
    let s := { s with recvPct := filled.1 }
    if s.recvPct.space > 0 then
      (if filled.2.length ≠ 0 then .assertion else .error .EWOULDBLOCK s, filled.2)
    else ((s.handleInputPayload processIncoming).checked, filled.2)
  else ((s.handleInputPayload processIncoming).checked, bytes)

def receive (bytes : Bytes) : Result (Input κ σ) × Bytes :=
  match s.receiveHeader bytes with
  | (.ok s, rest) => s.receivePayload processIncoming rest
  | failed => failed

end

end

omit [Crypt κ] in
theorem handleInputPayload_ok {processIncoming : ProcessIncoming κ σ} {s after : Input κ σ}
    (h : s.handleInputPayload processIncoming = .ok after) : after.recvWPct = none := by
  unfold handleInputPayload at h
  split at h
  · cases h
  split at h
  · cases h
  split at h
  · cases h
  · dsimp only at h
    split at h
    · cases h
      rfl
    · cases h

variable {bytes rest : Bytes}

theorem receiveHeader_ok {s after : Input κ σ} (hbytes : bytes ≠ [])
    (h : s.receiveHeader bytes = (.ok after, rest)) : rest.length < bytes.length ∨ rest = bytes ∧ after = s := by
  unfold receiveHeader at h
  split at h
  · next hspace =>
      have hlength := length_pos_iff.mpr hbytes
      have hrest : rest = bytes.drop s.header.space := by
        rw [← Block.rest_fill]
        dsimp only at h
        split at h <;> exact (Prod.mk.inj h).2.symm
      refine .inl ?_
      rw [hrest, length_drop]
      omega
  · cases h
    exact .inr ⟨rfl, rfl⟩

omit [Crypt κ] in
theorem receivePayload_ok {processIncoming : ProcessIncoming κ σ} {s after : Input κ σ}
    (h : s.receivePayload processIncoming bytes = (.ok after, rest)) :
    rest.length ≤ bytes.length ∧ s.recvWPct.isSome ∧ after.recvWPct = none := by
  unfold receivePayload at h
  split at h
  · cases h
  next hsome =>
    rw [Option.isNone_iff_eq_none, ← ne_eq, Option.ne_none_iff_isSome] at hsome
    split at h
    · dsimp only at h
      split at h
      · split at h <;> cases h
      · obtain ⟨hchecked, hrest⟩ := Prod.mk.inj h
        rw [← hrest, Block.rest_fill, length_drop]
        exact ⟨Nat.sub_le _ _, hsome, handleInputPayload_ok (Result.checked_eq_ok.mp hchecked)⟩
    · obtain ⟨hchecked, hrest⟩ := Prod.mk.inj h
      exact ⟨hrest ▸ Nat.le_refl _, hsome, handleInputPayload_ok (Result.checked_eq_ok.mp hchecked)⟩

-- A turn of the loop reads at least one byte, or it hands over a packet whose
-- bytes were all there.
theorem receive_ok {processIncoming : ProcessIncoming κ σ} {s after : Input κ σ}
    (hbytes : bytes ≠ []) (h : s.receive processIncoming bytes = (.ok after, rest)) :
    2 * rest.length + (if after.recvWPct.isSome then 1 else 0) <
      2 * bytes.length + (if s.recvWPct.isSome then 1 else 0) := by
  unfold receive at h
  split at h
  · next between left hheader =>
      obtain ⟨hrest, hsome, hnone⟩ := receivePayload_ok h
      rw [hnone]
      rcases receiveHeader_ok hbytes hheader with hless | ⟨rfl, rfl⟩
      · simp only [Option.isSome_none, Bool.false_eq_true, if_false]
        omega
      · rw [hsome]
        simp only [Option.isSome_none, Bool.false_eq_true, if_false, if_true]
        omega
  · next hfailed => exact absurd h (hfailed _ _)

def receiveAll (processIncoming : ProcessIncoming κ σ) (s : Input κ σ) (bytes : Bytes) : Result (Input κ σ) :=
  if hbytes : bytes = [] then .ok s
  else
    match h : s.receive processIncoming bytes with
    | (.ok after, rest) =>
      have := receive_ok hbytes h
      receiveAll processIncoming after rest
    | (failed, _) => failed
termination_by 2 * bytes.length + (if s.recvWPct.isSome then 1 else 0)

theorem receiveAll_nil (processIncoming : ProcessIncoming κ σ) (s : Input κ σ) :
    s.receiveAll processIncoming [] = .ok s := by
  rw [receiveAll, dif_pos rfl]

theorem receiveAll_ok {processIncoming : ProcessIncoming κ σ} {s after : Input κ σ}
    (hbytes : bytes ≠ []) (h : s.receive processIncoming bytes = (.ok after, rest)) :
    s.receiveAll processIncoming bytes = after.receiveAll processIncoming rest := by
  rw [receiveAll, dif_neg hbytes]
  split
  · next next left hturn =>
      cases h.symm.trans hturn
      rfl
  · next failed left hfailed hturn => exact absurd (h.symm.trans hturn) (by grind)

theorem receiveAll_failed {processIncoming : ProcessIncoming κ σ} {s : Input κ σ}
    {failed : Result (Input κ σ)} (hbytes : bytes ≠ []) (h : s.receive processIncoming bytes = (failed, rest))
    (hfailed : ∀ after, failed ≠ .ok after) : s.receiveAll processIncoming bytes = failed := by
  rw [receiveAll, dif_neg hbytes]
  split
  · next after left hturn =>
      cases h.symm.trans hturn
      exact absurd rfl (hfailed after)
  · next other left hother hturn =>
      cases h.symm.trans hturn
      rfl

end Input

-- A socket that reads what its peer sends. `closing` is set by `handle_close`
-- when a call fails, and `aborted` by a failed assertion.
structure Peer (κ σ : Type) where
  input : Input κ σ
  closing : Bool
  aborted : Bool

namespace Peer

variable {κ σ : Type} [Crypt κ]

def opened (crypt : κ) (state : σ) : Peer κ σ := ⟨Input.new ⟨crypt, state, []⟩, false, false⟩

-- No bytes are read when the peer has closed the connection.
def handleInput (processIncoming : ProcessIncoming κ σ) (p : Peer κ σ) (chunk : Bytes) : Peer κ σ :=
  if p.closing then p
  else if chunk = [] then { p with closing := true }
  else
    match p.input.receiveAll processIncoming chunk with
    | .ok s => { p with input := s }
    | .error errno s => if errno.blocks then { p with input := s } else { p with input := s, closing := true }
    | .assertion => { p with closing := true, aborted := true }

end Peer

end TurtleWow.Network
