import TurtleWow.Lib.Run
import TurtleWow.Network.Incoming

namespace TurtleWow.Network

open List

-- The frames of a whole stream, whatever the chunks it arrives in. Where the
-- parse stands at the end is part of its result.

inductive Pending
  | header (bytes : Bytes)
  | payload (opcode : UInt16) (size : Nat) (bytes : Bytes)
  | stopped

structure Framing (κ σ : Type) where
  receiver : Receiver κ σ
  pending : Pending

namespace Framing

variable {κ σ : Type} [Crypt κ] (processIncoming : ProcessIncoming κ σ)

def parsePayload (parse : Receiver κ σ → (rest : Bytes) → Framing κ σ) (r : Receiver κ σ) (opcode : UInt16)
    (size : Nat) (stream : Bytes) : Framing κ σ :=
  if stream.length < size then ⟨r, .payload opcode size stream⟩
  else
    let answer := r.process processIncoming ⟨opcode, stream.take size⟩
    if answer.1 then parse answer.2 (stream.drop size) else ⟨answer.2, .stopped⟩

def parse (r : Receiver κ σ) (stream : Bytes) : Framing κ σ :=
  if hheader : stream.length < 6 then ⟨r, .header stream⟩
  else
    let header := Crypt.decryptRecv r.crypt (stream.take 6)
    let r := { r with crypt := header.1 }
    if malformed header.2 then ⟨r, .stopped⟩
    else
      let size := headerSize header.2 - 4
      let payload := stream.drop 6
      if payload.length < size then ⟨r, .payload (UInt16.ofNat (headerCmd header.2)) size payload⟩
      else
        let answer := r.process processIncoming ⟨UInt16.ofNat (headerCmd header.2), payload.take size⟩
        if answer.1 then parse answer.2 (payload.drop size) else ⟨answer.2, .stopped⟩
termination_by stream.length
decreasing_by
  simp only [length_drop]
  omega

variable {processIncoming}

variable {r : Receiver κ σ}

theorem parse_short {stream : Bytes} (h : stream.length < 6) :
    parse processIncoming r stream = ⟨r, .header stream⟩ := by
  rw [parse, dif_pos h]

theorem parse_malformed {stream : Bytes} (hlength : ¬stream.length < 6)
    (h : malformed (Crypt.decryptRecv r.crypt (stream.take 6)).2 = true) :
    parse processIncoming r stream =
      ⟨{ r with crypt := (Crypt.decryptRecv r.crypt (stream.take 6)).1 }, .stopped⟩ := by
  rw [parse, dif_neg hlength]
  exact if_pos h

theorem parse_payload {stream : Bytes} (hlength : ¬stream.length < 6)
    (h : ¬malformed (Crypt.decryptRecv r.crypt (stream.take 6)).2 = true) :
    parse processIncoming r stream =
      parsePayload processIncoming (parse processIncoming)
        { r with crypt := (Crypt.decryptRecv r.crypt (stream.take 6)).1 }
        (UInt16.ofNat (headerCmd (Crypt.decryptRecv r.crypt (stream.take 6)).2))
        (headerSize (Crypt.decryptRecv r.crypt (stream.take 6)).2 - 4) (stream.drop 6) := by
  rw [parse, dif_neg hlength]
  exact if_neg h

variable (processIncoming) in
def resume (f : Framing κ σ) (stream : Bytes) : Framing κ σ :=
  match f.pending with
  | .header bytes => parse processIncoming f.receiver (bytes ++ stream)
  | .payload opcode size bytes =>
    parsePayload processIncoming (parse processIncoming) f.receiver opcode size (bytes ++ stream)
  | .stopped => f

theorem parsePayload_append {opcode : UInt16} {size : Nat} {first second : Bytes}
    (hparse : ∀ r, parse processIncoming r (first.drop size ++ second) =
      resume processIncoming (parse processIncoming r (first.drop size)) second) :
    parsePayload processIncoming (parse processIncoming) r opcode size (first ++ second) =
      resume processIncoming (parsePayload processIncoming (parse processIncoming) r opcode size first) second := by
  by_cases hshort : first.length < size
  · have hpending : parsePayload processIncoming (parse processIncoming) r opcode size first =
        ⟨r, .payload opcode size first⟩ := if_pos hshort
    rw [hpending, resume]
  · have hle : size ≤ first.length := Nat.le_of_not_lt hshort
    have hlong : ¬(first ++ second).length < size := by
      rw [length_append]
      omega
    rw [parsePayload, parsePayload, if_neg hshort, if_neg hlong, take_append_of_le_length hle,
      drop_append_of_le_length hle]
    dsimp only
    split_ifs with haccept
    · exact hparse _
    · rfl

theorem parse_append (r : Receiver κ σ) (first second : Bytes) :
    parse processIncoming r (first ++ second) =
      resume processIncoming (parse processIncoming r first) second := by
  induction hn : first.length using Nat.strongRecOn generalizing r first with
  | ind n ih =>
    by_cases hshort : first.length < 6
    · rw [parse_short hshort, resume]
    have hle : 6 ≤ first.length := Nat.le_of_not_lt hshort
    have hlong : ¬(first ++ second).length < 6 := by
      rw [length_append]
      omega
    have htake : (first ++ second).take 6 = first.take 6 := take_append_of_le_length hle
    by_cases hmalformed : malformed (Crypt.decryptRecv r.crypt (first.take 6)).2 = true
    · rw [parse_malformed hlong (by rw [htake]; exact hmalformed), parse_malformed hshort hmalformed, htake,
        resume]
    · rw [parse_payload hlong (by rw [htake]; exact hmalformed), parse_payload hshort hmalformed, htake,
        drop_append_of_le_length hle]
      refine parsePayload_append fun r => ih _ ?_ r _ rfl
      simp only [length_drop]
      omega

end Framing

-- The chunks of a stream, received one after the other, give the frames of
-- the stream.

variable {κ σ : Type} [Crypt κ] {processIncoming : ProcessIncoming κ σ}

open Framing

namespace Input

variable {s : Input κ σ} {opcode : UInt16} {size : Nat} {bytes : Bytes}

def framing (s : Input κ σ) : Framing κ σ :=
  match s.recvWPct with
  | none => ⟨s.receiver, .header s.header.data⟩
  | some (opcode, size) => ⟨s.receiver, .payload opcode size s.recvPct.data⟩

-- A header is being filled, and the payload's block is unset.
structure AtHeader (s : Input κ σ) : Prop where
  capacity : s.header.capacity = 6
  short : s.header.data.length < 6
  recvWPct : s.recvWPct = none
  recvPct : s.recvPct = Block.ofCapacity 0

-- The header is full, and the payload's block has the size of the payload.
structure AtPayload (s : Input κ σ) (opcode : UInt16) (size : Nat) : Prop where
  capacity : s.header.capacity = 6
  full : s.header.data.length = 6
  recvWPct : s.recvWPct = some (opcode, size)
  recvPct : s.recvPct.capacity = size

def Between (s : Input κ σ) : Prop :=
  s.AtHeader ∨ ∃ opcode size, s.AtPayload opcode size ∧ s.recvPct.data.length < size

-- What a call leaves: a failure that closes the connection is where the parse stops.
def Reaches (f : Framing κ σ) : Result (Input κ σ) → Prop
  | .ok s => s.Between ∧ s.framing = f
  | .error errno s => if errno.blocks then s.Between ∧ s.framing = f else f = ⟨s.receiver, .stopped⟩
  | .assertion => False

-- What a turn of the loop leaves, with the bytes that are still to be read
def Turned (processIncoming : ProcessIncoming κ σ) (f : Framing κ σ) : Result (Input κ σ) × Bytes → Prop
  | (.ok s, rest) => s.Between ∧ resume processIncoming s.framing rest = f
  | (failed, _) => Reaches f failed

omit [Crypt κ] in
theorem AtHeader.framing (h : s.AtHeader) : s.framing = ⟨s.receiver, .header s.header.data⟩ := by
  rw [Input.framing, h.recvWPct]

omit [Crypt κ] in
theorem AtPayload.framing (h : s.AtPayload opcode size) :
    s.framing = ⟨s.receiver, .payload opcode size s.recvPct.data⟩ := by
  rw [Input.framing, h.recvWPct]

omit [Crypt κ] in
theorem AtPayload.handleInputPayload (h : s.AtPayload opcode size) (hfull : s.recvPct.data.length = size) :
    let answer := s.receiver.process processIncoming ⟨opcode, s.recvPct.data⟩
    let next : Input κ σ := ⟨answer.2, Block.ofCapacity 6, none, Block.ofCapacity 0⟩
    s.handleInputPayload processIncoming = if answer.1 then .ok next else .error .EINVAL next := by
  have hspace : s.recvPct.space = 0 := by rw [Block.space, h.recvPct, hfull, Nat.sub_self]
  have hheader : s.header.space = 0 := by rw [Block.space, h.capacity, h.full]
  have hcontents : s.contents size = s.recvPct.data := by
    unfold contents
    split_ifs with hsize
    · rfl
    · exact (length_eq_zero_iff.mp (by omega)).symm
  have hreset : s.header.reset = Block.ofCapacity 6 := congrArg Block.ofCapacity h.capacity
  rw [Input.handleInputPayload, if_neg (not_not.mpr hspace), if_neg (not_not.mpr hheader), h.recvWPct]
  dsimp only
  rw [hcontents, hreset]

theorem AtPayload.complete (h : s.AtPayload opcode size) (hfull : s.recvPct.data.length = size) (rest : Bytes) :
    Turned processIncoming
      (parsePayload processIncoming (parse processIncoming) s.receiver opcode size (s.recvPct.data ++ rest))
      ((s.handleInputPayload processIncoming).checked, rest) := by
  have hlong : ¬(s.recvPct.data ++ rest).length < size := by
    rw [length_append]
    omega
  have hparse : parsePayload processIncoming (parse processIncoming) s.receiver opcode size
      (s.recvPct.data ++ rest) =
        let answer := s.receiver.process processIncoming ⟨opcode, s.recvPct.data⟩
        if answer.1 then parse processIncoming answer.2 rest else ⟨answer.2, .stopped⟩ := by
    rw [parsePayload, if_neg hlong, take_left' hfull, drop_left' hfull]
  rw [hparse, h.handleInputPayload hfull]
  dsimp only
  split_ifs with haccept
  · exact ⟨.inl ⟨rfl, Nat.zero_lt_succ 5, rfl, rfl⟩, rfl⟩
  · exact rfl

theorem AtPayload.receivePayload (h : s.AtPayload opcode size) (hle : s.recvPct.data.length ≤ size) (bytes : Bytes) :
    Turned processIncoming
      (parsePayload processIncoming (parse processIncoming) s.receiver opcode size (s.recvPct.data ++ bytes))
      (s.receivePayload processIncoming bytes) := by
  have hspace := s.recvPct.length_add_space
  rw [h.recvPct] at hspace
  have hfilled := s.recvPct.space_fill bytes
  rw [Input.receivePayload, if_neg (by rw [h.recvWPct]; exact Bool.false_ne_true)]
  dsimp only
  split_ifs with hroom hmore hleft
  · rw [Block.rest_fill, length_drop] at hleft
    omega
  · have hshort : s.recvPct.data.length + bytes.length < size := by omega
    have hdata : (s.recvPct.fill bytes).1.data = s.recvPct.data ++ bytes := by
      rw [Block.data_fill, take_of_length_le (by omega)]
    have hafter : AtPayload { s with recvPct := (s.recvPct.fill bytes).1 } opcode size :=
      ⟨h.capacity, h.full, h.recvWPct, h.recvPct⟩
    have hlength : (s.recvPct.data ++ bytes).length < size := by
      rw [length_append]
      exact hshort
    refine ⟨.inr ⟨opcode, size, hafter, by rw [hdata]; exact hlength⟩, ?_⟩
    rw [hafter.framing, hdata, parsePayload, if_pos hlength]
  · have hdata := s.recvPct.data_fill bytes
    have hafter : AtPayload { s with recvPct := (s.recvPct.fill bytes).1 } opcode size :=
      ⟨h.capacity, h.full, h.recvWPct, h.recvPct⟩
    have hfull : (s.recvPct.fill bytes).1.data.length = size := by
      rw [hdata, length_append, length_take]
      omega
    have hcomplete : Turned processIncoming _ _ := hafter.complete hfull (s.recvPct.fill bytes).2
    rw [hdata, Block.rest_fill, append_assoc, take_append_drop, ← Block.rest_fill] at hcomplete
    exact hcomplete
  · exact h.complete (by omega) bytes

private def decrypted (s : Input κ σ) : Receiver κ σ :=
  { s.receiver with crypt := (Crypt.decryptRecv s.receiver.crypt s.header.data).1 }

theorem handleInputHeader_malformed (hfull : s.header.data.length = 6) (hnone : s.recvWPct = none)
    (hmalformed : malformed (Crypt.decryptRecv s.receiver.crypt s.header.data).2 = true) :
    s.handleInputHeader = .error .EINVAL { s with receiver := s.decrypted } := by
  rw [handleInputHeader, if_neg (by rw [hnone]; exact Bool.false_ne_true), if_neg (not_not.mpr hfull)]
  exact if_pos hmalformed

theorem handleInputHeader_accepted (hcapacity : s.header.capacity = 6) (hfull : s.header.data.length = 6)
    (hnone : s.recvWPct = none) (hunset : s.recvPct = Block.ofCapacity 0)
    (hmalformed : ¬malformed (Crypt.decryptRecv s.receiver.crypt s.header.data).2 = true) :
    ∃ after, s.handleInputHeader = .ok after ∧ after.receiver = s.decrypted ∧ after.recvPct.data = [] ∧
      after.AtPayload (UInt16.ofNat (headerCmd (Crypt.decryptRecv s.receiver.crypt s.header.data).2))
        (headerSize (Crypt.decryptRecv s.receiver.crypt s.header.data).2 - 4) := by
  rw [handleInputHeader, if_neg (by rw [hnone]; exact Bool.false_ne_true), if_neg (not_not.mpr hfull)]
  dsimp only
  rw [if_neg hmalformed]
  split_ifs with hsize hspace
  · exact ⟨_, rfl, rfl, rfl, hcapacity, hfull, rfl, rfl⟩
  · exact absurd (by rw [hunset]; rfl) hspace
  · refine ⟨_, rfl, rfl, by rw [hunset]; rfl, hcapacity, hfull, rfl, ?_⟩
    rw [hunset]
    exact (Nat.eq_zero_of_not_pos hsize).symm

theorem AtHeader.receive (h : s.AtHeader) (bytes : Bytes) :
    Turned processIncoming (parse processIncoming s.receiver (s.header.data ++ bytes))
      (s.receive processIncoming bytes) := by
  have hspace := s.header.length_add_space
  have hshort := h.short
  rw [h.capacity] at hspace
  have hfilled := s.header.space_fill bytes
  have hdata := s.header.data_fill bytes
  rw [Input.receive, receiveHeader, if_pos (by omega)]
  by_cases hmore : (s.header.fill bytes).1.space > 0
  · have hlength : (s.header.data ++ bytes).length < 6 := by
      rw [length_append]
      omega
    have hleft : ¬(s.header.fill bytes).2.length ≠ 0 := by
      rw [Block.rest_fill, length_drop]
      omega
    rw [take_of_length_le (by omega)] at hdata
    have hafter : AtHeader { s with header := (s.header.fill bytes).1 } :=
      ⟨h.capacity, hdata ▸ hlength, h.recvWPct, h.recvPct⟩
    rw [if_pos hmore, if_neg hleft]
    exact ⟨.inl hafter, by rw [hafter.framing, hdata, parse_short hlength]⟩
  · rw [if_neg hmore]
    have hfull : (s.header.fill bytes).1.data.length = 6 := by
      rw [hdata, length_append, length_take]
      omega
    have hsplit : s.header.data ++ bytes = (s.header.fill bytes).1.data ++ (s.header.fill bytes).2 := by
      rw [hdata, Block.rest_fill, append_assoc, take_append_drop]
    have hlong : ¬(s.header.data ++ bytes).length < 6 := by
      rw [hsplit, length_append]
      omega
    have htake : (s.header.data ++ bytes).take 6 = (s.header.fill bytes).1.data := by
      rw [hsplit, take_left' hfull]
    have hdrop : (s.header.data ++ bytes).drop 6 = (s.header.fill bytes).2 := by
      rw [hsplit, drop_left' hfull]
    by_cases hmalformed : malformed (Crypt.decryptRecv s.receiver.crypt (s.header.fill bytes).1.data).2 = true
    · rw [handleInputHeader_malformed (s := { s with header := (s.header.fill bytes).1 }) hfull h.recvWPct hmalformed,
        parse_malformed hlong (by rw [htake]; exact hmalformed), htake]
      exact rfl
    · obtain ⟨after, hafter, hreceiver, hnil, hat⟩ := handleInputHeader_accepted
        (s := { s with header := (s.header.fill bytes).1 }) h.capacity hfull h.recvWPct h.recvPct hmalformed
      rw [hafter, parse_payload hlong (by rw [htake]; exact hmalformed), htake, hdrop]
      have hpayload : Turned processIncoming _ _ := hat.receivePayload (by rw [hnil]; exact Nat.zero_le _)
        (s.header.fill bytes).2
      rw [hnil, hreceiver] at hpayload
      exact hpayload

theorem Between.receive (h : s.Between) (bytes : Bytes) :
    Turned processIncoming (resume processIncoming s.framing bytes) (s.receive processIncoming bytes) := by
  rcases h with hheader | ⟨opcode, size, hpayload, hless⟩
  · rw [hheader.framing]
    exact hheader.receive bytes
  · rw [hpayload.framing]
    have hfull : ¬s.header.space > 0 := by
      rw [Block.space, hpayload.capacity, hpayload.full]
      omega
    rw [Input.receive, receiveHeader, if_neg hfull]
    exact hpayload.receivePayload (Nat.le_of_lt hless) bytes

theorem Between.resume_nil (h : s.Between) : resume processIncoming s.framing [] = s.framing := by
  rcases h with hheader | ⟨opcode, size, hpayload, hless⟩
  · rw [hheader.framing]
    simp only [resume, append_nil]
    rw [parse_short hheader.short]
  · rw [hpayload.framing]
    simp only [resume, append_nil]
    rw [parsePayload, if_pos hless]

variable (processIncoming) in
-- The whole chunk: the turns go on until its bytes are read or one of them fails.
theorem Between.receiveAll (h : s.Between) (bytes : Bytes) :
    Reaches (resume processIncoming s.framing bytes) (s.receiveAll processIncoming bytes) := by
  induction s, bytes using receiveAll.induct processIncoming with
  | case1 s =>
    rw [receiveAll_nil, h.resume_nil]
    exact ⟨h, rfl⟩
  | case2 s bytes hbytes after rest hturn hless ih =>
    have hturned : Turned processIncoming _ _ := h.receive bytes
    rw [hturn] at hturned
    obtain ⟨hbetween, hresume⟩ := hturned
    rw [receiveAll_ok hbytes hturn, ← hresume]
    exact ih hbetween
  | case3 s bytes hbytes failed rest hfailed hturn =>
    have hturned : Turned processIncoming _ _ := h.receive bytes
    rw [hturn] at hturned
    rw [receiveAll_failed hbytes hturn hfailed]
    cases failed with
    | ok after => exact absurd rfl (hfailed after)
    | error errno after => exact hturned
    | assertion => exact hturned

end Input

namespace Peer

variable {p : Peer κ σ}

def framing (p : Peer κ σ) : Framing κ σ :=
  if p.closing then ⟨p.input.receiver, .stopped⟩ else p.input.framing

structure Follows (f : Framing κ σ) (p : Peer κ σ) : Prop where
  framing : p.framing = f
  between : p.closing = false → p.input.Between
  aborted : p.aborted = false

variable (processIncoming) in
theorem follows_opened (crypt : κ) (state : σ) :
    Follows (parse processIncoming ⟨crypt, state, []⟩ []) (opened crypt state) := by
  refine ⟨?_, fun _ => .inl ⟨rfl, Nat.zero_lt_succ 5, rfl, rfl⟩, rfl⟩
  have hshort : ([] : Bytes).length < 6 := Nat.zero_lt_succ 5
  rw [parse_short hshort]
  rfl

theorem Follows.handleInput {f : Framing κ σ} (h : Follows f p) {chunk : Bytes} (hchunk : chunk ≠ []) :
    Follows (resume processIncoming f chunk) (p.handleInput processIncoming chunk) := by
  rw [← h.framing, Peer.framing, Peer.handleInput]
  by_cases hclosing : p.closing = true
  · rw [if_pos hclosing, if_pos hclosing]
    exact ⟨if_pos hclosing, h.between, h.aborted⟩
  · rw [if_neg hclosing, if_neg hclosing, if_neg hchunk]
    have hopen := Bool.eq_false_iff.mpr hclosing
    have hreaches := (h.between hopen).receiveAll processIncoming chunk
    split
    · next s hs =>
        rw [hs] at hreaches
        exact ⟨(if_neg hclosing).trans hreaches.2, fun _ => hreaches.1, h.aborted⟩
    · next errno s hs =>
        rw [hs, Input.Reaches] at hreaches
        split_ifs at hreaches ⊢ with hblocks
        · exact ⟨(if_neg hclosing).trans hreaches.2, fun _ => hreaches.1, h.aborted⟩
        · exact ⟨hreaches.symm, fun hfalse => absurd hfalse.symm Bool.false_ne_true, h.aborted⟩
    · next hs =>
        rw [hs] at hreaches
        exact hreaches.elim

variable (processIncoming) in
theorem follows_run (chunks : List Bytes) : ∀ (p : Peer κ σ) (f : Framing κ σ), Follows f p →
    (∀ chunk ∈ chunks, chunk ≠ []) →
      Follows (chunks.foldl (resume processIncoming) f) (Run.run (handleInput processIncoming) p chunks) := by
  induction chunks with
  | nil => exact fun p f h _ => h
  | cons chunk rest ih =>
    intro p f h hchunks
    obtain ⟨hchunk, hrest⟩ := forall_mem_cons.mp hchunks
    exact ih _ _ (h.handleInput hchunk) hrest

theorem foldl_resume (chunks : List Bytes) (r : Receiver κ σ) (stream : Bytes) :
    chunks.foldl (resume processIncoming) (parse processIncoming r stream) =
      parse processIncoming r (stream ++ chunks.flatten) := by
  induction chunks generalizing stream with
  | nil => rw [flatten_nil, append_nil, foldl_nil]
  | cons chunk rest ih => rw [foldl_cons, ← parse_append, ih, flatten_cons, append_assoc]

-- However a stream is cut, the packets handed over and the bytes that are left
-- are those of the parse of the stream, and no assertion fails.
theorem incoming_segmentation (processIncoming : ProcessIncoming κ σ) (crypt : κ) (state : σ)
    (chunks : List Bytes) (hchunks : ∀ chunk ∈ chunks, 1 ≤ chunk.length ∧ chunk.length ≤ 4096) :
    (Run.run (handleInput processIncoming) (opened crypt state) chunks).framing =
        parse processIncoming ⟨crypt, state, []⟩ chunks.flatten ∧
      (Run.run (handleInput processIncoming) (opened crypt state) chunks).aborted = false := by
  have hnonempty : ∀ chunk ∈ chunks, chunk ≠ [] :=
    fun chunk hchunk => List.ne_nil_of_length_pos (hchunks chunk hchunk).1
  have hfollows := follows_run processIncoming chunks _ _ (follows_opened processIncoming crypt state) hnonempty
  rw [foldl_resume, List.nil_append] at hfollows
  exact ⟨hfollows.framing, hfollows.aborted⟩

-- A frame with two bytes of payload cut inside its header and inside its payload,
-- and one without payload
theorem incoming_segmentation_two :
    (Run.run (handleInput fun crypt (count : Nat) _ => (true, crypt, count + 1)) (opened AuthCrypt.new 0)
        [[0, 6, 1], [0, 0, 0, 7], [8, 0, 4, 2, 0, 0, 0]]).aborted = false :=
  (incoming_segmentation (fun crypt (count : Nat) _ => (true, crypt, count + 1)) AuthCrypt.new 0
    [[0, 6, 1], [0, 0, 0, 7], [8, 0, 4, 2, 0, 0, 0]] (by decide)).2

end Peer

end TurtleWow.Network
