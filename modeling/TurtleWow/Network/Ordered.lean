import TurtleWow.Network.Outgoing

namespace TurtleWow.Network

open Run List

-- A socket and the bytes it has handed to the kernel, over whole runs

structure Connection (κ : Type) where
  output : Output κ
  kernel : Bytes

namespace Connection

inductive Step
  | sendPacket (pct : WorldPacket)
  | handleOutput (accepted : Nat)

def sent : List Step → List WorldPacket
  | [] => []
  | .sendPacket pct :: rest => pct :: sent rest
  | .handleOutput _ :: rest => sent rest

variable {κ : Type} [Crypt κ] {start : κ} {c : Connection κ} {packets : List WorldPacket}

def opened (start : κ) (outBufferSize : Nat) : Connection κ :=
  ⟨⟨start, Block.ofCapacity outBufferSize, [], false⟩, []⟩

def step (c : Connection κ) : Step → Connection κ
  | .sendPacket pct => { c with output := c.output.sendPacket pct }
  | .handleOutput accepted =>
    let handled := c.output.handleOutput accepted
    { output := handled.2, kernel := c.kernel ++ handled.1 }

-- A packet that is sent while others are queued finds no room in the buffer
-- and is queued behind them.
def Waits (c : Connection κ) : Step → Prop
  | .sendPacket pct => c.output.packetQueue ≠ [] → c.output.outBuffer.space < pct.size + 4
  | .handleOutput _ => True

instance : ∀ (c : Connection κ) (action : Step), Decidable (c.Waits action)
  | c, .sendPacket pct =>
    inferInstanceAs (Decidable (c.output.packetQueue ≠ [] → c.output.outBuffer.space < pct.size + 4))
  | _, .handleOutput _ => inferInstanceAs (Decidable True)

-- The buffer holds any packet, and whatever waits in the queue waits behind
-- bytes of the buffer.
structure Roomy (c : Connection κ) : Prop where
  capacity : 0x8000 + 4 ≤ c.output.outBuffer.capacity
  sizes : ∀ pct ∈ c.output.packetQueue, pct.size ≤ 0x8000
  drained : c.output.outBuffer.data = [] → c.output.packetQueue = []

omit [Crypt κ] in
theorem roomy_opened {outBufferSize : Nat} (h : 0x8000 + 4 ≤ outBufferSize) :
    (opened start outBufferSize).Roomy :=
  ⟨h, fun _ hpct => absurd hpct not_mem_nil, fun _ => rfl⟩

theorem Roomy.sendPacket (h : c.Roomy) {pct : WorldPacket} (hsize : pct.size ≤ 0x8000) :
    (c.step (.sendPacket pct)).Roomy := by
  simp only [step, Output.sendPacket]
  split
  · next hnone =>
      have hspace := Output.iSendPacket_eq_none.mp hnone
      refine ⟨h.capacity, ?_, fun hdata => ?_⟩
      · simp only [mem_append, mem_singleton]
        rintro other (hother | rfl)
        · exact h.sizes other hother
        · exact hsize
      · have hcapacity : 0x8000 + 4 ≤ c.output.outBuffer.capacity := h.capacity
        rw [Block.space_of_data_nil c.output.outBuffer hdata] at hspace
        omega
  · next sent hsent =>
      obtain ⟨-, hdata, hcapacity, hqueue⟩ := Output.iSendPacket_some hsize hsent
      refine ⟨hcapacity.symm ▸ h.capacity, hqueue.symm ▸ h.sizes, fun hnil => ?_⟩
      rw [hdata] at hnil
      rw [hqueue]
      exact h.drained (append_eq_nil_iff.mp hnil).1

theorem Roomy.flush (h : c.Roomy) (kernel : Bytes) :
    Roomy ⟨(Output.iFlushPacketQueue { c.output with outBuffer := c.output.outBuffer.reset }).2, kernel⟩ := by
  refine ⟨?_, fun pct hpct => ?_, fun hdata => ?_⟩
  · have hcapacity := Output.capacity_flush c.output.packetQueue
      { c.output with outBuffer := c.output.outBuffer.reset } false h.sizes
    exact hcapacity.symm ▸ h.capacity
  · exact h.sizes pct ((Output.suffix_flush c.output.packetQueue _ _).subset hpct)
  · exact Output.drained_flush c.output.packetQueue _ _ rfl h.capacity h.sizes hdata

theorem Roomy.handleOutput (h : c.Roomy) (accepted : Nat) : (c.step (.handleOutput accepted)).Roomy := by
  simp only [step, Output.handleOutput]
  split_ifs with hempty hnone hpart hone
  · exact ⟨h.capacity, h.sizes, h.drained⟩
  · exact ⟨h.capacity, h.sizes, h.drained⟩
  · refine ⟨h.capacity, h.sizes, fun hdata => ?_⟩
    have hlength := congrArg List.length hdata
    simp only [Output.scheduleWakeupOutput, Block.data_crunch, length_drop, length_nil] at hlength
    omega
  · exact ⟨(h.flush c.kernel).capacity, (h.flush c.kernel).sizes, (h.flush c.kernel).drained⟩
  · exact ⟨(h.flush c.kernel).capacity, (h.flush c.kernel).sizes, (h.flush c.kernel).drained⟩

-- The packets sent so far are those written, followed by those queued.
def Ordered (start : κ) (packets : List WorldPacket) (c : Connection κ) : Prop :=
  ∃ written, packets = written ++ c.output.packetQueue ∧ c.output.Written start written c.kernel

theorem ordered_opened (outBufferSize : Nat) : Ordered start [] (opened start outBufferSize) :=
  ⟨[], rfl, rfl, rfl⟩

theorem Ordered.sendPacket (h : Ordered start packets c) {pct : WorldPacket} (hsize : pct.size ≤ 0x8000)
    (hwaits : c.Waits (.sendPacket pct)) : Ordered start (packets ++ [pct]) (c.step (.sendPacket pct)) := by
  obtain ⟨written, hpackets, hwritten⟩ := h
  simp only [step, Output.sendPacket]
  split
  · exact ⟨written, by rw [hpackets, append_assoc], hwritten.crypt, hwritten.bytes⟩
  · next sent hsent =>
      obtain ⟨-, -, -, hqueue⟩ := Output.iSendPacket_some hsize hsent
      have hempty : c.output.packetQueue = [] := by
        by_contra hne
        have hnone := Output.iSendPacket_eq_none.mpr (hwaits hne)
        exact Option.some_ne_none sent (hsent.symm.trans hnone)
      refine ⟨written ++ [pct], ?_, hwritten.iSendPacket hsize hsent⟩
      simp only [hpackets, hqueue, hempty, append_nil]

theorem Ordered.handleOutput (h : Ordered start packets c) (hroomy : c.Roomy) (accepted : Nat) :
    Ordered start packets (c.step (.handleOutput accepted)) := by
  obtain ⟨written, hpackets, hwritten⟩ := h
  simp only [step, Output.handleOutput]
  split_ifs with hempty hnone hpart hone
  · exact ⟨written, hpackets, hwritten.crypt, by rw [append_nil]; exact hwritten.bytes⟩
  · exact ⟨written, hpackets, hwritten.crypt, by rw [append_nil]; exact hwritten.bytes⟩
  · refine ⟨written, hpackets, hwritten.crypt, ?_⟩
    calc c.kernel ++ c.output.outBuffer.data.take accepted ++ c.output.outBuffer.data.drop accepted
        = c.kernel ++ c.output.outBuffer.data := by rw [append_assoc, take_append_drop]
      _ = wire start written := hwritten.bytes
  all_goals
    have hreset : Output.Written start written (c.kernel ++ c.output.outBuffer.data)
        { c.output with outBuffer := c.output.outBuffer.reset } :=
      ⟨hwritten.crypt, by rw [Block.data_reset, append_nil]; exact hwritten.bytes⟩
    obtain ⟨more, hmore, hflushed⟩ := hreset.flush c.output.packetQueue _ false written hroomy.sizes
    exact ⟨more, hpackets.trans hmore, hflushed.crypt, hflushed.bytes⟩

theorem ordered_step (h : Ordered start packets c) (hroomy : c.Roomy) (action : Step)
    (hsizes : ∀ pct ∈ sent [action], pct.size ≤ 0x8000) (hwaits : c.Waits action) :
    Ordered start (packets ++ sent [action]) (c.step action) ∧ (c.step action).Roomy := by
  cases action with
  | sendPacket pct =>
    have hsize := hsizes pct (mem_singleton_self pct)
    exact ⟨h.sendPacket hsize hwaits, hroomy.sendPacket hsize⟩
  | handleOutput accepted =>
    refine ⟨?_, hroomy.handleOutput accepted⟩
    rw [sent, sent, append_nil]
    exact h.handleOutput hroomy accepted

omit [Crypt κ] in
theorem sent_cons (action : Step) (rest : List Step) : sent (action :: rest) = sent [action] ++ sent rest := by
  cases action <;> rfl

theorem ordered_run (steps : List Step) : ∀ (packets : List WorldPacket) (c : Connection κ),
    Ordered start packets c → c.Roomy → (∀ pct ∈ sent steps, pct.size ≤ 0x8000) →
      Guarded step Waits c steps →
      Ordered start (packets ++ sent steps) (Run.run step c steps) ∧ (Run.run step c steps).Roomy := by
  induction steps with
  | nil =>
    intro packets c h hroomy _ _
    exact ⟨by rw [sent, append_nil]; exact h, hroomy⟩
  | cons action rest ih =>
    intro packets c h hroomy hsizes hguarded
    rw [sent_cons] at hsizes ⊢
    obtain ⟨hone, hmore⟩ := forall_mem_append.mp hsizes
    obtain ⟨hordered, hroomy'⟩ := ordered_step h hroomy action hone hguarded.1
    rw [← append_assoc]
    exact ih _ _ hordered hroomy' hmore hguarded.2

-- The bytes handed to the kernel are the first of those of the packets in the
-- order of the calls, and all of them once the buffer has been drained.
theorem outgoing_in_order (start : κ) (outBufferSize : Nat) (steps : List Step)
    (hcapacity : 0x8000 + 4 ≤ outBufferSize) (hsizes : ∀ pct ∈ sent steps, pct.size ≤ 0x8000)
    (hwaits : Guarded step Waits (opened start outBufferSize) steps) :
    (Run.run step (opened start outBufferSize) steps).kernel <+: wire start (sent steps) ∧
      ((Run.run step (opened start outBufferSize) steps).output.outBuffer.data = [] →
        (Run.run step (opened start outBufferSize) steps).output.packetQueue = [] ∧
          (Run.run step (opened start outBufferSize) steps).kernel = wire start (sent steps)) := by
  obtain ⟨hordered, hroomy⟩ := ordered_run steps [] _ (ordered_opened outBufferSize)
    (roomy_opened hcapacity) hsizes hwaits
  obtain ⟨written, hsent, hwritten⟩ := hordered
  rw [List.nil_append] at hsent
  constructor
  · rw [hsent, wire_append, ← hwritten.bytes, List.append_assoc]
    exact List.prefix_append _ _
  · intro hdata
    have hqueue := hroomy.drained hdata
    refine ⟨hqueue, ?_⟩
    rw [hsent, hqueue, List.append_nil, ← hwritten.bytes, hdata, List.append_nil]

private def initialized : AuthCrypt := (AuthCrypt.new.setKey [7, 200, 33]).init

-- Two packets, the first of which the kernel takes in two parts
theorem outgoing_in_order_initialized :
    (run step (opened initialized 65536)
      [.sendPacket ⟨1, [1, 2]⟩, .handleOutput 3, .sendPacket ⟨2, []⟩, .handleOutput 9]).kernel <+:
        wire initialized [⟨1, [1, 2]⟩, ⟨2, []⟩] :=
  (outgoing_in_order initialized 65536
    [.sendPacket ⟨1, [1, 2]⟩, .handleOutput 3, .sendPacket ⟨2, []⟩, .handleOutput 9]
    (by decide) (by decide) (by decide)).1

-- Two large packets, of which the buffer has room for the first, and a small
-- one that goes into the buffer while the second is queued
private theorem overtaken (full queued small : WorldPacket) (hfull : full.size = 0x8000)
    (hqueued : queued.size = 0x8000) (hsmall : small.size = 0) :
    (run step (opened start 65536)
      [.sendPacket full, .sendPacket queued, .sendPacket small, .handleOutput 65536]).kernel =
        wire start [full, small] := by
  have hlength : ∀ (crypt : κ) (pct : WorldPacket), (wire crypt [pct]).length = 4 + pct.size := by
    intro crypt pct
    have hheader := Crypt.length_encryptSend crypt (frameHeader pct)
    simp only [wire, length_append, hheader, WorldPacket.size]
    rfl
  obtain ⟨first, hfirst⟩ := Output.exists_iSendPacket (opened start 65536).output full
    (by rw [hfull]; simp [opened])
  obtain ⟨hcrypt, hdata, hcapacity, hqueue⟩ := Output.iSendPacket_some (by omega) hfirst
  have hdata' : first.outBuffer.data = wire start [full] := hdata
  have hcapacity' : first.outBuffer.capacity = 65536 := hcapacity
  have hspace := first.outBuffer.length_add_space
  rw [hdata', hlength, hcapacity', hfull] at hspace
  have hsecond : first.iSendPacket queued = none := Output.iSendPacket_eq_none.mpr (by omega)
  obtain ⟨third, hthird⟩ := Output.exists_iSendPacket
    { first with packetQueue := first.packetQueue ++ [queued] } small (by simp only; omega)
  obtain ⟨-, hdata₃, -, -⟩ := Output.iSendPacket_some (by omega) hthird
  have hwire : third.outBuffer.data = wire start [full, small] := by
    rw [hdata₃, hdata', hcrypt]
    exact (wire_append start [full] [small]).symm
  have hlong : third.outBuffer.data.length = 4 + full.size + (4 + small.size) := by
    rw [hdata₃, hdata', length_append, hlength, hlength]
  have hstep : run step (opened start 65536)
      [.sendPacket full, .sendPacket queued, .sendPacket small] = ⟨third, []⟩ := by
    simp only [run_cons, run_nil, step, Output.sendPacket, hfirst, hsecond, hthird]
    rfl
  rw [show [Step.sendPacket full, .sendPacket queued, .sendPacket small, .handleOutput 65536] =
    [.sendPacket full, .sendPacket queued, .sendPacket small] ++ [.handleOutput 65536] from rfl,
    run_append, hstep, run_cons, run_nil, step, Output.handleOutput]
  dsimp only
  rw [if_neg (by omega), if_neg (by omega), if_neg (by omega), nil_append, hwire]

theorem not_outgoing_in_order :
    ¬∀ (start : AuthCrypt) (outBufferSize : Nat) (steps : List Step), 0x8000 + 4 ≤ outBufferSize →
      (∀ pct ∈ sent steps, pct.size ≤ 0x8000) →
        (run step (opened start outBufferSize) steps).kernel <+: wire start (sent steps) ∧
          ((run step (opened start outBufferSize) steps).output.outBuffer.data = [] →
            (run step (opened start outBufferSize) steps).output.packetQueue = []) := by
  intro h
  obtain ⟨zeros, hzeros⟩ : ∃ zeros : Bytes, zeros.length = 0x8000 := 
    ⟨List.replicate 0x8000 0, List.length_replicate⟩
  have hsizes : ∀ pct ∈ sent [.sendPacket ⟨1, zeros⟩, .sendPacket ⟨2, zeros⟩, .sendPacket ⟨3, []⟩,
      .handleOutput 65536], pct.size ≤ 0x8000 := by
    simp [sent, WorldPacket.size, hzeros]
  have hprefix := (h AuthCrypt.new 65536 _ (by omega) hsizes).1
  rw [overtaken ⟨1, zeros⟩ ⟨2, zeros⟩ ⟨3, []⟩ hzeros hzeros rfl] at hprefix
  simp only [sent] at hprefix
  have hsplit : ∀ rest : List WorldPacket, wire AuthCrypt.new (⟨1, zeros⟩ :: rest) =
      wire AuthCrypt.new [⟨1, zeros⟩] ++ wire (cryptAfter AuthCrypt.new [⟨1, zeros⟩]) rest :=
    fun rest => wire_append AuthCrypt.new [⟨1, zeros⟩] rest
  rw [hsplit [⟨3, []⟩], hsplit [⟨2, zeros⟩, ⟨3, []⟩], List.prefix_append_right_inj] at hprefix
  have hfirst : frameHeader ⟨2, zeros⟩ = [128, 2, 2, 0] := by
    simp only [frameHeader, WorldPacket.size, hzeros]
    rfl
  have hsmall : wire (cryptAfter AuthCrypt.new [⟨1, zeros⟩]) [⟨3, []⟩] = [0, 2, 3, 0] := rfl
  have hqueued : wire (cryptAfter AuthCrypt.new [⟨1, zeros⟩]) [⟨2, zeros⟩, ⟨3, []⟩] =
      frameHeader ⟨2, zeros⟩ ++ zeros ++ wire AuthCrypt.new [⟨3, []⟩] := rfl
  rw [hsmall, hqueued, hfirst] at hprefix
  exact absurd (List.cons_prefix_cons.mp hprefix).1 (by decide)

end Connection

-- The other end of a socket: a client that has the session key deciphers four
-- bytes, reads the size and the opcode, and takes the contents.

namespace AuthCrypt

def readPacket (client : AuthCrypt) (stream : Bytes) : Option (WorldPacket × AuthCrypt × Bytes) :=
  let header := if client.initialized then client.decryptBytes (stream.take 4) else (client, stream.take 4)
  match header.2 with
  | [sizeHigh, sizeLow, opcodeLow, opcodeHigh] =>
    let size := sizeHigh.toNat * 256 + sizeLow.toNat - 2
    let body := stream.drop 4
    if body.length < size then none
    else some (⟨UInt16.ofNat (opcodeHigh.toNat * 256 + opcodeLow.toNat), body.take size⟩, header.1, body.drop size)
  | _ => none

def readPackets (client : AuthCrypt) (stream : Bytes) : Nat → List WorldPacket
  | 0 => []
  | fuel + 1 =>
    match client.readPacket stream with
    | none => []
    | some (pct, client, rest) => pct :: client.readPackets rest fuel

-- The client deciphers from where the server enciphers.
structure Mirrors (server client : AuthCrypt) : Prop where
  key : client.key = server.key
  index : client.recvI = server.sendI
  last : client.recvJ = server.sendJ
  initialized : client.initialized = server.initialized

variable {server client : AuthCrypt}

theorem Mirrors.decryptBytes (h : Mirrors server client) (data : Bytes) :
    (client.decryptBytes (server.encryptBytes data).2).2 = data ∧
      Mirrors (server.encryptBytes data).1 (client.decryptBytes (server.encryptBytes data).2).1 := by
  induction data generalizing server client with
  | nil => exact ⟨rfl, h⟩
  | cons byte rest ih =>
    obtain ⟨key, sendI, sendJ, recvI, recvJ, initialized⟩ := client
    obtain ⟨rfl, rfl, rfl, rfl⟩ := h
    have hbyte (mask last : UInt8) : ((byte ^^^ mask) + last - last) ^^^ mask = byte := by
      rw [UInt8.add_sub_cancel, UInt8.xor_assoc, UInt8.xor_self, UInt8.xor_zero]
    refine ⟨congrArg₂ cons (hbyte _ _) (ih ?_).1, (ih ?_).2⟩
    · exact ⟨rfl, rfl, rfl, rfl⟩
    · exact ⟨rfl, rfl, rfl, rfl⟩

theorem Mirrors.decipher (h : Mirrors server client) (header : Bytes) (hlength : header.length = 4) :
    ∃ after, (if client.initialized then client.decryptBytes (server.encryptSend header).2
      else (client, (server.encryptSend header).2)) = (after, header) ∧ Mirrors (server.encryptSend header).1 after := by
  have hlong : ¬header.length < CRYPTED_SEND_LEN := by
    rw [hlength]
    exact Nat.lt_irrefl _
  unfold encryptSend
  rw [h.initialized]
  cases server.initialized with
  | false => exact ⟨client, rfl, h⟩
  | true =>
    have htake : header.take CRYPTED_SEND_LEN = header := take_of_length_le hlength.le
    have hdrop : header.drop CRYPTED_SEND_LEN = [] := drop_eq_nil_of_le hlength.le
    simp only [Bool.not_true, Bool.false_eq_true, if_false, if_neg hlong, if_true, htake, hdrop, append_nil]
    obtain ⟨hdata, hmirrors⟩ := h.decryptBytes header
    exact ⟨_, Prod.ext rfl hdata, hmirrors⟩

theorem Mirrors.readPacket (h : Mirrors server client) {pct : WorldPacket} (hsize : pct.size ≤ 0x8000) {stream : Bytes}
    (hstream : stream.take 4 = (server.encryptSend (frameHeader pct)).2) :
    ∃ after, Mirrors (server.encryptSend (frameHeader pct)).1 after ∧ client.readPacket stream =
      if (stream.drop 4).length < pct.size then none
      else some (⟨pct.opcode, (stream.drop 4).take pct.size⟩, after, (stream.drop 4).drop pct.size) := by
  obtain ⟨after, hheader, hmirrors⟩ := h.decipher (frameHeader pct) rfl
  refine ⟨after, hmirrors, ?_⟩
  have hfields : UInt8.toNat (UInt8.ofNat ((pct.size + 2) / 256)) * 256 +
      UInt8.toNat (UInt8.ofNat ((pct.size + 2) % 256)) - 2 = pct.size := by
    rw [UInt8.toNat_ofNat', UInt8.toNat_ofNat']
    omega
  have hopcode : UInt16.ofNat (UInt8.toNat (UInt8.ofNat (pct.opcode.toNat / 256)) * 256 +
      UInt8.toNat (UInt8.ofNat (pct.opcode.toNat % 256))) = pct.opcode := by
    have hlt := pct.opcode.toNat_lt
    apply UInt16.toNat_inj.mp
    rw [UInt8.toNat_ofNat', UInt8.toNat_ofNat', UInt16.toNat_ofNat']
    omega
  rw [AuthCrypt.readPacket, hstream, hheader]
  simp only [frameHeader, hfields, hopcode]

theorem readPacket_none {stream : Bytes} (hshort : stream.length < 4) : client.readPacket stream = none := by
  unfold readPacket
  have hlength : (if client.initialized then client.decryptBytes (stream.take 4)
      else (client, stream.take 4)).2.length < 4 := by
    split
    · rw [length_decryptBytes, length_take]
      omega
    · rw [length_take]
      omega
  dsimp only
  split
  · next hfour =>
      rw [hfour] at hlength
      exact absurd hlength (Nat.lt_irrefl 4)
  · rfl

-- The client reads whole packets only, the first ones of those on the wire.
theorem Mirrors.readPackets (h : Mirrors server client) {packets : List WorldPacket}
    (hsizes : ∀ pct ∈ packets, pct.size ≤ 0x8000) {stream : Bytes} (hstream : stream <+: wire server packets) (fuel : Nat) :
    client.readPackets stream fuel <+: packets ∧
      (stream = wire server packets → packets.length ≤ fuel → client.readPackets stream fuel = packets) := by
  induction packets generalizing server client stream fuel with
  | nil =>
    have hnil : stream = [] := prefix_nil.mp hstream
    have hnone : client.readPacket stream = none := readPacket_none (by rw [hnil]; decide)
    have hread : client.readPackets stream fuel = [] := by
      cases fuel with
      | zero => rfl
      | succ fuel => simp only [AuthCrypt.readPackets, hnone]
    exact ⟨hread ▸ nil_prefix, fun _ _ => hread⟩
  | cons pct rest ih =>
    obtain ⟨hsize, hsizes⟩ := forall_mem_cons.mp hsizes
    have hlength : (server.encryptSend (frameHeader pct)).2.length = 4 := length_encryptSend _ _
    have hwire : wire server (pct :: rest) = (server.encryptSend (frameHeader pct)).2 ++
        (pct.contents ++ wire (server.encryptSend (frameHeader pct)).1 rest) := append_assoc _ _ _
    rw [hwire] at hstream ⊢
    cases fuel with
    | zero => exact ⟨ nil_prefix, fun _ hle => absurd hle (Nat.not_succ_le_zero _)⟩
    | succ fuel =>
      by_cases hshort : stream.length < 4
      · simp only [AuthCrypt.readPackets, readPacket_none hshort]
        refine ⟨ nil_prefix, fun heq _ => ?_⟩
        rw [heq, length_append, hlength] at hshort
        omega
      · obtain ⟨body, rfl⟩ : ∃ body, stream = (server.encryptSend (frameHeader pct)).2 ++ body := by
          have hheader := prefix_of_prefix_length_le (prefix_append (server.encryptSend (frameHeader pct)).2
            (pct.contents ++ wire (server.encryptSend (frameHeader pct)).1 rest)) hstream (by omega)
          obtain ⟨body, hbody⟩ := hheader
          exact ⟨body, hbody.symm⟩
        have hbody : body <+: pct.contents ++ wire (server.encryptSend (frameHeader pct)).1 rest :=
          (prefix_append_right_inj _).mp hstream
        obtain ⟨after, hmirrors, hread⟩ := h.readPacket hsize (take_left' hlength)
        rw [drop_left' hlength] at hread
        by_cases hpart : body.length < pct.size
        · rw [if_pos hpart] at hread
          simp only [AuthCrypt.readPackets, hread]
          refine ⟨ nil_prefix, fun heq _ => ?_⟩
          rw [append_cancel_left heq, length_append] at hpart
          exact absurd hpart (Nat.not_lt.mpr (Nat.le_add_right _ _))
        · rw [if_neg hpart] at hread
          obtain ⟨left, rfl⟩ := prefix_of_prefix_length_le (prefix_append pct.contents _) hbody
            (Nat.not_lt.mp hpart)
          have hleft : left <+: wire (server.encryptSend (frameHeader pct)).1 rest :=
            (prefix_append_right_inj _).mp hbody
          obtain ⟨hfirst, hall⟩ := ih hmirrors hsizes hleft fuel
          have hpayload : pct.contents.length = pct.size := rfl
          rw [take_left' hpayload, drop_left' hpayload] at hread
          simp only [AuthCrypt.readPackets, hread]
          refine ⟨cons_prefix_cons.mpr ⟨rfl, hfirst⟩, fun heq hle => congrArg (pct :: ·) ?_⟩
          exact hall (append_cancel_left (append_cancel_left heq)) (Nat.le_of_succ_le_succ hle)

end AuthCrypt

theorem length_le_length_wire (crypt : AuthCrypt) (packets : List WorldPacket) :
    packets.length ≤ (wire crypt packets).length := by
  induction packets generalizing crypt with
  | nil => exact Nat.le_refl 0
  | cons pct rest ih =>
    have hheader : (Crypt.encryptSend crypt (frameHeader pct)).2.length = 4 := Crypt.length_encryptSend _ _
    have hrest := ih (Crypt.encryptSend crypt (frameHeader pct)).1
    simp only [wire, length_append, length_cons]
    omega

namespace Connection

-- What the client has read of the bytes handed to the kernel so far are the
-- first of the packets sent, as they were sent, and all of them once the
-- buffer has been drained.
theorem client_reads_sent {start client : AuthCrypt} (hmirrors : start.Mirrors client) (outBufferSize : Nat)
    (steps : List Step) (hcapacity : 0x8000 + 4 ≤ outBufferSize) (hsizes : ∀ pct ∈ sent steps, pct.size ≤ 0x8000)
    (hwaits : Guarded step Waits (opened start outBufferSize) steps) :
    let kernel := (Run.run step (opened start outBufferSize) steps).kernel
    client.readPackets kernel kernel.length <+: sent steps ∧
      ((Run.run step (opened start outBufferSize) steps).output.outBuffer.data = [] →
        client.readPackets kernel kernel.length = sent steps) := by
  intro kernel
  obtain ⟨hordered, hroomy⟩ := ordered_run steps [] _ (ordered_opened outBufferSize)
    (roomy_opened hcapacity) hsizes hwaits
  obtain ⟨written, hsent, hwritten⟩ := hordered
  rw [nil_append] at hsent
  have hbytes : kernel ++ (Run.run step (opened start outBufferSize) steps).output.outBuffer.data = wire start written :=
    hwritten.bytes
  have hwrittensizes : ∀ pct ∈ written, pct.size ≤ 0x8000 := fun pct hpct =>
    hsizes pct (hsent ▸ mem_append_left _ hpct)
  obtain ⟨hfirst, hall⟩ := hmirrors.readPackets hwrittensizes ⟨_, hbytes⟩ kernel.length
  constructor
  · rw [hsent]
    exact hfirst.trans (prefix_append _ _)
  · intro hdata
    rw [hdata, append_nil] at hbytes
    have hfuel : written.length ≤ kernel.length := hbytes ▸ length_le_length_wire start written
    rw [hsent, hroomy.drained hdata, append_nil]
    exact hall hbytes hfuel

-- A packet in two parts, and a second one behind it
theorem client_reads_sent_initialized :
    initialized.readPackets (run step (opened initialized 65536)
      [.sendPacket ⟨1, [1, 2]⟩, .handleOutput 3, .sendPacket ⟨2, []⟩, .handleOutput 9]).kernel 10 =
        [⟨1, [1, 2]⟩, ⟨2, []⟩] :=
  (client_reads_sent ⟨rfl, rfl, rfl, rfl⟩ 65536
    [.sendPacket ⟨1, [1, 2]⟩, .handleOutput 3, .sendPacket ⟨2, []⟩, .handleOutput 9]
    (by decide) (by decide) (by decide)).2 (by decide)

end Connection

end TurtleWow.Network
