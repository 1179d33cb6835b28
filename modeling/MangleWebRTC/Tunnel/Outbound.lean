import MangleWebRTC.Machine.PartialWrite

/-! # From a local socket to a data channel

Both relays of `client_command` cut what they got into sends on the data channel
with the same loop, up to the slice they offer. The UDP relay offers the bytes
that are left. The TCP relay offers the bytes behind the chunk.
-/

namespace MangleWebRTC.Tunnel

open Machine

/-- A chunk of bytes read from the local `TcpStream`: not end of file, and within
the relay's buffer. -/
structure LocalChunk where
  bytes : List UInt8
  nonempty : bytes ≠ []
  fits : bytes.length ≤ 2048

/-- The relay's read buffer, the sends so far, and the bytes they accepted. -/
structure Outbound where
  buf : List UInt8
  calls : Nat
  accepted : List UInt8

/-- `vec![0u8; 2048]`. -/
def Outbound.start : Outbound := ⟨List.replicate 2048 0, 0, []⟩

/-- `stream.read(&mut buf)` overwrites the front of the buffer. -/
def readInto (buf chunk : List UInt8) : List UInt8 := chunk ++ buf.drop chunk.length

/-- `&bytes.slice(n..)` of the TCP relay, with `n` the length of the chunk. -/
def tcpSlice (bytes : List UInt8) (_sentN : Nat) : List UInt8 := bytes.drop bytes.length

/-- `&bytes.slice(sent_n..)` of the UDP relay. -/
def udpSlice (bytes : List UInt8) (sentN : Nat) : List UInt8 := bytes.drop sentN

/-- `while sent_n < bytes.len()` around `data_channel.send`. -/
def sendBytes (slice : List UInt8 → Nat → List UInt8) (writer : Writer UInt8) (fuel : Nat)
    (outbound : Outbound) (bytes : List UInt8) : Option Outbound :=
  (writeLoop writer (slice bytes) bytes.length fuel ⟨outbound.calls, 0, outbound.accepted⟩).map
    fun sent => { outbound with calls := sent.calls, accepted := sent.accepted }

/-- The reading arm of the TCP relay. -/
def tcpRead (writer : Writer UInt8) (fuel : Nat) (outbound : Outbound) (chunk : LocalChunk) :
    Option Outbound :=
  let buf := readInto outbound.buf chunk.bytes
  sendBytes tcpSlice writer fuel { outbound with buf := buf } (buf.take chunk.bytes.length)

/-- The sending arm of the UDP relay. -/
def udpSend (writer : Writer UInt8) (fuel : Nat) (outbound : Outbound) (bytes : List UInt8) :
    Option Outbound :=
  sendBytes udpSlice writer fuel outbound bytes

/-- The TCP relay over all chunks of its stream; without fuel it is still sending. -/
def tcpOutbound (writer : Writer UInt8) (fuel : Nat) (chunks : List LocalChunk) :
    Option Outbound :=
  chunks.foldlM (tcpRead writer fuel) .start

/-- The UDP relay over all payloads of its session. -/
def udpOutbound (writer : Writer UInt8) (fuel : Nat) (payloads : List (List UInt8)) :
    Option Outbound :=
  payloads.foldlM (udpSend writer fuel) .start

/-- The relay gets through all chunks, and the data channel accepted exactly
their bytes. -/
def TcpFaithful (writer : Writer UInt8) (chunks : List LocalChunk) : Prop :=
  ∃ fuel final, tcpOutbound writer fuel chunks = some final ∧
    final.accepted = chunks.flatMap LocalChunk.bytes

@[simp] theorem take_readInto (buf chunk : List UInt8) :
    (readInto buf chunk).take chunk.length = chunk := List.take_left

/-- The TCP relay never gets through a chunk. -/
theorem tcpRead_eq_none (writer : Writer UInt8) (fuel : Nat) (outbound : Outbound)
    (chunk : LocalChunk) : tcpRead writer fuel outbound chunk = none := by
  have hslice : ∀ sent, tcpSlice chunk.bytes sent = [] := fun _ => List.drop_length
  have hmore : 0 < chunk.bytes.length := List.length_pos_iff.mpr chunk.nonempty
  simp only [tcpRead, sendBytes, take_readInto]
  rw [writeLoop_stuck writer hslice fuel _ hmore]
  rfl

theorem not_tcpFaithful_of_ne_nil (writer : Writer UInt8) {chunks : List LocalChunk}
    (hchunks : chunks ≠ []) : ¬ TcpFaithful writer chunks := by
  rintro ⟨fuel, final, hrun, _⟩
  cases chunks with
  | nil => exact hchunks (Eq.refl [])
  | cons chunk rest =>
      simp only [tcpOutbound, List.foldlM_cons, tcpRead_eq_none] at hrun
      cases hrun

/-- The TCP relay is faithful exactly as long as nothing was read. -/
theorem tcp_outbound_faithful_iff (writer : Writer UInt8) (chunks : List LocalChunk) :
    TcpFaithful writer chunks ↔ chunks = [] := by
  constructor
  · intro hfaithful
    by_contra hchunks
    exact not_tcpFaithful_of_ne_nil writer hchunks hfaithful
  · rintro rfl
    exact ⟨0, .start, rfl, rfl⟩

/-- One byte, and a data channel that accepts whatever it is given. -/
theorem tcp_outbound_stuck :
    ¬ TcpFaithful .whole [⟨[7], by decide, by decide⟩] :=
  not_tcpFaithful_of_ne_nil .whole (by simp)

theorem udpSend_eq_some (writer : Writer UInt8) {fuel : Nat} (outbound : Outbound)
    {bytes : List UInt8} (hfuel : bytes.length ≤ fuel) :
    ∃ next, udpSend writer fuel outbound bytes = some next ∧
      next.accepted = outbound.accepted ++ bytes := by
  obtain ⟨calls, hloop⟩ := writeLoop_rest writer bytes fuel
    ⟨outbound.calls, 0, outbound.accepted⟩ (Nat.zero_le _) (by simpa using hfuel)
  refine ⟨{ outbound with calls := calls, accepted := outbound.accepted ++ bytes }, ?_, rfl⟩
  unfold udpSend sendBytes udpSlice
  rw [hloop]
  rfl

/-- The UDP relay gets through every list of payloads and sends exactly their bytes. -/
theorem udp_outbound_faithful (writer : Writer UInt8) (payloads : List (List UInt8)) :
    ∃ fuel final, udpOutbound writer fuel payloads = some final ∧
      final.accepted = payloads.flatten := by
  let fuel := payloads.flatten.length
  have hfuel : ∀ bytes ∈ payloads, bytes.length ≤ fuel := fun bytes hmem =>
    (List.sublist_flatten_of_mem hmem).length_le
  suffices hrun : ∀ start : Outbound, ∃ final,
      payloads.foldlM (udpSend writer fuel) start = some final ∧
        final.accepted = start.accepted ++ payloads.flatten by
    obtain ⟨final, hfinal, haccepted⟩ := hrun .start
    exact ⟨fuel, final, hfinal, haccepted⟩
  -- The induction is on the payloads, with one fuel for all of them.
  generalize fuel = enough at hfuel
  induction payloads with
  | nil => exact fun start => ⟨start, rfl, by simp⟩
  | cons bytes rest ih =>
      intro start
      obtain ⟨next, hnext, haccepted⟩ :=
        udpSend_eq_some writer start (hfuel bytes List.mem_cons_self)
      obtain ⟨final, hfinal, hrest⟩ :=
        ih (fun later hlater => hfuel later (List.mem_cons_of_mem _ hlater)) next
      refine ⟨final, ?_, ?_⟩
      · rw [List.foldlM_cons, hnext]
        exact hfinal
      · rw [hrest, haccepted, List.flatten_cons, List.append_assoc]

end MangleWebRTC.Tunnel
