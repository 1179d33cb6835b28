import MangleWebRTC.Machine.TransitionSystem
import Mathlib.Data.List.TakeDrop
import Mathlib.Logic.Function.Basic
import Mathlib.Order.Nat

/-! # The UDP listener of the tunnel client

One `Vec<u8>` receives the datagrams of all sources. It starts with 512 zero
bytes; `recv_buf_from` appends to it, but the payload is cut from its front.
-/

namespace MangleWebRTC.Tunnel

open Machine

/-- `UDP_PACKET_SIZE`. -/
def udpPacketSize : Nat := 512

/-- A `Vec<u8>` and its capacity. -/
structure ByteVec where
  bytes : List UInt8
  capacity : Nat
  fits : bytes.length ≤ capacity

/-- The capacities the allocator chooses: for `vec![0u8; UDP_PACKET_SIZE]`, and
for a full vector that must grow. -/
structure Allocator where
  initial : Nat
  initial_ge : udpPacketSize ≤ initial
  reserve : Nat → Nat
  reserve_gt : ∀ capacity, capacity < reserve capacity

/-- A datagram of the sizes the listener is made for. -/
structure Datagram where
  bytes : List UInt8
  nonempty : bytes ≠ []
  fits : bytes.length ≤ udpPacketSize

namespace ByteVec

variable (alloc : Allocator)

/-- `vec![0u8; UDP_PACKET_SIZE]`. -/
def start : ByteVec where
  bytes := List.replicate udpPacketSize 0
  capacity := alloc.initial
  fits := by simpa using alloc.initial_ge

/-- The capacity after `chunk_mut`, which grows a full vector. -/
def chunkMut (buf : ByteVec) : Nat :=
  if buf.bytes.length = buf.capacity then alloc.reserve buf.capacity else buf.capacity

/-- The bytes that `recv_buf_from` can write. -/
def spare (buf : ByteVec) : Nat := buf.chunkMut alloc - buf.bytes.length

theorem length_le_chunkMut (buf : ByteVec) : buf.bytes.length ≤ buf.chunkMut alloc := by
  have hfits := buf.fits
  unfold chunkMut
  split
  next hfull => exact hfull ▸ (alloc.reserve_gt _).le
  · exact hfits

/-- `listener.recv_buf_from(&mut buf)`: what fits of the datagram is appended. -/
def recvBufFrom (buf : ByteVec) (datagram : List UInt8) : ByteVec × Nat :=
  let n := min datagram.length (buf.spare alloc)
  (⟨buf.bytes ++ datagram.take n, buf.chunkMut alloc, by
    have hlength := buf.length_le_chunkMut alloc
    simp only [List.length_append, List.length_take, n, spare]
    omega⟩, n)

/-- `buf.as_slice().split_at(n).0.to_vec()`. -/
def payload (buf : ByteVec) (n : Nat) : List UInt8 := buf.bytes.take n

end ByteVec

/-- The sender kept for a source: its session still receives, or has ended. -/
inductive SessionSender where
  | receiving
  | ended
  deriving DecidableEq, Repr

/-- The listener task: its buffer, `existing_channel_senders`, and by source what
it handed to sessions and the datagrams it received. -/
structure UdpListener (Addr : Type) where
  buf : ByteVec
  existingChannelSenders : Addr → Option SessionSender
  handed : Addr → List (List UInt8)
  received : Addr → List (List UInt8)

/-- A datagram arrives, or the session of a source ends. -/
inductive UdpEvent (Addr : Type) where
  | datagram (addr : Addr) (datagram : Datagram)
  | sessionEnds (addr : Addr)

namespace UdpListener

variable {Addr : Type} [DecidableEq Addr] (alloc : Allocator)

/-- An empty buffer and no sources. -/
def start : UdpListener Addr := ⟨.start alloc, fun _ => none, fun _ => [], fun _ => []⟩

/-- A payload goes into the session's channel. -/
def hand (listener : UdpListener Addr) (addr : Addr) (payload : List UInt8) : UdpListener Addr :=
  { listener with
    handed := Function.update listener.handed addr (listener.handed addr ++ [payload]) }

/-- One arrival. A session that has ended loses its entry and the datagram; a
vacant entry gets a new session. -/
def step (listener : UdpListener Addr) : UdpEvent Addr → Option (UdpListener Addr)
  | .datagram addr datagram =>
      let (buf, n) := listener.buf.recvBufFrom alloc datagram.bytes
      let payload := buf.payload n
      let listener := { listener with
        buf := buf
        received :=
          Function.update listener.received addr (listener.received addr ++ [datagram.bytes]) }
      match listener.existingChannelSenders addr with
      | some .receiving => some (listener.hand addr payload)
      -- `send` fails, the entry is removed and the datagram is gone.
      | some .ended => some { listener with
          existingChannelSenders := Function.update listener.existingChannelSenders addr none }
      | none => some { listener.hand addr payload with
          existingChannelSenders :=
            Function.update listener.existingChannelSenders addr (some .receiving) }
  | .sessionEnds addr =>
      match listener.existingChannelSenders addr with
      | some .receiving => some { listener with
          existingChannelSenders :=
            Function.update listener.existingChannelSenders addr (some .ended) }
      | _ => none

end UdpListener

/-- All arrivals at one listener, with sessions that end at any time. -/
def udpListenerSystem (Addr : Type) [DecidableEq Addr] (alloc : Allocator) :
    TransitionSystem (UdpListener Addr) (UdpEvent Addr) where
  init listener := listener = .start alloc
  step := UdpListener.step alloc

namespace UdpListener

variable {Addr : Type}

/-- Every session got the datagrams of its source, byte for byte and in order. -/
def PayloadsIntact (listener : UdpListener Addr) : Prop :=
  ∀ addr, listener.handed addr = listener.received addr

/-- A datagram reaches a session, it consists of zero bytes, and the buffer has
room for all of it. -/
def ZeroDatagram (alloc : Allocator) (listener : UdpListener Addr) : UdpEvent Addr → Prop
  | .datagram addr datagram =>
      listener.existingChannelSenders addr ≠ some .ended ∧
        (∀ byte ∈ datagram.bytes, byte = 0) ∧ datagram.bytes.length ≤ listener.buf.spare alloc
  | .sessionEnds _ => True

instance (alloc : Allocator) (listener : UdpListener Addr) :
    (event : UdpEvent Addr) → Decidable (listener.ZeroDatagram alloc event)
  | .datagram addr datagram => inferInstanceAs (Decidable
      (listener.existingChannelSenders addr ≠ some .ended ∧
        (∀ byte ∈ datagram.bytes, byte = 0) ∧
          datagram.bytes.length ≤ listener.buf.spare alloc))
  | .sessionEnds _ => inferInstanceAs (Decidable True)

/-- The bytes that the vector had at the start are never overwritten. -/
def Padded (listener : UdpListener Addr) : Prop :=
  ∃ tail, listener.buf.bytes = List.replicate udpPacketSize 0 ++ tail

variable (alloc : Allocator)

/-- The payload is always a part of the padding. -/
theorem payload_eq_replicate {buf : ByteVec} {tail : List UInt8}
    (hpadded : buf.bytes = List.replicate udpPacketSize 0 ++ tail) (datagram : Datagram) :
    (buf.recvBufFrom alloc datagram.bytes).1.payload (buf.recvBufFrom alloc datagram.bytes).2 =
      List.replicate (min datagram.bytes.length (buf.spare alloc)) 0 := by
  have hn : min datagram.bytes.length (buf.spare alloc) ≤ udpPacketSize :=
    (min_le_left _ _).trans datagram.fits
  simp only [ByteVec.recvBufFrom, ByteVec.payload, hpadded, List.append_assoc]
  rw [List.take_append_of_le_length (by simpa using hn), List.take_replicate, min_eq_left hn]

/-- So it is the datagram only when that has zero bytes and fits. -/
theorem payload_eq_iff {buf : ByteVec} {tail : List UInt8}
    (hpadded : buf.bytes = List.replicate udpPacketSize 0 ++ tail) (datagram : Datagram) :
    (buf.recvBufFrom alloc datagram.bytes).1.payload (buf.recvBufFrom alloc datagram.bytes).2 =
        datagram.bytes ↔
      (∀ byte ∈ datagram.bytes, byte = 0) ∧ datagram.bytes.length ≤ buf.spare alloc := by
  rw [payload_eq_replicate alloc hpadded, eq_comm, List.eq_replicate_iff]
  constructor
  · rintro ⟨hlength, hzero⟩
    exact ⟨hzero, hlength ▸ min_le_right _ _⟩
  · rintro ⟨hzero, hfits⟩
    exact ⟨(min_eq_left hfits).symm, hzero⟩

variable [DecidableEq Addr]

/-- What an arrival does: the padding stays, and unless the session has ended the
payload is handed over. -/
theorem step_datagram {listener next : UdpListener Addr} {addr : Addr} {datagram : Datagram}
    (hstep : listener.step alloc (.datagram addr datagram) = some next) :
    next.buf = (listener.buf.recvBufFrom alloc datagram.bytes).1 ∧
      next.received = Function.update listener.received addr
        (listener.received addr ++ [datagram.bytes]) ∧
      ((listener.existingChannelSenders addr = some .ended ∧ next.handed = listener.handed) ∨
       (listener.existingChannelSenders addr ≠ some .ended ∧
        next.handed = Function.update listener.handed addr (listener.handed addr ++
          [(listener.buf.recvBufFrom alloc datagram.bytes).1.payload
            (listener.buf.recvBufFrom alloc datagram.bytes).2]))) := by
  simp only [step] at hstep
  split at hstep
  next hsender =>
    obtain rfl := Option.some.inj hstep
    exact ⟨rfl, rfl, .inr ⟨by simp [hsender], rfl⟩⟩
  next hsender =>
    obtain rfl := Option.some.inj hstep
    exact ⟨rfl, rfl, .inl ⟨hsender, rfl⟩⟩
  next hsender =>
    obtain rfl := Option.some.inj hstep
    exact ⟨rfl, rfl, .inr ⟨by simp [hsender], rfl⟩⟩

theorem step_sessionEnds {listener next : UdpListener Addr} {addr : Addr}
    (hstep : listener.step alloc (.sessionEnds addr) = some next) :
    next.buf = listener.buf ∧ next.handed = listener.handed ∧
      next.received = listener.received := by
  simp only [step] at hstep
  split at hstep
  · obtain rfl := Option.some.inj hstep
    exact ⟨rfl, rfl, rfl⟩
  · cases hstep

theorem Padded.step {listener next : UdpListener Addr} {event : UdpEvent Addr}
    (hpadded : listener.Padded) (hstep : listener.step alloc event = some next) :
    next.Padded := by
  obtain ⟨tail, htail⟩ := hpadded
  cases event with
  | datagram addr datagram =>
      refine ⟨tail ++ datagram.bytes.take (listener.buf.recvBufFrom alloc datagram.bytes).2, ?_⟩
      rw [(step_datagram alloc hstep).1, ← List.append_assoc, ← htail]
      rfl
  | sessionEnds addr => exact ⟨tail, by rw [(step_sessionEnds alloc hstep).1, htail]⟩

/-- The payloads stay intact throughout a run if and only if every datagram reaches
a session, is zero and fits. -/
theorem udp_payloads_intact_iff {events : List (UdpEvent Addr)} {final : UdpListener Addr}
    (hrun : (udpListenerSystem Addr alloc).run (start alloc) events = some final) :
    (udpListenerSystem Addr alloc).Throughout PayloadsIntact (start alloc) events ↔
      (udpListenerSystem Addr alloc).Guarded (ZeroDatagram alloc) (start alloc) events := by
  apply TransitionSystem.throughout_iff_guarded
    (fun listener : UdpListener Addr => listener.Padded ∧ listener.PayloadsIntact) ?_ ?_ ?_
    ⟨⟨[], by simp [start, ByteVec.start]⟩, fun _ => rfl⟩ hrun
  · exact fun listener hinv => hinv.2
  · rintro listener event next ⟨hpadded, hintact⟩ hguard hstep
    refine ⟨hpadded.step alloc hstep, fun other => ?_⟩
    obtain ⟨tail, htail⟩ := hpadded
    cases event with
    | datagram addr datagram =>
        obtain ⟨hopen, hzero⟩ := hguard
        obtain ⟨_, hreceived, ⟨hended, _⟩ | ⟨_, hhanded⟩⟩ := step_datagram alloc hstep
        · exact absurd hended hopen
        · -- A datagram of zeros is cut from the padding by luck.
          have hpayload := (payload_eq_iff alloc htail datagram).mpr hzero
          rw [hhanded, hreceived, hpayload]
          by_cases hother : other = addr
          · subst hother
            rw [Function.update_self, Function.update_self, hintact]
          · rw [Function.update_of_ne hother, Function.update_of_ne hother, hintact]
    | sessionEnds addr =>
        obtain ⟨_, hhanded, hreceived⟩ := step_sessionEnds alloc hstep
        rw [hhanded, hreceived]
        exact hintact other
  · rintro listener event next ⟨⟨tail, htail⟩, hintact⟩ hguard hstep hnext
    cases event with
    | datagram addr datagram =>
        have heq := hnext addr
        obtain ⟨_, hreceived, ⟨_, hhanded⟩ | ⟨hopen, hhanded⟩⟩ := step_datagram alloc hstep
        · -- The datagram of an ended session is dropped.
          rw [hhanded, hreceived, Function.update_self, hintact] at heq
          exact List.cons_ne_nil _ _ (List.self_eq_append_right.mp heq)
        · rw [hhanded, hreceived, Function.update_self, Function.update_self, hintact] at heq
          have hpayload := List.append_cancel_left heq
          apply hguard
          refine ⟨hopen, ?_⟩
          apply (payload_eq_iff alloc htail datagram).mp
          exact (List.cons.inj hpayload).1
    | sessionEnds addr => exact hguard trivial

end UdpListener

/-- The growth policy of `Vec::reserve(64)`. -/
def doubling : Allocator where
  initial := 512
  initial_ge := Nat.le_refl _
  reserve capacity := max (2 * capacity) (capacity + 64)
  reserve_gt capacity := by omega

namespace UdpListener

/-- Two datagrams of zeros, from two sources. -/
theorem udp_payloads_intact_zeros :
    ∃ final, (udpListenerSystem Bool doubling).run (start doubling)
        [.datagram true ⟨[0, 0], by decide, by decide⟩,
          .datagram false ⟨[0], by decide, by decide⟩] = some final ∧
      final.handed true = [[0, 0]] ∧ final.PayloadsIntact := by
  obtain ⟨final, hrun, htest⟩ := (udpListenerSystem Bool doubling).exists_run_of_any
    (start doubling) [.datagram true ⟨[0, 0], by decide, by decide⟩,
      .datagram false ⟨[0], by decide, by decide⟩]
    (fun final => final.handed true = [[0, 0]]) (by decide +kernel)
  have hguarded : (udpListenerSystem Bool doubling).Guarded (ZeroDatagram doubling)
      (start doubling) [.datagram true ⟨[0, 0], by decide, by decide⟩,
        .datagram false ⟨[0], by decide, by decide⟩] := by
    apply TransitionSystem.guarded_of_check
    decide +kernel
  exact ⟨final, hrun, of_decide_eq_true htest,
    ((udp_payloads_intact_iff doubling hrun).mpr hguarded).final hrun⟩

/-- The first datagram, one byte long, is handed over as a zero byte. -/
theorem udp_payload_stale :
    ∃ final, (udpListenerSystem Bool doubling).run (start doubling)
        [.datagram true ⟨[1], by decide, by decide⟩] = some final ∧
      final.handed true = [[0]] ∧ final.received true = [[1]] ∧ ¬ final.PayloadsIntact := by
  obtain ⟨final, hrun, htest⟩ := (udpListenerSystem Bool doubling).exists_run_of_any
    (start doubling) [.datagram true ⟨[1], by decide, by decide⟩]
    (fun final => final.handed true = [[0]] ∧ final.received true = [[1]]) (by decide +kernel)
  obtain ⟨hhanded, hreceived⟩ := of_decide_eq_true htest
  refine ⟨final, hrun, hhanded, hreceived, fun hintact => ?_⟩
  have heq := hintact true
  rw [hhanded, hreceived] at heq
  exact absurd heq (by decide)

end UdpListener

end MangleWebRTC.Tunnel
