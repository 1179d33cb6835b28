import MangleWebRTC.Upgrade.IceExchange
import Mathlib.Data.List.ReduceOption

/-! # Conservation of candidates at one end

Candidates pass from the peer through the handler's channel into the link, and
from the other link into the peer. Two balances say, round by round, where
every candidate is. They do not depend on the program that moves it.
-/

namespace MangleWebRTC.Upgrade

open Machine

/-- The events of one gathering: candidates, and after them at most one end marker. -/
inductive Gathered {Candidate : Type} : List (Option Candidate) → Prop
  | running (candidates : List Candidate) : Gathered (candidates.map some)
  | complete (candidates : List Candidate) : Gathered (candidates.map some ++ [none])

namespace Gathered

variable {Candidate : Type} {events first second : List (Option Candidate)}

theorem nil : Gathered ([] : List (Option Candidate)) := running []

theorem emit (hevents : Gathered events) (hopen : none ∉ events) (ice : Option Candidate) :
    Gathered (events ++ [ice]) := by
  cases hevents with
  | running candidates =>
      cases ice with
      | none => exact complete candidates
      | some candidate => simpa using running (candidates ++ [candidate])
  | complete candidates => simp at hopen

theorem exists_complete (hevents : Gathered events) (hmarker : none ∈ events) :
    ∃ candidates : List Candidate, events = candidates.map some ++ [none] := by
  cases hevents with
  | running candidates => simp at hmarker
  | complete candidates => exact ⟨candidates, rfl⟩

theorem map {Item : Type} (hevents : Gathered events) (convert : Candidate → Item) :
    Gathered (events.map (Option.map convert)) := by
  cases hevents with
  | running candidates => simpa using running (candidates.map convert)
  | complete candidates => simpa using complete (candidates.map convert)

/-- Nothing follows the end marker. -/
theorem eq_nil_of_mem (hevents : Gathered (first ++ second)) (hmarker : none ∈ first) :
    second = [] := by
  obtain ⟨candidates, hcomplete⟩ := hevents.exists_complete (List.mem_append_left _ hmarker)
  rcases second.eq_nil_or_concat with hnil | ⟨init, last, rfl⟩
  · exact hnil
  · rw [List.concat_eq_append, ← List.append_assoc] at hcomplete
    have hfront : first ++ init = candidates.map some := (List.append_inj' hcomplete rfl).1
    have hmem : none ∈ candidates.map some := hfront ▸ List.mem_append_left _ hmarker
    simp at hmem

/-- What follows some candidates is itself the rest of a gathering. -/
theorem of_append (hevents : Gathered (first ++ second)) (hopen : none ∉ first) :
    Gathered second := by
  generalize hwhole : first ++ second = whole at hevents
  cases hevents with
  | running candidates =>
      obtain ⟨_, rest, rfl, _, rfl⟩ := List.append_eq_map_iff.mp hwhole
      exact running rest
  | complete candidates =>
      rcases List.append_eq_append_iff.mp hwhole with ⟨rest, hcandidates, rfl⟩ | ⟨rest, rfl, hrest⟩
      · obtain ⟨_, later, rfl, _, rfl⟩ := List.map_eq_append_iff.mp hcandidates
        exact complete later
      · cases rest with
        | nil =>
            obtain rfl : [none] = second := hrest
            exact complete []
        | cons ice rest =>
            obtain ⟨rfl, _⟩ := List.cons.inj hrest
            simp at hopen

@[simp] theorem reduceOption_complete (candidates : List Candidate) :
    (candidates.map some ++ [none]).reduceOption = candidates := by
  simp [List.reduceOption, List.filterMap_map]

end Gathered

namespace Endpoint

variable {env : Environment} {Phase Item : Type}

/-- Events handed to the handler and not yet taken by the loop. The channels of
earlier rounds are gone. -/
def held (endpoint : Endpoint env Phase) (round : Nat) : List (Option env.Candidate) :=
  if round = endpoint.round then endpoint.peer.channel.contents else []

@[simp] theorem held_self (endpoint : Endpoint env Phase) :
    endpoint.held endpoint.round = endpoint.peer.channel.contents := if_pos rfl

theorem held_of_ne {endpoint : Endpoint env Phase} {round : Nat} (hne : round ≠ endpoint.round) :
    endpoint.held round = [] := if_neg hne

/-- The balance of one peer's events: those that met no handler, then those sent,
then those held in the channel, are what it emitted, in order. -/
structure Conserves (convert : env.Candidate → Item) (endpoint : Endpoint env Phase)
    (sent : List (Frame env.Sdp Item)) : Prop where
  kept : ∀ round, (endpoint.emitted round).map (Option.map convert) =
    (endpoint.dropped round).map (Option.map convert) ++ Frame.ices round sent ++
      (endpoint.held round).map (Option.map convert)
  gathered : ∀ round, Gathered (endpoint.emitted round)
  ended : none ∈ endpoint.emitted endpoint.round → endpoint.peer.ended = true
  started : endpoint.peer.gathering = false → endpoint.emitted endpoint.round = []
  quiet : endpoint.peer.handler = false →
    Frame.ices endpoint.round sent = [] ∧ endpoint.peer.channel.contents = []
  fresh : ∀ round, endpoint.round < round → endpoint.emitted round = []

/-- The balance of the other peer's candidates: those added to this peer, then
those received and still to be added, are what was received, in order. -/
structure Applies (convert : Item → env.CandidateInit) (endpoint : Endpoint env Phase)
    (pending : List Item) (delivered : List (Frame env.Sdp Item)) : Prop where
  kept : ∀ round, (Frame.ices round delivered).reduceOption.map convert =
    (endpoint.added round).map AddedCandidate.candidate ++
      if round = endpoint.round then pending.map convert else []
  afterRemote : ∀ round, ∀ candidate ∈ endpoint.added round, candidate.afterRemote = true

variable {convert : env.Candidate → Item} {endpoint : Endpoint env Phase}
variable {sent : List (Frame env.Sdp Item)}

theorem conserves_start (phase : Phase) :
    (start phase : Endpoint env Phase).Conserves convert [] where
  kept round := by
    by_cases hround : round = 0
    · subst hround
      rfl
    · rw [held_of_ne (by exact hround)]
      rfl
  gathered _ := .nil
  ended hmarker := by simp [start] at hmarker
  started _ := rfl
  quiet _ := ⟨rfl, rfl⟩
  fresh _ _ := rfl

/-- Before gathering nothing is on its way. -/
theorem Conserves.empty_of_emitted (hkeeps : endpoint.Conserves convert sent) {round : Nat}
    (hemitted : endpoint.emitted round = []) :
    endpoint.dropped round = [] ∧ Frame.ices round sent = [] ∧ endpoint.held round = [] := by
  have hkept := hkeeps.kept round
  rw [hemitted, List.map_nil, eq_comm, List.append_eq_nil_iff, List.append_eq_nil_iff] at hkept
  exact ⟨List.map_eq_nil_iff.mp hkept.1.1, hkept.1.2, List.map_eq_nil_iff.mp hkept.2⟩

/-- A peer that got nothing from its handler's channel: gathering and the handler may
have been switched on, and the remote description set. -/
structure PeerExtends (before next : Peer env.Candidate) : Prop where
  channel : next.channel = before.channel
  ended : next.ended = before.ended
  gathering : before.gathering = true → next.gathering = true
  handler : before.handler = true → next.handler = true

namespace PeerExtends

variable {peer : Peer env.Candidate}

theorem refl : PeerExtends peer peer := ⟨rfl, rfl, id, id⟩

theorem setLocal : PeerExtends peer { peer with gathering := true } := ⟨rfl, rfl, fun _ => rfl, id⟩

theorem setRemote : PeerExtends peer { peer with remoteDescription := true } := ⟨rfl, rfl, id, id⟩

theorem register : PeerExtends peer { peer with handler := true } := ⟨rfl, rfl, id, fun _ => rfl⟩

end PeerExtends

/-- A step of the program that leaves the events and the channel alone. -/
theorem Conserves.move {OtherPhase : Type} {phase : OtherPhase} {peer : Peer env.Candidate}
    {added : Nat → List (AddedCandidate env.CandidateInit)}
    (hkeeps : endpoint.Conserves convert sent) (hpeer : PeerExtends endpoint.peer peer) :
    Conserves convert
      ⟨endpoint.round, phase, peer, endpoint.emitted, endpoint.dropped, added⟩ sent where
  kept round := by
    simp only [held, hpeer.channel]
    exact hkeeps.kept round
  gathered := hkeeps.gathered
  ended hmarker := by
    rw [hpeer.ended]
    exact hkeeps.ended hmarker
  started hidle := by
    apply hkeeps.started
    rw [← Bool.not_eq_true] at hidle ⊢
    exact fun hbefore => hidle (hpeer.gathering hbefore)
  quiet hidle := by
    rw [hpeer.channel]
    apply hkeeps.quiet
    rw [← Bool.not_eq_true] at hidle ⊢
    exact fun hbefore => hidle (hpeer.handler hbefore)
  fresh := hkeeps.fresh

/-- What an emission does: with a handler the event enters the channel, without
one it is dropped. -/
theorem emit_eq_some {next : Endpoint env Phase} {ice : Option env.Candidate}
    (hemit : endpoint.emit ice = some next) :
    endpoint.peer.gathering = true ∧ endpoint.peer.ended = false ∧
      next.emitted = Function.update endpoint.emitted endpoint.round
        (endpoint.emitted endpoint.round ++ [ice]) ∧
      ((endpoint.peer.handler = true ∧ next = { endpoint with
          emitted := next.emitted
          peer := { endpoint.peer with
            ended := ice.isNone, channel := endpoint.peer.channel.offer ice } }) ∨
       (endpoint.peer.handler = false ∧ next = { endpoint with
          emitted := next.emitted
          peer := { endpoint.peer with ended := ice.isNone }
          dropped := Function.update endpoint.dropped endpoint.round
            (endpoint.dropped endpoint.round ++ [ice]) })) := by
  unfold emit at hemit
  split at hemit
  next henabled =>
    split at hemit
    next hhandler =>
      obtain rfl := Option.some.inj hemit
      exact ⟨henabled.1, by simpa using henabled.2, rfl, .inl ⟨hhandler, rfl⟩⟩
    next hhandler =>
      obtain rfl := Option.some.inj hemit
      exact ⟨henabled.1, by simpa using henabled.2, rfl, .inr ⟨by simpa using hhandler, rfl⟩⟩
  · cases hemit

/-- Gathering does not move the program. -/
theorem emit_frame {next : Endpoint env Phase} {ice : Option env.Candidate}
    (hemit : endpoint.emit ice = some next) :
    next.phase = endpoint.phase ∧ next.round = endpoint.round := by
  obtain ⟨_, _, _, ⟨_, hnext⟩ | ⟨_, hnext⟩⟩ := emit_eq_some hemit <;>
    rw [hnext] <;>
    exact ⟨rfl, rfl⟩

theorem enqueue_frame {next : Endpoint env Phase} (henqueue : endpoint.enqueue = some next) :
    next.phase = endpoint.phase ∧ next.round = endpoint.round := by
  obtain ⟨channel, _, rfl⟩ := Option.map_eq_some_iff.mp henqueue
  exact ⟨rfl, rfl⟩

/-- An emitted event goes into the channel, or is dropped before anything was sent. -/
theorem Conserves.emit {next : Endpoint env Phase} {ice : Option env.Candidate}
    (hkeeps : endpoint.Conserves convert sent) (hemit : endpoint.emit ice = some next) :
    next.Conserves convert sent := by
  obtain ⟨hgathering, hrunning, hemitted, hnext⟩ := emit_eq_some hemit
  have hopen : none ∉ endpoint.emitted endpoint.round :=
    fun hmarker => absurd (hrunning.symm.trans (hkeeps.ended hmarker)) Bool.false_ne_true
  have hgathered : ∀ round, Gathered (next.emitted round) := by
    intro round
    rw [hemitted]
    by_cases hround : round = endpoint.round
    · subst hround
      rw [Function.update_self]
      exact (hkeeps.gathered _).emit hopen ice
    · rw [Function.update_of_ne hround]
      exact hkeeps.gathered round
  have hended : none ∈ next.emitted endpoint.round → ice.isNone = true := by
    rw [hemitted, Function.update_self, List.mem_append, List.mem_singleton]
    rintro (hmarker | rfl)
    · exact absurd hmarker hopen
    · rfl
  have hfresh : ∀ round, endpoint.round < round → next.emitted round = [] := by
    intro round hlater
    rw [hemitted, Function.update_of_ne hlater.ne']
    exact hkeeps.fresh round hlater
  rcases hnext with ⟨hhandler, hnext⟩ | ⟨hhandler, hnext⟩
  · rw [hnext]
    refine ⟨?_, hgathered, hended, fun hidle => ?_, fun hidle => ?_, hfresh⟩
    · intro round
      by_cases hround : round = endpoint.round
      · subst hround
        simp [held, hemitted, hkeeps.kept, List.append_assoc]
      · simpa [held, hround, hemitted] using hkeeps.kept round
    · exact absurd (hidle.symm.trans hgathering) Bool.false_ne_true
    · exact absurd (hidle.symm.trans hhandler) Bool.false_ne_true
  · -- Without a handler the channel has never been used in this round.
    have hquiet := hkeeps.quiet hhandler
    rw [hnext]
    refine ⟨?_, hgathered, hended, fun hidle => ?_, hkeeps.quiet, hfresh⟩
    · intro round
      by_cases hround : round = endpoint.round
      · subst hround
        simp [held, hemitted, hkeeps.kept, hquiet.1, hquiet.2]
      · simpa [held, hround, hemitted] using hkeeps.kept round
    · exact absurd (hidle.symm.trans hgathering) Bool.false_ne_true

theorem Conserves.enqueue {next : Endpoint env Phase} (hkeeps : endpoint.Conserves convert sent)
    (henqueue : endpoint.enqueue = some next) : next.Conserves convert sent := by
  obtain ⟨channel, hchannel, rfl⟩ := Option.map_eq_some_iff.mp henqueue
  have hcontents := Mailbox.contents_enqueue hchannel
  refine ⟨?_, hkeeps.gathered, hkeeps.ended, hkeeps.started, ?_, hkeeps.fresh⟩
  · simpa only [held, hcontents] using hkeeps.kept
  · simpa only [hcontents] using hkeeps.quiet

/-- An opening message carries no candidate. -/
theorem Conserves.sendOpening (hkeeps : endpoint.Conserves convert sent) (round : Nat)
    (description : env.Sdp) :
    endpoint.Conserves convert (sent ++ [.opening round description]) := by
  refine ⟨?_, hkeeps.gathered, hkeeps.ended, hkeeps.started, ?_, hkeeps.fresh⟩
  · simpa using hkeeps.kept
  · simpa using hkeeps.quiet

/-- The loop takes the oldest event from the channel and sends it. -/
theorem Conserves.sendIce {ice : Option env.Candidate} {channel : Mailbox (Option env.Candidate) 3}
    (hkeeps : endpoint.Conserves convert sent)
    (htake : endpoint.peer.channel.take = some (ice, channel)) (phase : Phase) :
    Conserves convert
      { endpoint with phase := phase, peer := { endpoint.peer with channel := channel } }
      (sent ++ [.candidate endpoint.round (ice.map convert)]) := by
  have hcontents := Mailbox.contents_take htake
  refine ⟨?_, hkeeps.gathered, hkeeps.ended, hkeeps.started, ?_, hkeeps.fresh⟩
  · intro round
    have hkept := hkeeps.kept round
    by_cases hround : round = endpoint.round
    · subst hround
      rw [held_self, hcontents] at hkept
      rw [hkept]
      simp [held]
    · rw [held_of_ne hround] at hkept
      simp [held, hround, Frame.ices_candidate_of_ne (Ne.symm hround), hkept]
  · intro hidle
    -- Without a handler there was nothing to take.
    have hquiet := (hkeeps.quiet hidle).2
    simp [hcontents] at hquiet

/-- A round is left when the end marker has been sent; then its channel is empty. -/
theorem Conserves.contents_eq_nil (hkeeps : endpoint.Conserves convert sent)
    (hmarker : none ∈ Frame.ices endpoint.round sent) : endpoint.peer.channel.contents = [] := by
  have hgathered := (hkeeps.gathered endpoint.round).map convert
  rw [hkeeps.kept, held_self] at hgathered
  exact List.map_eq_nil_iff.mp (hgathered.eq_nil_of_mem (List.mem_append_right _ hmarker))

theorem Conserves.nextRound (hkeeps : endpoint.Conserves convert sent)
    (hmarker : none ∈ Frame.ices endpoint.round sent) (phase : Phase) :
    (endpoint.nextRound phase).Conserves convert sent := by
  have hfresh := hkeeps.fresh (endpoint.round + 1) (Nat.lt_succ_self _)
  have hempty := hkeeps.empty_of_emitted hfresh
  refine ⟨?_, hkeeps.gathered, ?_, fun _ => hfresh, fun _ => ⟨hempty.2.1, rfl⟩, ?_⟩
  · intro round
    have hheld : (endpoint.nextRound phase).held round = [] := by
      unfold held
      split <;> rfl
    have hbefore : endpoint.held round = [] := by
      unfold held
      split
      · exact hkeeps.contents_eq_nil hmarker
      · rfl
    rw [hheld, ← hbefore]
    exact hkeeps.kept round
  · intro hended
    simp [Endpoint.nextRound, hfresh] at hended
  · intro round hlater
    exact hkeeps.fresh round (Nat.lt_of_succ_lt hlater)

/-- A round whose end marker was sent without losses was sent completely. -/
theorem Conserves.exists_candidates (hkeeps : endpoint.Conserves convert sent) {round : Nat}
    (hdropped : endpoint.dropped round = []) (hmarker : none ∈ Frame.ices round sent) :
    ∃ candidates : List env.Candidate, endpoint.emitted round = candidates.map some ++ [none] ∧
      Frame.ices round sent = (candidates.map convert).map some ++ [none] := by
  have hkept := hkeeps.kept round
  rw [hdropped, List.map_nil, List.nil_append] at hkept
  have hgathered := (hkeeps.gathered round).map convert
  rw [hkept] at hgathered
  rw [hgathered.eq_nil_of_mem hmarker, List.append_nil] at hkept
  have hemitted : none ∈ endpoint.emitted round := by
    rw [← hkept, List.mem_map] at hmarker
    obtain ⟨ice, hmem, hnone⟩ := hmarker
    rwa [Option.map_eq_none_iff.mp hnone] at hmem
  obtain ⟨candidates, hcomplete⟩ := (hkeeps.gathered round).exists_complete hemitted
  refine ⟨candidates, hcomplete, ?_⟩
  rw [← hkept, hcomplete]
  simp [Function.comp_def]

variable {fromWire : Item → env.CandidateInit} {pending : List Item}
variable {delivered : List (Frame env.Sdp Item)}

theorem applies_start (phase : Phase) :
    (start phase : Endpoint env Phase).Applies fromWire [] [] where
  kept round := by simp [start]
  afterRemote round candidate hmem := by simp [start] at hmem

/-- A step that leaves the round, the added candidates and the pending ones alone. -/
theorem Applies.move {OtherPhase : Type} {phase : OtherPhase} {peer : Peer env.Candidate}
    {emitted dropped : Nat → List (Option env.Candidate)}
    (happlies : endpoint.Applies fromWire pending delivered) :
    Applies fromWire ⟨endpoint.round, phase, peer, emitted, dropped, endpoint.added⟩
      pending delivered :=
  ⟨happlies.kept, happlies.afterRemote⟩

/-- The oldest pending candidate is added to the peer. -/
theorem Applies.add {candidate : Item} (phase : Phase)
    (happlies : endpoint.Applies fromWire (candidate :: pending) delivered)
    (hremote : endpoint.peer.remoteDescription = true) :
    Applies fromWire { endpoint.addIceCandidate (fromWire candidate) with phase := phase }
      pending delivered where
  kept round := by
    rw [happlies.kept]
    by_cases hround : round = endpoint.round
    · subst hround
      simp [addIceCandidate]
    · simp [addIceCandidate, hround]
  afterRemote round added hmem := by
    by_cases hround : round = endpoint.round
    · subst hround
      simp only [addIceCandidate, Function.update_self, List.mem_append,
        List.mem_singleton] at hmem
      rcases hmem with hmem | rfl
      · exact happlies.afterRemote _ added hmem
      · exact hremote
    · simp only [addIceCandidate, Function.update_of_ne hround] at hmem
      exact happlies.afterRemote round added hmem

/-- A received message of the current round adds its candidate to the pending ones. -/
theorem Applies.deliver {frame : Frame env.Sdp Item}
    (happlies : endpoint.Applies fromWire pending delivered)
    (hround : frame.round = endpoint.round) :
    endpoint.Applies fromWire (pending ++ (Frame.ices endpoint.round [frame]).reduceOption)
      (delivered ++ [frame]) where
  kept round := by
    rw [Frame.ices_append, List.reduceOption_append, List.map_append, happlies.kept]
    by_cases hcurrent : round = endpoint.round
    · simp [hcurrent]
    · have hnone : Frame.ices round [frame] = [] :=
        Frame.ices_eq_nil fun other hother =>
          List.mem_singleton.mp hother ▸ hround ▸ Ne.symm hcurrent
      simp [hnone, hcurrent]
  afterRemote := happlies.afterRemote

/-- Once nothing is pending, all that was received in a round has been added. -/
theorem Applies.added_eq (happlies : endpoint.Applies fromWire pending delivered) {round : Nat}
    (hpending : round = endpoint.round → pending = []) :
    endpoint.added round = (Frame.ices round delivered).reduceOption.map
      fun candidate => ⟨fromWire candidate, true⟩ := by
  have hkept := happlies.kept round
  have hnone : (if round = endpoint.round then pending.map fromWire else []) = [] := by
    split
    next hcurrent => rw [hpending hcurrent, List.map_nil]
    · rfl
  rw [hnone, List.append_nil] at hkept
  have hremote : (endpoint.added round).map (fun added => (⟨added.candidate, true⟩ :
      AddedCandidate env.CandidateInit)) = endpoint.added round := by
    rw [List.map_congr_left (g := id), List.map_id]
    intro added hmem
    rw [← happlies.afterRemote round added hmem]
    rfl
  rw [← hremote, ← Function.comp_def (fun candidate => (⟨candidate, true⟩ :
    AddedCandidate env.CandidateInit)) AddedCandidate.candidate, ← List.map_map, ← hkept,
    List.map_map]
  rfl

theorem Applies.nextRound (happlies : endpoint.Applies fromWire [] delivered) (phase : Phase) :
    (endpoint.nextRound phase).Applies fromWire [] delivered where
  kept round := by simpa [Endpoint.nextRound] using happlies.kept round
  afterRemote := happlies.afterRemote

end Endpoint

end MangleWebRTC.Upgrade
