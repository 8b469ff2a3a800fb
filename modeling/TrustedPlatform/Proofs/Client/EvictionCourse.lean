import Mathlib.Data.List.Nodup
import Mathlib.Data.List.Perm.Subperm
import TrustedPlatform.Channel.Script
import TrustedPlatform.Proofs.Client.Eviction

/-!
# How long evicting every key takes

A client that evicts every key stops if the key that it evicted last is listed again; keys that it
evicted before that one it does not remember.  So it evicts every key once, and comes to an end, as
long as the module brings back none of those (`Client.evictAll_turns`).  A module that does has keys
evicted twice, and may keep a client busy for ever (`Shuttle.never_ends`).
-/

set_option autoImplicit false

namespace TrustedPlatform

namespace Evicting

variable {last : Option UInt32} {evicted allowance : Nat} {inventory after : Inventory}
  {rounds : List EvictionRound} {final? : Option (Except Fault Bytes)}
  {outcome : Except Fault (Option Nat)}

theorem heads (evicting : Evicting last evicted allowance inventory rounds final? outcome after) :
    ∀ round ∈ rounds, ∃ others, listedKeys round.listing = .ok (round.handle :: others) := by
  induction evicting with
  | paused _ _ _ => simp
  | unlisted _ _ _ _ _ _ _ => simp
  | emptied _ _ _ _ _ _ => simp
  | still _ _ _ _ _ _ _ _ => simp
  | kept _ _ _ _ round others _ listed _ _ =>
    intro other member
    obtain rfl := List.mem_singleton.mp member
    exact ⟨others, listed⟩
  | evicts _ _ _ _ _ round others rounds _ _ listed _ _ _ inductionHypothesis =>
    intro other member
    rcases List.mem_cons.mp member with rfl | later
    · exact ⟨others, listed⟩
    · exact inductionHypothesis other later

theorem gone_of_first {previous : UInt32} {round : EvictionRound} {handles : List UInt32}
    (evicting : Evicting (some previous) evicted allowance inventory (round :: rounds) final?
      outcome after)
    (listed : listedKeys round.listing = .ok handles) : previous ∉ handles := by
  cases evicting with
  | kept _ _ _ _ _ others _ also gone _ =>
    rw [listed] at also
    cases also
    exact gone previous rfl
  | evicts _ _ _ _ _ _ others _ _ _ also gone _ _ =>
    rw [listed] at also
    cases also
    exact gone previous rfl

/-- After some rounds it goes on in the same way, unless the last of them was the end. -/
theorem split (early late : List EvictionRound) (round : EvictionRound)
    (evicting : Evicting last evicted allowance inventory (early ++ round :: late) final? outcome
      after) :
    (late = [] ∧ final? = none) ∨ ∃ evicted allowance inventory,
      Evicting (some round.handle) evicted allowance inventory late final? outcome after := by
  induction early generalizing last evicted allowance inventory with
  | nil =>
    cases evicting with
    | kept _ _ _ _ _ _ _ _ _ _ => exact Or.inl ⟨rfl, rfl⟩
    | evicts _ _ _ _ _ _ _ _ _ _ _ _ _ goesOn => exact Or.inr ⟨_, _, _, goesOn⟩
  | cons first early inductionHypothesis =>
    generalize together : first :: early ++ round :: late = whole at evicting
    cases evicting with
    | paused _ _ _ => cases together
    | unlisted _ _ _ _ _ _ _ => cases together
    | emptied _ _ _ _ _ _ => cases together
    | still _ _ _ _ _ _ _ _ => cases together
    | kept _ _ _ _ _ _ _ _ _ _ => simp at together
    | evicts _ _ _ _ _ _ _ _ _ _ _ _ _ goesOn =>
      obtain ⟨rfl, rfl⟩ := List.cons.inj together
      exact inductionHypothesis goesOn

theorem apart (early late : List EvictionRound) (round next : EvictionRound)
    (handles : List UInt32)
    (evicting : Evicting last evicted allowance inventory (early ++ round :: next :: late) final?
      outcome after)
    (listed : listedKeys next.listing = .ok handles) : round.handle ∉ handles := by
  rcases evicting.split early (next :: late) round with ⟨nothing, _⟩ | ⟨_, _, _, goesOn⟩
  · cases nothing
  · exact goesOn.gone_of_first listed

end Evicting

/-- How evicting every key ends, after some rounds and perhaps a last listing.  A listing with keys
in it ends it only if the key evicted last is among them. -/
inductive EvictionEnds {σ : Type} [Channel σ] (link : Link (Tapped σ)) (allowance : Nat)
    (rounds : List EvictionRound) : Option (Except Fault Bytes) → Except Fault (Option Nat) → Prop
    where
  | paused (all : rounds.length = allowance) : EvictionEnds link allowance rounds none (.ok none)
  | unreached (fault : Fault) (stuck : link.Stuck fault) (unsent : rounds = []) :
      EvictionEnds link allowance rounds none (.error fault)
  | kept (early : List EvictionRound) (round : EvictionRound) (fault : Fault)
      (last : rounds = early ++ [round]) (failed : evictionOf round.eviction = .error fault) :
      EvictionEnds link allowance rounds none (.error fault)
  | unlisted (answer : Except Fault Bytes) (fault : Fault)
      (failed : listedKeys answer = .error fault) :
      EvictionEnds link allowance rounds (some answer) (.error fault)
  | emptied (answer : Except Fault Bytes) (listed : listedKeys answer = .ok []) :
      EvictionEnds link allowance rounds (some answer) (.ok (some rounds.length))
  | still (early : List EvictionRound) (round : EvictionRound) (answer : Except Fault Bytes)
      (handles : List UInt32) (last : rounds = early ++ [round])
      (listed : listedKeys answer = .ok handles) (among : round.handle ∈ handles) :
      EvictionEnds link allowance rounds (some answer)
        (.error (.malformed (.stillListed round.handle)))

theorem Evicting.ends {σ : Type} [Channel σ] (link : Link (Tapped σ)) {last : Option UInt32}
    {evicted allowance : Nat} {inventory after : Inventory} {rounds : List EvictionRound}
    {final? : Option (Except Fault Bytes)} {outcome : Except Fault (Option Nat)}
    (evicting : Evicting last evicted allowance inventory rounds final? outcome after)
    (early : List EvictionRound) (follows : last = early.getLast?.map EvictionRound.handle)
    (counted : evicted = early.length) :
    EvictionEnds link (early.length + allowance) (early ++ rounds) final? outcome := by
  induction evicting generalizing early with
  | paused _ _ _ => exact .paused List.length_append
  | unlisted _ _ _ _ answer fault failed => exact .unlisted answer fault failed
  | emptied _ _ _ _ answer listed =>
    rw [List.append_nil, counted]
    exact .emptied answer listed
  | still previous _ _ _ answer handles listed among =>
    obtain ⟨round, isLast, rfl⟩ := Option.map_eq_some_iff.mp follows.symm
    obtain ⟨init, rfl⟩ := List.getLast?_eq_some_iff.mp isLast
    exact .still init round answer handles (List.append_nil _) listed among
  | kept _ _ _ _ round _ fault _ _ failed => exact .kept early round fault rfl failed
  | evicts _ _ allowance _ _ round _ rounds _ _ _ _ _ _ inductionHypothesis =>
    have goesOn := inductionHypothesis (early ++ [round]) (by simp) (by simp [counted])
    rw [List.length_append, List.length_singleton, List.append_assoc, Nat.add_assoc,
      Nat.add_comm 1 allowance] at goesOn
    exact goesOn

theorem Evicting.ends_of_first {σ : Type} [Channel σ] (link : Link (Tapped σ)) {allowance : Nat}
    {inventory after : Inventory} {rounds : List EvictionRound}
    {final? : Option (Except Fault Bytes)} {outcome : Except Fault (Option Nat)}
    (evicting : Evicting none 0 allowance inventory rounds final? outcome after) :
    EvictionEnds link allowance rounds final? outcome := by
  have ends := evicting.ends link [] rfl rfl
  rw [List.length_nil, Nat.zero_add, List.nil_append] at ends
  exact ends

namespace EvictionEnds

variable {σ : Type} [Channel σ] {link : Link (Tapped σ)} {allowance : Nat}
  {rounds : List EvictionRound} {final? : Option (Except Fault Bytes)}
  {outcome : Except Fault (Option Nat)}

/-- A last listing with keys in it lists the one that was evicted last. -/
theorem among_of_listed (ends : EvictionEnds link allowance rounds final? outcome)
    (answer : Except Fault Bytes) (handles : List UInt32) (isFinal : final? = some answer)
    (listed : listedKeys answer = .ok handles) (some : handles ≠ []) :
    ∃ early round, rounds = early ++ [round] ∧ round.handle ∈ handles ∧
      outcome = .error (.malformed (.stillListed round.handle)) := by
  cases ends with
  | paused _ => cases isFinal
  | unreached _ _ _ => cases isFinal
  | kept _ _ _ _ _ => cases isFinal
  | unlisted _ _ failed =>
    cases isFinal
    rw [listed] at failed
    cases failed
  | emptied _ also =>
    cases isFinal
    rw [listed] at also
    cases also
    exact absurd rfl some
  | still early round _ _ last also among =>
    cases isFinal
    rw [listed] at also
    cases also
    exact ⟨early, round, last, among, rfl⟩

theorem length_of_paused (ends : EvictionEnds link allowance rounds final? outcome)
    (paused : outcome = .ok none) : rounds.length = allowance := by
  cases ends with
  | paused all => exact all
  | unreached _ _ _ => cases paused
  | kept _ _ _ _ _ => cases paused
  | unlisted _ _ _ => cases paused
  | emptied _ _ => cases paused
  | still _ _ _ _ _ _ _ => cases paused

end EvictionEnds

/-- In no round is a key listed that was evicted before the one evicted last. -/
def StayGone (rounds : List EvictionRound) : Prop :=
  ∀ early round next late handles, rounds = early ++ round :: next :: late →
    listedKeys next.listing = .ok handles → ∀ earlier ∈ early, earlier.handle ∉ handles

theorem length_le_of_nodup (handles : List UInt32) (nodup : handles.Nodup) :
    handles.length ≤ UInt32.size := by
  have numbers : (handles.map UInt32.toNat).Nodup :=
    List.Nodup.map (fun first second same => UInt32.toNat_inj.mp same) nodup
  have within : handles.map UInt32.toNat ⊆ List.range UInt32.size := by
    intro number member
    obtain ⟨handle, _, rfl⟩ := List.mem_map.mp member
    exact List.mem_range.mpr handle.toNat_lt
  have bound := (numbers.subperm within).length_le
  rw [List.length_map, List.length_range] at bound
  exact bound

/-- How every key is evicted from a module that may answer whatever it likes. -/
structure EvictionTurns {σ : Type} [Channel σ] (link : Link (Tapped σ)) (allowance : Nat)
    (rounds : List EvictionRound) (final? : Option (Except Fault Bytes))
    (outcome : Except Fault (Option Nat)) : Prop where
  heads : ∀ round ∈ rounds, ∃ others, listedKeys round.listing = .ok (round.handle :: others)
  apart : ∀ early round next late handles, rounds = early ++ round :: next :: late →
    listedKeys next.listing = .ok handles → round.handle ∉ handles
  still : ∀ early round answer handles, rounds = early ++ [round] → final? = some answer →
    listedKeys answer = .ok handles → round.handle ∈ handles →
    outcome = .error (.malformed (.stillListed round.handle))
  -- A listing with keys in it, but without the one evicted last, is not the last one: its first key
  -- is evicted, whether it was evicted before or not.
  goesOn : ∀ answer handles, listedKeys answer = .ok handles → handles ≠ [] →
    (∀ early round, rounds = early ++ [round] → round.handle ∉ handles) → final? ≠ some answer
  ends : EvictionEnds link allowance rounds final? outcome
  -- What is not brought back is evicted once, and that comes to an end.
  once : StayGone rounds →
    (rounds.map EvictionRound.handle).Nodup ∧ rounds.length ≤ UInt32.size ∧
      (UInt32.size < allowance → outcome ≠ .ok none)

namespace EvictionTurns

/-- The key of a round is in no later listing, so that it is not the key of a later round. -/
theorem nodup_of_stayGone (early late : List EvictionRound)
    (heads : ∀ round ∈ early ++ late, ∃ others,
      listedKeys round.listing = .ok (round.handle :: others))
    (unlisted : ∀ front round back handles, early ++ late = front ++ round :: back →
      listedKeys round.listing = .ok handles → ∀ earlier ∈ front, earlier.handle ∉ handles)
    (nodup : (early.map EvictionRound.handle).Nodup) :
    ((early ++ late).map EvictionRound.handle).Nodup := by
  induction late generalizing early with
  | nil => simpa using nodup
  | cons round late inductionHypothesis =>
    have together : early ++ round :: late = (early ++ [round]) ++ late := by simp
    rw [together] at heads unlisted ⊢
    refine inductionHypothesis (early ++ [round]) heads unlisted ?_
    obtain ⟨others, listed⟩ := heads round (by simp)
    rw [List.map_append, List.nodup_append]
    refine ⟨nodup, by simp, ?_⟩
    intro handle isEarlier other isLast
    obtain ⟨earlier, member, rfl⟩ := List.mem_map.mp isEarlier
    obtain rfl : other = round.handle := by simpa using isLast
    have absent := unlisted early round late _ (by simp) listed earlier member
    exact fun same => absent (same ▸ List.mem_cons_self)

variable {σ : Type} [Channel σ] {allowance : Nat} {rounds : List EvictionRound}
  {final? : Option (Except Fault Bytes)} {outcome : Except Fault (Option Nat)}

theorem of_evicting (link : Link (Tapped σ)) {inventory after : Inventory}
    (evicting : Evicting none 0 allowance inventory rounds final? outcome after) :
    EvictionTurns link allowance rounds final? outcome where
  heads := evicting.heads
  apart := by
    rintro early round next late handles rfl listed
    exact Evicting.apart early late round next handles evicting listed
  still := by
    intro early round answer handles last isFinal listed among
    obtain ⟨init, also, same, _, failed⟩ := (evicting.ends_of_first link).among_of_listed answer
      handles isFinal listed (List.ne_nil_of_mem among)
    rw [last] at same
    obtain ⟨_, ⟨⟩⟩ := List.append_inj' same rfl
    exact failed
  goesOn := by
    intro answer handles listed some gone isFinal
    obtain ⟨early, round, last, among, _⟩ :=
      (evicting.ends_of_first link).among_of_listed answer handles isFinal listed some
    exact gone early round last among
  ends := evicting.ends_of_first link
  once := by
    intro gone
    have unlisted : ∀ front round back handles, [] ++ rounds = front ++ round :: back →
        listedKeys round.listing = .ok handles → ∀ earlier ∈ front, earlier.handle ∉ handles := by
      intro front round back handles together listed earlier member
      obtain ⟨init, previous, rfl⟩ := List.eq_nil_or_concat front |>.resolve_left
        (List.ne_nil_of_mem member)
      have shape : rounds = init ++ previous :: round :: back := by simpa using together
      rw [List.concat_eq_append, List.mem_append, List.mem_singleton] at member
      rcases member with before | rfl
      · exact gone init previous round back handles shape listed earlier before
      · subst shape
        exact Evicting.apart init back earlier round handles evicting listed
    have nodup := nodup_of_stayGone [] rounds evicting.heads unlisted List.nodup_nil
    have bound := length_le_of_nodup _ nodup
    rw [List.length_map] at bound
    refine ⟨nodup, bound, ?_⟩
    intro many paused
    have all := (evicting.ends_of_first link).length_of_paused paused
    have few : rounds.length ≤ UInt32.size := bound
    omega

theorem of_stuck (link : Link (Tapped σ)) (fault : Fault) (stuck : link.Stuck fault) :
    EvictionTurns link allowance [] none (.error fault) where
  heads := by simp
  apart := by simp
  still := by simp
  goesOn := by simp
  ends := .unreached fault stuck rfl
  once _ := by simp

end EvictionTurns

namespace Client

variable {σ : Type} [Channel σ]

/-- Keys that were all evicted, or a fault, come of more rounds as well. -/
theorem evictListed_of_more (more allowance : Nat) (last : Option UInt32) (evicted : Nat)
    (client : Client σ) (ended : ((evictListed last evicted allowance).run client).1 ≠ .ok none) :
    (evictListed last evicted (allowance + more)).run client =
      (evictListed last evicted allowance).run client := by
  induction allowance generalizing last evicted client with
  | zero => exact absurd rfl ended
  | succ allowance inductionHypothesis =>
    rw [Nat.succ_add]
    rw [evictListed, Action.run_bind] at ended ⊢
    rw [evictListed, Action.run_bind]
    cases listed : (listKeys : Action Fault (Client σ) (List UInt32)).run client with
    | mk found listing =>
      rw [listed] at ended
      cases found with
      | error fault => rfl
      | ok handles =>
        cases handles with
        | nil => rfl
        | cons next others =>
          dsimp only at ended ⊢
          cases among : last.filter (next :: others).contains with
          | some previous => rfl
          | none =>
            rw [among] at ended
            dsimp only at ended ⊢
            rw [Action.run_bind] at ended ⊢
            rw [Action.run_bind]
            cases evicts : (evictKey next : Action Fault (Client σ) Unit).run listing with
            | mk done eviction =>
              rw [evicts] at ended
              cases done with
              | error fault => rfl
              | ok _ => exact inductionHypothesis (some next) (evicted + 1) eviction ended

theorem run_evictListed_of_stuck (allowance : Nat) (client : Client (Tapped σ)) (fault : Fault)
    (stuck : client.link.Stuck fault) :
    ∃ link, (evictListed none 0 (allowance + 1)).run client =
        (.error fault, { client with link }) ∧
      link.record = client.link.record := by
  cases transmitted : (Link.transmit Command.listingKeys.plainFrame).run client.link with
  | mk answer link =>
    obtain ⟨rfl, same⟩ := Link.unsent_of_stuck _ _ _ _ transmitted fault stuck
    refine ⟨link, ?_, same⟩
    rw [evictListed, Action.run_bind, run_listKeys client _ link transmitted]
    rfl

/-- How every key is evicted from a module, whatever it answers. -/
theorem evictAll_turns (allowance : Nat) (client : Client (Tapped σ)) :
    ∃ rounds final? outcome link inventory,
      (evictAll allowance).run client = (outcome, { client with link, inventory }) ∧
      link.record = client.link.record ++ EvictionRound.sent rounds final? ∧
      EvictionTurns client.link allowance rounds final? outcome ∧
      (outcome ≠ .ok none → ∀ more,
        (evictAll (allowance + more)).run client = (outcome, { client with link, inventory })) := by
  have extend : ∀ outcome after, (evictAll allowance).run client = (outcome, after) →
      outcome ≠ .ok none → ∀ more, (evictAll (allowance + more)).run client = (outcome, after) := by
    intro outcome after ran ended more
    rw [← ran]
    exact evictListed_of_more more allowance none 0 client (by
      change ((evictAll allowance).run client).1 ≠ .ok none
      rw [ran]
      exact ended)
  rcases client.link.ready_or_stuck with ready | ⟨fault, stuck⟩
  · obtain ⟨rounds, final?, outcome, link, inventory, ran, recorded, evicting⟩ :=
      run_evictListed allowance none 0 client ready
    exact ⟨rounds, final?, outcome, link, inventory, ran, recorded, .of_evicting _ evicting,
      extend outcome _ ran⟩
  · cases allowance with
    | zero =>
      exact ⟨[], none, .ok none, client.link, client.inventory, rfl, (List.append_nil _).symm,
        .of_evicting _ (.paused none 0 client.inventory), extend _ _ rfl⟩
    | succ allowance =>
      obtain ⟨link, ran, same⟩ := run_evictListed_of_stuck allowance client fault stuck
      refine ⟨[], none, .error fault, link, client.inventory, ran, ?_, .of_stuck _ fault stuck,
        extend _ _ ran⟩
      rw [same]
      exact (List.append_nil _).symm

end Client

structure Shuttle where
  key : UInt32
  other : UInt32
  listed : Bool

namespace Shuttle

def eviction : Bytes := (Command.success .response ⟨[], []⟩ []).frame

def answer (shuttle : Shuttle) : Bytes :=
  if shuttle.listed then eviction else HandleList.answer ⟨[shuttle.key]⟩

def next (shuttle : Shuttle) : Shuttle :=
  if shuttle.listed then ⟨shuttle.other, shuttle.key, false⟩ else { shuttle with listed := true }

instance : Channel Shuttle where
  send _ := pure ()
  receive := ⟨fun shuttle => (.ok shuttle.answer, shuttle.next)⟩
  reopen := pure ()
  endpoint _ := "shuttle"

def client (key other : UInt32) : Client (Tapped Shuttle) :=
  .fresh ⟨⟨key, other, false⟩, none, []⟩ ⟨fun _ => Block.replicate 20 0, 0⟩ 1

theorem transmit_shuttle (request : Bytes) (shuttle : Shuttle) (record : List Exchange) :
    (Link.transmit request).run (.fresh (⟨shuttle, none, record⟩ : Tapped Shuttle)) =
      (.ok shuttle.answer,
        .fresh ⟨shuttle.next, none, record ++ [⟨request, .ok shuttle.answer⟩]⟩) := rfl

/-- The key that is listed is never the one evicted last, so that no number of rounds is enough. -/
theorem evictListed_paused (allowance : Nat) (key other : UInt32) (apart : key ≠ other)
    (last : Option UInt32) (gone : key ∉ last) (evicted : Nat) (record : List Exchange)
    (client : Client (Tapped Shuttle))
    (before : client.link = .fresh ⟨⟨key, other, false⟩, none, record⟩) :
    ((Client.evictListed last evicted allowance).run client).1 = .ok none := by
  induction allowance generalizing key other last evicted record client with
  | zero => rfl
  | succ allowance inductionHypothesis =>
    have listing := transmit_shuttle Command.listingKeys.plainFrame ⟨key, other, false⟩ record
    have evicting := transmit_shuttle (Command.evicting key).plainFrame
      (Shuttle.next ⟨key, other, false⟩) (record ++ [⟨Command.listingKeys.plainFrame,
        .ok (Shuttle.answer ⟨key, other, false⟩)⟩])
    have absent : last.filter ([key] : List UInt32).contains = none := by
      rw [Option.filter_eq_none_iff]
      intro previous isLast isListed
      rw [List.contains_iff_mem, List.mem_singleton] at isListed
      exact gone (isListed ▸ isLast)
    rw [← before] at listing
    rw [Client.evictListed, Action.run_bind, Client.run_listKeys client _ _ listing]
    have listed : listedKeys (.ok (Shuttle.answer ⟨key, other, false⟩)) = .ok [key] :=
      (listedKeys_eq_ok_iff _ _).mpr ⟨by simp, rfl⟩
    rw [listed]
    dsimp only
    rw [absent]
    dsimp only
    rw [Action.run_bind, Client.run_evictKey key _ _ _ evicting]
    exact inductionHypothesis other key apart.symm (some key) (by simpa using apart) (evicted + 1) _
      _ rfl

/-- A module that brings every key back is never rid of them, and has each of them evicted again. -/
theorem never_ends :
    (∀ allowance, ((Client.evictAll allowance).run (client 1 2)).1 = .ok none) ∧
      ((Client.evictAll 3).run (client 1 2)).2.link.record.map Exchange.request =
        [Command.listingKeys.plainFrame, (Command.evicting 1).plainFrame,
          Command.listingKeys.plainFrame, (Command.evicting 2).plainFrame,
          Command.listingKeys.plainFrame, (Command.evicting 1).plainFrame] := by
  constructor
  · intro allowance
    exact evictListed_paused allowance 1 2 (by decide) none (by simp) 0 [] _ rfl
  · rfl

end Shuttle

end TrustedPlatform
