import TrustedPlatform.Client.Key
import TrustedPlatform.Proofs.Client.Inquiry
import TrustedPlatform.Proofs.Module.KeyStore

/-!
# Evicting every key

A client that is to evict every key has the keys listed, evicts the first of them, and has them
listed again.  What such a conversation is like is said once, by `Evicting`, whatever a module
answers (`Client.run_evictListed`).  The client remembers the handle that it evicted last, and stops
if that is listed again.
-/

set_option autoImplicit false

namespace TrustedPlatform

namespace Command

def listingKeys : Command where
  ordinal := .getCapability
  parameters := keyListing

def evicting (handle : UInt32) : Command where
  ordinal := .evictKey
  handles := [handle]

end Command

namespace HandleList

def answer (list : HandleList) : Bytes :=
  (Command.success .response ⟨[], list.written.withLength⟩ []).frame

theorem length_answer (list : HandleList) : list.answer.length = 16 + 4 * list.handles.length := by
  unfold answer written
  rw [Response.length_frame]
  simp only [Command.success, Bytes.withLength, List.length_append, Bytes.length_bigEndian,
    Bytes.length_flatMap_word32, List.flatMap_nil, List.length_nil, headerSize]
  omega

theorem legible_iff (list : HandleList) :
    (∀ part ∈ list.parts, part.Legible) ↔ list.handles.length ≤ 65535 := by
  simp [parts, Part.Legible]

end HandleList

def listedKeys (answer : Except Fault Bytes) : Except Fault (List UInt32) :=
  Command.listingKeys.value Decoder.sized answer >>= fun list =>
    (HandleList.decode.complete list).map HandleList.handles

/-- An answer lists handles exactly when it is a success, and its output is the handles as they are
written, after their length. -/
theorem listedKeys_eq_ok_iff (answer : Except Fault Bytes) (handles : List UInt32) :
    listedKeys answer = .ok handles ↔
      handles.length ≤ 65535 ∧ answer = .ok (HandleList.answer ⟨handles⟩) := by
  unfold listedKeys
  rw [outcome_bind_eq_ok_iff]
  constructor
  · rintro ⟨list, found, decoded⟩
    obtain ⟨⟨others, parameters⟩, framed, _, none, sized⟩ :=
      (Command.value_eq_ok_iff _ _ _ _).mp found
    obtain rfl := List.length_eq_zero_iff.mp none
    obtain ⟨_, rfl⟩ := (Decoder.Reads.sized.complete_iff _ _).mp sized
    cases whole : HandleList.decode.complete list with
    | error fault =>
      rw [whole] at decoded
      cases decoded
    | ok listed =>
      rw [whole] at decoded
      cases decoded
      obtain ⟨few, rfl⟩ := (HandleList.reads.complete_iff _ _).mp whole
      exact ⟨listed.legible_iff.mp few, framed⟩
  · rintro ⟨few, rfl⟩
    have limit : Bytes.capacity 4 = 0x100000000 := rfl
    have size : (HandleList.answer ⟨handles⟩).length = 16 + 4 * handles.length :=
      HandleList.length_answer ⟨handles⟩
    have short : (HandleList.answer ⟨handles⟩).length < Bytes.capacity 4 := by omega
    have shorter : (HandleList.written ⟨handles⟩).length < Bytes.capacity 4 := by
      rw [HandleList.written, List.length_append, Bytes.length_bigEndian,
        Bytes.length_flatMap_word32]
      dsimp only
      omega
    refine ⟨HandleList.written ⟨handles⟩, (Command.value_eq_ok_iff _ _ _ _).mpr
      ⟨_, rfl, short, rfl, (Decoder.Reads.sized.complete_iff _ _).mpr ⟨shorter, rfl⟩⟩, ?_⟩
    rw [(HandleList.reads.complete_iff _ _).mpr
      ⟨(HandleList.legible_iff ⟨handles⟩).mpr few, rfl⟩]
    rfl

theorem received_of_listedKeys (answer : Except Fault Bytes) (handles : List UInt32)
    (listed : listedKeys answer = .ok handles) : ∃ response, answer = .ok response :=
  ⟨_, ((listedKeys_eq_ok_iff answer handles).mp listed).2⟩

def evictionOf (answer : Except Fault Bytes) : Except Fault Unit :=
  ((Command.evicting 0).read 0 answer).map fun _ => ()

theorem received_of_evictionOf (answer : Except Fault Bytes) (done : evictionOf answer = .ok ()) :
    ∃ response, answer = .ok response := by
  cases answer with
  | error fault => cases done
  | ok response => exact ⟨response, rfl⟩

/-- What was asked for one key: a listing that begins with it, and its eviction. -/
structure EvictionRound where
  listing : Except Fault Bytes
  handle : UInt32
  eviction : Except Fault Bytes

def listingExchange (answer : Except Fault Bytes) : Exchange :=
  ⟨Command.listingKeys.plainFrame, answer⟩

namespace EvictionRound

def exchanges (round : EvictionRound) : List Exchange :=
  [listingExchange round.listing, ⟨(Command.evicting round.handle).plainFrame, round.eviction⟩]

def sent (rounds : List EvictionRound) (final? : Option (Except Fault Bytes)) : List Exchange :=
  rounds.flatMap exchanges ++ final?.toList.map listingExchange

theorem sent_cons (round : EvictionRound) (rounds : List EvictionRound)
    (final? : Option (Except Fault Bytes)) :
    sent (round :: rounds) final? = round.exchanges ++ sent rounds final? := by
  unfold sent
  rw [List.flatMap_cons, List.append_assoc]

end EvictionRound

/-- What evicting every key is like, for a count of rounds, when some handle was evicted last, and
how many were: what is asked round by round, the last listing, the outcome, and what is known before
and after. -/
inductive Evicting : Option UInt32 → Nat → Nat → Inventory → List EvictionRound →
    Option (Except Fault Bytes) → Except Fault (Option Nat) → Inventory → Prop where
  | paused (last : Option UInt32) (evicted : Nat) (inventory : Inventory) :
      Evicting last evicted 0 inventory [] none (.ok none) inventory
  | unlisted (last : Option UInt32) (evicted allowance : Nat) (inventory : Inventory)
      (answer : Except Fault Bytes) (fault : Fault) (failed : listedKeys answer = .error fault) :
      Evicting last evicted (allowance + 1) inventory [] (some answer) (.error fault) inventory
  | emptied (last : Option UInt32) (evicted allowance : Nat) (inventory : Inventory)
      (answer : Except Fault Bytes) (listed : listedKeys answer = .ok []) :
      Evicting last evicted (allowance + 1) inventory [] (some answer) (.ok (some evicted))
        (inventory.refreshKeys [])
  | still (previous : UInt32) (evicted allowance : Nat) (inventory : Inventory)
      (answer : Except Fault Bytes) (handles : List UInt32)
      (listed : listedKeys answer = .ok handles) (among : previous ∈ handles) :
      Evicting (some previous) evicted (allowance + 1) inventory [] (some answer)
        (.error (.malformed (.stillListed previous))) (inventory.refreshKeys handles)
  | kept (last : Option UInt32) (evicted allowance : Nat) (inventory : Inventory)
      (round : EvictionRound) (others : List UInt32) (fault : Fault)
      (listed : listedKeys round.listing = .ok (round.handle :: others))
      (gone : ∀ previous ∈ last, previous ∉ round.handle :: others)
      (failed : evictionOf round.eviction = .error fault) :
      Evicting last evicted (allowance + 1) inventory [round] none (.error fault)
        (inventory.refreshKeys (round.handle :: others))
  | evicts (last : Option UInt32) (evicted allowance : Nat) (inventory after : Inventory)
      (round : EvictionRound) (others : List UInt32) (rounds : List EvictionRound)
      (final? : Option (Except Fault Bytes)) (outcome : Except Fault (Option Nat))
      (listed : listedKeys round.listing = .ok (round.handle :: others))
      (gone : ∀ previous ∈ last, previous ∉ round.handle :: others)
      (done : evictionOf round.eviction = .ok ())
      (goesOn : Evicting (some round.handle) (evicted + 1) allowance
        ((inventory.refreshKeys (round.handle :: others)).removeKey round.handle) rounds final?
        outcome after) :
      Evicting last evicted (allowance + 1) inventory (round :: rounds) final? outcome after

def Inventory.listKeys (inventory : Inventory) : Except Fault (List UInt32) → Inventory
  | .error _ => inventory
  | .ok handles => inventory.refreshKeys handles

def Inventory.evictKey (inventory : Inventory) (handle : UInt32) : Except Fault Unit → Inventory
  | .error _ => inventory
  | .ok _ => inventory.removeKey handle

namespace Client

variable {σ : Type} [Channel σ]

theorem run_listKeys (client : Client σ) (answer : Except Fault Bytes) (link : Link σ)
    (transmitted :
      (Link.transmit Command.listingKeys.plainFrame).run client.link = (answer, link)) :
    listKeys.run client =
      (listedKeys answer,
        { client with link, inventory := client.inventory.listKeys (listedKeys answer) }) := by
  have shape : (listKeys : Action Fault (Client σ) (List UInt32)) =
      ask Command.listingKeys Decoder.sized >>= fun list =>
        Action.ofExcept (HandleList.decode.complete list) >>= fun found =>
          note (fun inventory => inventory.refreshKeys found.handles) >>= fun _ =>
            pure found.handles := by
    have sized : Bytes.sized [] = .ok (Bytes.withLength []) := rfl
    simp only [listKeys, keyHandles, capabilityHandles, capability, bind_assoc, pure_bind]
    rw [sized]
    rfl
  have asked := run_ask Command.listingKeys Decoder.sized client answer link rfl (by decide)
    transmitted
  unfold listedKeys
  rw [shape, Action.run_bind, asked]
  cases Command.listingKeys.value Decoder.sized answer with
  | error fault => rfl
  | ok list =>
    have same : (Except.ok list >>= fun list =>
        (HandleList.decode.complete list).map HandleList.handles) =
          (HandleList.decode.complete list).map HandleList.handles := rfl
    rw [same]
    dsimp only
    rw [Action.run_bind, Action.run_ofExcept]
    cases HandleList.decode.complete list with
    | error fault => rfl
    | ok found => rfl

theorem run_evictKey (handle : UInt32) (client : Client σ) (answer : Except Fault Bytes)
    (link : Link σ)
    (transmitted :
      (Link.transmit (Command.evicting handle).plainFrame).run client.link = (answer, link)) :
    (evictKey handle).run client =
      (evictionOf answer,
        { client with link, inventory := client.inventory.evictKey handle (evictionOf answer) }) := by
  have executed := run_execute_plain (Command.evicting handle) client answer link rfl rfl
    (by
      unfold Command.plainFrame
      rw [Request.length_frame]
      simp only [Command.evicting, List.length_singleton, List.length_nil]
      decide) transmitted
  have same : (Command.evicting handle).read 0 answer = (Command.evicting 0).read 0 answer := rfl
  rw [same] at executed
  have shape : (evictKey handle : Action Fault (Client σ) Unit) =
      unauthorized (Dispatch.execute (Command.evicting handle)) >>= fun _ =>
        note fun inventory => inventory.removeKey handle := rfl
  rw [shape, Action.run_bind, executed, evictionOf]
  cases (Command.evicting 0).read 0 answer with
  | error fault => rfl
  | ok parts => rfl

/-- As long as the next request can be sent, keys are evicted in this way, whatever is answered. -/
theorem run_evictListed (allowance : Nat) (last : Option UInt32) (evicted : Nat)
    (client : Client (Tapped σ)) (ready : client.link.Ready) :
    ∃ rounds final? outcome link inventory,
      (evictListed last evicted allowance).run client =
        (outcome, { client with link, inventory }) ∧
      link.record = client.link.record ++ EvictionRound.sent rounds final? ∧
      Evicting last evicted allowance client.inventory rounds final? outcome inventory := by
  induction allowance generalizing last evicted client with
  | zero =>
    exact ⟨[], none, .ok none, client.link, client.inventory, rfl, (List.append_nil _).symm,
      .paused last evicted client.inventory⟩
  | succ allowance inductionHypothesis =>
    rw [evictListed]
    cases transmitted : (Link.transmit Command.listingKeys.plainFrame).run client.link with
    | mk answer link =>
      have exchanged := Link.exchanges _ _ _ _ transmitted ready
      rw [Action.run_bind, run_listKeys client answer link transmitted]
      cases listed : listedKeys answer with
      | error fault =>
        exact ⟨[], some answer, _, link, _, rfl, exchanged.recorded,
          .unlisted last evicted allowance client.inventory answer fault listed⟩
      | ok handles =>
        cases handles with
        | nil =>
          exact ⟨[], some answer, _, link, _, rfl, exchanged.recorded,
            .emptied last evicted allowance client.inventory answer listed⟩
        | cons next others =>
          dsimp only
          cases among : last.filter (next :: others).contains with
          | some previous =>
            obtain ⟨rfl, member⟩ := Option.filter_eq_some_iff.mp among
            have isListed := List.contains_iff_mem.mp member
            exact ⟨[], some answer, _, link, _, rfl, exchanged.recorded,
              .still previous evicted allowance client.inventory answer _ listed isListed⟩
          | none =>
            have gone : ∀ previous ∈ last, previous ∉ next :: others := by
              intro previous isLast isListed
              have found := Option.filter_eq_none_iff.mp among previous isLast
              exact found (List.contains_iff_mem.mpr isListed)
            obtain ⟨response, arrived⟩ := received_of_listedKeys answer _ listed
            have clean := exchanged.ready response arrived
            dsimp only
            cases sent : (Link.transmit (Command.evicting next).plainFrame).run link with
            | mk second after =>
              have exchangedNext := Link.exchanges _ _ _ _ sent clean
              have recorded : after.record = client.link.record ++
                  EvictionRound.exchanges ⟨answer, next, second⟩ := by
                rw [exchangedNext.recorded, exchanged.recorded, List.append_assoc]
                rfl
              rw [Action.run_bind, run_evictKey next _ second after sent]
              cases done : evictionOf second with
              | error fault =>
                refine ⟨[⟨answer, next, second⟩], none, _, after, _, rfl, ?_,
                  .kept last evicted allowance client.inventory ⟨answer, next, second⟩ others fault
                    listed gone done⟩
                rw [recorded]
                rfl
              | ok _ =>
                obtain ⟨response, arrived⟩ := received_of_evictionOf second done
                obtain ⟨rounds, final?, outcome, final, inventory, ran, recordedLater, goesOn⟩ :=
                  inductionHypothesis (some next) (evicted + 1) { client with
                    link := after
                    inventory := (client.inventory.refreshKeys (next :: others)).removeKey next }
                      (exchangedNext.ready response arrived)
                refine ⟨⟨answer, next, second⟩ :: rounds, final?, outcome, final, inventory, ran, ?_,
                  .evicts last evicted allowance client.inventory inventory ⟨answer, next, second⟩
                    others rounds final? outcome listed gone done goesOn⟩
                rw [recordedLater, recorded, EvictionRound.sent_cons, List.append_assoc]

end Client

end TrustedPlatform
