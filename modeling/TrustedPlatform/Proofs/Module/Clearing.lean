import Mathlib.Data.List.Nodup
import TrustedPlatform.Channel.Script
import TrustedPlatform.Proofs.Client.Eviction
import TrustedPlatform.Proofs.Client.Granting

/-!
# A module that is cleared of its keys

A module lists its keys whenever it is asked to, in any order, and takes away a key when it is told
to, or refuses that.  A client that evicts every key evicts each of them once, and then there is
none; a refusal ends it, and the keys that are left are known (`Client.evictAll_clears`).
-/

set_option autoImplicit false

namespace TrustedPlatform

namespace Table

variable {α β : Type}

theorem mem_keys_iff (table : Table α) (key : UInt32) :
    key ∈ table.keys ↔ table.contains key = true := by
  unfold keys contains get?
  rw [List.lookup_isSome_iff, List.mem_map]
  constructor
  · rintro ⟨entry, member, rfl⟩
    exact ⟨entry, member, beq_self_eq_true _⟩
  · rintro ⟨entry, member, same⟩
    exact ⟨entry, member, (eq_of_beq same).symm⟩

theorem ascending_keys (table : Table α) : table.keys.Pairwise (· < ·) :=
  List.pairwise_map.mpr table.ascending

theorem nodup_keys (table : Table α) : table.keys.Nodup :=
  table.ascending_keys.imp fun below => UInt32.ne_of_lt below

/-- Whatever is stored under them, the keys of a table are listed in one way only. -/
theorem keys_eq_of_contains (first : Table α) (second : Table β)
    (same : ∀ key, first.contains key = second.contains key) : first.keys = second.keys := by
  have perm : first.keys.Perm second.keys := by
    rw [List.perm_ext_iff_of_nodup first.nodup_keys second.nodup_keys]
    intro key
    rw [mem_keys_iff, mem_keys_iff, same]
  refine perm.eq_of_pairwise ?_ first.ascending_keys second.ascending_keys
  intro key other _ _ below above
  exact absurd (UInt32.lt_trans below above) (UInt32.lt_irrefl key)

theorem eq_empty_of_keys (table : Table α) (none : table.keys = []) : table = .empty :=
  Table.ext (List.map_eq_nil_iff.mp none)

theorem length_erase_lt (table : Table α) (key : UInt32) (held : table.contains key = true) :
    (table.erase key).keys.length < table.keys.length := by
  obtain ⟨entry, member, same⟩ := List.mem_map.mp ((table.mem_keys_iff key).mpr held)
  unfold keys erase restrict
  rw [List.length_map, List.length_map, List.length_filter_lt_length_iff_exists]
  exact ⟨entry, member, by simp [same]⟩

end Table

theorem Inventory.contains_refreshKeys (inventory : Inventory) (handles : List UInt32)
    (other : UInt32) :
    (inventory.refreshKeys handles).keys.contains other = decide (other ∈ handles) := by
  rw [Table.contains_eq_isSome, Inventory.get?_refreshKeys]
  by_cases listed : other ∈ handles
  · simp [listed]
  · simp [listed]

namespace KeyStore

variable {store next last : KeyStore}

theorem Serves.first {bytes : Bytes} {request : Request} {answer : Except Fault Bytes}
    {rest : List Exchange} (serves : store.Serves (⟨bytes, answer⟩ :: rest) last)
    (reads : Request.Reads bytes request) :
    ∃ response next, answer = .ok response ∧ store.Answers request response next ∧
      next.Serves rest last := by
  cases serves with
  | answers _ next _ other _ response _ also answered served =>
    rw [reads.unique also]
    exact ⟨response, next, rfl, answered, served⟩

/-- A listing that is not refused is the handles of the keys, and nothing happens to those. -/
theorem Answers.listed {response : Bytes}
    (answers : store.Answers Command.listingKeys.plainRequest response next)
    (granted : answerCode? (.ok response) = some ResultCode.success) :
    next = store ∧ ∃ handles, listedKeys (.ok response) = .ok handles ∧
      ∀ handle, handle ∈ handles ↔ store.keys.contains handle = true := by
  cases answers with
  | refuses _ refusal parsed failed =>
    obtain ⟨also, same, code⟩ := (answerCode?_eq_some_iff _ _).mp granted
    rw [parsed] at same
    cases same
    exact absurd code failed
  | grants tag reply trailers _ tagged count _ _ shown =>
    obtain rfl := List.length_eq_zero_iff.mp count
    have untrailed : tag = .response := by
      cases tag with
      | response => rfl
      | _ => cases tagged
    change store.Grants [] keyListing .lists reply next at shown
    cases shown with
    | lists listed list written exact =>
      obtain ⟨few, rfl⟩ := (HandleList.reads.complete_iff _ _).mp written
      rw [untrailed]
      exact ⟨rfl, listed, (listedKeys_eq_ok_iff _ _).mpr
        ⟨(HandleList.legible_iff _).mp few, rfl⟩, exact⟩

/-- As long as there are not too many keys to count, they can be listed in any order. -/
theorem answers_listing (store : KeyStore) (handles : List UInt32)
    (few : handles.length ≤ 65535)
    (exact : ∀ handle, handle ∈ handles ↔ store.keys.contains handle = true) :
    store.Answers Command.listingKeys.plainRequest (HandleList.answer ⟨handles⟩) store := by
  have size : (HandleList.answer ⟨handles⟩).length = 16 + 4 * handles.length :=
    HandleList.length_answer ⟨handles⟩
  have limit : Bytes.capacity 4 = 0x100000000 := rfl
  have short : (HandleList.answer ⟨handles⟩).length < Bytes.capacity 4 := by omega
  refine .grants .response _ [] store rfl rfl rfl short (.lists handles _ ?_ exact)
  exact (HandleList.reads.complete_iff _ _).mpr ⟨(HandleList.legible_iff ⟨handles⟩).mpr few, rfl⟩

theorem Answers.evicted {handle : UInt32} {response : Bytes}
    (answers : store.Answers (Command.evicting handle).plainRequest response next) :
    (answerCode? (.ok response) = some ResultCode.success ∧ evictionOf (.ok response) = .ok () ∧
      next = store.remove handle) ∨
    ∃ code, code ≠ ResultCode.success ∧ answerCode? (.ok response) = some code ∧
      evictionOf (.ok response) = .error (.refused .evictKey code) ∧ next = store := by
  cases answers with
  | refuses _ refusal parsed failed =>
    refine Or.inr ⟨refusal.code, failed, (answerCode?_eq_some_iff _ _).mpr ⟨_, parsed, rfl⟩, ?_, rfl⟩
    rw [evictionOf, (Command.evicting 0).read_of_refused 0 _ refusal parsed failed]
    rfl
  | grants tag reply trailers _ tagged count outputs fits granted =>
    have found := ((Command.evicting 0).read_eq_ok_iff 0 _ reply _ trailers).mpr
      ⟨tag, rfl, fits, tagged, outputs, count, rfl⟩
    obtain ⟨_, success, arrived, parsed, code⟩ := Command.succeeded_of_read _ _ _ _ found
    cases arrived
    change store.Grants [handle] [] .removes reply next at granted
    cases granted with
    | removes named _ same =>
      cases same
      refine Or.inl ⟨(answerCode?_eq_some_iff _ _).mpr ⟨success, parsed, code⟩, ?_, rfl⟩
      rw [evictionOf, found]
      rfl

theorem Serves.listed {answer : Except Fault Bytes} {rest : List Exchange}
    (serves : store.Serves (listingExchange answer :: rest) last)
    (granted : answerCode? answer = some ResultCode.success) :
    store.Serves rest last ∧ ∃ handles, listedKeys answer = .ok handles ∧
      ∀ handle, handle ∈ handles ↔ store.keys.contains handle = true := by
  obtain ⟨response, next, rfl, answers, served⟩ :=
    serves.first (Command.listingKeys.reads_plainFrame rfl)
  obtain ⟨rfl, shown⟩ := answers.listed granted
  exact ⟨served, shown⟩

theorem Serves.exact {answer : Except Fault Bytes} {rest : List Exchange} {handles : List UInt32}
    (serves : store.Serves (listingExchange answer :: rest) last)
    (granted : answerCode? answer = some ResultCode.success)
    (shown : listedKeys answer = .ok handles) :
    store.Serves rest last ∧ ∀ handle, handle ∈ handles ↔ store.keys.contains handle = true := by
  obtain ⟨served, found, also, exact⟩ := serves.listed granted
  rw [shown] at also
  cases also
  exact ⟨served, exact⟩

theorem Serves.evicted {handle : UInt32} {answer : Except Fault Bytes} {rest : List Exchange}
    (serves : store.Serves (⟨(Command.evicting handle).plainFrame, answer⟩ :: rest) last) :
    (answerCode? answer = some ResultCode.success ∧ evictionOf answer = .ok () ∧
      (store.remove handle).Serves rest last) ∨
    ∃ code, code ≠ ResultCode.success ∧ answerCode? answer = some code ∧
      evictionOf answer = .error (.refused .evictKey code) ∧ store.Serves rest last := by
  obtain ⟨response, next, rfl, answers, served⟩ :=
    serves.first ((Command.evicting handle).reads_plainFrame rfl)
  rcases answers.evicted with ⟨success, done, rfl⟩ | ⟨code, refused, answered, failed, rfl⟩
  · exact Or.inl ⟨success, done, served⟩
  · exact Or.inr ⟨code, refused, answered, failed, served⟩

/-- Some keys, and no others, were taken from a module, each of them once. -/
structure Taken (store last : KeyStore) (handles : List UInt32) : Prop where
  nodup : handles.Nodup
  held : ∀ handle ∈ handles, store.keys.contains handle = true
  left : ∀ handle, last.keys.contains handle = true ↔
    store.keys.contains handle = true ∧ handle ∉ handles

namespace Taken

theorem nil (store : KeyStore) : store.Taken store [] where
  nodup := List.nodup_nil
  held := by simp
  left := by simp

theorem cons {handle : UInt32} {handles : List UInt32}
    (held : store.keys.contains handle = true)
    (taken : (store.remove handle).Taken last handles) : store.Taken last (handle :: handles) := by
  have still : ∀ other, (store.remove handle).keys.contains other = true ↔
      other ≠ handle ∧ store.keys.contains other = true := by
    intro other
    rw [contains_remove]
    by_cases same : other = handle
    · simp [same]
    · simp [same]
  constructor
  · refine List.nodup_cons.mpr ⟨?_, taken.nodup⟩
    intro again
    exact ((still handle).mp (taken.held handle again)).1 rfl
  · intro other member
    rcases List.mem_cons.mp member with rfl | later
    · exact held
    · exact ((still other).mp (taken.held other later)).2
  · intro other
    rw [taken.left, still, List.mem_cons, not_or]
    constructor
    · rintro ⟨⟨different, here⟩, absent⟩
      exact ⟨here, different, absent⟩
    · rintro ⟨here, different, absent⟩
      exact ⟨⟨different, here⟩, absent⟩

theorem perm_of_empty {handles : List UInt32} (taken : store.Taken last handles)
    (empty : last.keys.keys = []) : handles.Perm store.keys.keys := by
  rw [List.perm_ext_iff_of_nodup taken.nodup store.keys.nodup_keys]
  intro handle
  rw [Table.mem_keys_iff]
  constructor
  · exact taken.held handle
  · intro held
    apply Classical.byContradiction
    intro absent
    have isLeft := (Table.mem_keys_iff _ _).mpr ((taken.left handle).mpr ⟨held, absent⟩)
    rw [empty] at isLeft
    cases isLeft

end Taken

end KeyStore

namespace EvictionRound

def listings (rounds : List EvictionRound) (final? : Option (Except Fault Bytes)) :
    List (Except Fault Bytes) :=
  rounds.map listing ++ final?.toList

/-- If nothing that was sent was refused, then no listing was, and no eviction. -/
theorem granted_of_sent (rounds : List EvictionRound) (final? : Option (Except Fault Bytes))
    (granted : ∀ exchange ∈ sent rounds final?,
      answerCode? exchange.answer = some ResultCode.success) :
    (∀ answer ∈ listings rounds final?, answerCode? answer = some ResultCode.success) ∧
      ∀ round ∈ rounds, answerCode? round.eviction = some ResultCode.success := by
  have inRound : ∀ round ∈ rounds, ∀ exchange ∈ round.exchanges,
      answerCode? exchange.answer = some ResultCode.success := by
    intro round member exchange among
    exact granted exchange (List.mem_append_left _ (List.mem_flatMap.mpr ⟨round, member, among⟩))
  constructor
  · intro answer member
    rcases List.mem_append.mp member with isListing | isFinal
    · obtain ⟨round, among, rfl⟩ := List.mem_map.mp isListing
      exact inRound round among _ List.mem_cons_self
    · exact granted (listingExchange answer)
        (List.mem_append_right _ (List.mem_map_of_mem isFinal))
  · intro round member
    exact inRound round member _ (List.mem_cons_of_mem _ List.mem_cons_self)

end EvictionRound

/-- How a module that lists its keys whenever it is asked is cleared of them: to the last one, or up
to the first one that it does not let go. -/
inductive Clearing (store last : KeyStore) (evicted : Nat) : List EvictionRound →
    Option (Except Fault Bytes) → Except Fault (Option Nat) → Prop where
  | emptied (rounds : List EvictionRound) (answer : Except Fault Bytes)
      (granted : ∀ round ∈ rounds, answerCode? round.eviction = some ResultCode.success)
      (taken : store.Taken last (rounds.map EvictionRound.handle))
      (nothingLeft : last.keys.keys = []) :
      Clearing store last evicted rounds (some answer) (.ok (some (evicted + rounds.length)))
  | kept (early : List EvictionRound) (round : EvictionRound) (code : UInt32)
      (granted : ∀ earlier ∈ early, answerCode? earlier.eviction = some ResultCode.success)
      (answered : answerCode? round.eviction = some code) (refused : code ≠ ResultCode.success)
      (taken : store.Taken last (early.map EvictionRound.handle)) :
      Clearing store last evicted (early ++ [round]) none (.error (.refused .evictKey code))

theorem Clearing.cons {store last : KeyStore} {evicted : Nat} {rounds : List EvictionRound}
    {final? : Option (Except Fault Bytes)} {outcome : Except Fault (Option Nat)}
    (round : EvictionRound) (held : store.keys.contains round.handle = true)
    (done : answerCode? round.eviction = some ResultCode.success)
    (clearing : Clearing (store.remove round.handle) last (evicted + 1) rounds final? outcome) :
    Clearing store last evicted (round :: rounds) final? outcome := by
  cases clearing with
  | emptied _ answer granted taken nothingLeft =>
    have count : evicted + 1 + rounds.length = evicted + (round :: rounds).length := by
      rw [List.length_cons]
      omega
    rw [count]
    exact .emptied (round :: rounds) answer (List.forall_mem_cons.mpr ⟨done, granted⟩)
      (.cons held taken) nothingLeft
  | kept early other code granted answered refused taken =>
    exact .kept (round :: early) other code (List.forall_mem_cons.mpr ⟨done, granted⟩) answered
      refused (.cons held taken)

/-- The keys that are known after a listing are those that the module holds. -/
theorem KeyStore.keys_refreshKeys (store : KeyStore) (inventory : Inventory)
    (handles : List UInt32)
    (exact : ∀ handle, handle ∈ handles ↔ store.keys.contains handle = true) :
    (inventory.refreshKeys handles).keys.keys = store.keys.keys := by
  apply Table.keys_eq_of_contains
  intro handle
  rw [Inventory.contains_refreshKeys, Bool.eq_iff_iff, decide_eq_true_iff]
  exact exact handle

/-- Every listing is new, so that it does not matter in what order the keys come; and a key that was
taken is in none of them. -/
theorem Evicting.clearing {previous? : Option UInt32} {evicted allowance : Nat}
    {inventory known : Inventory} {rounds : List EvictionRound}
    {final? : Option (Except Fault Bytes)} {outcome : Except Fault (Option Nat)}
    {store last : KeyStore}
    (evicting : Evicting previous? evicted allowance inventory rounds final? outcome known)
    (serves : store.Serves (EvictionRound.sent rounds final?) last)
    (gone : ∀ previous ∈ previous?, store.keys.contains previous = false)
    (enough : store.keys.keys.length < allowance)
    (lists : ∀ answer ∈ EvictionRound.listings rounds final?,
      answerCode? answer = some ResultCode.success) :
    Clearing store last evicted rounds final? outcome ∧ known.keys.keys = last.keys.keys := by
  induction evicting generalizing store with
  | paused _ _ _ => exact absurd enough (Nat.not_lt_zero _)
  | unlisted _ _ _ _ answer fault failed =>
    obtain ⟨_, handles, listed, _⟩ := serves.listed (lists answer (by simp [EvictionRound.listings]))
    rw [failed] at listed
    cases listed
  | emptied _ evicted _ inventory answer listed =>
    obtain ⟨served, exact⟩ :=
      serves.exact (lists answer (by simp [EvictionRound.listings])) listed
    obtain rfl := (KeyStore.serves_nil_iff _ _).mp served
    have nothingLeft : last.keys.keys = [] := by
      apply List.eq_nil_iff_forall_not_mem.mpr
      intro handle member
      exact nomatch (exact handle).mpr ((last.keys.mem_keys_iff handle).mp member)
    exact ⟨.emptied [] answer (by simp) (.nil last) nothingLeft,
      last.keys_refreshKeys inventory [] exact⟩
  | still previous _ _ _ answer handles listed among =>
    obtain ⟨_, exact⟩ := serves.exact (lists answer (by simp [EvictionRound.listings])) listed
    have held := (exact previous).mp among
    rw [gone previous rfl] at held
    cases held
  | kept _ evicted _ inventory round others fault listed _ failed =>
    obtain ⟨served, exact⟩ :=
      serves.exact (lists round.listing (by simp [EvictionRound.listings])) listed
    rcases served.evicted with ⟨_, done, _⟩ | ⟨code, refused, answered, also, unchanged⟩
    · rw [failed] at done
      cases done
    · rw [failed] at also
      cases also
      obtain rfl := (KeyStore.serves_nil_iff _ _).mp unchanged
      exact ⟨.kept [] round code (by simp) answered refused (.nil last),
        last.keys_refreshKeys inventory _ exact⟩
  | evicts _ evicted allowance _ _ round others rounds final? outcome listed _ done _
      inductionHypothesis =>
    rw [EvictionRound.sent_cons] at serves
    obtain ⟨served, exact⟩ :=
      serves.exact (lists round.listing (by simp [EvictionRound.listings])) listed
    have held := (exact round.handle).mp List.mem_cons_self
    rcases served.evicted with ⟨success, _, removed⟩ | ⟨code, _, _, failed, _⟩
    · have fewer : (store.remove round.handle).keys.keys.length < store.keys.keys.length :=
        store.keys.length_erase_lt round.handle held
      obtain ⟨clearing, same⟩ := inductionHypothesis removed
        (by
          intro previous isLast
          cases isLast
          rw [KeyStore.contains_remove, if_pos rfl])
        (by omega)
        (fun answer member => lists answer (List.mem_cons_of_mem _ member))
      exact ⟨clearing.cons round held success, same⟩
    · rw [failed] at done
      cases done

/-- Every key of a module was evicted once, and none is left. -/
structure AllEvicted (store last : KeyStore) (rounds : List EvictionRound)
    (final? : Option (Except Fault Bytes)) (outcome : Except Fault (Option Nat))
    (known : Inventory) : Prop where
  each : (rounds.map EvictionRound.handle).Perm store.keys.keys
  listings : (EvictionRound.listings rounds final?).length = store.keys.keys.length + 1
  counted : outcome = .ok (some store.keys.keys.length)
  nothingLeft : last.keys = .empty
  nothingKnown : known.keys = .empty

/-- A module did not let a key go.  The keys before that one were evicted, each of them once, and
what is known is what is left. -/
structure EvictionRefused (store last : KeyStore) (rounds : List EvictionRound)
    (outcome : Except Fault (Option Nat)) (known : Inventory) : Prop where
  stopped : ∃ early round code, rounds = early ++ [round] ∧
    answerCode? round.eviction = some code ∧ code ≠ ResultCode.success ∧
    outcome = .error (.refused .evictKey code) ∧
    (∀ earlier ∈ early, answerCode? earlier.eviction = some ResultCode.success) ∧
    store.Taken last (early.map EvictionRound.handle)
  known : known.keys.keys = last.keys.keys

namespace Client

variable {σ : Type} [Channel σ]

/-- A module that lists its keys whenever it is asked is cleared of all of them, unless it refuses
to evict one. -/
theorem evictAll_clears (allowance : Nat) (client : Client (Tapped σ))
    (ready : client.link.Ready) :
    ∃ rounds final? outcome link inventory,
      (evictAll allowance).run client = (outcome, { client with link, inventory }) ∧
      link.record = client.link.record ++ EvictionRound.sent rounds final? ∧
      ∀ store last : KeyStore, store.Serves (EvictionRound.sent rounds final?) last →
        store.keys.keys.length < allowance →
        (∀ answer ∈ EvictionRound.listings rounds final?,
          answerCode? answer = some ResultCode.success) →
        ((∀ round ∈ rounds, answerCode? round.eviction = some ResultCode.success) →
          AllEvicted store last rounds final? outcome inventory) ∧
        ((∃ round ∈ rounds, answerCode? round.eviction ≠ some ResultCode.success) →
          EvictionRefused store last rounds outcome inventory) := by
  obtain ⟨rounds, final?, outcome, link, inventory, ran, recorded, evicting⟩ :=
    run_evictListed allowance none 0 client ready
  refine ⟨rounds, final?, outcome, link, inventory, ran, recorded, ?_⟩
  intro store last serves enough lists
  obtain ⟨clearing, known⟩ := evicting.clearing serves (by simp) enough lists
  cases clearing with
  | emptied _ answer granted taken nothingLeft =>
    have each := taken.perm_of_empty nothingLeft
    have count : rounds.length = store.keys.keys.length := by
      rw [← each.length_eq, List.length_map]
    rw [nothingLeft] at known
    refine ⟨fun _ => ⟨each, ?_, ?_, last.keys.eq_empty_of_keys nothingLeft,
      inventory.keys.eq_empty_of_keys known⟩, ?_⟩
    · rw [EvictionRound.listings, List.length_append, List.length_map, count]
      rfl
    · rw [count, Nat.zero_add]
    · rintro ⟨round, member, failed⟩
      exact absurd (granted round member) failed
  | kept early round code granted answered refused taken =>
    constructor
    · intro all
      have success := all round (by simp)
      rw [answered] at success
      exact absurd (Option.some.inj success) refused
    · intro _
      exact ⟨⟨early, round, code, rfl, answered, refused, rfl, granted, taken⟩, known⟩

namespace Clearance

def key : PublicKey := ⟨⟨2, 0, 0, .raw []⟩, ⟨[7]⟩⟩

def store : KeyStore := (KeyStore.empty.put 3 key).put 5 key

def evicted : Bytes := (Command.success .response ⟨[], []⟩ []).frame

def answers : List Bytes :=
  [HandleList.answer ⟨[5, 3]⟩, evicted, HandleList.answer ⟨[3]⟩, evicted, HandleList.answer ⟨[]⟩]

def client : Client (Tapped Script) :=
  .fresh ⟨.ofEntries (answers.map .answer), none, []⟩ ⟨fun _ => Block.replicate 20 0, 0⟩ 1

def sent : List Exchange := ((evictAll 3).run client).2.link.record

theorem sent_eq : sent =
    List.zipWith (fun command answer => ⟨command.plainFrame, .ok answer⟩)
      [Command.listingKeys, .evicting 5, .listingKeys, .evicting 3, .listingKeys] answers := rfl

theorem serves_sent : store.Serves sent ((store.remove 5).remove 3) := by
  have listed : ∀ handle, handle ∈ [5, 3] ↔ store.keys.contains handle = true := by
    intro handle
    rw [← Table.mem_keys_iff]
    change handle ∈ [5, 3] ↔ handle ∈ [3, 5]
    simp [or_comm]
  rw [sent_eq]
  refine .answers _ _ _ _ _ _ _ (Command.listingKeys.reads_plainFrame rfl)
    (store.answers_listing [5, 3] (by decide) listed) ?_
  refine .answers _ _ _ _ _ _ _ ((Command.evicting 5).reads_plainFrame rfl)
    (.grants .response _ [] _ rfl rfl rfl (by decide) (.removes 5 _ rfl)) ?_
  refine .answers _ _ _ _ _ _ _ (Command.listingKeys.reads_plainFrame rfl)
    (KeyStore.answers_listing _ [3] (by decide) (Table.mem_keys_iff (store.remove 5).keys)) ?_
  refine .answers _ _ _ _ _ _ _ ((Command.evicting 3).reads_plainFrame rfl)
    (.grants .response _ [] _ rfl rfl rfl (by decide) (.removes 3 _ rfl)) ?_
  exact .answers _ _ _ _ _ _ _ (Command.listingKeys.reads_plainFrame rfl)
    (KeyStore.answers_listing _ [] (by decide) (Table.mem_keys_iff Table.empty)) (.done _)

/-- Two keys are evicted, and none is left. -/
theorem clears_of_two : ((evictAll 3).run client).1 = .ok (some 2) ∧
    ((store.remove 5).remove 3).keys = .empty ∧
    ((evictAll 3).run client).2.inventory.keys = .empty := by
  obtain ⟨rounds, final?, outcome, link, inventory, ran, recorded, clears⟩ :=
    evictAll_clears 3 client (Link.ready_of_clean _ rfl)
  have record : sent = EvictionRound.sent rounds final? := by
    unfold sent
    rw [ran]
    exact recorded
  have granted : ∀ exchange ∈ sent, answerCode? exchange.answer = some ResultCode.success := by
    rw [sent_eq]
    decide
  have served := serves_sent
  rw [record] at served granted
  obtain ⟨lists, evicts⟩ := EvictionRound.granted_of_sent rounds final? granted
  have emptied := (clears store _ served (by decide) lists).1 evicts
  rw [ran]
  exact ⟨emptied.counted, emptied.nothingLeft, emptied.nothingKnown⟩

end Clearance

end Client

end TrustedPlatform
