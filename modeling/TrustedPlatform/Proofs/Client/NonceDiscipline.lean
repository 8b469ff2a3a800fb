import Mathlib.Data.List.Induction
import TrustedPlatform.Channel.Script
import TrustedPlatform.Proofs.Client.Calls

/-!
# No nonce is used twice

From the events of a run of calls one can tell, at any time, which session object is held under a
name, and what was done with it since it was opened (`Event.life`).  Every life is that of a session
that went through its moves (`Orderly.reaches`), so its nonces are in order.  A nonce that the
source repeats to a session is the last that is heard of the call: `Workspace.keepsNonces_run`.
-/

set_option autoImplicit false

namespace TrustedPlatform

/-- A session object as it was opened, with what was done with it since. -/
structure Life where
  opened : Session
  deeds : List Deed

namespace Life

structure Reaches (life : Life) (session : Session) : Prop where
  fresh : life.opened.Fresh
  lives : life.opened.Lives life.deeds session

theorem Reaches.moved {life : Life} {before after : Session} {deed? : Option Deed}
    (reaches : life.Reaches before) (move : before.Moves deed? after) :
    (⟨life.opened, life.deeds ++ deed?.toList⟩ : Life).Reaches after :=
  ⟨reaches.fresh, .moved life.deeds before after deed? reaches.lives move⟩

/-- The nonces of a session object are used once.  Those of its setup are those it was opened
with. -/
structure Disciplined (life : Life) : Prop where
  oddOnce : (life.deeds.filterMap Deed.odd?).Nodup
  oddNew : ∀ nonce ∈ life.deeds.filterMap Deed.odd?, nonce ∉ life.opened.issuedOdd
  evenOnce : (life.deeds.filterMap Deed.even?).Nodup
  acceptedOnce : (life.deeds.filterMap Deed.accepted?).Nodup
  acceptedNew : ∀ nonce ∈ life.deeds.filterMap Deed.accepted?, nonce ∉ life.opened.seenEven
  -- They were used with the session, bound as it was when it was opened.
  done : ∀ deed ∈ life.deeds, ∃ session, session.binding = life.opened.binding ∧
    deed.DoneWith session

/-- A nonce was taken for the session before, to open it or since. -/
def Knows (life : Life) (nonceOdd : Digest) : Prop :=
  nonceOdd ∈ life.opened.issuedOdd ∨ nonceOdd ∈ life.deeds.filterMap Deed.drawn?

theorem Reaches.disciplined {life : Life} {session : Session} (reaches : life.Reaches session) :
    life.Disciplined :=
  have kept := reaches.lives.kept reaches.fresh
  ⟨kept.oddOnce, kept.oddNew, kept.evenOnce, kept.acceptedOnce, kept.acceptedNew,
    reaches.lives.doneWith⟩

theorem Reaches.knows_iff {life : Life} {session : Session} (reaches : life.Reaches session)
    (nonceOdd : Digest) : life.Knows nonceOdd ↔ nonceOdd ∈ session.issuedOdd :=
  ((reaches.lives.kept reaches.fresh).issued nonceOdd).symm

end Life

theorem SessionKind.Opens.fresh {secret : Secret} {setupOdd : Digest}
    {answer : Except Fault Bytes} {kind : SessionKind} {session : Session}
    (opens : Opens secret setupOdd answer kind session) : session.Fresh := by
  cases opens with
  | oiap handle nonceEven _ => exact ⟨rfl, rfl, List.mem_cons_self⟩
  | osap entity handle nonceEven setupEven _ => exact ⟨rfl, rfl, List.mem_cons_self⟩

namespace Event

def follow (name : String) (life? : Option Life) : Event → Option Life
  | .did other deed =>
    if other = name then life?.map fun life => ⟨life.opened, life.deeds ++ [deed]⟩ else life?
  | .setup _ => life?
  | .opened other _ session => if other = name then some ⟨session, []⟩ else life?
  | .plain _ => life?

def life (name : String) (told : List Event) : Option Life := told.foldl (follow name) none

theorem life_snoc (name : String) (told : List Event) (event : Event) :
    life name (told ++ [event]) = follow name (life name told) event := by
  unfold life
  rw [List.foldl_append]
  rfl

theorem follow_aside (name : String) (life? : Option Life) (event : Event)
    (aside : event.Aside) : follow name life? event = life? := by
  cases event with
  | did _ _ => exact aside.elim
  | setup _ => rfl
  | opened _ _ _ => exact aside.elim
  | plain _ => rfl

theorem life_did (name : String) (told : List Event) (life : Life) (deed : Deed)
    (found : Event.life name told = some life) :
    Event.life name (told ++ [.did name deed]) = some ⟨life.opened, life.deeds ++ [deed]⟩ := by
  rw [life_snoc, follow, if_pos rfl, found]
  rfl

theorem life_opened (name : String) (told : List Event) (exchange : Exchange)
    (session : Session) :
    Event.life name (told ++ [.opened name exchange session]) = some ⟨session, []⟩ := by
  rw [life_snoc, follow, if_pos rfl]

/-- An event may follow others: it is what it seems, and a deed is a move in the life of the session
held. -/
def Follows (event : Event) (told : List Event) : Prop :=
  event.Genuine ∧
    match event with
    | .did name deed => ∃ life session, Event.life name told = some life ∧
      (⟨life.opened, life.deeds ++ [deed]⟩ : Life).Reaches session
    | _ => True

theorem follows_of_aside (event : Event) (told : List Event) (aside : event.Aside) :
    event.Follows told := by
  cases event with
  | did _ _ => exact aside.elim
  | setup _ => exact ⟨trivial, trivial⟩
  | opened _ _ _ => exact aside.elim
  | plain _ => exact ⟨aside, trivial⟩

end Event

/-- Every event may follow those told before it. -/
def Orderly (told : List Event) : Prop :=
  ∀ earlier event, earlier ++ [event] <+: told → event.Follows earlier

theorem orderly_nil : Orderly [] := by
  intro earlier event isPrefix
  have empty := List.prefix_nil.mp isPrefix
  simp at empty

theorem Orderly.snoc {told : List Event} {event : Event} (orderly : Orderly told)
    (follows : event.Follows told) : Orderly (told ++ [event]) := by
  intro earlier other isPrefix
  rcases List.prefix_concat_iff.mp isPrefix with whole | isEarlier
  · obtain ⟨rfl, same⟩ := List.append_inj' whole rfl
    obtain rfl := List.singleton_inj.mp same
    exact follows
  · exact orderly earlier other isEarlier

theorem Orderly.before {told later : List Event} (orderly : Orderly (told ++ later)) :
    Orderly told :=
  fun earlier event isPrefix => orderly earlier event (isPrefix.trans (List.prefix_append _ _))

theorem Orderly.reaches {told : List Event} (orderly : Orderly told) (name : String) (life : Life)
    (found : Event.life name told = some life) : ∃ session, life.Reaches session := by
  -- Only the last event can have changed the life, and by then the others were in order.
  induction told using List.reverseRecOn generalizing life with
  | nil => cases found
  | append_singleton told event inductionHypothesis =>
    have follows := orderly told event (List.prefix_refl _)
    have earlier := inductionHypothesis orderly.before
    rw [Event.life_snoc] at found
    cases event with
    | did other deed =>
      by_cases same : other = name
      · obtain rfl := same
        obtain ⟨_, before, session, known, reaches⟩ := follows
        rw [Event.follow, if_pos rfl, known] at found
        cases found
        exact ⟨session, reaches⟩
      · rw [Event.follow, if_neg same] at found
        exact earlier life found
    | setup _ => exact earlier life found
    | opened other exchange session =>
      by_cases same : other = name
      · rw [Event.follow, if_pos same] at found
        cases found
        obtain ⟨⟨_, _, _, _, opens⟩, _⟩ := follows
        exact ⟨session, opens.fresh, .born⟩
      · rw [Event.follow, if_neg same] at found
        exact earlier life found
    | plain _ => exact earlier life found

theorem Orderly.asides {told : List Event} (orderly : Orderly told) (events : List Event)
    (aside : ∀ event ∈ events, event.Aside) :
    Orderly (told ++ events) ∧ ∀ name, Event.life name (told ++ events) = Event.life name told := by
  induction events generalizing told with
  | nil =>
    rw [List.append_nil]
    exact ⟨orderly, fun _ => rfl⟩
  | cons event events inductionHypothesis =>
    have isAside := aside event List.mem_cons_self
    obtain ⟨still, same⟩ := inductionHypothesis
      (orderly.snoc (event.follows_of_aside told isAside))
      (fun other member => aside other (List.mem_cons_of_mem _ member))
    rw [List.append_assoc, List.singleton_append] at still same
    refine ⟨still, fun name => ?_⟩
    rw [same name, Event.life_snoc, Event.follow_aside _ _ _ isAside]

theorem Event.follows_of_reaches (name : String) (told : List Event) (life : Life)
    (session : Session) (deed : Deed) (found : Event.life name told = some life)
    (reaches : (⟨life.opened, life.deeds ++ [deed]⟩ : Life).Reaches session) :
    (Event.did name deed).Follows told := by
  obtain ⟨before, _, done⟩ := reaches.lives.doneWith deed
    (List.mem_append_right _ (List.mem_singleton_self deed))
  exact ⟨⟨before, done⟩, life, session, found, reaches⟩

namespace Session.Unfolds

variable {name : String} {failed : Fault → Prop} {before after : Session} {events : List Event}

theorem orderly (unfolds : Unfolds name failed before events after) (told : List Event)
    (life : Life) (orderly : Orderly told) (found : Event.life name told = some life)
    (reaches : life.Reaches before) :
    Orderly (told ++ events) ∧
      ∃ later, Event.life name (told ++ events) = some later ∧ later.Reaches after := by
  induction unfolds generalizing told life with
  | done session =>
    rw [List.append_nil]
    exact ⟨orderly, life, found, reaches⟩
  | repeats session nonceOdd issued _ =>
    have next := reaches.moved (.repeats session nonceOdd issued)
    exact ⟨orderly.snoc (Event.follows_of_reaches name told life _ _ found next), _,
      Event.life_did name told life _ found, next⟩
  | moved session next after deed? rest move _ _ inductionHypothesis =>
    have reachesNext := reaches.moved move
    cases deed? with
    | none =>
      rw [Option.toList_none, List.append_nil] at reachesNext
      exact inductionHypothesis told life orderly found reachesNext
    | some deed =>
      rw [Option.toList_some, List.map_singleton, ← List.append_assoc]
      exact inductionHypothesis (told ++ [.did name deed]) _
        (orderly.snoc (Event.follows_of_reaches name told life _ _ found reachesNext))
        (Event.life_did name told life _ found) reachesNext
  | reopened session fresh after exchange rest genuine _ inductionHypothesis =>
    have follows : (Event.opened name exchange fresh).Follows told := ⟨genuine, trivial⟩
    obtain ⟨_, _, _, _, opens⟩ := genuine
    rw [← List.singleton_append, ← List.append_assoc]
    exact inductionHypothesis (told ++ [.opened name exchange fresh]) _ (orderly.snoc follows)
      (Event.life_opened name told exchange fresh) ⟨opens.fresh, .born⟩
  | aside session after event rest aside _ inductionHypothesis =>
    rw [← List.singleton_append, ← List.append_assoc]
    refine inductionHypothesis (told ++ [event]) life
      (orderly.snoc (event.follows_of_aside told aside)) ?_ reaches
    rw [Event.life_snoc, Event.follow_aside _ _ _ aside, found]

theorem life_of_ne (unfolds : Unfolds name failed before events after) (told : List Event)
    (other : String) (differ : other ≠ name) :
    Event.life other (told ++ events) = Event.life other told := by
  have passed : ∀ (told : List Event) (deed : Deed),
      Event.life other (told ++ [.did name deed]) = Event.life other told := by
    intro told deed
    rw [Event.life_snoc, Event.follow, if_neg (Ne.symm differ)]
  induction unfolds generalizing told with
  | done session => rw [List.append_nil]
  | repeats session nonceOdd issued _ => exact passed told _
  | moved session next after deed? rest _ _ _ inductionHypothesis =>
    cases deed? with
    | none => exact inductionHypothesis told
    | some deed =>
      rw [Option.toList_some, List.map_singleton, ← List.append_assoc, inductionHypothesis, passed]
  | reopened session fresh after exchange rest _ _ inductionHypothesis =>
    rw [← List.singleton_append, ← List.append_assoc, inductionHypothesis, Event.life_snoc,
      Event.follow, if_neg (Ne.symm differ)]
  | aside session after event rest aside _ inductionHypothesis =>
    rw [← List.singleton_append, ← List.append_assoc, inductionHypothesis, Event.life_snoc,
      Event.follow_aside _ _ _ aside]

/-- A nonce that was taken for the session before is the last event, and the session is closed. -/
theorem stops (unfolds : Unfolds name failed before events after) (told : List Event)
    (life : Life) (found : Event.life name told = some life) (reaches : life.Reaches before)
    (early late : List Event) (other : String) (nonceOdd : Digest) (known : Life)
    (split : events = early ++ .did other (.drew nonceOdd) :: late)
    (current : Event.life other (told ++ early) = some known) (knows : known.Knows nonceOdd) :
    late = [] ∧ other = name ∧ failed (.nonceReuse after.handle) ∧ after.status = .closed := by
  induction unfolds generalizing told life early with
  | done session => simp at split
  | repeats session drawn issued fails =>
    cases early with
    | nil =>
      cases split
      exact ⟨rfl, rfl, fails, rfl⟩
    | cons first early => simp at split
  | moved session next after deed? rest move isNew _ inductionHypothesis =>
    have reachesNext := reaches.moved move
    cases deed? with
    | none =>
      rw [Option.toList_none, List.append_nil] at reachesNext
      exact inductionHypothesis told life found reachesNext early split current
    | some deed =>
      cases early with
      | nil =>
        -- the nonce is known, and the move says that it is not
        cases split
        rw [List.append_nil, found] at current
        cases current
        exact absurd ((reaches.knows_iff nonceOdd).mp knows) (isNew nonceOdd rfl)
      | cons first early =>
        obtain ⟨rfl, remaining⟩ := List.cons_eq_cons.mp split
        rw [← List.singleton_append, ← List.append_assoc] at current
        exact inductionHypothesis (told ++ [.did name deed]) _
          (Event.life_did name told life _ found) reachesNext early remaining current
  | reopened session fresh after exchange rest genuine _ inductionHypothesis =>
    obtain ⟨_, _, _, _, opens⟩ := genuine
    cases early with
    | nil => cases split
    | cons first early =>
      obtain ⟨rfl, remaining⟩ := List.cons_eq_cons.mp split
      rw [← List.singleton_append, ← List.append_assoc] at current
      exact inductionHypothesis (told ++ [.opened name exchange fresh]) _
        (Event.life_opened name told exchange fresh) ⟨opens.fresh, .born⟩ early remaining current
  | aside session after event rest aside _ inductionHypothesis =>
    cases early with
    | nil =>
      cases split
      exact aside.elim
    | cons first early =>
      obtain ⟨rfl, remaining⟩ := List.cons_eq_cons.mp split
      rw [← List.singleton_append, ← List.append_assoc] at current
      refine inductionHypothesis (told ++ [event]) life ?_ reaches early remaining current
      rw [Event.life_snoc, Event.follow_aside _ _ _ aside, found]

end Session.Unfolds

namespace Workspace

variable {σ : Type} [Channel σ]

/-- Every session held is the one whose life was told. -/
def Follows (workspace : Workspace (Tapped σ)) (told : List Event) : Prop :=
  ∀ name session, workspace.session? name = some session →
    ∃ life, Event.life name told = some life ∧ life.Reaches session

omit [Channel σ] in
theorem Alters.orderly {before after : Workspace (Tapped σ)} {failed : Fault → Prop}
    {events : List Event} (alters : before.Alters failed events after) (told : List Event)
    (orderly : Orderly told) (follows : before.Follows told) :
    Orderly (told ++ events) ∧ after.Follows (told ++ events) := by
  cases alters with
  | keeps _ _ asides kept =>
    obtain ⟨still, same⟩ := orderly.asides events asides
    refine ⟨still, fun name session held => ?_⟩
    rw [same name]
    exact follows name session (kept name session held)
  | changes name session left _ client held unfolds =>
    obtain ⟨life, found, reaches⟩ := follows name session held
    obtain ⟨still, later, foundLater, reachesLater⟩ := unfolds.orderly told life orderly found reaches
    refine ⟨still, fun other also heldAlso => ?_⟩
    by_cases same : other = name
    · obtain rfl := same
      rw [session?_hold] at heldAlso
      cases heldAlso
      exact ⟨later, foundLater, reachesLater⟩
    · rw [session?_hold_of_ne _ _ _ _ same] at heldAlso
      rw [unfolds.life_of_ne told other same]
      exact follows other also heldAlso
  | opens name session exchange asides client aside genuine =>
    obtain ⟨still, same⟩ := orderly.asides asides aside
    have isGenuine : (Event.opened name exchange session).Follows (told ++ asides) :=
      ⟨genuine, trivial⟩
    obtain ⟨_, _, _, _, opens⟩ := genuine
    rw [← List.append_assoc]
    refine ⟨still.snoc isGenuine, fun other also heldAlso => ?_⟩
    by_cases named : other = name
    · obtain rfl := named
      rw [session?_hold] at heldAlso
      cases heldAlso
      exact ⟨_, Event.life_opened _ _ exchange _, opens.fresh, .born⟩
    · rw [session?_hold_of_ne _ _ _ _ named] at heldAlso
      rw [Event.life_snoc, Event.follow, if_neg (Ne.symm named), same other]
      exact follows other also heldAlso

/-- A call does not get past a nonce that was taken for the session before: it fails with that, has
sent nothing since, and leaves the session closed. -/
def StopsAtRepeat (workspace : Workspace (Tapped σ)) (told : List Event) (call : Call) : Prop :=
  ∀ early late name nonceOdd life,
    call.tell workspace = early ++ .did name (.drew nonceOdd) :: late →
    Event.life name (told ++ early) = some life → life.Knows nonceOdd →
    late = [] ∧ ∃ session,
      (call.perform.run workspace).2.session? name = some session ∧ session.status = .closed ∧
      (call.perform.run workspace).1 = .error (.nonceReuse session.handle)

theorem stopsAtRepeat (workspace : Workspace (Tapped σ)) (told : List Event) (call : Call)
    (follows : workspace.Follows told) : workspace.StopsAtRepeat told call := by
  intro early late name nonceOdd life split current knows
  have alters := (call.tells workspace).2
  have drawn : Event.did name (.drew nonceOdd) ∈ call.tell workspace := by
    rw [split]
    exact List.mem_append_right _ List.mem_cons_self
  generalize call.tell workspace = events at split drawn alters
  generalize call.perform.run workspace = ran at alters ⊢
  obtain ⟨outcome, after⟩ := ran
  dsimp only at alters ⊢
  cases alters with
  | keeps _ _ asides _ => exact (asides _ drawn).elim
  | changes held session left _ client isHeld unfolds =>
    obtain ⟨begun, found, reaches⟩ := follows held session isHeld
    obtain ⟨none, rfl, fails, closed⟩ :=
      unfolds.stops told begun found reaches early late name nonceOdd life split current knows
    exact ⟨none, left, session?_hold _ _ _, closed, fails⟩
  | opens _ _ _ asides _ aside _ =>
    rcases List.mem_append.mp drawn with isAside | same
    · exact (aside _ isAside).elim
    · cases List.mem_singleton.mp same

theorem orderly_run (workspace : Workspace (Tapped σ)) (calls : List Call) (told : List Event)
    (orderly : Orderly told) (follows : workspace.Follows told) :
    Orderly (told ++ workspace.story calls) ∧
      (workspace.run calls).2.Follows (told ++ workspace.story calls) := by
  induction calls generalizing workspace told with
  | nil =>
    rw [story, List.append_nil]
    exact ⟨orderly, follows⟩
  | cons call calls inductionHypothesis =>
    obtain ⟨still, followsStill⟩ := (call.tells workspace).2.orderly told orderly follows
    rw [story, ← List.append_assoc]
    exact inductionHypothesis _ _ still followsStill

theorem shows_run (workspace : Workspace (Tapped σ)) (calls : List Call) :
    workspace.client.Shows (workspace.story calls) (workspace.run calls).2.client := by
  induction calls generalizing workspace with
  | nil => exact Client.shows_nil _ _ rfl rfl
  | cons call calls inductionHypothesis =>
    exact (call.tells workspace).1.append (inductionHypothesis _)

/-- What holds of the nonces of a run of calls that begins without sessions. -/
structure KeepsNonces (client : Client (Tapped σ)) (calls : List Call) : Prop where
  -- Every nonce taken and every frame sent is told, in order.
  shown : client.Shows ((fresh client).story calls) ((fresh client).run calls).2.client
  -- Every event is what it seems, and follows those told before it.
  orderly : Orderly ((fresh client).story calls)
  follows : ((fresh client).run calls).2.Follows ((fresh client).story calls)
  -- At any time, the nonces of the session object last held under a name were used once.
  disciplined : ∀ told, told <+: (fresh client).story calls →
    ∀ name life, Event.life name told = some life → life.Disciplined
  stops : ∀ earlier call later, calls = earlier ++ call :: later →
    ((fresh client).run earlier).2.StopsAtRepeat ((fresh client).story earlier) call

/-- Whatever the calls are, whatever the module answers, however the channel fails and whatever the
source draws, no session uses a nonce twice. -/
theorem keepsNonces_run (client : Client (Tapped σ)) (calls : List Call) :
    KeepsNonces client calls := by
  have begun : (fresh client).Follows [] := fun _ _ held => nomatch held
  obtain ⟨orderly, follows⟩ := orderly_run (fresh client) calls [] orderly_nil begun
  refine ⟨shows_run (fresh client) calls, orderly, follows, ?_, ?_⟩
  · rintro told ⟨later, whole⟩ name life found
    rw [List.nil_append, ← whole] at orderly
    obtain ⟨session, reaches⟩ := orderly.before.reaches name life found
    exact reaches.disciplined
  · rintro earlier call later -
    exact stopsAtRepeat _ _ call (orderly_run (fresh client) earlier [] orderly_nil begun).2

example :
    let opening := Bytes.word16 0xc4 ++ Bytes.bigEndian 4 54 ++ Bytes.word32 0 ++
      Bytes.word32 8 ++ List.replicate 20 1 ++ List.replicate 20 2
    let client : Client (Tapped Script) := .fresh ⟨Script.ofEntries [.answer opening], none, []⟩
      ⟨fun _ => Block.replicate 20 5, 0⟩ 1
    let ran := (fresh client).run
      [.openOsap "owner" ⟨.owner, 1⟩ .wellKnown, .nextNonceOdd "owner"]
    ran.1 = [.ok .nothing, .error (.nonceReuse 8)] ∧
      (ran.2.session? "owner").map Session.status = some .closed :=
  ⟨rfl, rfl⟩

end Workspace

end TrustedPlatform
