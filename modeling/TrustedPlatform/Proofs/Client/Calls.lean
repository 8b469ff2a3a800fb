import TrustedPlatform.Files.Basic
import TrustedPlatform.Proofs.Client.Custody
import TrustedPlatform.Proofs.Client.Story

/-!
# What a call tells

Every call in a workspace is told as a list of events (`Call.tell`), which are what the client shows
of it, and which say what becomes of the sessions held: `Call.tells`.
-/

set_option autoImplicit false

namespace TrustedPlatform

variable {σ : Type} [Channel σ]

/-- What a call does with the session lent for it: it may draw a nonce ahead, and has its command
dispatched. -/
def AuthorizedCall.tell (call : AuthorizedCall) (name : String) (client : Client (Tapped σ))
    (use : SessionUse) : List Event :=
  match (prepare call).run ⟨client, some use⟩ with
  | (outcome, prepared) =>
    (client.nonces.drawnSince prepared.client.nonces).map (fun nonce => .did name (.drew nonce)) ++
      match outcome, prepared.use? with
      | .ok command, some left =>
        Dispatch.attempts name command (Dispatch.furtherAttempts command prepared.client)
          prepared.client left
      | _, _ => []

def Client.tellOpen (name : String) (kind : SessionKind) (secret : Secret)
    (client : Client (Tapped σ)) : List Event :=
  let (opened, after) := (openSession kind secret).run client
  client.tellOpening name after opened.toOption

def Call.tell (workspace : Workspace (Tapped σ)) (call : Call) : List Event :=
  let after := (call.perform.run workspace).2.client
  match call with
  | .openOiap name => workspace.client.tellOpen name .oiap .wellKnown
  | .openOsap name entity secret => workspace.client.tellOpen name (.osap entity) secret
  | .nextNonceOdd name =>
    (workspace.client.nonces.drawnSince after.nonces).map fun nonce => .did name (.drew nonce)
  | .authorized call (some loan) =>
    match workspace.session? loan.name with
    | none => []
    | some session =>
      call.tell loan.name workspace.client ⟨session, loan.secret, loan.continueSession⟩
  | _ => (workspace.client.link.since after.link).map .plain

namespace Workspace

def story (workspace : Workspace (Tapped σ)) : List Call → List Event
  | [] => []
  | call :: calls => call.tell workspace ++ (call.perform.run workspace).2.story calls

omit [Channel σ] in
theorem session?_hold (workspace : Workspace σ) (name : String) (session : Session) :
    (workspace.hold name session).session? name = some session := List.lookup_cons_self

omit [Channel σ] in
theorem session?_drop_of_ne (workspace : Workspace σ) (name other : String)
    (differ : other ≠ name) : (workspace.drop name).session? other = workspace.session? other :=
  Files.lookup_filter_ne workspace.sessions name other differ

omit [Channel σ] in
theorem session?_drop (workspace : Workspace σ) (name : String) :
    (workspace.drop name).session? name = none := by
  refine List.lookup_eq_none_iff.mpr fun held member => ?_
  have kept := (List.mem_filter.mp member).2
  rw [bne_comm] at kept
  simpa using kept

omit [Channel σ] in
theorem session?_hold_of_ne (workspace : Workspace σ) (name other : String) (session : Session)
    (differ : other ≠ name) :
    (workspace.hold name session).session? other = workspace.session? other := by
  have unlike : (other == name) = false := beq_false_of_ne differ
  have passed : (workspace.hold name session).session? other =
      (workspace.drop name).session? other := by
    show List.lookup other ((name, session) :: (workspace.drop name).sessions) = _
    rw [List.lookup_cons, unlike]
    rfl
  rw [passed, session?_drop_of_ne workspace name other differ]

omit [Channel σ] in
theorem run_entrust_of_lost (name : String) (action : Action Fault (Custody σ) Answer)
    (workspace : Workspace σ) (lost : workspace.session? name = none) :
    (entrust name action).run workspace = (.ok .lost, workspace) := by
  unfold entrust
  dsimp only
  rw [lost]

omit [Channel σ] in
theorem run_entrust_of_held (name : String) (action : Action Fault (Custody σ) Answer)
    (workspace : Workspace σ) (session left : Session) (outcome : Except Fault Answer)
    (after : Client σ) (held : workspace.session? name = some session)
    (ran : action.run ⟨workspace.client, session⟩ = (outcome, ⟨after, left⟩)) :
    (entrust name action).run workspace =
      (outcome, { workspace with client := after }.hold name left) := by
  have entrusted : (entrust name action).run workspace =
      match workspace.session? name with
      | none => (.ok .lost, workspace)
      | some session =>
        ((action.run ⟨workspace.client, session⟩).1,
          { workspace with client := (action.run ⟨workspace.client, session⟩).2.client }.hold name
            (action.run ⟨workspace.client, session⟩).2.session) := rfl
  rw [entrusted, held]
  dsimp only
  rw [ran]

omit [Channel σ] in
theorem run_lend_none (action : Action Fault (Dispatch σ) Answer) (workspace : Workspace σ) :
    (lend none action).run workspace =
      ((action.run ⟨workspace.client, none⟩).1,
        { workspace with client := (action.run ⟨workspace.client, none⟩).2.client }) := rfl

omit [Channel σ] in
theorem run_lend (loan : Loan) (action : Action Fault (Dispatch σ) Answer)
    (workspace : Workspace σ) :
    (lend (some loan) action).run workspace =
      match workspace.session? loan.name with
      | none => (.ok .lost, workspace)
      | some session =>
        let ran := action.run ⟨workspace.client, some ⟨session, loan.secret, loan.continueSession⟩⟩
        match ran.2.use? with
        | none => (ran.1, { workspace with client := ran.2.client })
        | some use => (ran.1, { workspace with client := ran.2.client }.hold loan.name use.session) :=
  rfl

omit [Channel σ] in
theorem run_lend_of_held (loan : Loan) (action : Action Fault (Dispatch σ) Answer)
    (workspace : Workspace σ) (session left : Session) (outcome : Except Fault Answer)
    (after : Client σ) (held : workspace.session? loan.name = some session)
    (ran : action.run ⟨workspace.client, some ⟨session, loan.secret, loan.continueSession⟩⟩ =
      (outcome, ⟨after, some ⟨left, loan.secret, loan.continueSession⟩⟩)) :
    (lend (some loan) action).run workspace =
      (outcome, { workspace with client := after }.hold loan.name left) := by
  rw [run_lend, held]
  dsimp only
  rw [ran]

/-- How a call changes which sessions are held, with what it does: it has to do with none of them,
or something becomes of one, or one is opened. -/
inductive Alters (before : Workspace (Tapped σ)) (failed : Fault → Prop) :
    List Event → Workspace (Tapped σ) → Prop where
  | keeps (events : List Event) (after : Workspace (Tapped σ))
      (asides : ∀ event ∈ events, event.Aside)
      (kept : ∀ name session, after.session? name = some session →
        before.session? name = some session) : Alters before failed events after
  | changes (name : String) (session left : Session) (events : List Event)
      (client : Client (Tapped σ)) (held : before.session? name = some session)
      (unfolds : Session.Unfolds name failed session events left) :
      Alters before failed events ({ before with client }.hold name left)
  | opens (name : String) (session : Session) (exchange : Exchange) (asides : List Event)
      (client : Client (Tapped σ)) (aside : ∀ event ∈ asides, event.Aside)
      (genuine : (Event.opened name exchange session).Genuine) :
      Alters before failed (asides ++ [.opened name exchange session])
        ({ before with client }.hold name session)

end Workspace

omit [Channel σ] in
/-- Nonces taken for the session held under a name are what the source shows. -/
theorem Client.shows_draws (name : String) (client : Client (Tapped σ)) (nonces : NonceSource)
    (gives : client.nonces.Gives (client.nonces.drawnSince nonces) nonces) :
    client.Shows ((client.nonces.drawnSince nonces).map fun nonce => .did name (.drew nonce))
      { client with nonces } := by
  have shows := shows_of_since client { client with nonces } _ [] (fun nonce => .did name (.drew nonce))
    .plain (fun _ => ⟨rfl, rfl⟩) (fun _ => ⟨rfl, rfl⟩) gives (List.append_nil _).symm
  rw [List.map_nil, List.append_nil] at shows
  exact shows

omit [Channel σ] in
/-- Making up a command is what the client shows, and either the session lent goes through a move
or none, or a nonce was repeated. -/
theorem AuthorizedCall.prepare_tells (call : AuthorizedCall) (name : String)
    (client : Client (Tapped σ)) (use : SessionUse) :
    ∃ outcome session nonces,
      (prepare call).run ⟨client, some use⟩ =
        (outcome, ⟨{ client with nonces }, some { use with session }⟩) ∧
      client.nonces.Gives (client.nonces.drawnSince nonces) nonces ∧
      (use.session.Leads name
          ((client.nonces.drawnSince nonces).map fun nonce => .did name (.drew nonce)) session ∨
        (outcome = .error (.nonceReuse use.session.handle) ∧
          ∀ failed : Fault → Prop, failed (.nonceReuse use.session.handle) →
            Session.Unfolds name failed use.session
              ((client.nonces.drawnSince nonces).map fun nonce => .did name (.drew nonce))
              session)) := by
  rcases call.run_prepare ⟨client, some use⟩ with ⟨same, _⟩ | ⟨same, failing⟩
  · refine ⟨_, use.session, client.nonces, Prod.ext rfl same, ?_, Or.inl ?_⟩
    · rw [NonceSource.drawnSince_self]
      rfl
    · rw [NonceSource.drawnSince_self]
      exact .nil use.session
  · cases drew : use.session.nextNonceOdd client.nonces with
    | mk outcome rest =>
      obtain ⟨session, nonces⟩ := rest
      have ran : Dispatch.nextNonceOdd.run ⟨client, some use⟩ =
          (outcome, ⟨{ client with nonces }, some { use with session }⟩) := by
        unfold Dispatch.nextNonceOdd
        dsimp only
        rw [drew]
      rw [ran] at same failing
      obtain ⟨gives, course⟩ := Session.nextNonceOdd_tells name _ _ _ _ _ drew
      refine ⟨_, session, nonces, Prod.ext rfl same, gives, ?_⟩
      rcases course with leads | ⟨rfl, unfolds⟩
      · exact Or.inl leads
      · exact Or.inr ⟨failing, unfolds⟩

namespace Session

theorem Unfolds.mono {name : String} {failed also : Fault → Prop} {before after : Session}
    {events : List Event} (unfolds : Unfolds name failed before events after)
    (implied : ∀ fault, failed fault → also fault) : Unfolds name also before events after := by
  induction unfolds with
  | done session => exact .done session
  | repeats session nonceOdd issued fails =>
    exact .repeats session nonceOdd issued (implied _ fails)
  | moved session next after deed? rest move isNew _ inductionHypothesis =>
    exact .moved session next after deed? rest move isNew inductionHypothesis
  | reopened session fresh after exchange rest genuine _ inductionHypothesis =>
    exact .reopened session fresh after exchange rest genuine inductionHypothesis
  | aside session after event rest aside _ inductionHypothesis =>
    exact .aside session after event rest aside inductionHypothesis

end Session

omit [Channel σ] in
theorem Dispatch.onlyInventory_settle (dispatch : Dispatch σ) :
    ∃ inventory,
      settle dispatch = { dispatch with client := { dispatch.client with inventory } } := by
  unfold settle
  split
  · exact ⟨dispatch.client.inventory, rfl⟩
  · split
    · exact ⟨dispatch.client.inventory, rfl⟩
    · exact ⟨_, rfl⟩

/-- A call with a session is what the client shows, and the session is followed through all of
it. -/
theorem AuthorizedCall.perform_tells (call : AuthorizedCall) (name : String)
    (client : Client (Tapped σ)) (use : SessionUse) :
    ∃ outcome after session,
      (call.perform : Action Fault (Dispatch (Tapped σ)) Answer).run ⟨client, some use⟩ =
        (outcome, ⟨after, some { use with session }⟩) ∧
      client.Shows (call.tell name client use) after ∧
      Session.Unfolds name (fun fault => outcome = .error fault) use.session
        (call.tell name client use) session := by
  obtain ⟨prepared, session, nonces, ran, gives, course⟩ := call.prepare_tells name client use
  have draws := client.shows_draws name nonces gives
  rw [call.perform_eq, Action.run_bind, ran]
  cases prepared with
  | error fault =>
    have told : call.tell name client use =
        (client.nonces.drawnSince nonces).map fun nonce => .did name (.drew nonce) := by
      unfold tell
      rw [ran]
      exact List.append_nil _
    rw [told]
    refine ⟨_, _, _, rfl, draws, ?_⟩
    rcases course with leads | ⟨failed, unfolds⟩
    · exact leads.unfolds _
    · cases failed
      exact unfolds _ rfl
  | ok command =>
    have leads : use.session.Leads name
        ((client.nonces.drawnSince nonces).map fun nonce => .did name (.drew nonce)) session := by
      rcases course with leads | ⟨failed, _⟩
      · exact leads
      · cases failed
    obtain ⟨outcome, after, left, executed, shows, unfolds⟩ :=
      Dispatch.executeUpTo_tells name command (Dispatch.furtherAttempts command client)
        { client with nonces } { use with session }
    obtain ⟨known, settled⟩ := Dispatch.onlyInventory_settle
      (⟨after, some { use with session := left }⟩ : Dispatch (Tapped σ))
    have dispatched : (Dispatch.execute command).run
        ⟨{ client with nonces }, some { use with session }⟩ =
          (outcome, ⟨{ after with inventory := known }, some { use with session := left }⟩) := by
      have further : Dispatch.furtherAttempts command ({ client with nonces } : Client (Tapped σ)) =
          Dispatch.furtherAttempts command client := rfl
      rw [Dispatch.run_execute]
      dsimp only
      rw [further, executed, settled]
    have told : call.tell name client use =
        ((client.nonces.drawnSince nonces).map fun nonce => .did name (.drew nonce)) ++
          Dispatch.attempts name command (Dispatch.furtherAttempts command client)
            { client with nonces } { use with session } := by
      unfold tell
      rw [ran]
      rfl
    dsimp only
    rw [told, Action.run_bind, dispatched]
    have whole := draws.append shows
    cases outcome with
    | error fault =>
      exact ⟨_, _, _, rfl, ⟨whole.recorded, whole.drawn⟩, leads _ _ _ (unfolds.mono fun _ failed => by
        cases failed
        rfl)⟩
    | ok reply =>
      obtain ⟨answered, inventory, finished, _⟩ := call.run_finish reply
        (⟨{ after with inventory := known }, some { use with session := left }⟩ :
          Dispatch (Tapped σ))
      exact ⟨_, _, _, finished, ⟨whole.recorded, whole.drawn⟩,
        leads _ _ _ (unfolds.mono fun _ failed => nomatch failed)⟩

namespace Custody

omit [Channel σ] in
theorem run_nextNonceOdd (client : Client σ) (session left : Session) (nonces : NonceSource)
    (drawn : Except Fault Digest)
    (drew : session.nextNonceOdd client.nonces = (drawn, left, nonces)) :
    (nextNonceOdd : Action Fault (Custody σ) Digest).run ⟨client, session⟩ =
      (drawn, ⟨{ client with nonces }, left⟩) := by
  unfold nextNonceOdd
  dsimp only
  rw [drew]

/-- Moving a session out sends no trailer, and suspends it if anything becomes of it. -/
theorem moves_save (client : Client (Tapped σ)) (session : Session) :
    ∃ outcome after left, (save (σ := Tapped σ)).run ⟨client, session⟩ = (outcome, ⟨after, left⟩) ∧
      sendsUnsigned.related client after ∧ (left = session ∨ session.Moves none left) := by
  obtain ⟨outcome, after, left, ran, saves⟩ := run_save sendsUnsigned_allowsSending client session
  refine ⟨outcome, after, left, ran, ?_⟩
  cases saves with
  | refused _ => exact ⟨sendsUnsigned.refl client, Or.inl rfl⟩
  | failed _ _ _ sent => exact ⟨sent, Or.inl rfl⟩
  | saved _ _ active sent => exact ⟨sent, Or.inr (.suspends session active)⟩

/-- Bringing a session back sends no trailer, and resumes it if anything becomes of it. -/
theorem moves_load (client : Client (Tapped σ)) (session : Session) (blob : Bytes) :
    ∃ outcome after left,
      (load (σ := Tapped σ) blob).run ⟨client, session⟩ = (outcome, ⟨after, left⟩) ∧
      sendsUnsigned.related client after ∧ (left = session ∨ session.Moves none left) := by
  obtain ⟨outcome, after, left, ran, loads⟩ :=
    run_load sendsUnsigned_allowsSending client session blob
  refine ⟨outcome, after, left, ran, ?_⟩
  cases loads with
  | refused _ => exact ⟨sendsUnsigned.refl client, Or.inl rfl⟩
  | reused _ _ => exact ⟨sendsUnsigned.refl client, Or.inl rfl⟩
  | failed _ _ _ _ sent => exact ⟨sent, Or.inl rfl⟩
  | loaded handle _ suspended _ sent => exact ⟨sent, Or.inr (.resumes session handle suspended)⟩

end Custody

omit [Channel σ] in
theorem Client.tells_unsigned (before after : Client (Tapped σ))
    (unsigned : sendsUnsigned.related before after) :
    before.Shows ((before.link.since after.link).map .plain) after ∧
      ∀ event ∈ (before.link.since after.link).map Event.plain, event.Aside := by
  obtain ⟨nonces, added, recorded, unsigned⟩ := unsigned
  rw [Link.since_eq _ _ added recorded]
  constructor
  · have shows := shows_of_since before after [] added .setup .plain (fun _ => ⟨rfl, rfl⟩)
      (fun _ => ⟨rfl, rfl⟩) nonces recorded
    exact shows
  · intro event member
    obtain ⟨exchange, isAdded, rfl⟩ := List.mem_map.mp member
    exact unsigned exchange isAdded

/-- Opening a session is what the client shows; a session that was opened is told last. -/
theorem Client.tellOpen_tells (name : String) (kind : SessionKind) (secret : Secret)
    (client : Client (Tapped σ)) :
    client.Shows (client.tellOpen name kind secret) ((openSession kind secret).run client).2 ∧
      match ((openSession kind secret).run client).1 with
      | .ok session => ∃ setups exchange,
        client.tellOpen name kind secret = setups ++ [.opened name exchange session] ∧
          (∀ event ∈ setups, event.Aside) ∧ (Event.opened name exchange session).Genuine
      | .error _ => ∀ event ∈ client.tellOpen name kind secret, event.Aside := by
  cases transmitted : (Link.transmit (kind.openingFrame client.nonces.next.1)).run client.link with
  | mk answer link =>
    obtain ⟨added, recorded, adds⟩ := Link.transmit_tapped _ _ _ _ transmitted
    have ran := run_openSession kind secret client answer link transmitted
    cases opened : kind.opened secret client.nonces.next.1 answer with
    | error fault =>
      have told : client.tellOpen name kind secret = client.tellOpening name
          (client.received link (kind.leaves client.nonces) (.error fault)) none := by
        unfold tellOpen
        rw [ran, opened]
        rfl
      rw [told, ran, opened]
      exact ⟨shows_tellOpening name kind client _ none added rfl recorded,
        aside_tellOpening name kind _ client _ answer added recorded adds⟩
    | ok session =>
      have told : client.tellOpen name kind secret = client.tellOpening name
          (client.received link (kind.leaves client.nonces) (.ok session)) (some session) := by
        unfold tellOpen
        rw [ran, opened]
        rfl
      rw [told, ran, opened]
      exact ⟨shows_tellOpening name kind client _ _ added rfl recorded,
        tellOpening_of_opens name kind secret _ client _ answer added session recorded adds
          ((SessionKind.opened_eq_ok_iff _ _ _ _ _).mp opened)⟩

/-- A call is told if the events are what the client shows, and say what becomes of the sessions. -/
def Workspace.Told (before : Workspace (Tapped σ)) (events : List Event)
    (ran : Except Fault Answer × Workspace (Tapped σ)) : Prop :=
  before.client.Shows events ran.2.client ∧
    before.Alters (fun fault => ran.1 = .error fault) events ran.2

namespace Workspace

omit [Channel σ] in
/-- What is done without a session has to do with none that is held. -/
theorem told_unsigned (before : Workspace (Tapped σ)) (after : Client (Tapped σ))
    (outcome : Except Fault Answer) (sessions : List (String × Session))
    (unsigned : sendsUnsigned.related before.client after)
    (kept : ∀ name session, Workspace.session? ⟨after, sessions⟩ name = some session →
      before.session? name = some session) :
    before.Told ((before.client.link.since after.link).map .plain)
      (outcome, ⟨after, sessions⟩) := by
  obtain ⟨shows, asides⟩ := Client.tells_unsigned before.client after unsigned
  exact ⟨shows, .keeps _ _ asides kept⟩

def openSession (name : String) (kind : SessionKind) (secret : Secret) :
    Action Fault (Workspace σ) Answer :=
  onClient (Client.openSession kind secret) >>= fun session =>
    (modify fun workspace => workspace.hold name session) >>= fun _ => pure .nothing

theorem told_open (before : Workspace (Tapped σ)) (name : String) (kind : SessionKind)
    (secret : Secret) :
    before.Told (before.client.tellOpen name kind secret)
      ((openSession name kind secret).run before) := by
  obtain ⟨shows, told⟩ := Client.tellOpen_tells name kind secret before.client
  rw [openSession, Action.run_bind, onClient, Action.run_zoom]
  cases ran : (Client.openSession kind secret).run before.client with
  | mk opened after =>
    rw [ran] at shows told
    cases opened with
    | error fault => exact ⟨shows, .keeps _ _ told fun _ _ held => held⟩
    | ok session =>
      obtain ⟨setups, exchange, events, asides, genuine⟩ := told
      rw [events] at shows ⊢
      exact ⟨shows, .opens name session exchange setups after asides genuine⟩

end Workspace

namespace Call

theorem perform_openOiap (name : String) :
    ((Call.openOiap name).perform : Action Fault (Workspace σ) Answer) =
      Workspace.openSession name .oiap .wellKnown := rfl

theorem perform_openOsap (name : String) (entity : Entity) (secret : Secret) :
    ((Call.openOsap name entity secret).perform : Action Fault (Workspace σ) Answer) =
      Workspace.openSession name (.osap entity) secret := rfl

theorem tells_terminate (name : String) (workspace : Workspace (Tapped σ)) :
    workspace.Told ((Call.terminate name).tell workspace)
      ((Call.terminate name).perform.run workspace) := by
  obtain ⟨client, sessions⟩ := workspace
  have told : (Call.terminate name).tell ⟨client, sessions⟩ = (client.link.since
      ((Call.terminate name).perform.run ⟨client, sessions⟩).2.client.link).map .plain := rfl
  rw [told, perform, Action.run_bind, Action.run_get]
  dsimp only
  cases held : Workspace.session? ⟨client, sessions⟩ name with
  | none =>
    exact Workspace.told_unsigned ⟨client, sessions⟩ client _ sessions
      (sendsUnsigned.refl client) fun _ _ held => held
  | some session =>
    have keeps := Client.keeps_terminate sendsUnsigned_allowsSending.requests session
      (sendsUnsigned_allowsNoting _) client
    dsimp only
    rw [Action.run_bind, Action.run_modify]
    dsimp only
    rw [Action.run_bind, Workspace.onClient, Action.run_zoom]
    have kept : ∀ other found,
        ((⟨client, sessions⟩ : Workspace (Tapped σ)).drop name).session? other = some found →
          Workspace.session? ⟨client, sessions⟩ other = some found := by
      intro other found dropped
      by_cases same : other = name
      · rw [same, Workspace.session?_drop] at dropped
        cases dropped
      · rwa [Workspace.session?_drop_of_ne _ _ _ same] at dropped
    have same : ((⟨client, sessions⟩ : Workspace (Tapped σ)).drop name).client = client := rfl
    rw [same]
    cases ran : (Client.terminate session).run client with
    | mk outcome after =>
      rw [ran] at keeps
      cases outcome with
      | error fault => exact Workspace.told_unsigned ⟨client, sessions⟩ after _ _ keeps kept
      | ok _ => exact Workspace.told_unsigned ⟨client, sessions⟩ after _ _ keeps kept

omit [Channel σ] in
theorem tells_entrusted (name : String) (client : Client (Tapped σ))
    (sessions : List (String × Session)) (action : Action Fault (Custody (Tapped σ)) Answer)
    (moves : ∀ session, ∃ outcome after left,
      action.run ⟨client, session⟩ = (outcome, ⟨after, left⟩) ∧
        sendsUnsigned.related client after ∧ (left = session ∨ session.Moves none left)) :
    (⟨client, sessions⟩ : Workspace (Tapped σ)).Told
      ((client.link.since
        ((Workspace.entrust name action).run ⟨client, sessions⟩).2.client.link).map .plain)
      ((Workspace.entrust name action).run ⟨client, sessions⟩) := by
  cases held : Workspace.session? ⟨client, sessions⟩ name with
  | none =>
    rw [Workspace.run_entrust_of_lost name action _ held]
    exact Workspace.told_unsigned ⟨client, sessions⟩ client _ sessions
      (sendsUnsigned.refl client) fun _ _ held => held
  | some session =>
    obtain ⟨outcome, after, left, ran, unsigned, becomes⟩ := moves session
    obtain ⟨shows, asides⟩ := Client.tells_unsigned client after unsigned
    rw [Workspace.run_entrust_of_held name action _ session left outcome after held ran]
    refine ⟨shows, .changes name session left _ after held ?_⟩
    rcases becomes with rfl | move
    · exact (Session.Leads.asides left _ asides).unfolds _
    · rw [← List.append_nil (List.map Event.plain _)]
      exact ((Session.Leads.asides session _ asides).append (.quiet move)).unfolds _

theorem tells_nextNonceOdd (name : String) (workspace : Workspace (Tapped σ)) :
    workspace.Told ((Call.nextNonceOdd name).tell workspace)
      ((Call.nextNonceOdd name).perform.run workspace) := by
  obtain ⟨client, sessions⟩ := workspace
  have told : (Call.nextNonceOdd name).tell ⟨client, sessions⟩ = (client.nonces.drawnSince
      ((Call.nextNonceOdd name).perform.run ⟨client, sessions⟩).2.client.nonces).map
        fun nonce => .did name (.drew nonce) := rfl
  rw [told, perform]
  cases held : Workspace.session? ⟨client, sessions⟩ name with
  | none =>
    rw [Workspace.run_entrust_of_lost name _ _ held]
    dsimp only
    rw [NonceSource.drawnSince_self]
    exact ⟨Client.shows_nil _ _ rfl rfl,
      .keeps _ _ (fun _ member => absurd member List.not_mem_nil) fun _ _ held => held⟩
  | some session =>
    cases drew : session.nextNonceOdd client.nonces with
    | mk drawn rest =>
      obtain ⟨left, nonces⟩ := rest
      obtain ⟨gives, course⟩ := Session.nextNonceOdd_tells name _ _ _ _ _ drew
      rw [Workspace.run_entrust_of_held name _ _ session left _ _ held
        (Action.run_bind_pure _ _ _ _ _ (Custody.run_nextNonceOdd client session left nonces drawn
          drew))]
      refine ⟨Client.shows_draws name client nonces gives,
        .changes name session left _ { client with nonces } held ?_⟩
      rcases course with leads | ⟨rfl, unfolds⟩
      · exact leads.unfolds _
      · exact unfolds _ rfl

theorem tells_authorized (call : AuthorizedCall) (loan : Loan)
    (workspace : Workspace (Tapped σ)) :
    workspace.Told ((Call.authorized call (some loan)).tell workspace)
      ((Call.authorized call (some loan)).perform.run workspace) := by
  obtain ⟨client, sessions⟩ := workspace
  cases held : Workspace.session? ⟨client, sessions⟩ loan.name with
  | none =>
    have told : (Call.authorized call (some loan)).tell ⟨client, sessions⟩ = [] := by
      show (match Workspace.session? ⟨client, sessions⟩ loan.name with
        | none => []
        | some session => _) = []
      rw [held]
    rw [told, perform_of_lost call loan _ held]
    exact ⟨Client.shows_nil _ _ rfl rfl, .keeps _ _ (fun _ member => nomatch member)
      fun _ _ held => held⟩
  | some session =>
    obtain ⟨outcome, after, left, ran, shows, unfolds⟩ :=
      call.perform_tells loan.name client ⟨session, loan.secret, loan.continueSession⟩
    have told : (Call.authorized call (some loan)).tell ⟨client, sessions⟩ =
        call.tell loan.name client ⟨session, loan.secret, loan.continueSession⟩ := by
      show (match Workspace.session? ⟨client, sessions⟩ loan.name with
        | none => []
        | some session =>
          call.tell loan.name client ⟨session, loan.secret, loan.continueSession⟩) = _
      rw [held]
    rw [told, perform, Workspace.run_lend_of_held loan call.perform _ session left outcome after
      held ran]
    exact ⟨shows, .changes loan.name session left _ after held unfolds⟩

theorem tells_saveSession (name : String) (workspace : Workspace (Tapped σ)) :
    workspace.Told ((Call.saveSession name).tell workspace)
      ((Call.saveSession name).perform.run workspace) := by
  obtain ⟨client, sessions⟩ := workspace
  have moves : ∀ session, ∃ outcome after left,
      (do return Answer.bytes (← Custody.save) : Action Fault (Custody (Tapped σ)) Answer).run
        ⟨client, session⟩ = (outcome, ⟨after, left⟩) ∧
        sendsUnsigned.related client after ∧ (left = session ∨ session.Moves none left) := by
    intro session
    obtain ⟨outcome, after, left, ran, unsigned, moved⟩ := Custody.moves_save client session
    exact ⟨_, after, left, Action.run_bind_pure _ _ _ _ _ ran, unsigned, moved⟩
  have told : (Call.saveSession name).tell ⟨client, sessions⟩ = (client.link.since
      ((Call.saveSession name).perform.run ⟨client, sessions⟩).2.client.link).map .plain := rfl
  rw [told, perform]
  exact tells_entrusted name client sessions _ moves

theorem tells_loadSession (name : String) (blob : Bytes) (workspace : Workspace (Tapped σ)) :
    workspace.Told ((Call.loadSession name blob).tell workspace)
      ((Call.loadSession name blob).perform.run workspace) := by
  obtain ⟨client, sessions⟩ := workspace
  have moves : ∀ session, ∃ outcome after left,
      (do
        Custody.load blob
        return Answer.nothing : Action Fault (Custody (Tapped σ)) Answer).run ⟨client, session⟩ =
          (outcome, ⟨after, left⟩) ∧
        sendsUnsigned.related client after ∧ (left = session ∨ session.Moves none left) := by
    intro session
    obtain ⟨outcome, after, left, ran, unsigned, moved⟩ := Custody.moves_load client session blob
    exact ⟨_, after, left, Action.run_bind_pure _ (fun _ => Answer.nothing) _ _ _ ran, unsigned,
      moved⟩
  have told : (Call.loadSession name blob).tell ⟨client, sessions⟩ = (client.link.since
      ((Call.loadSession name blob).perform.run ⟨client, sessions⟩).2.client.link).map .plain := rfl
  rw [told, perform]
  exact tells_entrusted name client sessions _ moves

theorem tells_plain (call : PlainCall) (workspace : Workspace (Tapped σ)) :
    workspace.Told ((Call.plain call).tell workspace) ((Call.plain call).perform.run workspace) :=
  Workspace.told_unsigned workspace _ _ workspace.sessions
    (call.keeps_perform sendsUnsigned_allowsSending.requests (fun _ _ => sendsUnsigned_allowsNoting _)
      workspace.client)
    fun _ _ held => held

theorem tells_unauthorized (call : AuthorizedCall) (workspace : Workspace (Tapped σ)) :
    workspace.Told ((Call.authorized call none).tell workspace)
      ((Call.authorized call none).perform.run workspace) := by
  have told : (Call.authorized call none).tell workspace = (workspace.client.link.since
      ((Call.authorized call none).perform.run workspace).2.client.link).map .plain := rfl
  rw [told, perform, Workspace.lend, Workspace.onClient, Action.run_zoom]
  have keeps : (call.perform : Action Fault (Dispatch (Tapped σ)) Answer).Keeps
      sendsUnsigned.withoutSession :=
    call.keeps_perform sendsUnsigned_allowsSending.requests fun _ _ => sendsUnsigned_allowsNoting _
  exact Workspace.told_unsigned workspace _ _ workspace.sessions
    (Client.keeps_unauthorized _ keeps workspace.client) fun _ _ held => held

theorem tells (call : Call) (workspace : Workspace (Tapped σ)) :
    workspace.Told (call.tell workspace) (call.perform.run workspace) := by
  cases call with
  | openOiap name =>
    rw [perform_openOiap]
    exact Workspace.told_open workspace name .oiap .wellKnown
  | openOsap name entity secret =>
    rw [perform_openOsap]
    exact Workspace.told_open workspace name (.osap entity) secret
  | terminate name => exact tells_terminate name workspace
  | nextNonceOdd name => exact tells_nextNonceOdd name workspace
  | saveSession name => exact tells_saveSession name workspace
  | loadSession name blob => exact tells_loadSession name blob workspace
  | plain call => exact tells_plain call workspace
  | authorized call loan? =>
    cases loan? with
    | none => exact tells_unauthorized call workspace
    | some loan => exact tells_authorized call loan workspace

end Call

end TrustedPlatform
