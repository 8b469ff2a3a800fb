import TrustedPlatform.Proofs.Client.Retry
import TrustedPlatform.Proofs.Client.Stages

/-!
# The course of a command

A command is dispatched in attempts, and each begins from a dispatch of its own
(`Dispatch.starts`): the first from the one at hand, every other from the one in which a new session
took the place of the last.  `Dispatch.Course` says how one attempt leads to the next, and
`Course.closes` what that means for the sessions: once a request was made up, whatever goes wrong
with it closes the session, and only a new one goes on.
-/

set_option autoImplicit false

namespace TrustedPlatform

variable {σ : Type} [Channel σ]

namespace Dispatch

def build (command : Command) : Action Fault (Dispatch σ) (Option RequestTrailer × Bytes) := do
  let parameters ← Action.ofExcept (command.sealedParameters (← get).use?)
  let trailer? ← authorize command parameters
  let frame ← Action.ofExcept
    (Request.encode ⟨command.ordinal, command.handles, parameters, trailer?.toList⟩)
  return (trailer?, frame)

theorem executeOnce_eq_build (command : Command) :
    (executeOnce command : Action Fault (Dispatch σ) Reply) =
      build command >>= fun request => abortOnFault (converse command request.1 request.2) := by
  simp only [executeOnce, build, bind_assoc, pure_bind]

omit [Channel σ] in
theorem run_abortOnFault_of_error {α : Type} (action : Action Fault (Dispatch σ) α)
    (before failed : Dispatch σ) (fault : Fault)
    (ran : action.run before = (.error fault, failed)) :
    ∃ after, (abortOnFault action).run before = (.error fault, after) ∧
      ∀ use, after.use? = some use → use.session.status = .closed := by
  refine ⟨{ failed with
    use? := failed.use?.map fun use => { use with session := use.session.abort } }, ?_, ?_⟩
  · unfold abortOnFault
    rw [Action.run_bind, Action.run_attempt, ran]
    rfl
  · intro use left
    obtain ⟨lent, _, rfl⟩ := Option.map_eq_some_iff.mp left
    rfl

theorem executeOnce_of_converse_error (command : Command) (start built failed : Dispatch σ)
    (trailer? : Option RequestTrailer) (frame : Bytes) (fault : Fault)
    (made : (build command).run start = (.ok (trailer?, frame), built))
    (conversed : (converse command trailer? frame).run built = (.error fault, failed)) :
    ∃ after, (executeOnce command).run start = (.error fault, after) ∧
      ∀ use, after.use? = some use → use.session.status = .closed := by
  obtain ⟨after, aborted, closed⟩ := run_abortOnFault_of_error _ built failed fault conversed
  refine ⟨after, ?_, closed⟩
  rw [executeOnce_eq_build, Action.run_bind, made]
  exact aborted

/-- What one attempt does with the session that was lent, whatever it comes to. -/
structure Attempted (client after : Client σ) (before left : Session)
    (outcome : Except Fault Reply) : Prop where
  inventory : after.inventory = client.inventory
  handle : left.handle = before.handle
  binding : left.binding = before.binding
  inactive : before.status ≠ .active → after = client ∧ left = before ∧
    ∃ fault, outcome = .error fault ∧ fault.isLocal = true
  -- Only an attempt that was answered can be repeated, and it closed the session.
  busy : ∀ fault, outcome = .error fault → fault.isRetryable = true → left.status = .closed

theorem not_isRetryable_of_isLocal (fault : Fault) (isLocal : fault.isLocal = true) :
    fault.isRetryable = false := by
  rw [← Bool.not_eq_true, Fault.isRetryable_iff, (Fault.isLocal_iff fault).mp isLocal]
  exact fun same => nomatch same

theorem executeOnce_attempted (command : Command) (client : Client σ) (use : SessionUse) :
    ∃ outcome after left,
      (executeOnce command).run ⟨client, some use⟩ =
        (outcome, ⟨after, some { use with session := left }⟩) ∧
      Attempted client after use.session left outcome := by
  obtain ⟨outcome, after, left, ran, attempt⟩ := executeOnce_attempt command client use
  refine ⟨outcome, after, left, ran, ?_⟩
  cases attempt with
  | unsealed fault refused =>
    have isLocal := (command.only_sealedParameters _ fault refused).isLocal
    refine ⟨rfl, rfl, rfl, fun _ => ⟨rfl, rfl, fault, rfl, isLocal⟩, ?_⟩
    intro other same retryable
    cases same
    rw [not_isRetryable_of_isLocal fault isLocal] at retryable
    cases retryable
  | inactive _ =>
    refine ⟨rfl, rfl, rfl, fun _ => ⟨rfl, rfl, _, rfl, rfl⟩, ?_⟩
    intro other same retryable
    cases same
    cases retryable
  | repeats repeated =>
    exact ⟨rfl, rfl, rfl, fun inactive => absurd repeated.active inactive, fun _ _ _ => rfl⟩
  | oversized _ _ drawn _ _ active draw _ =>
    refine ⟨rfl, draw.handle_eq, draw.binding_eq, fun inactive => absurd active inactive, ?_⟩
    intro other same retryable
    cases same
    cases retryable
  | exchanged parameters nonceOdd drawn nonces answer link _ _ _ active draw _ _ concluded =>
    have binding := SessionUse.binding_conclude { use with session := drawn.spent } command
      nonceOdd answer
    have handle := SessionUse.handle_conclude { use with session := drawn.spent } command
      nonceOdd answer
    rw [concluded] at binding handle
    refine ⟨rfl, handle.trans draw.handle_eq, binding.trans draw.binding_eq,
      fun inactive => absurd active inactive, ?_⟩
    intro fault failed _
    cases failed
    exact (SessionUse.ended_of_conclude_eq_error _ command nonceOdd answer fault left
      concluded).closed

def starts (command : Command) : Nat → Dispatch σ → List (Dispatch σ)
  | 0, dispatch => [dispatch]
  | further + 1, dispatch =>
    dispatch ::
      match (executeOnce command).run dispatch with
      | (.ok _, _) => []
      | (.error fault, between) =>
        if fault.isRetryable then
          match replaceSession.run between with
          | (.ok _, next) => starts command further next
          | (.error _, _) => []
        else []

/-- How attempts follow each other, from where each begins to what the last one leaves. -/
inductive Course (command : Command) :
    Nat → Dispatch σ → List (Dispatch σ) → Except Fault Reply → Dispatch σ → Prop where
  | ends (further : Nat) (start after : Dispatch σ) (outcome : Except Fault Reply)
      (ran : (executeOnce command).run start = (outcome, after)) :
      Course command further start [start] outcome after
  -- The module was busy, and no new session could be opened.
  | strands (further : Nat) (start between after : Dispatch σ) (fault other : Fault)
      (ran : (executeOnce command).run start = (.error fault, between))
      (busy : fault.isRetryable = true)
      (failed : replaceSession.run between = (.error other, after)) :
      Course command (further + 1) start [start] (.error other) after
  | goesOn (further : Nat) (start between next after : Dispatch σ) (later : List (Dispatch σ))
      (fault : Fault) (outcome : Except Fault Reply)
      (ran : (executeOnce command).run start = (.error fault, between))
      (busy : fault.isRetryable = true)
      (replaced : replaceSession.run between = (.ok (), next))
      (course : Course command further next later outcome after) :
      Course command (further + 1) start (start :: later) outcome after

theorem executeUpTo_course (command : Command) (further : Nat) (start : Dispatch σ) :
    Course command further start (starts command further start)
      ((executeUpTo command further).run start).1 ((executeUpTo command further).run start).2 := by
  induction further generalizing start with
  | zero => exact .ends 0 start _ _ rfl
  | succ further inductionHypothesis =>
    cases ran : (executeOnce command).run start with
    | mk outcome between =>
      by_cases busy : ∃ fault, outcome = .error fault ∧ fault.isRetryable = true
      · obtain ⟨fault, rfl, retryable⟩ := busy
        rw [executeUpTo_of_busy command further start between fault ran retryable,
          Action.run_bind]
        cases replaced : (replaceSession : Action Fault (Dispatch σ) Unit).run between with
        | mk result next =>
          cases result with
          | error other =>
            have alone : starts command (further + 1) start = [start] := by
              simp [starts, ran, retryable, replaced]
            rw [alone]
            exact .strands further start between next fault other ran retryable replaced
          | ok _ =>
            have goes : starts command (further + 1) start =
                start :: starts command further next := by
              simp [starts, ran, retryable, replaced]
            rw [goes]
            exact .goesOn further start between next _ _ fault _ ran retryable replaced
              (inductionHypothesis next)
      · have alone : starts command (further + 1) start = [start] := by
          rw [starts, ran]
          cases outcome with
          | ok reply => rfl
          | error fault =>
            dsimp only
            rw [if_neg fun retryable => busy ⟨fault, rfl, retryable⟩]
        rw [alone, executeUpTo_of_final command _ start between outcome ran busy]
        exact .ends _ start between outcome ran

theorem Course.head {command : Command} {further : Nat} {start after : Dispatch σ}
    {beginnings : List (Dispatch σ)} {outcome : Except Fault Reply}
    (course : Course command further start beginnings outcome after) :
    ∃ others, beginnings = start :: others := by
  cases course with
  | ends => exact ⟨[], rfl⟩
  | strands => exact ⟨[], rfl⟩
  | goesOn => exact ⟨_, rfl⟩

/-- A new session took the place of the one that an attempt had closed. -/
def Replaces (command : Command) (start next : Dispatch σ) : Prop :=
  ∃ fault between, (executeOnce command).run start = (.error fault, between) ∧
    (∀ use, between.use? = some use → use.session.status = .closed) ∧
    replaceSession.run between = (.ok (), next)

/-- What a session that took the place of another leaves of what is known. -/
theorem replaceSession_eq_ok (client : Client σ) (use : SessionUse) (next : Dispatch σ)
    (replaced : replaceSession.run ⟨client, some use⟩ = (.ok (), next)) :
    ∃ fresh reopened, next = ⟨reopened, some { use with session := fresh }⟩ ∧
      fresh.status = .active ∧ fresh.kind = use.session.kind ∧
      reopened.inventory =
        (client.inventory.removeSession use.session.handle).addSession fresh.handle fresh.kind := by
  cases transmitted : (Link.transmit
      (use.session.kind.openingFrame client.nonces.next.1)).run client.link with
  | mk answer link =>
    rw [run_replaceSession client use answer link _ transmitted rfl] at replaced
    cases opened : use.session.kind.opened use.secret client.nonces.next.1 answer with
    | error fault =>
      rw [opened] at replaced
      cases replaced
    | ok fresh =>
      rw [opened] at replaced
      cases replaced
      have opens := (SessionKind.opened_eq_ok_iff _ _ _ _ _).mp opened
      exact ⟨fresh, _, rfl, opens.active, opens.kind_eq, rfl⟩

theorem replaceSession_eq_error (client : Client σ) (use : SessionUse) (after : Dispatch σ)
    (fault : Fault) (failed : replaceSession.run ⟨client, some use⟩ = (.error fault, after)) :
    after.use? = some use ∧
      after.client.inventory = client.inventory.removeSession use.session.handle := by
  cases transmitted : (Link.transmit
      (use.session.kind.openingFrame client.nonces.next.1)).run client.link with
  | mk answer link =>
    rw [run_replaceSession client use answer link _ transmitted rfl] at failed
    cases opened : use.session.kind.opened use.secret client.nonces.next.1 answer with
    | ok fresh =>
      rw [opened] at failed
      cases failed
    | error other =>
      rw [opened] at failed
      cases failed
      exact ⟨rfl, rfl⟩

theorem use?_replaceSession_of_error (before after : Dispatch σ) (fault : Fault)
    (failed : replaceSession.run before = (.error fault, after)) :
    after.use? = before.use? := by
  obtain ⟨client, use?⟩ := before
  cases use? with
  | none => cases failed
  | some use => exact (replaceSession_eq_error client use after fault failed).1

def handle? (dispatch : Dispatch σ) : Option UInt32 :=
  dispatch.use?.map fun use => use.session.handle

/-- What attempts that began under some handles make of the open sessions that are known: each
session that another took the place of is forgotten. -/
structure Seats (before after : Inventory) (session left : Session) (handles : List UInt32) :
    Prop where
  kind : left.kind = session.kind
  among : left.handle ∈ handles
  only : ∃ sessions, after = { before with sessions }
  others : ∀ handle, handle ∉ handles → after.sessions.get? handle = before.sessions.get? handle
  gone : ∀ handle ∈ handles, handle ≠ left.handle → after.sessions.get? handle = none
  stays : left.status = .active → before.sessions.get? session.handle = some session.kind →
    after.sessions.get? left.handle = some session.kind

omit [Channel σ] in
theorem Attempted.seats {client after : Client σ} {session left : Session}
    {outcome : Except Fault Reply} (attempted : Attempted client after session left outcome) :
    Seats client.inventory after.inventory session left [session.handle] where
  kind := congrArg Binding.kind attempted.binding
  among := by simp [attempted.handle]
  only := ⟨client.inventory.sessions, attempted.inventory⟩
  others handle _ := by rw [attempted.inventory]
  gone handle member differs := by
    rw [attempted.handle] at differs
    exact absurd (List.mem_singleton.mp member) differs
  stays _ tracked := by
    rw [attempted.inventory, attempted.handle]
    exact tracked

/-- What the last attempt at a command leaves of the session lent for the first, and of the open
sessions that are known. -/
theorem Course.seats {command : Command} {further : Nat} {start after : Dispatch σ}
    {beginnings : List (Dispatch σ)} {outcome : Except Fault Reply}
    (course : Course command further start beginnings outcome after) (client : Client σ)
    (use : SessionUse) (lent : start = ⟨client, some use⟩) :
    ∃ reached left, after = ⟨reached, some { use with session := left }⟩ ∧
      Seats client.inventory reached.inventory use.session left
        (beginnings.filterMap handle?) := by
  induction course generalizing client use with
  | ends further start after outcome ran =>
    subst lent
    obtain ⟨_, reached, left, executed, attempted⟩ := executeOnce_attempted command client use
    rw [executed] at ran
    cases ran
    exact ⟨reached, left, rfl, attempted.seats⟩
  | strands further start between after fault other ran busy failed =>
    subst lent
    obtain ⟨_, reached, left, executed, attempted⟩ := executeOnce_attempted command client use
    rw [executed] at ran
    cases ran
    obtain ⟨given, forgotten⟩ := replaceSession_eq_error reached _ after other failed
    have closed := attempted.busy fault rfl busy
    have first := attempted.seats
    have erased : ∀ handle, after.client.inventory.sessions.get? handle =
        if handle = use.session.handle then none
        else client.inventory.sessions.get? handle := by
      intro handle
      rw [forgotten, attempted.inventory, Inventory.get?_removeSession, attempted.handle]
    obtain ⟨remaining, use?⟩ := after
    obtain rfl : use? = _ := given
    refine ⟨remaining, left, rfl, first.kind, first.among, ?_, ?_, ?_, ?_⟩
    · rw [forgotten, attempted.inventory]
      exact ⟨_, rfl⟩
    · intro handle outside
      have differs : handle ≠ use.session.handle := fun same => outside (by simp [handle?, same])
      rw [erased, if_neg differs]
    · intro handle member differs
      exact absurd ((List.mem_singleton.mp member).trans attempted.handle.symm) differs
    · intro active
      rw [closed] at active
      cases active
  | goesOn further start between next after later fault outcome ran busy replaced course
      inductionHypothesis =>
    subst lent
    obtain ⟨_, reached, left, executed, attempted⟩ := executeOnce_attempted command client use
    rw [executed] at ran
    cases ran
    obtain ⟨fresh, reopened, rfl, active, kind, known⟩ :=
      replaceSession_eq_ok reached _ next replaced
    have sameKind : fresh.kind = use.session.kind := kind.trans attempted.seats.kind
    have table : ∀ handle, reopened.inventory.sessions.get? handle =
        if handle = fresh.handle then some use.session.kind
        else if handle = use.session.handle then none
        else client.inventory.sessions.get? handle := by
      intro handle
      rw [known, attempted.inventory, Inventory.get?_addSession, Inventory.get?_removeSession,
        attempted.handle, sameKind]
    obtain ⟨last, final, rfl, seats⟩ :=
      inductionHypothesis reopened { use with session := fresh } rfl
    obtain ⟨others, rfl⟩ := course.head
    have seated : fresh.handle ∈ (⟨reopened, some { use with session := fresh }⟩ ::
        others : List (Dispatch σ)).filterMap handle? := by simp [handle?]
    refine ⟨last, final, rfl, seats.kind.trans sameKind, List.mem_cons_of_mem _ seats.among, ?_,
      ?_, ?_, ?_⟩
    · obtain ⟨sessions, shown⟩ := seats.only
      rw [shown, known, attempted.inventory]
      exact ⟨_, rfl⟩
    · intro handle outside
      obtain ⟨differs, outsideLater⟩ := not_or.mp (mt List.mem_cons.mpr outside)
      have notFresh : handle ≠ fresh.handle := fun same => outsideLater (same ▸ seated)
      rw [seats.others handle outsideLater, table, if_neg notFresh, if_neg differs]
    · intro handle member differs
      by_cases isLater : handle ∈ (⟨reopened, some { use with session := fresh }⟩ ::
          others : List (Dispatch σ)).filterMap handle?
      · exact seats.gone handle isLater differs
      · have first : handle = use.session.handle :=
          (List.mem_cons.mp member).resolve_right isLater
        have notFresh : handle ≠ fresh.handle := fun same => isLater (same ▸ seated)
        rw [seats.others handle isLater, table, if_neg notFresh, if_pos first]
    · intro stillActive _
      rw [← sameKind]
      apply seats.stays stillActive
      rw [table, if_pos rfl, sameKind]

omit [Channel σ] in
theorem settle_of_active (client : Client σ) (use : SessionUse)
    (active : use.session.status = .active) :
    settle ⟨client, some use⟩ = ⟨client, some use⟩ := by
  have usable : use.session.isActive = true := decide_eq_true active
  simp only [settle, usable, if_true]

omit [Channel σ] in
theorem settle_of_over (client : Client σ) (use : SessionUse)
    (ended : use.session.status ≠ .active) :
    settle ⟨client, some use⟩ =
      ⟨{ client with inventory := client.inventory.removeSession use.session.handle },
        some use⟩ := by
  have unusable : use.session.isActive = false := decide_eq_false ended
  simp [settle, unusable]

/-- Once the request of an attempt was made up and failed, the session is closed at the end, or
another took its place. -/
theorem Course.closes {command : Command} {further : Nat} {start after : Dispatch σ}
    {beginnings : List (Dispatch σ)} {outcome : Except Fault Reply}
    (course : Course command further start beginnings outcome after)
    (earlier later : List (Dispatch σ)) (begun built failed : Dispatch σ)
    (trailer? : Option RequestTrailer) (frame : Bytes) (fault : Fault)
    (split : beginnings = earlier ++ begun :: later)
    (made : (build command).run begun = (.ok (trailer?, frame), built))
    (conversed : (converse command trailer? frame).run built = (.error fault, failed)) :
    (later = [] ∧ ∀ use, after.use? = some use → use.session.status = .closed) ∨
      ∃ next rest, later = next :: rest ∧ Replaces command begun next := by
  obtain ⟨ended, executed, closed⟩ :=
    executeOnce_of_converse_error command begun built failed trailer? frame fault made conversed
  induction course generalizing earlier with
  | ends further start after outcome ran =>
    cases earlier with
    | cons first earlier => simp at split
    | nil =>
      cases split
      rw [executed] at ran
      cases ran
      exact Or.inl ⟨rfl, closed⟩
  | strands further start between after other last ran busy failing =>
    cases earlier with
    | cons first earlier => simp at split
    | nil =>
      cases split
      rw [executed] at ran
      cases ran
      refine Or.inl ⟨rfl, fun use left => closed use ?_⟩
      rw [← use?_replaceSession_of_error _ _ _ failing]
      exact left
  | goesOn further start between next after rest other outcome ran busy replaced course
      inductionHypothesis =>
    cases earlier with
    | nil =>
      cases split
      rw [executed] at ran
      cases ran
      obtain ⟨others, rfl⟩ := course.head
      exact Or.inr ⟨next, others, rfl, _, _, executed, closed, replaced⟩
    | cons first earlier =>
      obtain ⟨rfl, remaining⟩ := List.cons_eq_cons.mp split
      exact inductionHypothesis earlier remaining

end Dispatch

namespace AuthorizedCall

def starts (call : AuthorizedCall) (dispatch : Dispatch σ) : List (Dispatch σ) :=
  match (prepare call).run dispatch with
  | (.ok command, prepared) =>
    Dispatch.starts command (Dispatch.furtherAttempts command prepared.client) prepared
  | (.error _, _) => []

theorem starts_of_prepared (call : AuthorizedCall) (dispatch prepared : Dispatch σ)
    (command : Command) (made : (prepare call).run dispatch = (.ok command, prepared)) :
    call.starts dispatch =
      Dispatch.starts command (Dispatch.furtherAttempts command prepared.client) prepared := by
  unfold starts
  rw [made]

omit [Channel σ] in
theorem prepare_lends (call : AuthorizedCall) (client : Client σ) (use : SessionUse) :
    ∃ after session, ((prepare call).run ⟨client, some use⟩).2 =
      ⟨after, some { use with session }⟩ := by
  rcases call.run_prepare ⟨client, some use⟩ with ⟨same, _⟩ | ⟨same, _⟩
  · exact ⟨client, use.session, same⟩
  · exact ⟨_, _, same⟩

theorem perform_of_unprepared (call : AuthorizedCall) (dispatch prepared : Dispatch σ)
    (fault : Fault) (failed : (prepare call).run dispatch = (.error fault, prepared)) :
    (call.perform : Action Fault (Dispatch σ) Answer).run dispatch = (.error fault, prepared) := by
  rw [call.perform_eq, Action.run_bind, failed]

theorem perform_of_unexecuted (call : AuthorizedCall) (dispatch prepared executed : Dispatch σ)
    (command : Command) (fault : Fault)
    (made : (prepare call).run dispatch = (.ok command, prepared))
    (failed : (Dispatch.execute command).run prepared = (.error fault, executed)) :
    (call.perform : Action Fault (Dispatch σ) Answer).run dispatch = (.error fault, executed) := by
  rw [call.perform_eq, Action.run_bind, made]
  dsimp only
  rw [Action.run_bind, failed]

/-- After its command was dispatched, a call changes only what is recorded of the module. -/
theorem perform_of_prepared (call : AuthorizedCall) (dispatch prepared executed : Dispatch σ)
    (command : Command) (outcome : Except Fault Reply)
    (made : (prepare call).run dispatch = (.ok command, prepared))
    (ran : (Dispatch.execute command).run prepared = (outcome, executed)) :
    ∃ answer inventory,
      (call.perform : Action Fault (Dispatch σ) Answer).run dispatch =
        (answer, { executed with client := { executed.client with inventory } }) ∧
      inventory.sessions = executed.client.inventory.sessions ∧
      inventory.spent = executed.client.inventory.spent := by
  cases outcome with
  | error fault =>
    exact ⟨.error fault, executed.client.inventory,
      call.perform_of_unexecuted dispatch prepared executed command fault made ran, rfl, rfl⟩
  | ok reply =>
    rw [call.perform_eq, Action.run_bind, made]
    dsimp only
    rw [Action.run_bind, ran]
    exact call.run_finish reply executed

end AuthorizedCall

end TrustedPlatform
