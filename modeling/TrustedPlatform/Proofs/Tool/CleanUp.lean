import TrustedPlatform.Proofs.Client.Leaving
import TrustedPlatform.Proofs.Tool.Procedure

/-!
# Cleaning up at the desk

Work at the desk leaves a session open only if the request that the session was opened for could not
be made up (`CleansUp`).  That holds of work that opens none (`Desk.opensNone`), of a command that
gets a session of its own (`CleansUp.call`), and of such work in sequence (`CleansUp.bind`), so of
every procedure: `Procedure.cleansUp`.
-/

set_option autoImplicit false

namespace TrustedPlatform.Tool

variable {σ α β : Type}

namespace Desk

/-- No session was opened since. -/
def opensNone : Later (Desk (Tapped σ)) where
  related before after := Later.opensNone.related before.client after.client
  refl desk := Later.opensNone.refl desk.client
  trans first second third := Later.opensNone.trans first.client second.client third.client

theorem keeps_onClient (action : Action Fault (Client (Tapped σ)) α)
    (keeps : action.Keeps Later.opensNone) :
    (onClient action : Work (Tapped σ) α).Keeps opensNone :=
  fun desk => keeps.mapFault Failure.ofFault action desk.client

theorem keeps_during (trail : List Activity) (work : Work (Tapped σ) α)
    (keeps : work.Keeps opensNone) : (trail.foldr during work).Keeps opensNone := by
  induction trail with
  | nil => exact keeps
  | cons activity trail inductionHypothesis => exact .mapFault _ _ inductionHypothesis

theorem keeps_aside (work : Work (Tapped σ) α) (isAside : Aside work) : work.Keeps opensNone := by
  intro desk
  have same : (work.run desk).2.client = desk.client := isAside.keeps desk
  show Later.opensNone.related desk.client (work.run desk).2.client
  rw [same]
  exact Later.opensNone.refl desk.client

end Desk

/-- The request of a command was withheld after a session was opened for it. -/
def Failure.Withheld (outcome : Except Failure α) (handle : UInt32) : Prop :=
  ∃ ordinal fault, outcome = .error ⟨[.performing ordinal], .module fault⟩ ∧
    fault.Withholds handle

/-- Work that leaves a session open only if it failed because a request was withheld, and then only
the session that it opened last. -/
def CleansUp (work : Work (Tapped σ) α) : Prop :=
  ∀ desk outcome after, work.run desk = (outcome, after) →
    desk.client.link.Sends after.client.link (OnlyLastLeft (Failure.Withheld outcome))

namespace CleansUp

theorem ofKeeps (work : Work (Tapped σ) α) (keeps : work.Keeps Desk.opensNone) :
    CleansUp work := by
  intro desk outcome after ran
  have kept : Later.opensNone.related desk.client (work.run desk).2.client := keeps desk
  rw [ran] at kept
  exact kept.mono fun sent opensNone => .of_none_opened opensNone

theorem bind (first : Work (Tapped σ) α) (next : α → Work (Tapped σ) β)
    (firstCleans : CleansUp first) (nextCleans : ∀ value, CleansUp (next value)) :
    CleansUp (first >>= next) := by
  intro desk outcome after ran
  rw [Action.run_bind] at ran
  cases begun : first.run desk with
  | mk result between =>
    have early := firstCleans desk result between begun
    rw [begun] at ran
    cases result with
    | error failure =>
      cases ran
      refine early.mono fun sent left => left.mono fun handle withheld => ?_
      obtain ⟨ordinal, fault, ⟨⟩, reason⟩ := withheld
      exact ⟨ordinal, fault, rfl, reason⟩
    | ok value =>
      have late := nextCleans value between outcome after ran
      refine early.trans late fun sent later left leftLater => .append (left.mono ?_) leftLater
      intro handle withheld
      obtain ⟨_, _, ⟨⟩, _⟩ := withheld

end CleansUp

theorem Desk.run_during (activity : Activity) (action : Action Fault (Client σ) α) (desk : Desk σ)
    (outcome : Except Fault α) (after : Client σ)
    (ran : action.run desk.client = (outcome, after)) :
    (during activity (onClient action) : Work σ α).run desk =
      (outcome.mapError fun fault => ⟨[activity], .module fault⟩,
        { desk with client := after }) := by
  unfold during onClient Action.mapFault Action.zoom
  dsimp only
  rw [ran]
  cases outcome with
  | error fault => rfl
  | ok value => rfl

variable [Channel σ]

def Desk.kindFor (ordinal : Ordinal) (entity : Entity) : SessionKind :=
  if ordinal.carriesSecret then .osap entity else .oiap

theorem Desk.openFor_eq (ordinal : Ordinal) (entity : Entity) (secret : Secret) :
    (openFor ordinal entity secret : Action Fault (Client σ) Session) =
      Client.openSession (kindFor ordinal entity) secret := by
  unfold openFor kindFor
  split <;> rfl

namespace CleansUp

theorem authorized (ordinal : Ordinal) (entity : Entity) (secret : Secret)
    (action : Action Fault (Dispatch (Tapped σ)) α) (usesUp : Dispatch.UsesUp action) :
    CleansUp (Desk.authorized ordinal entity secret action) := by
  intro desk outcome after ran
  obtain ⟨opened, client, began, asks, active⟩ :=
    Client.openSession_asks (Desk.kindFor ordinal entity) secret desk.client
  rw [← Desk.openFor_eq] at began
  have opening := Desk.run_during (.openingSession ordinal) _ desk opened client began
  unfold Desk.authorized at ran
  rw [Action.run_bind, opening] at ran
  cases opened with
  | error fault =>
    cases ran
    exact asks.mono fun sent asked => asked.onlyLastLeft_of_fault
  | ok session =>
    cases performed : action.run ⟨client, some ⟨session, secret, false⟩⟩ with
    | mk result left =>
      have used := usesUp client ⟨session, secret, false⟩ result left (active session rfl) rfl
        performed
      have lent : (Desk.lending ⟨session, secret, false⟩ action).run client =
          (result, left.client) := by
        rw [Desk.lending, Action.run_zoom, performed]
      have performing := Desk.run_during (.performing ordinal) _ { desk with client } result
        left.client lent
      obtain ⟨rfl, rfl⟩ := Prod.mk.inj (performing.symm.trans ran)
      refine asks.trans used fun sent later asked usedUp => ?_
      refine (asked.onlyLastLeft usedUp).mono fun handle withheld => ?_
      obtain ⟨fault, rfl, reason⟩ := withheld
      exact ⟨ordinal, fault, rfl, reason⟩

theorem maybeAuthorized (ordinal : Ordinal) (entity : Entity) (secret? : Option Secret)
    (action : Action Fault (Dispatch (Tapped σ)) α) (usesUp : Dispatch.UsesUp action)
    (opensNone : (Client.unauthorized action).Keeps Later.opensNone) :
    CleansUp (Desk.maybeAuthorized ordinal entity secret? action) := by
  cases secret? with
  | some secret => exact authorized ordinal entity secret action usesUp
  | none =>
    exact .ofKeeps _ (Desk.keeps_during [.performing ordinal] _ (Desk.keeps_onClient _ opensNone))

/-- So it is with every call that may be authorized, whatever is shown of its outcome. -/
theorem call (call : AuthorizedCall) (shows : α → Answer)
    (action : Action Fault (Dispatch (Tapped σ)) α)
    (performs : call.perform = action >>= fun value => pure (shows value))
    (ordinal : Ordinal) (entity : Entity) (secret? : Option Secret) :
    CleansUp (Desk.maybeAuthorized ordinal entity secret? action) := by
  refine maybeAuthorized ordinal entity secret? action (.of_returning action shows ?_) ?_
  · rw [← performs]
    exact call.usesUp_perform
  · intro client
    have kept := call.opensNone_perform client
    have shown := Action.run_bind_pure action shows ⟨client, none⟩ _ _ rfl
    rw [performs, Client.unauthorized, Action.run_zoom, shown] at kept
    exact kept

end CleansUp

/-- A call that takes no session opens none, whatever is shown of its outcome. -/
theorem Desk.keeps_plain (call : PlainCall) (shows : α → Answer)
    (action : Action Fault (Client (Tapped σ)) α)
    (performs : call.perform = action >>= fun value => pure (shows value)) :
    (onClient action : Work (Tapped σ) α).Keeps opensNone := by
  refine keeps_onClient action (.of_returning action shows ?_)
  rw [← performs]
  exact call.opensNone_perform

theorem Procedure.cleansUp {work : Work (Tapped σ) α} (procedure : Procedure work) :
    CleansUp work := by
  induction procedure with
  | aside work isAside => exact .ofKeeps _ (Desk.keeps_aside work isAside)
  | draw => exact .ofKeeps _ (Desk.keeps_onClient _ fun client => Later.opensNone.refl client)
  | plain trail call shows action performs =>
    exact .ofKeeps _ (Desk.keeps_during trail _ (Desk.keeps_plain call shows action performs))
  | authorized call shows action performs ordinal entity secret? =>
    exact .call call shows action performs ordinal entity secret?
  | bind first next _ _ firstCleans nextCleans => exact .bind first next firstCleans nextCleans

end TrustedPlatform.Tool
