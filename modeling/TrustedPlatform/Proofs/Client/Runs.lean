import TrustedPlatform.Proofs.Client.Calls

/-!
# Runs of calls

A call has to do with one session object at most, the one that it names (`Call.subject?`); every
other one stays as it is (`Call.session?_of_other`).  A run of calls is carried out part by part
(`Workspace.run_append`).
-/

set_option autoImplicit false

namespace TrustedPlatform

def Call.subject? : Call → Option String
  | .openOiap name => some name
  | .openOsap name _ _ => some name
  | .terminate name => some name
  | .nextNonceOdd name => some name
  | .saveSession name => some name
  | .loadSession name _ => some name
  | .plain _ => none
  | .authorized _ loan? => loan?.map Loan.name

def Call.given? : Call → Option String
  | .openOiap _ => none
  | .openOsap _ _ _ => none
  | call => call.subject?

variable {σ : Type} [Channel σ]

namespace Workspace

theorem run_cons (workspace : Workspace σ) (call : Call) (calls : List Call) :
    workspace.run (call :: calls) =
      ((call.perform.run workspace).1 :: ((call.perform.run workspace).2.run calls).1,
        ((call.perform.run workspace).2.run calls).2) := rfl

theorem run_append (workspace : Workspace σ) (earlier later : List Call) :
    workspace.run (earlier ++ later) =
      ((workspace.run earlier).1 ++ ((workspace.run earlier).2.run later).1,
        ((workspace.run earlier).2.run later).2) := by
  induction earlier generalizing workspace with
  | nil => rfl
  | cons call earlier inductionHypothesis =>
    rw [List.cons_append, run_cons, run_cons, inductionHypothesis]
    rfl

theorem length_run (workspace : Workspace σ) (calls : List Call) :
    (workspace.run calls).1.length = calls.length := by
  induction calls generalizing workspace with
  | nil => rfl
  | cons call calls inductionHypothesis =>
    rw [run_cons, List.length_cons, inductionHypothesis, List.length_cons]

/-- At every call of a run, a property holds of the call and the workspace that it is made in. -/
def Throughout (holds : Workspace σ → Call → Prop) (workspace : Workspace σ) : List Call → Prop
  | [] => True
  | call :: calls =>
    holds workspace call ∧ Throughout holds (call.perform.run workspace).2 calls

theorem Throughout.before {holds : Workspace σ → Call → Prop} {workspace : Workspace σ}
    {earlier later : List Call} (throughout : workspace.Throughout holds (earlier ++ later)) :
    workspace.Throughout holds earlier := by
  induction earlier generalizing workspace with
  | nil => trivial
  | cons call earlier inductionHypothesis =>
    obtain ⟨first, rest⟩ := throughout
    exact ⟨first, inductionHypothesis rest⟩

/-- What every call keeps that has the property, a run of such calls keeps. -/
theorem Throughout.keeps {holds : Workspace σ → Call → Prop} {workspace : Workspace σ}
    {calls : List Call} (throughout : workspace.Throughout holds calls) (kept : Workspace σ → Prop)
    (step : ∀ before call, holds before call → kept before → kept (call.perform.run before).2)
    (begun : kept workspace) : kept (workspace.run calls).2 := by
  induction calls generalizing workspace with
  | nil => exact begun
  | cons call calls inductionHypothesis =>
    obtain ⟨first, rest⟩ := throughout
    exact inductionHypothesis rest (step workspace call first begun)

theorem story_append (workspace : Workspace (Tapped σ)) (earlier later : List Call) :
    workspace.story (earlier ++ later) =
      workspace.story earlier ++ (workspace.run earlier).2.story later := by
  induction earlier generalizing workspace with
  | nil => rfl
  | cons call earlier inductionHypothesis =>
    rw [List.cons_append, story, story, inductionHypothesis, List.append_assoc]
    rfl

omit [Channel σ] in
theorem mem_of_session? {workspace : Workspace σ} {name : String} {session : Session}
    (held : workspace.session? name = some session) : (name, session) ∈ workspace.sessions := by
  obtain ⟨before, after, split, _⟩ := List.lookup_eq_some_iff.mp held
  rw [split]
  exact List.mem_append_right before List.mem_cons_self

theorem run_openSession_of_error (workspace : Workspace σ) (name : String) (kind : SessionKind)
    (secret : Secret) (fault : Fault) (after : Client σ)
    (opened : (Client.openSession kind secret).run workspace.client = (.error fault, after)) :
    (openSession name kind secret).run workspace =
      (.error fault, { workspace with client := after }) := by
  rw [openSession, Action.run_bind, onClient, Action.run_zoom, opened]

theorem run_openSession_of_ok (workspace : Workspace σ) (name : String) (kind : SessionKind)
    (secret : Secret) (session : Session) (after : Client σ)
    (opened : (Client.openSession kind secret).run workspace.client = (.ok session, after)) :
    (openSession name kind secret).run workspace =
      (.ok .nothing, { workspace with client := after }.hold name session) := by
  rw [openSession, Action.run_bind, onClient, Action.run_zoom, opened]
  rfl

theorem session?_of_unopened (workspace : Workspace σ) (name : String) (kind : SessionKind)
    (secret : Secret) (session : Session) (held : workspace.session? name = some session)
    (unopened : ((openSession name kind secret).run workspace).1 ≠ .ok .nothing) :
    ((openSession name kind secret).run workspace).2.session? name = some session := by
  cases opened : (Client.openSession kind secret).run workspace.client with
  | mk outcome after =>
    cases outcome with
    | error fault =>
      rw [run_openSession_of_error workspace name kind secret fault after opened]
      exact held
    | ok fresh =>
      rw [run_openSession_of_ok workspace name kind secret fresh after opened] at unopened
      exact absurd rfl unopened

theorem run_terminate_of_held (workspace : Workspace σ) (name : String) (session : Session)
    (held : workspace.session? name = some session) :
    (Call.terminate name).perform.run workspace =
      (((Client.terminate session).run workspace.client).1.map fun _ => .nothing,
        { workspace.drop name with
          client := ((Client.terminate session).run workspace.client).2 }) := by
  have dropped : (workspace.drop name).client = workspace.client := rfl
  rw [Call.perform, Action.run_bind, Action.run_get]
  dsimp only
  rw [held]
  dsimp only
  rw [Action.run_bind, Action.run_modify]
  dsimp only
  rw [Action.run_bind, onClient, Action.run_zoom, dropped]
  cases ((Client.terminate session).run workspace.client).1 with
  | error fault => rfl
  | ok _ => rfl

theorem run_of_lost (workspace : Workspace σ) (call : Call) (name : String)
    (given : call.given? = some name) (lost : workspace.session? name = none) :
    call.perform.run workspace = (.ok .lost, workspace) := by
  cases call with
  | openOiap _ => cases given
  | openOsap _ _ _ => cases given
  | plain _ => cases given
  | terminate ended =>
    obtain rfl : ended = name := Option.some.inj given
    rw [Call.perform, Action.run_bind, Action.run_get]
    dsimp only
    rw [lost]
    rfl
  | nextNonceOdd drawn =>
    obtain rfl : drawn = name := Option.some.inj given
    rw [Call.perform]
    exact run_entrust_of_lost drawn _ workspace lost
  | saveSession saved =>
    obtain rfl : saved = name := Option.some.inj given
    rw [Call.perform]
    exact run_entrust_of_lost saved _ workspace lost
  | loadSession loaded _ =>
    obtain rfl : loaded = name := Option.some.inj given
    rw [Call.perform]
    exact run_entrust_of_lost loaded _ workspace lost
  | authorized call loan? =>
    cases loan? with
    | none => cases given
    | some loan =>
      obtain rfl : loan.name = name := Option.some.inj given
      exact perform_of_lost call loan workspace lost

theorem run_nextNonceOdd_of_held (workspace : Workspace σ) (name : String)
    (session left : Session) (nonces : NonceSource) (drawn : Except Fault Digest)
    (held : workspace.session? name = some session)
    (drew : session.nextNonceOdd workspace.client.nonces = (drawn, left, nonces)) :
    (Call.nextNonceOdd name).perform.run workspace =
      (drawn.map fun nonce => .bytes nonce.bytes,
        { workspace with client := { workspace.client with nonces } }.hold name left) := by
  have ran := Custody.run_nextNonceOdd workspace.client session left nonces drawn drew
  exact run_entrust_of_held name _ workspace session left _ _ held
    (Action.run_bind_pure _ (fun nonce => Answer.bytes nonce.bytes) _ _ _ ran)

theorem run_saveSession_of_held {later : Later (Client σ)} (sends : later.AllowsSending)
    (workspace : Workspace σ) (name : String) (session : Session)
    (held : workspace.session? name = some session) :
    ∃ outcome after left,
      (Call.saveSession name).perform.run workspace =
        (outcome.map .bytes, { workspace with client := after }.hold name left) ∧
      Custody.Saves later workspace.client session outcome after left := by
  obtain ⟨outcome, after, left, ran, saves⟩ := Custody.run_save sends workspace.client session
  exact ⟨outcome, after, left, run_entrust_of_held name _ workspace session left _ after held
    (Action.run_bind_pure _ Answer.bytes _ _ _ ran), saves⟩

theorem run_loadSession_of_held {later : Later (Client σ)} (sends : later.AllowsSending)
    (workspace : Workspace σ) (name : String) (session : Session) (blob : Bytes)
    (held : workspace.session? name = some session) :
    ∃ outcome after left,
      (Call.loadSession name blob).perform.run workspace =
        (outcome.map fun _ => .nothing, { workspace with client := after }.hold name left) ∧
      Custody.Loads later workspace.client session blob outcome after left := by
  obtain ⟨outcome, after, left, ran, loads⟩ := Custody.run_load sends workspace.client session blob
  exact ⟨outcome, after, left, run_entrust_of_held name _ workspace session left _ after held
    (Action.run_bind_pure _ (fun _ => Answer.nothing) _ _ _ ran), loads⟩

end Workspace

namespace Call

open Workspace

theorem session?_openSession_of_ne (workspace : Workspace σ) (opening name : String)
    (kind : SessionKind) (secret : Secret) (differ : name ≠ opening) :
    ((openSession opening kind secret).run workspace).2.session? name =
      workspace.session? name := by
  cases opened : (Client.openSession kind secret).run workspace.client with
  | mk outcome after =>
    cases outcome with
    | error fault =>
      rw [run_openSession_of_error workspace opening kind secret fault after opened]
      rfl
    | ok session =>
      rw [run_openSession_of_ok workspace opening kind secret session after opened]
      dsimp only
      rw [session?_hold_of_ne _ _ _ _ differ]
      rfl

omit [Channel σ] in
theorem session?_entrust_of_ne (workspace : Workspace σ) (entrusted name : String)
    (action : Action Fault (Custody σ) Answer) (differ : name ≠ entrusted) :
    ((entrust entrusted action).run workspace).2.session? name = workspace.session? name := by
  cases held : workspace.session? entrusted with
  | none => rw [run_entrust_of_lost entrusted action workspace held]
  | some session =>
    rw [run_entrust_of_held entrusted action workspace session _ _ _ held rfl]
    dsimp only
    rw [session?_hold_of_ne _ _ _ _ differ]
    rfl

omit [Channel σ] in
theorem session?_lend_of_ne (workspace : Workspace σ) (loan : Loan) (name : String)
    (action : Action Fault (Dispatch σ) Answer) (differ : name ≠ loan.name) :
    ((lend (some loan) action).run workspace).2.session? name = workspace.session? name := by
  rw [run_lend]
  cases workspace.session? loan.name with
  | none => rfl
  | some session =>
    dsimp only
    split
    · rfl
    · rw [session?_hold_of_ne _ _ _ _ differ]
      rfl

/-- A session object that a call does not name is held after it as before. -/
theorem session?_of_other (call : Call) (workspace : Workspace σ) (name : String)
    (other : call.subject? ≠ some name) :
    (call.perform.run workspace).2.session? name = workspace.session? name := by
  cases call with
  | openOiap opening =>
    have differ : name ≠ opening := fun same => other (congrArg some same.symm)
    rw [perform_openOiap]
    exact session?_openSession_of_ne workspace opening name _ _ differ
  | openOsap opening entity secret =>
    have differ : name ≠ opening := fun same => other (congrArg some same.symm)
    rw [perform_openOsap]
    exact session?_openSession_of_ne workspace opening name _ _ differ
  | terminate ended =>
    have differ : name ≠ ended := fun same => other (congrArg some same.symm)
    cases held : workspace.session? ended with
    | none => rw [run_of_lost workspace (.terminate ended) ended rfl held]
    | some session =>
      rw [run_terminate_of_held workspace ended session held]
      exact session?_drop_of_ne workspace ended name differ
  | nextNonceOdd drawn =>
    rw [perform]
    exact session?_entrust_of_ne workspace drawn name _
      fun same => other (congrArg some same.symm)
  | saveSession saved =>
    rw [perform]
    exact session?_entrust_of_ne workspace saved name _
      fun same => other (congrArg some same.symm)
  | loadSession loaded blob =>
    rw [perform]
    exact session?_entrust_of_ne workspace loaded name _
      fun same => other (congrArg some same.symm)
  | plain call => rfl
  | authorized call loan? =>
    cases loan? with
    | none => rfl
    | some loan =>
      exact session?_lend_of_ne workspace loan name _
        fun same => other (congrArg some same.symm)

end Call

end TrustedPlatform
