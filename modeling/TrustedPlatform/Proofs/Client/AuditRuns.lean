import TrustedPlatform.Channel.Script
import TrustedPlatform.Proofs.Module.Auditor

/-!
# Audited commands that are known

A client that has listed what a module audits knows it, and knows it still after every change that
it has the module make (`Later.auditing`).  What it learns with the first listing it learns from any
module that pages honestly, and no module keeps it from coming to an end:
`Workspace.audits_run`.
-/

set_option autoImplicit false

namespace TrustedPlatform

def Command.auditing (ordinal : UInt32) (audited : Bool) : Command where
  ordinal := .setOrdinalAuditStatus
  parameters := Bytes.word32 ordinal ++ Bytes.flag audited

/-- If it was known what a module audits, and the module served what was recorded since, it is
known.  The last digest and the last counter that were listed stay as they were. -/
def Later.auditing {σ : Type} : Later (Client (Tapped σ)) where
  related before after :=
    (∃ sent, after.link.record = before.link.record ++ sent ∧
      ∀ auditor next : Auditor, auditor.Mirrors before.inventory.audit → auditor.Serves sent next →
        next.Mirrors after.inventory.audit) ∧
      after.inventory.audit.digest = before.inventory.audit.digest ∧
      after.inventory.audit.counter = before.inventory.audit.counter
  refl client := by
    refine ⟨⟨[], (List.append_nil _).symm, fun auditor next mirrors serves => ?_⟩, rfl, rfl⟩
    rw [(Auditor.serves_nil_iff auditor next).mp serves]
    exact mirrors
  trans := by
    rintro first second third ⟨⟨early, begun, knows⟩, digest, counter⟩
      ⟨⟨late, ended, knowsLate⟩, digestLate, counterLate⟩
    refine ⟨⟨early ++ late, by rw [ended, begun, List.append_assoc], ?_⟩,
      digestLate.trans digest, counterLate.trans counter⟩
    intro auditor next mirrors serves
    obtain ⟨between, served, rest⟩ := serves.split
    exact knowsLate between next (knows auditor between mirrors served) rest

variable {σ : Type} [Channel σ]

/-- A module that was told to audit a command, or to audit it no longer, is known to do so. -/
theorem AuthorizedCall.setAudited_follows (ordinal : UInt32) (audited : Bool)
    (dispatch : Dispatch (Tapped σ)) (answer : Answer)
    (succeeded : ((AuthorizedCall.setAudited ordinal audited).perform.run dispatch).1 =
      .ok answer) :
    Later.auditing.related dispatch.client
      ((AuthorizedCall.setAudited ordinal audited).perform.run dispatch).2.client := by
  obtain ⟨after, ran⟩ : ∃ after,
      (AuthorizedCall.setAudited ordinal audited).perform.run dispatch = (.ok answer, after) :=
    ⟨_, Prod.ext succeeded rfl⟩
  rw [ran]
  have shape : (AuthorizedCall.setAudited ordinal audited).perform.run dispatch =
      (Dispatch.execute (Command.auditing ordinal audited) >>= fun reply =>
        AuthorizedCall.finish (.setAudited ordinal audited) reply).run dispatch := by
    rw [AuthorizedCall.perform_eq]
    rfl
  rw [shape] at ran
  obtain ⟨reply, between, executed, finished⟩ := (Action.bind_eq_ok_iff _ _ _ _ _).mp ran
  have granted := Dispatch.execute_granted (Command.auditing ordinal audited) rfl rfl rfl dispatch
    between reply executed
  cases decoded : reply.decode (pure () : Decoder Unit) with
  | error fault =>
    rw [AuthorizedCall.finish, Action.run_bind, Action.run_ofExcept, decoded] at finished
    cases finished
  | ok _ =>
    rw [AuthorizedCall.finish, Action.run_bind, Action.run_ofExcept, decoded] at finished
    cases finished
    obtain ⟨⟨frame, trailers, received, response, recorded, reads, parsed, code⟩, audit⟩ := granted
    refine ⟨⟨_, recorded, fun auditor next mirrors serves => ?_⟩, ?_, ?_⟩
    · obtain ⟨_, last, same, answers, served⟩ := serves.first reads
      cases same
      obtain rfl := answers.sets_of_success rfl rfl parsed code
      rw [(Auditor.serves_nil_iff _ _).mp served]
      have known := mirrors.set ordinal audited
      rw [← audit] at known
      exact known
    · change between.client.inventory.audit.digest = _
      rw [audit]
    · change between.client.inventory.audit.counter = _
      rw [audit]

structure AuditChange where
  ordinal : UInt32
  audited : Bool
  loan? : Option Loan

def AuditChange.call (change : AuditChange) : Call :=
  .authorized (.setAudited change.ordinal change.audited) change.loan?

namespace Workspace

theorem auditChange_follows (workspace : Workspace (Tapped σ)) (change : AuditChange)
    (succeeded : (change.call.perform.run workspace).1 = .ok .nothing) :
    Later.auditing.related workspace.client (change.call.perform.run workspace).2.client := by
  obtain ⟨ordinal, audited, loan?⟩ := change
  change ((lend loan? (AuthorizedCall.setAudited ordinal audited).perform).run workspace).1 = _
    at succeeded
  change Later.auditing.related workspace.client
    ((lend loan? (AuthorizedCall.setAudited ordinal audited).perform).run workspace).2.client
  cases loan? with
  | none =>
    rw [run_lend_none] at succeeded ⊢
    have follows := AuthorizedCall.setAudited_follows ordinal audited
      (⟨workspace.client, none⟩ : Dispatch (Tapped σ)) .nothing succeeded
    dsimp only at follows ⊢
    exact follows
  | some loan =>
    rw [run_lend] at succeeded ⊢
    cases held : workspace.session? loan.name with
    | none =>
      rw [held] at succeeded
      cases succeeded
    | some session =>
      have follows := AuthorizedCall.setAudited_follows ordinal audited
        ⟨workspace.client, some ⟨session, loan.secret, loan.continueSession⟩⟩ .nothing
      rw [held] at succeeded
      dsimp only at succeeded ⊢
      cases ran : (AuthorizedCall.setAudited ordinal audited).perform.run
          ⟨workspace.client, some ⟨session, loan.secret, loan.continueSession⟩⟩ with
      | mk outcome left =>
        obtain ⟨after, use?⟩ := left
        rw [ran] at follows succeeded
        cases use? with
        | none => exact follows succeeded
        | some use => exact follows succeeded

/-- After any changes, all of them made, it is known what the module audits. -/
theorem auditChanges_follow (changes : List AuditChange) (workspace : Workspace (Tapped σ))
    (succeeded : ∀ outcome ∈ (workspace.run (changes.map AuditChange.call)).1,
      outcome = .ok .nothing) :
    Later.auditing.related workspace.client
      (workspace.run (changes.map AuditChange.call)).2.client := by
  induction changes generalizing workspace with
  | nil => exact Later.auditing.refl _
  | cons change changes inductionHypothesis =>
    rw [List.map_cons, run_cons] at succeeded ⊢
    have first := auditChange_follows workspace change (succeeded _ List.mem_cons_self)
    exact Later.auditing.trans _ _ _ first (inductionHypothesis _ fun outcome member =>
      succeeded outcome (List.mem_cons_of_mem _ member))

/-- How the audited commands are listed, whatever the module answers; and of a module that pages
honestly all of them are listed, and known from then on. -/
theorem audits_run (workspace : Workspace (Tapped σ)) :
    ∃ asked outcome after,
      (Call.plain .auditListing).perform.run workspace =
        (outcome.map .listing, { workspace with client := after }) ∧
      after.link.record = workspace.client.link.record ++ asked.map PageQuestion.exchange ∧
      after.inventory = workspace.client.inventory.listing outcome ∧
      PageTurns workspace.client.link.Stuck asked outcome ∧
      (workspace.client.link.Ready → ∀ auditor between : Auditor,
        auditor.Serves (asked.map PageQuestion.exchange) between →
        between = auditor ∧
        ∃ listing, outcome = .ok listing ∧ listing.ordinals.Pairwise (· < ·) ∧
          (∀ ordinal, ordinal ∈ listing.ordinals ↔ auditor.audited ordinal) ∧
          auditor.Mirrors after.inventory.audit ∧
          ∀ (changes : List AuditChange) (sent : List Exchange) (last : Auditor)
            (outcomes : List (Except Fault Answer)) (final : Workspace (Tapped σ)),
            ({ workspace with client := after } : Workspace (Tapped σ)).run
              (changes.map AuditChange.call) = (outcomes, final) →
            final.client.link.record = after.link.record ++ sent →
            auditor.Serves sent last →
            (∀ outcome ∈ outcomes, outcome = .ok .nothing) →
            last.Mirrors final.client.inventory.audit ∧
              final.client.inventory.audit.digest = some listing.digest ∧
              final.client.inventory.audit.counter = some listing.counter) := by
  obtain ⟨asked, outcome, link, ran, recorded, turns, complete⟩ :=
    workspace.client.auditListing_turns
  have performed : (Call.plain .auditListing).perform.run workspace =
      (outcome.map .listing, { workspace with client := { workspace.client with
        link, inventory := workspace.client.inventory.listing outcome } }) := by
    change (onClient (Client.auditListing >>= fun listing => pure (Answer.listing listing))).run
      workspace = _
    rw [onClient, Action.run_zoom, Action.run_bind_pure _ Answer.listing _ _ _ ran]
  refine ⟨asked, outcome, _, performed, recorded, rfl, turns, ?_⟩
  intro ready auditor between serves
  obtain ⟨rfl, listing, rfl, ascending, listed⟩ := (complete ready).complete serves
  have all : ∀ ordinal, ordinal ∈ listing.ordinals ↔ between.audited ordinal := by
    intro ordinal
    rw [listed ordinal]
    exact and_iff_left (UInt32.le_iff_toNat_le.mpr (Nat.zero_le _))
  have mirrors : between.Mirrors (workspace.client.inventory.listing (.ok listing)).audit := by
    intro ordinal
    rw [← all ordinal]
    exact AuditRecord.isAudited_ofListing _ _ _ ordinal
  refine ⟨rfl, listing, rfl, ascending, all, mirrors, ?_⟩
  intro changes sent last outcomes final run recordedLater served succeeded
  have follows := auditChanges_follow changes
    { workspace with client := { workspace.client with
      link, inventory := workspace.client.inventory.listing (.ok listing) } }
  rw [run] at follows
  obtain ⟨⟨also, same, knows⟩, digest, counter⟩ := follows succeeded
  rw [recordedLater] at same
  obtain rfl := List.append_cancel_left same
  exact ⟨knows between last mirrors served, digest, counter⟩

namespace Paging

def counter (count : UInt32) : CounterValue := ⟨⟨[0x61, 0x75, 0x64, 0x69], rfl⟩, count⟩

def pages : List AuditPage :=
  [⟨counter 1, Block.replicate 20 1, true, [0, 5]⟩,
    ⟨counter 2, Block.replicate 20 2, false, [0xffffffff]⟩]

def replies : List Reply := (pages.map fun page => ⟨[], page.written⟩) ++ [⟨[], []⟩, ⟨[], []⟩]

def answer (reply : Reply) : Bytes := (Command.success .response reply []).frame

def changes : List AuditChange := [⟨7, true, none⟩, ⟨0, false, none⟩]

def workspace : Workspace (Tapped Script) :=
  .fresh (.fresh ⟨.ofEntries (replies.map fun reply => .answer (answer reply)), none, []⟩
    ⟨fun number => Block.replicate 20 (.ofNat number), 0⟩ 1)

def auditor : Auditor where
  audited ordinal := ordinal = 0 ∨ ordinal = 5 ∨ ordinal = 0xffffffff

def listed : Workspace (Tapped Script) := ((Call.plain .auditListing).perform.run workspace).2

theorem serves_pages : auditor.Serves listed.client.link.record auditor := by
  have record : listed.client.link.record =
      List.zipWith (fun start page =>
        (PageQuestion.mk start (.ok (answer ⟨[], AuditPage.written page⟩))).exchange) [0, 6] pages :=
    rfl
  rw [record]
  refine .answers _ _ _ _ _ _ _ ((Command.auditPage 0).reads_plainFrame rfl)
    (.lists 0 _ [0xffffffff] rfl rfl ⟨by decide, ?_, by decide, by decide⟩ (by decide)) ?_
  · intro ordinal
    simp [auditor]
  refine .answers _ _ _ _ _ _ _ ((Command.auditPage 6).reads_plainFrame rfl)
    (.lists 6 _ [] rfl rfl ⟨by decide, ?_, by decide, by decide⟩ (by decide)) (.done _)
  · intro ordinal
    show ordinal ∈ [0xffffffff] ↔ (ordinal = 0 ∨ ordinal = 5 ∨ ordinal = 0xffffffff) ∧ 6 ≤ ordinal
    rw [List.mem_singleton]
    constructor
    · rintro rfl
      exact ⟨Or.inr (Or.inr rfl), by decide⟩
    · rintro ⟨rfl | rfl | rfl, above⟩
      · exact absurd above (by decide)
      · exact absurd above (by decide)
      · rfl

theorem serves_changes : ∃ sent,
    (listed.run (changes.map AuditChange.call)).2.client.link.record =
        listed.client.link.record ++ sent ∧
      auditor.Serves sent ((auditor.set 7 true).set 0 false) := by
  refine ⟨[⟨(Command.auditing 7 true).plainFrame, .ok (answer ⟨[], []⟩)⟩,
    ⟨(Command.auditing 0 false).plainFrame, .ok (answer ⟨[], []⟩)⟩], rfl, ?_⟩
  refine .answers _ _ _ _ _ _ _ ((Command.auditing 7 true).reads_plainFrame rfl)
    (.sets 7 true _ ⟨.response, ResultCode.success, []⟩ rfl rfl rfl rfl) ?_
  refine .answers _ _ _ _ _ _ _ ((Command.auditing 0 false).reads_plainFrame rfl)
    (.sets 0 false _ ⟨.response, ResultCode.success, []⟩ rfl rfl rfl rfl) (.done _)

theorem outcome_of_pages :
    ((Call.plain .auditListing).perform.run workspace).1 =
      .ok (.listing ⟨counter 2, Block.replicate 20 2, [0, 5, 0xffffffff]⟩) := rfl

theorem outcomes_of_changes :
    (listed.run (changes.map AuditChange.call)).1 = [.ok .nothing, .ok .nothing] := rfl

/-- All three commands are listed from two pages, and every change is known. -/
theorem audits_of_pages :
    ((Call.plain .auditListing).perform.run workspace).1 =
        .ok (.listing ⟨counter 2, Block.replicate 20 2, [0, 5, 0xffffffff]⟩) ∧
      auditor.Mirrors listed.client.inventory.audit ∧
      ((auditor.set 7 true).set 0 false).Mirrors
        (listed.run (changes.map AuditChange.call)).2.client.inventory.audit := by
  obtain ⟨asked, outcome, after, performed, recorded, inventory, turns, honest⟩ :=
    audits_run workspace
  have left : listed = { workspace with client := after } := congrArg Prod.snd performed
  have record : listed.client.link.record = asked.map PageQuestion.exchange := by
    rw [left]
    exact recorded
  have served := serves_pages
  rw [record] at served
  obtain ⟨_, listing, _, _, _, mirrors, goesOn⟩ :=
    honest (Link.ready_of_clean _ rfl) auditor auditor served
  obtain ⟨sent, recordedLater, servedLater⟩ := serves_changes
  have succeeded : ∀ outcome ∈ (listed.run (changes.map AuditChange.call)).1,
      outcome = .ok .nothing := by
    intro outcome member
    rw [outcomes_of_changes] at member
    simpa using member
  refine ⟨outcome_of_pages, ?_, ?_⟩
  · rw [left]
    exact mirrors
  · rw [left] at recordedLater succeeded ⊢
    cases ran : ({ workspace with client := after } : Workspace (Tapped Script)).run
        (changes.map AuditChange.call) with
    | mk outcomes final =>
      rw [ran] at recordedLater succeeded
      exact (goesOn changes sent _ outcomes final ran recordedLater servedLater succeeded).1

end Paging

end Workspace

end TrustedPlatform
