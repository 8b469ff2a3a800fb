import TrustedPlatform.Proofs.Client.AuditPages
import TrustedPlatform.Proofs.Client.Granting
import TrustedPlatform.Proofs.Client.Runs
import TrustedPlatform.Proofs.Client.Stages

/-!
# A module that audits

A module keeps which commands it audits (`Auditor`).  It lists them in ascending order, and each of
its pages holds as many of those that are left as it likes, but one at least if any are left
(`Auditor.Begins`).  A client that lists them page by page loses none, and has none twice
(`Pages.complete`); what is known then is what the module audits (`Auditor.Mirrors`).
-/

set_option autoImplicit false

namespace TrustedPlatform

namespace AuditRecord

theorem isAudited_setAudited (record : AuditRecord) (ordinal other : UInt32) (audited : Bool) :
    (record.setAudited ordinal audited).isAudited other =
      if other = ordinal then audited else record.isAudited other := by
  cases audited with
  | true =>
    simp only [setAudited, isAudited, Table.contains, if_true, Table.get?_insert]
    split <;> rfl
  | false =>
    simp only [setAudited, isAudited, Table.contains, Bool.false_eq_true, if_false,
      Table.get?_erase]
    split <;> rfl

theorem isAudited_ofListing (ordinals : List UInt32) (digest : Digest) (counter : CounterValue)
    (ordinal : UInt32) :
    (ofListing ordinals digest counter).isAudited ordinal = true ↔ ordinal ∈ ordinals := by
  have held : ∀ table : Table Unit,
      (ordinals.foldl (fun audited other => audited.insert other ()) table).contains ordinal =
        true ↔ ordinal ∈ ordinals ∨ table.contains ordinal = true := by
    induction ordinals with
    | nil => simp
    | cons first ordinals inductionHypothesis =>
      intro table
      rw [List.foldl_cons, inductionHypothesis, List.mem_cons]
      by_cases same : ordinal = first
      · simp [Table.contains, Table.get?_insert, same]
      · simp [Table.contains, Table.get?_insert, same]
  unfold ofListing isAudited
  rw [held]
  simp [Table.contains, Table.empty, Table.get?]

end AuditRecord

/-- The commands that a module audits. -/
structure Auditor where
  audited : UInt32 → Prop

namespace Auditor

def set (auditor : Auditor) (ordinal : UInt32) (audited : Bool) : Auditor where
  audited other := if other = ordinal then audited = true else auditor.audited other

/-- What is known of the audited commands is what the module audits. -/
def Mirrors (auditor : Auditor) (record : AuditRecord) : Prop :=
  ∀ ordinal, record.isAudited ordinal = true ↔ auditor.audited ordinal

/-- A page begins the list of the audited commands from a number on.  What it leaves out is left for
others, and it is not empty if anything is left. -/
structure Begins (auditor : Auditor) (start : UInt32) (page : AuditPage) (left : List UInt32) :
    Prop where
  ascending : (page.ordinals ++ left).Pairwise (· < ·)
  listed : ∀ ordinal, ordinal ∈ page.ordinals ++ left ↔ auditor.audited ordinal ∧ start ≤ ordinal
  more : page.more = true ↔ left ≠ []
  nonempty : left ≠ [] → page.ordinals ≠ []

/-- How a module answers a request, and what it audits then. -/
inductive Answers (auditor : Auditor) (request : Request) : Bytes → Auditor → Prop where
  | lists (start : UInt32) (page : AuditPage) (left : List UInt32)
      (asked : request.ordinal = .getAuditDigest)
      (begun : request.parameters = Bytes.word32 start)
      (begins : auditor.Begins start page left)
      (fits : (Command.success .response ⟨[], page.written⟩ []).frame.length < Bytes.capacity 4) :
      Answers auditor request (Command.success .response ⟨[], page.written⟩ []).frame auditor
  | sets (ordinal : UInt32) (audited : Bool) (received : Bytes) (response : Response)
      (asked : request.ordinal = .setOrdinalAuditStatus)
      (named : request.parameters = Bytes.word32 ordinal ++ Bytes.flag audited)
      (parsed : Response.parse received = .ok response)
      (succeeded : response.code = ResultCode.success) :
      Answers auditor request received (auditor.set ordinal audited)
  | refuses (received : Bytes) (response : Response) (other : request.ordinal ≠ .getAuditDigest)
      (parsed : Response.parse received = .ok response)
      (failed : response.code ≠ ResultCode.success) : Answers auditor request received auditor
  | leaves (received : Bytes) (notListed : request.ordinal ≠ .getAuditDigest)
      (notSet : request.ordinal ≠ .setOrdinalAuditStatus) :
      Answers auditor request received auditor

theorem Mirrors.set {auditor : Auditor} {record : AuditRecord} (mirrors : auditor.Mirrors record)
    (ordinal : UInt32) (audited : Bool) :
    (auditor.set ordinal audited).Mirrors (record.setAudited ordinal audited) := by
  intro other
  dsimp only [Auditor.set]
  rw [AuditRecord.isAudited_setAudited]
  by_cases same : other = ordinal
  · rw [if_pos same, if_pos same]
  · rw [if_neg same, if_neg same]
    exact mirrors other

/-- A module serves exchanges one after the other.  Every one of them is completed. -/
inductive Serves : Auditor → List Exchange → Auditor → Prop where
  | done (auditor : Auditor) : Serves auditor [] auditor
  | answers (auditor next last : Auditor) (request : Request) (received response : Bytes)
      (rest : List Exchange) (reads : Request.Reads received request)
      (answered : auditor.Answers request response next) (served : Serves next rest last) :
      Serves auditor (⟨received, .ok response⟩ :: rest) last

theorem serves_nil_iff (auditor last : Auditor) : auditor.Serves [] last ↔ last = auditor := by
  constructor
  · intro serves
    cases serves
    rfl
  · rintro rfl
    exact .done last

theorem Serves.split {auditor last : Auditor} {early late : List Exchange}
    (serves : auditor.Serves (early ++ late) last) :
    ∃ between, auditor.Serves early between ∧ between.Serves late last := by
  induction early generalizing auditor with
  | nil => exact ⟨auditor, .done auditor, serves⟩
  | cons exchange early inductionHypothesis =>
    cases serves with
    | answers _ next _ request received response _ reads answered served =>
      obtain ⟨between, first, second⟩ := inductionHypothesis served
      exact ⟨between, .answers auditor next between request received response early reads answered
        first, second⟩

theorem Serves.first {auditor last : Auditor} {bytes : Bytes} {request : Request}
    {answer : Except Fault Bytes} {rest : List Exchange}
    (serves : auditor.Serves (⟨bytes, answer⟩ :: rest) last)
    (reads : Request.Reads bytes request) :
    ∃ response next, answer = .ok response ∧ auditor.Answers request response next ∧
      next.Serves rest last := by
  cases serves with
  | answers _ next _ other _ response _ also answered served =>
    rw [reads.unique also]
    exact ⟨response, next, rfl, answered, served⟩

theorem Answers.lists_page {auditor next : Auditor} {start : UInt32} {response : Bytes}
    (answers : auditor.Answers (Command.auditPage start).plainRequest response next) :
    next = auditor ∧ ∃ page left,
      auditPageOf (.ok response) = .ok page ∧ auditor.Begins start page left := by
  cases answers with
  | lists other page left _ begun begins fits =>
    have same : start = other := Bytes.word32_injective _ _ begun
    subst same
    exact ⟨rfl, page, left, (auditPageOf_eq_ok_iff _ _).mpr ⟨rfl, fits⟩, begins⟩
  | sets _ _ _ _ asked _ _ _ => cases asked
  | refuses _ _ other _ _ => exact absurd rfl other
  | leaves _ notListed _ => exact absurd rfl notListed

theorem Answers.sets_of_success {auditor next : Auditor} {request : Request} {received : Bytes}
    {response : Response} {ordinal : UInt32} {audited : Bool}
    (answers : auditor.Answers request received next)
    (asked : request.ordinal = .setOrdinalAuditStatus)
    (named : request.parameters = Bytes.word32 ordinal ++ Bytes.flag audited)
    (parsed : Response.parse received = .ok response)
    (succeeded : response.code = ResultCode.success) : next = auditor.set ordinal audited := by
  cases answers with
  | lists _ _ _ other _ _ _ =>
    rw [asked] at other
    cases other
  | sets found state _ _ _ also _ _ =>
    rw [named] at also
    obtain ⟨ordinals, flags⟩ := List.append_inj also (by simp)
    obtain rfl := Bytes.word32_injective _ _ ordinals
    have same : audited = state := Decoder.Reads.flag.unique rfl flags
    rw [same]
  | refuses _ other _ also failed =>
    rw [parsed] at also
    cases also
    exact absurd succeeded failed
  | leaves _ _ notSet => exact absurd asked notSet

namespace Begins

variable {auditor : Auditor} {start next : UInt32} {page : AuditPage} {left : List UInt32}
  (begins : auditor.Begins start page left)

include begins

theorem not_stalls (more : page.more = true) : ¬ page.Stalls start := by
  have remains := begins.more.mp more
  obtain ⟨other, among⟩ := List.exists_mem_of_ne_nil left remains
  rintro (nothing | ⟨last, found, nowhere⟩)
  · exact begins.nonempty remains nothing
  · have member := List.mem_of_getLast? found
    rcases nowhere with below | atEnd
    · have above := ((begins.listed last).mp (List.mem_append_left _ member)).2
      exact UInt32.not_lt.mpr above below
    · -- Whatever is left is more than the last number on the page.
      have above := (List.pairwise_append.mp begins.ascending).2.2 last member other among
      have bound := other.toNat_lt
      rw [UInt32.lt_iff_toNat_lt, atEnd] at above
      have number : (0xffffffff : UInt32).toNat = 0xffffffff := rfl
      omega

theorem above_iff (advances : page.next? start = some next) (ordinal : UInt32) :
    auditor.audited ordinal ∧ start ≤ ordinal ↔
      ordinal ∈ page.ordinals ∨ (auditor.audited ordinal ∧ next ≤ ordinal) := by
  obtain ⟨last, found, above, number⟩ := (page.next?_eq_some_iff start next).mp advances
  have member := List.mem_of_getLast? found
  obtain ⟨_, _, apart⟩ := List.pairwise_append.mp begins.ascending
  rw [← begins.listed ordinal, List.mem_append]
  constructor
  · rintro (onPage | isLeft)
    · exact Or.inl onPage
    · right
      have isAudited := ((begins.listed ordinal).mp (List.mem_append_right _ isLeft)).1
      have beyond := UInt32.lt_iff_toNat_lt.mp (apart last member ordinal isLeft)
      refine ⟨isAudited, UInt32.le_iff_toNat_le.mpr ?_⟩
      omega
  · rintro (onPage | ⟨isAudited, beyond⟩)
    · exact Or.inl onPage
    · rw [← List.mem_append, begins.listed]
      rw [UInt32.le_iff_toNat_le] at above beyond
      refine ⟨isAudited, UInt32.le_iff_toNat_le.mpr ?_⟩
      omega

theorem lt_next (advances : page.next? start = some next) :
    ∀ ordinal ∈ page.ordinals, ordinal < next := by
  intro ordinal onPage
  obtain ⟨last, found, _, number⟩ := (page.next?_eq_some_iff start next).mp advances
  obtain ⟨ascending, _, _⟩ := List.pairwise_append.mp begins.ascending
  obtain ⟨early, split⟩ := List.getLast?_eq_some_iff.mp found
  rw [split] at ascending onPage
  rw [UInt32.lt_iff_toNat_lt]
  rcases List.mem_append.mp onPage with earlier | isLast
  · have below := (List.pairwise_append.mp ascending).2.2 ordinal earlier last
      (List.mem_singleton_self last)
    rw [UInt32.lt_iff_toNat_lt] at below
    omega
  · obtain rfl := List.mem_singleton.mp isLast
    omega

end Begins

end Auditor

/-- A listing of what a module audits is complete: nothing is lost, and nothing comes twice. -/
theorem Pages.complete {start : UInt32} {asked : List PageQuestion}
    {outcome : Except Fault AuditListing} (pages : Pages start asked outcome)
    {auditor last : Auditor} (serves : auditor.Serves (asked.map PageQuestion.exchange) last) :
    last = auditor ∧ ∃ listing, outcome = .ok listing ∧ listing.ordinals.Pairwise (· < ·) ∧
      ∀ ordinal, ordinal ∈ listing.ordinals ↔ auditor.audited ordinal ∧ start ≤ ordinal := by
  induction pages with
  | fails start answer fault failed =>
    obtain ⟨response, next, rfl, answers, _⟩ :=
      serves.first ((Command.auditPage start).reads_plainFrame rfl)
    obtain ⟨_, page, left, shown, _⟩ := answers.lists_page
    rw [shown] at failed
    cases failed
  | ends start answer page shown isLast =>
    obtain ⟨response, next, rfl, answers, served⟩ :=
      serves.first ((Command.auditPage start).reads_plainFrame rfl)
    obtain ⟨rfl, other, left, also, begins⟩ := answers.lists_page
    rw [shown] at also
    cases also
    have nothingLeft : left = [] := by
      apply Classical.byContradiction
      intro remains
      rw [begins.more.mpr remains] at isLast
      cases isLast
    have ascending := begins.ascending
    have listed := begins.listed
    rw [nothingLeft, List.append_nil] at ascending listed
    exact ⟨(Auditor.serves_nil_iff _ _).mp served, _, rfl, ascending, listed⟩
  | stalls start answer page shown more nowhere =>
    obtain ⟨response, next, rfl, answers, _⟩ :=
      serves.first ((Command.auditPage start).reads_plainFrame rfl)
    obtain ⟨_, other, left, also, begins⟩ := answers.lists_page
    rw [shown] at also
    cases also
    exact absurd nowhere (begins.not_stalls more)
  | goesOn start next answer page rest others shown more advances pages inductionHypothesis =>
    obtain ⟨response, between, rfl, answers, served⟩ :=
      serves.first ((Command.auditPage start).reads_plainFrame rfl)
    obtain ⟨rfl, other, left, also, begins⟩ := answers.lists_page
    rw [shown] at also
    cases also
    obtain ⟨rfl, remaining, rfl, ascending, listed⟩ := inductionHypothesis served
    refine ⟨rfl, remaining.after page, rfl, ?_, ?_⟩
    · refine List.pairwise_append.mpr
        ⟨(List.pairwise_append.mp begins.ascending).1, ascending, ?_⟩
      intro ordinal onPage later isLater
      have below := begins.lt_next advances ordinal onPage
      exact UInt32.lt_of_lt_of_le below ((listed later).mp isLater).2
    · intro ordinal
      rw [begins.above_iff advances ordinal, ← listed ordinal]
      exact List.mem_append

end TrustedPlatform
