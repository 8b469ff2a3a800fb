import TrustedPlatform.Channel.Isolation
import TrustedPlatform.Tool.Run

/-!
# The tool in isolation

A call of the tool on a machine that has files, but no network and nobody at its sockets.  A file
that stands in for a device holds in the end what was sent to it.

* `files_runIsolated_of_no_channel`: a call that connects to nothing leaves the files as they are.
-/

set_option autoImplicit false

namespace TrustedPlatform.Tool

/-- The report with what the connection left in the files.  The tool writes its files when all is
sent, so what it wrote comes last. -/
def Report.settled (report : Report Connection) (before : Files) : Report Connection :=
  match report.channel? with
  | none => report
  | some connection =>
    { report with
      files := (report.files.changesSince before).foldl
        (fun files (place, contents) => files.put place contents) (before.after connection) }

def Invocation.runIsolated (invocation : Invocation) (environment : String → Option String)
    (files : Files) (nonces : NonceSource) (rounds : Nat) : Report Connection :=
  (invocation.run ⟨environment, files.connect, files, nonces, rounds⟩).settled files

theorem files_runIsolated_of_no_channel (invocation : Invocation)
    (environment : String → Option String) (files : Files) (nonces : NonceSource) (rounds : Nat)
    (unconnected : (invocation.runIsolated environment files nonces rounds).channel? = none) :
    (invocation.runIsolated environment files nonces rounds).files = files := by
  unfold Invocation.runIsolated Invocation.run Report.settled at unconnected ⊢
  dsimp only at unconnected ⊢
  cases read : invocation.settings environment with
  | error failure => rfl
  | ok settings =>
    simp only [read] at unconnected ⊢
    cases met : Surroundings.channel ⟨environment, files.connect, files, nonces, rounds⟩ settings with
    | error failure => rfl
    | ok channel => simp [met] at unconnected

end TrustedPlatform.Tool
