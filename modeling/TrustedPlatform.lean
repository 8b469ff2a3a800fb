import TrustedPlatform.Action
import TrustedPlatform.Bytes
import TrustedPlatform.Channel.Dialogue
import TrustedPlatform.Channel.Isolation
import TrustedPlatform.Channel.Script
import TrustedPlatform.Client.Call
import TrustedPlatform.Digest.Hmac
import TrustedPlatform.Fault
import TrustedPlatform.Files.Access
import TrustedPlatform.Main
import TrustedPlatform.Register
import TrustedPlatform.Session.Basic
import TrustedPlatform.Settings.Document
import TrustedPlatform.Structure.AuditPage
import TrustedPlatform.Structure.HandleList
import TrustedPlatform.Structure.Key
import TrustedPlatform.Structure.RegisterSelection
import TrustedPlatform.Structure.SavedContext
import TrustedPlatform.Structure.Trailer
import TrustedPlatform.SystemFault
import TrustedPlatform.Table
import TrustedPlatform.Text.Blank
import TrustedPlatform.Text.Hex
import TrustedPlatform.Text.Lenient
import TrustedPlatform.Text.Numeral
import TrustedPlatform.Text.Quoted
import TrustedPlatform.Tool.Isolation
import TrustedPlatform.Tool.Words
import TrustedPlatform.Proofs.Frame.ResponseGrammar
import TrustedPlatform.Proofs.Frame.RequestGrammar
import TrustedPlatform.Proofs.Session.Steps
import TrustedPlatform.Proofs.Client.Conclusion
import TrustedPlatform.Proofs.Client.Attempt
import TrustedPlatform.Proofs.Client.Acceptance
import TrustedPlatform.Proofs.Channel.Tap
import TrustedPlatform.Proofs.Client.Opening
import TrustedPlatform.Proofs.Client.Asking
import TrustedPlatform.Proofs.Client.Retry
import TrustedPlatform.Proofs.Session.Life
import TrustedPlatform.Proofs.Client.Stages
import TrustedPlatform.Proofs.Action.Keeps
import TrustedPlatform.Proofs.Client.Unsigned
import TrustedPlatform.Proofs.Client.Story
import TrustedPlatform.Proofs.Client.Calls
import TrustedPlatform.Proofs.Client.NonceDiscipline
import TrustedPlatform.Proofs.Frame.RequestReading
import TrustedPlatform.Proofs.Module.Vault
import TrustedPlatform.Proofs.Structure.Faults
import TrustedPlatform.Proofs.Module.Coupling
import TrustedPlatform.Proofs.Module.Hearing
import TrustedPlatform.Proofs.Module.Holder
import TrustedPlatform.Proofs.Module.Dispatching
import TrustedPlatform.Proofs.Module.Calling
import TrustedPlatform.Proofs.Module.Moving
import TrustedPlatform.Proofs.Module.Joint
import TrustedPlatform.Proofs.Module.LockStep
import TrustedPlatform.Proofs.Client.Plain
import TrustedPlatform.Proofs.Client.Custody
import TrustedPlatform.Proofs.Client.Course
import TrustedPlatform.Proofs.Client.Runs
import TrustedPlatform.Proofs.Client.Rest
import TrustedPlatform.Proofs.Client.Tracking
import TrustedPlatform.Proofs.Client.Listing
import TrustedPlatform.Proofs.Client.Loading
import TrustedPlatform.Proofs.Client.Spending
import TrustedPlatform.Proofs.Wire.Grammar
import TrustedPlatform.Proofs.Structure.Written
import TrustedPlatform.Proofs.Structure.Layouts
import TrustedPlatform.Proofs.Client.Resending
import TrustedPlatform.Proofs.Channel.Queue
import TrustedPlatform.Proofs.Channel.Pairing
import TrustedPlatform.Proofs.Module.KeyStore
import TrustedPlatform.Proofs.Module.KeyService
import TrustedPlatform.Proofs.Client.Mirroring
import TrustedPlatform.Proofs.Client.KeyRuns
import TrustedPlatform.Proofs.Client.Sending
import TrustedPlatform.Proofs.Client.Masking
import TrustedPlatform.Proofs.Client.LastUse
import TrustedPlatform.Proofs.Client.Failing
import TrustedPlatform.Proofs.Module.Holding
import TrustedPlatform.Proofs.Client.Leaving
import TrustedPlatform.Proofs.Tool.CleanUp
import TrustedPlatform.Proofs.Tool.Leaving
import TrustedPlatform.Proofs.Client.Inquiry
import TrustedPlatform.Proofs.Client.AuditPages
import TrustedPlatform.Proofs.Client.RandomBytes
import TrustedPlatform.Proofs.Client.Granting
import TrustedPlatform.Proofs.Module.Auditor
import TrustedPlatform.Proofs.Client.AuditRuns
import TrustedPlatform.Proofs.Client.Eviction
import TrustedPlatform.Proofs.Client.EvictionCourse
import TrustedPlatform.Proofs.Module.Clearing
import TrustedPlatform.Proofs.Channel.Reading
import TrustedPlatform.Proofs.Frame.Receiving
import TrustedPlatform.Proofs.Frame.Splitting
import TrustedPlatform.Proofs.Client.Secrecy
import TrustedPlatform.Proofs.Register.Selection
import TrustedPlatform.Proofs.Register.Binding
import TrustedPlatform.Proofs.Module.Serving
import TrustedPlatform.Proofs.Module.RegisterBank
import TrustedPlatform.Proofs.Client.RegisterRuns
import TrustedPlatform.Proofs.Structure.Malformed
import TrustedPlatform.Proofs.Channel.OwnFaults
import TrustedPlatform.Proofs.Client.Relaying
import TrustedPlatform.Proofs.Client.RelayedCalls
import TrustedPlatform.Proofs.Tool.Procedure
import TrustedPlatform.Proofs.Tool.ExitStatus
import TrustedPlatform.Proofs.Text.Digits
import TrustedPlatform.Proofs.CommandLine.Operands
import TrustedPlatform.Proofs.CommandLine.RegisterWords
import TrustedPlatform.Proofs.Structure.SelfDelimiting
import TrustedPlatform.Proofs.Wire.Cursor
import TrustedPlatform.Proofs.Wire.Duality
import TrustedPlatform.Proofs.Tool.RegisterShow
