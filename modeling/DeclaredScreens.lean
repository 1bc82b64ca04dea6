import DeclaredScreens.Main
import DeclaredScreens.Proofs.Record
import DeclaredScreens.Proofs.Run
import DeclaredScreens.Proofs.Step.Calls
import DeclaredScreens.Proofs.Step.Forms
import DeclaredScreens.Proofs.Seeds
import DeclaredScreens.Proofs.EditedSeed
import DeclaredScreens.Proofs.SingleSubmission
import DeclaredScreens.Proofs.LateReply
import DeclaredScreens.Proofs.FreshLists
import DeclaredScreens.Proofs.Step.Told
import DeclaredScreens.Proofs.Failures
import DeclaredScreens.Proofs.ExecutionEffects
import DeclaredScreens.Proofs.CurrentSeed
import DeclaredScreens.Proofs.Reads
import DeclaredScreens.Proofs.FieldErrors
import DeclaredScreens.Proofs.SubmissionInFlight
import DeclaredScreens.Proofs.SavedRecord
import DeclaredScreens.Proofs.ActiveDrawer
import DeclaredScreens.Proofs.Step.Settled
import DeclaredScreens.Proofs.TransparentCache
import DeclaredScreens.Proofs.RequestUrls
import DeclaredScreens.Proofs.Except
import DeclaredScreens.Proofs.Url.Parse
import DeclaredScreens.Proofs.Json.Literals
import DeclaredScreens.Proofs.Json.Written
import DeclaredScreens.Proofs.Decoders
import DeclaredScreens.Proofs.WrittenSchemas
import DeclaredScreens.Proofs.Operators
import DeclaredScreens.Proofs.Verdicts
import DeclaredScreens.Proofs.Placeholders
import DeclaredScreens.Proofs.Numerals
import DeclaredScreens.Proofs.Json.Members
import DeclaredScreens.Proofs.UnsavedEdits
import DeclaredScreens.Proofs.Validation
import DeclaredScreens.Proofs.JoinedAddresses
import DeclaredScreens.Proofs.UpdateAddress
import DeclaredScreens.Proofs.Redirects
import DeclaredScreens.Proofs.HttpReplies
import DeclaredScreens.Proofs.FormLookup
import DeclaredScreens.Proofs.WrittenExchanges
import DeclaredScreens.Proofs.Json.Trees
import DeclaredScreens.Proofs.Rearrangement.Members
import DeclaredScreens.Proofs.Rearrangement.Tables
import DeclaredScreens.Proofs.Rearrangement.Decoders
import DeclaredScreens.Proofs.Rearrangement.Tagged
import DeclaredScreens.Proofs.MemberOrder
import DeclaredScreens.Proofs.CacheHistory
import DeclaredScreens.Proofs.Preorder
import DeclaredScreens.Proofs.RequiredFields
import DeclaredScreens.Proofs.PlayedRuns
import DeclaredScreens.Proofs.MountedTree
import DeclaredScreens.Proofs.ReadSchemas
import DeclaredScreens.Proofs.TypedForms
import DeclaredScreens.Proofs.ReportingRuns
import DeclaredScreens.Proofs.ExitCode
import DeclaredScreens.Proofs.SettingsLayers
import DeclaredScreens.Proofs.FetchedReplies
import DeclaredScreens.Proofs.PlainPaths
import DeclaredScreens.Proofs.DocumentOrder
