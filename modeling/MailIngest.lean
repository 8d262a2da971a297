import MailIngest.Api.Dispatch
import MailIngest.Main
import MailIngest.Proofs.DirectoryNames
import MailIngest.Proofs.ServerFrame
import MailIngest.Proofs.Delivery
import MailIngest.Proofs.Marks
import MailIngest.Proofs.Escapes
import MailIngest.Proofs.Isolation
import MailIngest.Proofs.Resumption
import MailIngest.Proofs.StoreIntegrity
import MailIngest.Proofs.JsonText
import MailIngest.Proofs.PendingEntries
import MailIngest.Proofs.PkceBinding
import MailIngest.Proofs.SignInCompletion
import MailIngest.Proofs.PendingExpiry
import MailIngest.Proofs.SharedPending
import MailIngest.Proofs.Renewal
import MailIngest.Proofs.Ownership
import MailIngest.Proofs.ConnectionStates
import MailIngest.Proofs.Sealing
import MailIngest.Proofs.TokenResolution
import MailIngest.Proofs.CallbackAnswer
import MailIngest.Proofs.TokenHistory
import MailIngest.Proofs.RetryLoop
import MailIngest.Proofs.SettingsUrls
import MailIngest.Proofs.Attachments
import MailIngest.Proofs.Backoff
import MailIngest.Proofs.ThreadSources
import MailIngest.Proofs.BatchRanges
import MailIngest.Proofs.SettingsFailures
