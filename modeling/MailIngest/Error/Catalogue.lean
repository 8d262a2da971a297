import MailIngest.Error.Kind
import MailIngest.Json.Plain

/-!
# Messages for people

Codes map to a sentence a user can read and a suggestion of what to do next; an unknown code
gets the generic pair. `cliReport` lays a failure out for a terminal: the headline with the code,
the suggestion, and the details, where token material and passwords are never shown.

The main statement is `userMessage_known`: every kind's code has its own catalogue entry.
-/

namespace MailIngest.Catalogue

def userMessage? : String → Option String
  | "AUTHORIZATION_ERROR" => some "We couldn't authorize access to your mailbox."
  | "AUTH_EXCHANGE_ERROR" =>
    some "The email provider did not accept the sign-in. Please try connecting again."
  | "TOKEN_REFRESH_ERROR" => some "We couldn't renew access to your mailbox right now."
  | "NO_REFRESH_TOKEN" => some "This account connection cannot be renewed automatically."
  | "REFRESH_REJECTED" => some "Access to this mailbox was revoked or has expired."
  | "PENDING_AUTH_EXPIRED" => some "The sign-in link expired or was already used."
  | "UNAUTHORIZED" => some "You need to be signed in to manage mailbox connections."
  | "UNSUPPORTED_PROVIDER" => some "This email provider is not supported."
  | "CREDENTIAL_NOT_FOUND" => some "This mailbox connection wasn't found."
  | "MAILBOX_CONNECTION_ERROR" => some "We couldn't reach the mail server."
  | "MAILBOX_LOGIN_ERROR" => some "The mail server did not accept the login."
  | "RETRIES_EXHAUSTED" => some "Sync paused due to reaching the mail server rate limit."
  | "MESSAGE_PARSE_ERROR" => some "A message in this mailbox couldn't be read."
  | "CONFIGURATION_ERROR" => some "There's a configuration issue."
  | "ENCRYPTION_ERROR" => some "Stored credentials couldn't be protected."
  | "KEY_NOT_FOUND" => some "The credential encryption key is missing."
  | "DECRYPTION_ERROR" => some "Stored credentials couldn't be read."
  | "MAILARCHIVE_ERROR" => some "An unexpected error occurred. Please try again."
  | "UNKNOWN_ERROR" => some "Something went wrong. Please try again."
  | _ => none

def suggestion? : String → Option String
  | "AUTHORIZATION_ERROR" => some "Reconnect the account from the OAuth accounts settings page."
  | "AUTH_EXCHANGE_ERROR" => some "Start the connection again and complete sign-in within 10 minutes."
  | "TOKEN_REFRESH_ERROR" => some "The next sync will retry automatically."
  | "NO_REFRESH_TOKEN" => some "Reconnect the account to grant offline access."
  | "REFRESH_REJECTED" => some "Reconnect the account to restore access."
  | "PENDING_AUTH_EXPIRED" => some "Start the connection again from the settings page."
  | "UNAUTHORIZED" => some "Sign in and retry."
  | "UNSUPPORTED_PROVIDER" => some "Use a Microsoft account or connect with an app password."
  | "CREDENTIAL_NOT_FOUND" => some "Refresh the list of connected accounts."
  | "MAILBOX_CONNECTION_ERROR" => some "Check the server host, port and network access."
  | "MAILBOX_LOGIN_ERROR" => some "Check the username and password, or reconnect the OAuth account."
  | "RETRIES_EXHAUSTED" => some "The process will automatically resume later."
  | "MESSAGE_PARSE_ERROR" => some "Switch the parse failure policy to 'skip' to continue past it."
  | "CONFIGURATION_ERROR" => some "Check ~/.mailarchive/config.json and MAILARCHIVE_* variables."
  | "ENCRYPTION_ERROR" => some "Check that the encryption key is configured."
  | "KEY_NOT_FOUND" => some "Set MAILARCHIVE_ENCRYPTION_KEY or unlock the OS keychain."
  | "DECRYPTION_ERROR" => some "Check that the encryption key has not changed."
  | "MAILARCHIVE_ERROR" => some "Try again. If the issue persists, check the logs."
  | "UNKNOWN_ERROR" => some "Try again. If the issue persists, check the logs."
  | _ => none

/-- The user-facing sentence of a code, the generic one for an unknown code. -/
def userMessage (code : String) : String :=
  (userMessage? code).getD "Something went wrong. Please try again."

/-- The suggestion of a code, the generic one for an unknown code. -/
def suggestion (code : String) : String :=
  (suggestion? code).getD "Try again. If the issue persists, check the logs."

def secretKeys : List String := ["access_token", "refresh_token", "password", "code_verifier"]

/-- The terminal report of a failure. `code` is the failure's own code, if it has one;
`lookup` is the code its sentence and suggestion are looked up by. -/
def cliReport (code : Option String) (lookup : String) (details : List (String × Json)) :
    String :=
  let head := ["Error [" ++ code.getD "ERROR" ++ "]: " ++ userMessage lookup, "",
    "Suggestion: " ++ suggestion lookup]
  let shown := (details.filter (fun (k, _) => !secretKeys.contains k)).map
    (fun (k, v) => "  " ++ k ++ ": " ++ v.plainText)
  let tail := if details.isEmpty then [] else ["", "Details:"] ++ shown
  String.intercalate "\n" (head ++ tail)

theorem userMessage_known (k : ErrorKind) : (userMessage? k.code).isSome := by
  cases k <;> rfl

theorem suggestion_known (k : ErrorKind) : (suggestion? k.code).isSome := by
  cases k <;> rfl

end MailIngest.Catalogue
