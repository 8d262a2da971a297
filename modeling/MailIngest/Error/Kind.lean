/-!
# The error taxonomy

Every failure the library reports has a kind. Kinds form a tree under `general`: token
lifecycle problems under `authorization`, transport problems under `connection`, vault problems
under `encryption`. A kind fixes a stable code, the name callers know it by, a default message
and whether retrying later can help; a kind without its own flag takes its parent's.

The main statements are `ancestors_head` (a kind is the first of its own ancestors) and
`ancestors_last` (every chain ends at `general`).
-/

namespace MailIngest

/-- The kinds of failure, one per node of the taxonomy. -/
inductive ErrorKind where
  | general
  | authorization
  | authExchange
  | tokenRefresh
  | noRefreshToken
  | refreshRejected
  | pendingExpired
  | unauthorized
  | unsupportedProvider
  | credentialNotFound
  | connection
  | login
  | retriesExhausted
  | messageParse
  | configuration
  | encryption
  | keyNotFound
  | decryption
deriving DecidableEq, Repr, Inhabited

namespace ErrorKind

def all : List ErrorKind :=
  [general, authorization, authExchange, tokenRefresh, noRefreshToken, refreshRejected,
   pendingExpired, unauthorized, unsupportedProvider, credentialNotFound, connection, login,
   retriesExhausted, messageParse, configuration, encryption, keyNotFound, decryption]

def parent : ErrorKind → Option ErrorKind
  | general => none
  | authorization | connection | messageParse | configuration | encryption => some general
  | authExchange | tokenRefresh | pendingExpired | unauthorized | unsupportedProvider
  | credentialNotFound => some authorization
  | noRefreshToken | refreshRejected => some tokenRefresh
  | login | retriesExhausted => some connection
  | keyNotFound | decryption => some encryption

def depth : ErrorKind → Nat
  | general => 0
  | authorization | connection | messageParse | configuration | encryption => 1
  | authExchange | tokenRefresh | pendingExpired | unauthorized | unsupportedProvider
  | credentialNotFound | login | retriesExhausted | keyNotFound | decryption => 2
  | noRefreshToken | refreshRejected => 3

def ancestors (k : ErrorKind) : List ErrorKind :=
  match k with
  | general => [general]
  | authorization | connection | messageParse | configuration | encryption => [k, general]
  | authExchange | tokenRefresh | pendingExpired | unauthorized | unsupportedProvider
  | credentialNotFound => [k, authorization, general]
  | login | retriesExhausted => [k, connection, general]
  | keyNotFound | decryption => [k, encryption, general]
  | noRefreshToken | refreshRejected => [k, tokenRefresh, authorization, general]

def code : ErrorKind → String
  | general => "MAILARCHIVE_ERROR"
  | authorization => "AUTHORIZATION_ERROR"
  | authExchange => "AUTH_EXCHANGE_ERROR"
  | tokenRefresh => "TOKEN_REFRESH_ERROR"
  | noRefreshToken => "NO_REFRESH_TOKEN"
  | refreshRejected => "REFRESH_REJECTED"
  | pendingExpired => "PENDING_AUTH_EXPIRED"
  | unauthorized => "UNAUTHORIZED"
  | unsupportedProvider => "UNSUPPORTED_PROVIDER"
  | credentialNotFound => "CREDENTIAL_NOT_FOUND"
  | connection => "MAILBOX_CONNECTION_ERROR"
  | login => "MAILBOX_LOGIN_ERROR"
  | retriesExhausted => "RETRIES_EXHAUSTED"
  | messageParse => "MESSAGE_PARSE_ERROR"
  | configuration => "CONFIGURATION_ERROR"
  | encryption => "ENCRYPTION_ERROR"
  | keyNotFound => "KEY_NOT_FOUND"
  | decryption => "DECRYPTION_ERROR"

def name : ErrorKind → String
  | general => "MailArchiveError"
  | authorization => "AuthorizationError"
  | authExchange => "AuthExchangeError"
  | tokenRefresh => "TokenRefreshError"
  | noRefreshToken => "NoRefreshTokenError"
  | refreshRejected => "RefreshRejectedError"
  | pendingExpired => "PendingAuthorizationExpiredError"
  | unauthorized => "UnauthorizedError"
  | unsupportedProvider => "UnsupportedProviderError"
  | credentialNotFound => "CredentialNotFoundError"
  | connection => "MailboxConnectionError"
  | login => "MailboxLoginError"
  | retriesExhausted => "RetriesExhaustedError"
  | messageParse => "MessageParseError"
  | configuration => "ConfigurationError"
  | encryption => "EncryptionError"
  | keyNotFound => "KeyNotFoundError"
  | decryption => "DecryptionError"

def ofName? (s : String) : Option ErrorKind := all.find? (fun k => k.name = s)

def defaultMessage : ErrorKind → String
  | general => "An unexpected error occurred"
  | authorization => "Authorization failed"
  | authExchange => "Authorization code exchange failed"
  | tokenRefresh => "Token refresh failed"
  | noRefreshToken => "No refresh token is stored for this credential"
  | refreshRejected => "The provider rejected the refresh token"
  | pendingExpired => "Invalid or expired state parameter"
  | unauthorized => "Authentication required"
  | unsupportedProvider => "Unsupported OAuth provider"
  | credentialNotFound => "OAuth credential not found"
  | connection => "Mail server connection failed"
  | login => "Mail server rejected the login"
  | retriesExhausted => "Mail server operation failed after all retries"
  | messageParse => "Message could not be parsed"
  | configuration => "Configuration error"
  | encryption => "Encryption failed"
  | keyNotFound => "Encryption key not found"
  | decryption => "Decryption failed"

/-- Whether trying again later can succeed: transient token refresh and transport problems. -/
def recoverable : ErrorKind → Bool
  | general | tokenRefresh | connection | retriesExhausted => true
  | _ => false

def isA (k a : ErrorKind) : Bool := k.ancestors.contains a

theorem ancestors_head (k : ErrorKind) : k.ancestors.head? = some k := by
  cases k <;> rfl

theorem ancestors_last (k : ErrorKind) : k.ancestors.getLast? = some general := by
  cases k <;> rfl

theorem ancestors_length (k : ErrorKind) : k.ancestors.length = k.depth + 1 := by
  cases k <;> rfl

end ErrorKind

end MailIngest
