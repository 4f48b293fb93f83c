import Kperf.Library.ErrorTree
import Kperf.Library.Text
import Kperf.Types.Metric

/-! Classification of request errors. The dynamic types that the source tests
for are the constructors of `ErrorKind`; the predicates of `apierrors` and the
names of HTTP/2 error codes come from packages outside the repository and are
parameters. -/

set_option autoImplicit false

namespace Kperf.Metrics

inductive Sentinel where
  | eof
  | unexpectedEOF
  | retryable
  | alreadyExists
  deriving DecidableEq, Repr

inductive ErrorKind where
  | http2ConnectionError (code : Nat)
  | http2StreamError (code : Nat)
  | http2GoAwayError (code : Nat) (debugData : String)
  | apiStatus (code : Int)
  | errno (number : Nat)
  | netError (timeout : Bool)
  | sentinel (identity : Sentinel)
  | other
  deriving DecidableEq, Repr

/-- One error of a chain: its dynamic type and its `Error()`. -/
structure ErrorValue where
  kind : ErrorKind
  message : String
  deriving DecidableEq, Repr

abbrev GoError := ErrorTree ErrorValue

def GoError.error (err : GoError) : String := err.value.message

def GoError.isSentinel (identity : Sentinel) (err : GoError) : Bool :=
  err.is (·.kind == .sentinel identity)

def GoError.wrap (context : String) (err : GoError) : GoError :=
  ErrorTree.wrap ⟨.other, context ++ err.error⟩ err

inductive APIPredicate where
  | badRequest | unauthorized | forbidden | notFound | methodNotSupported | notAcceptable
  | alreadyExists | gone | requestEntityTooLarge | unsupportedMediaType | invalid
  | tooManyRequests | internalError | serviceUnavailable | timeout | resourceExpired
  deriving DecidableEq, Repr

/-- What the packages outside the repository answer about an error. -/
structure ErrorLibrary where
  is : APIPredicate → GoError → Bool
  codeString : Nat → String

/-- `errors.As` with a pointer to the type a kind stands for. The assertion
before it in the source is the first step of the same search. -/
def asConnectionError : ErrorValue → Option Nat
  | ⟨.http2ConnectionError code, _⟩ => some code
  | _ => none

def asStreamError : ErrorValue → Option Nat
  | ⟨.http2StreamError code, _⟩ => some code
  | _ => none

def asGoAwayError : ErrorValue → Option (Nat × String)
  | ⟨.http2GoAwayError code debugData, _⟩ => some (code, debugData)
  | _ => none

def asAPIStatus : ErrorValue → Option Int
  | ⟨.apiStatus code, _⟩ => some code
  | _ => none

def asErrno : ErrorValue → Option Nat
  | ⟨.errno number, _⟩ => some number
  | _ => none

def eagain : Nat := 11
def econnreset : Nat := 104
def etimedout : Nat := 110
def econnrefused : Nat := 111

def asNetError : ErrorValue → Option Bool
  | ⟨.netError timeout, _⟩ => some timeout
  | ⟨.errno number, _⟩ => some (number == eagain || number == etimedout)
  | _ => none

/-- The codes `codeFromHTTP` tries, in the order of its cases. -/
def httpCodes : List (APIPredicate × Int) :=
  [(.badRequest, 400), (.unauthorized, 401), (.forbidden, 403), (.notFound, 404),
    (.methodNotSupported, 405), (.notAcceptable, 406), (.alreadyExists, 409), (.gone, 410),
    (.requestEntityTooLarge, 413), (.unsupportedMediaType, 415), (.invalid, 422),
    (.tooManyRequests, 429), (.internalError, 500), (.serviceUnavailable, 503), (.timeout, 504)]

section

variable (library : ErrorLibrary) (err : GoError)

def codeFromHTTP : Int :=
  match httpCodes.find? fun entry => library.is entry.1 err with
  | some (_, code) => code
  | none => (err.as asAPIStatus).getD 0

def errHTTP2ClientConnectionLost : String := "http2: client connection lost"

def errTLSHandshakeTimeout : String := "net/http: TLS handshake timeout"

def isHTTP2Error : Option String :=
  match err.as asConnectionError, err.as asStreamError, err.as asGoAwayError with
  | some code, _, _ => some (library.codeString code)
  | none, some code, _ => some (library.codeString code)
  | none, none, some (code, debugData) =>
      some ("http2: server sent GOAWAY and closed the connection; ErrCode=" ++
        library.codeString code ++ ", debug=" ++ debugData)
  | none, none, none =>
      if Text.contains err.error errHTTP2ClientConnectionLost then some errHTTP2ClientConnectionLost
      else none

def isTimeoutError : Bool := (err.as asNetError).getD false

def isConnectionRefused : Bool := err.as asErrno == some econnrefused

def isConnectionResetByPeer : Bool := err.as asErrno == some econnreset

def isConnectionError : Option String :=
  if isTimeoutError err then some err.error
  else if isConnectionRefused err then some "connection refused"
  else if isConnectionResetByPeer err then some "connection reset by peer"
  else if err.isSentinel .unexpectedEOF then some "unexpected EOF"
  else if err.isSentinel .eof then some "EOF"
  else if Text.contains err.error errTLSHandshakeTimeout then some errTLSHandshakeTimeout
  else none

end

end Kperf.Metrics
