import AsyncNats.Operations.Basic
import AsyncNats.Shared.Basic

/-! # Error objects

A `ConnectionError` or `RequestError` shares a counted Rust error with its copies and keeps
the text of the error once it was asked for. What its special members do to the pointer is what
all shared objects do; this module adds the errors behind the pointers and the kept texts. The
client's errors are a parameter.
-/

namespace AsyncNats.Errors

open Sync Ownership Transition

/-- `async_nats::ConnectErrorKind`. -/
inductive ConnectErrorKind where
  | serverParse
  | dns
  | authentication
  | authorizationViolation
  | timedOut
  | tls
  | io
  deriving DecidableEq, Repr

/-- `async_nats::RequestErrorKind`. -/
inductive RequestErrorKind where
  | timedOut
  | noResponders
  | other
  deriving DecidableEq, Repr

/-- `AsyncNatsConnectErrorKind` and `AsyncNatsRequestErrorKind`. -/
inductive ErrorKind where
  | connectServerParse
  | connectDns
  | connectAuthentication
  | connectAuthorizationViolation
  | connectTimedOut
  | connectTls
  | connectIo
  | requestTimedOut
  | requestNoResponders
  | requestOther
  deriving DecidableEq, Repr

/-- What is used of the client's errors: their text and their kind, as an error of `connect`
or of a request. -/
structure ClientErrors (Error : Type) where
  describe : Error → Bytes
  connectKind : Error → ConnectErrorKind
  requestKind : Error → RequestErrorKind

variable {Error : Type}

/-- `async_nats_connection_error_kind`. -/
def connectionErrorKind : ConnectErrorKind → ErrorKind
  | .serverParse => .connectServerParse
  | .dns => .connectDns
  | .authentication => .connectAuthentication
  | .authorizationViolation => .connectAuthorizationViolation
  | .timedOut => .connectTimedOut
  | .tls => .connectTls
  | .io => .connectIo

/-- `async_nats_request_error_kind`. -/
def requestErrorKind : RequestErrorKind → ErrorKind
  | .timedOut => .requestTimedOut
  | .noResponders => .requestNoResponders
  | .other => .requestOther

/-- The kind function of a class. -/
def ClientErrors.kind (client : ClientErrors Error) (error : Error) :
    Shared.Class → Option ErrorKind
  | .connectionError => some (connectionErrorKind (client.connectKind error))
  | .requestError => some (requestErrorKind (client.requestKind error))
  | .message | .headersView => none

/-- `std::optional<OwnedString>`. A string object that was moved from has no text. -/
abbrev Cache := Option (Option CString)

/-- The objects with their counters, the Rust errors in the order in which they were made, and
`str_` of each object. -/
structure State (Error : Type) where
  shared : Shared.State
  errors : List Error
  str : ObjectId → Cache

/-- Moving a `std::optional` leaves it as engaged as it was. -/
def moveStr (str : ObjectId → Cache) (source target : ObjectId) : ObjectId → Cache :=
  Function.update (Function.update str target (str source)) source
    ((str source).map fun _ => none)

namespace State

def init : State Error where
  shared := Shared.State.init
  errors := []
  str := fun _ => none

/-- The live Rust error of an object. -/
def error (state : State Error) (object : ObjectId) : Option Error :=
  (Wrappers.raw state.shared.objects object).bind fun pointer =>
    (state.shared.counters.lookup pointer).bind fun _ => state.errors[pointer]?

/-- The constructors from a new Rust error. -/
def construct (state : State Error) (object : ObjectId) (kind : Shared.Class) (error : Error) :
    Option (State Error) :=
  if kind = .connectionError ∨ kind = .requestError then
    (state.shared.construct object kind).map fun shared =>
      { shared
        errors := state.errors ++ [error]
        str := Function.update state.str object none }
  else none

/-- The copy constructors. -/
def copyConstruct (state : State Error) (source object : ObjectId) : Option (State Error) :=
  (state.shared.copyConstruct source object).map fun shared =>
    { state with shared, str := Function.update state.str object none }

/-- The move constructors. -/
def moveConstruct (state : State Error) (source object : ObjectId) : Option (State Error) :=
  (state.shared.moveConstruct source object).map fun shared =>
    { state with shared, str := moveStr state.str source object }

/-- The copy assignments. They do not touch `str_`. -/
def copyAssign (state : State Error) (target source : ObjectId) : Option (State Error) :=
  (state.shared.copyAssign target source).map fun shared => { state with shared }

/-- The move assignments. -/
def moveAssign (state : State Error) (target source : ObjectId) : Option (State Error) :=
  (state.shared.moveAssign target source).map fun shared =>
    { state with
      shared, str := if target = source then state.str else moveStr state.str source target }

/-- `kind()`. -/
def kind (client : ClientErrors Error) (state : State Error) (object : ObjectId) :
    Option ErrorKind :=
  match state.shared.objects.lookup object with
  | some wrapper => (state.error object).bind fun error => client.kind error wrapper.kind
  | none => none

/-- `what()`, of an object that was not moved from: the pointer it returns, and what it keeps.
Making a C string of the text may panic. -/
def what (client : ClientErrors Error) (state : State Error) (object : ObjectId) :
    Option (Option CString × State Error) :=
  match Wrappers.raw state.shared.objects object, state.str object with
  | none, _ => none
  | some _, some text => some (text, state)
  | some _, none =>
    (state.error object).bind fun error =>
      (Operations.cstringNew (client.describe error)).map fun text =>
        (some text, { state with str := Function.update state.str object (some (some text)) })

/-- The destructors. -/
def destroy (state : State Error) (object : ObjectId) : Option (State Error) :=
  (state.shared.destroy object).map fun shared =>
    { state with shared, str := Function.update state.str object none }

end State

inductive Event (Error : Type) where
  | construct (object : ObjectId) (kind : Shared.Class) (error : Error)
  | copyConstruct (source object : ObjectId)
  | moveConstruct (source object : ObjectId)
  | copyAssign (target source : ObjectId)
  | moveAssign (target source : ObjectId)
  | kind (object : ObjectId)
  | what (object : ObjectId)
  | destroy (object : ObjectId)

def step (client : ClientErrors Error) (state : State Error) :
    Event Error → Option (State Error)
  | .construct object kind error => state.construct object kind error
  | .copyConstruct source object => state.copyConstruct source object
  | .moveConstruct source object => state.moveConstruct source object
  | .copyAssign target source => state.copyAssign target source
  | .moveAssign target source => state.moveAssign target source
  | .kind object => (state.kind client object).map fun _ => state
  | .what object => (state.what client object).map Prod.snd
  | .destroy object => state.destroy object

def system (client : ClientErrors Error) : System (State Error) (Event Error) where
  init := State.init
  step := step client

end AsyncNats.Errors
