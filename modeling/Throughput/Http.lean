import Throughput.Base64
import Throughput.Url

/-! Posting JSON over the network. -/
namespace Throughput.Http

structure Request where
  url : Url
  /-- The headers of this name, in the order in which they are sent. -/
  authorization : List String
  body : String
  deriving DecidableEq, Repr

def Request.contentType : String := "application/json"

inductive Reply where
  | response (status : Nat) (body : Bytes)
  /-- No answer came: no connection, or it ended early, or time ran out. -/
  | none
  deriving DecidableEq, Repr

structure Exchange (σ : Type) where
  reply : Reply
  milliseconds : Nat
  state : σ

/-- The outside world: its clock and its servers. -/
structure World (σ : Type) where
  /-- Nanoseconds since the start of 1970. -/
  now : σ → UInt64
  exchange : σ → Request → Exchange σ

inductive Error where
  | address (cause : Url.Error)
  /-- Only the two web schemes can be requested. -/
  | scheme (url : String)
  | noReply
  | status (code : Nat) (body : String)
  deriving DecidableEq, Repr

def Error.message : Error → String
  | address cause => "request failed: builder error: " ++ cause.message
  | scheme url => "request failed: builder error for url (" ++ url ++ "): URL scheme is not allowed"
  | noReply => "request failed: no reply"
  | status code body => "unexpected response status " ++ toString code ++ ": " ++ body

def isWeb (u : Url) : Bool := u.scheme == "http" || u.scheme == "https"

def basicAuthorization (username password : String) : String :=
  "Basic " ++ Base64.encode (Text.utf8 (username ++ ":" ++ password))

/-- The user and password that an address names. A user that is no text names nobody, and a
password that is none is left out. -/
def caller? (u : Url) : Option (String × String) :=
  u.authority.bind fun a =>
    (Text.ofUtf8? (Url.decode a.username)).bind fun username =>
      let password := if a.password.isEmpty then none else Text.ofUtf8? (Url.decode a.password)
      if username.isEmpty && password.isNone then none else some (username, password.getD "")

def callerHeader? (u : Url) : Option String :=
  (caller? u).map fun (username, password) => basicAuthorization username password

/-- The caller is named by the header instead. -/
def anonymous (u : Url) : Url := if (caller? u).isSome then u.withoutUser else u

/-- The request to an address. The header for a caller named there comes before any other. -/
def request (address : String) (authorization : Option String) (body : String) :
    Except Error Request :=
  match Url.parse address with
  | .error e => .error (.address e)
  | .ok u =>
    if u.hasHost && isWeb u then
      .ok ⟨anonymous u, (callerHeader? u).toList ++ authorization.toList, body⟩
    else .error (.scheme (anonymous u).render)

/-- Success is any status of the two hundreds. -/
def conclude : Reply → Except Error Unit
  | .none => .error .noReply
  | .response code body =>
    if 200 ≤ code && code < 300 then .ok () else .error (.status code (Text.ofDocument body))

structure Posted (σ : Type) where
  result : Except Error Unit
  milliseconds : Nat
  state : σ

/-- An address that cannot be requested costs no exchange. -/
def post (w : World σ) (state : σ) (address : String) (authorization : Option String)
    (body : String) : Posted σ :=
  match request address authorization body with
  | .error e => ⟨.error e, 0, state⟩
  | .ok r =>
    let x := w.exchange state r
    ⟨conclude x.reply, x.milliseconds, x.state⟩

end Throughput.Http
