import Throughput.Json.Printer
import Throughput.Json.Record

/-! The autoscaler's endpoint, and how a client proves to it who it is. -/
namespace Throughput

inductive AuthMode where
  | basic | mtls | none
  deriving DecidableEq, Repr

namespace AuthMode

def label : AuthMode → String
  | basic => "basic"
  | mtls => "mtls"
  | none => "none"

def all : List AuthMode := [basic, mtls, none]

def ofLabel (s : String) : Except Json.Error AuthMode :=
  match all.find? (·.label == s) with
  | some mode => .ok mode
  | Option.none => .error (.unknownVariant s (all.map label))

def render (mode : AuthMode) : String := (Json.Value.text mode.label).render

def readLabel (s : List Char) : Json.Taken AuthMode s :=
  match Json.readText s with
  | .error e => .error e
  | .ok (label, r) =>
    match ofLabel label with
    | .ok mode => .ok (mode, r)
    | .error e => .error e

def readVariant (s : List Char) : Json.Taken AuthMode s :=
  Json.Taken.afterBlank <|
    match Json.skipBlank s with
    | [] => .error .endOfValue
    | c :: rest =>
      if c = '"' then
        match readLabel rest with
        | .error e => .error e
        | .ok (mode, r) =>
          match Json.readAfterColon readUnit r.val with
          | .error e => .error e
          | .ok ((), last) => .ok (mode, (Json.Rest.tail c rest).outside (r.outside last))
      else .error (Json.mismatch "variant identifier" (c :: rest))
where
  readUnit (s : List Char) : Json.Taken Unit s :=
    Json.Taken.afterBlank <|
      match Json.skipBlank s with
      | [] => .error .endOfValue
      | c :: rest =>
        if c = 'n' then
          match Json.readScalar (c :: rest) with
          | .ok (_, r) => .ok ((), r)
          | .error e => .error e
        else .error (Json.mismatch "unit" (c :: rest))

def readVariantEnd (s : List Char) : Except Json.Error (Json.Rest s) :=
  match h : Json.skipBlank s with
  | [] => .error .endOfObject
  | c :: _ => if c = Text.closeBrace then .ok (.afterBlank h) else .error .expectedValue

/-- A mode is its label, or an object with the label as its one name. -/
def read (s : List Char) : Json.Taken AuthMode s :=
  Json.Taken.afterBlank <|
    match Json.skipBlank s with
    | [] => .error .endOfValue
    | c :: rest =>
      if c = '"' then (readLabel rest).outside (.tail c rest)
      else if c = Text.openBrace then
        match readVariant rest with
        | .error e => .error e
        | .ok (mode, r) =>
          match readVariantEnd r.val with
          | .ok last => .ok (mode, (Json.Rest.tail c rest).outside (r.outside last))
          | .error e => .error e
      else .error .expectedValue

def parse (text : String) : Except Json.Error AuthMode := Json.readDocument read text

end AuthMode

structure Endpoint where
  url : Option String := none
  username : Option String := none
  password : Option String := none
  mtlsUrl : Option String := none
  deriving DecidableEq, Repr

namespace Endpoint

def empty : Endpoint := {}

def basic (url username password : String) : Endpoint := ⟨some url, some username, some password, none⟩

def mtls (url : String) : Endpoint := { mtlsUrl := some url }

def hasBasic (e : Endpoint) : Bool := e.url.isSome && e.username.isSome && e.password.isSome

def hasMtls (e : Endpoint) : Bool := e.mtlsUrl.isSome

/-- Basic authentication wins where both are possible. -/
def authMode (e : Endpoint) : AuthMode :=
  if e.hasBasic then .basic else if e.hasMtls then .mtls else .none

theorem hasBasic_of_authMode {e : Endpoint} (mode : e.authMode = .basic) : e.hasBasic = true := by
  unfold authMode at mode
  split at mode
  · assumption
  · split at mode <;> cases mode

def baseUrl (e : Endpoint) : Option String :=
  match e.authMode with
  | .basic => e.url
  | .mtls => e.mtlsUrl
  | .none => none

abbrev shape : Json.Shape where
  name := "AutoscalerEndpoint"
  fields := [⟨"url", .optionalText⟩, ⟨"username", .optionalText⟩, ⟨"password", .optionalText⟩,
    ⟨"mtls_url", .optionalText⟩]

def ofRow : Json.Row shape.fields → Endpoint
  | (url, username, password, mtlsUrl, ()) => ⟨url, username, password, mtlsUrl⟩

def parse (text : String) : Except Json.Error Endpoint := (shape.parse text).map ofRow

def toJson (e : Endpoint) : Json.Value :=
  .object [("url", .optional e.url), ("username", .optional e.username),
    ("password", .optional e.password), ("mtls_url", .optional e.mtlsUrl)]

def render (e : Endpoint) : String := e.toJson.render

end Endpoint
end Throughput
