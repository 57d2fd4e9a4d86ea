import Throughput.Url.Host
import Throughput.Url.Path

/-! Absolute addresses: a scheme, an authority, a path, a query and a fragment, as the
living standard for addresses reads and writes them. -/
namespace Throughput

namespace Url

inductive Path where
  | plain (text : List Char)
  | segments (parts : List (List Char))
  deriving DecidableEq, Repr

structure Authority where
  username : List Char
  password : List Char
  host : Host
  port : Option Nat
  deriving DecidableEq, Repr

end Url

structure Url where
  scheme : String
  authority : Option Url.Authority
  path : Url.Path
  query : Option (List Char)
  fragment : Option (List Char)
  deriving DecidableEq, Repr

namespace Url

/-- How the rest of an address is read depends on its scheme. -/
inductive Family where
  | file | special | other
  deriving DecidableEq, Repr

def family (scheme : String) : Family :=
  if scheme == "file" then .file
  else if ["http", "https", "ws", "wss", "ftp"].contains scheme then .special
  else .other

def defaultPort (scheme : String) : Option Nat :=
  [("http", 80), ("ws", 80), ("https", 443), ("wss", 443), ("ftp", 21)].lookup scheme

/-- Without controls and spaces at both ends, and without tabs and line ends. -/
def clean (cs : List Char) : List Char :=
  let front := cs.dropWhile (· ≤ ' ')
  let inner := (front.reverse.dropWhile (· ≤ ' ')).reverse
  inner.filter fun c => c != '\t' && c != '\n' && c != '\r'

def isSchemeChar (c : Char) : Bool := c.isAlphanum || c == '+' || c == '-' || c == '.'

def splitScheme (cs : List Char) : Option (String × List Char) :=
  match cs.span isSchemeChar with
  | (c :: name, ':' :: rest) =>
    if c.isAlpha then some (.ofList ((c :: name).map Char.toLower), rest) else none
  | _ => none

def isSlash (f : Family) (c : Char) : Bool := c == '/' || (f != .other && c == '\\')

def endsAuthority (f : Family) (c : Char) : Bool := isSlash f c || c == '?' || c == '#'

/-- What stands before and after the last at sign, if there is one. -/
def splitUser (cs : List Char) : Option (List Char × List Char) :=
  match (cs.reverse).span (· ≠ '@') with
  | (after, '@' :: before) => some (before.reverse, after.reverse)
  | _ => none

def spanHost (inBrackets : Bool) : List Char → List Char × List Char
  | [] => ([], [])
  | c :: rest =>
    if c = ':' && !inBrackets then ([], c :: rest)
    else
      let (host, after) := spanHost (c = '[' || (inBrackets && c ≠ ']')) rest
      (c :: host, after)

/-- A port below 65536; the one of the scheme is left out. -/
def parsePort (scheme : String) (digits : List Char) : Except Error (Option Nat) :=
  if digits.isEmpty then .ok none
  else
    match digitsOf? 10 digits with
    | none => .error .invalidPort
    | some n =>
      if 65535 < n then .error .invalidPort
      else .ok (if defaultPort scheme = some n then none else some n)

def parseHost (f : Family) (cs : List Char) : Except Error Host :=
  match f with
  | .other => Host.parseOpaque cs
  | _ => if cs.isEmpty then .error .emptyHost else Host.parseDomain cs

def userinfo (cs : List Char) : List Char × List Char :=
  match cs.span (· ≠ ':') with
  | (user, ':' :: password) => (encode .userinfo user, encode .userinfo password)
  | (user, _) => (encode .userinfo user, [])

/-- A port, and what a backslash after it begins where that is no slash. -/
def splitPort (cs : List Char) : List Char × List Char := cs.span (· ≠ '\\')

/-- Host and port after the user was split off, and what of the path they hold. -/
def parseHostAndPort (scheme : String) (user : List Char × List Char) (cs : List Char) :
    Except Error (Authority × List Char) :=
  let (hostText, after) := spanHost false cs
  match parseHost (family scheme) hostText with
  | .error e => .error e
  | .ok host =>
    if host.isEmpty && !after.isEmpty then .error .emptyHost
    else
      let (digits, rest) := splitPort after.tail
      match parsePort scheme digits with
      | .error e => .error e
      | .ok port =>
        if host.isEmpty && !(user.1.isEmpty && user.2.isEmpty) then .error .emptyHost
        else .ok (⟨user.1, user.2, host, port⟩, rest)

/-- An authority. An at sign with nothing before it must have a host after it. -/
def parseAuthority (scheme : String) (atEnd : Bool) (cs : List Char) :
    Except Error (Authority × List Char) :=
  match splitUser cs with
  | none => parseHostAndPort scheme ([], []) cs
  | some ([], rest) =>
    if rest.isEmpty && !atEnd then .error .emptyHost else parseHostAndPort scheme ([], []) rest
  | some (user, rest) => parseHostAndPort scheme (userinfo user) rest

def splitAtAny (marks cs : List Char) : List Char × List Char := cs.span (!marks.contains ·)

structure Tail where
  path : List Char
  query : Option (List Char)
  fragment : Option (List Char)

def splitTail (cs : List Char) : Tail :=
  let (before, fragment) := splitAtAny ['#'] cs
  let (path, query) := splitAtAny ['?'] before
  { path
    query := if query.isEmpty then none else some query.tail
    fragment := if fragment.isEmpty then none else some fragment.tail }

def finish (scheme : String) (authority : Option Authority) (path : Path) (t : Tail) : Url where
  scheme := scheme
  authority := authority
  path := path
  query := t.query.map (encode (if family scheme = .other then .query else .specialQuery))
  fragment := t.fragment.map (encode .fragment)

def readSegments (f : Family) (cs : List Char) : List (List Char) :=
  let segments := addSegments (f = .file) []
    (splitSegments (isSlash f) (encode .path cs))
  if f = .file then dropEmptyFront segments else segments

/-- The path after an authority. Only other schemes may have none at all. -/
def pathAfterAuthority (f : Family) (cs : List Char) : Path :=
  match cs with
  | [] => if f = .other then .segments [] else .segments [[]]
  | c :: rest => .segments (readSegments f (if isSlash f c then rest else c :: rest))

def parseAfterSlashes (scheme : String) (cs : List Char) : Except Error Url :=
  let f := family scheme
  let (authority, rest) := cs.span (!endsAuthority f ·)
  match parseAuthority scheme rest.isEmpty authority with
  | .error e => .error e
  | .ok (authority, more) =>
    let t := splitTail (more ++ rest)
    .ok (finish scheme (some authority) (pathAfterAuthority f t.path) t)

/-- A host of files; the local one is the same as none, and a drive is none. -/
def parseFileHost (cs : List Char) : Except Error Authority :=
  let noHost : Authority := ⟨[], [], .domain [], none⟩
  if cs.isEmpty then .ok noHost
  else
    match Host.parseDomain cs with
    | .error e => .error e
    | .ok host => .ok (if host = .domain "localhost".toList then noHost else ⟨[], [], host, none⟩)

def startsWithDrive : Path → Bool
  | .segments (segment :: _) => isDrive segment
  | _ => false

def parseFile (cs : List Char) : Except Error Url :=
  let noHost : Authority := ⟨[], [], .domain [], none⟩
  let localFile (cs : List Char) : Url :=
    let t := splitTail cs
    finish "file" (some noHost) (pathAfterAuthority .file t.path) t
  match cs with
  | a :: b :: rest =>
    if isSlash .file a && isSlash .file b then
      let (host, after) := rest.span (!endsAuthority .file ·)
      if isDrive host then .ok (localFile rest)
      else
        match parseFileHost host with
        | .error e => .error e
        | .ok authority =>
          let t := splitTail after
          let path := pathAfterAuthority .file t.path
          .ok (finish "file" (some (if startsWithDrive path then noHost else authority)) path t)
    else .ok (localFile cs)
  | cs => .ok (localFile cs)

def parseOther (scheme : String) (cs : List Char) : Except Error Url :=
  match cs with
  | '/' :: '/' :: rest => parseAfterSlashes scheme rest
  | '/' :: rest =>
    let t := splitTail rest
    .ok (finish scheme none (.segments (readSegments .other t.path)) t)
  | cs =>
    let t := splitTail cs
    .ok (finish scheme none (.plain (encode .opaquePath t.path)) t)

def parse (text : String) : Except Error Url :=
  match splitScheme (clean text.toList) with
  | none => .error .relative
  | some (scheme, rest) =>
    match family scheme with
    | .file => parseFile rest
    | .special => parseAfterSlashes scheme (rest.dropWhile (isSlash .special))
    | .other => parseOther scheme rest

def Authority.render (a : Authority) : List Char :=
  let user := a.username ++ (if a.password.isEmpty then [] else ':' :: a.password)
  let port := match a.port with
    | some n => ':' :: (toString n).toList
    | none => []
  (if user.isEmpty then [] else user ++ ['@']) ++ a.host.render ++ port

/-- The path; without an authority it must not start like one. -/
def Path.render (authority : Bool) : Path → List Char
  | plain text => text
  | segments parts =>
    let text := renderPath parts
    if !authority && ['/', '/'].isPrefixOf text then '/' :: '.' :: text else text

def renderMarked (mark : Char) : Option (List Char) → List Char
  | some text => mark :: text
  | none => []

def target (u : Url) : String :=
  .ofList (u.path.render u.authority.isSome ++ renderMarked '?' u.query)

def render (u : Url) : String :=
  .ofList (u.scheme.toList ++ [':'] ++
    (match u.authority with
      | some a => '/' :: '/' :: a.render
      | none => []) ++
    u.path.render u.authority.isSome ++ renderMarked '?' u.query ++ renderMarked '#' u.fragment)

def hasHost (u : Url) : Bool :=
  match u.authority with
  | some a => !a.host.isEmpty
  | none => false

def withoutUser (u : Url) : Url :=
  { u with authority := u.authority.map fun a => { a with username := [], password := [] } }

def effectivePort (u : Url) : Option Nat :=
  (u.authority.bind Authority.port).or (defaultPort u.scheme)

end Url
end Throughput
