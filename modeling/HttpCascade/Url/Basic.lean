import HttpCascade.Url.Host
import HttpCascade.Url.Path

/-!
# URLs

Reading a URL into its parts and writing it in normal form. A text is cut in one direction: scheme,
authority, path, query, fragment. A reference without a scheme is only checked; it can fail nowhere
but in an authority of its own.
-/

namespace HttpCascade

namespace Url

/-- What a scheme says about the rest of a URL. -/
inductive SchemeKind where
  | file
  | special (defaultPort : Nat)
  | other
  deriving DecidableEq, Repr

namespace SchemeKind

def ofName (name : Text) : SchemeKind :=
  if name = "file" then file
  else if name = "http" || name = "ws" then special 80
  else if name = "https" || name = "wss" then special 443
  else if name = "ftp" then special 21
  else other

def isSpecial : SchemeKind → Bool
  | other => false
  | _ => true

def defaultPort? : SchemeKind → Option Nat
  | special port => some port
  | _ => none

end SchemeKind

/-- Who is asked: user and password, as they are written, host and port. -/
structure Authority where
  username : Text
  password : Text
  host : Host
  port : Option Nat
  deriving DecidableEq, Repr

namespace Authority

/-- The authority of a file URL that names no host. -/
def none : Authority := ⟨[], [], .name [], Option.none⟩

def hasCredentials (a : Authority) : Bool := a.username ≠ [] || a.password ≠ []

def written (a : Authority) : Text :=
  a.username ++ (if a.password = [] then [] else ':' :: a.password) ++
    (if a.hasCredentials then ['@'] else []) ++ a.host.written ++
    (match a.port with
      | some port => ':' :: Text.ofNat port
      | Option.none => [])

end Authority

end Url

/-- The parts of a URL, each as it is written. -/
structure Url where
  scheme : Text
  authority : Option Url.Authority
  path : Text
  query : Option Text
  fragment : Option Text
  deriving DecidableEq, Repr

namespace Url

/-- The text of a URL. A path that starts with two slashes is kept apart from an authority. -/
def written (u : Url) : Text :=
  u.scheme ++ [':'] ++
    (match u.authority with
      | some a => '/' :: '/' :: a.written
      | none => if ['/', '/'].isPrefixOf u.path then ['/', '.'] else []) ++
    u.path ++
    (match u.query with
      | some q => '?' :: q
      | none => []) ++
    (match u.fragment with
      | some f => '#' :: f
      | none => [])

/-! ### Cutting -/

/-- The text without control characters and spaces around it and without tabs and line breaks in
it. -/
def clean (t : Text) : Text :=
  let outer := fun (c : Char) => c.toNat ≤ 0x20
  let inner := ((t.dropWhile outer).reverse.dropWhile outer).reverse
  inner.filter fun c => c ≠ '\t' && c ≠ '\n' && c ≠ '\r'

/-- A character of a scheme after the first. -/
def isSchemeChar (c : Char) : Bool := c.isAlphanum || c == '+' || c == '-' || c == '.'

/-- The scheme in lower case and what follows its colon. -/
def splitScheme (t : Text) : Option (Text × Text) :=
  if (t.head?.map Char.isAlpha).getD false then
    match t.dropWhile isSchemeChar with
    | ':' :: rest => some ((t.takeWhile isSchemeChar).map Char.toLower, rest)
    | _ => none
  else none

/-- Where the authority ends. -/
def endsAuthority (special : Bool) (c : Char) : Bool :=
  c == '/' || c == '?' || c == '#' || (special && c == '\\')

/-- The text up to the last `@` and the text after it. -/
def splitCredentials (t : Text) : Option (Text × Text) :=
  if '@' ∈ t then
    let reversed := t.reverse
    some (((reversed.dropWhile (· ≠ '@')).drop 1).reverse, (reversed.takeWhile (· ≠ '@')).reverse)
  else none

/-- The host part of an authority: up to a colon outside brackets. -/
def takeHost (inBrackets : Bool) : Text → Text
  | [] => []
  | c :: rest =>
    if c == ':' && !inBrackets then []
    else c :: takeHost (if c == '[' then true else if c == ']' then false else inBrackets) rest

/-- The port that digits stand for; none if there are no digits or it is the scheme's own. -/
def readPort (kind : SchemeKind) (digits : Text) : Except UrlError (Option Nat) :=
  if digits = [] then .ok none
  else
    match digitsValue? 10 digits with
    | some port =>
      if port > 65535 then .error .invalidPort
      else .ok (if kind.defaultPort? == some port then none else some port)
    | none => .error .invalidPort

/-- The host and port of an authority without its credentials. -/
def readHostAndPort (kind : SchemeKind) (t : Text) : Except UrlError (Host × Option Nat) := do
  let hostText := takeHost false t
  if kind.isSpecial && hostText = [] then throw .emptyHost
  let host ← if kind.isSpecial then Host.ofDomain hostText else Host.ofText hostText
  match t.drop hostText.length with
  | [] => pure (host, none)
  | _ :: afterColon =>
    if host = .name [] then throw .emptyHost
    -- A backslash ends a port in every scheme.
    let port ← readPort kind (afterColon.takeWhile (· ≠ '\\'))
    pure (host, port)

/-- The authority that a text starts with and what follows it. -/
def readAuthority (kind : SchemeKind) (t : Text) : Except UrlError (Authority × Text) := do
  let extent := t.takeWhile fun c => !endsAuthority kind.isSpecial c
  let rest := t.drop extent.length
  let (credentials, hostAndPort) := (splitCredentials extent).getD ([], extent)
  if '@' ∈ extent && credentials = [] && hostAndPort = [] && rest ≠ [] then throw .emptyHost
  let (username, password) := (credentials.splitOnce ':').getD (credentials, [])
  let (host, port) ← readHostAndPort kind hostAndPort
  let authority : Authority :=
    { username := Percent.encode Percent.inCredentials username
      password := Percent.encode Percent.inCredentials password
      host, port }
  if host = .name [] && authority.hasCredentials then throw .emptyHost
  -- Where a backslash ended the port, the path starts with it.
  let afterHost := hostAndPort.drop (takeHost false hostAndPort).length
  pure (authority, afterHost.dropWhile (· ≠ '\\') ++ rest)

/-- The query and fragment at the end of a URL. -/
def readEnding (special : Bool) (t : Text) : Option Text × Option Text :=
  let encodeQuery := Percent.encode (if special then Percent.inSpecialQuery else Percent.inQuery)
  let fragment := match t.dropWhile (· ≠ '#') with
    | _ :: f => some (Percent.encode Percent.inFragment f)
    | [] => none
  match t with
  | '?' :: q => (some (encodeQuery (q.takeWhile (· ≠ '#'))), fragment)
  | _ => (none, fragment)

/-- The part of a text that a path takes up, and the rest. -/
def splitPath (t : Text) : Text × Text := t.span fun c => c ≠ '?' && c ≠ '#'

def isSlash (c : Char) : Bool := c == '/' || c == '\\'

/-! ### Reading -/

/-- The rest of a URL after the two slashes that announce an authority. -/
def readAfterSlashes (scheme : Text) (kind : SchemeKind) (t : Text) : Except UrlError Url := do
  let (authority, rest) ← readAuthority kind t
  let (pathText, ending) := splitPath rest
  let path :=
    if kind.isSpecial then
      (Path.build false true ['/'] (if (pathText.head?.map isSlash).getD false then pathText.drop 1
        else pathText)).1
    else if pathText = [] then []
    else if pathText.head? == some '/' then (Path.build false false [] pathText).1
    else (Path.build false false ['/'] pathText).1
  let (query, fragment) := readEnding kind.isSpecial ending
  pure { scheme, authority := some authority, path, query, fragment }

/-- The rest of a URL whose scheme is neither special nor `file`. -/
def readOther (scheme t : Text) : Except UrlError Url :=
  match t with
  | '/' :: '/' :: rest => readAfterSlashes scheme .other rest
  | _ =>
    let (pathText, ending) := splitPath t
    let path :=
      match pathText with
      | '/' :: rest => (Path.build false false ['/'] rest).1
      | _ => Percent.encode Percent.inPlainPart pathText
    let (query, fragment) := readEnding false ending
    .ok { scheme, authority := none, path, query, fragment }

/-- The host of a file URL; a drive is not a host, and `localhost` is none. -/
def readFileHost (t : Text) : Except UrlError Host :=
  if t = [] then .ok (.name [])
  else
    match Host.ofDomain t with
    | .ok host => .ok (if host = .name "localhost" then .name [] else host)
    | .error e => .error e

/-- The rest of a file URL. -/
def readFile (scheme t : Text) : Except UrlError Url := do
  match t with
  | first :: second :: rest =>
    if isSlash first && isSlash second then
      let extent := rest.takeWhile fun c => !(isSlash c || c == '?' || c == '#')
      if Path.isDrive extent then
        finish (.name []) ['/'] rest
      else
        let host ← readFileHost extent
        let rest := rest.drop extent.length
        if host = .name [] then finish host [] rest
        else finish host ['/'] (if (rest.head?.map isSlash).getD false then rest.drop 1 else rest)
    else withoutHost
  | _ => withoutHost
where
  finish (host : Host) (start t : Text) : Except UrlError Url :=
    let (pathText, ending) := splitPath t
    let (path, dropsHost) := Path.build true true start pathText
    let host := if dropsHost then .name [] else host
    let (query, fragment) := readEnding true ending
    .ok { scheme, authority := some { Authority.none with host }, path, query, fragment }
  withoutHost : Except UrlError Url :=
    finish (.name []) (if (t.head?.map isSlash).getD false then [] else ['/']) t

/-- Reads an absolute URL. -/
def parse (t : Text) : Except UrlError Url :=
  match splitScheme (clean t) with
  | none => .error .relative
  | some (scheme, rest) =>
    match SchemeKind.ofName scheme with
    | .file => readFile scheme rest
    | .special port => readAfterSlashes scheme (.special port) (rest.dropWhile isSlash)
    | .other => readOther scheme rest

/-- Checks a reference to be read beside an `http` URL. -/
def checkReference (t : Text) : Except UrlError Unit :=
  match clean t with
  | '/' :: '/' :: rest => (readAfterSlashes "http" (.special 80) rest).map fun _ => ()
  | first :: second :: rest =>
    if isSlash first && isSlash second then
      (readAfterSlashes "http" (.special 80) (rest.dropWhile isSlash)).map fun _ => ()
    else .ok ()
  | _ => .ok ()

/-- A URL, or a reference that could be one beside a base: `{{host}}/users` passes, and
so does any text that has no scheme and no authority. -/
def validate (t : Text) : Except UrlError Unit :=
  match parse t with
  | .ok _ => .ok ()
  | .error .relative => checkReference t
  | .error e => .error e

end Url

end HttpCascade
