import ChatFlow.Host
import ChatFlow.Text.Base64
import ChatFlow.Text.Integer

/-!
# Addresses

The address of an endpoint in its one form: all of it in ASCII characters, scheme and host in small
letters, no port that the scheme implies, no `.` and `..` in the path. `Address.ofText` reads
one, `Address.text` writes it.
-/

namespace ChatFlow.Endpoint

/-- An address in parts, with escapes where they are needed. -/
structure Address where
  scheme : String := ""
  /-- A name, perhaps with a password after a colon. -/
  userInfo : String := ""
  host : String := ""
  port : Option Int := none
  path : String
  query : Option String := none
  fragment : Option String := none
  deriving DecidableEq, Repr

namespace Address

structure Parts where
  scheme : List Char
  authority : List Char
  path : List Char
  query : Option (List Char)
  fragment : Option (List Char)

def isSchemeChar (c : Char) : Bool := c.isAlphanum || c == '+' || c == '.' || c == '-'

/-- The scheme, which ends with a colon and may be empty, and what follows it. -/
def splitScheme (cs : List Char) : List Char × List Char :=
  match cs.span isSchemeChar with
  | ([], ':' :: r) => ([], r)
  | (c :: s, ':' :: r) => if c.isAlpha then (c :: s, r) else ([], cs)
  | _ => ([], cs)

/-- What follows a mark, if it stands at the start. -/
def after? (mark : Char) : List Char → Option (List Char)
  | c :: cs => if c == mark then some cs else none
  | [] => none

def split (cs : List Char) : Parts :=
  let (scheme, r) := splitScheme cs
  let (authority, r) := match r with
    | '/' :: '/' :: r => r.span fun c => !(c == '/' || c == '?' || c == '#')
    | r => ([], r)
  let (path, r) := r.span fun c => !(c == '?' || c == '#')
  let (query, r) := match after? '?' r with
    | some r => let (query, r) := r.span (· != '#'); (some query, r)
    | none => (none, r)
  ⟨scheme, authority, path, query, after? '#' r⟩

/-- An authority: a name and a password up to the last `@`, a host, and a port. -/
def splitAuthority (cs : List Char) : List Char × List Char × List Char :=
  let (user, r) := match cs.reverse.span (· != '@') with
    | (r, _ :: user) => (user.reverse, r.reverse)
    | (r, []) => ([], r.reverse)
  let (host, port) := match r.head? == some '[', r.reverse.span (· != ']') with
    | true, (port, close :: host) => ((close :: host).reverse, port.reverse)
    | _, _ => r.span (· != ':')
  (user, host, (after? ':' port).getD port)

def impliedPort? (scheme : List Char) : Option Int :=
  match String.ofList scheme with
  | "http" => some 80
  | "ws" => some 80
  | "https" => some 443
  | "wss" => some 443
  | "ftp" => some 21
  | _ => none

/-- A port, unless the scheme implies it. A port has to be a number. -/
def readPort (scheme port : List Char) : Except Fault (Option Int) :=
  if port.isEmpty then .ok none
  else match Text.integer? (String.ofList port) with
    | some n => .ok (if impliedPort? scheme = some n then none else some n)
    | none => .error .notAddress

/-- Resolve the steps `.` and `..` of a path; the pieces done so far stand in reverse. -/
def resolve (done : List (List Char)) : List (List Char) → List (List Char)
  | [] => done.reverse
  | p :: ps =>
    if p == ['.'] then resolve done ps
    else if p == ['.', '.'] then
      resolve (if done == [[]] then done else done.drop 1) ps
    else resolve (p :: done) ps

def segments (path : List Char) : List (List Char) := Host.Label.pieces (· == '/') path

def plainPath (path : List Char) : List Char := ['/'].intercalate (resolve [] (segments path))

/-! ### Safe characters -/

def isPrintableBut (others : List Char) (c : Char) : Bool :=
  32 < c.toNat && c.toNat < 127 && !others.contains c

def isSafeInFragment : Char → Bool := isPrintableBut ['"', '<', '>', '\x60']

def isSafeInQuery : Char → Bool := isPrintableBut ['"', '#', '<', '>']

def isSafeInPath : Char → Bool := isPrintableBut "\"#<>?\x60\x7b\x7d".toList

def isSafeInUserInfo : Char → Bool := isPrintableBut "\"#<>?\x60\x7b\x7d/;=@[\\]^|".toList

/-- A text in ASCII characters, if it can be encoded. -/
def quote (isSafe : Char → Bool) (cs : List Char) : Except Fault String :=
  if Text.isEncodable (String.ofList cs) then .ok (String.ofList (Text.quoteWith isSafe cs))
  else .error .unencodable

def quoteOption (isSafe : Char → Bool) : Option (List Char) → Except Fault (Option String)
  | some cs => (quote isSafe cs).map some
  | none => .ok none

/-! ### Reading -/

def maxLength : Nat := 65536

/-- Whether a path may follow what stands before it. Without a scheme and an authority it must not
look like one of them. -/
def isPathFor (hasScheme hasAuthority : Bool) (path : List Char) : Bool :=
  if hasAuthority then path.isEmpty || path.head? == some '/'
  else hasScheme || !(['/', '/'].isPrefixOf path || path.head? == some ':')

def ofParts (p : Parts) : Except Fault Address := do
  let (user, host, port) := splitAuthority p.authority
  let userInfo ← quote isSafeInUserInfo user
  let host ← Host.ofChars host
  let port ← readPort p.scheme port
  let hasAuthority := !user.isEmpty || !host.isEmpty || port.isSome
  let hasScheme := !p.scheme.isEmpty
  if !isPathFor hasScheme hasAuthority p.path then throw .notAddress
  let path ← quote isSafeInPath (if hasScheme || hasAuthority then plainPath p.path else p.path)
  let query ← quoteOption isSafeInQuery p.query
  let fragment ← quoteOption isSafeInFragment p.fragment
  return ⟨String.ofList (p.scheme.map Char.toLower), userInfo, String.ofList host, port, path,
    query, fragment⟩

def isControl (c : Char) : Bool := c.toNat < 32 || c.toNat == 127

def isAbsolute (a : Address) : Bool := !a.scheme.isEmpty && !a.host.isEmpty

/-- An address without a scheme or a host keeps its path and its query only. In any other one the
host is ASCII, also the zone of a number. -/
def reduced (a : Address) : Except Fault Address :=
  if a.isAbsolute then
    if a.host.toList.all (·.toNat < 128) then .ok a else .error .unencodable
  else
    let path := String.ofList ('/' :: a.path.toList.dropWhile (· == '/'))
    if path.length ≤ maxLength && (a.query.getD "").length ≤ maxLength then
      .ok { path, query := a.query }
    else .error .notAddress

/-- Read an address, which is not too long and has no control characters. -/
def ofText (s : String) : Except Fault Address :=
  if Text.size s > maxLength || s.toList.any isControl then .error .notAddress
  else do reduced (← ofParts (split s.toList))

/-! ### Writing -/

/-- The host with its port. A host with colons stands in brackets. -/
def netLocation (a : Address) : String :=
  (if a.host.contains ':' then "[" ++ a.host ++ "]" else a.host) ++
    match a.port with
    | some n => ":" ++ toString n
    | none => ""

def text (a : Address) : String :=
  let authority := (if a.userInfo.isEmpty then "" else a.userInfo ++ "@") ++ a.netLocation
  (if a.scheme.isEmpty then "" else a.scheme ++ ":") ++
    (if authority.isEmpty then "" else "//" ++ authority) ++ a.path ++
    (match a.query with
      | some q => "?" ++ q
      | none => "") ++
    (match a.fragment with
      | some f => "#" ++ f
      | none => "")

def readable (a : Address) : String := String.ofList (Text.unquote a.text.toList)

/-- The name and the password, unless both are empty. -/
def credentials? (a : Address) : Option (String × String) :=
  let (name, password) := a.userInfo.toList.span (· != ':')
  let plain (cs : List Char) : String := String.ofList (Text.unquote cs)
  let name := plain name
  let password := plain (password.drop 1)
  if name.isEmpty && password.isEmpty then none else some (name, password)

/-- What an address says to show for its name and password. -/
def authorization? (a : Address) : Option String :=
  a.credentials?.map fun (name, password) => "Basic " ++ Text.base64 (name ++ ":" ++ password)

end Address

end ChatFlow.Endpoint
