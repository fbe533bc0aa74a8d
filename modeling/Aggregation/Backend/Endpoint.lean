import Aggregation.Text.Split

namespace Aggregation.Backend

/-! Addresses of backends.

An address is a scheme, an authority, a path and a query; a fragment is read and
dropped.  An address without a scheme is a path alone or an authority alone, and
cannot be connected to.
-/

inductive EndpointError where
  | empty
  | tooLong
  | schemeTooLong
  | invalidCharacter
  | invalidAuthority
  | invalidFormat
deriving DecidableEq, Repr

def EndpointError.message : EndpointError → String
  | empty => "empty string"
  | tooLong => "uri too long"
  | schemeTooLong => "scheme too long"
  | invalidCharacter => "invalid uri character"
  | invalidAuthority => "invalid authority"
  | invalidFormat => "invalid format"

structure Endpoint where
  scheme : Option String
  authority : String
  path : String
  query : Option String
deriving DecidableEq, Repr

namespace Endpoint

/-- The largest number of bytes in an address. -/
def byteLimit : Nat := 65534

def schemeLimit : Nat := 64

/-- How many colons an authority may have between brackets and other marks. -/
def colonLimit : Nat := 8

def isSchemeChar (c : Char) : Bool :=
  c.isAlphanum || c == '+' || c == '-' || c == '.' || c == '~'

/-- Cuts off a scheme; the two usual ones are recognized in any case. -/
def splitScheme (text : List Char) : Except EndpointError (Option String × List Char) :=
  let starts (expected : String) := (text.take expected.length).map Char.toLower = expected.toList
  if starts "http://" then .ok (some "http", text.drop 7)
  else if starts "https://" then .ok (some "https", text.drop 8)
  else
    let name := text.takeWhile isSchemeChar
    let rest := text.dropWhile isSchemeChar
    if "://".toList.isPrefixOf rest && 3 < text.length then
      if schemeLimit < name.length then .error .schemeTooLong
      else .ok (some (String.ofList name), rest.drop 3)
    else .ok (none, text)

def isAuthorityChar (c : Char) : Bool := c.isAlphanum || "!$&'()*+,-.:;=@[]_~".contains c

/-- What has been seen of an authority since its last `@` or `]`. -/
structure Seen where
  colons : Nat := 0
  opened : Bool := false
  closed : Bool := false
  percent : Bool := false
  /-- Whether the last character was an `@`. -/
  justAfterAt : Bool := false

/-- Looks at one more character.  A percent sign may stand only in what comes
before an `@`, or between brackets. -/
def Seen.step (seen : Seen) (c : Char) : Except EndpointError Seen :=
  let seen := { seen with justAfterAt := false }
  match c with
  | ':' =>
    if colonLimit ≤ seen.colons then .error .invalidAuthority
    else .ok { seen with colons := seen.colons + 1 }
  | '[' =>
    if seen.percent || seen.opened then .error .invalidAuthority
    else .ok { seen with opened := true }
  | ']' =>
    if !seen.opened || seen.closed then .error .invalidAuthority
    else .ok { seen with closed := true, colons := 0, percent := false }
  | '@' => .ok { seen with colons := 0, percent := false, justAfterAt := true }
  | '%' => .ok { seen with percent := true }
  | c => if isAuthorityChar c then .ok seen else .error .invalidCharacter

/-- Whether an authority may end here: brackets are closed, at most one
colon comes after the host, and there is a host. -/
def Seen.isComplete (seen : Seen) : Bool :=
  seen.opened == seen.closed && seen.colons ≤ 1 && !seen.justAfterAt && !seen.percent

def endsAuthority (c : Char) : Bool := c == '/' || c == '?' || c == '#'

/-- Cuts off an authority, which may be empty. -/
def splitAuthority (text : List Char) : Except EndpointError (String × List Char) := do
  let authority := text.takeWhile (!endsAuthority ·)
  let seen ← authority.foldlM Seen.step {}
  if seen.isComplete then
    return (String.ofList authority, text.dropWhile (!endsAuthority ·))
  else .error .invalidAuthority

def isQueryChar (c : Char) : Bool :=
  let code := c.toNat
  code == 0x21 || (0x24 ≤ code && code ≤ 0x3B) || code == 0x3D || (0x3F ≤ code && code != 0x7F)

/-- A path may hold what a query may, but for backquotes, and quotes besides. -/
def isPathChar (c : Char) : Bool :=
  (isQueryChar c && c != '?' && c != Char.ofNat 0x60) || c == '"'

/-- Reads a path and a query, and drops a fragment. -/
def splitPath (text : List Char) : Except EndpointError (String × Option String) :=
  let path := text.takeWhile fun c => c != '?' && c != '#'
  let query := match text.dropWhile fun c => c != '?' && c != '#' with
    | '?' :: rest => some (rest.takeWhile (· != '#'))
    | _ => none
  if path.all isPathChar && (query.getD []).all isQueryChar then
    .ok (String.ofList path, query.map String.ofList)
  else .error .invalidCharacter

/-- Reads an authority that nothing else goes with. -/
def authorityAlone (text : List Char) (otherwise : EndpointError) :
    Except EndpointError Endpoint := do
  let (authority, rest) ← splitAuthority text
  if rest.isEmpty then return ⟨none, authority, "", none⟩ else .error otherwise

def ofChars (text : List Char) : Except EndpointError Endpoint := do
  match text with
  | [] => .error .empty
  | ['*'] => return ⟨none, "", "*", none⟩
  | [c] => if c = '/' then return ⟨none, "", "/", none⟩ else authorityAlone [c] .invalidCharacter
  | '/' :: _ =>
    let (path, query) ← splitPath text
    return ⟨none, "", path, query⟩
  | _ =>
    match ← splitScheme text with
    | (none, _) => authorityAlone text .invalidFormat
    | (some _, []) => .error .empty
    | (some scheme, rest) =>
      let (authority, rest) ← splitAuthority rest
      if authority.isEmpty then .error .invalidFormat
      else
        let (path, query) ← splitPath rest
        return ⟨some scheme, authority, path, query⟩

def ofText (text : String) : Except EndpointError Endpoint :=
  if byteLimit < text.utf8ByteSize then .error .tooLong else ofChars text.toList

/-- The path, which is never empty after a scheme. -/
def pathText (endpoint : Endpoint) : String :=
  if endpoint.path.isEmpty && endpoint.scheme.isSome then "/" else endpoint.path

def text (endpoint : Endpoint) : String :=
  (endpoint.scheme.elim "" (· ++ "://")) ++ endpoint.authority ++ endpoint.pathText ++
    endpoint.query.elim "" ("?" ++ ·)

/-- Whether an address says where to connect to. -/
def isAbsolute (endpoint : Endpoint) : Bool :=
  endpoint.scheme.isSome && !endpoint.authority.isEmpty

end Endpoint

end Aggregation.Backend
