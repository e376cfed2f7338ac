import MetricRelay.Text.Cut

namespace MetricRelay

inductive UriError
  | empty
  | tooLong
  | schemeTooLong
  | invalidCharacter
  | invalidAuthority
  | invalidFormat
deriving DecidableEq, Repr

def UriError.message : UriError → String
  | empty => "empty string"
  | tooLong => "uri too long"
  | schemeTooLong => "scheme too long"
  | invalidCharacter => "invalid uri character"
  | invalidAuthority => "invalid authority"
  | invalidFormat => "invalid format"

/-- Who is addressed: credentials, up to the last at sign, and a host with its port. -/
structure Authority where
  userInfo : Option (List Char) := none
  place : List Char
deriving DecidableEq, Repr

structure Uri where
  scheme : Option (List Char) := none
  authority : Option Authority := none
  path : List Char := []
  query : Option (List Char) := none
deriving DecidableEq, Repr

namespace Authority

def ofText (text : List Char) : Authority :=
  let place := (text.reverse.takeWhile (· ≠ '@')).reverse
  if place.length = text.length then ⟨none, text⟩
  else ⟨some (text.take (text.length - place.length - 1)), place⟩

def text (a : Authority) : List Char :=
  match a.userInfo with
  | some info => info ++ '@' :: a.place
  | none => a.place

/-- An address in brackets is a host as it is; any other host ends before a colon. -/
def host (a : Authority) : List Char :=
  match a.place with
  | '[' :: rest => '[' :: (rest.takeWhile (· ≠ ']') ++ [']'])
  | place => place.takeWhile (· ≠ ':')

def maxPort : Nat := 65535

def port? (a : Authority) : Option Nat :=
  let last := (a.place.reverse.takeWhile (· ≠ ':')).reverse
  if last.length = a.place.length then none
  else
    let digits := match last with
      | '+' :: digits => digits
      | digits => digits
    let value := digits.foldl (fun n c ↦ 10 * n + (c.toNat - 48)) 0
    if digits ≠ [] && digits.all Char.isDigit && value ≤ maxPort then some value else none

/-- What a scan of an authority has met: colons that are neither in brackets nor in credentials, brackets, and percent
signs that are in neither of them. -/
structure Scan where
  colons : Nat := 0
  isOpened : Bool := false
  isClosed : Bool := false
  hasPercent : Bool := false
  endsAtSign : Bool := false

def maxColons : Nat := 8

def isPlain (c : Char) : Bool :=
  c.isAlphanum || c = '!' || c = '$' || c = '&' || c = '\'' || c = '(' || c = ')' || c = '*' || c = '+' || c = ',' ||
    c = '-' || c = '.' || c = ';' || c = '=' || c = '_' || c = '~'

def Scan.step (s : Scan) (c : Char) : Except UriError Scan :=
  let s := { s with endsAtSign := c = '@' }
  if c = ':' then if maxColons ≤ s.colons then .error .invalidAuthority else .ok { s with colons := s.colons + 1 }
  else if c = '[' then if s.hasPercent || s.isOpened then .error .invalidAuthority else .ok { s with isOpened := true }
  else if c = ']' then
    if !s.isOpened || s.isClosed then .error .invalidAuthority
    else .ok { s with isClosed := true, colons := 0, hasPercent := false }
  else if c = '@' then .ok { s with colons := 0, hasPercent := false }
  else if c = '%' then .ok { s with hasPercent := true }
  else if isPlain c then .ok s
  else .error .invalidCharacter

/-- One colon at most, before a port; brackets in pairs; a place behind the credentials, without percent signs. -/
def check (text : List Char) : Except UriError Unit := do
  let s ← text.foldlM Scan.step {}
  if s.isOpened ≠ s.isClosed || 1 < s.colons || s.endsAtSign || s.hasPercent then .error .invalidAuthority else .ok ()

end Authority

namespace Uri

def maxLength : Nat := 65534

def maxSchemeLength : Nat := 64

def isPathChar (c : Char) : Bool :=
  let n := c.toNat
  n = 0x21 || n = 0x22 || (0x24 ≤ n && n ≤ 0x3B) || n = 0x3D || (0x40 ≤ n && n ≤ 0x5F) || (0x61 ≤ n && n ≤ 0x7E) ||
    0x7F ≤ n

def isQueryChar (c : Char) : Bool :=
  let n := c.toNat
  n = 0x21 || (0x24 ≤ n && n ≤ 0x3B) || n = 0x3D || 0x3F ≤ n

def readPath (uri : Uri) (text : List Char) : Except UriError Uri :=
  let text := text.takeWhile (· ≠ '#')
  let path := text.takeWhile (· ≠ '?')
  let query := (text.drop path.length).drop 1
  if !path.all isPathChar || !query.all isQueryChar then .error .invalidCharacter
  else .ok { uri with
    path := if path = [] then ['/'] else path
    query := if path.length < text.length then some query else none }

def isSchemeChar (c : Char) : Bool := c.isAlphanum || c = '+' || c = '-' || c = '.' || c = '~'

def lower (text : List Char) : List Char := text.map Char.toLower

def schemeEnd : List Char := "://".toList

def scheme? (text : List Char) : Except UriError (Option (List Char × List Char)) :=
  if lower (text.take 7) = "http://".toList then .ok (some ("http".toList, text.drop 7))
  else if lower (text.take 8) = "https://".toList then .ok (some ("https".toList, text.drop 8))
  else
    let scheme := text.takeWhile isSchemeChar
    let rest := text.drop scheme.length
    if text.length ≤ 3 || !schemeEnd.isPrefixOf rest then .ok none
    else if maxSchemeLength < scheme.length then .error .schemeTooLong
    else .ok (some (scheme, rest.drop schemeEnd.length))

def endsAuthority (c : Char) : Bool := c = '/' || c = '?' || c = '#'

def read (text : String) : Except UriError Uri := do
  let s := text.toList
  if maxLength < text.utf8ByteSize then throw .tooLong
  if s = [] then throw .empty
  if s = ['*'] then return { path := s }
  if s = ['?'] ∨ s = ['#'] then throw .invalidCharacter
  if s.head? = some '/' then return ← readPath {} s
  let scheme ← scheme? s
  let rest := (scheme.map Prod.snd).getD s
  let authority := rest.takeWhile (!endsAuthority ·)
  Authority.check authority
  let uri : Uri := { scheme := scheme.map Prod.fst, authority := some (.ofText authority) }
  if scheme.isNone then
    if authority.length < rest.length then throw .invalidFormat else return uri
  if authority = [] then throw .invalidFormat
  readPath uri (rest.drop authority.length)

def text (u : Uri) : String :=
  String.ofList ((match u.scheme with
      | some scheme => scheme ++ schemeEnd
      | none => []) ++
    (match u.authority with
      | some authority => authority.text
      | none => []) ++
    u.path ++
    match u.query with
      | some query => '?' :: query
      | none => [])

def sanitized (u : Uri) : String :=
  String.ofList ((match u.scheme, u.authority with
      | some scheme, some authority => scheme ++ schemeEnd ++ authority.host ++
        (match authority.port? with
          | some port => ':' :: (toString port).toList
          | none => [])
      | _, _ => []) ++
    u.path)

end Uri
end MetricRelay
