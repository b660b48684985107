import MeterFeed.Hostname.Basic
import MeterFeed.Text.Numeral

/-!
# References

A reference is what a request names its target by: a scheme and a colon, two slashes and an
authority, a path, a question mark and a query, and a number sign and a fragment, of which every
part may be missing. An authority is a user and an at sign, a host, and a colon and a port.

`Reference.read` takes a reference apart and refuses those that do not lead anywhere. A reference
with a scheme and a host leads to its path, and its host must be one that can be both sent and
shown; any other one is followed from the root, and its scheme and its authority do not count. Its
fragment counts for nothing unless it is sent on from there.
-/

namespace MeterFeed

inductive BadReference where
  | tooLong
  | unprintable (c : Char) (position : Nat)
  | badHost (e : BadHostname)
  | badPort (text : String)
  | doubleSlash
  | leadingColon
  /-- A path that is followed from the root is too long as it is sent. -/
  | longPath
  | longQuery
  | unreadable (e : Hostname.Unreadable)
  /-- The zone of an address has characters beyond ASCII, so many from a position on. -/
  | wideZone (c : Char) (position count : Nat)
  | unknownScheme (scheme : String)
  deriving DecidableEq, Repr

/-- A character beyond ASCII by its code. -/
def codeOf (c : Char) : String :=
  String.ofList (Quoted.backslash ::
    (if c.toNat < 0x100 then 'x' :: Quoted.hex 2 c.toNat
    else if c.toNat < 0x10000 then 'u' :: Quoted.hex 4 c.toNat
    else 'U' :: Quoted.hex 8 c.toNat))

def beyondAscii (c : Char) (position count : Nat) : String :=
  "'ascii' codec can't encode character" ++
    (if count = 1 then " '" ++ codeOf c ++ "' in position " ++ toString position
    else "s in position " ++ toString position ++ "-" ++ toString (position + count - 1)) ++
    ": ordinal not in range(128)"

def BadReference.message : BadReference → String
  | .tooLong => "URL too long"
  | .unprintable c position =>
    "Invalid non-printable ASCII character in URL, " ++ Quoted.text (String.ofList [c]) ++
      " at position " ++ toString position ++ "."
  | .badHost e => e.message
  | .badPort text => "Invalid port: " ++ Quoted.text text
  | .doubleSlash => "Relative URLs cannot have a path starting with '//'"
  | .leadingColon => "Relative URLs cannot have a path starting with ':'"
  | .longPath => "URL component 'path' too long"
  | .longQuery => "URL component 'query' too long"
  | .unreadable e => e.message
  | .wideZone c position count => beyondAscii c position count
  | .unknownScheme scheme => Quoted.text scheme

structure Authority where
  user : List Char
  host : List Char
  port : List Char
  deriving DecidableEq, Repr

namespace Authority

/-- A user before the last at sign, and what follows it. -/
def takeUser (cs : List Char) : List Char × List Char :=
  let place := (cs.reverse.takeWhile (· ≠ '@')).reverse
  (cs.take (cs.length - place.length - 1), place)

/-- A host, which may stand in brackets and hold colons then, and what follows it. -/
def takeHost (cs : List Char) : List Char × List Char :=
  let size :=
    if cs.head? = some '[' && cs.contains ']' then
      cs.length - (cs.reverse.takeWhile (· ≠ ']')).length
    else (cs.takeWhile (· ≠ ':')).length
  (cs.take size, cs.drop size)

def read (cs : List Char) : Authority :=
  let (user, place) := takeUser cs
  let (host, rest) := takeHost place
  ⟨user, host, if rest.head? = some ':' then rest.drop 1 else rest⟩

def isEmpty (a : Authority) : Bool :=
  a.user.isEmpty && a.host.isEmpty && a.port.isEmpty

end Authority

structure Reference where
  scheme : List Char
  authority : Authority
  path : List Char
  query : List Char
  fragment : List Char
  deriving DecidableEq, Repr

namespace Reference

def maxLength : Nat := 65536

def isSchemeChar (c : Char) : Bool :=
  c.isAlphanum || c == '+' || c == '.' || c == '-'

/-- A scheme before a colon, which may be empty, and what follows the colon. -/
def takeScheme (cs : List Char) : List Char × List Char :=
  let scheme := if cs.head?.any Char.isAlpha then cs.takeWhile isSchemeChar else []
  match cs.drop scheme.length with
  | ':' :: rest => (scheme, rest)
  | _ => ([], cs)

def takeAuthority : List Char → List Char × List Char
  | '/' :: '/' :: cs => (cs.takeWhile (· ≠ '/'), cs.dropWhile (· ≠ '/'))
  | cs => ([], cs)

def split (cs : List Char) : Reference :=
  let (whole, fragment) := cutAt '#' cs
  let (front, query) := cutAt '?' whole
  let (scheme, rest) := takeScheme front
  let (authority, path) := takeAuthority rest
  ⟨scheme.map Char.toLower, .read authority, path, query, fragment⟩

def isAbsolute (r : Reference) : Bool :=
  !r.scheme.isEmpty && !r.authority.host.isEmpty

/-- True of a reference that is a path and perhaps a query. -/
def isBare (r : Reference) : Bool :=
  r.scheme.isEmpty && r.authority.isEmpty

def isControl (c : Char) : Bool :=
  c.toNat < 32 || c.toNat == 127

def badText? (cs : List Char) : Option BadReference :=
  if maxLength < cs.length then some .tooLong
  else
    match cs.find? isControl with
    | some c => some (.unprintable c (cs.takeWhile fun d => !isControl d).length)
    | none => none

def badPort? (r : Reference) : Option BadReference :=
  let port := String.ofList r.authority.port
  if port = "" then none
  else
    match Numeral.integer port with
    | .ok _ => none
    | .error _ => some (.badPort port)

def badPath? (r : Reference) : Option BadReference :=
  if !r.isBare then none
  else if ['/', '/'].isPrefixOf r.path then some .doubleSlash
  else if r.path.head? = some ':' then some .leadingColon
  else none

/-- The segments of a path in reverse, after those that come in reverse before it, where a segment
of one dot counts for nothing and one of two dots takes back the segment before it. The empty
segment before the slash of the root is not taken back. -/
def resolve (before : List (List Char)) : List (List Char) → List (List Char)
  | [] => before
  | segment :: rest =>
    if segment = ['.'] then resolve before rest
    else if segment = ['.', '.'] then resolve (if before = [[]] then before else before.drop 1) rest
    else resolve (segment :: before) rest

def withoutDots (path : List Char) : List Char :=
  List.intercalate ['/'] (resolve [] (partsAt '/' path)).reverse

def fromRoot (r : Reference) : List Char :=
  '/' :: (if r.isBare then r.path else withoutDots r.path).dropWhile (· == '/')

def target (r : Reference) : List Char :=
  withoutDots (if r.isAbsolute then r.path else r.fromRoot)

/-! ## What can be wrong -/

def badHost? (r : Reference) : Option BadReference :=
  match Hostname.sent r.authority.host with
  | .error e => some (.badHost e)
  | .ok _ => none

def unreadable? (r : Reference) : Option BadReference :=
  match Hostname.sent r.authority.host with
  | .error _ => none
  | .ok name => (Hostname.unreadable? name).map .unreadable

def badZone? (r : Reference) : Option BadReference :=
  let host := r.authority.host
  if host.head? ≠ some '[' then none
  else
    match host.dropWhile Label.isAscii with
    | [] => none
    | c :: rest =>
      let count := ((c :: rest).takeWhile fun d => !Label.isAscii d).length
      some (.wideZone c (host.takeWhile Label.isAscii).length count)

def badScheme? (r : Reference) : Option BadReference :=
  let scheme := String.ofList r.scheme
  if scheme ≠ "http" ∧ scheme ≠ "https" then some (.unknownScheme scheme) else none

def isQueryChar (c : Char) : Bool :=
  Label.isAscii c && !([' ', '"', '#', '<', '>'].contains c)

def isPathChar (c : Char) : Bool :=
  isQueryChar c && !(['?', Char.ofNat 0x60, Char.ofNat 0x7B, Char.ofNat 0x7D].contains c)

/-- The path of a reference that is followed from the root, as it is sent. -/
def sentPath (r : Reference) : List Char :=
  r.fromRoot.flatMap (Percent.escape isPathChar)

def sentQuery (r : Reference) : List Char :=
  r.query.flatMap (Percent.escape isQueryChar)

def badLength? (r : Reference) : Option BadReference :=
  if maxLength < r.sentPath.length then some .longPath
  else if maxLength < r.sentQuery.length then some .longQuery
  else none

def bad? (r : Reference) : Option BadReference :=
  r.badHost? <|> r.badPort? <|> r.badPath? <|>
    if r.isAbsolute then r.unreadable? <|> r.badZone? <|> r.badScheme? else r.badLength?

def read (s : String) : Except BadReference Reference :=
  let r := split s.toList
  match badText? s.toList <|> r.bad? with
  | some e => .error e
  | none => .ok r

end Reference

end MeterFeed
