import MeterFeed.Surface.Reference

/-!
# Locations

A request for a path with slashes at its end is answered by the location of the path without them: a
reference to the same host with the same query. The request is then made again, if that reference
leads anywhere, and a reference with a host keeps its fragment.
-/

namespace MeterFeed

inductive Lost where
  /-- Its reference leads nowhere. -/
  | unsent (e : BadReference)
  /-- It is sent on to a location that leads nowhere. -/
  | astray (e : BadReference)
  /-- It is sent on with a control character in its fragment. -/
  | badFragment (c : Char) (position : Nat)
  deriving DecidableEq, Repr

def Lost.message : Lost → String
  | .unsent e => e.message
  | .astray e => "Invalid URL in location header: " ++ e.message ++ "."
  | .badFragment c position =>
    "Invalid non-printable ASCII character in URL fragment component, " ++
      Quoted.text (String.ofList [c]) ++ " at position " ++ toString position ++ "."

namespace Reference

/-- The host of the references that name none. -/
def ownHost : List Char := "testserver".toList

def placed (name : List Char) : List Char :=
  if name.contains ':' then '[' :: name ++ [']'] else name

def usualPort (scheme : List Char) : Int :=
  if scheme = "https".toList then 443 else 80

/-- A port after a colon, unless the scheme has it anyway. -/
def portText (r : Reference) : List Char :=
  match Numeral.integer (String.ofList r.authority.port) with
  | .ok port => if port = usualPort r.scheme then [] else ':' :: (toString port).toList
  | .error _ => []

/-- The scheme, the host and the port that a reference leads to. -/
def site (r : Reference) : List Char :=
  if r.isAbsolute then
    r.scheme ++ "://".toList ++ placed ((Hostname.sent r.authority.host).toOption.getD []) ++
      r.portText
  else "http://".toList ++ ownHost

def isLocationChar (c : Char) : Bool :=
  c.isAlphanum || "_.-~:/%#?=@[]!$&'()*+,;".toList.contains c

def location (r : Reference) (path : String) : String :=
  let query := if r.query.isEmpty then [] else '?' :: r.sentQuery
  String.ofList ((r.site ++ path.toList ++ query).flatMap (Percent.escape isLocationChar))

def badFragment? (r : Reference) : Option Lost :=
  if !r.isAbsolute then none
  else
    let cs := (Percent.decode r.fragment).toList
    (cs.find? isControl).map fun c =>
      .badFragment c (cs.takeWhile fun d => !isControl d).length

/-- What is wrong with being sent on to another path. -/
def lostOn? (r : Reference) (path : String) : Option Lost :=
  match read (r.location path) with
  | .ok _ => r.badFragment?
  | .error e => some (.astray e)

end Reference

end MeterFeed
