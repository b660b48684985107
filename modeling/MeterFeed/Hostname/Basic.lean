import MeterFeed.Hostname.Address
import MeterFeed.Hostname.Label
import MeterFeed.Text.LowerCase
import MeterFeed.Text.Percent

/-!
# Host names

A host is named by an address, by any text of ASCII, or by labels with points between them, of which
some are beyond ASCII. `Hostname.sent` is what is sent for it.
-/

namespace MeterFeed

/-- Why a text names no host. -/
inductive BadHostname where
  | noFourPart (host : List Char)
  | noGrouped (host : List Char)
  | noLabels (host : List Char)
  deriving DecidableEq, Repr

def BadHostname.message : BadHostname → String
  | .noFourPart host => "Invalid IPv4 address: " ++ Quoted.text (String.ofList host)
  | .noGrouped host => "Invalid IPv6 address: " ++ Quoted.text (String.ofList host)
  | .noLabels host => "Invalid IDNA hostname: " ++ Quoted.text (String.ofList host)

namespace Hostname

def isPoint (c : Char) : Bool :=
  [0x2E, 0x3002, 0xFF0E, 0xFF61].contains c.toNat

/-- The labels of a name, without the empty one after a point at the end, and whether there is one
there. -/
def labels (cs : List Char) : List (List Char) × Bool :=
  let parts := partsBy isPoint cs
  if parts.getLast? = some [] then (parts.dropLast, true) else (parts, false)

def joined (labels : List (List Char)) (pointed : Bool) : List Char :=
  List.intercalate ['.'] labels ++ if pointed then ['.'] else []

/-- What is sent for a name in labels, if all of them are right and it is short enough. -/
def sentLabels? (cs : List Char) : Option (List Char) :=
  if Label.maxName < cs.length then none
  else
    let (parts, pointed) := labels cs
    match parts.mapM Label.sent with
    | .error _ => none
    | .ok [] => none
    | .ok parts =>
      let name := joined parts pointed
      if name.length ≤ (if pointed then Label.maxName else Label.maxName - 1) then some name
      else none

/-- True of the characters that a name in ASCII is sent with as they are. -/
def isSent (c : Char) : Bool :=
  c.isAlphanum || "-._~!$&'()*+,;=\"`\x7b\x7d%|\\".toList.contains c

def sent (host : List Char) : Except BadHostname (List Char) :=
  if Address.looksFourPart host then
    if Address.isFourPart host then .ok host else .error (.noFourPart host)
  else if host.head? = some '[' ∧ host.getLast? = some ']' then
    let address := (host.drop 1).dropLast
    if Address.isZoned address then .ok address else .error (.noGrouped host)
  else
    let name := LowerCase.ofChars [] host
    if host.all Label.isAscii then .ok (name.flatMap (Percent.escape isSent))
    else
      match sentLabels? name with
      | some name => .ok name
      | none => .error (.noLabels host)

inductive Unreadable where
  | tooLong
  | label (e : LabelError)
  deriving DecidableEq, Repr

def Unreadable.message : Unreadable → String
  | .tooLong => "Domain too long"
  | .label e => e.message

/-- Why a name cannot be shown; names that do not begin with the sign of punycode are shown as they
are. -/
def unreadable? (name : List Char) : Option Unreadable :=
  if !Label.sign.isPrefixOf name then none
  else if Label.maxName < name.length then some .tooLong
  else
    match (labels (name.map Char.toLower)).1.mapM Label.received with
    | .error e => some (.label e)
    | .ok _ => none

end Hostname

end MeterFeed
