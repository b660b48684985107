import MeterFeed.Surface.Reference
import MeterFeed.Text.Percent

/-!
# Targets of requests

A target is a path and parameters. Parameters are parted by ampersands and each has its name before
the first equals sign. Both are read as `Percent` says, and in parameters a plus sign stands for a
space. On its way a path is decoded twice, and so may be written with its percent signs encoded.
-/

namespace MeterFeed

structure Target where
  path : String
  parameters : List (String × String)
  deriving DecidableEq, Repr

namespace Target

/-- A part of a parameter, in which a plus sign stands for a space. -/
def decodeParameter (cs : List Char) : String :=
  Percent.decode (cs.map fun c => if c = '+' then ' ' else c)

def parameter (cs : List Char) : String × String :=
  let (name, value) := cutAt '=' cs
  (decodeParameter name, decodeParameter value)

def decodePath (cs : List Char) : String :=
  Percent.decode (Percent.decode cs).toList

def ofReference (r : Reference) : Target :=
  let parts := (partsAt '&' r.query).filter fun part => !part.isEmpty
  ⟨decodePath r.target, parts.map parameter⟩

def last? (t : Target) (name : String) : Option String :=
  (t.parameters.reverse.find? fun p => p.1 == name).map Prod.snd

end Target

end MeterFeed
