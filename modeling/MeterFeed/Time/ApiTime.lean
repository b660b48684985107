import MeterFeed.Time.Iso

/-!
# Time texts of a query

A query names an instant by the civil time two hours ahead of UTC, to the second below, whatever
the offset the time came with. The year is written without zeros in front.
-/

namespace MeterFeed

namespace ApiTime

/-- The offset of the civil time of queries: two hours. -/
def offset : Int := 7200000000

def write (t : DateTime) : List Char :=
  let d := t.date
  Layout.digits d.year ++ '-' :: DateTime.padded 2 d.month ++ '-' :: DateTime.padded 2 d.day ++
    'T' :: DateTime.writeTime t.timeOfDay

def text (t : DateTime) : Except Fault String :=
  match t.atOffset offset with
  | .ok civil => .ok (String.ofList (write civil))
  | .error fault => .error fault

end ApiTime

end MeterFeed
