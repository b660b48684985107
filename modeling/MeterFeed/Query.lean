import MeterFeed.Time.ApiTime
import MeterFeed.Window

/-!
# Queries

A query asks a site for the measures of some hosts and metrics in a window. Its URL writes the
names with commas between them and the two ends of the window as civil times.
-/

namespace MeterFeed

def joinNames (names : List String) : String :=
  String.ofList (List.intercalate [','] (names.map String.toList))

/-- A query; the hosts and the metrics are joined names. -/
structure Query where
  baseUrl : String
  site : String
  hosts : String
  metrics : String
  window : Window

namespace Query

def withoutSlashes (s : String) : String :=
  String.ofList (s.toList.reverse.dropWhile (· == '/')).reverse

def url (q : Query) : Except Fault String :=
  match ApiTime.text q.window.start with
  | .error f => .error f
  | .ok start =>
    match ApiTime.text q.window.finish with
    | .error f => .error f
    | .ok finish =>
      .ok (withoutSlashes q.baseUrl ++ "/sites/" ++ q.site ++ "/metrics?nodes=" ++ q.hosts ++
        "&metrics=" ++ q.metrics ++ "&start_time=" ++ start ++ "&end_time=" ++ finish)

end Query

end MeterFeed
