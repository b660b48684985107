import MeterFeed.Journal
import MeterFeed.Settings

/-!
# Launching

A launch states what the HTTP server is to run: the application, where it listens, and its log
level, which is written in lower case.
-/

namespace MeterFeed

structure Launch where
  application : String
  host : String
  logLevel : String
  port : Int
  deriving DecidableEq, Repr

namespace Launch

def ofSettings (s : Settings) : Launch :=
  ⟨"kwollect_input.api.main:app", s.apiHost, LowerCase.text s.logLevel, s.apiPort⟩

def entries (l : Launch) : List Entry :=
  [.serving l.host (toString l.port)]

end Launch

end MeterFeed
