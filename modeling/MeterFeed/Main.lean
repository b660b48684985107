import MeterFeed.Launch

/-!
# Command line

Reads the settings from the environment, checks them, and prints the log lines of a launch. A bad
setting is reported on standard error.
-/

open MeterFeed

def configuredTexts : IO (Fields String) :=
  Settings.names.filterMapM fun name => do
    return (← IO.getEnv name).map fun text => (name, text)

def printEntry (e : Entry) : IO Unit :=
  match e.line? with
  | some (level, text) => IO.println (level.word ++ " | " ++ text)
  | none => return

def main : IO UInt32 := do
  match Settings.ofTexts (← configuredTexts) with
  | .error e =>
    IO.eprintln e.message
    return 1
  | .ok settings =>
    (Launch.ofSettings settings).entries.forM printEntry
    return 0
