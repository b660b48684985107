import MeterFeed.Number.Word
import MeterFeed.Recipient
import MeterFeed.Text.Quoted

/-!
# Faults

A fault is a failure that the operation it happens in does not answer for: it passes through to
whoever asked, and ends what that one was doing. Failures that are answered for, such as a record
that cannot be decoded, have types of their own.
-/

namespace MeterFeed

/-- The sort of a session failure that is none of HTTP's. -/
inductive SessionFault where
  | system
  | value
  | runtime
  deriving DecidableEq, Repr

/-- A failure that passes through. -/
inductive Fault where
  | integerTooLarge
  | dateOutOfRange
  /-- A count does not fit the machine integer that it is kept in. -/
  | tooWide (word : Word)
  | tooManyDays (days : Int)
  /-- A wait is too long to be timed, whether its seconds are a double or an integer. -/
  | endlessWait (double : Bool)
  /-- A payload uses a name that its recipient has for something else. -/
  | reservedName (recipient : Recipient) (name : String)
  | negativeCapacity
  | yearZero
  | mixedTimes
  | naiveWindow
  | reversedWindow
  | nameTaken (name : String)
  | alreadyStarted
  | unregistered
  /-- The trigger has lost its scheduler. -/
  | schedulerGone
  | noJob (name : String)
  | session (sort : SessionFault) (message : String)
  deriving DecidableEq, Repr

def Fault.message : Fault → String
  | .integerTooLarge => "int too large to convert to float"
  | .dateOutOfRange => "date value out of range"
  | .tooWide word => word.overflow
  | .tooManyDays days => "days=" ++ toString days ++ "; must have magnitude <= 999999999"
  | .endlessWait true => "timestamp out of range for platform time_t"
  | .endlessWait false => "timestamp too large to convert to C _PyTime_t"
  | .reservedName recipient name => recipient.refusal name
  | .negativeCapacity => "maxlen must be non-negative"
  | .yearZero => "year 0 is out of range"
  | .mixedTimes => "can't compare offset-naive and offset-aware datetimes"
  | .naiveWindow => "FetchWindow instants must be timezone-aware"
  | .reversedWindow => "FetchWindow end must be >= start"
  | .nameTaken name => "Metric " ++ Quoted.text name ++ " is already registered"
  | .alreadyStarted => "PollCoordinator is already started"
  | .unregistered => "register_metrics() must run before normalize()"
  | .schedulerGone => "scheduler is gone"
  | .noJob name => Quoted.text name
  | .session _ message => message

end MeterFeed
