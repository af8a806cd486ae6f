/-!
# Errors reported by the host

An operation of the host either succeeds or reports an `IoError`: what the caller may do about it,
and the text that names it. Three conditions only ask the caller to try again later.
-/

namespace InstrumentLink

/-- What a caller may conclude from an error of the host. -/
inductive IoCondition
  | wouldBlock
  | timedOut
  | interrupted
  | failed
deriving DecidableEq, Repr, Inhabited

structure IoError where
  condition : IoCondition
  text : String
deriving DecidableEq, Repr, Inhabited

namespace IoError

/-- Whether the error only says that the operation should be tried again later. A serial line
polled with a zero timeout reports an empty queue as `timedOut`, a socket as `wouldBlock`. -/
def isTransient (e : IoError) : Bool :=
  match e.condition with
  | .wouldBlock | .timedOut | .interrupted => true
  | .failed => false

def description : Nat → String
  | 1 => "Operation not permitted"
  | 2 => "No such file or directory"
  | 4 => "Interrupted system call"
  | 5 => "Input/output error"
  | 9 => "Bad file descriptor"
  | 11 => "Resource temporarily unavailable"
  | 13 => "Permission denied"
  | 22 => "Invalid argument"
  | 32 => "Broken pipe"
  | 98 => "Address already in use"
  | 99 => "Cannot assign requested address"
  | 101 => "Network is unreachable"
  | 104 => "Connection reset by peer"
  | 107 => "Transport endpoint is not connected"
  | 110 => "Connection timed out"
  | 111 => "Connection refused"
  | number => "Unknown error " ++ toString number

def conditionOf : Nat → IoCondition
  | 4 => .interrupted
  | 11 => .wouldBlock
  | 110 => .timedOut
  | _ => .failed

/-- The error with a system error number; its text gives the description and the number. -/
def ofNumber (number : Nat) : IoError where
  condition := conditionOf number
  text := description number ++ " (os error " ++ toString number ++ ")"

/-- A stream took nothing of what it was offered. -/
def nothingAccepted : IoError where
  condition := .failed
  text := "Failed to write all data"

/-- There was no address to try. -/
def noAddress : IoError where
  condition := .failed
  text := "no address to connect to"

/-- The far end of a serial line is gone. -/
def hungUp : IoError where
  condition := .failed
  text := "Broken pipe"

end IoError

end InstrumentLink
