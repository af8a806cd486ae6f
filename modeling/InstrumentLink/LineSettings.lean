namespace InstrumentLink

inductive Parity
  | none
  | odd
  | even
deriving DecidableEq, Repr, Inhabited

/-- How the two ends of a line hold each other back. -/
inductive FlowControl
  | none
  | hardware
  | software
deriving DecidableEq, Repr, Inhabited

inductive DataBits
  | five
  | six
  | seven
  | eight
deriving DecidableEq, Repr, Inhabited

inductive StopBits
  | one
  | two
deriving DecidableEq, Repr, Inhabited

def Parity.ofCode? : UInt8 → Option Parity
  | 0 => some .none
  | 1 => some .odd
  | 2 => some .even
  | _ => Option.none

def FlowControl.ofCode? : UInt8 → Option FlowControl
  | 0 => some .none
  | 1 => some .hardware
  | 2 => some .software
  | _ => Option.none

/-- The data bits with a code, which is their count. -/
def DataBits.ofCode? : UInt8 → Option DataBits
  | 5 => some .five
  | 6 => some .six
  | 7 => some .seven
  | 8 => some .eight
  | _ => none

/-- The stop bits with a code, which is their count. -/
def StopBits.ofCode? : UInt8 → Option StopBits
  | 1 => some .one
  | 2 => some .two
  | _ => none

def Parity.name : Parity → String
  | none => "None"
  | odd => "Odd"
  | even => "Even"

def FlowControl.name : FlowControl → String
  | none => "None"
  | hardware => "Hardware"
  | software => "Software"

def DataBits.name : DataBits → String
  | five => "Five"
  | six => "Six"
  | seven => "Seven"
  | eight => "Eight"

def StopBits.name : StopBits → String
  | one => "One"
  | two => "Two"

def standardBaudRates : List UInt32 :=
  [1200, 2400, 4800, 9600, 19200, 38400, 57600, 115200]

structure LineSettings where
  devicePath : String := ""
  baudRate : UInt32 := 9600
  dataBits : DataBits := .eight
  parity : Parity := .none
  stopBits : StopBits := .one
  flowControl : FlowControl := .none
deriving DecidableEq, Repr, Inhabited

/-- How long a read or a write on a line waits. -/
inductive LineTimeout
  /-- The operation answers at once. -/
  | immediate
  /-- The operation waits for an hour. -/
  | patient
deriving DecidableEq, Repr, Inhabited

/-- The timeout of a line in a blocking mode. -/
def LineTimeout.ofBlocking (blocking : Bool) : LineTimeout :=
  if blocking then .patient else .immediate

end InstrumentLink
