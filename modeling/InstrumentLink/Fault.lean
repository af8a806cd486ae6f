import InstrumentLink.IoError

namespace InstrumentLink

/-- Why an operation on an endpoint failed. -/
inductive Fault
  /-- A field that the operation needs is absent. -/
  | missingConfiguration (detail : String)
  /-- The host name led to no usable address. -/
  | hostResolution (detail : String)
  /-- Connecting, binding, listening or accepting failed. -/
  | connectFailure (detail : String)
  /-- A read failed for good; a transient condition is never reported this way. -/
  | readFailure (detail : String)
  /-- A write failed. -/
  | writeFailure (detail : String)
  /-- A listener has no accepted client. -/
  | notConnected
  /-- A listener has a client already. -/
  | alreadyConnected
  /-- The endpoint was not opened. -/
  | notInitialized
  /-- The endpoint does not offer the capability. -/
  | notImplemented (capability : String)
deriving DecidableEq, Repr, Inhabited

namespace Fault

def code : Fault → Nat
  | notImplemented _ => 108
  | hostResolution _ => 303
  | connectFailure _ => 304
  | readFailure _ => 305
  | writeFailure _ => 306
  | missingConfiguration _ => 307
  | notConnected => 308
  | alreadyConnected => 309
  | notInitialized => 310

def message : Fault → String
  | missingConfiguration detail => "missing configuration: " ++ detail
  | hostResolution detail => "host lookup failed: " ++ detail
  | connectFailure detail => "connect failed: " ++ detail
  | readFailure detail => "read failed: " ++ detail
  | writeFailure detail => "write failed: " ++ detail
  | notConnected => "no client connected"
  | alreadyConnected => "client already connected"
  | notInitialized => "endpoint not initialized"
  | notImplemented capability => "not implemented: " ++ capability

/-- A read failed with an error of the host. -/
def ofRead (e : IoError) : Fault := .readFailure e.text

/-- A write failed with an error of the host. -/
def ofWrite (e : IoError) : Fault := .writeFailure e.text

/-- Connecting, binding or accepting failed with an error of the host. -/
def ofConnect (e : IoError) : Fault := .connectFailure e.text

/-- A client has no host name to connect to. -/
def missingHostname : Fault := .missingConfiguration "missing hostname"

/-- A socket has no port. -/
def missingPort : Fault := .missingConfiguration "missing inet port"

/-- A serial line has no device path. -/
def missingDevicePath : Fault := .missingConfiguration "missing device path"

/-- The lookup of a host failed with an error of the host system. -/
def lookupFailed (hostname : String) (e : IoError) : Fault :=
  .hostResolution (hostname ++ ": " ++ e.text)

/-- The host has addresses, but none that a datagram socket can send to. -/
def noDatagramAddress (hostname : String) : Fault :=
  .hostResolution (hostname ++ ": no IPv4 address")

/-- A write was attempted without a handle. -/
def writeWithoutHandle : Fault := .writeFailure "not connected"

/-- A read was attempted without a handle. -/
def readWithoutHandle : Fault := .readFailure "not connected"

end Fault

end InstrumentLink
