import InstrumentLink.Endpoint.SerialLine
import InstrumentLink.Text.Quoted

namespace InstrumentLink

def describeFields (name : String) (fields : List (String × String)) : String :=
  name ++ " \x7b " ++ ", ".intercalate (fields.map fun field => field.1 ++ ": " ++ field.2) ++
    " \x7d"

def truthWord (b : Bool) : String := if b then "true" else "false"

def LineSettings.describe (settings : LineSettings) : String :=
  describeFields "SerialSettings"
    [("device_path", Text.quoted settings.devicePath),
      ("baud_rate", toString settings.baudRate.toNat),
      ("data_bits", settings.dataBits.name),
      ("stop_bits", settings.stopBits.name),
      ("parity", settings.parity.name),
      ("flow_control", settings.flowControl.name)]

def SerialLine.describe (line : SerialLine) : String :=
  describeFields "SerialTransport"
    [("settings", line.settings.describe),
      ("open", truthWord line.isConnected),
      ("configured", truthWord line.armed),
      ("blocking", truthWord line.blocking)]

end InstrumentLink
