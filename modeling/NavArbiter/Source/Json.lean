/-
# Sources in documents

Every choice among sources is written as a lower-case name.
-/
import NavArbiter.Json.Decode
import NavArbiter.Json.Value
import NavArbiter.Source

namespace NavArbiter

open Json

/-- Name of a sensor in documents. -/
def Sensor.key : Sensor → String
  | .baro => "baro"
  | .gps => "gps"
  | .range => "range"
  | .vision => "vision"
  | .flow => "optical_flow"
  | .mag => "mag"
  | .airspeed => "airspeed"

/-- Name of a height source in documents. -/
def HeightSource.key : HeightSource → String
  | .baro => "baro"
  | .gps => "gps"
  | .range => "range"
  | .vision => "vision"

/-- Name of a magnetometer mode in documents. -/
def MagMode.key : MagMode → String
  | .off => "off"
  | .heading => "heading"
  | .threeAxis => "three_axis"

/-- Name of a magnetometer policy in documents. -/
def MagPolicy.key : MagPolicy → String
  | .auto => "auto"
  | .heading => "heading"
  | .threeAxis => "three_axis"
  | .off => "none"

/-- Decodes a sensor. -/
def Sensor.decode : Decoder Sensor :=
  Decode.choice (Sensor.all.map fun s => .plain s.key s)

/-- Decodes a height source. -/
def HeightSource.decode : Decoder HeightSource :=
  Decode.choice (HeightSource.all.map fun s => .plain s.key s)

/-- Decodes a magnetometer mode. -/
def MagMode.decode : Decoder MagMode :=
  Decode.choice ([.off, .heading, .threeAxis].map fun m : MagMode => .plain m.key m)

/-- Decodes a magnetometer policy. -/
def MagPolicy.decode : Decoder MagPolicy :=
  Decode.choice ([.auto, .heading, .threeAxis, .off].map fun p : MagPolicy => .plain p.key p)

/-- Decodes a yaw source. -/
def YawSource.decode : Decoder YawSource :=
  Decode.choice
    [.holding "magnetometer" fun n => (MagMode.decode n).map .magnetometer,
     .plain "vision" .vision]

def Sensor.toJson (s : Sensor) : Value := .text s.key

def HeightSource.toJson (s : HeightSource) : Value := .text s.key

def MagMode.toJson (m : MagMode) : Value := .text m.key

def MagPolicy.toJson (p : MagPolicy) : Value := .text p.key

def YawSource.toJson : YawSource → Value
  | .magnetometer mode => .record [("magnetometer", mode.toJson)]
  | .vision => .text "vision"

end NavArbiter
