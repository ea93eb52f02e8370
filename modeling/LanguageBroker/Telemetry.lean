import LanguageBroker.Json
import LanguageBroker.Json.Double

/-!
Telemetry events. Measures and properties are kept sorted by key, and setting a key again
replaces its value. A measure is a binary64 value and is told as a whole number of 64 bits.
-/

namespace LanguageBroker

/-- A named event with numbers and texts. -/
structure TelemetryEvent where
  name : String
  measures : List (String × Int) := []
  properties : List (String × String) := []
  deriving DecidableEq, Repr

namespace TelemetryEvent

/-- The platform cannot run the chosen full server. -/
def platformNotSupported : String := "language_server.platform_not_supported"

/-- The full server is not there. -/
def notInstalled : String := "language_server.not_installed"

/-- An activation turns from the full server to the simple one. -/
def fallback : String := "language_server.fallback"

/-- An activation succeeded. -/
def startup : String := "language_server.startup"

/-- Sets a key in a list sorted by key. -/
def put (key : String) (value : α) : List (String × α) → List (String × α)
  | [] => [(key, value)]
  | (k, v) :: rest =>
    if key < k then (key, value) :: (k, v) :: rest
    else if key = k then (key, value) :: rest
    else (k, v) :: put key value rest

/-- A whole number as it is told: rounded to binary64, and at most the largest of 64 bits. -/
def told (n : Int) : Int := min (Double.nearest n) 9223372036854775807

def withMeasure (e : TelemetryEvent) (key : String) (value : Int) : TelemetryEvent :=
  { e with measures := put key (told value) e.measures }

def withProperty (e : TelemetryEvent) (key value : String) : TelemetryEvent :=
  { e with properties := put key value e.properties }

def measuresJson (e : TelemetryEvent) : Json :=
  Json.object (e.measures.map fun m => (m.1, .int m.2))

def propertiesJson (e : TelemetryEvent) : Json :=
  Json.object (e.properties.map fun p => (p.1, .str p.2))

end TelemetryEvent

end LanguageBroker
