import LanguageBroker.Scope
import LanguageBroker.Telemetry

/-!
Which server an activation tries first: the simple one where the settings or an experiment prefer
it or the configured full server cannot run on the platform, else that full server.
-/

namespace LanguageBroker

/-- What an activation tries first. -/
inductive Choice
  | simple
  | full (variant : Variant)
  deriving DecidableEq, Repr

/-- The first try, and the events it is reported by. -/
def Choice.make (settings : Settings) (prefersSimple : Bool) (supported : FullVariant → Bool) :
    Choice × List TelemetryEvent :=
  if settings.useSimpleVariant || prefersSimple then (.simple, [])
  else
    let variant := settings.fullVariant.toVariant
    if supported settings.fullVariant then (.full variant, [])
    else
      (.simple,
        [TelemetryEvent.withProperty ⟨TelemetryEvent.platformNotSupported, [], []⟩ "variant"
          variant.name])

end LanguageBroker
