import LanguageBroker.Scenario.Report
import LanguageBroker.Scenario.Steps
import LanguageBroker.Schedule

/-!
Scenarios of one provider of options.
-/

namespace LanguageBroker.Scenario.Providing

structure State where
  script : Script
  site : Site
  provider : Provider
  /-- The changes announced so far. -/
  announced : Nat := 0

def schedule : Schedule State Provider.Duty where
  agents _ := Provider.duties
  isReady s duty := s.provider.isReady s.site.clock duty
  act s duty :=
    let (provider, count) := s.provider.act s.site.host s.site.clock duty
    { s with provider, announced := s.announced + count }
  deadline s duty := s.provider.deadline duty
  clock s := s.site.clock
  setClock s clock := { s with site := { s.site with clock } }

/-- What a step does before anything else can happen, and its result. -/
def perform (s : State) (v : Json) : State × Json :=
  match CommonStep.ofJson? v, v.get? "initialize", v.get? "options" with
  | some (.sleep n), _, _ => (schedule.sleep n s, .null)
  | some (.script change), _, _ =>
    let script := s.script.update change
    ({ s with script, site := rescript s.site script }, .null)
  | some (.events list), _, _ => ({ s with provider := list.foldl Provider.hear s.provider }, .null)
  | none, some scope, _ =>
    match s.provider.bindScope s.site.host (readScope scope) with
    | (provider, .ok ()) => ({ s with provider }, .null)
    | (provider, .error e) => ({ s with provider }, writeOptionsError e)
  | none, none, some _ =>
    match s.provider.options s.site.host with
    | (provider, .ok options) => ({ s with provider }, writeOptions options)
    | (provider, .error e) => ({ s with provider }, writeOptionsError e)
  | none, none, none => ({ s with provider := s.provider.dispose }, .null)

def step (s : State) (_ : Nat) (v : Json) : State × Json :=
  let (after, result) := perform (schedule.tick s) v
  let after := schedule.rest after
  (after, Json.object
    [("result", result), ("changes", Json.ofNat (after.announced - s.announced))])

def run (v : Json) : Json :=
  let script := Script.ofJson v
  runSteps step
    { script
      site := script.site
      provider := { variant := readVariant (valueMember "variant" v) } }
    (listMember "steps" v)

end LanguageBroker.Scenario.Providing
