import SheetFormula.Proofs.Service.Replies
import SheetFormula.Proofs.Zone.Names

/-!
# Settings that are reported

The service tells the number format and the zone of its calculator, the zone by its name. A zone is
read from its name, and results depend on the zone and the number format only, so a calculator that
is configured with the reported settings has the same results.

## Main results

* `SheetFormula.Calculator.evaluate_of_same_settings` — what the results of a calculator depend on.
* `SheetFormula.Service.respond_version` — what a request for the settings is told.
* `SheetFormula.zones_name_themselves` — zones, and reported settings, are read again as they were.
-/

set_option relaxedAutoImplicit false
set_option autoImplicit false

namespace SheetFormula

open SheetFormula.Service (Request formatText recordText respond)

namespace Calculator

/-- **The results of a calculator depend on its zone and its number format**, and on nothing else of
its settings. -/
theorem evaluate_of_same_settings {calculator calculator' : Calculator}
    (hformat : calculator.configuration.numberFormat = calculator'.configuration.numberFormat)
    (hzone : calculator.zone = calculator'.zone) (surroundings : Surroundings) (text : String)
    (sources : Sources) :
    calculator.evaluate surroundings text sources =
      calculator'.evaluate surroundings text sources := by
  have hattempt : calculator.attempt surroundings text sources =
      calculator'.attempt surroundings text sources := by
    rw [attempt, attempt, context, context, scope, scope, hformat, hzone]
  rw [evaluate, evaluate, hattempt]

/-- A calculator has a configuration if the number format is valid and the zone is that of the
calculator. -/
lemma ofConfigurationIn_eq_ok {zones : ZoneDatabase} {configuration : Configuration}
    {calculator : Calculator} :
    ofConfigurationIn zones configuration = .ok calculator ↔ configuration.validate = .ok () ∧
      Zone.ofTextIn? zones configuration.timezone = some calculator.zone ∧
      calculator.configuration = configuration := by
  obtain ⟨settings, zone⟩ := calculator
  unfold ofConfigurationIn
  cases hvalid : configuration.validate with
  | error fault => simp [bind, Except.bind]
  | ok valid =>
    cases hzone : Zone.ofTextIn? zones configuration.timezone with
    | none => simp [bind, Except.bind]
    | some zone => simp [bind, Except.bind, pure, Except.pure, eq_comm, and_comm]

end Calculator

/-- A request for the settings is told the name of the zone and the number format, as the fields
`timezone` and `number_format` of the data. -/
theorem Service.respond_version {request : Request} (h : request.Addresses .version)
    (calculator : Calculator) (surroundings : Surroundings) (requestId : String) :
    respond calculator surroundings requestId request =
      { status := 200
        body := recordText [("success", "true"), ("request_id", Json.quote requestId),
          ("data", recordText [("version", Json.quote release),
            ("timezone", Json.quote calculator.zone.name),
            ("number_format",
              Json.quote (formatText calculator.configuration.numberFormat))])] } :=
  respond_of_addresses h rfl

/-- **A zone that is shown names itself.** Whatever zones are known, a zone that was read from a
text is read from its name. So the service reports settings with which a calculator can be
configured that has the same zone and the same results.

**Proof sketch.** A configuration with another spelling of its zone has the same number format, so
it is valid, and its calculator has the zone of that spelling; results depend on nothing else. -/
theorem zones_name_themselves (zones : ZoneDatabase) :
    (∀ text zone, Zone.ofTextIn? zones text = some zone →
      Zone.ofTextIn? zones zone.name = some zone) ∧
    ∀ configuration calculator, Calculator.ofConfigurationIn zones configuration = .ok calculator →
      let timezone := calculator.zone.name
      let numberFormat := calculator.configuration.numberFormat
      (∀ request surroundings requestId, request.Addresses .version →
        respond calculator surroundings requestId request =
          { status := 200
            body := recordText [("success", "true"), ("request_id", Json.quote requestId),
              ("data", recordText [("version", Json.quote release),
                ("timezone", Json.quote timezone),
                ("number_format", Json.quote (formatText numberFormat))])] }) ∧
      ∃ calculator', Calculator.ofConfigurationIn zones { numberFormat, timezone } =
          .ok calculator' ∧
        calculator'.zone = calculator.zone ∧
        ∀ surroundings text sources, calculator'.evaluate surroundings text sources =
          calculator.evaluate surroundings text sources := by
  refine ⟨fun text zone => Zone.ofTextIn?_name, ?_⟩
  intro configuration calculator hcalculator timezone numberFormat
  constructor
  · intro request surroundings requestId hrequest
    exact Service.respond_version hrequest calculator surroundings requestId
  · obtain ⟨hvalid, hzone, rfl⟩ := Calculator.ofConfigurationIn_eq_ok.mp hcalculator
    have hreported : Calculator.ofConfigurationIn zones { numberFormat, timezone } =
        .ok ⟨{ numberFormat, timezone }, calculator.zone⟩ :=
      Calculator.ofConfigurationIn_eq_ok.mpr ⟨hvalid, Zone.ofTextIn?_name hzone, rfl⟩
    exact ⟨_, hreported, rfl, fun surroundings text sources =>
      Calculator.evaluate_of_same_settings rfl rfl surroundings text sources⟩

/-- An offset of universal time that is written with blanks around it and without a colon. -/
theorem zone_named_by_offset :
    let zone : Zone := .fixed (-12600)
    let calculator : Calculator := ⟨⟨.us, " UTC-330 "⟩, zone⟩
    let request : Request := { method := "GET", target := "/version" }
    let surroundings : Surroundings := { now := ⟨0, 0⟩, chance := 0.5 }
    (Zone.ofTextIn? Zone.known " UTC-330 " = some zone ∧
      Calculator.ofConfigurationIn Zone.known ⟨.us, " UTC-330 "⟩ = .ok calculator) ∧
      zone.name = "-03:30" ∧ Zone.ofTextIn? Zone.known "-03:30" = some zone ∧
      (respond calculator surroundings "id" request).status = 200 ∧
      ∃ calculator', Calculator.ofConfigurationIn Zone.known ⟨.us, "-03:30"⟩ = .ok calculator' ∧
        calculator'.zone = zone := by
  intro zone calculator request surroundings
  have hread : Zone.ofTextIn? Zone.known " UTC-330 " = some zone := by decide +kernel
  have hname : zone.name = "-03:30" := by decide +kernel
  have hcalculator :
      Calculator.ofConfigurationIn Zone.known ⟨.us, " UTC-330 "⟩ = .ok calculator :=
    Calculator.ofConfigurationIn_eq_ok.mpr ⟨rfl, hread, rfl⟩
  have hrequest : request.Addresses .version := ⟨rfl, by decide, nofun, nofun⟩
  obtain ⟨hagain, hsettings⟩ := zones_name_themselves Zone.known
  obtain ⟨hresponse, calculator', hconfigured, hzone, -⟩ := hsettings _ _ hcalculator
  refine ⟨⟨hread, hcalculator⟩, hname, hname ▸ hagain _ _ hread, ?_, calculator', ?_, hzone⟩
  · rw [hresponse _ _ _ hrequest]
  · rwa [hname] at hconfigured

end SheetFormula
