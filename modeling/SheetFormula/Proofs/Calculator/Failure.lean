import SheetFormula.Proofs.Evaluation.Failure
import SheetFormula.Proofs.Evaluation.FunctionForms
import SheetFormula.Proofs.Formula.Lexing
import SheetFormula.Proofs.Service.Bodies
import SheetFormula.Proofs.Service.Replies

/-!
# How formulas fail

A formula fails with a syntax error exactly where it has no expression, and the service says so when
it is asked to check the formula in a body that is not too long. All other failures that a
calculator reports are those for the values of operators and functions: for a missing name there is
always something that stands in, and a formula with an argument `default` does not fail at all,
unless the program stops.

## Main definitions

* `SheetFormula.Service.Request.Checks` — the requests to check a formula.

## Main results

* `SheetFormula.Calculator.evaluate_eq_error_iff` — the failures that a calculator reports.
* `SheetFormula.Service.respond_of_checks` — the response to a request to check a formula.
* `SheetFormula.Calculator.failures_of_evaluate` — syntax errors are those of the check, other
  failures are for values, and there are none with an argument `default`.
* `SheetFormula.Calculator.check_of_long_text` — a formula that is too long to be checked.
-/

set_option relaxedAutoImplicit false
set_option autoImplicit false

namespace SheetFormula

/-! ## Syntax errors -/

/-- A formula without an expression has a syntax error. -/
lemma exists_parse_of_compileFormula {text : String} {failure : CalcError}
    (h : compileFormula text = .error failure) : ∃ error, failure = .parse error := by
  unfold compileFormula at h
  cases hcompile : Formula.compile text with
  | error cause =>
    rw [hcompile] at h
    cases h
    exact ⟨_, rfl⟩
  | ok expr =>
    rw [hcompile] at h
    cases h

/-- Evaluations have no syntax errors. -/
lemma CalcError.IsOfEvaluation.ne_parse {failure : CalcError} (h : failure.IsOfEvaluation)
    (error : ParseError) : failure ≠ .parse error := by
  rintro rfl
  cases h with
  | ofValues h => cases h
  | stopped h => cases h

/-- A failure of an evaluation is for a missing name or for values, or it stops the program. -/
lemma CalcError.IsOfEvaluation.isOfValues_or_stops {failure : CalcError}
    (h : failure.IsOfEvaluation) (hname : ∀ name, failure ≠ .undefinedVariable name) :
    failure.IsOfValues ∨ failure.stops = true := by
  cases h with
  | ofValues h => exact .inl h
  | missing name => exact absurd rfl (hname name)
  | stopped h => exact .inr h

namespace Calculator

variable {calculator : Calculator} {surroundings : Surroundings} {text : String} {sources : Sources}
  {failure : CalcError}

/-! ## Evaluations of a text -/

/-- A formula without an expression fails for that. -/
lemma attempt_of_compileFormula (h : compileFormula text = .error failure) :
    calculator.attempt surroundings text sources = .error failure := by
  unfold attempt
  rw [h]
  rfl

/-- A formula fails for its syntax, or as its evaluation does. -/
lemma compileFormula_or_isOfEvaluation
    (h : calculator.attempt surroundings text sources = .error failure) :
    compileFormula text = .error failure ∨ failure.IsOfEvaluation := by
  unfold attempt at h
  cases hcompile : compileFormula text with
  | error cause =>
    rw [hcompile] at h
    cases h
    exact .inl rfl
  | ok expr =>
    rw [hcompile] at h
    exact .inr (failsWith_evaluate expr failure h)

/-- **The failures that a calculator reports** without an argument `default` are all but those for a
missing name. -/
theorem evaluate_eq_error_iff (hdefault : sources.named.get? defaultName = none) :
    calculator.evaluate surroundings text sources = .error failure ↔
      calculator.attempt surroundings text sources = .error failure ∧
        ∀ name, failure ≠ .undefinedVariable name := by
  unfold evaluate
  cases hattempt : calculator.attempt surroundings text sources with
  | ok value => simp
  | error cause =>
    rw [hdefault]
    cases cause with
    | undefinedVariable name =>
      constructor
      · nofun
      · rintro ⟨⟨⟩, hname⟩
        exact absurd rfl (hname name)
    | _ =>
      dsimp only
      rw [ite_self]
      constructor
      · rintro ⟨⟩
        exact ⟨rfl, nofun⟩
      · rintro ⟨⟨⟩, -⟩
        rfl

/-- A formula has a syntax error exactly where it has no expression. -/
lemma compileFormula_eq_error_iff (hdefault : sources.named.get? defaultName = none) :
    compileFormula text = .error failure ↔
      calculator.evaluate surroundings text sources = .error failure ∧
        ∃ error, failure = .parse error := by
  rw [evaluate_eq_error_iff hdefault]
  constructor
  · intro hcompile
    obtain ⟨error, rfl⟩ := exists_parse_of_compileFormula hcompile
    exact ⟨⟨attempt_of_compileFormula hcompile, nofun⟩, error, rfl⟩
  · rintro ⟨⟨hattempt, -⟩, error, rfl⟩
    exact (compileFormula_or_isOfEvaluation hattempt).resolve_right fun h => h.ne_parse error rfl

/-- The failures that a calculator reports are syntax errors and those for values, and those that
stop the program. -/
lemma cases_of_evaluate_eq_error (hdefault : sources.named.get? defaultName = none)
    (h : calculator.evaluate surroundings text sources = .error failure) :
    (∃ error, failure = .parse error) ∨ failure.IsOfValues ∨ failure.stops = true := by
  obtain ⟨hattempt, hname⟩ := (evaluate_eq_error_iff hdefault).mp h
  exact (compileFormula_or_isOfEvaluation hattempt).imp exists_parse_of_compileFormula
    fun h => h.isOfValues_or_stops hname

/-- With an argument `default` there is a result, unless the program stops. -/
lemma stops_of_default {value : Json} (hdefault : sources.named.get? defaultName = some value)
    (h : calculator.evaluate surroundings text sources = .error failure) :
    failure.stops = true := by
  unfold evaluate at h
  split at h
  next => cases h
  next cause _ =>
    split_ifs at h with hstops
    · cases h
      exact hstops
    · rw [hdefault] at h
      cases h

/-- The check finds a formula not valid exactly where its result is a syntax error. -/
lemma check_eq_false_iff (hdefault : sources.named.get? defaultName = none) {message : String} :
    Service.check ⟨text⟩ = .success (.verdict false message) ↔
      ∃ error, calculator.evaluate surroundings text sources = .error (.parse error) ∧
        (CalcError.parse error).message = message := by
  have hiff (failure : CalcError) : compileFormula text = .error failure ↔
      calculator.evaluate surroundings text sources = .error failure ∧
        ∃ error, failure = .parse error := compileFormula_eq_error_iff hdefault
  unfold Service.check
  cases hcompile : compileFormula text with
  | error failure =>
    obtain ⟨hresult, error, rfl⟩ := (hiff failure).mp hcompile
    simp [hresult]
  | ok expr =>
    have hnone (error : ParseError) :
        calculator.evaluate surroundings text sources ≠ .error (.parse error) := by
      intro hresult
      have herror := (hiff (.parse error)).mpr ⟨hresult, error, rfl⟩
      rw [hcompile] at herror
      cases herror
    simp [hnone]

/-- The check finds a formula valid exactly where its result is not a syntax error. -/
lemma exists_check_eq_true_iff (hdefault : sources.named.get? defaultName = none) :
    (∃ message, Service.check ⟨text⟩ = .success (.verdict true message)) ↔
      ∀ error, calculator.evaluate surroundings text sources ≠ .error (.parse error) := by
  constructor
  · rintro ⟨message, hvalid⟩ error hresult
    have hinvalid := (check_eq_false_iff hdefault).mpr ⟨error, hresult, rfl⟩
    rw [hvalid] at hinvalid
    cases hinvalid
  · intro hnone
    unfold Service.check
    cases hcompile : compileFormula text with
    | error failure =>
      obtain ⟨hresult, error, rfl⟩ := (compileFormula_eq_error_iff hdefault).mp hcompile
      exact absurd hresult (hnone error)
    | ok expr => exact ⟨_, rfl⟩

end Calculator

/-! ## Requests to check a formula -/

/-- A request to check a formula. -/
structure Service.Request.Checks (request : Request) (text : String) : Prop where
  addresses : request.Addresses .check
  read : CheckBody.read request.body = .ok ⟨text⟩

/-- **The response to a request to check a formula** tells the verdict. -/
theorem Service.respond_of_checks {request : Request} {text : String} (h : request.Checks text)
    (calculator : Calculator) (surroundings : Surroundings) (requestId : String) :
    respond calculator surroundings requestId request =
      .ofReply requestId (some (check ⟨text⟩)) := by
  refine respond_of_addresses h.addresses ?_
  rw [reply, h.read]
  rfl

/-! ## Failures -/

/-- **How formulas fail.** Without an argument `default`, a calculator reports a syntax error
exactly where the formula has no expression, and reports the same error. The service, asked to check
the formula in a body that is not too long, answers that it is not valid in just these cases, with
the message of that error, and that it is valid in all others. Each other failure that is reported
is one of operators and functions for their values. With an argument `default`, there is always a
result. All this is said of evaluations in which the program does not stop. -/
theorem Calculator.failures_of_evaluate (calculator : Calculator) (surroundings : Surroundings)
    (text : String) (sources : Sources) :
    (sources.named.get? defaultName = none →
      (∀ failure, compileFormula text = .error failure ↔
        calculator.evaluate surroundings text sources = .error failure ∧
          ∃ error, failure = .parse error) ∧
      (∀ (requestId : String) (request : Service.Request), request.Checks text →
        let response := Service.respond calculator surroundings requestId request
        (∀ message, response.Judges requestId false message ↔
          ∃ error, calculator.evaluate surroundings text sources = .error (.parse error) ∧
            (CalcError.parse error).message = message) ∧
        ((∃ message, response.Judges requestId true message) ↔
          ∀ error, calculator.evaluate surroundings text sources ≠ .error (.parse error))) ∧
      ∀ failure, calculator.evaluate surroundings text sources = .error failure →
        (∃ error, failure = .parse error) ∨ failure.IsOfValues ∨ failure.stops = true) ∧
    ∀ value, sources.named.get? defaultName = some value →
      ∀ failure, calculator.evaluate surroundings text sources = .error failure →
        failure.stops = true := by
  refine ⟨fun hdefault => ⟨fun failure => compileFormula_eq_error_iff hdefault, ?_,
    fun failure => cases_of_evaluate_eq_error hdefault⟩,
    fun _ hdefault _ => stops_of_default hdefault⟩
  intro requestId request hrequest response
  have hresponse : response = .ofReply requestId (some (Service.check ⟨text⟩)) :=
    Service.respond_of_checks hrequest calculator surroundings requestId
  rw [hresponse]
  refine ⟨fun message => Service.judges_iff.trans (check_eq_false_iff hdefault), ?_⟩
  rw [← exists_check_eq_true_iff hdefault]
  exact exists_congr fun message => Service.judges_iff

/-- A sum with one operand, evaluated and checked. -/
theorem Calculator.failures_of_open_sum :
    let surroundings : Surroundings := { now := ⟨0, 0⟩, chance := 0.5 }
    let request : Service.Request :=
      { method := "POST", target := "/api/v1/check", contentType := some "application/json"
        body := Service.recordText [("expression", Json.quote "x+")] }
    let failure : CalcError := .parse (.formula (.grammatical ⟨.endOfTokens, 2⟩))
    let named : Json.Fields := [("default", .text "-")]
    (({} : Sources).named.get? defaultName = none ∧ compileFormula "x+" = .error failure ∧
      standard.evaluate surroundings "x+" {} = .error failure ∧ request.Checks "x+" ∧
      (Service.respond standard surroundings "id" request).Judges "id" false failure.message ∧
      (¬ ∃ message, (Service.respond standard surroundings "id" request).Judges "id" true message) ∧
      ((∃ error, failure = .parse error) ∨ failure.IsOfValues ∨ failure.stops = true)) ∧
    named.get? defaultName = some (.text "-") ∧
      ∀ failure, standard.evaluate surroundings "x+" { named } ≠ .error (.parse failure) := by
  intro surroundings request failure named
  have hcompile : compileFormula "x+" = .error failure := by with_unfolding_all rfl
  have hrequest : request.Checks "x+" :=
    ⟨⟨rfl, by decide, fun _ => by decide, fun _ => by decide⟩,
      Service.CheckBody.read_recordText "x+"⟩
  obtain ⟨hparse, hchecked, hkinds⟩ :=
    (failures_of_evaluate standard surroundings "x+" {}).1 rfl
  have hresult := ((hparse failure).mp hcompile).1
  obtain ⟨hinvalid, hvalid⟩ := hchecked "id" request hrequest
  refine ⟨⟨rfl, hcompile, hresult, hrequest, (hinvalid _).mpr ⟨_, hresult, rfl⟩,
    fun hjudges => hvalid.mp hjudges _ hresult, hkinds failure hresult⟩, rfl, ?_⟩
  intro error herror
  have hstops :=
    (failures_of_evaluate standard surroundings "x+" { named }).2 (.text "-") rfl _ herror
  cases hstops

/-! ## Limits of the check and of the argument -/

/-- A text that begins with a character that begins no token has no expression. -/
lemma compileFormula_of_fault {c : Char} {rest : List Char} {fault : Formula.LexFault}
    (hblank : Text.isBlank c = false) (h : Formula.readToken c rest = .error fault) :
    compileFormula (String.ofList (c :: rest)) =
      .error (.parse (.formula (.lexical ⟨fault, 0⟩))) := by
  have hscan : Formula.scan (c :: rest) = .error (fault, (c :: rest).length) := by
    rw [Formula.scan.eq_def]
    dsimp only
    rw [if_neg (by simp [hblank])]
    split
    next fault' hread =>
      rw [h] at hread
      cases hread
      rfl
    next hread =>
      rw [h] at hread
      cases hread
  have htokens : Formula.tokenize (String.ofList (c :: rest)) = .error ⟨fault, 0⟩ := by
    rw [Formula.tokenize, String.toList_ofList, hscan, Except.mapError, String.length_ofList,
      Nat.sub_self]
  rw [compileFormula, Formula.compile, htokens]
  rfl

/-- A text that asks for the year of data. -/
lemma compileFormula_year : compileFormula "YEAR(x)" = .ok (.call "YEAR" [.reference "x"]) := by
  have htokens : Formula.tokenize "YEAR(x)" =
      .ok [.name "YEAR", .openParen, .name "x", .closeParen] := by
    have hscans : Formula.Scans "YEAR(x)".toList
        [.name "YEAR", .openParen, .name "x", .closeParen] :=
      .token rfl (.name ⟨by decide, rfl, by decide⟩ rfl)
        (.token rfl (.mark ⟨by decide, rfl, by decide⟩ rfl rfl)
          (.token rfl (.name ⟨by decide, rfl, by decide⟩ rfl)
            (.token rfl (.mark ⟨by decide, rfl, by decide⟩ rfl rfl) .nil)))
    rw [Formula.tokenize, Formula.scan_eq_ok_iff.mpr hscans]
    rfl
  rw [compileFormula, Formula.compile, htokens]
  with_unfolding_all rfl

/-- The year of data that is the milliseconds of an instant that the clock of the zone does not show
stops the program. -/
lemma evaluate_year_of_clock {context : Context} {scope : Scope} {value : Value} {moment : Moment}
    (hvalue : scope.lookup "x" = some value)
    (hmoment : Moment.ofValue? context.zone value = some moment)
    (hclock : moment.onCalendar = false) :
    evaluate context scope (.call "YEAR" [.reference "x"]) =
      .error (.invalidDate .offCalendar) := by
  let year : Function := ⟨"YEAR", .date, "YEAR(date, tz?)", "Calendar year",
    Library.dateField "YEAR" fun moment => moment.date.year⟩
  have hmem : year ∈ Library.standard :=
    Library.mem_standard_iff.mpr (.inr (by simp [Library.dates, year]))
  have hcallee : callee scope year.name = .ok year := by rw [callee, Library.find?_name hmem]
  have harguments : evaluateAll context scope [.reference "x"] = .ok [value] := by
    simp only [evaluateAll, evaluate, resolve, hvalue, bind, Except.bind]
    rfl
  have hdate : Library.dateArgument "YEAR" context.zone (some value) = .ok moment := by
    rw [Library.dateArgument, Option.getD_some, hmoment]
  rw [evaluate, show callee scope "YEAR" = .ok year from hcallee, harguments]
  change Library.dateField "YEAR" (fun moment => moment.date.year) context [value] = _
  have hrequire : Function.require "YEAR" (.between 1 2) [value] = .ok () := rfl
  simp only [Library.dateField, hrequire, Library.zoneArgument, List.getElem?_cons_succ,
    List.getElem?_nil, List.getElem?_cons_zero, hdate, Library.requireCalendar, hclock, bind,
    Except.bind]
  rfl

/-- **A formula that is too long to be checked, and one without a result in spite of an argument
`default`.** The first one has no expression, but a body with it is refused for its length. The
other one asks for the year of the first instants of the calendar, which a clock to the west of
Greenwich does not show, and stops the program. -/
theorem Calculator.check_of_long_text :
    let surroundings : Surroundings := { now := ⟨0, 0⟩, chance := 0.5 }
    let text := String.ofList ('#' :: List.replicate Service.bodyLimit ' ')
    let request : Service.Request :=
      { method := "POST", target := "/api/v1/check", contentType := some "application/json"
        body := Service.recordText [("expression", Json.quote text)] }
    let western : Calculator :=
      { configuration := { Configuration.standard with timezone := "-05:00" }
        zone := .fixed (-18000) }
    let sources : Sources :=
      { rootData := some (.object [("x", .integer (-8334601228800000))])
        named := [("default", .text "-")] }
    (({} : Sources).named.get? defaultName = none ∧
      Service.CheckBody.read request.body = .ok ⟨text⟩ ∧
      (∃ error, standard.evaluate surroundings text {} = .error (.parse error)) ∧
      ∀ requestId message,
        ¬ (Service.respond standard surroundings requestId request).Judges requestId false message) ∧
    ofConfigurationIn surroundings.zones western.configuration = .ok western ∧
      sources.named.get? defaultName = some (.text "-") ∧
      ∃ failure, western.evaluate surroundings "YEAR(x)" sources = .error failure := by
  intro surroundings text request western sources
  have hcompile : compileFormula text =
      .error (.parse (.formula (.lexical ⟨.unexpected '#', 0⟩))) :=
    compileFormula_of_fault (by decide) (by rfl)
  have hresult : ∃ error, standard.evaluate surroundings text {} = .error (.parse error) :=
    ⟨_, ((compileFormula_eq_error_iff rfl).mp hcompile).1⟩
  have hsize : Service.bodyLimit < request.body.utf8ByteSize := calc
    Service.bodyLimit < text.length := by
      rw [← String.length_toList, String.toList_ofList, List.length_cons, List.length_replicate]
      exact Nat.lt_succ_self _
    _ ≤ (Json.quote text).length := Service.length_le_length_quote text
    _ < request.body.utf8ByteSize :=
      Service.length_lt_utf8ByteSize_recordText (List.mem_singleton.mpr rfl)
  have hpath : Service.pathOf? request.target = some Service.Endpoint.check.path := by decide
  refine ⟨⟨rfl, Service.CheckBody.read_recordText text, hresult, ?_⟩, ?_, rfl, ?_⟩
  · intro requestId message hjudges
    have hresponse := hjudges.symm.trans
      (Service.respond_of_long_body rfl rfl hpath (by decide) hsize)
    cases congrArg Service.Response.status hresponse
  · have hzone : Zone.ofTextIn? Zone.known "-05:00" = some (.fixed (-18000)) := by decide +kernel
    have hvalid : western.configuration.validate = .ok () := rfl
    rw [ofConfigurationIn, hvalid]
    simp only [western, surroundings, hzone, bind, Except.bind]
    rfl
  · refine ⟨.invalidDate .offCalendar, ?_⟩
    have hattempt : western.attempt surroundings "YEAR(x)" sources =
        .error (.invalidDate .offCalendar) := by
      rw [attempt, compileFormula_year]
      let first : Moment := ⟨⟨-8334601228800, 0⟩, .fixed (-18000), .dateTime⟩
      have hfirst : Moment.ofValue? (.fixed (-18000))
          (.number (Number.ofInt (-8334601228800000))) = some first := by
        decide +kernel
      exact evaluate_year_of_clock rfl hfirst (by decide +kernel)
    rw [evaluate, hattempt]
    rfl

end SheetFormula
