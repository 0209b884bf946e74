import SheetFormula.Proofs.Json.Quoting
import SheetFormula.Service.Respond

/-!
# What replies say

A reply is a text, and what a formula has come to can be told from it: whether it has a result, how
that is displayed, and otherwise what went wrong; and when it was only checked, whether it has an
expression. A request that is addressed to an endpoint in the right way is answered by the reply of
that endpoint, if there is one.

## Main definitions

* `SheetFormula.Service.Response.Succeeds`, `Response.Fails`, `Response.Judges` — the responses with
  the display of a result, with the report of a failure, and with the verdict on a formula.
* `SheetFormula.Service.Request.Addresses` — the requests for an endpoint.

## Main results

* `SheetFormula.Service.display_eq_of_text_eq`, `report_eq_of_text_eq`, `verdict_eq_of_text_eq` —
  the text of a reply tells the display, the report or the verdict.
* `SheetFormula.Service.succeeds_iff`, `fails_iff`, `unanswered_iff`, `judges_iff` — what a response
  tells is what the formula comes to.
* `SheetFormula.Service.respond_of_addresses`, `respond_of_refused_body`, `respond_of_long_body` —
  the response to a request for an endpoint, and to one with a body that is refused.
-/

set_option relaxedAutoImplicit false
set_option autoImplicit false

namespace SheetFormula.Service

variable {requestId : String}

/-! ## Texts of replies -/

/-- A record with two fields. -/
lemma recordText_pair (name text name' text' : String) :
    recordText [(name, text), (name', text')] =
      "\x7b" ++ Json.quote name ++ ":" ++ text ++ "," ++ Json.quote name' ++ ":" ++ text' ++
        "\x7d" := by
  simp [recordText, String.append_assoc]

/-- A record with three fields. -/
lemma recordText_triple (name text name' text' name'' text'' : String) :
    recordText [(name, text), (name', text'), (name'', text'')] =
      "\x7b" ++ Json.quote name ++ ":" ++ text ++ "," ++ Json.quote name' ++ ":" ++ text' ++ "," ++
        Json.quote name'' ++ ":" ++ text'' ++ "\x7d" := by
  simp [recordText, String.append_assoc]

/-- **The reply about a result tells how it is displayed.** The display is the last field of the
data, and the data that of the reply. -/
theorem display_eq_of_text_eq {result result' : Scalar} {display display' : String}
    (h : (Reply.success (.result result display)).text requestId =
      (Reply.success (.result result' display')).text requestId) : display = display' := by
  rw [Reply.text, Reply.text, recordText_triple, recordText_triple, String.append_left_inj,
    String.append_right_inj, ReplyData.text, ReplyData.text, recordText_pair, recordText_pair,
    String.append_left_inj] at h
  exact Json.eq_of_append_quote h

/-- **The reply about a failure tells the report.** -/
theorem report_eq_of_text_eq {report report' : String}
    (h : (Reply.failure report).text requestId = (Reply.failure report').text requestId) :
    report = report' := by
  rw [Reply.text, Reply.text, recordText_triple, recordText_triple, String.append_left_inj] at h
  exact Json.eq_of_append_quote h

/-- **The reply about a formula that was checked tells the verdict and the message.** -/
theorem verdict_eq_of_text_eq {valid valid' : Bool} {message message' : String}
    (h : (Reply.success (.verdict valid message)).text requestId =
      (Reply.success (.verdict valid' message')).text requestId) :
    valid = valid' ∧ message = message' := by
  rw [Reply.text, Reply.text, recordText_triple, recordText_triple, String.append_left_inj,
    String.append_right_inj, ReplyData.text, ReplyData.text, recordText_pair, recordText_pair,
    String.append_left_inj] at h
  refine ⟨?_, Json.eq_of_append_quote h⟩
  -- the values of the first field begin with different letters
  have hchars := congrArg String.toList h
  simp only [String.append_assoc, String.toList_append, List.append_cancel_left_eq] at hchars
  cases valid <;> cases valid' <;> simp_all [Json.write]

/-- A reply about a result is none about a failure. -/
lemma text_success_ne_text_failure (data : ReplyData) (report : String) :
    (Reply.success data).text requestId ≠ (Reply.failure report).text requestId := by
  intro h
  rw [Reply.text, Reply.text, recordText_triple, recordText_triple] at h
  simp only [String.append_assoc, String.append_right_inj] at h
  have hchars := congrArg String.toList h
  simp only [String.toList_append] at hchars
  simp at hchars

/-! ## Answers about formulas -/

/-- The response to a request with a reply, if it has one. -/
def Response.ofReply (requestId : String) : Option Reply → Response
  | some reply => { status := 200, body := reply.text requestId }
  | none => .unanswered

/-- The response tells that a formula has a result, and how it is displayed. -/
def Response.Succeeds (response : Response) (requestId display : String) : Prop :=
  ∃ result : Scalar, response =
    { status := 200
      body := recordText [("success", "true"), ("request_id", Json.quote requestId),
        ("data", recordText [("result", result.toJson.write), ("display", Json.quote display)])] }

/-- The response tells that a formula fails, and reports why. -/
def Response.Fails (response : Response) (requestId report : String) : Prop :=
  response =
    { status := 200
      body := recordText [("success", "false"), ("request_id", Json.quote requestId),
        ("error", Json.quote report)] }

/-- The response tells whether a formula has an expression, and what there is to say about it. -/
def Response.Judges (response : Response) (requestId : String) (valid : Bool) (message : String) :
    Prop :=
  response =
    { status := 200
      body := recordText [("success", "true"), ("request_id", Json.quote requestId),
        ("data", recordText [("valid", if valid then "true" else "false"),
          ("message", Json.quote message)])] }

/-- The reply about what a formula comes to. -/
def Reply.ofResult? : Except CalcError Scalar → Option Reply
  | .ok result => some (.success (.result result result.display))
  | .error error => if error.stops then none else some (.failure error.report)

/-- Replies are told apart by their texts. -/
lemma Response.ofReply_some_eq {reply reply' : Reply} :
    ofReply requestId (some reply) = ofReply requestId (some reply') ↔
      reply.text requestId = reply'.text requestId := by
  simp [ofReply]

/-- A response with a reply is a response. -/
lemma Response.ofReply_ne_unanswered (reply : Reply) :
    ofReply requestId (some reply) ≠ .unanswered := by
  simp [ofReply, unanswered]

/-- Success is told by the reply about a result. -/
lemma Response.succeeds_eq {response : Response} {display : String} :
    response.Succeeds requestId display ↔
      ∃ result, response = ofReply requestId (some (.success (.result result display))) :=
  Iff.rfl

/-- Failure is told by the reply about it. -/
lemma Response.fails_eq {response : Response} {report : String} :
    response.Fails requestId report ↔ response = ofReply requestId (some (.failure report)) :=
  Iff.rfl

/-- A verdict is told by the reply with it. -/
lemma Response.judges_eq {response : Response} {valid : Bool} {message : String} :
    response.Judges requestId valid message ↔
      response = ofReply requestId (some (.success (.verdict valid message))) :=
  Iff.rfl

/-- **A response tells the display of a result** exactly where there is one that is so displayed. -/
theorem succeeds_iff {result : Except CalcError Scalar} {display : String} :
    (Response.ofReply requestId (Reply.ofResult? result)).Succeeds requestId display ↔
      ∃ value, result = .ok value ∧ value.display = display := by
  rw [Response.succeeds_eq]
  constructor
  · rintro ⟨value', hresponse⟩
    cases result with
    | ok value => exact ⟨value, rfl, display_eq_of_text_eq (Response.ofReply_some_eq.mp hresponse)⟩
    | error error =>
      rw [Reply.ofResult?] at hresponse
      split_ifs at hresponse
      · exact absurd hresponse.symm (Response.ofReply_ne_unanswered _)
      · exact absurd (Response.ofReply_some_eq.mp hresponse).symm (text_success_ne_text_failure _ _)
  · rintro ⟨value, rfl, rfl⟩
    exact ⟨value, rfl⟩

/-- **A response tells the report of a failure** exactly where there is one that is so reported and
does not stop the program. -/
theorem fails_iff {result : Except CalcError Scalar} {report : String} :
    (Response.ofReply requestId (Reply.ofResult? result)).Fails requestId report ↔
      ∃ error, result = .error error ∧ error.stops = false ∧ error.report = report := by
  rw [Response.fails_eq]
  constructor
  · intro hresponse
    cases result with
    | ok value =>
      exact absurd (Response.ofReply_some_eq.mp hresponse) (text_success_ne_text_failure _ _)
    | error error =>
      rw [Reply.ofResult?] at hresponse
      split_ifs at hresponse with hstops
      · exact absurd hresponse.symm (Response.ofReply_ne_unanswered _)
      · exact ⟨error, rfl, Bool.eq_false_iff.mpr hstops,
          report_eq_of_text_eq (Response.ofReply_some_eq.mp hresponse)⟩
  · rintro ⟨error, rfl, hstops, rfl⟩
    rw [Reply.ofResult?, hstops]
    rfl

/-- **There is no response** exactly where the program stops. -/
theorem unanswered_iff {result : Except CalcError Scalar} :
    Response.ofReply requestId (Reply.ofResult? result) = .unanswered ↔
      ∃ error, result = .error error ∧ error.stops = true := by
  cases result with
  | ok value => simp [Reply.ofResult?, Response.ofReply_ne_unanswered]
  | error error =>
    rw [Reply.ofResult?]
    split_ifs with hstops
    · exact ⟨fun _ => ⟨error, rfl, hstops⟩, fun _ => rfl⟩
    · simp [Response.ofReply_ne_unanswered, hstops]

/-- **A response tells the verdict on a formula** exactly where the check comes to it. -/
theorem judges_iff {body : CheckBody} {valid : Bool} {message : String} :
    (Response.ofReply requestId (some (check body))).Judges requestId valid message ↔
      check body = .success (.verdict valid message) := by
  rw [Response.judges_eq, Response.ofReply_some_eq]
  constructor
  · intro htext
    unfold check at htext ⊢
    split at htext <;> obtain ⟨rfl, rfl⟩ := verdict_eq_of_text_eq htext <;> rfl
  · intro h
    rw [h]

/-! ## Requests for an endpoint -/

/-- A request is made to an endpoint: by its method and to its path, and, where one is needed, with
a body that says it is JSON and is not too long. -/
structure Request.Addresses (request : Request) (endpoint : Endpoint) : Prop where
  method : request.method = endpoint.method
  path : pathOf? request.target = some endpoint.path
  contentType : endpoint.takesBody → request.contentType.any isJsonType
  size : endpoint.takesBody → request.body.utf8ByteSize ≤ bodyLimit

/-- Each endpoint is found at its path. -/
lemma Endpoint.ofPath?_path (endpoint : Endpoint) : ofPath? endpoint.path = some endpoint := by
  cases endpoint <;> decide

section Endpoint

variable {request : Request} {endpoint : Endpoint} {calculator : Calculator}
  {surroundings : Surroundings}

/-- A request that is made to an endpoint by its method is responded to by this endpoint. -/
lemma respond_of_path (hmethod : request.method = endpoint.method)
    (hpath : pathOf? request.target = some endpoint.path) :
    respond calculator surroundings requestId request =
      endpoint.respond calculator surroundings requestId request := by
  have hoptions : request.method ≠ "OPTIONS" := by
    rw [hmethod]
    cases endpoint <;> decide
  have hallows : endpoint.allows request.method := by simp [Endpoint.allows, hmethod]
  unfold respond
  rw [hpath]
  dsimp only
  rw [if_neg hoptions, Endpoint.ofPath?_path]
  exact if_pos hallows

/-- A request for an endpoint is responded to by the reply of the endpoint to the body, or by the
fault of the body. -/
lemma respond_eq_of_addresses (h : request.Addresses endpoint) :
    respond calculator surroundings requestId request =
      match reply calculator surroundings endpoint request.body with
      | .ok answer => .ofReply requestId answer
      | .error fault => { status := fault.status } := by
  have hhead : request.method ≠ "HEAD" := by
    rw [h.method]
    cases endpoint <;> decide
  have htype : (endpoint.takesBody && !(request.contentType.any isJsonType)) = false := by
    cases htakes : endpoint.takesBody with
    | false => rfl
    | true => rw [h.contentType htakes]; rfl
  have hsize : (endpoint.takesBody && decide (bodyLimit < request.body.utf8ByteSize)) = false := by
    cases htakes : endpoint.takesBody with
    | false => rfl
    | true => simpa using h.size htakes
  rw [respond_of_path h.method h.path, Endpoint.respond, htype, hsize]
  rcases reply calculator surroundings endpoint request.body with fault | ⟨_ | answer⟩
  all_goals simp [Response.ofReply, hhead]

/-- **The response to a request for an endpoint** is the reply of the endpoint to the body. -/
theorem respond_of_addresses {answer : Option Reply} (h : request.Addresses endpoint)
    (hreply : reply calculator surroundings endpoint request.body = .ok answer) :
    respond calculator surroundings requestId request = .ofReply requestId answer := by
  rw [respond_eq_of_addresses h, hreply]

/-- **A body that is not of the form of the request is refused.** -/
theorem respond_of_refused_body {fault : BodyFault} (h : request.Addresses endpoint)
    (hreply : reply calculator surroundings endpoint request.body = .error fault) :
    respond calculator surroundings requestId request = { status := fault.status } := by
  rw [respond_eq_of_addresses h, hreply]

/-- **A body that is too long is refused**, whatever is in it. -/
theorem respond_of_long_body (htakes : endpoint.takesBody)
    (hmethod : request.method = endpoint.method)
    (hpath : pathOf? request.target = some endpoint.path)
    (htype : request.contentType.any isJsonType) (hsize : bodyLimit < request.body.utf8ByteSize) :
    respond calculator surroundings requestId request = { status := 413 } := by
  rw [respond_of_path hmethod hpath, Endpoint.respond, htakes, htype]
  simp [hsize]

end Endpoint

end SheetFormula.Service
