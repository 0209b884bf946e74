import SheetFormula.Service.Body
import SheetFormula.Service.MediaType
import SheetFormula.Service.Reply
import SheetFormula.Service.Target

/-!
# Responding to requests

A service answers requests with a calculator. A request that asks which requests are allowed has an
empty answer for every path. Any other needs a known path, the right method, and, where there is a
body, a body that says it is JSON, is not too long, is JSON, and has the form of the request. A
formula that fails is no failure of the request.

## Main definitions

* `SheetFormula.Service.Request`, `SheetFormula.Service.Response` — requests and responses.
* `SheetFormula.Service.evaluate`, `SheetFormula.Service.check` — the replies about formulas.
* `SheetFormula.Service.respond` — the response to a request.
-/

set_option relaxedAutoImplicit false
set_option autoImplicit false

namespace SheetFormula.Service

/-- A request. -/
structure Request where
  method : String
  /-- The path, possibly with an address before it and a query behind it. -/
  target : String
  /-- The type of the body, if it is given. -/
  contentType : Option String := none
  body : String := ""
  deriving Repr, DecidableEq

/-- A response; its body is empty if there is nothing to say. -/
structure Response where
  status : Nat
  body : String := ""
  deriving Repr, DecidableEq

/-- The end of a request in whose evaluation the program stops: the connection is closed without a
response. No response has this status. -/
def Response.unanswered : Response :=
  { status := 0 }

/-! ## Replies -/

/-- The reply to a request to evaluate a formula. There is none if the program stops. -/
def evaluate (calculator : Calculator) (surroundings : Surroundings) (body : EvaluateBody) :
    Option Reply :=
  let sources : Sources :=
    { rootData := body.context, localData := body.localData, named := body.named.getD [] }
  match calculator.evaluate surroundings body.expression sources with
  | .ok result => some (.success (.result result result.display))
  | .error error => if error.stops then none else some (.failure error.report)

/-- The reply to a request to check a formula. -/
def check (body : CheckBody) : Reply :=
  match compileFormula body.expression with
  | .ok _ => .success (.verdict true "Expression is valid")
  | .error error => .success (.verdict false error.message)

/-- The reply about the service. -/
def about : Reply :=
  .success (.about "Spreadsheet Calc API Server" release
    "HTTP API for spreadsheet-style formula evaluation" (Endpoint.all.filter (· ≠ .root)))

/-- An example of a number format. -/
def formatText (format : NumberFormat) : String :=
  "1" ++ format.thousands.toString ++ "234" ++ format.decimal.toString ++ "56"

/-- The reply about the settings of the calculator. -/
def version (calculator : Calculator) : Reply :=
  .success (.version release calculator.zone.name
    (formatText calculator.configuration.numberFormat))

/-- The reply of an endpoint to a body, which only some of them look at. -/
def reply (calculator : Calculator) (surroundings : Surroundings) (endpoint : Endpoint)
    (body : String) : Except BodyFault (Option Reply) :=
  match endpoint with
  | .root => .ok (some about)
  | .health => .ok (some (.success (.health "healthy" "Server is running")))
  | .version => .ok (some (version calculator))
  | .functions => .ok (some (.success (.functions Library.standard)))
  | .evaluate => (EvaluateBody.read body).map (evaluate calculator surroundings)
  | .check => (CheckBody.read body).map fun request => some (check request)

/-! ## Requests -/

/-- The endpoint with a path. -/
def Endpoint.ofPath? (path : String) : Option Endpoint :=
  Endpoint.all.find? fun endpoint => endpoint.path == path

/-- Whether an endpoint allows a method. -/
def Endpoint.allows (endpoint : Endpoint) (method : String) : Bool :=
  method == endpoint.method || (!endpoint.takesBody && method == "HEAD")

/-- The status of a request with a refused body. -/
def BodyFault.status : BodyFault → Nat
  | .notJson => 400
  | .wrongForm => 422

/-- The bytes that a body may have. -/
def bodyLimit : Nat := 2097152

/-- The response of an endpoint that allows the method of a request. -/
def Endpoint.respond (calculator : Calculator) (surroundings : Surroundings) (requestId : String)
    (endpoint : Endpoint) (request : Request) : Response :=
  if endpoint.takesBody && !(request.contentType.any isJsonType) then { status := 415 }
  else if endpoint.takesBody && decide (bodyLimit < request.body.utf8ByteSize) then
    { status := 413 }
  else
    match reply calculator surroundings endpoint request.body with
    | .error fault => { status := fault.status }
    | .ok none => .unanswered
    | .ok (some reply) =>
      { status := 200, body := if request.method = "HEAD" then "" else reply.text requestId }

/-- The response to a request. A target that is none has no response but a refusal. -/
def respond (calculator : Calculator) (surroundings : Surroundings) (requestId : String)
    (request : Request) : Response :=
  match pathOf? request.target with
  | none => { status := 400 }
  | some path =>
    if request.method = "OPTIONS" then { status := 200 }
    else
      match Endpoint.ofPath? path with
      | none => { status := 404 }
      | some endpoint =>
        if endpoint.allows request.method then
          endpoint.respond calculator surroundings requestId request
        else { status := 405 }

end SheetFormula.Service
