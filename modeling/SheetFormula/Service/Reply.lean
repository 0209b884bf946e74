import SheetFormula.Calculator
import SheetFormula.Json.Writer
import SheetFormula.Release

/-!
# Replies

A reply tells whether a request had success, the name of the request, and either some data or what
went wrong. It is shown as compact JSON whose fields stand in a fixed order.

## Main definitions

* `SheetFormula.Service.Reply` — the replies.
* `SheetFormula.Service.Reply.text` — a reply as JSON text.
-/

set_option relaxedAutoImplicit false
set_option autoImplicit false

namespace SheetFormula.Service

/-! ## Endpoints -/

/-- The places that answer requests. -/
inductive Endpoint where
  | root
  | health
  | version
  | functions
  | evaluate
  | check
  deriving Repr, DecidableEq

namespace Endpoint

/-- All endpoints. -/
def all : List Endpoint :=
  [root, health, version, functions, evaluate, check]

/-- The path of an endpoint. -/
def path : Endpoint → String
  | root => "/"
  | health => "/health"
  | version => "/version"
  | functions => "/api/v1/functions"
  | evaluate => "/api/v1/evaluate"
  | check => "/api/v1/check"

/-- Whether requests to an endpoint have a body. -/
def takesBody : Endpoint → Bool
  | evaluate | check => true
  | _ => false

/-- The method of requests to an endpoint. -/
def method (endpoint : Endpoint) : String :=
  if endpoint.takesBody then "POST" else "GET"

/-- What an endpoint does. -/
def description : Endpoint → String
  | root => "API documentation"
  | health => "Health check endpoint"
  | version => "Get server version"
  | functions => "List the function library"
  | evaluate => "Evaluate a formula against context data"
  | check => "Parse a formula without evaluating it"

end Endpoint

/-! ## Replies -/

/-- The data of replies. -/
inductive ReplyData where
  /-- The service and its endpoints. -/
  | about (name number description : String) (endpoints : List Endpoint)
  | health (status uptimeMessage : String)
  /-- The release, and the settings of the calculator. -/
  | version (number timezone numberFormat : String)
  /-- The functions of the library. -/
  | functions (entries : List Function)
  /-- The result of a formula, and how it is displayed. -/
  | result (value : Scalar) (display : String)
  /-- Whether a formula has an expression, and what there is to say about it. -/
  | verdict (valid : Bool) (message : String)

/-- The replies. -/
inductive Reply where
  | success (data : ReplyData)
  | failure (report : String)

/-! ## Replies as text -/

/-- An object whose fields, given as JSON text, stand in the given order. -/
def recordText (fields : List (String × String)) : String :=
  "\x7b" ++ String.intercalate "," (fields.map fun field => Json.quote field.1 ++ ":" ++ field.2)
    ++ "\x7d"

/-- An array whose items are given as JSON text. -/
def listText (items : List String) : String :=
  "[" ++ String.intercalate "," items ++ "]"

/-- An endpoint in the list of endpoints. -/
def Endpoint.text (endpoint : Endpoint) : String :=
  recordText [("path", Json.quote endpoint.path), ("method", Json.quote endpoint.method),
    ("description", Json.quote endpoint.description)]

/-- A function in the list of functions. -/
def functionText (function : Function) : String :=
  recordText [("name", Json.quote function.name), ("category", Json.quote function.category.name),
    ("signature", Json.quote function.signature), ("summary", Json.quote function.summary)]

/-- The data of a reply as JSON text. -/
def ReplyData.text : ReplyData → String
  | .about name number description endpoints =>
    recordText [("name", Json.quote name), ("version", Json.quote number),
      ("description", Json.quote description),
      ("endpoints", listText (endpoints.map Endpoint.text))]
  | .health status uptimeMessage =>
    recordText [("status", Json.quote status), ("uptime_message", Json.quote uptimeMessage)]
  | .version number timezone numberFormat =>
    recordText [("version", Json.quote number), ("timezone", Json.quote timezone),
      ("number_format", Json.quote numberFormat)]
  | .functions entries => listText (entries.map functionText)
  | .result value display =>
    recordText [("result", value.toJson.write), ("display", Json.quote display)]
  | .verdict valid message =>
    recordText [("valid", (Json.boolean valid).write), ("message", Json.quote message)]

/-- A reply as JSON text. -/
def Reply.text (requestId : String) : Reply → String
  | .success data =>
    recordText [("success", "true"), ("request_id", Json.quote requestId), ("data", data.text)]
  | .failure report =>
    recordText [("success", "false"), ("request_id", Json.quote requestId),
      ("error", Json.quote report)]

end SheetFormula.Service
