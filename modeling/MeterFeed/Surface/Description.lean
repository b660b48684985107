import MeterFeed.Surface.Limit
import MeterFeed.Surface.Route

/-!
# The description of the surface

The surface describes itself by an OpenAPI document: its routes with their parameters and answers,
and schemas for what answers hold. The order of members is fixed. Pages for readers only name the
surface.
-/

namespace MeterFeed

namespace Description

def title : String := "Kwollect Input"

/-! ## Schemas -/

def typed (type : String) : Fields Json :=
  [("type", .text type)]

def named (name : String) : Fields Json :=
  [("$ref", .text ("#/components/schemas/" ++ name))]

def anyOf (schemas : List (Fields Json)) : Fields Json :=
  [("anyOf", .array (schemas.map .object))]

def listOf (schema : Fields Json) : Fields Json :=
  [("items", .object schema), ("type", .text "array")]

def titled (title : String) (schema : Fields Json) : Fields Json :=
  schema ++ [("title", .text title)]

def objectOf (name : String) (required : List String) (properties : Fields (Fields Json)) :
    String × Json :=
  let members := if required.isEmpty then [] else [("required", .array (required.map .text))]
  (name, .object (titled name ([
    ("properties", .object (properties.map fun p => (p.1, .object p.2))),
    ("type", .text "object")] ++ members)))

def textTitled (name : String) : Fields Json :=
  titled name (typed "string")

def acceptedSchema : String × Json :=
  objectOf "EventAccepted" ["status", "event"] [
    ("status", textTitled "Status"), ("event", textTitled "Event")]

def refusalSchema : String × Json :=
  objectOf "HTTPValidationError" [] [("detail", titled "Detail" (listOf (named "ValidationError")))]

def healthSchema : String × Json :=
  objectOf "HealthOut" ["status", "state", "metrics"] [
    ("status", textTitled "Status"), ("state", textTitled "State"),
    ("metrics", titled "Metrics" (listOf (typed "string")))]

def partySchema : String × Json :=
  objectOf "Identity" ["kind"] [
    ("kind", textTitled "Kind"), ("id", titled "Id" (anyOf [typed "string", typed "null"]))]

def attributesSchema : Fields Json :=
  [("additionalProperties", .object (anyOf (["boolean", "integer", "number", "string"].map typed))),
    ("type", .text "object"), ("title", .text "Attributes"), ("default", .object [])]

def measurementSchema : String × Json :=
  objectOf "MeasurementOut" ["metric", "timestamp", "value", "resource", "consumer"] [
    ("metric", textTitled "Metric"),
    ("timestamp", titled "Timestamp" (typed "string" ++ [("format", .text "date-time")])),
    ("value", titled "Value" (anyOf [typed "integer", typed "number"])),
    ("resource", named "Identity"), ("consumer", named "Identity"),
    ("attributes", attributesSchema)]

def faultSchema : String × Json :=
  objectOf "ValidationError" ["loc", "msg", "type"] [
    ("loc", titled "Location" (listOf (anyOf [typed "string", typed "integer"]))),
    ("msg", textTitled "Message"), ("type", textTitled "Error Type"),
    ("input", titled "Input" []), ("ctx", titled "Context" (typed "object"))]

def schemas : Fields Json :=
  [acceptedSchema, refusalSchema, healthSchema, partySchema, measurementSchema, faultSchema]

/-! ## Routes -/

def answer (status : Nat) (description : String) (schema : Fields Json) : String × Json :=
  (toString status, .object [("description", .text description),
    ("content", .object [("application/json", .object [("schema", .object schema)])])])

def success (status : Nat) (schema : Fields Json) : String × Json :=
  answer status "Successful Response" schema

def refused : String × Json :=
  answer 422 "Validation Error" (named "HTTPValidationError")

/-- A text as a part of a name: other characters than letters and digits become underscores. -/
def identifier (s : String) : String :=
  String.ofList (s.toList.map fun c => if c.isAlphanum then c.toLower else '_')

def route (r : Route) (tag summary : String) (parameters : Fields Json) (answers : Fields Json) :
    String × Json :=
  let name := identifier summary ++ identifier r.path ++ "_" ++ identifier r.method
  (r.path, .object [(identifier r.method, .object ([
    ("tags", .array [.text tag]), ("summary", .text summary), ("operationId", .text name)] ++
    parameters ++ [("responses", .object answers)]))])

def limitParameter : Json :=
  .object [("name", .text "limit"), ("in", .text "query"), ("required", .bool false),
    ("schema", .object (titled "Limit" (typed "integer" ++ [("maximum", Json.int Limit.greatest),
      ("minimum", Json.int 0), ("default", Json.int Limit.standard)])))]

def measurementsSchema : Fields Json :=
  titled "Response Recent Measurements V2 Measurements Get"
    [("type", .text "array"), ("items", .object (named "MeasurementOut"))]

def routes : Fields Json := [
  route .health "health" "Health" [] [success 200 (named "HealthOut")],
  route .cycleFinished "v2" "Measurement Cycle Finished" [] [success 202 (named "EventAccepted")],
  route .measurements "v2" "Recent Measurements" [("parameters", .array [limitParameter])]
    [success 200 measurementsSchema, refused]]

/-! ## The document and the pages -/

def document : Json :=
  .object [("openapi", .text "3.1.0"),
    ("info", .object [("title", .text title),
      ("description", .text "Grid'5000 Kwollect measurements, fetched on demand"),
      ("version", .text "0.1.0")]),
    ("paths", .object routes), ("components", .object [("schemas", .object schemas)])]

def browserTitle : String := title ++ " - Swagger UI"

def signInTitle : String := "Swagger UI: OAuth2 Redirect"

def manualTitle : String := title ++ " - ReDoc"

def page (title : String) : String :=
  "\n    <!DOCTYPE html>\n    <html>\n    <head>\n    <title>" ++ title ++
    "</title>\n    </head>\n    </html>\n    "

end Description

end MeterFeed
