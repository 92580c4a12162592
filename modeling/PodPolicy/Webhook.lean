import PodPolicy.Json.Reader
import PodPolicy.Rule.Record
import PodPolicy.Settings
import PodPolicy.Webhook.Review

/-!
# The webhook

Requests become responses. What stands in the way of an answer is a failure of
its own kind, and each kind has its response.
-/

namespace PodPolicy

def Decision.toValue (d : Decision) : Value :=
  let outcome : List (String × Value) := match d.verdict with
    | .allowed => [("allowed", .bool true)]
    | .allowedWithWarnings messages =>
      [("allowed", .bool true), ("warnings", .list (messages.map .text))]
    | .denied code message =>
      [("allowed", .bool false),
       ("status", .record [("code", .int code), ("message", .text message)])]
  .record [
    ("apiVersion", .text "admission.k8s.io/v1"),
    ("kind", .text "AdmissionReview"),
    ("response", .record (("uid", .text d.uid) :: outcome))]

namespace Webhook

structure Request where
  method : String
  path : String
  body : List UInt8

structure Response where
  status : Nat
  body : Value

-- -----------------------------------------------------------------------------
-- Failures
-- -----------------------------------------------------------------------------

/-- Where a problem stands in a request: in the body, at a step or a position. -/
structure Complaint where
  path : List Value
  code : String
  message : String

inductive Failure
  | shape (message : String) (details : List String)
  | unreadableManifest (message : String)
  | refused (status : Nat) (detail : String)
  | invalidRequest (complaints : List Complaint)
  | unreadableBody
  | noSuchPath
  | wrongMethod
  | fault (label : String)

def Failure.ofUnjudged : Unjudged → Failure
  | .shape e => .shape e.message e.details
  | .fault f => .fault f.label

def Complaint.toValue (c : Complaint) : Value :=
  .record [
    ("type", .text c.code),
    ("loc", .list (.text "body" :: c.path)),
    ("msg", .text c.message)]

def detail (v : Value) : Value :=
  .record [("detail", v)]

def Failure.response (url : String) : Failure → Response
  | .shape message details =>
    ⟨422, .record [
      ("error", .text "Invalid document shape"),
      ("message", .text message),
      ("errors", .list (details.map .text))]⟩
  | .unreadableManifest message =>
    ⟨400, .record [("error", .text "Invalid manifest"), ("message", .text message)]⟩
  | .refused status reason =>
    ⟨status, .record [
      ("error", .text s!"HTTP {status} Error"),
      ("message", .text reason),
      ("path", .text url)]⟩
  | .invalidRequest complaints => ⟨422, detail (.list (complaints.map Complaint.toValue))⟩
  | .unreadableBody => ⟨400, detail (.text "There was an error parsing the body")⟩
  | .noSuchPath => ⟨404, detail (.text "Not Found")⟩
  | .wrongMethod => ⟨405, detail (.text "Method Not Allowed")⟩
  | .fault label =>
    ⟨500, .record [
      ("error", .text "Internal server error"),
      ("message", .text "An unexpected error occurred while evaluating the manifest"),
      ("error_type", .text label)]⟩

-- -----------------------------------------------------------------------------
-- Bodies
-- -----------------------------------------------------------------------------

def causeCode : Cause → String
  | .missing => "missing"
  | .notBool => "bool_type"
  | .unreadableBool => "bool_parsing"
  | .notInt => "int_type"
  | .unreadableInt => "int_parsing"
  | .fractional => "int_from_float"
  | .notFinite => "finite_number"
  | .oversized => "int_parsing_size"
  | .notText => "string_type"
  | .notUnicode => "string_unicode"
  | .untellable => "value_error"
  | .notList => "list_type"
  | .notMapping => "dict_type"
  | .notRecord _ => "model_attributes_type"
  | .keyNotText => "invalid_key"

/-- A body may be any object with the fields of a record. -/
def causeMessage : Cause → String
  | .notRecord _ => "Input should be a valid dictionary or object to extract fields from"
  | cause => cause.message

def stepValue : Step → Value
  | .index i => .int i
  | step => .text step.toText

def Complaint.ofProblem (p : Problem) : Complaint :=
  ⟨p.path.map stepValue, causeCode p.cause, causeMessage p.cause⟩

def missingBody : Failure :=
  .invalidRequest [⟨[], causeCode .missing, causeMessage .missing⟩]

/-- The value that a body holds; an empty body and null hold none. -/
def readBody (octets : List UInt8) : Except Failure Value :=
  if octets.isEmpty then .error missingBody
  else
    match Text.decodeDetected? octets with
    | none => .error .unreadableBody
    | some s =>
      match Json.read s with
      | .ok .null => .error missingBody
      | .ok v => .ok v
      | .error e =>
        match e.problem with
        | .tooManyDigits => .error .unreadableBody
        | _ => .error (.invalidRequest [⟨[.int e.position], "json_invalid", "JSON decode error"⟩])

def checkBody (s : Schema) (octets : List UInt8) : Except Failure s.Form := do
  let v ← readBody octets
  match s.check v with
  | .ok form => return form
  | .error problems => .error (.invalidRequest (problems.map Complaint.ofProblem))

end Webhook

-- -----------------------------------------------------------------------------
-- Routes
-- -----------------------------------------------------------------------------

/-- A running webhook: its engine and the mode in which it decides. -/
structure Webhook where
  engine : Engine
  mode : String

namespace Webhook

def title : String := "Kure Admission Policy"

def ofSettings (s : Settings) : Webhook :=
  ⟨Engine.make catalog s.disabledRules s.maxWorkers, s.mode⟩

/-- The metadata of a posted manifest is asked for its name first; it can be
void or a mapping. -/
def askName (manifest : Entries) : Except Failure Unit :=
  let metadata := manifest.get "metadata"
  if metadata.isVoid then .ok ()
  else
    match metadata with
    | .mapping _ => .ok ()
    | _ => .error (.fault Fault.fieldOfOther.label)

def evaluationReport (violations : List Violation) : Value :=
  .record [
    ("compliant", .bool violations.isEmpty),
    ("violations", .list (violations.map Violation.toValue))]

def evaluateManifest (w : Webhook) (octets : List UInt8) : Except Failure Value := do
  let fields ← checkBody (.dict .any) octets
  let manifest : Entries := fields.map fun (name, v) => (.text name, v)
  askName manifest
  match w.engine.evaluate (.mapping manifest) with
  | .ok violations => return evaluationReport violations
  | .error e => .error (.ofUnjudged e)

def validateAdmission (w : Webhook) (octets : List UInt8) : Except Failure Value := do
  let form ← checkBody Declared.admissionReview octets
  match (AdmissionRequest.ofForm form).decide w.engine w.mode with
  | .ok decision => return decision.toValue
  | .error fault => .error (.fault fault.label)

inductive Route
  | health
  | rules
  | evaluate
  | validate
deriving DecidableEq, Repr

def Route.method : Route → String
  | .health => "GET"
  | .rules => "GET"
  | .evaluate => "POST"
  | .validate => "POST"

/-- The path of a request without query, fragment and slashes at the end. -/
def routePath (path : String) : String :=
  let cs := path.toList.takeWhile fun c => c ≠ '?' && c ≠ '#'
  String.ofList (cs.reverse.dropWhile (· == '/')).reverse

def Route.ofPath? (path : String) : Option Route :=
  match routePath path with
  | "/health" => some .health
  | "/rules" => some .rules
  | "/evaluate" => some .evaluate
  | "/validate" => some .validate
  | _ => none

def answer (w : Webhook) (request : Request) : Except Failure Value :=
  match Route.ofPath? request.path with
  | none => .error .noSuchPath
  | some route =>
    if request.method = route.method then
      match route with
      | .health => .ok (.record [("status", .text "healthy")])
      | .rules => .ok (.list (w.engine.listRules.map RuleInfo.toValue))
      | .evaluate => w.evaluateManifest request.body
      | .validate => w.validateAdmission request.body
    else .error .wrongMethod

def respond (w : Webhook) (request : Request) : Response :=
  match w.answer request with
  | .ok body => ⟨200, body⟩
  | .error failure => failure.response request.path

end Webhook

end PodPolicy
