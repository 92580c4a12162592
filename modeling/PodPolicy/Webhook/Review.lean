import PodPolicy.Manifest.Declarations
import PodPolicy.Engine
import PodPolicy.Fault

/-!
# Admission reviews

A review asks whether an object may be admitted. The object is judged with the
namespace of the request where it has none of its own. Objects that cannot be
evaluated are denied; violations deny in every mode but audit, where they are
warnings.
-/

namespace PodPolicy

namespace Declared

open Fields

@[reducible]
def admissionRequest : Schema :=
  .record "AdmissionRequest" <|
    required "uid" .text <|
    optional "namespace" .text <|
    optional "operation" .text <|
    optional "object" opaqueMap .nil

@[reducible]
def admissionReview : Schema :=
  .record "AdmissionReview" <|
    .cons ⟨"apiVersion", "api_version", .preset⟩ .text <|
    .cons ⟨"kind", "kind", .preset⟩ .text <|
    required "request" admissionRequest .nil

end Declared

structure AdmissionRequest where
  uid : String
  namespaceName : Option String
  operation : Option String
  object : Option OpaqueMap

def AdmissionRequest.ofForm : Declared.admissionReview.Form → AdmissionRequest
  | ((_, _, ((uid, namespaceName, operation, object, _), _), _), _) =>
    { uid := uid
      namespaceName := namespaceName.join
      operation := operation.join
      object := object.join }

-- -----------------------------------------------------------------------------
-- Metadata
-- -----------------------------------------------------------------------------

def Value.parts? : Value → Option (List Value)
  | .list items | .tuple items | .set items => some items
  | .text s => some (s.toList.map fun c => .text (String.singleton c))
  | .bytes octets => some (octets.map fun octet => .int octet.toNat)
  | .mapping entries => some (entries.map (·.1))
  | _ => none

def Value.asPair (v : Value) : Except Fault (Value × Value) :=
  match v.parts? with
  | none => .error .notIterable
  | some [key, value] => if key.isKey then .ok (key, value) else .error .collectionAsKey
  | some _ => .error .notPair

/-- The entries of metadata: a mapping's own, or those that a list of pairs
makes; void metadata has none. -/
def metadataEntries (v : Value) : Except Fault Entries :=
  if v.isVoid then .ok []
  else
    match v with
    | .mapping entries => .ok entries
    | _ =>
      match v.parts? with
      | none => .error .notIterable
      | some parts => do
        let pairs ← parts.mapM Value.asPair
        return Entries.ofList pairs

/-- Fills in a namespace where the metadata has none. -/
def fillNamespace (metadata : Entries) : Option String → Entries
  | none => metadata
  | some name =>
    if (metadata.get "namespace").isVoid && !name.isEmpty then
      metadata.put (.text "namespace") (.text name)
    else metadata

def AdmissionRequest.judged (request : AdmissionRequest) (object : OpaqueMap) :
    Except Fault Value := do
  let entries : Entries := object.map fun (name, v) => (.text name, v)
  let metadata ← metadataEntries (entries.get "metadata")
  return .mapping
    (entries.put (.text "metadata") (.mapping (fillNamespace metadata request.namespaceName)))

-- -----------------------------------------------------------------------------
-- Decisions
-- -----------------------------------------------------------------------------

inductive Verdict
  | allowed
  | allowedWithWarnings (messages : List String)
  | denied (code : Nat) (message : String)
deriving DecidableEq, Repr

structure Decision where
  uid : String
  verdict : Verdict
deriving DecidableEq, Repr

def auditMode : String := "audit"

def Verdict.ofViolations (mode : String) (violations : List Violation) : Verdict :=
  if violations.isEmpty then .allowed
  else
    let messages := violations.map (·.message)
    if mode = auditMode then .allowedWithWarnings messages
    else .denied 403 ("; ".intercalate messages)

def Verdict.ofOutcome (mode : String) :
    Except Unjudged (List Violation) → Except Fault Verdict
  | .ok violations => .ok (.ofViolations mode violations)
  | .error (.shape e) => .ok (.denied 400 s!"Cannot evaluate manifest: {e.toText}")
  | .error (.fault f) => .error f

def AdmissionRequest.verdict (request : AdmissionRequest) (engine : Engine) (mode : String) :
    Except Fault Verdict :=
  match request.object.getD [] with
  | [] => .ok (.denied 400 "AdmissionReview request has no object")
  | object => do
    let manifest ← request.judged object
    Verdict.ofOutcome mode (engine.evaluate manifest)

def AdmissionRequest.decide (request : AdmissionRequest) (engine : Engine) (mode : String) :
    Except Fault Decision := do
  return ⟨request.uid, ← request.verdict engine mode⟩

end PodPolicy
