import PodPolicy.Rule
import PodPolicy.Value

/-!
# Rules and violations as values

The entries under which a rule and a violation are told to the outside.
-/

namespace PodPolicy

def Violation.toValue (v : Violation) : Value :=
  let optional : Option String → Value := fun name => (name.map Value.text).getD .null
  .record [
    ("rule_id", .text v.ruleId),
    ("message", .text v.message),
    ("kind", .text v.kind.word),
    ("severity", .text v.severity.word),
    ("category", .text v.category),
    ("container", optional v.container),
    ("volume", optional v.volume)]

def RuleInfo.toValue (info : RuleInfo) : Value :=
  .record [
    ("rule_id", .text info.id),
    ("scope", .text info.scope.word),
    ("severity", .text info.severity.word),
    ("category", .text info.category),
    ("description", .text info.description)]

end PodPolicy
