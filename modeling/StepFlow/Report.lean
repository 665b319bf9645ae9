import StepFlow.Diagnostic
import StepFlow.Value.Basic

/-! Diagnostics as data, for reports that programs read. -/
namespace StepFlow

def Diagnostic.toValue (d : Diagnostic) : Value :=
  .map [(.str "code", .str d.code.name), (.str "message", .str d.message),
    (.str "location", (d.location.map Value.str).getD .null)]

/-- A report fails if there is anything to report. -/
def report (findings : List Diagnostic) : Members :=
  [(.str "diagnostics", .list (findings.map Diagnostic.toValue)),
    (.str "count", .int findings.length),
    (.str "status", .str (if findings.isEmpty then "PASS" else "FAIL"))]

end StepFlow
