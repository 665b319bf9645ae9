import StepFlow.Catalog.Manifest

/-! What is reported without ending anything. -/
namespace StepFlow

inductive Warning where
  /-- A variable holds no truth value, and the default is taken. -/
  | flagVariable (name value : String) (default : Bool)
  | flagSetting (key value : String) (default : Bool)
  /-- A variable names none of the choices, and the default is taken. -/
  | choiceVariable (name value : String) (choices : List String) (default : String)
  | choiceSetting (key value : String) (choices : List String) (default : String)
  | manifestSkipped (skipped : Skipped)
  | catalogMissing
  | noOverrides (step : String)
  deriving DecidableEq

/-- A truth value as messages show it. -/
def flagText (flag : Bool) : String :=
  (Scalar.bool flag).text

def Warning.message : Warning → String
  | flagVariable name value default =>
    s!"Invalid {name} value '{value}' (expected a boolean). Falling back to {flagText default}."
  | flagSetting key value default =>
    s!"Invalid {key} value '{value}' in config. Falling back to {flagText default}."
  | choiceVariable name value choices default =>
    s!"Invalid {name} value '{value}' (valid: " ++ ", ".intercalate choices ++
      s!"). Falling back to '{default}'."
  | choiceSetting key value choices default =>
    s!"Invalid {key} value '{value}' in config (valid: " ++ ", ".intercalate choices ++
      s!"). Falling back to '{default}'."
  | manifestSkipped skipped =>
    s!"Failed to load component manifest {skipped.path.text}: {skipped.report}"
  | catalogMissing =>
    "No component catalog configured (--catalog or FLOWGRAPH_CATALOG_PATHS); " ++
      "skipping component checks"
  | noOverrides step => s!"update-step for '{step}' has no overrides; document is unchanged"

end StepFlow
