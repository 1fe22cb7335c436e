import TypeMismatch.Json.Display
import TypeMismatch.Pattern.Fault
import TypeMismatch.Report
import TypeMismatch.Suggestion

/-!
# Failures

Only settings and templates can be refused; laying out, comparing and summarizing always succeed.  A
`Failure` is a cause.  Those about settings and templates have a report for the reader, `report?`;
the others say that a value or a file is not of a sort that can be worked with at all.
-/

namespace TypeMismatch

/-- What can be wrong with a template. -/
inductive TemplateFault where
  | nameless
  | missingPattern
  | invalidPattern (message : String)
  | patternKind (kind : Json.Kind)
  | groupCount (count : Nat)
  | missingLabels
  | labelKind
  deriving DecidableEq

/-- The number of groups of a template's pattern: the actual and the expected type. -/
def requiredGroups : Nat := 2

def TemplateFault.message : TemplateFault → String
  | .nameless => "template name must be a non-empty string"
  | .missingPattern => "missing matching pattern"
  | .invalidPattern message => s!"invalid pattern: {message}"
  | .patternKind kind => s!"pattern must be a string, got {kind.word}"
  | .groupCount count =>
    s!"pattern must have exactly {requiredGroups} capture groups, found {count}"
  | .missingLabels => "two display labels are required"
  | .labelKind => "labels must be strings"

/-- The least line length that settings accept. -/
def minLineLimit : Nat := 20

/-- What can be wrong with settings. -/
inductive SettingFault where
  | overridesKind (kind : Json.Kind)
  | unknownOption (name hint : String)
  | indentKind (kind : Json.Kind)
  | lineLimitKind (kind : Json.Kind)
  | lineLimitLow (value : Int)
  | switchKind (name : String) (kind : Json.Kind)
  | templateSetKind (kind : Json.Kind)
  | groupsKind (kind : Json.Kind)
  | groupEntry
  | templatesKind (kind : Json.Kind)
  | codesKind
  | invalidCode (shown : String)
  | unknownTemplate (code name hint : String)
  | invalidJson (message : String)
  | notAnObject
  deriving DecidableEq

/-- The words for a fault of settings. -/
def SettingFault.message : SettingFault → String
  | .overridesKind kind => s!"overrides must be a mapping, got {kind.word}"
  | .unknownOption name hint => Suggestion.withHint s!"unknown option '{name}'" hint
  | .indentKind kind => s!"indent must be a string, got {kind.word}"
  | .lineLimitKind kind => s!"max_line_length must be an integer, got {kind.word}"
  | .lineLimitLow value => s!"max_line_length must be at least {minLineLimit}, got {value}"
  | .switchKind name kind => s!"{name} must be a boolean, got {kind.word}"
  | .templateSetKind kind => s!"expected a TemplateSet, got {kind.word}"
  | .groupsKind kind => s!"highlight_groups must be a mapping, got {kind.word}"
  | .groupEntry => "highlight_groups entries must map strings to strings"
  | .templatesKind kind => s!"templates must be a mapping, got {kind.word}"
  | .codesKind => "expected a mapping of code -> template"
  | .invalidCode shown => s!"invalid diagnostic code {shown}"
  | .unknownTemplate code name hint =>
    Suggestion.withHint s!"code {code} maps to unknown template '{name}'" hint
  | .invalidJson message => s!"invalid JSON: {message}"
  | .notAnObject => "configuration file must contain a JSON object"

/-- Why a file was not read. -/
inductive FileFault where
  | missing
  | isDirectory
  | notDirectory
  | unusableName
  | longName
  | undecodable
  deriving DecidableEq

/-- Why something was refused. -/
inductive Failure where
  /-- A template is malformed; its name is given if it has one. -/
  | template (name : Option String) (fault : TemplateFault)
  /-- An option has a value that is not allowed. -/
  | setting (option : Option String) (fault : SettingFault)
  /-- A value is of a kind that cannot be used in its place at all. -/
  | unusable
  /-- A numeral has more digits than are read and written. -/
  | longNumeral
  /-- A string gives half of a pair of code units, which is no character. -/
  | loneSurrogate
  /-- Values lie too deep in one another. -/
  | tooDeep
  /-- A pattern was not compiled. -/
  | pattern (refusal : Pattern.Refusal)
  /-- A file was not read. -/
  | file (fault : FileFault)
  deriving DecidableEq

/-- The plain form of a value, where a text is needed. -/
def Json.written (value : Json) : Except Failure String :=
  match value.plain? with
  | some text => .ok text
  | none => .error .longNumeral

/-- The report on a failure that concerns settings or templates. -/
def Failure.report? : Failure → Option Report
  | .template name fault => some ⟨fault.message, Report.templateContext name⟩
  | .setting option fault => some ⟨fault.message, option⟩
  | _ => none

end TypeMismatch
