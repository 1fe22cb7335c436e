import TypeMismatch.Proofs.Pattern.Sentence
import TypeMismatch.Proofs.Template.Outline
import TypeMismatch.Template.Standard

/-!
# The standard templates and their outlines

Each pattern of a standard template is that of an outline; the one on overloads has an introduction
in front.  What the templates match is read off these outlines, no longer off their patterns.
-/

namespace TypeMismatch.Standard

open Pattern Template

/-- The template of a recipe whose pattern has been read. -/
def Recipe.withRoot (r : Recipe) (root : Node) : Template :=
  ⟨r.name, ⟨r.pattern, root, 2, plainFlags⟩, r.labels⟩

def overloadIntroduction : List Char := "No overload matches this call".toList

def overloadOutline : Outline where
  lead := [.either 'T' 't', .text "ype ".toList]
  link := [.text " is not assignable to ".toList, .optional "parameter of ".toList,
    .text "type ".toList]
  trail := []

def parameterOutline : Outline where
  lead := [.either 'A' 'a', .text "rgument of type ".toList]
  link := [.text " is not assignable to parameter of type ".toList]
  trail := [.optional ['.']]

def missingPropsOutline : Outline where
  lead := [.text "Type ".toList]
  link := [.text " is missing the following properties from type ".toList]
  trail := []

def propertyOutline : Outline where
  lead := [.text "Property ".toList]
  link := [.text " does not exist on type ".toList]
  trail := [.optional ['.']]

def assignabilityOutline : Outline where
  lead := [.either 'T' 't', .text "ype ".toList]
  link := [.text " is not assignable to ".toList, .line, .text "type ".toList]
  trail := [.optional ['.']]

def returnMismatchOutline : Outline where
  lead := [.text "Type ".toList]
  link := [.text " is not assignable to type ".toList]
  trail := []

def overload : Template :=
  recipes[0].withRoot
    (Node.ofList (literals overloadIntroduction ++ (anything :: overloadOutline.nodes)))

def parameter : Template := recipes[1].withRoot (Node.ofList parameterOutline.nodes)

def missingProps : Template := recipes[2].withRoot (Node.ofList missingPropsOutline.nodes)

def property : Template := recipes[3].withRoot (Node.ofList propertyOutline.nodes)

def assignability : Template := recipes[4].withRoot (Node.ofList assignabilityOutline.nodes)

def returnMismatch : Template := recipes[5].withRoot (Node.ofList returnMismatchOutline.nodes)

/-- The patterns are read as these outlines. -/
theorem templates_eq :
    templates =
      ⟨[("overload", overload), ("parameter", parameter), ("missing_props", missingProps),
        ("property", property), ("assignability", assignability),
        ("return_mismatch", returnMismatch)], codes⟩ := by
  decide +kernel

theorem introduced_overload : Introduced overload overloadIntroduction overloadOutline where
  root := rfl
  flags := rfl
  unrestricted := unrestricted_of_firstSet? rfl

theorem outlined_parameter : Outlined parameter parameterOutline where
  root := rfl
  flags := rfl
  unrestricted := unrestricted_of_set
  oneLine := by constructor <;> decide

theorem outlined_missingProps : Outlined missingProps missingPropsOutline where
  root := rfl
  flags := rfl
  unrestricted := unrestricted_of_firstSet? rfl
  oneLine := by constructor <;> decide

theorem outlined_property : Outlined property propertyOutline where
  root := rfl
  flags := rfl
  unrestricted := unrestricted_of_firstSet? rfl
  oneLine := by constructor <;> decide

theorem outlined_assignability : Outlined assignability assignabilityOutline where
  root := rfl
  flags := rfl
  unrestricted := unrestricted_of_set
  oneLine := by constructor <;> decide

theorem outlined_returnMismatch : Outlined returnMismatch returnMismatchOutline where
  root := rfl
  flags := rfl
  unrestricted := unrestricted_of_firstSet? rfl
  oneLine := by constructor <;> decide

end TypeMismatch.Standard
