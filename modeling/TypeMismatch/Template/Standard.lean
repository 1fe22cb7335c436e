import TypeMismatch.Template.Set

/-!
# The standard templates

The messages of the compiler that compare two types.  The more particular ones come first, since the
one on assignability would match them as well.
-/

namespace TypeMismatch.Standard

/-- What a template is made of: its name, its pattern and its labels. -/
structure Recipe where
  name : String
  pattern : String
  labels : Labels

/-- The standard templates, in matching order. -/
def recipes : List Recipe :=
  [ ⟨"overload",
      "No overload matches this call(?s:.*)[Tt]ype '(.+)' is not assignable to " ++
        "(?:parameter of )?type '(.+)'",
      ⟨"Argument:", "Overload expects:"⟩⟩,
    ⟨"parameter",
      "[Aa]rgument of type '(.+)' is not assignable to parameter of type '(.+)'\\.?",
      ⟨"Argument type:", "Parameter type:"⟩⟩,
    ⟨"missing_props",
      "Type '(.+)' is missing the following properties from type '(.+)'",
      ⟨"Actual type:", "Required type:"⟩⟩,
    ⟨"property",
      "Property '(.+)' does not exist on type '(.+)'\\.?",
      ⟨"Property:", "Type:"⟩⟩,
    ⟨"assignability",
      "[Tt]ype '(.+)' is not assignable to .*type '(.+)'\\.?",
      ⟨"Actual type:", "Expected type:"⟩⟩,
    ⟨"return_mismatch",
      "Type '(.+)' is not assignable to type '(.+)'",
      ⟨"Returned:", "Expected return:"⟩⟩ ]

/-- The codes for which a standard template is tried first. -/
def codes : Entries String :=
  [ ("2322", "assignability"),
    ("2345", "parameter"),
    ("2339", "property"),
    ("2741", "missing_props"),
    ("2416", "return_mismatch"),
    ("2769", "overload") ]

/-- Adds a standard template.  All of their patterns can be read, so none is left out, and none of
them gives a character by its name. -/
def Recipe.addTo (set : TemplateSet) (r : Recipe) : TemplateSet :=
  match Pattern.compile Platform.bare.characterNamed? r.pattern with
  | .ok pattern => set.add ⟨r.name, pattern, r.labels⟩
  | .error _ => set

def templates : TemplateSet :=
  { recipes.foldl Recipe.addTo TemplateSet.empty with codes := codes }

end TypeMismatch.Standard
