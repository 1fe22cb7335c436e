import TypeMismatch.Settings.Setting

/-!
# The values of settings

Each setting takes one kind of value.  A reader of an optional value gives back the old one when no
value is there.
-/

namespace TypeMismatch.Settings

def readIndent (old : String) : Option Json → Except Failure String
  | none => .ok old
  | some (.string text) => .ok text
  | some value => .error (Setting.indent.refuse (.indentKind value.kind))

/-- Reads the line limit, which has a least value.  A lower one is shown, if it can be. -/
def readLineLimit (old : Nat) : Option Json → Except Failure Nat
  | none => .ok old
  | some (.int n) =>
    if (minLineLimit : Int) ≤ n then .ok n.toNat
    else if Decimal.isWritable n then .error (Setting.lineLimit.refuse (.lineLimitLow n))
    else .error .longNumeral
  | some value => .error (Setting.lineLimit.refuse (.lineLimitKind value.kind))

def readSwitch (setting : Setting) (old : Bool) : Option Json → Except Failure Bool
  | none => .ok old
  | some (.bool b) => .ok b
  | some value => .error (setting.refuse (.switchKind setting.name value.kind))

/-- Reads the entries of an object, all of which have to be strings. -/
def readGroupEntries : Entries Json → Except Failure (Entries String)
  | [] => .ok []
  | (key, .string value) :: rest => do
    let others ← readGroupEntries rest
    return (key, value) :: others
  | _ :: _ => .error (Setting.highlightGroups.refuse .groupEntry)

def readGroups : Json → Except Failure (Entries String)
  | .object members => readGroupEntries members
  | value => .error (Setting.highlightGroups.refuse (.groupsKind value.kind))

end TypeMismatch.Settings
