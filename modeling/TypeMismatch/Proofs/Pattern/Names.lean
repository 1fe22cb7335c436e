import TypeMismatch.Pattern.Compiled
import TypeMismatch.Proofs.Failure

/-!
# Names of characters

Knowing more names changes nothing about a pattern that is read without any: it is read in the same
way on every platform (`compile_of_bare`).  Where a name stands, reading without names ends with a
fault, and everything else does not look at them; so each reader keeps its value, step by step.
-/

namespace TypeMismatch.Pattern

variable {α β : Type}

/-- A value is kept: what comes to a value in the first way comes to the same in the second. -/
def Keeps (x y : Except Refusal α) : Prop := ∀ a, x = .ok a → y = .ok a

theorem Keeps.refl (x : Except Refusal α) : Keeps x x := fun _ h => h

theorem keeps_refuse (cause : Fault) (position : Nat) (y : Except Refusal α) :
    Keeps (Scanner.refuse cause position) y := nofun

theorem Keeps.bind {x y : Except Refusal α} {f g : α → Except Refusal β} (h : Keeps x y)
    (hf : ∀ a, Keeps (f a) (g a)) : Keeps (x >>= f) (y >>= g) := by
  intro b hb
  obtain ⟨a, ha, hb⟩ := bind_eq_ok_iff.1 hb
  exact bind_eq_ok_iff.2 ⟨a, h a ha, hf a b hb⟩

theorem Keeps.then {x y : Except Refusal α} (h : Keeps x y) (f : α → Except Refusal β) :
    Keeps (x >>= f) (y >>= f) := h.bind fun a => .refl (f a)

theorem keeps_bind (x : Except Refusal α) {f g : α → Except Refusal β}
    (hf : ∀ a, Keeps (f a) (g a)) : Keeps (x >>= f) (x >>= g) := (Keeps.refl x).bind hf

theorem keeps_ite {c : Prop} [Decidable c] {x x' y y' : Except Refusal α} (hx : Keeps x x')
    (hy : Keeps y y') : Keeps (if c then x else y) (if c then x' else y') := by
  split
  · exact hx
  · exact hy

variable (names : CharacterNames)

/-- No name is known. -/
abbrev bareNames : CharacterNames := Platform.bare.characterNamed?

/-! ## Escapes and sets -/

theorem keeps_namedEscape (start : Nat) (s : Scanner) :
    Keeps (namedEscape bareNames start s) (namedEscape names start s) :=
  keeps_bind _ fun _ => keeps_ite (keeps_bind _ fun _ => keeps_refuse _ _ _) (.refl _)

theorem keeps_commonEscape (c : Char) (start : Nat) (s : Scanner) :
    Keeps (commonEscape bareNames c start s) (commonEscape names c start s) := by
  unfold commonEscape
  cases hexWidth? c with
  | some width => exact .refl _
  | none => exact keeps_ite (keeps_namedEscape names start s) (.refl _)

theorem keeps_setEscape (c : Char) (start : Nat) (s : Scanner) :
    Keeps (setEscape bareNames c start s) (setEscape names c start s) := by
  unfold setEscape
  cases controlCode? c with
  | some n => exact .refl _
  | none =>
    cases classItem? c with
    | some item => exact .refl _
    | none => exact keeps_ite (.refl _) ((keeps_commonEscape names c start s).then _)

theorem keeps_escape (c : Char) (start : Nat) (s : Scanner) :
    Keeps (escape bareNames c start s) (escape names c start s) := by
  unfold escape
  cases anchor? c with
  | some a => exact .refl _
  | none =>
    cases classItem? c with
    | some item => exact .refl _
    | none =>
      cases controlCode? c with
      | some n => exact .refl _
      | none =>
        exact keeps_ite (.refl _)
          (keeps_ite (.refl _) ((keeps_commonEscape names c start s).then _))

theorem keeps_setMember (t : Token) (start : Nat) (s : Scanner) :
    Keeps (setMember bareNames t start s) (setMember names t start s) := by
  cases t with
  | escaped c => exact keeps_setEscape names c start s
  | plain c => exact .refl _
  | dangling => exact .refl _

theorem keeps_setMembers (start fuel : Nat) (done : List SetItem) (s : Scanner) :
    Keeps (setMembers bareNames start fuel done s) (setMembers names start fuel done s) := by
  induction fuel generalizing done s with
  | zero => exact .refl _
  | succ fuel ih =>
    refine keeps_bind _ fun taken => ?_
    obtain ⟨low?, afterLow⟩ := taken
    cases low? with
    | none => exact .refl _
    | some low =>
      refine keeps_ite (.refl _) ?_
      refine (keeps_setMember names low s.position afterLow).bind fun first => ?_
      refine keeps_bind _ fun hyphen => keeps_ite ?_ (ih _ _)
      refine keeps_bind _ fun taken => ?_
      obtain ⟨high?, afterHigh⟩ := taken
      cases high? with
      | none => exact .refl _
      | some high =>
        refine keeps_ite (.refl _) ?_
        refine (keeps_setMember names high _ afterHigh).bind fun second => ?_
        dsimp only
        cases rangeOf first.1 second.1 with
        | some range => exact ih _ _
        | none => exact .refl _

theorem keeps_readSet (start : Nat) (s : Scanner) :
    Keeps (readSet bareNames start s) (readSet names start s) :=
  keeps_bind _ fun _ => (keeps_setMembers names start _ [] _).then _

/-! ## Patterns -/

namespace Reading

theorem keeps_readEscape (r : Reading) (c : Char) (start : Nat) (s : Scanner) :
    Keeps (r.readEscape bareNames c start s) (r.readEscape names c start s) :=
  (keeps_escape names c start s).then _

theorem keeps_readPart (r : Reading) (c : Char) (start : Nat) (s : Scanner) :
    Keeps (r.readPart bareNames c start s) (r.readPart names c start s) :=
  keeps_ite (.refl _) <| keeps_ite (.refl _) <|
    keeps_ite ((keeps_readSet names start s).then _) (.refl _)

theorem keeps_step (r : Reading) : Keeps (r.step bareNames) (r.step names) := by
  unfold step
  split
  · exact .refl _
  · exact .refl _
  · exact .refl _
  · refine keeps_bind _ fun after => ?_
    split
    · exact (keeps_readEscape names r _ _ after).then _
    · exact (keeps_readPart names r _ _ after).then _
    · exact .refl _

theorem keeps_run (fuel : Nat) (r : Reading) : Keeps (r.run bareNames fuel) (r.run names fuel) := by
  induction fuel generalizing r with
  | zero => exact .refl _
  | succ fuel ih =>
    refine (keeps_step names r).bind fun next? => ?_
    cases next? with
    | none => exact .refl _
    | some next => exact ih next

end Reading

theorem keeps_parse (pattern : List Char) :
    Keeps (parse bareNames pattern) (parse names pattern) :=
  keeps_bind _ fun _ => (Reading.keeps_run names _ _).then _

/-- A pattern that is read without names is read in the same way with any. -/
theorem compile_of_bare {source : String} {p : Pattern} (h : compile bareNames source = .ok p) :
    compile names source = .ok p :=
  (keeps_parse names source.toList).then _ p h

end TypeMismatch.Pattern
