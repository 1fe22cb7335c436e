import Mathlib.Data.List.Basic
import TypeMismatch.Json.Reader
import TypeMismatch.Proofs.Failure

/-!
# Halves of pairs

Reading gives up on half of a pair of code units only if the text spells one
(`spellsHalf_of_read`).  Each reader ends behind the place where it begins, and what it gives up on
stands there (`Within`).
-/

namespace TypeMismatch.Json

/-- The text spells half of a pair of code units. -/
def SpellsHalf (text : List Char) : Prop :=
  ∃ before digits unit, text = before ++ '\\' :: 'u' :: digits ∧ hexQuad? digits = some unit ∧
    isSurrogate unit = true

theorem SpellsHalf.of_suffix {cs text : List Char} (h : SpellsHalf cs) (hsuffix : cs <:+ text) :
    SpellsHalf text := by
  obtain ⟨before, digits, unit, rfl, hunit, hhalf⟩ := h
  obtain ⟨front, rfl⟩ := hsuffix
  exact ⟨front ++ before, digits, unit, (List.append_assoc _ _ _).symm, hunit, hhalf⟩

/-- Reading at a cursor ends behind it, and gives up on half of a pair only if the text there spells
one. -/
structure Within {α : Type} (c : Cursor) (result : Except ReadError (α × Cursor)) : Prop where
  rest : ∀ {a next}, result = .ok (a, next) → next.rest <:+ c.rest
  half : result = .error .loneSurrogate → SpellsHalf c.rest

section Within

variable {α β : Type} {c d next : Cursor} {e : ReadError}

theorem advance_suffix (c : Cursor) (n : Nat) : (c.advance n).rest <:+ c.rest :=
  List.drop_suffix n c.rest

theorem skipGap_suffix (c : Cursor) : c.skipGap.rest <:+ c.rest := advance_suffix c _

theorem within_ok {a : α} (h : next.rest <:+ c.rest) : Within c (.ok (a, next)) :=
  ⟨fun heq => by cases heq; exact h, nofun⟩

theorem within_fault (cause : Fault) (position : Nat) :
    Within c (.error (.fault cause position) : Except ReadError (α × Cursor)) :=
  ⟨nofun, nofun⟩

theorem Within.mono {result : Except ReadError (α × Cursor)} (h : Within d result)
    (hsuffix : d.rest <:+ c.rest) : Within c result :=
  ⟨fun heq => (h.rest heq).trans hsuffix, fun heq => (h.half heq).of_suffix hsuffix⟩

/-- A failure is handed on. -/
theorem Within.error (h : Within d (.error e : Except ReadError (α × Cursor)))
    (hsuffix : d.rest <:+ c.rest) : Within c (.error e : Except ReadError (β × Cursor)) :=
  ⟨nofun, fun heq => (h.half (congrArg _ (Except.error.inj heq))).of_suffix hsuffix⟩

end Within

theorem readUnicodeEscape_eq_ok {c next : Cursor} {x : Char}
    (h : readUnicodeEscape c = .ok (x, next)) : next.rest <:+ c.rest := by
  unfold readUnicodeEscape at h
  dsimp only at h
  split at h
  · cases h
  · split at h
    · cases h
    · split at h
      · split at h
        · cases h
        · obtain ⟨-, rfl⟩ := Prod.mk.inj (Except.ok.inj h)
          exact (advance_suffix _ 6).trans (advance_suffix c 5)
        · cases h
      · obtain ⟨x', -, h⟩ := bind_eq_ok_iff.1 h
        cases h
        exact advance_suffix c 5

theorem readUnicodeEscape_eq_half {c : Cursor} (h : readUnicodeEscape c = .error .loneSurrogate) :
    ∃ unit, hexQuad? (c.rest.drop 1) = some unit ∧ isSurrogate unit = true := by
  unfold readUnicodeEscape at h
  dsimp only at h
  split at h
  · cases h
  · split at h
    · cases h
    · next unit hunit =>
      refine ⟨unit, hunit, ?_⟩
      split at h
      · next hhigh =>
        -- the first half of a pair
        simp only [Bool.and_eq_true, decide_eq_true_eq] at hhigh
        simp only [isSurrogate, Bool.and_eq_true, decide_eq_true_eq]
        omega
      · unfold charOfUnit at h
        split at h
        · next hhalf => exact hhalf
        · cases h

theorem within_readString (start fuel : Nat) (done : List Char) (c : Cursor) :
    Within c (readString start fuel done c) := by
  induction fuel generalizing done c with
  | zero => exact within_fault _ _
  | succ fuel ih =>
    rw [readString]
    split
    · exact within_fault _ _
    · exact within_ok (advance_suffix c 1)
    · exact within_fault _ _
    · next digits hrest =>
      have hdigits : (c.advance 1).rest.drop 1 = digits := by
        rw [Cursor.advance, hrest]
        rfl
      split
      · next e heq =>
        refine ⟨nofun, fun he => ?_⟩
        rw [Except.error.inj he] at heq
        obtain ⟨unit, hunit, hhalf⟩ := readUnicodeEscape_eq_half heq
        rw [hdigits] at hunit
        exact ⟨[], digits, unit, hrest, hunit, hhalf⟩
      · next x next heq =>
        exact (ih _ _).mono ((readUnicodeEscape_eq_ok heq).trans (advance_suffix c 1))
    · split
      · exact within_fault _ _
      · exact (ih _ _).mono (advance_suffix c 2)
    · split
      · exact within_fault _ _
      · exact (ih _ _).mono (advance_suffix c 1)

theorem within_readNumeral (c : Cursor) : Within c (readNumeral c) := by
  unfold readNumeral
  dsimp only
  -- with a sign and without one
  split
  all_goals
    split
    · exact within_fault _ _
    · split
      · split
        · exact ⟨nofun, nofun⟩
        · exact within_ok (advance_suffix c _)
      · exact within_ok (advance_suffix c _)

theorem within_readAny (fuel : Nat) :
    (∀ c, Within c (readValue fuel c)) ∧ (∀ done c, Within c (readItems fuel done c)) ∧
      ∀ done c, Within c (readMembers fuel done c) := by
  induction fuel with
  | zero =>
    have hfault : ∀ {c : Cursor} {cause}, Within c (c.fail cause : Except _ (Json × Cursor)) :=
      within_fault _ _
    exact ⟨fun _ => hfault, fun _ _ => hfault, fun _ _ => hfault⟩
  | succ fuel ih =>
    obtain ⟨hvalue, hitems, hmembers⟩ := ih
    have hinner : ∀ c : Cursor, (c.advance 1).skipGap.rest <:+ c.rest :=
      fun c => (skipGap_suffix _).trans (advance_suffix c 1)
    refine ⟨fun c => ?_, fun done c => ?_, fun done c => ?_⟩
    · rw [readValue]
      split
      · split
        · next heq => exact (heq ▸ within_readString _ _ _ _).error (advance_suffix c 1)
        · next heq =>
          exact within_ok (((within_readString _ _ _ _).rest heq).trans (advance_suffix c 1))
      · dsimp only
        split
        · exact within_ok ((advance_suffix _ 1).trans (hinner c))
        · exact (hitems _ _).mono (hinner c)
      · dsimp only
        split
        · exact within_ok ((advance_suffix _ 1).trans (hinner c))
        · exact (hmembers _ _).mono (hinner c)
      · split
        · exact within_ok (advance_suffix c _)
        · exact within_readNumeral c
    · rw [readItems]
      split
      · next heq => exact (heq ▸ hvalue c).error (List.suffix_refl _)
      · next value next heq =>
        have hafter := (skipGap_suffix next).trans ((hvalue c).rest heq)
        dsimp only
        split
        · exact within_ok ((advance_suffix _ 1).trans hafter)
        · exact (hitems _ _).mono ((hinner _).trans hafter)
        · exact within_fault _ _
    · rw [readMembers]
      split
      · split
        · next heq => exact (heq ▸ within_readString _ _ _ _).error (advance_suffix c 1)
        · next name afterName heq =>
          have hname := ((within_readString _ _ _ _).rest heq).trans (advance_suffix c 1)
          have hcolon := (hinner _).trans ((skipGap_suffix afterName).trans hname)
          dsimp only
          split
          · split
            · next heq => exact (heq ▸ hvalue _).error hcolon
            · next value next heq =>
              have hafter := (skipGap_suffix next).trans (((hvalue _).rest heq).trans hcolon)
              split
              · exact within_ok ((advance_suffix _ 1).trans hafter)
              · exact (hmembers _ _).mono ((hinner _).trans hafter)
              · exact within_fault _ _
          · exact within_fault _ _
      · exact within_fault _ _

/-- Reading gives up on half of a pair only if the text spells one. -/
theorem spellsHalf_of_read {platform : Platform} {text : List Char}
    (h : read platform text = .error .loneSurrogate) : SpellsHalf text := by
  unfold read at h
  split at h
  · cases h
  · unfold readWhole at h
    dsimp only at h
    split at h
    · cases h
    · split at h
      · next e heq =>
        rw [Except.error.inj h] at heq
        exact (((within_readAny _).1 _).half heq).of_suffix (skipGap_suffix _)
      · split at h
        · cases h
        · cases h

end TypeMismatch.Json
