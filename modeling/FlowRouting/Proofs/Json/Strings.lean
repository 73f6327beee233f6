import FlowRouting.Json.Parser
import FlowRouting.Json.Printer
import FlowRouting.Proofs.Text.Digits

/-!
# Strings that were written

A character of a string is written in one of three ways: behind a backslash as one letter, behind a
backslash as four hexadecimal digits, or as itself. Reading undoes each of them and looks at nothing
behind the character, so a written string is read back from any text that begins with it.
-/

namespace FlowRouting.Json

private theorem escapeChar_cases (c : Char) :
    (∃ e, e ≠ 'u' ∧ unescape? e = some c ∧ escapeChar c = ['\\', e]) ∨
      (∃ a b, hexWord? '0' '0' a b = some c.toNat ∧ c.toNat < 0x20 ∧
        escapeChar c = ['\\', 'u', '0', '0', a, b]) ∨
      (c ≠ '"' ∧ c ≠ '\\' ∧ 0x20 ≤ c.toNat ∧ escapeChar c = [c]) := by
  -- Behind a backslash as a letter, behind one as four digits, or as itself.
  by_cases hletter : c = '"' ∨ c = '\\' ∨ c = '\n' ∨ c = '\r' ∨ c = '\t' ∨ c = '\x08' ∨ c = '\x0c'
  · left
    rcases hletter with rfl | rfl | rfl | rfl | rfl | rfl | rfl <;> exact ⟨_, by decide, rfl, rfl⟩
  · right
    simp only [not_or] at hletter
    obtain ⟨hquote, hbackslash, h₁, h₂, h₃, h₄, h₅⟩ := hletter
    by_cases hcontrol : c.toNat < 0x20
    · left
      refine ⟨Text.hexDigit (c.toNat / 16), Text.hexDigit (c.toNat % 16), ?_, hcontrol, ?_⟩
      · have hupper := Text.hexValue?_hexDigit (n := c.toNat / 16) (by omega)
        have hlower := Text.hexValue?_hexDigit (n := c.toNat % 16) (by omega)
        have hzero : Text.hexValue? '0' = some 0 := rfl
        have hsum : c.toNat / 16 * 16 + c.toNat % 16 = c.toNat := by omega
        simp [hexWord?, hzero, hupper, hlower, hsum]
      · simp [escapeChar, hquote, hbackslash, h₁, h₂, h₃, h₄, h₅, hcontrol]
    · right
      refine ⟨hquote, hbackslash, by omega, ?_⟩
      simp [escapeChar, hquote, hbackslash, h₁, h₂, h₃, h₄, h₅, hcontrol]

/-! ## Single characters -/

private theorem skipString_escapeChar_append (c : Char) (rest : List Char) :
    skipString (escapeChar c ++ rest) = skipString rest := by
  rcases escapeChar_cases c with ⟨e, he, hletter, hc⟩ | ⟨a, b, hword, -, hc⟩ | ⟨hq, hb, hc', hc⟩
  · rw [hc, List.cons_append, List.singleton_append, skipString, hletter]
    · rfl
    · exact fun _ _ _ _ _ h ↦ absurd h he
    · exact he
  · simp only [hc, List.cons_append, List.nil_append]
    rw [skipString, hword]
    rfl
  · rw [hc, List.singleton_append, skipString, if_neg (by omega)]
    · exact fun h ↦ absurd h hb
    · exact hq
    · exact fun _ _ _ _ _ h ↦ absurd h hb
    · exact fun _ h ↦ absurd h hb
    · exact fun _ _ h ↦ absurd h hb

private theorem readChars_escapeChar_append (c : Char) (rest : List Char) :
    readChars (escapeChar c ++ rest) = (readChars rest).map (c :: ·) := by
  rcases escapeChar_cases c with ⟨e, he, hletter, hc⟩ | ⟨a, b, hword, hlt, hc⟩ | ⟨hq, hb, hc', hc⟩
  · rw [hc, List.cons_append, List.singleton_append, readChars, hletter]
    · exact fun _ _ _ _ _ h ↦ absurd h he
    · exact he
  · -- A control character is no half of a pair.
    have hlower : isLowerHalf c.toNat = false := by simp [isLowerHalf]; omega
    have hupper : isUpperHalf c.toNat = false := by simp [isUpperHalf]; omega
    simp only [hc, List.cons_append, List.nil_append]
    rw [readChars, hword]
    simp only [hlower, hupper, Char.ofNat_toNat]
    rfl
  · rw [hc, List.singleton_append, readChars, if_neg (by omega)]
    · exact fun h ↦ absurd h hb
    · exact hq
    · exact fun _ _ _ _ _ h ↦ absurd h hb
    · exact fun _ h ↦ absurd h hb
    · exact fun _ _ h ↦ absurd h hb

/-! ## Whole strings -/

private theorem skipString_flatMap_escapeChar (cs rest : List Char) :
    skipString (cs.flatMap escapeChar ++ '"' :: rest) = .ok rest := by
  induction cs with
  | nil => rfl
  | cons c cs ih => rw [List.flatMap_cons, List.append_assoc, skipString_escapeChar_append, ih]

private theorem readChars_flatMap_escapeChar (cs rest : List Char) :
    readChars (cs.flatMap escapeChar ++ '"' :: rest) = .ok cs := by
  induction cs with
  | nil => rfl
  | cons c cs ih =>
    rw [List.flatMap_cons, List.append_assoc, readChars_escapeChar_append, ih]
    rfl

/-- A string that was written is read back, and reading goes on behind its closing quote. -/
theorem readString_writeString (s : String) (rest : List Char) :
    ∃ cs, writeString s ++ rest = '"' :: cs ∧ readString cs = (.ok s, some rest) := by
  refine ⟨s.toList.flatMap escapeChar ++ '"' :: rest, ?_, ?_⟩
  · simp [writeString]
  · rw [readString, skipString_flatMap_escapeChar, readChars_flatMap_escapeChar]
    simp only [String.ofList_toList]

end FlowRouting.Json
