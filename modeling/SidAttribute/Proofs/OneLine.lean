import SidAttribute.Log.Line
import SidAttribute.Notice
import SidAttribute.Registry

/-! Messages of one line. What a level tells when it ends early is made of its name, of numbers and
of fixed words, none of which has a line feed, so each such message is one line of the log. -/
namespace SidAttribute
open Text Wire

namespace Text

def Unbroken (s : String) : Prop := '\n' ∉ s.toList

instance (s : String) : Decidable (Unbroken s) := inferInstanceAs (Decidable (_ ∉ _))

theorem unbrokenAppend {s t : String} : Unbroken (s ++ t) ↔ Unbroken s ∧ Unbroken t := by
  unfold Unbroken
  rw [String.toList_append, List.mem_append, not_or]

theorem unbrokenNat (n : Nat) : Unbroken (toString n) := by
  intro inside
  rw [Nat.toString_eq_ofList_toDigits, String.toList_ofList] at inside
  have digit := Nat.isDigit_of_mem_toDigits (by decide) (by decide) inside
  exact absurd digit (by decide)

theorem unbrokenLevel (scope : Scope) : Unbroken scope.levelName := by
  cases scope <;> decide

end Text

theorem Log.messageLinesOne {s : String} (whole : Unbroken s) : Log.messageLines s = [s] := by
  rw [Log.messageLines, piecesOne whole, List.map_singleton, String.ofList_toList]

namespace Notice

theorem unbrokenShortfall (s : Shortfall) : Unbroken s.message := by
  simp only [Shortfall.message, shortfallText, unbrokenAppend, unbrokenNat, and_true]
  decide

theorem unbrokenMalformed (scope : Scope) (code : UInt8) (s : Shortfall) :
    Unbroken (malformed scope.levelName code s).text := by
  simp only [text, unbrokenAppend, unbrokenNat, unbrokenLevel, unbrokenShortfall, and_true,
    true_and]
  decide

theorem unbrokenStop (scope : Scope) (n : Nat) (stop : Stop) :
    ∀ told ∈ stop.notice scope.levelName n, Unbroken told.text := by
  intro told member
  have bound : Unbroken (toString (n : Int)) := unbrokenNat n
  cases stop with
  | exhausted => cases member
  | truncatedHeader left =>
    rw [List.mem_singleton.mp member]
    simp only [text, unbrokenAppend, unbrokenNat, unbrokenLevel, and_true, true_and]
    decide
  | zeroLength code =>
    rw [List.mem_singleton.mp member]
    simp only [text, unbrokenAppend, unbrokenNat, unbrokenLevel, and_true, true_and]
    decide
  | overrun code length left =>
    rw [List.mem_singleton.mp member]
    simp only [text, unbrokenAppend, unbrokenNat, unbrokenLevel, and_true, true_and]
    decide
  | tooMany =>
    rw [List.mem_singleton.mp member]
    simp only [text, Value.shown, Value.inspected, unbrokenAppend, bound, unbrokenLevel, and_true]
    decide

end Notice
end SidAttribute
