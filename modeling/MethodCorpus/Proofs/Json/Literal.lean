import Mathlib.Data.List.Basic
import MethodCorpus.Json.Literal

/-!
# String literals are read back

Every character is escaped in a way that the scan undoes before it comes to the next one, whatever
follows. So a literal is read back as the text that was written, and nothing behind it is touched.

* `scan_escape`: one character;
* `read_write`: a literal, also one that denotes no text.
-/

namespace MethodCorpus.Json.Literal

/-- A digit in base sixteen is one that the scan takes, and has the value it was made from. -/
theorem hexDigit_cases : ∀ n < 16,
    Text.isHexDigit (hexDigit n) = true ∧ Text.hexDigitValue (hexDigit n) = n := by
  decide

/-- The four digits of a control name it. -/
theorem hexValue_control {c : Char} (control : c.toNat < 32) :
    Text.hexValue
      (String.ofList ['0', '0', hexDigit (c.toNat / 16), hexDigit (c.toNat % 16)]) = c.toNat := by
  have high := (hexDigit_cases (c.toNat / 16) (by omega)).2
  have low := (hexDigit_cases (c.toNat % 16) (by omega)).2
  have zero : Text.hexDigitValue '0' = 0 := by decide
  rw [Text.hexValue, String.toList_ofList]
  simp only [List.foldl_cons, List.foldl_nil, high, low, zero]
  omega

/-- A character that is not escaped is scanned as it stands. -/
theorem scan_cons_of_plain {c : Char} {scanned : List Piece} {rest : List Char}
    (quote : c ≠ '"') (backslash : c ≠ '\\') (plain : ¬ c.toNat < 32) :
    scan scanned (c :: rest) = scan (.char c :: scanned) rest := by
  have passes : (c.toNat < 32 || c == '\\') = false := by
    simpa [backslash] using Nat.le_of_not_lt plain
  rw [scan]
  · rw [passes]
    rfl
  all_goals simp [quote, backslash]

/-- The scan takes a character as it is written inside a literal. -/
theorem scan_escape (c : Char) (scanned : List Piece) (rest : List Char) :
    scan scanned (escape c ++ rest) = scan (.char c :: scanned) rest := by
  unfold escape
  split
  case h_8 quote backslash _ _ _ _ _ =>
    split
    · next control =>
      have digits : [('0' : Char), '0', hexDigit (c.toNat / 16), hexDigit (c.toNat % 16)].all
          Text.isHexDigit = true := by
        simp only [List.all_cons, List.all_nil, Bool.and_true, Bool.and_eq_true]
        exact ⟨by decide, by decide, (hexDigit_cases _ (by omega)).1,
          (hexDigit_cases _ (by omega)).1⟩
      have whole : ¬ (0xD800 ≤ c.toNat ∧ c.toNat < 0xE000) := by omega
      simp only [List.cons_append, List.nil_append]
      rw [scan, if_pos digits, hexValue_control control, pieceOf, if_neg whole, Char.ofNat_toNat]
    · next plain => exact scan_cons_of_plain quote backslash plain
  all_goals
    simp only [List.cons_append, List.nil_append]
    rw [scan]
    · rfl
    · simp

theorem scan_flatMap_escape (text : List Char) (scanned : List Piece) (rest : List Char) :
    scan scanned (text.flatMap escape ++ '"' :: rest) =
      some (scanned.reverse ++ text.map .char, rest) := by
  induction text generalizing scanned with
  | nil => rw [List.flatMap_nil, List.nil_append, scan, List.map_nil, List.append_nil]
  | cons c text ih =>
    rw [List.flatMap_cons, List.append_assoc, scan_escape, ih, List.reverse_cons, List.map_cons,
      List.append_assoc, List.singleton_append]

theorem meaning_map_char (text : List Char) : meaning (text.map .char) = some text := by
  induction text with
  | nil => rfl
  | cons c text ih => rw [List.map_cons, meaning, ih, Option.map_some]

/-- A literal is written from its first quote on, and read back from behind it. -/
theorem read_write (text : Text) (rest : List Char) :
    ∃ inside, write text rest = '"' :: inside ∧ rest.length < inside.length ∧
      read inside = some (text, rest) := by
  cases text with
  | some text =>
    refine ⟨text.toList.flatMap escape ++ '"' :: rest, rfl, ?_, ?_⟩
    · rw [List.length_append, List.length_cons]
      omega
    · rw [read, scan_flatMap_escape, List.reverse_nil, List.nil_append, Option.map_some]
      dsimp only
      rw [meaning_map_char, Option.map_some, String.ofList_toList]
  -- the escape is the first half of a pair, and the literal ends before a second one
  | none => exact ⟨['\\', 'u', 'd', '8', '0', '0', '"'] ++ rest, rfl, by simp; omega, rfl⟩

end MethodCorpus.Json.Literal
