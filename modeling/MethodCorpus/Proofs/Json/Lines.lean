import MethodCorpus.Proofs.Json.RoundTrip

/-!
# One line for each value

The compact layout has no line breaks, and every control character in a text is escaped. So a value
is written on one line, and a record of a store is one line whatever its label, path and tokens are.

* `Unbroken`: a text without control characters, line feeds and carriage returns among them;
* `unbroken_write`: nothing that is written adds a control character;
* `unbroken_compact`: a value is one line.
-/

namespace MethodCorpus.Json

/-- Whether a text holds no control character. -/
def Unbroken (text : List Char) : Prop := ∀ c ∈ text, 32 ≤ c.toNat

@[simp] theorem unbroken_nil : Unbroken [] := nofun

@[simp] theorem unbroken_cons {c : Char} {text : List Char} :
    Unbroken (c :: text) ↔ 32 ≤ c.toNat ∧ Unbroken text :=
  List.forall_mem_cons

@[simp] theorem unbroken_append {text rest : List Char} :
    Unbroken (text ++ rest) ↔ Unbroken text ∧ Unbroken rest :=
  List.forall_mem_append

theorem Unbroken.notMem {text : List Char} (h : Unbroken text) {c : Char}
    (control : c.toNat < 32) : c ∉ text :=
  fun mem => absurd (h c mem) (Nat.not_le_of_lt control)

/-! ## Parts of a value -/

/-- A control character is escaped, and its escape holds none. -/
theorem Literal.unbroken_escape (c : Char) : Unbroken (escape c) := by
  unfold escape
  split
  case h_8 =>
    have printed : ∀ n < 16, 32 ≤ (hexDigit n).toNat := by decide
    split
    · next control =>
      simp only [unbroken_cons, unbroken_nil, and_true]
      exact ⟨by decide, by decide, by decide, by decide, printed _ (by omega), printed _ (by omega)⟩
    · next plain => simpa using plain
  all_goals simp

theorem Literal.unbroken_write (text : Text) {rest : List Char} (h : Unbroken rest) :
    Unbroken (write text rest) := by
  cases text with
  | some text =>
    have inside : Unbroken (text.toList.flatMap escape) := by
      intro c mem
      obtain ⟨d, -, mem⟩ := List.mem_flatMap.1 mem
      exact unbroken_escape d c mem
    simp [write, inside, h]
  | none => simpa [write] using h

/-- The key of a member is written in front of its value. -/
theorem unbroken_key (key : Text) {rest : List Char} (h : Unbroken rest) :
    Unbroken (Literal.write key (':' :: rest)) :=
  Literal.unbroken_write key (by simpa using h)

theorem unbroken_digits (n : Nat) : Unbroken (digits n) := by
  intro c mem
  have digit := isDigit_of_mem_digits mem
  simp only [Char.isDigit, Bool.and_eq_true, decide_eq_true_eq] at digit
  have above : 48 ≤ c.toNat := digit.1
  omega

theorem unbroken_sign (negative : Bool) : Unbroken (sign negative) := by
  cases negative <;> simp [sign]

theorem Number.unbroken_write (number : Number) {rest : List Char} (h : Unbroken rest) :
    Unbroken (number.write rest) := by
  cases number <;> simp [write, unbroken_digits, unbroken_sign, h]

/-! ## Values -/

mutual

/-- In the compact layout nothing that is written adds a control character. -/
theorem unbroken_write (value : Json) (depth : Nat) {rest : List Char} (h : Unbroken rest) :
    Unbroken (write .compact depth value rest) := by
  match value with
  | null => simpa [write] using h
  | bool true => simpa [write] using h
  | bool false => simpa [write] using h
  | number n => exact n.unbroken_write h
  | string text => exact Literal.unbroken_write text h
  | array [] => simpa [write] using h
  | array (item :: items) =>
    have inside := unbroken_write item (depth + 1) (unbroken_writeItems items depth h)
    simpa [write, Layout.compact] using inside
  | object [] => simpa [write] using h
  | object ((key, value) :: members) =>
    have inside := unbroken_key key
      (unbroken_write value (depth + 1) (unbroken_writeMembers members depth h))
    simpa [write, Layout.compact] using inside

theorem unbroken_writeItems (items : List Json) (depth : Nat) {rest : List Char}
    (h : Unbroken rest) : Unbroken (writeItems .compact depth items rest) := by
  match items with
  | [] => simpa [writeItems, Layout.compact] using h
  | item :: items =>
    have inside := unbroken_write item (depth + 1) (unbroken_writeItems items depth h)
    simpa [writeItems, Layout.compact] using inside

theorem unbroken_writeMembers (members : List (Text × Json)) (depth : Nat)
    {rest : List Char} (h : Unbroken rest) : Unbroken (writeMembers .compact depth members rest) := by
  match members with
  | [] => simpa [writeMembers, Layout.compact] using h
  | (key, value) :: members =>
    have inside := unbroken_key key
      (unbroken_write value (depth + 1) (unbroken_writeMembers members depth h))
    simpa [writeMembers, Layout.compact] using inside

end

/-- A value is written on one line. -/
theorem unbroken_compact (value : Json) : Unbroken value.compact.toList := by
  rw [compact, String.toList_ofList]
  exact unbroken_write value 0 unbroken_nil

end MethodCorpus.Json
