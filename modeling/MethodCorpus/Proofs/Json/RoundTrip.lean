import Mathlib.Data.List.Basic
import MethodCorpus.Json.Parser
import MethodCorpus.Json.Printer
import MethodCorpus.Proofs.Json.Literal

/-!
# JSON values are read back

Whatever is written in a layout of blanks is read back as the same value, down to the digits of its
numbers, the order of its members and the literals that denote no text. A value is read back from in
front of any text that does not go on with a number.

* `readNumber_write`, `readsBack`: the parts;
* `parse_compact`, `parse_pretty`: the whole text, in either layout.
-/

namespace MethodCorpus.Json

/-- A statement about values that holds of an array or object if it holds of what is in it. -/
@[elab_as_elim]
theorem nestedInduction {motive : Json → Prop} (null : motive .null)
    (bool : ∀ value, motive (.bool value)) (number : ∀ n, motive (.number n))
    (string : ∀ text, motive (.string text))
    (array : ∀ items, (∀ item ∈ items, motive item) → motive (.array items))
    (object : ∀ members, (∀ member ∈ members, motive member.2) → motive (.object members))
    (value : Json) : motive value :=
  Json.rec (motive_1 := motive) (motive_2 := fun items => ∀ item ∈ items, motive item)
    (motive_3 := fun members => ∀ member ∈ members, motive member.2)
    (motive_4 := fun member => motive member.2) null bool number string
    (fun items each => array items each) (fun members each => object members each)
    (fun _ h => absurd h List.not_mem_nil)
    (fun _ _ ih ihs item h => by
      rcases List.mem_cons.1 h with rfl | h
      · exact ih
      · exact ihs item h)
    (fun _ h => absurd h List.not_mem_nil)
    (fun _ _ ih ihs member h => by
      rcases List.mem_cons.1 h with rfl | h
      · exact ih
      · exact ihs member h)
    (fun _ _ ih => ih) value

/-! ## Numbers -/

/-- Whether a text does not go on with a number that stands in front of it. -/
def EndsNumber (rest : List Char) : Prop :=
  ∀ c ∈ rest.head?, c.isDigit = false ∧ c ≠ '.' ∧ c ≠ 'e' ∧ c ≠ 'E'

theorem isDigit_of_mem_digits {n : Nat} {c : Char} (h : c ∈ digits n) : c.isDigit = true :=
  Nat.isDigit_of_mem_toDigits (by decide) (by decide) h

theorem decimalValue_digits (n : Nat) : decimalValue (digits n) = n :=
  (Nat.ofDigitChars_eq_foldl (b := 10)).symm.trans Nat.ofDigitChars_ten_toDigits

/-- Digits that are more than one do not start with a zero. -/
theorem digits_eq_cons (n : Nat) :
    ∃ c rest, digits n = c :: rest ∧ (c = '0' → rest = []) := by
  induction n using Nat.strongRecOn with
  | ind n ih =>
    rw [digits, Nat.toDigits_eq_if (by decide)]
    split
    · next small => exact ⟨n.digitChar, [], rfl, fun _ => rfl⟩
    · next large =>
      obtain ⟨c, rest, front, lead⟩ := ih (n / 10) (by omega)
      rw [digits] at front
      refine ⟨c, rest ++ [(n % 10).digitChar], by rw [front, List.cons_append], fun zero => ?_⟩
      -- a front part that is a zero alone would have the value zero
      have value := decimalValue_digits (n / 10)
      rw [digits, front, lead zero, zero, decimalValue] at value
      simp at value
      omega

theorem readDigits_digits {n : Nat} {rest : List Char}
    (ends : ∀ c ∈ rest.head?, c.isDigit = false) :
    readDigits (digits n ++ rest) = some (digits n, rest) := by
  have stops : rest.takeWhile Char.isDigit = [] ∧ rest.dropWhile Char.isDigit = rest := by
    cases rest with
    | nil => exact ⟨rfl, rfl⟩
    | cons c rest => simp [ends c rfl]
  obtain ⟨c, others, front, -⟩ := digits_eq_cons n
  rw [readDigits, List.takeWhile_append_of_pos fun c => isDigit_of_mem_digits,
    List.dropWhile_append_of_pos fun c => isDigit_of_mem_digits, stops.1, stops.2, List.append_nil,
    front]

theorem readWhole_digits {n : Nat} {rest : List Char}
    (ends : ∀ c ∈ rest.head?, c.isDigit = false) :
    readWhole (digits n ++ rest) = some (digits n, rest) := by
  obtain ⟨c, others, front, lead⟩ := digits_eq_cons n
  rw [readWhole, readDigits_digits ends, front]
  split
  · next zero =>
    simp only [Option.some.injEq, Prod.mk.injEq, List.cons.injEq] at zero
    rw [lead zero.1.1] at zero
    simp at zero
  · rfl

/-- A sign is taken off the front, and its absence is noticed. -/
theorem readMinus_sign (negative : Bool) {rest : List Char} (ends : rest.head? ≠ some '-') :
    readMinus (sign negative ++ rest) = (negative, rest) := by
  cases negative with
  | true => rfl
  | false =>
    rw [sign, if_neg (by simp), List.nil_append, readMinus]
    intro rest' same
    rw [same] at ends
    exact ends rfl

theorem head?_digits_append_ne {n : Nat} {rest : List Char} {c : Char} (other : c.isDigit = false) :
    (digits n ++ rest).head? ≠ some c := by
  obtain ⟨first, others, front, -⟩ := digits_eq_cons n
  have isDigit : first.isDigit = true := isDigit_of_mem_digits (front ▸ List.mem_cons_self)
  rw [front, List.cons_append, List.head?_cons]
  rintro same
  obtain rfl := Option.some.inj same
  rw [other] at isDigit
  cases isDigit

theorem readExponent_write (exponent : Int) {rest : List Char}
    (ends : ∀ c ∈ rest.head?, c.isDigit = false) :
    readExponent ('e' :: (sign (exponent < 0) ++ (digits exponent.natAbs ++ rest))) =
      some (some exponent, rest) := by
  have signed := readMinus_sign (decide (exponent < 0))
    (@head?_digits_append_ne exponent.natAbs rest '-' (by decide))
  have noPlus : ∀ text, sign (decide (exponent < 0)) ++ (digits exponent.natAbs ++ rest) ≠
      '+' :: text := by
    intro text same
    cases h : decide (exponent < 0) with
    | true =>
      rw [h] at same
      exact absurd (List.cons.inj same).1 (by decide)
    | false =>
      rw [h] at same
      exact head?_digits_append_ne (c := '+') (by decide) (congrArg List.head? same)
  rw [readExponent, if_pos (by decide), signed]
  · dsimp only
    rw [readDigits_digits ends, Option.map_some]
    dsimp only
    rw [decimalValue_digits]
    simp only [decide_eq_true_eq]
    split
    · next negative => rw [Int.ofNat_natAbs_of_nonpos (Int.le_of_lt negative), Int.neg_neg]
    · next nonneg => rw [Int.natAbs_of_nonneg (Int.not_lt.1 nonneg)]
  · exact noPlus

theorem readFraction_of_ne {text : List Char} (noPoint : text.head? ≠ some '.') :
    readFraction text = some (none, text) := by
  rw [readFraction]
  rintro rest rfl
  exact noPoint rfl

theorem readExponent_of_ends {rest : List Char} (ends : EndsNumber rest) :
    readExponent rest = some (none, rest) := by
  cases rest with
  | nil => rfl
  | cons c rest =>
    obtain ⟨-, -, lower, upper⟩ := ends c rfl
    unfold readExponent
    dsimp only
    rw [if_neg (by simp [lower, upper])]

/-- A number is read back from in front of a text that does not go on with it. -/
theorem readNumber_write (number : Number) {rest : List Char} (ends : EndsNumber rest) :
    readNumber (number.write rest) = some (number, rest) := by
  have noDigit : ∀ c ∈ rest.head?, c.isDigit = false := fun c mem => (ends c mem).1
  cases number with
  | integer negative magnitude =>
    have noPoint : rest.head? ≠ some '.' := fun point => (ends '.' point).2.1 rfl
    rw [readNumber, Number.write, readMinus_sign negative (head?_digits_append_ne (by decide))]
    simp only [readWhole_digits noDigit, readFraction_of_ne noPoint, readExponent_of_ends ends,
      Option.bind_eq_bind, Option.bind_some, decimalValue_digits]
  | decimal negative mantissa exponent =>
    rw [readNumber, Number.write, readMinus_sign negative (head?_digits_append_ne (by decide))]
    have mark : ∀ c ∈ ('e' :: (sign (exponent < 0) ++ (digits exponent.natAbs ++ rest))).head?,
        c.isDigit = false := by
      rintro c mem
      obtain rfl := Option.some.inj mem
      decide
    simp only [readWhole_digits mark, Option.bind_eq_bind, Option.bind_some]
    rw [readFraction_of_ne (by simp), Option.bind_some]
    dsimp only
    rw [readExponent_write exponent noDigit, Option.bind_some]
    simp [decimalValue_digits]

/-- A number starts with a minus sign or a digit. -/
theorem write_number_eq_cons (number : Number) (rest : List Char) :
    ∃ c text, number.write rest = c :: text ∧ (c = '-' ∨ c.isDigit = true) ∧
      rest.length ≤ text.length := by
  have start : ∀ (negative : Bool) (n : Nat) (behind : List Char),
      ∃ c text, sign negative ++ (digits n ++ behind) = c :: text ∧
        (c = '-' ∨ c.isDigit = true) ∧ behind.length ≤ text.length := by
    intro negative n behind
    cases negative with
    | true => exact ⟨'-', digits n ++ behind, rfl, .inl rfl, by simp⟩
    | false =>
      obtain ⟨c, others, front, -⟩ := digits_eq_cons n
      exact ⟨c, others ++ behind, by rw [front]; rfl,
        .inr (isDigit_of_mem_digits (front ▸ List.mem_cons_self)), by simp⟩
  cases number with
  | integer negative magnitude => exact start negative magnitude rest
  | decimal negative mantissa exponent =>
    obtain ⟨c, text, same, first, longer⟩ := start negative mantissa
      ('e' :: (sign (exponent < 0) ++ (digits exponent.natAbs ++ rest)))
    simp only [List.length_cons, List.length_append] at longer
    exact ⟨c, text, same, first, by omega⟩

/-! ## Layouts -/

/-- Whether a layout puts nothing but blanks between the signs of a value. -/
structure Layout.Blank (layout : Layout) : Prop where
  gap : ∀ depth, ∀ c ∈ layout.gap depth, isBlank c = true
  afterColon : ∀ c ∈ layout.afterColon, isBlank c = true

theorem Layout.blank_compact : Layout.compact.Blank :=
  ⟨fun _ _ h => absurd h List.not_mem_nil, fun _ h => absurd h List.not_mem_nil⟩

theorem Layout.blank_lines : Layout.lines.Blank := by
  refine ⟨fun depth c h => ?_, fun c h => ?_⟩
  · rcases List.mem_cons.1 h with rfl | h
    · rfl
    · rw [(List.mem_replicate.1 h).2]
      rfl
  · rw [List.mem_singleton.1 h]
    rfl

theorem skipBlanks_append {blanks rest : List Char} (blank : ∀ c ∈ blanks, isBlank c = true)
    (stops : ∀ c ∈ rest.head?, isBlank c = false) : skipBlanks (blanks ++ rest) = rest := by
  rw [skipBlanks, List.dropWhile_append_of_pos blank]
  cases rest with
  | nil => rfl
  | cons c rest => rw [List.dropWhile_cons_of_neg (by simp [stops c rfl])]

theorem skipBlanks_cons {c : Char} (stops : isBlank c = false) (rest : List Char) :
    skipBlanks (c :: rest) = c :: rest := by
  rw [skipBlanks, List.dropWhile_cons_of_neg (by simp [stops])]

/-- Neither a blank nor a sign between values goes on with a number. -/
theorem endsNumber_append {blanks rest : List Char} (blank : ∀ c ∈ blanks, isBlank c = true)
    (ends : EndsNumber rest) : EndsNumber (blanks ++ rest) := by
  cases blanks with
  | nil => exact ends
  | cons c blanks =>
    intro c' mem
    obtain rfl := Option.some.inj mem
    have isBlank := blank c List.mem_cons_self
    simp only [Json.isBlank, Bool.or_eq_true, beq_iff_eq] at isBlank
    rcases isBlank with ((rfl | rfl) | rfl) | rfl <;> decide

theorem endsNumber_comma (rest : List Char) : EndsNumber (',' :: rest) := by
  intro c mem
  obtain rfl := Option.some.inj mem
  decide

/-! ## The text of a value -/

section Values

variable {layout : Layout}

mutual

/-- Something is written of every value. -/
theorem length_lt_write (value : Json) (depth : Nat) (rest : List Char) :
    rest.length < (write layout depth value rest).length := by
  match value with
  | null => simp [write]; omega
  | bool true => simp [write]; omega
  | bool false => simp [write]; omega
  | number n =>
    obtain ⟨c, text, same, -, longer⟩ := write_number_eq_cons n rest
    rw [write, same, List.length_cons]
    omega
  | string text =>
    obtain ⟨inside, same, longer, -⟩ := Literal.read_write text rest
    rw [write, same, List.length_cons]
    omega
  | array [] =>
    simp only [write, List.length_cons]
    omega
  | array (item :: items) =>
    have first := length_lt_write item (depth + 1) (writeItems layout depth items rest)
    have others := length_le_writeItems items depth rest
    simp only [write, List.length_cons, List.length_append]
    omega
  | object [] =>
    simp only [write, List.length_cons]
    omega
  | object ((key, value) :: members) =>
    have first := length_lt_write value (depth + 1) (writeMembers layout depth members rest)
    have others := length_le_writeMembers members depth rest
    obtain ⟨inside, same, longer, -⟩ := Literal.read_write key (':' :: (layout.afterColon ++
      write layout (depth + 1) value (writeMembers layout depth members rest)))
    simp only [List.length_cons, List.length_append] at longer
    simp only [write, same, List.length_cons, List.length_append]
    omega

theorem length_le_writeItems (items : List Json) (depth : Nat) (rest : List Char) :
    rest.length ≤ (writeItems layout depth items rest).length := by
  match items with
  | [] => simp [writeItems]; omega
  | item :: items =>
    have first := length_lt_write item (depth + 1) (writeItems layout depth items rest)
    have others := length_le_writeItems items depth rest
    simp only [writeItems, List.length_cons, List.length_append]
    omega

theorem length_le_writeMembers (members : List (Text × Json)) (depth : Nat) (rest : List Char) :
    rest.length ≤ (writeMembers layout depth members rest).length := by
  match members with
  | [] => simp [writeMembers]; omega
  | (key, value) :: members =>
    have first := length_lt_write value (depth + 1) (writeMembers layout depth members rest)
    have others := length_le_writeMembers members depth rest
    obtain ⟨inside, same, longer, -⟩ := Literal.read_write key (':' :: (layout.afterColon ++
      write layout (depth + 1) value (writeMembers layout depth members rest)))
    simp only [List.length_cons, List.length_append] at longer
    simp only [writeMembers, same, List.length_cons, List.length_append]
    omega

end

/-- A value starts with a sign that is neither a blank nor the end of an array. -/
theorem write_eq_cons (value : Json) (depth : Nat) (rest : List Char) :
    ∃ c text, write layout depth value rest = c :: text ∧ isBlank c = false ∧ c ≠ ']' := by
  match value with
  | null => exact ⟨'n', _, rfl, by decide, by decide⟩
  | bool true => exact ⟨'t', _, rfl, by decide, by decide⟩
  | bool false => exact ⟨'f', _, rfl, by decide, by decide⟩
  | number n =>
    obtain ⟨c, text, same, first, -⟩ := write_number_eq_cons n rest
    refine ⟨c, text, same, ?_, ?_⟩
    · rw [Bool.eq_false_iff]
      intro blank
      simp only [isBlank, Bool.or_eq_true, beq_iff_eq] at blank
      rcases blank with ((rfl | rfl) | rfl) | rfl <;> exact absurd first (by decide)
    · rintro rfl
      exact absurd first (by decide)
  | string text =>
    obtain ⟨inside, same, -⟩ := Literal.read_write text rest
    exact ⟨'"', inside, same, by decide, by decide⟩
  | array [] => exact ⟨'[', _, rfl, by decide, by decide⟩
  | array (item :: items) => exact ⟨'[', _, rfl, by decide, by decide⟩
  | object [] => exact ⟨'\x7b', _, rfl, by decide, by decide⟩
  | object ((key, value) :: members) => exact ⟨'\x7b', _, rfl, by decide, by decide⟩

/-! ## Reading it -/

/-- A minus sign and a digit start a number and no other value. -/
theorem readValue_number {c : Char} {text : List Char} (first : c = '-' ∨ c.isDigit = true)
    (fuel : Nat) :
    readValue (fuel + 1) (c :: text) =
      (readNumber (c :: text)).map fun (n, rest) => (.number n, rest) := by
  have other : ∀ sign : Char, sign ≠ '-' → sign.isDigit = false → c ≠ sign := by
    rintro sign notMinus notDigit rfl
    exact first.elim notMinus fun isDigit => by rw [notDigit] at isDigit; cases isDigit
  rw [readValue]
  all_goals
    intros
    rename_i same
    exact other _ (by decide) (by decide) (List.cons.inj same).1

variable (blank : layout.Blank)

include blank

theorem endsNumber_writeItems (depth : Nat) (items : List Json) (rest : List Char) :
    EndsNumber (writeItems layout depth items rest) := by
  cases items with
  | nil =>
    rw [writeItems]
    refine endsNumber_append (blank.gap depth) fun c mem => ?_
    obtain rfl := Option.some.inj mem
    decide
  | cons item items =>
    rw [writeItems]
    exact endsNumber_comma _

theorem endsNumber_writeMembers (depth : Nat) (members : List (Text × Json)) (rest : List Char) :
    EndsNumber (writeMembers layout depth members rest) := by
  cases members with
  | nil =>
    rw [writeMembers]
    refine endsNumber_append (blank.gap depth) fun c mem => ?_
    obtain rfl := Option.some.inj mem
    decide
  | cons member members =>
    rw [writeMembers]
    exact endsNumber_comma _

theorem skipBlanks_gap_write (value : Json) (depth depth' : Nat) (rest : List Char) :
    skipBlanks (layout.gap depth ++ write layout depth' value rest) =
      write layout depth' value rest := by
  obtain ⟨c, text, same, notBlank, -⟩ := @write_eq_cons layout value depth' rest
  refine skipBlanks_append (blank.gap depth) fun c' mem => ?_
  rw [same] at mem
  exact Option.some.inj mem ▸ notBlank

theorem skipBlanks_afterColon_write (value : Json) (depth : Nat) (rest : List Char) :
    skipBlanks (layout.afterColon ++ write layout depth value rest) =
      write layout depth value rest := by
  obtain ⟨c, text, same, notBlank, -⟩ := @write_eq_cons layout value depth rest
  refine skipBlanks_append blank.afterColon fun c' mem => ?_
  rw [same] at mem
  exact Option.some.inj mem ▸ notBlank

theorem skipBlanks_gap_key (key : Text) (depth : Nat) (rest : List Char) :
    skipBlanks (layout.gap depth ++ Literal.write key rest) = Literal.write key rest := by
  obtain ⟨inside, same, -⟩ := Literal.read_write key rest
  refine skipBlanks_append (blank.gap depth) fun c mem => ?_
  rw [same] at mem
  exact Option.some.inj mem ▸ rfl

omit blank in
/-- What is left of an array when one of its items has been read. -/
theorem readItems_of_readValue {fuel : Nat} {before : List Json} {text rest : List Char}
    {item : Json} (first : readValue fuel text = some (item, rest)) :
    readItems (fuel + 1) before text =
      match skipBlanks rest with
      | ',' :: rest => readItems fuel (item :: before) (skipBlanks rest)
      | ']' :: rest => some (.array (item :: before).reverse, rest)
      | _ => none := by
  rewrite [readItems, first]
  rfl

omit blank in
/-- What is left of an object when one of its members has been read. -/
theorem readMembers_of_readValue {fuel : Nat} {before : List (Text × Json)} {key : Text}
    {text rest inside : List Char} {value : Json}
    (named : Literal.read inside = some (key, ':' :: text))
    (first : readValue fuel (skipBlanks text) = some (value, rest)) :
    readMembers (fuel + 1) before ('"' :: inside) =
      match skipBlanks rest with
      | ',' :: rest => readMembers fuel ((key, value) :: before) (skipBlanks rest)
      | '\x7d' :: rest => some (.object ((key, value) :: before).reverse, rest)
      | _ => none := by
  have colon : skipBlanks (':' :: text) = ':' :: text := skipBlanks_cons (by decide) text
  rewrite [readMembers, named]
  dsimp only
  rewrite [colon]
  split
  · next behind same =>
    obtain rfl := (List.cons.inj same).2
    rewrite [first]
    rfl
  · next other => exact absurd rfl (other text)

/-- Whether a value is read back from in front of any text that does not go on with it. -/
def ReadsBack (layout : Layout) (value : Json) : Prop :=
  ∀ (depth fuel : Nat) (rest : List Char), EndsNumber rest →
    2 * (write layout depth value rest).length ≤ fuel + 2 * rest.length →
    readValue fuel (write layout depth value rest) = some (value, rest)

omit blank in
/-- What is written of a value is not empty, so there is fuel for it. -/
theorem readsBack_of_succ {value : Json}
    (h : ∀ (depth fuel : Nat) (rest : List Char), EndsNumber rest →
      2 * (write layout depth value rest).length ≤ fuel + 1 + 2 * rest.length →
      readValue (fuel + 1) (write layout depth value rest) = some (value, rest)) :
    ReadsBack layout value := by
  intro depth fuel rest ends enough
  have grown := @length_lt_write layout value depth rest
  obtain ⟨fuel, rfl⟩ := Nat.exists_eq_add_one_of_ne_zero (show fuel ≠ 0 by omega)
  exact h depth fuel rest ends enough

/-- The items of an array are read back after those already read. -/
theorem readItems_write (depth : Nat) (rest : List Char) (items : List Json)
    (each : ∀ other ∈ items, ReadsBack layout other) (item : Json) (this : ReadsBack layout item)
    (before : List Json) (fuel : Nat)
    (enough : 2 * (write layout (depth + 1) item (writeItems layout depth items rest)).length <
      fuel + 2 * rest.length) :
    readItems fuel before (write layout (depth + 1) item (writeItems layout depth items rest)) =
      some (.array (before.reverse ++ item :: items), rest) := by
  induction items generalizing item before fuel with
  | nil =>
    have kept := @length_le_writeItems layout [] depth rest
    have grown := @length_lt_write layout item (depth + 1)
      (writeItems layout depth [] rest)
    obtain ⟨fuel, rfl⟩ := Nat.exists_eq_add_one_of_ne_zero (show fuel ≠ 0 by omega)
    have first := this (depth + 1) fuel _ (endsNumber_writeItems blank depth [] rest) (by omega)
    have closed : skipBlanks (writeItems layout depth [] rest) = ']' :: rest := by
      rw [writeItems]
      exact skipBlanks_append (blank.gap depth) (by simp [isBlank])
    rw [readItems_of_readValue first, closed, ← List.reverse_cons]
    rfl
  | cons next items ih =>
    have kept := @length_le_writeItems layout (next :: items) depth rest
    have grown := @length_lt_write layout item (depth + 1)
      (writeItems layout depth (next :: items) rest)
    obtain ⟨fuel, rfl⟩ := Nat.exists_eq_add_one_of_ne_zero (show fuel ≠ 0 by omega)
    have first := this (depth + 1) fuel _ (endsNumber_writeItems blank depth (next :: items) rest)
      (by omega)
    have front : writeItems layout depth (next :: items) rest =
        ',' :: (layout.gap (depth + 1) ++
          write layout (depth + 1) next (writeItems layout depth items rest)) := by
      rw [writeItems]
    have size := congrArg List.length front
    rw [List.length_cons, List.length_append] at size
    have others := ih (fun other mem => each other (List.mem_cons_of_mem _ mem)) next
      (each next List.mem_cons_self) (item :: before) fuel (by omega)
    rw [List.reverse_cons, List.append_assoc, List.singleton_append] at others
    rw [readItems_of_readValue first, front, skipBlanks_cons (by decide)]
    show readItems fuel (item :: before) (skipBlanks _) = _
    rw [skipBlanks_gap_write blank, others]

/-- What is left of an object when a member has been read as it was written. -/
theorem readMembers_member (depth : Nat) (key : Text) {value : Json}
    (this : ReadsBack layout value) {tail : List Char} (ends : EndsNumber tail) (before : List (Text × Json)) (fuel : Nat)
    (enough : 2 * (Literal.write key (':' :: (layout.afterColon ++
      write layout (depth + 1) value tail))).length < fuel + 2 * tail.length) :
    ∃ left, fuel = left + 1 ∧
      tail.length < (Literal.write key (':' :: (layout.afterColon ++
        write layout (depth + 1) value tail))).length ∧
      readMembers fuel before (Literal.write key (':' :: (layout.afterColon ++
        write layout (depth + 1) value tail))) =
          match skipBlanks tail with
          | ',' :: rest => readMembers left ((key, value) :: before) (skipBlanks rest)
          | '\x7d' :: rest => some (.object ((key, value) :: before).reverse, rest)
          | _ => none := by
  have grown := @length_lt_write layout value (depth + 1) tail
  obtain ⟨inside, same, longer, named⟩ := Literal.read_write key (':' :: (layout.afterColon ++
    write layout (depth + 1) value tail))
  rw [same, List.length_cons] at enough ⊢
  rw [List.length_cons, List.length_append] at longer
  obtain ⟨left, rfl⟩ := Nat.exists_eq_add_one_of_ne_zero (show fuel ≠ 0 by omega)
  have first := this (depth + 1) left tail ends (by omega)
  refine ⟨left, rfl, by omega, ?_⟩
  rw [readMembers_of_readValue named (by rw [skipBlanks_afterColon_write blank, first])]

/-- The members of an object are read back after those already read. -/
theorem readMembers_write (depth : Nat) (rest : List Char) (members : List (Text × Json))
    (each : ∀ other ∈ members, ReadsBack layout other.2) (key : Text) (value : Json)
    (this : ReadsBack layout value) (before : List (Text × Json)) (fuel : Nat)
    (enough : 2 * (Literal.write key (':' :: (layout.afterColon ++
      write layout (depth + 1) value (writeMembers layout depth members rest)))).length <
        fuel + 2 * rest.length) :
    readMembers fuel before (Literal.write key (':' :: (layout.afterColon ++
      write layout (depth + 1) value (writeMembers layout depth members rest)))) =
        some (.object (before.reverse ++ (key, value) :: members), rest) := by
  induction members generalizing key value before fuel with
  | nil =>
    have kept := @length_le_writeMembers layout [] depth rest
    obtain ⟨left, rfl, -, read⟩ := readMembers_member blank depth key this
      (endsNumber_writeMembers blank depth [] rest) before fuel (by omega)
    have closed : skipBlanks (writeMembers layout depth [] rest) = '\x7d' :: rest := by
      rw [writeMembers]
      exact skipBlanks_append (blank.gap depth) (by simp [isBlank])
    rw [read, closed, ← List.reverse_cons]
    rfl
  | cons next members ih =>
    obtain ⟨nextKey, next⟩ := next
    have kept := @length_le_writeMembers layout ((nextKey, next) :: members) depth rest
    obtain ⟨left, rfl, grown, read⟩ := readMembers_member blank depth key this
      (endsNumber_writeMembers blank depth ((nextKey, next) :: members) rest) before fuel (by omega)
    have front : writeMembers layout depth ((nextKey, next) :: members) rest =
        ',' :: (layout.gap (depth + 1) ++ Literal.write nextKey (':' :: (layout.afterColon ++
          write layout (depth + 1) next (writeMembers layout depth members rest)))) := by
      rw [writeMembers]
    have size := congrArg List.length front
    rw [List.length_cons, List.length_append] at size
    have others := ih (fun other mem => each other (List.mem_cons_of_mem _ mem)) nextKey next
      (each _ List.mem_cons_self) ((key, value) :: before) left (by omega)
    rw [List.reverse_cons, List.append_assoc, List.singleton_append] at others
    rw [read, front, skipBlanks_cons (by decide)]
    show readMembers left ((key, value) :: before) (skipBlanks _) = _
    rw [skipBlanks_gap_key blank, others]

/-- A value is read back from in front of a text that does not go on with it. -/
theorem readsBack (value : Json) : ReadsBack layout value := by
  induction value using nestedInduction with
  | null =>
    refine readsBack_of_succ fun depth fuel rest ends enough => ?_
    show readValue (fuel + 1) ('n' :: 'u' :: 'l' :: 'l' :: rest) = _
    rw [readValue]
  | bool value =>
    refine readsBack_of_succ fun depth fuel rest ends enough => ?_
    cases value with
    | true =>
      show readValue (fuel + 1) ('t' :: 'r' :: 'u' :: 'e' :: rest) = _
      rw [readValue]
    | false =>
      show readValue (fuel + 1) ('f' :: 'a' :: 'l' :: 's' :: 'e' :: rest) = _
      rw [readValue]
  | number n =>
    refine readsBack_of_succ fun depth fuel rest ends enough => ?_
    obtain ⟨c, text, same, first, -⟩ := write_number_eq_cons n rest
    rw [write, same, readValue_number first, ← same, readNumber_write n ends, Option.map_some]
  | string text =>
    refine readsBack_of_succ fun depth fuel rest ends enough => ?_
    obtain ⟨inside, same, -, back⟩ := Literal.read_write text rest
    rw [write, same, readValue, back, Option.map_some]
  | array items each =>
    refine readsBack_of_succ fun depth fuel rest ends enough => ?_
    cases items with
    | nil =>
      rw [write, readValue, skipBlanks_cons (by decide)]
      rfl
    | cons item items =>
      obtain ⟨c, text, same, -, notEnd⟩ := @write_eq_cons layout item (depth + 1)
        (writeItems layout depth items rest)
      rw [write, List.length_cons, List.length_append] at enough
      have others := readItems_write blank depth rest items
        (fun other mem => each other (List.mem_cons_of_mem _ mem)) item
        (each item List.mem_cons_self) [] fuel (by omega)
      rw [write, readValue, skipBlanks_gap_write blank]
      split
      · next rest' close =>
        rw [same] at close
        exact absurd (List.cons.inj close).1 notEnd
      · exact others
  | object members each =>
    refine readsBack_of_succ fun depth fuel rest ends enough => ?_
    cases members with
    | nil =>
      rw [write, readValue, skipBlanks_cons (by decide)]
      rfl
    | cons member members =>
      obtain ⟨key, value⟩ := member
      obtain ⟨inside, same, -⟩ := Literal.read_write key (':' :: (layout.afterColon ++
        write layout (depth + 1) value (writeMembers layout depth members rest)))
      rw [write, List.length_cons, List.length_append] at enough
      have others := readMembers_write blank depth rest members
        (fun other mem => each other (List.mem_cons_of_mem _ mem)) key value
        (each _ List.mem_cons_self) [] fuel (by omega)
      rw [write, readValue, skipBlanks_gap_key blank]
      split
      · next rest' close =>
        rw [same] at close
        exact absurd (List.cons.inj close).1 (by decide)
      · exact others

end Values

/-- What a layout of blanks writes of a value is read as that value. -/
theorem parse_write {layout : Layout} (blank : layout.Blank) (value : Json) :
    parse (String.ofList (write layout 0 value [])) = some value := by
  obtain ⟨c, text, same, notBlank, -⟩ := @write_eq_cons layout value 0 []
  have front : skipBlanks (write layout 0 value []) = write layout 0 value [] := by
    rw [same, skipBlanks_cons notBlank]
  have read := readsBack blank value 0 (2 * (write layout 0 value []).length + 2) []
    (fun c mem => by cases mem) (by omega)
  rw [parse, String.length_ofList, String.toList_ofList, front, read]
  rfl

/-- A value on one line is read back. -/
theorem parse_compact (value : Json) : parse value.compact = some value :=
  parse_write Layout.blank_compact value

/-- A value with an item on each line is read back. -/
theorem parse_pretty (value : Json) : parse value.pretty = some value :=
  parse_write Layout.blank_lines value

end MethodCorpus.Json
