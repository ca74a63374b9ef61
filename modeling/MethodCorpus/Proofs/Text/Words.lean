import Mathlib.Data.List.SplitBy
import MethodCorpus.Count
import MethodCorpus.Text.Words

/-!
# The words of a name as its blocks

A name is read character by character into words. What comes of that is told without the reading: a
word is a block of the name, a part of it in which no two characters are divided and which cannot be
made longer on either side. The same is said of the runs of a name, which nothing but characters
outside of words divides.

* `Block.IsMaximal`, `Enumerates`: such a part of a text, and the list of all of them in order;
* `blocks_enumerates`: the list is got by splitting the text where two characters are not joined;
* `splitWords_eq`: reading comes to the same split;
* `length_blockChars`: there is a block for each run and one more for each of its boundaries;
* `words_enumerate_blocks`: what the words of a name are, and how many.
-/

namespace MethodCorpus.Text

/-! ## Blocks of a text -/

/-- Whether two characters of one run belong to different words: a capital behind a small letter, a
numeral behind a letter, or a letter behind a numeral. -/
def Boundary (before c : Char) : Prop :=
  (isLowercase before = true ∧ isUppercase c = true) ∨
  (isAlphabetic before = true ∧ isNumeric c = true) ∨
  (isNumeric before = true ∧ isAlphabetic c = true)

theorem startsWord_iff {before c : Char} : startsWord before c = true ↔ Boundary before c := by
  simp [startsWord, Boundary, or_assoc]

instance : DecidableRel Boundary := fun _ _ => decidable_of_iff _ startsWord_iff

/-- A part of a text, with what stands before and behind it. -/
structure Block where
  before : List Char
  chars : List Char
  after : List Char

section Specification

variable (divides : Char → Char → Prop)

/-- Whether a list has characters of words only, none of which is divided from the next one. -/
def Unbroken (chars : List Char) : Prop :=
  (∀ c ∈ chars, isWordChar c = true) ∧ chars.IsChain fun before c => ¬ divides before c

/-- Whether a part of a text is unbroken and cannot be made longer. -/
structure Block.IsMaximal (text : List Char) (block : Block) : Prop where
  whole : block.before ++ block.chars ++ block.after = text
  nonempty : block.chars ≠ []
  unbroken : Unbroken divides block.chars
  left : ∀ front c, block.before = front ++ [c] → ¬ Unbroken divides (c :: block.chars)
  right : ∀ c rest, block.after = c :: rest → ¬ Unbroken divides (block.chars ++ [c])

/-- Whether a list has every unbroken part of a text that cannot be made longer, in the order in
which they stand there. -/
structure Enumerates (text : List Char) (blocks : List Block) : Prop where
  mem_iff : ∀ block, block ∈ blocks ↔ block.IsMaximal divides text
  ordered : blocks.Pairwise fun first second =>
    first.before.length + first.chars.length ≤ second.before.length

end Specification

variable {divides : Char → Char → Prop} {text front chars rest : List Char} {block : Block}
  {pieces : List (List Char)}

/-! ## Reading a text character by character -/

theorem unbroken_nil : Unbroken divides [] := ⟨nofun, List.isChain_nil⟩

theorem unbroken_singleton {c : Char} (inside : isWordChar c = true) : Unbroken divides [c] :=
  ⟨fun _ mem => List.mem_singleton.1 mem ▸ inside, List.isChain_singleton c⟩

/-- What can be done with the next character behind an unbroken list: it stands outside of words, a
new block starts with it, or the list goes on with it. -/
theorem unbroken_cases (unbroken : Unbroken divides chars) (c : Char) :
    isWordChar c = false ∨
    (isWordChar c = true ∧ ∃ before, chars.getLast? = some before ∧ divides before c) ∨
    ((∀ before, chars.getLast? = some before → ¬ divides before c) ∧
      Unbroken divides (chars ++ [c])) := by
  by_cases inside : isWordChar c = true
  · by_cases divided : ∃ before, chars.getLast? = some before ∧ divides before c
    · exact .inr (.inl ⟨inside, divided⟩)
    · have together := fun before last divides => divided ⟨before, last, divides⟩
      refine .inr (.inr ⟨together, ?_, ?_⟩)
      · exact List.forall_mem_append.2 ⟨unbroken.1, List.forall_mem_singleton.2 inside⟩
      · refine List.isChain_append.2 ⟨unbroken.2, List.isChain_singleton c, ?_⟩
        rintro before last _ ⟨⟩
        exact together before last
  · exact .inl (Bool.eq_false_iff.2 inside)

/-- A statement about the block that is being read and the rest of a text holds if it holds at the
end and is kept by each character. -/
@[elab_as_elim]
theorem readInduction {motive : List Char → List Char → Prop}
    (done : ∀ chars, Unbroken divides chars → motive chars [])
    (outside : ∀ chars c rest, Unbroken divides chars → isWordChar c = false →
      motive [] rest → motive chars (c :: rest))
    (divided : ∀ chars before c rest, Unbroken divides chars → chars.getLast? = some before →
      isWordChar c = true → divides before c → motive [c] rest → motive chars (c :: rest))
    (goesOn : ∀ chars c rest, Unbroken divides chars → isWordChar c = true →
      (∀ before, chars.getLast? = some before → ¬ divides before c) →
      motive (chars ++ [c]) rest → motive chars (c :: rest))
    (unbroken : Unbroken divides chars) (rest : List Char) : motive chars rest := by
  induction rest generalizing chars with
  | nil => exact done chars unbroken
  | cons c rest ih =>
    rcases unbroken_cases unbroken c with other | ⟨inside, before, last, apart⟩ | ⟨together, longer⟩
    · exact outside chars c rest unbroken other (ih unbroken_nil)
    · exact divided chars before c rest unbroken last inside apart (ih (unbroken_singleton inside))
    · exact goesOn chars c rest unbroken (longer.1 c (by simp)) together (ih longer)

/-! ## The list of all blocks -/

section Blocks

variable (divides) [DecidableRel divides]

/-- Whether two characters stand in one block if one follows the other. -/
def joins (before c : Char) : Bool :=
  isWordChar before && isWordChar c && !decide (divides before c)

/-- The pieces of a text behind its front, with what stands around each. -/
def placed (front : List Char) : List (List Char) → List Block
  | [] => []
  | piece :: pieces => ⟨front, piece, pieces.flatten⟩ :: placed (front ++ piece) pieces

/-- The pieces of a text between characters that are not joined, but for those outside of words. -/
def blocks (text : List Char) : List Block :=
  (placed [] (text.splitBy (joins divides))).filter fun block => block.chars.all isWordChar

end Blocks

variable [DecidableRel divides]

theorem unbroken_iff : Unbroken divides chars ↔
    (∀ c ∈ chars, isWordChar c = true) ∧ chars.IsChain fun before c => joins divides before c := by
  rw [Unbroken]
  refine and_congr_right fun inside => ?_
  induction chars with
  | nil => simp
  | cons before chars ih =>
    cases chars with
    | nil => simp
    | cons c rest =>
      obtain ⟨first, others⟩ := List.forall_mem_cons.1 inside
      rw [List.isChain_cons_cons, List.isChain_cons_cons, ih others, joins, first,
        others c List.mem_cons_self]
      simp

/-- An unbroken list goes on in front of its first character exactly if that is joined to the new
one. -/
theorem unbroken_cons_iff {before c : Char} (unbroken : Unbroken divides chars)
    (head : chars.head? = some c) :
    Unbroken divides (before :: chars) ↔ joins divides before c = true := by
  obtain ⟨inside, chain⟩ := unbroken_iff.1 unbroken
  obtain ⟨rest, rfl⟩ := List.head?_eq_some_iff.1 head
  rw [unbroken_iff, List.forall_mem_cons, List.isChain_cons_cons]
  refine ⟨fun h => h.2.1, fun joined => ⟨⟨?_, inside⟩, joined, chain⟩⟩
  simp only [joins, Bool.and_eq_true] at joined
  exact joined.1.1

/-- The same behind its last character. -/
theorem unbroken_concat_iff {before c : Char} (unbroken : Unbroken divides chars)
    (last : chars.getLast? = some before) :
    Unbroken divides (chars ++ [c]) ↔ joins divides before c = true := by
  obtain ⟨inside, chain⟩ := unbroken_iff.1 unbroken
  rw [unbroken_iff, List.forall_mem_append, List.isChain_append]
  simp only [last, Option.mem_some_iff, forall_eq', List.head?_cons, List.mem_singleton, forall_eq]
  refine ⟨fun h => h.2.2.2, fun joined => ⟨⟨inside, ?_⟩, chain, List.isChain_singleton c, joined⟩⟩
  simp only [joins, Bool.and_eq_true] at joined
  exact joined.1.2

theorem mem_placed_iff :
    block ∈ placed front pieces ↔ ∃ former latter, pieces = former ++ block.chars :: latter ∧
      block.before = front ++ former.flatten ∧ block.after = latter.flatten := by
  induction pieces generalizing front with
  | nil => simp [placed]
  | cons piece pieces ih =>
    rw [placed, List.mem_cons, ih]
    constructor
    · rintro (rfl | ⟨former, latter, rfl, before, after⟩)
      · exact ⟨[], pieces, rfl, (List.append_nil _).symm, rfl⟩
      · exact ⟨piece :: former, latter, rfl, by rw [before, List.flatten_cons, List.append_assoc],
          after⟩
    · rintro ⟨former, latter, same, before, after⟩
      cases former with
      | nil =>
        obtain ⟨rfl, rfl⟩ := List.cons.inj same
        exact .inl (by cases block; simp_all)
      | cons first former =>
        obtain ⟨rfl, rfl⟩ := List.cons.inj same
        exact .inr ⟨former, latter, rfl, by rw [before, List.flatten_cons, List.append_assoc],
          after⟩

/-- The first character of some pieces is that of the first piece. -/
theorem exists_head?_of_flatten {c : Char} (nonempty : [] ∉ pieces)
    (h : pieces.flatten.head? = some c) :
    ∃ piece, pieces.head? = some piece ∧ piece.head? = some c := by
  cases pieces with
  | nil => cases h
  | cons piece pieces =>
    have some : piece ≠ [] := fun none => nonempty (none ▸ List.mem_cons_self)
    rw [List.flatten_cons, List.head?_append_of_ne_nil _ some] at h
    exact ⟨piece, rfl, h⟩

/-- The last character of some pieces is that of the last piece. -/
theorem exists_getLast?_of_flatten {c : Char} (nonempty : [] ∉ pieces)
    (h : pieces.flatten.getLast? = some c) :
    ∃ piece, pieces.getLast? = some piece ∧ piece.getLast? = some c := by
  rcases List.eq_nil_or_concat pieces with rfl | ⟨pieces, piece, rfl⟩
  · cases h
  · have some : piece ≠ [] := fun none => nonempty (by simp [none])
    rw [List.concat_eq_append, List.flatten_append, List.flatten_singleton,
      List.getLast?_append_of_ne_nil _ some] at h
    exact ⟨piece, by simp, h⟩

/-- Where a text is split, two characters meet that are not joined. -/
theorem joins_eq_false_of_splitBy {former latter : List (List Char)} {before c : Char}
    (split : text.splitBy (joins divides) = former ++ latter)
    (last : former.flatten.getLast? = some before) (head : latter.flatten.head? = some c) :
    joins divides before c = false := by
  obtain ⟨-, nonempty, -, apart⟩ := List.splitBy_eq_iff.1 split
  rw [List.mem_append, not_or] at nonempty
  obtain ⟨piece, isLast, atEnd⟩ := exists_getLast?_of_flatten nonempty.1 last
  obtain ⟨piece', isFirst, atFront⟩ := exists_head?_of_flatten nonempty.2 head
  obtain ⟨some, some', divided⟩ := (List.isChain_append.1 apart).2.2 piece isLast piece' isFirst
  rw [List.getLast?_eq_some_getLast some, Option.some.injEq] at atEnd
  rw [List.head?_eq_some_head some', Option.some.injEq] at atFront
  rwa [atEnd, atFront] at divided

/-- A piece of characters of words cannot be made longer, since it would go on where the text is
split. -/
theorem isMaximal_of_splitBy {former latter : List (List Char)}
    (split : text.splitBy (joins divides) = former ++ chars :: latter)
    (inside : ∀ c ∈ chars, isWordChar c = true) :
    Block.IsMaximal divides text ⟨former.flatten, chars, latter.flatten⟩ := by
  obtain ⟨flat, filled, chains, -⟩ := List.splitBy_eq_iff.1 split
  have nonempty : chars ≠ [] := fun none => filled (by simp [none])
  have unbroken : Unbroken divides chars := unbroken_iff.2 ⟨inside, chains _ (by simp)⟩
  refine ⟨?whole, nonempty, unbroken, fun front c here longer => ?left,
    fun c rest here longer => ?right⟩ <;> dsimp only at *
  case whole =>
    rw [flat, List.flatten_append, List.flatten_cons, List.append_assoc]
  case left =>
    have head := List.head?_eq_some_head nonempty
    have divided : joins divides c _ = false := joins_eq_false_of_splitBy split
      (by rw [here, List.getLast?_concat])
      (by rw [List.flatten_cons, List.head?_append_of_ne_nil _ nonempty, head])
    rw [(unbroken_cons_iff unbroken head).1 longer] at divided
    cases divided
  case right =>
    have last := List.getLast?_eq_some_getLast nonempty
    have divided : joins divides _ c = false := joins_eq_false_of_splitBy
      (split.trans (List.append_cons ..))
      (by rw [List.flatten_append, List.flatten_singleton, List.getLast?_append_of_ne_nil _ nonempty,
        last])
      (by rw [here, List.head?_cons])
    rw [(unbroken_concat_iff unbroken last).1 longer] at divided
    cases divided

/-- A part that cannot be made longer is a piece, since it is joined to nothing on either side. -/
theorem splitBy_of_isMaximal (maximal : block.IsMaximal divides text) :
    text.splitBy (joins divides) = block.before.splitBy (joins divides) ++
      block.chars :: block.after.splitBy (joins divides) := by
  obtain ⟨whole, nonempty, unbroken, left, right⟩ := maximal
  have behind : (block.chars ++ block.after).splitBy (joins divides) =
      block.chars :: block.after.splitBy (joins divides) := by
    rw [List.splitBy_append, List.splitBy_of_isChain nonempty (unbroken_iff.1 unbroken).2,
      List.singleton_append]
    intro last atEnd c next
    obtain ⟨rest, here⟩ := List.head?_eq_some_iff.1 next
    exact Bool.eq_false_iff.2 fun joined =>
      right c rest here ((unbroken_concat_iff unbroken atEnd).2 joined)
  rw [← whole, List.append_assoc, List.splitBy_append, behind]
  intro last atEnd c next
  rw [List.head?_append_of_ne_nil _ nonempty] at next
  obtain ⟨front, here⟩ := List.getLast?_eq_some_iff.1 atEnd
  exact Bool.eq_false_iff.2 fun joined =>
    left front last here ((unbroken_cons_iff unbroken next).2 joined)

/-- A part that is listed cannot be made longer, and no other part is like that. -/
theorem mem_blocks_iff : block ∈ blocks divides text ↔ block.IsMaximal divides text := by
  rw [blocks, List.mem_filter, mem_placed_iff, List.all_eq_true]
  constructor
  · rintro ⟨⟨former, latter, pieces, before, after⟩, inside⟩
    obtain ⟨_, chars, _⟩ := block
    obtain rfl : _ = former.flatten := before
    obtain rfl : _ = latter.flatten := after
    exact isMaximal_of_splitBy pieces inside
  · intro maximal
    refine ⟨⟨_, _, splitBy_of_isMaximal maximal, ?_, ?_⟩, maximal.unbroken.1⟩
    · rw [List.flatten_splitBy, List.nil_append]
    · rw [List.flatten_splitBy]

theorem le_length_before_of_mem_placed (h : block ∈ placed front pieces) :
    front.length ≤ block.before.length := by
  obtain ⟨former, -, -, before, -⟩ := mem_placed_iff.1 h
  rw [before, List.length_append]
  exact Nat.le_add_right ..

/-- Pieces stand one after the other. -/
theorem pairwise_placed (front : List Char) (pieces : List (List Char)) :
    (placed front pieces).Pairwise fun first second =>
      first.before.length + first.chars.length ≤ second.before.length := by
  induction pieces generalizing front with
  | nil => exact .nil
  | cons piece pieces ih =>
    refine List.pairwise_cons.2 ⟨fun second mem => ?_, ih _⟩
    have behind := le_length_before_of_mem_placed mem
    rwa [List.length_append] at behind

theorem blocks_enumerates (divides : Char → Char → Prop) [DecidableRel divides]
    (text : List Char) : Enumerates divides text (blocks divides text) where
  mem_iff _ := mem_blocks_iff
  ordered := (pairwise_placed [] _).filter _

theorem map_chars_placed (front : List Char) (pieces : List (List Char)) :
    (placed front pieces).map Block.chars = pieces := by
  induction pieces generalizing front with
  | nil => rfl
  | cons piece pieces ih => rw [placed, List.map_cons, ih]

/-- The characters of the blocks of a text. -/
def blockChars (divides : Char → Char → Prop) [DecidableRel divides] (text : List Char) :
    List (List Char) :=
  (text.splitBy (joins divides)).filter (·.all isWordChar)

theorem nil_not_mem_blockChars : [] ∉ blockChars divides text := fun mem =>
  List.nil_notMem_splitBy (joins divides) text (List.mem_filter.1 mem).1

theorem map_chars_blocks (divides : Char → Char → Prop) [DecidableRel divides]
    (text : List Char) : (blocks divides text).map Block.chars = blockChars divides text := by
  have pieces := map_chars_placed [] (text.splitBy (joins divides))
  rw [blockChars, ← pieces, List.filter_map]
  rfl

/-! ### Character by character -/

theorem blockChars_of_unbroken (unbroken : Unbroken divides chars) :
    blockChars divides chars = finished chars := by
  rw [blockChars, finished]
  cases chars with
  | nil => rfl
  | cons c rest =>
    rw [List.splitBy_of_isChain (List.cons_ne_nil c rest) (unbroken_iff.1 unbroken).2]
    exact List.filter_cons_of_pos (List.all_eq_true.2 unbroken.1)

theorem blockChars_append {first second : List Char}
    (apart : ∀ before ∈ first.getLast?, ∀ c ∈ second.head?, joins divides before c = false) :
    blockChars divides (first ++ second) =
      blockChars divides first ++ blockChars divides second := by
  rw [blockChars, List.splitBy_append apart, List.filter_append]
  rfl

/-- A character outside of words belongs to no block and ends the one before it. -/
theorem blockChars_outside {c : Char} (outside : isWordChar c = false) (chars rest : List Char) :
    blockChars divides (chars ++ c :: rest) =
      blockChars divides chars ++ blockChars divides rest := by
  have alone : blockChars divides [c] = [] := by
    rw [blockChars, List.splitBy_of_isChain (List.cons_ne_nil c []) (List.isChain_singleton c)]
    simp [outside]
  rw [blockChars_append, ← List.singleton_append, blockChars_append, alone, List.nil_append]
  · simp [joins, outside]
  · simp [joins, outside]

/-- A boundary ends a block as well, and the next one starts behind it. -/
theorem blockChars_divided {before c : Char} (last : chars.getLast? = some before)
    (apart : divides before c) (rest : List Char) :
    blockChars divides (chars ++ c :: rest) =
      blockChars divides chars ++ blockChars divides (c :: rest) := by
  refine blockChars_append ?_
  simp [last, joins, apart]

theorem finished_ne_nil (nonempty : chars ≠ []) : finished chars = [chars] := by
  cases chars with
  | nil => exact absurd rfl nonempty
  | cons c rest => rfl

theorem flatten_finished (chars : List Char) : (finished chars).flatten = chars := by
  cases chars with
  | nil => rfl
  | cons c rest => exact List.flatten_singleton

/-- The blocks have all characters of words that there are. -/
theorem flatten_blockChars (unbroken : Unbroken divides chars) (rest : List Char) :
    (blockChars divides (chars ++ rest)).flatten = chars ++ rest.filter isWordChar := by
  refine readInduction ?done ?outside ?divided ?goesOn unbroken rest
  case done =>
    intro chars unbroken
    rw [List.append_nil, blockChars_of_unbroken unbroken, flatten_finished, List.filter_nil,
      List.append_nil]
  case outside =>
    intro chars c rest unbroken outside ih
    rw [blockChars_outside outside, List.flatten_append, blockChars_of_unbroken unbroken,
      flatten_finished, List.filter_cons_of_neg (by rw [outside]; exact Bool.false_ne_true)]
    exact congrArg (chars ++ ·) ih
  case divided =>
    intro chars before c rest unbroken last inside apart ih
    rw [blockChars_divided last apart, List.flatten_append, blockChars_of_unbroken unbroken,
      flatten_finished, List.filter_cons_of_pos inside]
    exact congrArg (chars ++ ·) ih
  case goesOn =>
    intro chars c rest unbroken inside together ih
    rw [List.append_cons, ih, List.filter_cons_of_pos inside, ← List.append_cons]

/-! ## The words of a name -/

/-- Characters in lower case. -/
def lowered (chars : List Char) : List Char := chars.flatMap lowercase

theorem lowered_eq_nil_iff : lowered chars = [] ↔ chars = [] := by
  rw [lowered, List.flatMap_eq_nil_iff]
  refine ⟨fun none => List.eq_nil_iff_forall_not_mem.2 fun c mem => ?_, fun h c mem => ?_⟩
  · exact lowercase_ne_nil c (none c mem)
  · rw [h] at mem
    cases mem

theorem finished_lowered (chars : List Char) :
    finished (lowered chars) = (finished chars).map lowered := by
  cases chars with
  | nil => rfl
  | cons c rest =>
    exact finished_ne_nil fun none => List.cons_ne_nil c rest (lowered_eq_nil_iff.1 none)

/-- Reading the rest of a name gives the blocks that are left, the one that is being read among
them. -/
theorem splitWords_eq (unbroken : Unbroken Boundary chars) (rest : List Char) :
    splitWords (lowered chars) chars.getLast? rest =
      (blockChars Boundary (chars ++ rest)).map lowered := by
  refine readInduction ?done ?outside ?divided ?goesOn unbroken rest
  case done =>
    intro chars unbroken
    rw [splitWords, finished_lowered, List.append_nil, blockChars_of_unbroken unbroken]
  case outside =>
    intro chars c rest unbroken outside ih
    rw [splitWords, blockChars_outside outside, List.map_append, blockChars_of_unbroken unbroken,
      finished_lowered, outside]
    exact congrArg _ ih
  case divided =>
    intro chars before c rest unbroken last inside apart ih
    rw [splitWords, blockChars_divided last apart, List.map_append,
      blockChars_of_unbroken unbroken, finished_lowered, inside, last]
    have starts : Option.any (startsWord · c) (some before) = true := startsWord_iff.2 apart
    rw [starts]
    simp only [Bool.not_true, Bool.false_eq_true, if_false, if_true]
    rw [← List.singleton_append, ← ih, lowered, List.flatMap_singleton]
    rfl
  case goesOn =>
    intro chars c rest unbroken inside together ih
    have joined : chars.getLast?.any (startsWord · c) = false := by
      cases last : chars.getLast? with
      | none => rfl
      | some before => exact Bool.eq_false_iff.2 (together before last ∘ startsWord_iff.1)
    rw [splitWords, inside, joined, List.append_cons, ← ih, lowered, lowered, List.flatMap_append,
      List.flatMap_singleton, List.getLast?_concat]
    rfl

/-! ## How many words there are -/

/-- Nothing divides two characters of a run. -/
abbrev Undivided (_ _ : Char) : Prop := False

/-- How many characters of a list belong to another word than the one before them, if all of them
belong to words. -/
def boundaryCount : List Char → Nat
  | before :: c :: rest => (if Boundary before c then 1 else 0) + boundaryCount (c :: rest)
  | _ => 0

theorem boundaryCount_of_unbroken (unbroken : Unbroken Boundary chars) :
    boundaryCount chars = 0 := by
  obtain ⟨-, chain⟩ := unbroken
  induction chain with
  | nil => rfl
  | singleton c => rfl
  | cons_cons together _ ih => rw [boundaryCount, if_neg together, ih]

theorem boundaryCount_append {before c : Char} (last : chars.getLast? = some before)
    (apart : Boundary before c) (rest : List Char) :
    boundaryCount (chars ++ c :: rest) = boundaryCount chars + 1 + boundaryCount (c :: rest) := by
  induction chars with
  | nil => cases last
  | cons first chars ih =>
    cases chars with
    | nil =>
      obtain rfl : first = before := by simpa using last
      simp only [List.singleton_append, boundaryCount, if_pos apart, Nat.zero_add]
    | cons second chars =>
      have behind := ih (by rwa [List.getLast?_cons_cons] at last)
      rw [List.cons_append] at behind
      simp only [List.cons_append, boundaryCount, behind, Nat.add_assoc]

/-- Each boundary of a run makes one block more of it. -/
theorem length_blockChars_of_run (unbroken : Unbroken Boundary chars) (rest : List Char) :
    (∀ c ∈ rest, isWordChar c = true) → chars ++ rest ≠ [] →
    (blockChars Boundary (chars ++ rest)).length = 1 + boundaryCount (chars ++ rest) := by
  refine readInduction ?done ?outside ?divided ?goesOn unbroken rest
  case done =>
    intro chars unbroken _ nonempty
    rw [List.append_nil] at nonempty ⊢
    rw [blockChars_of_unbroken unbroken, finished_ne_nil nonempty,
      boundaryCount_of_unbroken unbroken]
    rfl
  case outside =>
    intro chars c rest _ outside _ inside _
    rw [inside c List.mem_cons_self] at outside
    cases outside
  case divided =>
    intro chars before c rest unbroken last _ apart ih inside _
    have some : chars ≠ [] := by
      rintro rfl
      cases last
    have behind := ih (fun c mem => inside c (List.mem_cons_of_mem _ mem)) (List.cons_ne_nil c rest)
    rw [List.singleton_append] at behind
    rw [blockChars_divided last apart, List.length_append, blockChars_of_unbroken unbroken,
      finished_ne_nil some, behind, boundaryCount_append last apart,
      boundaryCount_of_unbroken unbroken]
    rfl
  case goesOn =>
    intro chars c rest _ _ _ ih inside nonempty
    rw [List.append_cons] at nonempty ⊢
    exact ih (fun c mem => inside c (List.mem_cons_of_mem _ mem)) nonempty

/-- The blocks of a text are those of its runs. -/
theorem blockChars_eq_flatMap (unbroken : Unbroken Undivided chars) (rest : List Char) :
    blockChars Boundary (chars ++ rest) =
      (blockChars Undivided (chars ++ rest)).flatMap (blockChars Boundary) := by
  have whole : ∀ chars, blockChars Boundary chars =
      (finished chars).flatMap (blockChars Boundary) := by
    intro chars
    cases chars with
    | nil => rfl
    | cons c rest => exact (List.append_nil _).symm
  refine readInduction ?done ?outside ?divided ?goesOn unbroken rest
  case done =>
    intro chars unbroken
    rw [List.append_nil, blockChars_of_unbroken unbroken, ← whole]
  case outside =>
    intro chars c rest unbroken outside ih
    rw [blockChars_outside outside, blockChars_outside outside, List.flatMap_append,
      blockChars_of_unbroken unbroken, ← whole]
    exact congrArg _ ih
  case divided =>
    intro chars before c rest _ _ _ never _
    exact never.elim
  case goesOn =>
    intro chars c rest _ _ _ ih
    rwa [List.append_cons]

/-- Where each piece of a list gives one item and some more, there is an item for each piece and
what is given besides. -/
theorem length_flatMap_of_length {α β : Type} {pieces : List α} {items : α → List β}
    {more : α → Nat} (each : ∀ piece ∈ pieces, (items piece).length = 1 + more piece) :
    (pieces.flatMap items).length = pieces.length + total (pieces.map more) := by
  induction pieces with
  | nil => rfl
  | cons piece pieces ih =>
    obtain ⟨first, others⟩ := List.forall_mem_cons.1 each
    rw [List.flatMap_cons, List.length_append, first, ih others, List.length_cons, List.map_cons,
      total]
    omega

/-- The blocks of a text are its runs and one more for each boundary of a run. -/
theorem length_blockChars (text : List Char) :
    (blockChars Boundary text).length = (blockChars Undivided text).length +
      total ((blockChars Undivided text).map boundaryCount) := by
  have split := blockChars_eq_flatMap (@unbroken_nil Undivided) text
  rw [List.nil_append] at split
  rw [split]
  refine length_flatMap_of_length fun run mem => ?_
  rw [← map_chars_blocks] at mem
  obtain ⟨block, listed, rfl⟩ := List.mem_map.1 mem
  obtain ⟨-, nonempty, ⟨inside, -⟩, -, -⟩ := mem_blocks_iff.1 listed
  exact length_blockChars_of_run unbroken_nil block.chars inside nonempty

theorem words_eq (name : String) :
    words name =
      (blockChars Boundary name.toList).map fun chars => String.ofList (lowered chars) := by
  have split := splitWords_eq unbroken_nil name.toList
  rw [List.nil_append] at split
  exact (congrArg _ split).trans List.map_map

theorem not_mem_words (name : String) : "" ∉ words name := by
  rw [words_eq]
  intro mem
  obtain ⟨chars, listed, none⟩ := List.mem_map.1 mem
  have empty : lowered chars = [] := by
    rw [← String.toList_ofList (l := lowered chars), none, String.toList_empty]
  exact nil_not_mem_blockChars (lowered_eq_nil_iff.1 empty ▸ listed)

theorem join_words (name : String) :
    String.join (words name) = String.ofList (lowered (name.toList.filter isWordChar)) := by
  have whole := flatten_blockChars (@unbroken_nil Boundary) name.toList
  rw [List.nil_append, List.nil_append] at whole
  rw [← whole, words_eq, ← String.toList_inj, String.toList_join, String.toList_ofList]
  simp only [lowered, String.toList_ofList, List.flatMap_def, List.map_flatten,
    List.flatten_flatten, List.map_map, Function.comp_def]

theorem words_eq_nil_iff (name : String) :
    words name = [] ↔ ∀ c ∈ name.toList, isWordChar c = false := by
  have whole := flatten_blockChars (@unbroken_nil Boundary) name.toList
  rw [List.nil_append, List.nil_append] at whole
  rw [words_eq, List.map_eq_nil_iff]
  constructor
  · intro none c mem
    rw [none, List.flatten_nil, eq_comm, List.filter_eq_nil_iff] at whole
    exact Bool.eq_false_iff.2 (whole c mem)
  · intro outside
    have none : name.toList.filter isWordChar = [] :=
      List.filter_eq_nil_iff.2 fun c mem => Bool.eq_false_iff.1 (outside c mem)
    rw [none, List.flatten_eq_nil_iff] at whole
    exact List.eq_nil_iff_forall_not_mem.2 fun chars mem =>
      nil_not_mem_blockChars (whole chars mem ▸ mem)

/-- The words of a name are the blocks that its boundaries and the characters outside of words leave
of it, each in lower case. None of them is empty, together they have all characters of words that
there are, and there is one for each run of the name and one more for each boundary of a run. -/
theorem words_enumerate_blocks (name : String) :
    ∃ blocks runs, Enumerates Boundary name.toList blocks ∧
      Enumerates Undivided name.toList runs ∧
      words name = blocks.map (fun block => String.ofList (lowered block.chars)) ∧
      "" ∉ words name ∧
      String.join (words name) = String.ofList (lowered (name.toList.filter isWordChar)) ∧
      (words name = [] ↔ ∀ c ∈ name.toList, isWordChar c = false) ∧
      (words name).length =
        runs.length + total (runs.map fun run => boundaryCount run.chars) := by
  refine ⟨blocks Boundary name.toList, blocks Undivided name.toList, blocks_enumerates ..,
    blocks_enumerates .., ?each, not_mem_words name, join_words name, words_eq_nil_iff name, ?count⟩
  case each =>
    rw [words_eq, ← map_chars_blocks, List.map_map]
    rfl
  case count =>
    rw [words_eq, List.length_map, length_blockChars, ← map_chars_blocks Undivided,
      List.length_map, List.map_map]
    rfl

end MethodCorpus.Text
