import MethodCorpus.Text.Ranges

/-!
# TOML: blanks, comments, strings and keys

The smallest parts of a TOML document. Every reader takes the characters that are left and yields
those that are left afterwards, or nothing if the document breaks a rule.

* `length_readEscape_lt`, `length_lineBreak?_lt`: what a backslash starts takes something off the
  document, so reading a text ends.
-/

namespace MethodCorpus.Toml

/-- Whether a character is a blank within a line. -/
def isBlank (c : Char) : Bool := c == ' ' || c == '\t'

/-- Whether a character may stand in a comment or a quoted text: no control but the tab. -/
def isPlain (c : Char) : Bool := c == '\t' || (' ' ≤ c && c != '\x7f')

/-- Drops the blanks in front. -/
def skipBlanks (text : List Char) : List Char := text.dropWhile isBlank

/-- Takes the end of a line off the front. -/
def newline? : List Char → Option (List Char)
  | '\n' :: rest => some rest
  | '\r' :: '\n' :: rest => some rest
  | _ => none

/-- Drops blanks, ends of lines and comments. A comment goes on to the end of its line. -/
def skipGaps (inComment : Bool) : List Char → List Char
  | [] => []
  | '\n' :: rest => skipGaps false rest
  | '\r' :: '\n' :: rest => skipGaps false rest
  | c :: rest =>
    if inComment then if isPlain c then skipGaps true rest else c :: rest
    else if isBlank c then skipGaps false rest
    else if c = '#' then skipGaps true rest
    else c :: rest

/-- Takes blanks, a comment, and the end of the line or of the document. -/
def endLine? (text : List Char) : Option (List Char) :=
  let rest := match skipBlanks text with
    | '#' :: comment => comment.dropWhile isPlain
    | rest => rest
  if rest.isEmpty then some [] else newline? rest

/-- The character that a backslash and a letter stand for. -/
def shortEscape? (c : Char) : Option Char :=
  match c with
  | 'b' => some '\x08'
  | 't' => some '\t'
  | 'n' => some '\n'
  | 'f' => some '\x0c'
  | 'r' => some '\r'
  | 'e' => some '\x1b'
  | '"' => some '"'
  | '\\' => some '\\'
  | _ => none

/-- The number of digits that follow a backslash and a letter. -/
def codeDigits? (c : Char) : Option Nat :=
  match c with
  | 'x' => some 2
  | 'u' => some 4
  | 'U' => some 8
  | _ => none

/-- The character with a number, if there is one. -/
def charOf? (n : Nat) : Option Char := if n.isValidChar then some (Char.ofNat n) else none

/-- Takes an escape from behind its backslash. -/
def readEscape (text : List Char) : Option (Char × List Char) :=
  match text with
  | [] => none
  | c :: rest =>
    match codeDigits? c with
    | none => (shortEscape? c).map (·, rest)
    | some count =>
      if count ≤ rest.length && (rest.take count).all Text.isHexDigit then
        (charOf? (Text.hexValue (String.ofList (rest.take count)))).map (·, rest.drop count)
      else none

theorem length_readEscape_lt {text rest : List Char} {c : Char}
    (h : readEscape text = some (c, rest)) : rest.length < text.length := by
  unfold readEscape at h
  split at h
  · simp at h
  · next d behind =>
    split at h
    · obtain ⟨_, -, e⟩ := Option.map_eq_some_iff.1 h
      obtain rfl := (Prod.mk.inj e).2
      exact Nat.lt_succ_self _
    · split at h
      · obtain ⟨_, -, e⟩ := Option.map_eq_some_iff.1 h
        obtain rfl := (Prod.mk.inj e).2
        simp only [List.length_drop, List.length_cons]
        omega
      · simp at h

/-- Reads a text between double quotes from behind the first one, after what was already read (last
first). -/
def readBasic (before : List Char) (text : List Char) : Option (List Char × List Char) :=
  match text with
  | [] => none
  | '"' :: rest => some (before.reverse, rest)
  | '\\' :: rest =>
    match _inside : readEscape rest with
    | some (c, rest) => readBasic (c :: before) rest
    | none => none
  | c :: rest => if isPlain c then readBasic (c :: before) rest else none
termination_by text.length
decreasing_by
  · exact Nat.lt_succ_of_lt (length_readEscape_lt _inside)
  · exact Nat.lt_succ_self _

/-- Reads a text between single quotes from behind the first one. -/
def readLiteral (text : List Char) : Option (List Char × List Char) :=
  match text.dropWhile fun c => isPlain c && c != '\x27' with
  | '\x27' :: rest => some (text.takeWhile fun c => isPlain c && c != '\x27', rest)
  | _ => none

/-- Ends a text of several lines: behind its closing quotes, or with up to two quotes that belong to
it in front of them. -/
def closing? (quote : Char) (text : List Char) : Option (List Char × List Char) :=
  let count := (text.takeWhile (· == quote)).length
  if count < 3 then none
  else
    let own := min (count - 3) 2
    some (List.replicate own quote, text.drop (own + 3))

/-- Drops blanks and ends of lines. -/
def skipLines : List Char → List Char
  | '\r' :: '\n' :: rest => skipLines rest
  | c :: rest => if isBlank c || c == '\n' then skipLines rest else c :: rest
  | [] => []

/-- Takes what a backslash at the end of a line takes away: the end of that line and everything up to
the next character. -/
def lineBreak? (text : List Char) : Option (List Char) :=
  (newline? (skipBlanks text)).map skipLines

theorem length_skipLines_le (text : List Char) : (skipLines text).length ≤ text.length := by
  fun_induction skipLines text with
  | case1 rest ih => exact Nat.le_succ_of_le (Nat.le_succ_of_le ih)
  | case2 c rest _ _ ih => exact Nat.le_succ_of_le ih
  | case3 => exact Nat.le_refl _
  | case4 => exact Nat.le_refl _

theorem length_newline?_lt {text rest : List Char} (h : newline? text = some rest) :
    rest.length < text.length := by
  unfold newline? at h
  split at h
  · rw [Option.some.inj h]
    exact Nat.lt_succ_self _
  · rw [Option.some.inj h]
    exact Nat.lt_succ_of_lt (Nat.lt_succ_self _)
  · exact nomatch h

theorem length_lineBreak?_lt {text rest : List Char} (h : lineBreak? text = some rest) :
    rest.length < text.length := by
  obtain ⟨line, hline, rfl⟩ := Option.map_eq_some_iff.1 h
  have blanks := (List.dropWhile_suffix (p := isBlank) (l := text)).length_le
  have end_ := length_newline?_lt hline
  have lines := length_skipLines_le line
  simp only [skipBlanks] at end_
  omega

/-- Reads a text of several lines between three quotes each, after what was already read (last
first). Between double quotes a backslash escapes. -/
def readLong (quote : Char) (before : List Char) (text : List Char) :
    Option (List Char × List Char) :=
  match closing? quote text with
  | some (own, rest) => some (before.reverse ++ own, rest)
  | none =>
    match text with
    | [] => none
    | '\r' :: '\n' :: rest => readLong quote ('\n' :: '\r' :: before) rest
    | c :: rest =>
      if c = '\\' && quote = '"' then
        match _line : lineBreak? rest with
        | some rest => readLong quote before rest
        | none =>
          match _escape : readEscape rest with
          | some (c, rest) => readLong quote (c :: before) rest
          | none => none
      else if c = '\n' || isPlain c then readLong quote (c :: before) rest
      else none
termination_by text.length
decreasing_by
  · exact Nat.lt_succ_of_lt (Nat.lt_succ_self _)
  · exact Nat.lt_succ_of_lt (length_lineBreak?_lt _line)
  · exact Nat.lt_succ_of_lt (length_readEscape_lt _escape)
  · exact Nat.lt_succ_self _

/-- Drops the end of a line that directly follows the opening quotes. -/
def trimFirst (text : List Char) : List Char := (newline? text).getD text

/-- Reads a text in one of its four forms. -/
def readText : List Char → Option (List Char × List Char)
  | '"' :: '"' :: '"' :: rest => readLong '"' [] (trimFirst rest)
  | '\x27' :: '\x27' :: '\x27' :: rest => readLong '\x27' [] (trimFirst rest)
  | '"' :: rest => readBasic [] rest
  | '\x27' :: rest => readLiteral rest
  | _ => none

/-- Whether a character may stand in a key without quotes. -/
def isBare (c : Char) : Bool := c.isAlphanum || c == '_' || c == '-'

/-- Reads a key without dots. -/
def readKey : List Char → Option (String × List Char)
  | '"' :: rest => (readBasic [] rest).map fun (key, rest) => (String.ofList key, rest)
  | '\x27' :: rest => (readLiteral rest).map fun (key, rest) => (String.ofList key, rest)
  | text =>
    match text.takeWhile isBare with
    | [] => none
    | key => some (String.ofList key, text.dropWhile isBare)

/-- Reads keys that are divided by dots, at most as many as `most`. -/
def readKeys (most : Nat) (text : List Char) : Option (List String × List Char) :=
  match most with
  | 0 => none
  | most + 1 =>
    match readKey (skipBlanks text) with
    | none => none
    | some (key, rest) =>
      match skipBlanks rest with
      | '.' :: rest => (readKeys most rest).map fun (keys, rest) => (key :: keys, rest)
      | rest => some ([key], rest)

end MethodCorpus.Toml
