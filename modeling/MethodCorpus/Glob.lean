/-!
# Path patterns

A pattern matches a path as a whole, character by character. A question mark stands for any
character and a star for any text, slashes included. Two stars stand for any number of folders; they
have to be a segment of their own. Brackets list characters and ranges of characters, or with an
exclamation mark those that are not meant; a closing bracket that comes first is meant itself. A
pattern that breaks these rules matches nothing.

* `length_bracket?_lt`: a pair of brackets takes something off a pattern, so reading one ends.
-/

namespace MethodCorpus.Glob

/-- A range of characters, both ends included. -/
structure Span where
  first : Char
  last : Char

/-- Whether a character lies in the range. -/
def Span.contains (span : Span) (c : Char) : Bool := span.first ≤ c && c ≤ span.last

/-- A part of a pattern. -/
inductive Token where
  | char (c : Char)
  | anyChar
  /-- A character in one of the ranges, or in none of them. -/
  | oneOf (negated : Bool) (spans : List Span)
  | anyText
  | anyFolders

/-- The ranges between brackets; a hyphen joins its two neighbours. -/
def spans : List Char → List Span
  | first :: '-' :: last :: rest => ⟨first, last⟩ :: spans rest
  | c :: rest => ⟨c, c⟩ :: spans rest
  | [] => []

/-- Takes what stands behind an opening bracket, up to the closing one. -/
def bracket? (text : List Char) : Option (Token × List Char) :=
  let (negated, body) := match text with
    | '!' :: rest => (true, rest)
    | rest => (false, rest)
  match body with
  | [] => none
  | first :: rest =>
    match rest.dropWhile (· != ']') with
    | [] => none
    | _ :: behind =>
      some (.oneOf negated (spans (first :: rest.takeWhile (· != ']'))), behind)

theorem length_bracket?_lt {text rest : List Char} {token : Token}
    (h : bracket? text = some (token, rest)) : rest.length < text.length := by
  have shorter (body rest behind : List Char) (c d : Char)
      (hbody : body.length ≤ text.length) (hrest : body = c :: rest)
      (h : rest.dropWhile (· != ']') = d :: behind) : behind.length < text.length := by
    have := (List.dropWhile_suffix (p := (· != ']')) (l := rest)).length_le
    rw [h, List.length_cons] at this
    rw [hrest, List.length_cons] at hbody
    omega
  unfold bracket? at h
  split at h
  next negated body hb =>
  have inside : body.length ≤ text.length := by
    split at hb
    · obtain ⟨-, rfl⟩ := Prod.mk.inj hb
      simp
    · obtain ⟨-, rfl⟩ := Prod.mk.inj hb
      exact Nat.le_refl _
  split at h
  · simp at h
  · split at h
    · simp at h
    · next first tail _ closing behind hclose =>
      obtain ⟨-, rfl⟩ := Prod.mk.inj (Option.some.inj h)
      exact shorter _ _ _ _ _ inside rfl hclose

/-- The parts of a pattern, if it keeps the rules. Two stars may only stand at the start of a
segment. -/
def tokens? (atStart : Bool) (pattern : List Char) : Option (List Token) :=
  match pattern with
  | [] => some []
  | '*' :: '*' :: rest =>
    if atStart then
      match rest with
      | [] => some [.anyFolders]
      | '/' :: rest => (tokens? true rest).map (.anyFolders :: ·)
      | _ => none
    else none
  | '*' :: rest => (tokens? false rest).map (.anyText :: ·)
  | '?' :: rest => (tokens? false rest).map (.anyChar :: ·)
  | '[' :: rest =>
    match _inside : bracket? rest with
    | some (token, rest) => (tokens? false rest).map (token :: ·)
    | none => none
  | c :: rest => (tokens? (c == '/') rest).map (.char c :: ·)
termination_by pattern.length
decreasing_by
  all_goals simp only [List.length_cons]
  all_goals first | omega | exact Nat.lt_succ_of_lt (length_bracket?_lt _inside)

/-- What is left of a text when characters are taken off its front, none or more. -/
def suffixes : List Char → List (List Char)
  | [] => [[]]
  | c :: rest => (c :: rest) :: suffixes rest

/-- What is left of a text behind each of its slashes. -/
def afterFolders : List Char → List (List Char)
  | [] => []
  | c :: rest => if c = '/' then rest :: afterFolders rest else afterFolders rest

/-- Whether the parts of a pattern together match a text. -/
def matchTokens : List Token → List Char → Bool
  | [], text => text.isEmpty
  | .anyText :: tokens, text => (suffixes text).any (matchTokens tokens)
  | .anyFolders :: tokens, text => (text :: afterFolders text ++ [[]]).any (matchTokens tokens)
  | _ :: _, [] => false
  | .char c :: tokens, d :: text => c == d && matchTokens tokens text
  | .anyChar :: tokens, _ :: text => matchTokens tokens text
  | .oneOf negated spans :: tokens, c :: text =>
    (spans.any (·.contains c) != negated) && matchTokens tokens text

/-- Whether a pattern keeps the rules and matches a path. -/
def isMatch (pattern path : String) : Bool :=
  match tokens? true pattern.toList with
  | some tokens => matchTokens tokens path.toList
  | none => false

/-- Whether one of the patterns matches a path. -/
def isExcluded (patterns : List String) (path : String) : Bool :=
  patterns.any (isMatch · path)

end MethodCorpus.Glob
