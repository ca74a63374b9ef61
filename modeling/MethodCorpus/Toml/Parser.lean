import MethodCorpus.Toml.Lexical
import MethodCorpus.Toml.Scalar
import MethodCorpus.Toml.Table

/-!
# Reading TOML

A document is a sequence of lines: a header, a key with its value, or neither, and a comment at the
end. Values may go on over several lines where an array or an inline table is open; they may stand
inside each other to a bounded depth.

As in the reader of JSON, every part takes the characters that are left and yields those that are
left afterwards, and the number that nested parts count down only shows that they end.
-/

namespace MethodCorpus.Toml

/-- How many arrays and inline tables may stand inside each other. -/
def maxDepth : Nat := 80

/-- Reads keys and the equals sign behind them. -/
def readKeysAndEquals (text : List Char) : Option (List String × List Char) :=
  match readKeys text.length text with
  | some (keys, '=' :: rest) => some (keys, skipBlanks rest)
  | _ => none

mutual

/-- Reads a value; the depth is that of arrays and inline tables that may still be opened. -/
def readValue (fuel depth : Nat) (text : List Char) : Option (Json × List Char) :=
  match fuel with
  | 0 => none
  | fuel + 1 =>
    match text with
    | '[' :: rest =>
      match depth with
      | 0 => none
      | depth + 1 => readItems fuel depth [] (skipGaps false rest)
    | '\x7b' :: rest =>
      match depth with
      | 0 => none
      | depth + 1 => readMembers fuel depth [] (skipGaps false rest)
    | '"' :: _ | '\x27' :: _ =>
      (readText text).map fun (text, rest) => (Json.ofText (String.ofList text), rest)
    | _ => readScalar text

/-- Reads the items of an array up to its end, after those already read (last first). -/
def readItems (fuel depth : Nat) (before : List Json) (text : List Char) :
    Option (Json × List Char) :=
  match fuel with
  | 0 => none
  | fuel + 1 =>
    match text with
    | ']' :: rest => some (.array before.reverse, rest)
    | _ =>
      match readValue fuel depth text with
      | none => none
      | some (item, rest) =>
        match skipGaps false rest with
        | ',' :: rest => readItems fuel depth (item :: before) (skipGaps false rest)
        | ']' :: rest => some (.array (item :: before).reverse, rest)
        | _ => none

/-- Reads the members of an inline table up to its end, into the table read so far. -/
def readMembers (fuel depth : Nat) (members : Members) (text : List Char) :
    Option (Json × List Char) :=
  match fuel with
  | 0 => none
  | fuel + 1 =>
    match text with
    | '\x7d' :: rest => some (.object (membersJson members), rest)
    | _ =>
      match readKeysAndEquals text with
      | none => none
      | some (keys, rest) =>
        match readValue fuel depth rest with
        | none => none
        | some (value, rest) =>
          match assignAt keys value members with
          | none => none
          | some members =>
            match skipGaps false rest with
            | ',' :: rest => readMembers fuel depth members (skipGaps false rest)
            | '\x7d' :: rest => some (.object (membersJson members), rest)
            | _ => none

end

/-- A document that was read in part: its tables, and the keys of the last header. -/
structure Document where
  header : List String
  members : Members

/-- Reads the keys of a header and what closes it. -/
def readHeader (isList : Bool) (document : Document) (text : List Char) :
    Option (Document × List Char) := do
  let (keys, rest) ← readKeys text.length text
  let rest ← match isList, rest with
    | true, ']' :: ']' :: rest => some rest
    | false, ']' :: rest => some rest
    | _, _ => none
  let members ← nameAt isList keys document.members
  return (⟨keys, members⟩, rest)

/-- Reads a line up to its end or comment. -/
def readLine (document : Document) (text : List Char) : Option (Document × List Char) :=
  match skipBlanks text with
  | '[' :: '[' :: rest => readHeader true document rest
  | '[' :: rest => readHeader false document rest
  | [] => some (document, [])
  | c :: rest =>
    if c = '#' || c = '\n' || c = '\r' then some (document, c :: rest)
    else do
      let (keys, rest) ← readKeysAndEquals (c :: rest)
      let (value, rest) ← readValue (2 * rest.length + 2) maxDepth rest
      let members ← changeNamed (assignAt keys value) document.header document.members
      return ({ document with members }, rest)

/-- Reads at most so many lines, up to the end of the document. -/
def readLines (most : Nat) (document : Document) (text : List Char) : Option Document :=
  match most with
  | 0 => if text.isEmpty then some document else none
  | most + 1 =>
    match readLine document text with
    | none => none
    | some (document, rest) =>
      match endLine? rest with
      | none => none
      | some [] => some document
      | some rest => readLines most document rest

/-- A document without the mark of its encoding. -/
def unmarked : List Char → List Char
  | '\ufeff' :: rest => rest
  | text => text

/-- The value that a document describes, if it is well formed. -/
def parse (text : String) : Option Json :=
  let text := unmarked text.toList
  (readLines text.length ⟨[], []⟩ text).map fun document => .object (membersJson document.members)

end MethodCorpus.Toml
