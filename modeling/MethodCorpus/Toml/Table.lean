import MethodCorpus.Json.Basic

/-!
# TOML: tables under construction

A document fills a tree of tables line by line: a header names the table that the next lines are
about, and a key may step down into further tables. How a table came about decides how it may grow.

* A table that was named by a header may not be named by a header again, nor be reached by a key.
* A table that a longer header implies may be named once.
* A table that a key reached may be reached by other keys, but not be named.
* A value does not grow, be it an array or a table.
* A list of tables is named once more for each of its tables; what follows is about the last one.
-/

namespace MethodCorpus.Toml

/-- How a table came about. -/
inductive Origin where
  /-- A header named it. -/
  | named
  /-- A longer header implies it. -/
  | implied
  /-- A key reached it. -/
  | reached
  deriving DecidableEq

/-- What stands under a key. -/
inductive Node where
  | value (json : Json)
  | table (origin : Origin) (members : List (String × Node))
  /-- A list of tables, last first. -/
  | tables (items : List (List (String × Node)))

/-- What stands under the keys of a table. -/
abbrev Members := List (String × Node)

/-- The members with another node under a key that is there. -/
def replace (key : String) (node : Node) (members : Members) : Members :=
  members.map fun member => if member.1 = key then (key, node) else member

/-- Changes the table that keys lead to, below a table of the given origin. Keys of a line reach
tables, keys of a header imply them. -/
def change (byLine : Bool) (update : Origin → Members → Option Members) :
    List String → Origin → Members → Option Members
  | [], origin, members => update origin members
  | key :: keys, _, members =>
    match members.lookup key with
    | none =>
      let origin := if byLine then .reached else .implied
      (change byLine update keys origin []).map fun inner =>
        members ++ [(key, .table origin inner)]
    | some (.table origin inner) =>
      if byLine && origin = .named then none
      else (change byLine update keys origin inner).map fun inner =>
        replace key (.table origin inner) members
    | some (.tables (last :: before)) =>
      (change byLine update keys .named last).map fun last =>
        replace key (.tables (last :: before)) members
    | some _ => none

/-- Names the table under a key. -/
def nameTable (key : String) (members : Members) : Option Members :=
  match members.lookup key with
  | none => some (members ++ [(key, .table .named [])])
  | some (.table .implied inner) => some (replace key (.table .named inner) members)
  | some _ => none

/-- Starts another table of the list under a key. -/
def startTable (key : String) (members : Members) : Option Members :=
  match members.lookup key with
  | none => some (members ++ [(key, .tables [[]])])
  | some (.tables items) => some (replace key (.tables ([] :: items)) members)
  | some _ => none

/-- Puts a value under a key that is new. A table below the one that a line is about takes it only
if a key reached it. -/
def assign (below : Bool) (key : String) (json : Json) (origin : Origin) (members : Members) :
    Option Members :=
  if below && origin ≠ .reached then none
  else if (members.lookup key).isSome then none
  else some (members ++ [(key, .value json)])

/-- A list of keys without the last one, and the last one. -/
def unsnoc? (keys : List String) : Option (List String × String) :=
  keys.getLast?.map fun last => (keys.dropLast, last)

/-- Puts a value under the keys of a line. -/
def assignAt (keys : List String) (json : Json) (members : Members) : Option Members := do
  let (above, key) ← unsnoc? keys
  change true (assign (!above.isEmpty) key json) above .named members

/-- Names the table, or the list of tables, under the keys of a header. -/
def nameAt (isList : Bool) (keys : List String) (members : Members) : Option Members := do
  let (above, key) ← unsnoc? keys
  change false (fun _ => if isList then startTable key else nameTable key) above .named members

/-- Changes the table that a header has named. -/
def changeNamed (update : Members → Option Members) (keys : List String) (members : Members) :
    Option Members :=
  change false (fun _ => update) keys .named members

mutual

/-- A node as a JSON value. -/
def Node.toJson : Node → Json
  | .value json => json
  | .table _ members => .object (membersJson members)
  | .tables items => .array (tablesJson items [])

/-- The members of a table as members of an object. -/
def membersJson : List (String × Node) → List (Json.Text × Json)
  | [] => []
  | (key, node) :: rest => (some key, node.toJson) :: membersJson rest

/-- The tables of a list in order, in front of those after them. -/
def tablesJson : List (List (String × Node)) → List Json → List Json
  | [], after => after
  | members :: before, after => tablesJson before (.object (membersJson members) :: after)

end

end MethodCorpus.Toml
