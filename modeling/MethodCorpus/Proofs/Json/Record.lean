import Mathlib.Data.List.Nodup
import MethodCorpus.Json.Record
import MethodCorpus.Proofs.Traverse

/-!
# Records are read back

A record is written as an object whose members have different names, so each field is found under
its name and the reader gets them in the order in which it asks for them. What is read of a field
undoes what was written there.

* `member?_of_mem`, `fields?_ofMembers`: the fields of a record that was written;
* `nat?_ofNat`, `option?_ofOption`, `list?_ofList`: the values of single fields;
* `depth_ofMembers_le`, `isMeaningful_ofMembers`: when a record can be kept as a whole.
-/

namespace MethodCorpus.Json

/-! ## Fields -/

section Fields

variable {members : List (String × Json)} {name : String} {value : Json}

/-- No member is found under a name that none of them has. -/
theorem filter_members_of_notMem (absent : name ∉ members.map Prod.fst) :
    (members.map fun (key, value) => ((some key : Text), value)).filter (·.1 == some name) =
      [] := by
  rw [List.filter_eq_nil_iff]
  intro member mem
  obtain ⟨⟨key, value⟩, listed, rfl⟩ := List.mem_map.1 mem
  have differ : key ≠ name := by
    rintro rfl
    exact absent (List.mem_map_of_mem listed)
  simpa using differ

/-- The value of a member is found under its name if no other member has that name. -/
theorem member?_of_mem (distinct : (members.map Prod.fst).Nodup) (mem : (name, value) ∈ members) :
    member? name (members.map fun (key, value) => (some key, value)) = some (some value) := by
  obtain ⟨front, back, rfl⟩ := List.append_of_mem mem
  rw [List.map_append, List.map_cons, List.nodup_middle, List.nodup_cons, List.mem_append,
    not_or] at distinct
  obtain ⟨⟨notBefore, notBehind⟩, -⟩ := distinct
  rw [member?, List.map_append, List.map_cons, List.filter_append,
    filter_members_of_notMem notBefore, List.filter_cons_of_pos (by simp),
    filter_members_of_notMem notBehind]
  rfl

/-- The fields of a record that was written are read in their order. -/
theorem fields?_ofMembers (distinct : (members.map Prod.fst).Nodup) :
    fields? (members.map Prod.fst) (ofMembers members) =
      some (members.map fun member => some member.2) := by
  have named : (members.map fun (key, value) => ((some key : Text), value)).all (·.1.isSome) =
      true := by
    simp
  have each : ∀ member ∈ members,
      member? member.1 (members.map fun (key, value) => (some key, value)) = some (some member.2) :=
    fun member mem => member?_of_mem distinct mem
  rw [ofMembers, fields?, if_pos named, List.mapM_map]
  exact mapM_eq_some_map each

end Fields

/-! ## Values -/

theorem nat?_ofNat {n : Nat} (within : n ≤ maxNat) : nat? (ofNat n) = some n :=
  if_pos within

/-- A value that may be missing is read back, unless it is written as null itself. -/
theorem option?_ofOption {α : Type} {encode : α → Json} {decode : Json → Option α}
    {field : Option α} (read : ∀ value ∈ field, decode (encode value) = some value)
    (there : ∀ value ∈ field, (encode value).isNull = false) :
    option? decode (ofOption encode field) = some field := by
  cases field with
  | none => rfl
  | some value =>
    have written := there value rfl
    rw [ofOption, option?, read value rfl, Option.map_some]
    rintro null
    rw [null] at written
    cases written

theorem list?_ofList {α : Type} {encode : α → Json} {decode : Json → Option α} {values : List α}
    (read : ∀ value ∈ values, decode (encode value) = some value) :
    list? decode (ofList encode values) = some values := by
  have each := mapM_eq_some_map read
  rw [List.map_id'] at each
  rw [ofList, list?, List.mapM_map]
  exact each

/-! ## Keeping a value as a whole -/

theorem depth_ofMembers_le {members : List (String × Json)} {most : Nat}
    (each : ∀ member ∈ members, member.2.depth ≤ most) : (ofMembers members).depth ≤ most + 1 := by
  rw [ofMembers, depth]
  refine Nat.succ_le_succ ?_
  induction members with
  | nil => exact Nat.zero_le most
  | cons member rest ih =>
    rw [List.map_cons, memberDepths]
    exact Nat.max_le.2 ⟨each member List.mem_cons_self,
      ih fun other mem => each other (List.mem_cons_of_mem _ mem)⟩

theorem isMeaningful_ofMembers {members : List (String × Json)}
    (each : ∀ member ∈ members, member.2.isMeaningful = true) :
    (ofMembers members).isMeaningful = true := by
  rw [ofMembers, isMeaningful]
  induction members with
  | nil => rfl
  | cons member rest ih =>
    rw [List.map_cons, membersMeaningful, each member List.mem_cons_self,
      ih fun other mem => each other (List.mem_cons_of_mem _ mem)]
    rfl

theorem depth_ofList_ofText (texts : List String) : (ofList ofText texts).depth = 1 := by
  have flat : depths (texts.map ofText) = 0 := by
    induction texts with
    | nil => rfl
    | cons text rest ih => rw [List.map_cons, depths, ih]; rfl
  rw [ofList, depth, flat]

theorem isMeaningful_ofList_ofText (texts : List String) :
    (ofList ofText texts).isMeaningful = true := by
  rw [ofList, isMeaningful]
  induction texts with
  | nil => rfl
  | cons text rest ih => rw [List.map_cons, areMeaningful, ih]; rfl

/-- A number that fits into 64 bits is within the range of a double. -/
theorem isMeaningful_ofNat {n : Nat} (within : n ≤ maxNat) : (ofNat n).isMeaningful = true := by
  have small : maxNat < beyondDouble := by decide +kernel
  rw [ofNat, isMeaningful, Number.isFinite, decide_eq_true_eq]
  exact Nat.lt_of_le_of_lt within small

end MethodCorpus.Json
