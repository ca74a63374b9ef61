/-!
# Sums of counts

* `total_append`: the sum of a list is that of its parts.
-/

namespace MethodCorpus

/-- The sum of some numbers. -/
def total : List Nat → Nat
  | [] => 0
  | n :: rest => n + total rest

theorem total_append (ns rest : List Nat) : total (ns ++ rest) = total ns + total rest := by
  induction ns with
  | nil => exact (Nat.zero_add _).symm
  | cons n ns ih => rw [List.cons_append, total, total, ih, Nat.add_assoc]

end MethodCorpus
