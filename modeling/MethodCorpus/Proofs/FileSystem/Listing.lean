import Mathlib.Data.String.Basic
import MethodCorpus.FileSystem.Listing
import MethodCorpus.Proofs.FileSystem.WellFormed

/-!
# The order of names

Of two characters the one with the smaller code has the smaller bytes: a shorter code starts with a
smaller byte, and bytes of codes of the same length are digits of the code. So names are in the order
of their bytes just if they are in the order of their characters, and routes that are in the order of
their names are compared name by name.

* `encode_append_lt`: the bytes of two characters;
* `nameBytes_lt`, `map_nameBytes_lt`: the order of names and of routes;
* `pairwise_sortedEntries`: the order in which a directory is listed.
-/

namespace MethodCorpus.FileSystem

/-! ## Bytes -/

theorem toNat_lt_of_char (c : Char) : c.val.toNat < 0x110000 := by
  have valid := c.valid
  simp only [UInt32.isValidChar, Nat.isValidChar] at valid
  omega

/-- The bytes of a smaller character are smaller, whatever follows them. -/
theorem encode_append_lt {c d : Char} (h : c < d) (rest rest' : List UInt8) :
    String.utf8EncodeChar c ++ rest < String.utf8EncodeChar d ++ rest' := by
  have smaller : c.val.toNat < d.val.toNat := h
  have bounded := toNat_lt_of_char d
  unfold String.utf8EncodeChar
  generalize c.val.toNat = m at *
  generalize d.val.toNat = n at *
  -- the bytes of one code are taken off its end, six bits at a time
  have twice (k : Nat) : k / 4096 = k / 64 / 64 := by omega
  have thrice (k : Nat) : k / 262144 = k / 64 / 64 / 64 := by omega
  dsimp only
  split_ifs <;> simp only [List.cons_append, List.nil_append, List.cons_lt_cons_iff,
    UInt8.lt_iff_toNat_lt, ← UInt8.toNat_inj, UInt8.toNat_ofNat', Nat.reducePow, twice, thrice]
  all_goals omega

theorem nameBytes_eq (name : String) : nameBytes name = name.toList.flatMap String.utf8EncodeChar := by
  rw [nameBytes, String.toUTF8_eq_toByteArray, ← String.utf8Encode_toList, List.utf8Encode,
    List.toList_data_toByteArray]

theorem flatMap_encode_lt {chars chars' : List Char} (h : chars < chars') :
    chars.flatMap String.utf8EncodeChar < chars'.flatMap String.utf8EncodeChar := by
  induction h with
  | nil =>
    rw [List.flatMap_nil, List.flatMap_cons]
    obtain ⟨byte, bytes, code⟩ := List.exists_cons_of_ne_nil (@String.utf8EncodeChar_ne_nil _)
    rw [code]
    exact List.nil_lt_cons _ _
  | rel smaller =>
    rw [List.flatMap_cons, List.flatMap_cons]
    exact encode_append_lt smaller _ _
  | cons _ ih =>
    rw [List.flatMap_cons, List.flatMap_cons]
    exact List.append_left_lt ih

/-- A smaller name has smaller bytes. -/
theorem nameBytes_lt {a b : String} (h : a < b) : nameBytes a < nameBytes b := by
  rw [nameBytes_eq, nameBytes_eq]
  exact flatMap_encode_lt (String.lt_iff_toList_lt.1 h)

/-- Names are compared one by one. -/
theorem map_nameBytes_lt {a b : Route} (h : a < b) : a.map nameBytes < b.map nameBytes := by
  induction h with
  | nil => exact List.nil_lt_cons _ _
  | rel smaller => exact List.cons_lt_cons_iff.2 (.inl (nameBytes_lt smaller))
  | cons _ ih => exact List.cons_lt_cons_iff.2 (.inr ⟨rfl, ih⟩)

/-! ## Listings -/

theorem pairwise_entries (fs : FileSystem) (place : Route) :
    (fs.entries place).Pairwise fun a b => a.1 ≠ b.1 := by
  refine List.pairwise_filterMap.2 (fs.ordered.imp ?_)
  rintro entry entry' before listed h listed' h' same
  rw [entry_eq_some_iff.1 h, entry_eq_some_iff.1 h', same] at before
  exact List.lt_irrefl _ before

/-- A directory is listed in the order of the names, and has each name once. -/
theorem pairwise_sortedEntries (fs : FileSystem) (place : Route) :
    (fs.sortedEntries place).Pairwise fun a b => a.1 < b.1 := by
  have sorted : (fs.sortedEntries place).Pairwise fun a b => nameBytes a.1 ≤ nameBytes b.1 := by
    refine (List.pairwise_mergeSort (fun a b c h h' => ?_) (fun a b => ?_) _).imp of_decide_eq_true
    · exact decide_eq_true (List.le_trans (of_decide_eq_true h) (of_decide_eq_true h'))
    · simpa using List.le_total (nameBytes a.1) (nameBytes b.1)
  have distinct : (fs.sortedEntries place).Pairwise fun a b => a.1 ≠ b.1 :=
    (List.mergeSort_perm _ _).symm.pairwise (pairwise_entries fs place) Ne.symm
  refine sorted.imp₂ (fun a b ordered differ => ?_) distinct
  exact (lt_or_gt_of_ne differ).resolve_right fun greater => ordered (nameBytes_lt greater)

end MethodCorpus.FileSystem
