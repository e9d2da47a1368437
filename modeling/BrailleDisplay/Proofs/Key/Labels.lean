import BrailleDisplay.Key.Table
import Mathlib

/-!
# What the keys in a set are called

A key is called by the name its table has for it, and by `Key` and its number when there is none.

* `KeyTable.Called`, `KeyTable.called_iff` — what a key is called, and that it is called that only;
* `KeyTable.Called.number_inj` — no two keys are called the same: names are given once, and none
  begins like the text made for a key without one;
* `KeyTable.labels_tell` — what the names of the keys in a set say of the set.
-/

namespace BrailleDisplay.KeyTable

variable {table : KeyTable} {bits other : UInt32} {n m : Nat} {text : String}

/-- What a key is called under a table. -/
inductive Called (table : KeyTable) : Nat → String → Prop where
  | named {key : NavigationKey} (listed : key ∈ table.namedKeys) : Called table key.number key.name
  | unnamed {n : Nat} (unlisted : ∀ key ∈ table.namedKeys, key.number ≠ n) :
      Called table n ("Key" ++ toString n)

/-- A key is called as the table says. -/
theorem called_label (table : KeyTable) (n : Nat) : Called table n (table.label n) := by
  unfold label nameOf?
  cases found : table.namedKeys.find? (·.number == n) with
  | none =>
    refine .unnamed fun key listed => ?_
    simpa using List.find?_eq_none.mp found key listed
  | some key =>
    have number : key.number = n := by simpa using List.find?_some found
    subst number
    exact .named (List.mem_of_find?_eq_some found)

/-- A table lists no key twice. -/
theorem numbers_distinct (table : KeyTable) :
    (table.namedKeys.map NavigationKey.number).Nodup := by
  cases table with
  | note => decide
  | mokey => decide

/-- A key is called one thing. -/
theorem Called.text_inj {other : String} (first : Called table n text)
    (second : Called table n other) : text = other := by
  cases first with
  | named listed =>
    generalize own : NavigationKey.number _ = n at second
    cases second with
    | named listed' =>
      have one := List.inj_on_of_nodup_map (numbers_distinct table) listed listed' own
      exact congrArg NavigationKey.name one
    | unnamed unlisted => exact absurd own (unlisted _ listed)
  | unnamed unlisted =>
    cases second with
    | named listed => exact absurd rfl (unlisted _ listed)
    | unnamed _ => rfl

theorem called_iff : Called table n text ↔ table.label n = text :=
  ⟨(table.called_label n).text_inj, fun same => same ▸ table.called_label n⟩

/-! ### No two keys are called the same -/

/-- A table gives no name to two keys. -/
theorem names_distinct (table : KeyTable) :
    (table.namedKeys.map NavigationKey.name).Nodup := by
  cases table with
  | note => decide
  | mokey => decide

/-- No name begins as the text made for a key without one. -/
theorem name_ne_made (table : KeyTable) {key : NavigationKey} (listed : key ∈ table.namedKeys)
    (n : Nat) : key.name ≠ "Key" ++ toString n := by
  have initials : ∀ key ∈ table.namedKeys, key.name.toList.head? ≠ some 'K' := by
    cases table with
    | note => decide
    | mokey => decide
  intro same
  apply initials key listed
  rw [same, String.toList_append]
  rfl

/-- **No two keys are called the same.** -/
theorem Called.number_inj (first : Called table n text) (second : Called table m text) : n = m := by
  cases first with
  | named listed =>
    generalize given : NavigationKey.name _ = text at second
    cases second with
    | named listed' =>
      have one := List.inj_on_of_nodup_map (names_distinct table) listed listed' given
      exact congrArg NavigationKey.number one
    | unnamed unlisted => exact absurd given (name_ne_made table listed m)
  | unnamed unlisted =>
    generalize made : "Key" ++ toString n = text at second
    cases second with
    | named listed => exact absurd made.symm (name_ne_made table listed n)
    | unnamed unlisted' => exact Nat.repr_injective ((String.append_right_inj "Key").mp made)

theorem label_injective (table : KeyTable) : Function.Injective table.label := by
  intro n m same
  exact (table.called_label n).number_inj (called_iff.mpr same.symm)

/-! ### The keys in a set -/

theorem mem_keyNumbers_iff : n ∈ keyNumbers bits ↔ bits.toNat.testBit n = true := by
  rw [keyNumbers, List.mem_filter, List.mem_range]
  refine and_iff_right_of_imp fun held => ?_
  exact (Nat.pow_lt_pow_iff_right (by decide)).mp
    (lt_of_le_of_lt (Nat.ge_two_pow_of_testBit held) bits.toNat_lt)

theorem keyNumbers_ascend (bits : UInt32) : (keyNumbers bits).Pairwise (· < ·) :=
  List.pairwise_lt_range.sublist List.filter_sublist

/-- The numbers of the keys in a set tell the set. -/
theorem keyNumbers_injective : Function.Injective keyNumbers := by
  intro bits other same
  apply UInt32.toNat_inj.mp
  apply Nat.eq_of_testBit_eq
  intro n
  rw [Bool.eq_iff_iff, ← mem_keyNumbers_iff, ← mem_keyNumbers_iff, same]

/-- What the names of the keys in a set say of the set. -/
structure Telling (table : KeyTable) (bits : UInt32) : Prop where
  /-- They are what the keys in the set are called, one for each in the order of their numbers. -/
  entries : ∃ numbers : List Nat, numbers.Pairwise (· < ·)
    ∧ (∀ n, n ∈ numbers ↔ bits.toNat.testBit n = true)
    ∧ ∀ texts, List.Forall₂ (Called table) numbers texts ↔ table.labels bits = texts
  /-- No two are equal. -/
  distinct : (table.labels bits).Nodup
  /-- No other set of keys has the same names. -/
  recovers : ∀ other, table.labels other = table.labels bits → other = bits

/-- **The names of the keys in a set tell the set**: under every table there is one for each key,
in ascending order, all different, and different sets have different names. -/
theorem labels_tell (table : KeyTable) (bits : UInt32) : Telling table bits where
  entries := by
    refine ⟨keyNumbers bits, keyNumbers_ascend bits, fun _ => mem_keyNumbers_iff, fun texts => ?_⟩
    have called : Called table = fun n text => table.label n = text := by
      funext n text
      exact propext called_iff
    rw [called, ← List.forall₂_map_left_iff, List.forall₂_eq_eq_eq, labels]
  distinct := (keyNumbers_ascend bits).nodup.map table.label_injective
  recovers _ same := keyNumbers_injective (List.map_injective_iff.mpr table.label_injective same)

example : labels .mokey 0x100101 = ["Dot1", "Space", "Key20"] := by decide +kernel

end BrailleDisplay.KeyTable
