/-!
# Key Numbers

The application has five keys, numbered from zero.
-/

namespace Ev2Reader

/-- The number of an application key as it is transmitted; not every byte names a key. -/
abbrev KeyNumber := UInt8

namespace KeyNumber

/-- The number of application keys. -/
def count : UInt8 := 5

/-- Whether the application has a key of this number. -/
def Named (n : KeyNumber) : Prop :=
  n < count

/-- Whether there is a key of a number can be computed. -/
instance (n : KeyNumber) : Decidable n.Named :=
  inferInstanceAs (Decidable (n < count))

/-- There is a key of a number exactly if the number is at most four. -/
theorem named_iff {n : KeyNumber} : n.Named ↔ n ≤ 4 := by
  rw [Named, UInt8.lt_iff_toNat_lt, UInt8.le_iff_toNat_le]
  exact Nat.lt_succ_iff

end KeyNumber

end Ev2Reader
