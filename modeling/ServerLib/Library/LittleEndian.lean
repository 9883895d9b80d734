import Mathlib.Algebra.Group.Nat.Defs
import Mathlib.Tactic.Common

/-!
# Little-endian words

The object representation of an unsigned word on a little-endian machine: the
`count` bytes of `value`, lowest first, and the word read back from them.  The
width is a parameter, so one pair of lemmas serves every word size.

`readLE_bytesLE_append` is the round trip.  It is stated with bytes behind the
word, since a word is always read out of the middle of something.
-/

namespace ServerLib.LittleEndian

/-- The `count` lowest bytes of a word, lowest first. -/
def bytesLE : (count value : ℕ) → List UInt8
  | 0, _ => []
  | count + 1, value => UInt8.ofNat value :: bytesLE count (value / 256)

/-- The word in the first `count` bytes; a byte that is not there reads as zero. -/
def readLE : (count : ℕ) → List UInt8 → ℕ
  | 0, _ => 0
  | _ + 1, [] => 0
  | count + 1, byte :: rest => byte.toNat + 256 * readLE count rest

@[simp] theorem length_bytesLE (count value : ℕ) : (bytesLE count value).length = count := by
  induction count generalizing value with
  | zero => rfl
  | succ count ih => rw [bytesLE, List.length_cons, ih]

/-- **A word is read back up to its width**, whatever follows it. -/
theorem readLE_bytesLE_append (count value : ℕ) (more : List UInt8) :
    readLE count (bytesLE count value ++ more) = value % 256 ^ count := by
  induction count generalizing value with
  | zero => rw [readLE, Nat.pow_zero, Nat.mod_one]
  | succ count ih =>
      rw [bytesLE, List.cons_append, readLE, ih, UInt8.toNat_ofNat', Nat.pow_succ (n := 256),
        Nat.mul_comm (256 ^ count) 256, Nat.mod_mul]

/-- A word that fits its width is read back as it is. -/
theorem readLE_bytesLE_append_of_lt {count value : ℕ} (fits : value < 256 ^ count)
    (more : List UInt8) : readLE count (bytesLE count value ++ more) = value := by
  rw [readLE_bytesLE_append, Nat.mod_eq_of_lt fits]

end ServerLib.LittleEndian
