/-!
**Words on the wire.**

A whole number is sent as a fixed number of bytes, the most significant one first.  A negative number is
sent as its difference from the next power of two.

Main definitions: `Word.capacity`, `Word.value`, `Word.signedValue`, `Word.bytes`, `Word.signedBytes`.

Main results: `Word.length_bytes` — the width; `Word.value_bytes` — what is sent is read back.
-/

set_option autoImplicit false

namespace QueryFeed.Postgres.Word

/-- How many numbers have words of a width. -/
def capacity : Nat → Nat
  | 0 => 1
  | width + 1 => 256 * capacity width

/-- The number that bytes stand for. -/
def value (bytes : List UInt8) : Nat := bytes.foldl (fun n byte => n * 256 + byte.toNat) 0

/-- The number with a sign that bytes stand for. -/
def signedValue (bytes : List UInt8) : Int :=
  let n := value bytes
  if 2 * n < capacity bytes.length then n else (n : Int) - capacity bytes.length

/-- The last bytes of a number, as many as the width says. -/
def bytes : Nat → Nat → List UInt8
  | 0, _ => []
  | width + 1, n => bytes width (n / 256) ++ [UInt8.ofNat (n % 256)]

/-- The bytes of a number with a sign. -/
def signedBytes (width : Nat) (n : Int) : List UInt8 :=
  bytes width (n % capacity width).toNat

/-- The number in a word of exactly the given width. -/
def ofWidth? (width : Nat) (found : List UInt8) : Option Int :=
  if found.length = width then some (signedValue found) else none

@[simp] theorem length_bytes (width n : Nat) : (bytes width n).length = width := by
  induction width generalizing n with
  | zero => rfl
  | succ width ih => simp [bytes, ih]

theorem value_append_singleton (front : List UInt8) (byte : UInt8) :
    value (front ++ [byte]) = value front * 256 + byte.toNat := by
  simp [value]

/-- **What is sent is read back**, up to the width. -/
theorem value_bytes (width n : Nat) : value (bytes width n) = n % capacity width := by
  induction width generalizing n with
  | zero => simp [bytes, value, capacity, Nat.mod_one]
  | succ width ih =>
      have hbyte : (UInt8.ofNat (n % 256)).toNat = n % 256 := by
        simp
      rw [bytes, value_append_singleton, ih, hbyte, capacity, Nat.mod_mul]
      omega

end QueryFeed.Postgres.Word
