/-!
# KernelBinding.Bytes

Byte strings: the little-endian form of a number, and overwriting a stretch of a buffer.

* `littleEndian_ofLittleEndian` — every byte string is the little-endian form of its number.
* `ofLittleEndian_littleEndian` — read back, a number is what its bytes have room for.
* `littleEndian_eq_iff`         — a byte string is the form of no other number it has room for.
* `getElem?_overwrite`          — inside the stretch the new byte, outside it the old one.
-/

namespace KernelBinding

/-- The `count` low bytes of `value`, the least significant first. -/
def littleEndian : (count value : Nat) → List UInt8
  | 0, _ => []
  | count + 1, value => .ofNat value :: littleEndian count (value / 256)

/-- The number a little-endian byte string stands for. -/
def ofLittleEndian : List UInt8 → Nat
  | [] => 0
  | b :: bs => b.toNat + 256 * ofLittleEndian bs

/-- Replaces the bytes from `start` on by `new`; what would fall behind the end is dropped. -/
def overwrite (buffer : List UInt8) (start : Nat) (new : List UInt8) : List UInt8 :=
  buffer.mapIdx fun i b => if start ≤ i then new[i - start]?.getD b else b

@[simp] theorem length_littleEndian (count value : Nat) :
    (littleEndian count value).length = count := by
  induction count generalizing value with
  | zero => rfl
  | succ count ih => simp [littleEndian, ih]

theorem ofLittleEndian_littleEndian (count value : Nat) :
    ofLittleEndian (littleEndian count value) = value % 1 <<< (8 * count) := by
  induction count generalizing value with
  | zero => simp [littleEndian, ofLittleEndian, Nat.mod_one]
  | succ count ih =>
    have hroom : 1 <<< (8 * (count + 1)) = 256 * 1 <<< (8 * count) := by
      rw [Nat.one_shiftLeft, Nat.one_shiftLeft, Nat.mul_succ, Nat.pow_add, Nat.mul_comm]
    rw [hroom, Nat.mod_mul, littleEndian, ofLittleEndian, ih, UInt8.toNat_ofNat']

theorem littleEndian_ofLittleEndian (bytes : List UInt8) :
    littleEndian bytes.length (ofLittleEndian bytes) = bytes := by
  induction bytes with
  | nil => rfl
  | cons b bs ih =>
    have hb := b.toNat_lt
    have h₁ : (b.toNat + 256 * ofLittleEndian bs) / 256 = ofLittleEndian bs := by omega
    have h₂ : UInt8.ofNat (b.toNat + 256 * ofLittleEndian bs) = b := by
      rw [← UInt8.toNat_inj, UInt8.toNat_ofNat']
      omega
    simp [littleEndian, ofLittleEndian, h₁, h₂, ih]

theorem littleEndian_eq_iff {bytes : List UInt8} {value : Nat}
    (hvalue : value < 1 <<< (8 * bytes.length)) :
    littleEndian bytes.length value = bytes ↔ value = ofLittleEndian bytes := by
  constructor
  · intro h
    have hread := ofLittleEndian_littleEndian bytes.length value
    rw [h, Nat.mod_eq_of_lt hvalue] at hread
    exact hread.symm
  · rintro rfl
    exact littleEndian_ofLittleEndian bytes

@[simp] theorem length_overwrite (buffer : List UInt8) (start : Nat) (new : List UInt8) :
    (overwrite buffer start new).length = buffer.length := by
  simp [overwrite]

theorem getElem?_overwrite (buffer : List UInt8) (start : Nat) (new : List UInt8) (i : Nat) :
    (overwrite buffer start new)[i]? =
      buffer[i]?.map fun b => if start ≤ i then new[i - start]?.getD b else b := by
  simp [overwrite]

end KernelBinding
