/-!
# KernelBinding.SlotTable

Tables indexed by the slot ids the compiler hands out. Several slots may take one value at a time:
an image with several planes occupies one slot per plane.

* `getElem?_put` — a listed slot holds the new value, every other slot what it held.
-/

namespace KernelBinding

/-- Writes `value` to every slot of `ids`; ids behind the end of the table name no slot. -/
def put {α : Type} (table : List α) (ids : List UInt32) (value : α) : List α :=
  table.mapIdx fun i old => if ids.any (·.toNat == i) then value else old

theorem any_toNat_iff {ids : List UInt32} {i : Nat} :
    ids.any (·.toNat == i) ↔ ∃ id ∈ ids, id.toNat = i := by
  simp

theorem mem_of_any_toNat {ids : List UInt32} {slot : UInt32}
    (h : ids.any (·.toNat == slot.toNat)) : slot ∈ ids := by
  obtain ⟨id, hid, heq⟩ := any_toNat_iff.1 h
  exact UInt32.toNat_inj.1 heq ▸ hid

@[simp] theorem length_put {α : Type} (table : List α) (ids : List UInt32) (value : α) :
    (put table ids value).length = table.length := by
  simp [put]

theorem getElem?_put {α : Type} (table : List α) (ids : List UInt32) (value : α) (i : Nat) :
    (put table ids value)[i]? =
      table[i]?.map fun old => if ids.any (·.toNat == i) then value else old := by
  simp [put]

@[simp] theorem put_nil {α : Type} (table : List α) (value : α) : put table [] value = table := by
  apply List.ext_getElem?
  simp [getElem?_put]

end KernelBinding
