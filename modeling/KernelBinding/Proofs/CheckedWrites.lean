import KernelBinding.Kernel.Bindings

/-!
# KernelBinding.Proofs.CheckedWrites

Writes to tables that fail where a table has no such place. The tables of a kernel are written as a
whole and drop what falls outside (`put`, `overwrite`), which would hide a place that does not
exist. Here the slots are written one after the other and the bytes in one stretch, and nothing is
written at all if a place is missing (`Bindings.write?`).

* `put?_eq_some`, `overwrite?_eq_some` — when all places exist, nothing is dropped either.
* `Room.write?_eq_some` — so for all that is written when an argument is given something.
-/

namespace KernelBinding

section

variable {α : Type}

/-- Writes `value` to place `i`, which has to exist. -/
def set? (table : List α) (i : Nat) (value : α) : Option (List α) :=
  if i < table.length then some (table.set i value) else none

/-- Writes `value` to one slot after the other; all of them have to exist. -/
def put? (table : List α) (value : α) : List UInt32 → Option (List α)
  | [] => some table
  | id :: rest => (set? table id.toNat value).bind (put? · value rest)

/-- Writes `new` to the bytes from `start` on; the buffer has to have room for all of it. -/
def overwrite? (buffer : List UInt8) (start : Nat) (new : List UInt8) : Option (List UInt8) :=
  if start + new.length ≤ buffer.length then
    some (buffer.take start ++ new ++ buffer.drop (start + new.length))
  else none

theorem set?_eq_some {table : List α} {i : Nat} (h : i < table.length) (value : α) :
    set? table i value = some (table.set i value) :=
  if_pos h

/-- A slot that is listed again later is written then, too. -/
theorem put_set {table : List α} (id : UInt32) (rest : List UInt32) (value : α) :
    put (table.set id.toNat value) rest value = put table (id :: rest) value := by
  apply List.ext_getElem?
  intro i
  rw [getElem?_put, getElem?_put, List.getElem?_set, List.any_cons]
  by_cases hi : id.toNat = i
  · subst hi
    by_cases hlt : id.toNat < table.length
    · simp [hlt]
    · simp [hlt]
  · simp [hi]

theorem put?_eq_some {ids : List UInt32} (value : α) : ∀ {table : List α},
    (∀ id ∈ ids, id.toNat < table.length) → put? table value ids = some (put table ids value) := by
  induction ids with
  | nil =>
    intro table _
    rw [put?, put_nil]
  | cons id rest ih =>
    intro table h
    obtain ⟨hfirst, hrest⟩ := List.forall_mem_cons.1 h
    rw [put?, set?_eq_some hfirst, Option.bind_some, ih, put_set]
    intro other hother
    rw [List.length_set]
    exact hrest other hother

theorem overwrite?_eq_some {buffer new : List UInt8} {start : Nat}
    (h : start + new.length ≤ buffer.length) :
    overwrite? buffer start new = some (overwrite buffer start new) := by
  rw [overwrite?, if_pos h]
  congr 1
  apply List.ext_getElem?
  intro i
  have hstart : (buffer.take start).length = start := List.length_take_of_le (by omega)
  rw [getElem?_overwrite, List.append_assoc]
  -- Place `i` is before the new bytes, among them or behind them.
  by_cases hbefore : i < start
  · rw [List.getElem?_append_left (by omega), List.getElem?_take_of_lt hbefore]
    simp [Nat.not_le.2 hbefore]
  · rw [List.getElem?_append_right (by omega), hstart]
    by_cases hinside : i - start < new.length
    · rw [List.getElem?_append_left hinside, List.getElem?_eq_getElem hinside,
        List.getElem?_eq_getElem (show i < buffer.length by omega)]
      simp [Nat.le_of_not_lt hbefore]
    · have hnone : new[i - start]? = none := List.getElem?_eq_none (by omega)
      have hplace : start + new.length + (i - start - new.length) = i := by omega
      rw [List.getElem?_append_right (by omega), List.getElem?_drop, hplace, hnone]
      simp

end

namespace Bindings

/-- All places exist that giving `payload` to argument number `index` writes to. -/
structure Room (bindings : Bindings) (index : Nat) (arg : Argument) (payload : Payload) : Prop where
  uavs : ∀ slot ∈ arg.uavSlots, slot.toNat < bindings.uavs.length
  srvs : ∀ slot ∈ arg.srvSlots, slot.toNat < bindings.srvs.length
  samplers : ∀ slot ∈ arg.samplerSlots, slot.toNat < bindings.samplers.length
  inputs : arg.placement.start + payload.bytes.length ≤ bindings.inputs.length
  configs : index < bindings.configs.length

/-- Gives `payload` to argument number `index`, unless it would be written to a place that does not
exist. -/
def write? (bindings : Bindings) (index : Nat) (arg : Argument) (payload : Payload) :
    Option Bindings := do
  let uavs ← put? bindings.uavs payload.object arg.uavSlots
  let srvs ← put? bindings.srvs payload.object arg.srvSlots
  let samplers ← put? bindings.samplers payload.sampler arg.samplerSlots
  let inputs ← overwrite? bindings.inputs arg.placement.start payload.bytes
  let configs ← payload.config.elim (some bindings.configs) (set? bindings.configs index)
  return { uavs, srvs, samplers, inputs, configs }

variable {bindings : Bindings} {index : Nat} {arg : Argument} {payload : Payload}

/-- Where all places exist, nothing that an argument is given gets lost. -/
theorem Room.write?_eq_some (h : bindings.Room index arg payload) :
    bindings.write? index arg payload = some (bindings.apply index arg payload) := by
  have hconfigs : payload.config.elim (some bindings.configs) (set? bindings.configs index) =
      some (bindings.apply index arg payload).configs := by
    unfold apply
    cases payload.config with
    | none => rfl
    | some config => exact set?_eq_some h.configs config
  rw [write?, put?_eq_some payload.object h.uavs, put?_eq_some payload.object h.srvs,
    put?_eq_some payload.sampler h.samplers, overwrite?_eq_some h.inputs, hconfigs]
  rfl

end Bindings

end KernelBinding
