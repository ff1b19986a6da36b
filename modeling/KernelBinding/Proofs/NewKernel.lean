import Mathlib.Data.List.Forall2
import KernelBinding.Proofs.Literals

/-!
# KernelBinding.Proofs.NewKernel

A kernel before any of its arguments is set. It owns one sampler for each literal sampler and one
read-only buffer for each inline constant, in the order of the metadata. A slot holds the last literal
that names it, and nothing else is bound.

* `forall₂_allocate`        — what holds of each object made holds literal by literal.
* `holdsLast_placeLiterals` — the slots after the objects were put there one after another.
* `make_initial`            — the whole kernel.
-/

namespace KernelBinding

/-! ## Literals and their objects -/

theorem forall₂_allocate {α β ε : Type} {make : α → Except ε β} {R : α → β → Prop}
    (hmake : ∀ a value, make a = .ok value → R a value) {as : List α} :
    ∀ {fresh : Nat} {objects : List (Object β)}, allocate make fresh as = .ok objects →
      List.Forall₂ (fun a object => R a object.value) as objects := by
  induction as with
  | nil =>
    intro fresh objects h
    cases h
    exact .nil
  | cons a rest ih =>
    intro fresh objects h
    simp only [allocate] at h
    split at h
    · cases h
    · rename_i value hvalue
      split at h
      · cases h
      · rename_i hrest
        cases h
        exact .cons (hmake a value hvalue) (ih hrest)

/-! ## Slots of literals -/

/-- A table of `count` slots in which each slot holds the object of the last literal for it, and
nothing when it is no literal's. -/
structure HoldsLast {α : Type} (table : List (Option (Object α))) (count : Nat)
    (slots : List UInt32) (objects : List (Object α)) : Prop where
  length_eq : table.length = count
  last : ∀ (i : Nat) (slot : UInt32) (object : Object α), slots[i]? = some slot →
    objects[i]? = some object → (∀ j, i < j → slots[j]? ≠ some slot) →
      table[slot.toNat]? = some (some object)
  empty : ∀ place < count, (∀ slot ∈ slots, slot.toNat ≠ place) → table[place]? = some none

theorem holdsLast_placeLiterals {α : Type} {slots : List UInt32} {objects : List (Object α)}
    {count : Nat} (hlength : objects.length = slots.length)
    (hinj : ∀ (i j : Nat) (object : Object α), objects[i]? = some object →
      objects[j]? = some object → i = j)
    (hslots : ∀ slot ∈ slots, slot.toNat < count) :
    HoldsLast (placeLiterals (List.replicate count none) (slots.zip objects)) count slots
      objects := by
  refine ⟨by simp, ?_, ?_⟩
  · intro i slot object hslot hobject hlater
    rw [getElem?_placeLiterals, if_pos (hslots slot (List.mem_of_getElem? hslot)),
      (lastLiteral_eq_some hlength (fun j => hinj i j object hobject) hslot hobject).2 hlater]
  · intro place hplace hnone
    rw [getElem?_placeLiterals, if_pos hplace, lastLiteral]
    have hfind : (slots.zip objects).findRev? (·.1.toNat == place) = none := by
      refine findRev?_eq_none.2 fun j pair hpair heq => ?_
      obtain ⟨hslot, -⟩ := List.getElem?_zip_eq_some.1 hpair
      exact hnone pair.1 (List.mem_of_getElem? hslot) (eq_of_beq heq)
    rw [hfind, Option.map_none]

/-! ## The kernel -/

namespace Kernel

/-- The kernel has the literals of its metadata, and nothing has been set. -/
structure Initial (metadata : Metadata) (kernel : Kernel) : Prop where
  literalSamplers : List.Forall₂ (fun literal object => literal.Describes object.value)
    metadata.literalSamplers kernel.literalSamplers
  inlineConstants : List.Forall₂ (fun literal object => literal.Fills object.value)
    metadata.inlineConstants kernel.inlineConstants
  samplers : HoldsLast kernel.bindings.samplers metadata.samplerCount.toNat
    (metadata.literalSamplers.map (·.slot)) kernel.literalSamplers
  uavs : HoldsLast kernel.bindings.uavs metadata.uavCount.toNat
    (metadata.inlineConstants.map (·.slot)) kernel.inlineConstants
  srvs : kernel.bindings.srvs = List.replicate metadata.srvCount.toNat none
  inputs : kernel.bindings.inputs = List.replicate metadata.inputsSize 0
  configs : List.Forall₂ (fun arg config =>
      (arg.placement.kind = .localMemory → config = .localMemory 0) ∧
      (arg.placement.kind = .sampler → config = .sampler none) ∧
      (arg.placement.kind ≠ .localMemory → arg.placement.kind ≠ .sampler → config = .none))
    metadata.args kernel.bindings.configs

theorem initialConfig_by_kind (placement : Placement) :
    (placement.kind = .localMemory → placement.initialConfig = .localMemory 0) ∧
      (placement.kind = .sampler → placement.initialConfig = .sampler none) ∧
      (placement.kind ≠ .localMemory → placement.kind ≠ .sampler →
        placement.initialConfig = .none) := by
  cases placement <;> simp [Placement.kind, Placement.initialConfig]

variable {program : Nat} {limits : Limits} {metadata : Metadata} {fresh : Nat} {kernel : Kernel}

theorem make_initial (h : make program limits metadata fresh = .ok kernel) :
    kernel.Initial metadata := by
  have hmade := make_ok h
  obtain ⟨hsamplers, hconstants⟩ := Metadata.literalSlots_of_checkPlacements hmade.placements
  have hsrvs : kernel.bindings.srvs = (Bindings.initial metadata).srvs := by rw [hmade.bindings]
  have hinputs : kernel.bindings.inputs = (Bindings.initial metadata).inputs := by
    rw [hmade.bindings]
  have hconfigs : kernel.bindings.configs = (Bindings.initial metadata).configs := by
    rw [hmade.bindings]
  refine ⟨forall₂_allocate (fun _ _ => LiteralSampler.sampler_ok) hmade.samplers,
    forall₂_allocate (fun _ _ => InlineConstant.buffer_ok) hmade.buffers, ?_, ?_, hsrvs, hinputs, ?_⟩
  · rw [hmade.bindings]
    refine holdsLast_placeLiterals ?_ (fun i j object => allocate_inj hmade.samplers) ?_
    · rw [length_allocate hmade.samplers, List.length_map]
    · simpa using hsamplers
  · rw [hmade.bindings]
    refine holdsLast_placeLiterals ?_ (fun i j object => allocate_inj hmade.buffers) ?_
    · rw [length_allocate hmade.buffers, List.length_map]
    · simpa using hconstants
  · rw [hconfigs, Bindings.initial, List.forall₂_map_right_iff]
    exact List.forall₂_same.2 fun arg _ => initialConfig_by_kind arg.placement

/-- A local, a sampler and a scalar argument, and literals of which two share a sampler slot and two
a view. The middle sampler slot is the argument's, and the first view nobody's. -/
def repeatedSlots : Metadata where
  name := "repeatedSlots"
  args := [⟨⟨none, "int*", .localMemory, ⟨0⟩⟩, .localMemory⟩,
    ⟨⟨some "s", samplerTypeName, .privateMemory, ⟨0⟩⟩, .sampler 1⟩,
    ⟨⟨some "n", "int", .privateMemory, ⟨0⟩⟩, .scalar 0 4⟩]
  inputsSize := 4
  uavCount := 2
  srvCount := 1
  samplerCount := 3
  literalSamplers := [⟨0, true, 1, 1⟩, ⟨2, false, 4, 0⟩, ⟨0, false, 0, 0⟩]
  inlineConstants := [⟨1, [1, 2]⟩, ⟨1, [3]⟩]

/-- The later literals hold the shared slots, and the earlier ones are owned all the same. -/
theorem repeatedSlots_initial :
    ∃ kernel, make 0 {} repeatedSlots 5 = .ok kernel ∧ kernel.Initial repeatedSlots ∧
      kernel.bindings.samplers = [some ⟨7, ⟨false, .none, .nearest⟩⟩, none,
        some ⟨6, ⟨false, .mirroredRepeat, .nearest⟩⟩] ∧
      kernel.bindings.uavs.map (·.map (·.id)) = [none, some 9] ∧
      kernel.literalSamplers.map (·.id) = [5, 6, 7] ∧
      kernel.inlineConstants.map (·.value.contents) = [[1, 2], [3]] ∧
      kernel.bindings.configs = [.localMemory 0, .sampler none, .none] := by
  have hmake : ∃ kernel, make 0 {} repeatedSlots 5 = .ok kernel := ⟨_, rfl⟩
  obtain ⟨kernel, h⟩ := hmake
  refine ⟨kernel, h, make_initial h, ?_⟩
  cases h
  decide

end Kernel

end KernelBinding
