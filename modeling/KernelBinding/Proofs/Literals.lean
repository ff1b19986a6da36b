import KernelBinding.Proofs.Acceptance

/-!
# KernelBinding.Proofs.Literals

Which literals keep their slots. The compiler gives each literal a slot, and nothing checks that it
gives the slot to nobody else. A later literal for the same slot takes it at once, and a call for an
argument with that slot puts something else there. Nothing but these two displaces a literal.

* `lastLiteral_eq_some`  — a slot holds the last of the literals that are declared for it.
* `accepts_null`         — an argument with slots can be given no object, which empties them.
* `keepsLiterals`        — what follows for one table of slots, views or samplers.
* `literals_keep_slots`  — the object of a literal is in its slot after every run of calls if and
  only if no later literal and no argument has the slot.
* `shared_slots_displace` — metadata in which slots are shared are accepted nevertheless.
-/

namespace KernelBinding

/-! ## Literals of one slot -/

/-- Objects made together differ. -/
theorem allocate_inj {α β ε : Type} {make : α → Except ε β} {fresh : Nat} {as : List α}
    {objects : List (Object β)} (h : allocate make fresh as = .ok objects) {i j : Nat}
    {object : Object β} (hi : objects[i]? = some object) (hj : objects[j]? = some object) :
    i = j := by
  have hfirst := (getElem?_allocate h hi).1
  have hsecond := (getElem?_allocate h hj).1
  omega

/-- A slot holds the object of literal `i` just when no later literal is declared for the slot. -/
theorem lastLiteral_eq_some {α : Type} {slots : List UInt32} {objects : List (Object α)} {i : Nat}
    {slot : UInt32} {object : Object α} (hlength : objects.length = slots.length)
    (hinj : ∀ j, objects[j]? = some object → i = j) (hslot : slots[i]? = some slot)
    (hobject : objects[i]? = some object) :
    lastLiteral slots objects slot.toNat = some object ↔ ∀ j, i < j → slots[j]? ≠ some slot := by
  unfold lastLiteral
  rw [Option.map_eq_some_iff]
  constructor
  · rintro ⟨⟨_, _⟩, hlast, rfl⟩ j hj hother
    obtain ⟨k, hk, -, hlater⟩ := findRev?_eq_some.1 hlast
    obtain rfl := hinj k (List.getElem?_zip_eq_some.1 hk).2
    -- The later literal has an object too, so it would be the one found.
    obtain ⟨hlt, -⟩ := List.getElem?_eq_some_iff.1 hother
    have hpair : (slots.zip objects)[j]? = some (slot, objects[j]) :=
      List.getElem?_zip_eq_some.2 ⟨hother, List.getElem?_eq_getElem (hlength ▸ hlt)⟩
    exact hlater j _ hj hpair (beq_self_eq_true _)
  · intro hnone
    refine ⟨(slot, object), findRev?_eq_some.2 ⟨i, ?_, beq_self_eq_true _, ?_⟩, rfl⟩
    · exact List.getElem?_zip_eq_some.2 ⟨hslot, hobject⟩
    · intro j pair hj hpair heq
      obtain ⟨hother, -⟩ := List.getElem?_zip_eq_some.1 hpair
      rw [UInt32.toNat_inj.1 (eq_of_beq heq)] at hother
      exact hnone j hj hother

/-! ## Calls without an object -/

/-- The call that gives an argument no object. -/
def Call.null (index : UInt32) : Call :=
  ⟨index, handleSize, none⟩

/-- An argument with a slot in some table can be given no object. -/
theorem Metadata.accepts_null {metadata : Metadata} (h : metadata.WellPlaced) {index : UInt32}
    {arg : Argument} {slot : UInt32} (hget : metadata.args[index.toNat]? = some arg)
    (hslot : slot ∈ arg.uavSlots ∨ slot ∈ arg.samplerSlots) :
    metadata.accepts (.null index) := by
  have hkind := h.kind arg (List.mem_of_getElem? hget)
  have haccept : ∃ payload, arg.accept handleSize none = .ok payload := by
    unfold Argument.accept
    cases hp : arg.placement with
    | image slots offset =>
      rw [hp] at hkind
      obtain ⟨kind, himage⟩ := Option.isSome_iff_exists.1 (Signature.kind_eq_image.1 hkind.symm)
      simp [Argument.acceptImage, memoryOperand, himage]
    | memory slot offset => exact ⟨_, rfl⟩
    | sampler slot => exact ⟨_, rfl⟩
    | localMemory => simp [Argument.uavSlots, Argument.samplerSlots, hp] at hslot
    | scalar offset size => simp [Argument.uavSlots, Argument.samplerSlots, hp] at hslot
  obtain ⟨payload, hpayload⟩ := haccept
  simp only [accepts, accept, Call.null, hget, hpayload]
  rfl

theorem Metadata.concerns_iff {metadata : Metadata} {argSlots : Argument → List UInt32}
    {slot : UInt32} {call : Call} :
    metadata.concerns (fun arg => (argSlots arg).any (·.toNat == slot.toNat)) call ↔
      ∃ arg, metadata.args[call.index.toNat]? = some arg ∧ slot ∈ argSlots arg := by
  unfold concerns
  rw [Option.any_eq_true]
  refine exists_congr fun arg => and_congr_right fun _ => ⟨mem_of_any_toNat, fun h => ?_⟩
  exact any_toNat_iff.2 ⟨slot, h, rfl⟩

/-! ## One table of slots -/

/-- Neither a later literal nor an argument that a call can name has the slot of literal `i`. -/
structure Metadata.Unshared (metadata : Metadata) (argSlots : Argument → List UInt32)
    (slots : List UInt32) (i : Nat) (slot : UInt32) : Prop where
  literals : ∀ j, i < j → slots[j]? ≠ some slot
  args : ∀ (index : UInt32) (arg : Argument), metadata.args[index.toNat]? = some arg →
    slot ∉ argSlots arg

namespace Kernel

section

variable {α : Type} (kernel : Kernel) (table : Bindings → List (Option (Object α)))
  (argSlots : Argument → List UInt32) (slots : List UInt32) (objects : List (Object α))

/-- When the objects of literals keep the slots they are declared for in a table. -/
structure KeepsLiterals : Prop where
  length_eq : objects.length = slots.length
  /-- Without a later literal, only an accepted call for an argument with the slot displaces it. -/
  kept : ∀ (i : Nat) (slot : UInt32) (object : Object α) (calls : List Call),
    slots[i]? = some slot → objects[i]? = some object → (∀ j, i < j → slots[j]? ≠ some slot) →
      (∀ call ∈ kernel.accepted calls, ∀ arg,
        kernel.metadata.args[call.index.toNat]? = some arg → slot ∉ argSlots arg) →
          (table (kernel.assignAll calls).bindings)[slot.toNat]? = some (some object)
  always_iff : ∀ (i : Nat) (slot : UInt32) (object : Object α),
    slots[i]? = some slot → objects[i]? = some object →
      ((∀ calls, (table (kernel.assignAll calls).bindings)[slot.toNat]? = some (some object)) ↔
        kernel.metadata.Unshared argSlots slots i slot)

variable {kernel table argSlots slots objects}

/-- For any table in which a slot holds what the last accepted call for it gave, or else its last
literal, and which a call without an object empties. -/
theorem keepsLiterals (given : Call → Option (Object α))
    (hlength : objects.length = slots.length)
    (hinj : ∀ (i j : Nat) (object : Object α), objects[i]? = some object →
      objects[j]? = some object → i = j)
    (hfinal : ∀ calls, ∀ slot ∈ slots, (table (kernel.assignAll calls).bindings)[slot.toNat]? =
      some ((((kernel.accepted calls).findRev? (kernel.metadata.concerns fun arg =>
        (argSlots arg).any (·.toNat == slot.toNat))).map given).getD
          (lastLiteral slots objects slot.toNat)))
    (hnull : ∀ (index slot : UInt32) (arg : Argument),
      kernel.metadata.args[index.toNat]? = some arg → slot ∈ argSlots arg →
        kernel.metadata.accepts (.null index) ∧ given (.null index) = none) :
    kernel.KeepsLiterals table argSlots slots objects := by
  have hkept : ∀ (i : Nat) (slot : UInt32) (object : Object α) (calls : List Call),
      slots[i]? = some slot → objects[i]? = some object → (∀ j, i < j → slots[j]? ≠ some slot) →
        (∀ call ∈ kernel.accepted calls, ∀ arg,
          kernel.metadata.args[call.index.toNat]? = some arg → slot ∉ argSlots arg) →
            (table (kernel.assignAll calls).bindings)[slot.toNat]? = some (some object) := by
    intro i slot object calls hslot hobject hlast hcalls
    have hnone : (kernel.accepted calls).findRev? (kernel.metadata.concerns fun arg =>
        (argSlots arg).any (·.toNat == slot.toNat)) = none := by
      refine findRev?_eq_none.2 fun j call hcall hconcerns => ?_
      obtain ⟨arg, hget, htakes⟩ := Metadata.concerns_iff.1 hconcerns
      exact hcalls call (List.mem_of_getElem? hcall) arg hget htakes
    rw [hfinal calls slot (List.mem_of_getElem? hslot), hnone, Option.map_none, Option.getD_none,
      (lastLiteral_eq_some hlength (fun j => hinj i j object hobject) hslot hobject).2 hlast]
  refine ⟨hlength, hkept, fun i slot object hslot hobject => ⟨fun halways => ⟨?_, ?_⟩, ?_⟩⟩
  · -- Before any call the slot holds its last literal.
    have hfresh := halways []
    rw [hfinal [] slot (List.mem_of_getElem? hslot)] at hfresh
    exact (lastLiteral_eq_some hlength (fun j => hinj i j object hobject) hslot hobject).1
      (Option.some.inj hfresh)
  · intro index arg hget htakes
    obtain ⟨hacc, hgiven⟩ := hnull index slot arg hget htakes
    have hcleared := halways [.null index]
    have hconcerns : kernel.metadata.concerns
        (fun arg => (argSlots arg).any (·.toNat == slot.toNat)) (.null index) :=
      Metadata.concerns_iff.2 ⟨arg, hget, htakes⟩
    rw [hfinal _ slot (List.mem_of_getElem? hslot), accepted_eq] at hcleared
    simp [hacc, hconcerns, hgiven] at hcleared
  · intro hunshared calls
    exact hkept i slot object calls hslot hobject hunshared.literals fun call _ arg =>
      hunshared.args call.index arg

end

variable {program : Nat} {limits : Limits} {metadata : Metadata} {fresh : Nat} {kernel : Kernel}

/-- In the sampler table and in the table of writable views the object of a literal stays in its
slot as long as no accepted call is for an argument with that slot, provided that no later literal
has the slot. It is there after every run of calls if and only if no later literal has the slot and
no argument that a call can name. -/
theorem literals_keep_slots (h : make program limits metadata fresh = .ok kernel) :
    kernel.KeepsLiterals Bindings.samplers Argument.samplerSlots
        (metadata.literalSamplers.map (·.slot)) kernel.literalSamplers ∧
      kernel.KeepsLiterals Bindings.uavs Argument.uavSlots
        (metadata.inlineConstants.map (·.slot)) kernel.inlineConstants := by
  have hmade := make_ok h
  obtain ⟨hsamplers, hconstants⟩ := Metadata.literalSlots_of_checkPlacements hmade.placements
  constructor
  · refine keepsLiterals Call.sampler? ?_ (fun i j object => allocate_inj hmade.samplers) ?_ ?_
    · rw [length_allocate hmade.samplers, List.length_map]
    · intro calls slot hslot
      obtain ⟨literal, hliteral, rfl⟩ := List.mem_map.1 hslot
      rw [assignAll_eq, Metadata.getElem?_samplers_foldl, hmade.bindings]
      simp only [Bindings.initial, getElem?_placeLiterals, if_pos (hsamplers literal hliteral)]
      rfl
    · intro index slot arg hget hslot
      rw [hmade.metadata_eq] at hget ⊢
      exact ⟨Metadata.accepts_null hmade.wellPlaced hget (.inr hslot), rfl⟩
  · refine keepsLiterals Call.object? ?_ (fun i j object => allocate_inj hmade.buffers) ?_ ?_
    · rw [length_allocate hmade.buffers, List.length_map]
    · intro calls slot hslot
      obtain ⟨literal, hliteral, rfl⟩ := List.mem_map.1 hslot
      rw [assignAll_eq, Metadata.getElem?_uavs_foldl, hmade.bindings]
      simp only [Bindings.initial, getElem?_placeLiterals, if_pos (hconstants literal hliteral)]
      rfl
    · intro index slot arg hget hslot
      rw [hmade.metadata_eq] at hget ⊢
      exact ⟨Metadata.accepts_null hmade.wellPlaced hget (.inl hslot), rfl⟩

/-- A sampler literal and a sampler argument in one slot, a constant and a buffer in another, and a
literal that has its slot for itself. -/
def sharedSlots : Metadata where
  name := "sharedSlots"
  args := [⟨⟨some "s", samplerTypeName, .privateMemory, ⟨0⟩⟩, .sampler 0⟩,
    ⟨⟨some "b", "float*", .globalMemory, ⟨0⟩⟩, .memory 0 0⟩]
  inputsSize := 8
  uavCount := 1
  samplerCount := 2
  literalSamplers := [⟨0, true, 1, 1⟩, ⟨1, false, 2, 0⟩]
  inlineConstants := [⟨0, [1, 2]⟩]

/-- The arguments are given no object, and both literals that share a slot with one are gone from
it. The third literal stays. -/
theorem sharedSlots_keep :
    ∃ kernel, make 0 {} sharedSlots 0 = .ok kernel ∧
      kernel.KeepsLiterals Bindings.samplers Argument.samplerSlots
        (sharedSlots.literalSamplers.map (·.slot)) kernel.literalSamplers ∧
      kernel.KeepsLiterals Bindings.uavs Argument.uavSlots
        (sharedSlots.inlineConstants.map (·.slot)) kernel.inlineConstants ∧
      (kernel.assignAll [.null 0, .null 1]).bindings.samplers =
        [none, some ⟨1, ⟨false, .clamp, .nearest⟩⟩] ∧
      (kernel.assignAll [.null 0, .null 1]).bindings.uavs = [none] := by
  have hmake : ∃ kernel, make 0 {} sharedSlots 0 = .ok kernel := ⟨_, rfl⟩
  obtain ⟨kernel, h⟩ := hmake
  obtain ⟨hsamplers, hconstants⟩ := literals_keep_slots h
  refine ⟨kernel, h, hsamplers, hconstants, ?_, ?_⟩
  · cases h
    rfl
  · cases h
    rfl

/-- Not every literal keeps its slot: nothing refuses metadata in which it shares the slot. -/
theorem shared_slots_displace : ¬ ∀ (program : Nat) (limits : Limits) (metadata : Metadata)
    (fresh : Nat) (kernel : Kernel), make program limits metadata fresh = .ok kernel →
      ∀ calls : List Call,
        (∀ (i : Nat) (literal : LiteralSampler) (sampler : Object Sampler),
          metadata.literalSamplers[i]? = some literal → kernel.literalSamplers[i]? = some sampler →
            (kernel.assignAll calls).bindings.samplers[literal.slot.toNat]? =
              some (some sampler)) ∧
        ∀ (i : Nat) (literal : InlineConstant) (buffer : Object MemoryObject),
          metadata.inlineConstants[i]? = some literal → kernel.inlineConstants[i]? = some buffer →
            (kernel.assignAll calls).bindings.uavs[literal.slot.toNat]? = some (some buffer) := by
  intro h
  have hmake : ∃ kernel, make 0 {} sharedSlots 0 = .ok kernel := ⟨_, rfl⟩
  obtain ⟨kernel, hkernel⟩ := hmake
  have hslots := (h 0 {} sharedSlots 0 kernel hkernel [.null 0]).1 0
  cases hkernel
  cases hslots _ _ rfl rfl

end Kernel

end KernelBinding
