import KernelBinding.Proofs.Construction

/-!
# KernelBinding.Proofs.LastCall

A reference for the bindings of a kernel that looks at each place by itself. A slot, a byte or a
configuration is what the last accepted call that reaches it made it; a slot that no accepted call
reaches holds the last literal declared for it. Arguments and literals may share slots and bytes:
the order of the calls alone decides between them.

* `foldl_perform_eq_reference` — table by table, from the lemmas of `Runs`.
* `assignAll_eq_reference`     — any run of calls on a new kernel ends in the reference.
-/

namespace KernelBinding

/-- A table that held `init` in all its places, after calls of which the last one decides. -/
theorem eq_map_range {α : Type} {table : List α} {count : Nat} {init : Nat → α}
    {last : Nat → Option Call} {value : Call → Nat → α}
    (h : ∀ i, table[i]? = (if i < count then some (init i) else none).map fun old =>
      ((last i).map (value · i)).getD old) :
    table = (List.range count).map fun i =>
      match last i with
      | some call => value call i
      | none => init i := by
  apply List.ext_getElem?
  intro i
  rw [h]
  by_cases hi : i < count
  · rw [if_pos hi, List.getElem?_map, List.getElem?_range hi]
    simp only [Option.map_some]
    cases last i <;> rfl
  · rw [if_neg hi, List.getElem?_eq_none (by simpa using hi), Option.map_none]

namespace Metadata

/-- The bindings that the literals and then `calls` leave, place by place. -/
def reference (metadata : Metadata) (samplers : List (Object Sampler))
    (constants : List (Object MemoryObject)) (calls : List Call) : Bindings where
  uavs := (List.range metadata.uavCount.toNat).map fun i =>
    match calls.findRev? (metadata.concerns (·.takesUav i)) with
    | some call => call.object?
    | none => lastLiteral (metadata.inlineConstants.map (·.slot)) constants i
  srvs := (List.range metadata.srvCount.toNat).map fun i =>
    match calls.findRev? (metadata.concerns (·.takesSrv i)) with
    | some call => call.object?
    | none => none
  samplers := (List.range metadata.samplerCount.toNat).map fun i =>
    match calls.findRev? (metadata.concerns (·.takesSampler i)) with
    | some call => call.sampler?
    | none => lastLiteral (metadata.literalSamplers.map (·.slot)) samplers i
  inputs := (List.range metadata.inputsSize).map fun i =>
    match calls.findRev? (metadata.concerns (·.takesByte i)) with
    | some call => metadata.byte call i
    | none => 0
  configs := metadata.args.mapIdx fun i arg =>
    match calls.findRev? (·.index.toNat == i) with
    | some call => arg.configured call
    | none => arg.placement.initialConfig

/-- An argument that calls do not configure has the same configuration whether it was set or not. -/
theorem initialConfig_of_not_isConfigured {arg : Argument} (h : arg.isConfigured = false)
    (call : Call) : arg.configured call = arg.placement.initialConfig := by
  cases hp : arg.placement <;>
    simp_all [Argument.isConfigured, Argument.configured, Placement.initialConfig]

theorem configured_findRev? {metadata : Metadata} {i : Nat} {arg : Argument}
    (hget : metadata.args[i]? = some arg) (calls : List Call) :
    ((calls.findRev? fun call =>
        call.index.toNat == i && metadata.concerns (·.isConfigured) call).map
          metadata.configured).getD arg.placement.initialConfig =
      match calls.findRev? (·.index.toNat == i) with
      | some call => arg.configured call
      | none => arg.placement.initialConfig := by
  -- Of the calls for argument `i` either all configure it or none does.
  have htest : (fun call : Call =>
      call.index.toNat == i && metadata.concerns (·.isConfigured) call) =
        fun call => call.index.toNat == i && arg.isConfigured := by
    funext call
    by_cases hi : call.index.toNat = i
    · simp only [concerns, hi, hget, Option.any_some]
    · simp only [beq_eq_false_iff_ne.2 hi, Bool.false_and]
  rw [htest]
  -- An argument that is never configured has the same configuration with and without a last call.
  cases hc : arg.isConfigured with
  | false =>
    have hnone : calls.findRev? (fun call => call.index.toNat == i && false) = none := by simp
    rw [hnone]
    cases calls.findRev? (·.index.toNat == i) with
    | none => rfl
    | some call => exact (initialConfig_of_not_isConfigured hc call).symm
  | true =>
    simp only [Bool.and_true]
    cases hlast : calls.findRev? (·.index.toNat == i) with
    | none => rfl
    | some call =>
      rw [List.findRev?_eq_find?_reverse] at hlast
      have hi : call.index.toNat = i := by simpa using List.find?_some hlast
      simp [configured, hi, hget]

end Metadata

namespace Kernel

variable {program : Nat} {limits : Limits} {metadata : Metadata} {fresh : Nat} {kernel : Kernel}

theorem foldl_perform_eq_reference (h : Made program limits metadata fresh kernel)
    {calls : List Call} (hacc : ∀ call ∈ calls, metadata.accepts call) :
    calls.foldl metadata.perform kernel.bindings =
      metadata.reference kernel.literalSamplers kernel.inlineConstants calls := by
  rw [h.bindings, Bindings.mk.injEq]
  refine ⟨?_, ?_, ?_, ?_, ?_⟩
  · refine eq_map_range fun i => ?_
    rw [Metadata.getElem?_uavs_foldl]
    simp only [Bindings.initial, getElem?_placeLiterals]
  · refine eq_map_range fun i => ?_
    rw [Metadata.getElem?_srvs_foldl]
    simp only [Bindings.initial, List.getElem?_replicate]
  · refine eq_map_range fun i => ?_
    rw [Metadata.getElem?_samplers_foldl]
    simp only [Bindings.initial, getElem?_placeLiterals]
  · refine eq_map_range fun i => ?_
    rw [Metadata.getElem?_inputs_foldl _ _ _ hacc]
    simp only [Bindings.initial, List.getElem?_replicate]
  · apply List.ext_getElem?
    intro i
    rw [Metadata.getElem?_configs_foldl, Metadata.reference]
    simp only [Bindings.initial, List.getElem?_map, List.getElem?_mapIdx]
    cases hget : metadata.args[i]? with
    | none => rfl
    | some arg =>
      simp only [Option.map_some]
      rw [Metadata.configured_findRev? hget]

/-- Any run of calls on a new kernel, accepted and refused ones, ends in the reference made of the
accepted ones. There is one object for each literal, in their order. -/
theorem assignAll_eq_reference (h : make program limits metadata fresh = .ok kernel)
    (calls : List Call) :
    kernel.literalSamplers.length = metadata.literalSamplers.length ∧
      kernel.inlineConstants.length = metadata.inlineConstants.length ∧
      kernel.assignAll calls = { kernel with
        bindings := metadata.reference kernel.literalSamplers kernel.inlineConstants
          (kernel.accepted calls) } := by
  have hmade := make_ok h
  refine ⟨length_allocate hmade.samplers, length_allocate hmade.buffers, ?_⟩
  have hacc : ∀ call ∈ kernel.accepted calls, metadata.accepts call := by
    intro call hcall
    rw [← hmade.metadata_eq]
    exact accepts_of_mem_accepted hcall
  rw [assignAll_eq, hmade.metadata_eq, foldl_perform_eq_reference hmade hacc]

/-- Two buffers share a slot with two constants, and bytes with each other and with a scalar. -/
def overlapping : Metadata where
  name := "overlapping"
  args := [⟨⟨some "a", "float*", .globalMemory, ⟨0⟩⟩, .memory 0 0⟩,
    ⟨⟨some "b", "float*", .constantMemory, ⟨0⟩⟩, .memory 0 4⟩,
    ⟨⟨some "n", "uint", .privateMemory, ⟨0⟩⟩, .scalar 2 4⟩]
  inputsSize := 12
  uavCount := 1
  inlineConstants := [⟨0, [1, 2]⟩, ⟨0, [3]⟩]

/-- A call for `a`, a refused one for `b`, one for `n`, and one that unsets `b`. -/
def overlappingCalls : List Call :=
  [.memory 0 (some ⟨7, ⟨.buffer, ⟨1⟩, none, 4, none, nofun⟩⟩), .bytes 1 [9], .bytes 2 [1, 2, 3, 4],
    .memory 1 none]

theorem assignAll_overlapping :
    ∃ kernel, make 0 {} overlapping 5 = .ok kernel ∧
      (kernel.assignAll overlappingCalls).bindings =
        overlapping.reference kernel.literalSamplers kernel.inlineConstants
          (kernel.accepted overlappingCalls) ∧
      (kernel.assignAll overlappingCalls).bindings.inputs =
        [0, 0, 1, 2, 0xFF, 0xFF, 0xFF, 0xFF, 0xFF, 0xFF, 0xFF, 0xFF] := by
  have hmake : ∃ kernel, make 0 {} overlapping 5 = .ok kernel := ⟨_, rfl⟩
  obtain ⟨kernel, h⟩ := hmake
  refine ⟨kernel, h, congrArg bindings (assignAll_eq_reference h overlappingCalls).2.2, ?_⟩
  cases h
  rfl

end Kernel

end KernelBinding
