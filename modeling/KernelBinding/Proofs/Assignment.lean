import KernelBinding.Kernel.Assign

/-!
# KernelBinding.Proofs.Assignment

What an accepted call gives, read off the call and its argument alone, and where it goes.

* `accept_ok` — an accepted call gives exactly `Argument.payload`: the object or the sampler in the
  call, the bytes of `Argument.encoding`, as many as the argument has, and the configuration of
  `Argument.configured`.
* `getElem?_uavs_apply` and its siblings — one lemma for each table: a place the argument takes
  holds what it was given, every other place what it held.
-/

namespace KernelBinding

namespace Call

/-- The memory object in a call; none for a null object, another kind of value or no value. -/
def object? (call : Call) : Option (Object MemoryObject) :=
  match call.value with
  | some (.memory object) => object
  | _ => none

/-- The sampler in a call; none for a null sampler, another kind of value or no value. -/
def sampler? (call : Call) : Option (Object Sampler) :=
  match call.value with
  | some (.sampler sampler) => sampler
  | _ => none

end Call

namespace Argument

/-- The bytes a call puts into the arguments buffer. An image has the header of its format there and
a buffer its slot in the high word of an address; eight zero bytes stand for no image, eight bytes
of ones for no buffer. -/
def encoding (arg : Argument) (call : Call) : List UInt8 :=
  match arg.placement with
  | .image .. =>
    match call.object?.bind (·.value.format) with
    | some format => format.header
    | none => .replicate 8 0
  | .memory slot _ =>
    match call.object? with
    | some _ => littleEndian 8 (slot.toNat <<< 32)
    | none => .replicate 8 0xFF
  | .scalar .. =>
    match call.value with
    | some (.bytes bytes) => bytes
    | _ => []
  | .sampler _ | .localMemory => []

/-- The configuration a call leaves: the state of the sampler, the bytes of local memory asked for,
and none for the other arguments. -/
def configured (arg : Argument) (call : Call) : ArgumentConfig :=
  match arg.placement with
  | .sampler _ =>
    match call.sampler? with
    | some sampler => .sampler (some (.ofSampler sampler.value))
    | none => .sampler (some .unbound)
  | .localMemory => .localMemory call.size
  | _ => .none

def isConfigured (arg : Argument) : Bool :=
  match arg.placement with
  | .sampler _ | .localMemory => true
  | _ => false

/-- All that an accepted call gives. -/
def payload (arg : Argument) (call : Call) : Payload where
  object := call.object?
  sampler := call.sampler?
  bytes := arg.encoding call
  config := if arg.isConfigured then some (arg.configured call) else none

/-- Whether the argument takes slot `i` of the writable views. -/
def takesUav (arg : Argument) (i : Nat) : Bool :=
  arg.uavSlots.any (·.toNat == i)

def takesSrv (arg : Argument) (i : Nat) : Bool :=
  arg.srvSlots.any (·.toNat == i)

def takesSampler (arg : Argument) (i : Nat) : Bool :=
  arg.samplerSlots.any (·.toNat == i)

/-- Whether byte `i` of the arguments buffer belongs to the argument. -/
def takesByte (arg : Argument) (i : Nat) : Bool :=
  arg.placement.start ≤ i && i < arg.placement.start + arg.placement.extent

end Argument

/-! ## Accepted values -/

theorem memoryOperand_ok {call : Call} {object : Option (Object MemoryObject)}
    (h : memoryOperand call.size call.value = .ok object) :
    call.object? = object ∧ call.sampler? = none := by
  unfold memoryOperand at h
  split at h
  · cases h
  · split at h
    · rename_i hv; cases h; simp [Call.object?, Call.sampler?, hv]
    · rename_i hv; cases h; simp [Call.object?, Call.sampler?, hv]
    · cases h

theorem samplerOperand_ok {call : Call} {sampler : Option (Object Sampler)}
    (h : samplerOperand call.size call.value = .ok sampler) :
    call.sampler? = sampler ∧ call.object? = none := by
  unfold samplerOperand at h
  split at h
  · cases h
  · split at h
    · rename_i hv; cases h; simp [Call.object?, Call.sampler?, hv]
    · rename_i hv; cases h; simp [Call.object?, Call.sampler?, hv]
    · cases h

namespace Argument

variable {arg : Argument} {call : Call} {payload : Payload}

theorem acceptImage_ok (h : arg.acceptImage call.size call.value = .ok payload) :
    payload = ⟨call.object?, call.sampler?,
      ((call.object?.bind (·.value.format)).map (·.header)).getD (.replicate 8 0), none⟩ := by
  unfold acceptImage at h
  split at h
  · cases h
  · rename_i object hop
    obtain ⟨hobj, hsam⟩ := memoryOperand_ok hop
    split at h
    · cases h
    · split at h
      · cases h
      · cases h
        simp [hobj, hsam, PixelFormat.headerSize]

theorem acceptMemory_ok {slot : UInt32} (h : acceptMemory slot call.size call.value = .ok payload) :
    payload = ⟨call.object?, call.sampler?,
      if call.object?.isSome then littleEndian 8 (slot.toNat <<< 32) else .replicate 8 0xFF,
      none⟩ := by
  unfold acceptMemory at h
  split at h
  · cases h
  · rename_i hop
    obtain ⟨hobj, hsam⟩ := memoryOperand_ok hop
    have hones : littleEndian 8 (UInt64.size - 1) = List.replicate 8 0xFF := by decide
    cases h
    rw [hobj, hsam, hones]
    rfl
  · rename_i object hop
    obtain ⟨hobj, hsam⟩ := memoryOperand_ok hop
    split at h
    · cases h
    · cases h
      simp [hobj, hsam]

theorem acceptSampler_ok (h : acceptSampler call.size call.value = .ok payload) :
    payload = ⟨call.object?, call.sampler?, [],
      some (.sampler (some ((call.sampler?.map fun s => SamplerConfig.ofSampler s.value).getD
        .unbound)))⟩ := by
  unfold acceptSampler at h
  split at h
  · cases h
  · rename_i sampler hop
    obtain ⟨hsam, hobj⟩ := samplerOperand_ok hop
    cases h
    simp [hobj, hsam]

theorem acceptScalar_ok {compiled : UInt32}
    (h : acceptScalar compiled call.size call.value = .ok payload) :
    ∃ bytes, call.value = some (.bytes bytes) ∧ bytes.length = compiled.toNat ∧
      payload = ⟨none, none, bytes, none⟩ := by
  unfold acceptScalar at h
  split at h
  · cases h
  · rename_i hsize
    split at h
    · cases h
    · rename_i bytes hv
      split at h
      · cases h
      · rename_i hlen
        cases h
        exact ⟨bytes, hv, by omega, rfl⟩
    · cases h

theorem acceptLocal_ok (h : acceptLocal call.size call.value = .ok payload) :
    call.value = none ∧ 0 < call.size ∧ call.size < UInt32.size ∧
      payload = ⟨none, none, [], some (.localMemory call.size)⟩ := by
  unfold acceptLocal at h
  split at h
  · cases h
  · rename_i hzero
    split at h
    · cases h
    · rename_i hnone
      split at h
      · cases h
      · rename_i hsize
        cases h
        exact ⟨by simpa using hnone, by omega, by omega, rfl⟩

theorem accept_ok (h : arg.accept call.size call.value = .ok payload) :
    payload = arg.payload call ∧ (arg.encoding call).length = arg.placement.extent := by
  unfold accept at h
  split at h
  · rename_i slots offset hp
    obtain rfl := acceptImage_ok h
    cases hf : call.object?.bind (·.value.format) <;>
      simp [Argument.payload, encoding, isConfigured, Placement.extent, hp, hf,
        PixelFormat.headerSize]
  · rename_i slot offset hp
    obtain rfl := acceptMemory_ok h
    cases ho : call.object? <;>
      simp [Argument.payload, encoding, isConfigured, Placement.extent, hp, ho]
  · rename_i slot hp
    obtain rfl := acceptSampler_ok h
    cases hs : call.sampler? <;>
      simp [Argument.payload, encoding, configured, isConfigured, Placement.extent, hp, hs]
  · rename_i offset compiled hp
    obtain ⟨bytes, hv, hlen, rfl⟩ := acceptScalar_ok h
    simp [Argument.payload, encoding, isConfigured, Placement.extent, Call.object?, Call.sampler?,
      hp, hv, hlen]
  · rename_i hp
    obtain ⟨hv, _, _, rfl⟩ := acceptLocal_ok h
    simp [Argument.payload, encoding, configured, isConfigured, Placement.extent, Call.object?,
      Call.sampler?, hp, hv]

end Argument

/-! ## Effect on the tables -/

namespace Bindings

variable (bindings : Bindings) (index : Nat) (arg : Argument) (call : Call) (i : Nat)

theorem getElem?_uavs_apply : (bindings.apply index arg (arg.payload call)).uavs[i]? =
    bindings.uavs[i]?.map fun old => if arg.takesUav i then call.object? else old :=
  getElem?_put ..

theorem getElem?_srvs_apply : (bindings.apply index arg (arg.payload call)).srvs[i]? =
    bindings.srvs[i]?.map fun old => if arg.takesSrv i then call.object? else old :=
  getElem?_put ..

theorem getElem?_samplers_apply : (bindings.apply index arg (arg.payload call)).samplers[i]? =
    bindings.samplers[i]?.map fun old => if arg.takesSampler i then call.sampler? else old :=
  getElem?_put ..

theorem getElem?_inputs_apply (h : (arg.encoding call).length = arg.placement.extent) :
    (bindings.apply index arg (arg.payload call)).inputs[i]? =
      bindings.inputs[i]?.map fun old =>
        if arg.takesByte i then (arg.encoding call)[i - arg.placement.start]?.getD 0 else old := by
  simp only [apply, Argument.payload, getElem?_overwrite, Argument.takesByte]
  congr 1
  funext old
  by_cases hs : arg.placement.start ≤ i
  · by_cases he : i < arg.placement.start + arg.placement.extent
    · have hi : i - arg.placement.start < (arg.encoding call).length := by omega
      simp [hs, he, List.getElem?_eq_getElem hi]
    · have hi : (arg.encoding call).length ≤ i - arg.placement.start := by omega
      simp [hs, he, List.getElem?_eq_none hi]
  · simp [hs]

theorem getElem?_configs_apply : (bindings.apply index arg (arg.payload call)).configs[i]? =
    bindings.configs[i]?.map fun old =>
      if index = i ∧ arg.isConfigured then arg.configured call else old := by
  by_cases hc : arg.isConfigured
  · simp only [apply, Argument.payload, hc, if_true, List.getElem?_set]
    by_cases hi : index = i
    · subst hi
      by_cases hl : index < bindings.configs.length <;> simp [hl]
    · simp [hi]
  · simp [apply, Argument.payload, hc]

end Bindings

end KernelBinding
