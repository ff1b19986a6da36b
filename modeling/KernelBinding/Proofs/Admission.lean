import KernelBinding.Proofs.Access

/-!
# KernelBinding.Proofs.Admission

Which calls set an argument, and what is wrong with the others. `Argument.Takes` says which sizes and
values an argument takes, `Argument.Refuses` why it refuses the rest: the size of a handle or of a
scalar counts before the value, and of a local argument a size of zero before the value and a size
that is too large after it.

* `takes_or_refuses`  — there is a rule for every size and value.
* `accept_of_takes`, `accept_of_refuses` — arguments are set by these rules.
* `assign_by_rules`   — so are the arguments of every kernel, whatever was set before.
-/

namespace KernelBinding

/-- The sizes and values that an argument takes. -/
def Argument.Takes (arg : Argument) (size : Nat) (value : Option Value) : Prop :=
  match arg.placement with
  | .image .. => size = handleSize ∧
    (value = none ∨ value = some (.memory none) ∨ ∃ image, value = some (.memory (some image)) ∧
      arg.signature.imageKind? = some image.value.kind ∧ arg.signature.Allows image.value)
  | .memory .. => size = handleSize ∧
    (value = none ∨ value = some (.memory none) ∨
      ∃ buffer, value = some (.memory (some buffer)) ∧ buffer.value.kind = .buffer)
  | .sampler _ => size = handleSize ∧ (value = none ∨ ∃ sampler, value = some (.sampler sampler))
  | .scalar _ compiled => size = compiled.toNat ∧
    ∃ bytes, value = some (.bytes bytes) ∧ bytes.length = size
  | .localMemory => 0 < size ∧ size < UInt32.size ∧ value = none

/-- What is wrong with an image for an argument that takes images. -/
inductive Signature.Forbids (signature : Signature) (image : MemoryObject) : ValueFault → Prop
  | imageKind : signature.imageKind? ≠ some image.kind → Forbids signature image .imageKind
  | readOnlyWritten : signature.imageKind? = some image.kind → signature.isWritable = true →
      image.isReadOnly = true → Forbids signature image .readOnlyWritten
  | writeOnlyReadWritten : signature.imageKind? = some image.kind → signature.isWritable = true →
      image.isReadOnly = false → signature.isReadable = true → image.isWriteOnly = true →
        Forbids signature image .writeOnlyReadWritten
  | writeOnlyRead : signature.imageKind? = some image.kind → signature.isWritable = false →
      image.isWriteOnly = true → Forbids signature image .writeOnlyRead

/-- What is wrong with a size and a value for an argument. -/
inductive Argument.Refuses (arg : Argument) (size : Nat) (value : Option Value) : BindFault → Prop
  | memoryHandle : arg.placement.kind = .image ∨ arg.placement.kind = .memory →
      size ≠ handleSize → Refuses arg size value (.size .memoryHandle)
  | noMemoryObject {given : Value} : arg.placement.kind = .image ∨ arg.placement.kind = .memory →
      size = handleSize → value = some given → (∀ object, given ≠ .memory object) →
        Refuses arg size value (.value .noMemoryObject)
  | image {image : Object MemoryObject} {fault : ValueFault} : arg.placement.kind = .image →
      size = handleSize → value = some (.memory (some image)) →
        arg.signature.Forbids image.value fault → Refuses arg size value (.value fault)
  | noBuffer {object : Object MemoryObject} : arg.placement.kind = .memory → size = handleSize →
      value = some (.memory (some object)) → object.value.kind ≠ .buffer →
        Refuses arg size value (.value .noBuffer)
  | samplerHandle : arg.placement.kind = .sampler → size ≠ handleSize →
      Refuses arg size value (.size .samplerHandle)
  | noSampler {given : Value} : arg.placement.kind = .sampler → size = handleSize →
      value = some given → (∀ sampler, given ≠ .sampler sampler) →
        Refuses arg size value (.value .noSampler)
  | scalar {offset compiled : UInt32} : arg.placement = .scalar offset compiled →
      size ≠ compiled.toNat → Refuses arg size value (.size .scalar)
  | missingScalar {offset compiled : UInt32} : arg.placement = .scalar offset compiled →
      size = compiled.toNat → value = none → Refuses arg size value (.value .missingScalar)
  | noBytes {offset compiled : UInt32} {given : Value} : arg.placement = .scalar offset compiled →
      size = compiled.toNat → value = some given → (∀ bytes, given ≠ .bytes bytes) →
        Refuses arg size value (.value .noBytes)
  | valueLength {offset compiled : UInt32} {bytes : List UInt8} :
      arg.placement = .scalar offset compiled → size = compiled.toNat →
        value = some (.bytes bytes) → bytes.length ≠ size →
          Refuses arg size value (.size .valueLength)
  | zeroLocal : arg.placement = .localMemory → size = 0 → Refuses arg size value (.size .zeroLocal)
  | localValue {given : Value} : arg.placement = .localMemory → 0 < size → value = some given →
      Refuses arg size value (.value .localValue)
  | largeLocal : arg.placement = .localMemory → value = none → UInt32.size ≤ size →
      Refuses arg size value (.size .largeLocal)

/-- The fault of a call: it names the argument of the call, and an argument that there is not comes
before all others. -/
inductive Metadata.Refuses (metadata : Metadata) (call : Call) : KernelFault → Prop
  | index : metadata.args[call.index.toNat]? = none →
      Refuses metadata call (.invalidArgIndex call.index metadata.args.length)
  | size {arg : Argument} {fault : SizeFault} : metadata.args[call.index.toNat]? = some arg →
      arg.Refuses call.size call.value (.size fault) →
        Refuses metadata call (.invalidArgSize call.index call.size fault.reason)
  | value {arg : Argument} {fault : ValueFault} : metadata.args[call.index.toNat]? = some arg →
      arg.Refuses call.size call.value (.value fault) →
        Refuses metadata call (.invalidArgValue call.index fault.reason)

/-! ## The rules are complete -/

theorem Signature.allows_or_forbids (signature : Signature) (image : MemoryObject) :
    signature.imageKind? = some image.kind ∧ signature.Allows image ∨
      ∃ fault, signature.Forbids image fault := by
  by_cases hkind : signature.imageKind? = some image.kind
  · cases hwrite : signature.isWritable with
    | false =>
      cases honly : image.isWriteOnly with
      | false => exact .inl ⟨hkind, by simp [Allows, hwrite, honly]⟩
      | true => exact .inr ⟨_, .writeOnlyRead hkind hwrite honly⟩
    | true =>
      cases hreadOnly : image.isReadOnly with
      | true => exact .inr ⟨_, .readOnlyWritten hkind hwrite hreadOnly⟩
      | false =>
        cases hread : signature.isReadable with
        | false => exact .inl ⟨hkind, by simp [Allows, hwrite, hread, hreadOnly]⟩
        | true =>
          cases honly : image.isWriteOnly with
          | false => exact .inl ⟨hkind, by simp [Allows, hreadOnly, honly]⟩
          | true => exact .inr ⟨_, .writeOnlyReadWritten hkind hwrite hreadOnly hread honly⟩
  · exact .inr ⟨_, .imageKind hkind⟩

namespace Argument

variable {arg : Argument} {size : Nat} {value : Option Value} {fault : BindFault}

theorem takes_or_refuses (arg : Argument) (size : Nat) (value : Option Value) :
    arg.Takes size value ∨ ∃ fault, arg.Refuses size value fault := by
  unfold Takes
  cases hp : arg.placement with
  | image slots offset =>
    have hkind : arg.placement.kind = .image := hp ▸ rfl
    by_cases hsize : size = handleSize
    · rcases value with _ | (_ | image) | sampler | bytes
      · exact .inl ⟨hsize, .inl rfl⟩
      · exact .inl ⟨hsize, .inr (.inl rfl)⟩
      · rcases arg.signature.allows_or_forbids image.value with hallows | ⟨fault, hforbids⟩
        · exact .inl ⟨hsize, .inr (.inr ⟨image, rfl, hallows⟩)⟩
        · exact .inr ⟨_, .image hkind hsize rfl hforbids⟩
      · exact .inr ⟨_, .noMemoryObject (.inl hkind) hsize rfl (by simp)⟩
      · exact .inr ⟨_, .noMemoryObject (.inl hkind) hsize rfl (by simp)⟩
    · exact .inr ⟨_, .memoryHandle (.inl hkind) hsize⟩
  | memory slot offset =>
    have hkind : arg.placement.kind = .memory := hp ▸ rfl
    by_cases hsize : size = handleSize
    · rcases value with _ | (_ | object) | sampler | bytes
      · exact .inl ⟨hsize, .inl rfl⟩
      · exact .inl ⟨hsize, .inr (.inl rfl)⟩
      · by_cases hbuffer : object.value.kind = .buffer
        · exact .inl ⟨hsize, .inr (.inr ⟨object, rfl, hbuffer⟩)⟩
        · exact .inr ⟨_, .noBuffer hkind hsize rfl hbuffer⟩
      · exact .inr ⟨_, .noMemoryObject (.inr hkind) hsize rfl (by simp)⟩
      · exact .inr ⟨_, .noMemoryObject (.inr hkind) hsize rfl (by simp)⟩
    · exact .inr ⟨_, .memoryHandle (.inr hkind) hsize⟩
  | sampler slot =>
    have hkind : arg.placement.kind = .sampler := hp ▸ rfl
    by_cases hsize : size = handleSize
    · rcases value with _ | object | sampler | bytes
      · exact .inl ⟨hsize, .inl rfl⟩
      · exact .inr ⟨_, .noSampler hkind hsize rfl (by simp)⟩
      · exact .inl ⟨hsize, .inr ⟨sampler, rfl⟩⟩
      · exact .inr ⟨_, .noSampler hkind hsize rfl (by simp)⟩
    · exact .inr ⟨_, .samplerHandle hkind hsize⟩
  | scalar offset compiled =>
    by_cases hsize : size = compiled.toNat
    · rcases value with _ | object | sampler | bytes
      · exact .inr ⟨_, .missingScalar hp hsize rfl⟩
      · exact .inr ⟨_, .noBytes hp hsize rfl (by simp)⟩
      · exact .inr ⟨_, .noBytes hp hsize rfl (by simp)⟩
      · by_cases hlength : bytes.length = size
        · exact .inl ⟨hsize, bytes, rfl, hlength⟩
        · exact .inr ⟨_, .valueLength hp hsize rfl hlength⟩
    · exact .inr ⟨_, .scalar hp hsize⟩
  | localMemory =>
    by_cases hzero : size = 0
    · exact .inr ⟨_, .zeroLocal hp hzero⟩
    · cases value with
      | some given => exact .inr ⟨_, .localValue hp (Nat.pos_of_ne_zero hzero) rfl⟩
      | none =>
        by_cases hlarge : size < UInt32.size
        · exact .inl ⟨Nat.pos_of_ne_zero hzero, hlarge, rfl⟩
        · exact .inr ⟨_, .largeLocal hp rfl (Nat.le_of_not_lt hlarge)⟩

/-! ## Arguments are set by the rules -/

theorem accept_of_takes (hkind : arg.placement.kind = arg.signature.kind)
    (h : arg.Takes size value) : ∃ payload, arg.accept size value = .ok payload := by
  unfold Takes at h
  unfold accept
  cases hp : arg.placement with
  | image slots offset =>
    rw [hp] at h hkind
    obtain ⟨kind, himage⟩ := Option.isSome_iff_exists.1 (Signature.kind_eq_image.1 hkind.symm)
    obtain ⟨rfl, rfl | rfl | ⟨image, rfl, hmatches, hallows⟩⟩ := h
    · simp [acceptImage, memoryOperand, himage]
    · simp [acceptImage, memoryOperand, himage]
    · have hfault := Signature.imageFault?_eq_none.2 ⟨rfl, hallows⟩
      simp [acceptImage, memoryOperand, hmatches, hfault]
  | memory slot offset =>
    rw [hp] at h
    obtain ⟨rfl, rfl | rfl | ⟨buffer, rfl, hbuffer⟩⟩ := h
    · exact ⟨_, rfl⟩
    · exact ⟨_, rfl⟩
    · simp [acceptMemory, memoryOperand, hbuffer]
  | sampler slot =>
    rw [hp] at h
    obtain ⟨rfl, rfl | ⟨sampler, rfl⟩⟩ := h <;> exact ⟨_, rfl⟩
  | scalar offset compiled =>
    rw [hp] at h
    obtain ⟨rfl, bytes, rfl, hlength⟩ := h
    simp [acceptScalar, hlength]
  | localMemory =>
    rw [hp] at h
    obtain ⟨hpos, hsize, rfl⟩ := h
    simp [acceptLocal, Nat.ne_of_gt hpos, Nat.not_le.2 hsize]

end Argument

theorem Signature.imageFault?_of_forbids {signature : Signature} {kind : MemoryKind}
    {image : MemoryObject} {fault : ValueFault} (hkind : signature.imageKind? = some kind)
    (h : signature.Forbids image fault) : signature.imageFault? kind image = some fault := by
  unfold imageFault?
  cases h with
  | imageKind hne =>
    rw [hkind, Ne, Option.some.injEq, eq_comm] at hne
    rw [if_pos hne]
  | readOnlyWritten hmatches hwrite hreadOnly =>
    cases hkind.symm.trans hmatches
    simp [hwrite, hreadOnly]
  | writeOnlyReadWritten hmatches hwrite hreadOnly hread honly =>
    cases hkind.symm.trans hmatches
    simp [hwrite, hreadOnly, hread, honly]
  | writeOnlyRead hmatches hwrite honly =>
    cases hkind.symm.trans hmatches
    simp [hwrite, honly]

namespace Argument

variable {arg : Argument} {size : Nat} {value : Option Value} {fault : BindFault}

/-- The operand of an image or buffer argument is looked at first, whichever of the two it is. -/
theorem accept_of_memoryOperand (hkind : arg.placement.kind = .image ∨ arg.placement.kind = .memory)
    (h : memoryOperand size value = .error fault) : arg.accept size value = .error fault := by
  unfold accept
  cases hp : arg.placement with
  | image slots offset => simp [acceptImage, h]
  | memory slot offset => simp [acceptMemory, h]
  | sampler slot | scalar offset compiled | localMemory =>
    rw [hp] at hkind
    rcases hkind with hkind | hkind <;> cases hkind

theorem accept_of_samplerOperand (hkind : arg.placement.kind = .sampler)
    (h : samplerOperand size value = .error fault) : arg.accept size value = .error fault := by
  unfold accept
  cases hp : arg.placement with
  | sampler slot => simp [acceptSampler, h]
  | image slots offset | memory slot offset | scalar offset compiled | localMemory =>
    rw [hp] at hkind
    cases hkind

theorem accept_of_refuses (hkind : arg.placement.kind = arg.signature.kind)
    (h : arg.Refuses size value fault) : arg.accept size value = .error fault := by
  cases h with
  | memoryHandle hmemory hsize =>
    exact accept_of_memoryOperand hmemory (by simp [memoryOperand, hsize])
  | @noMemoryObject given hmemory hsize hvalue hother =>
    refine accept_of_memoryOperand hmemory ?_
    cases given with
    | memory object => exact absurd rfl (hother object)
    | sampler sampler => simp [memoryOperand, hsize, hvalue]
    | bytes bytes => simp [memoryOperand, hsize, hvalue]
  | image himage hsize hvalue hforbids =>
    obtain ⟨kind, hmatches⟩ :=
      Option.isSome_iff_exists.1 (Signature.kind_eq_image.1 (hkind.symm.trans himage))
    have hfault := Signature.imageFault?_of_forbids hmatches hforbids
    unfold accept
    cases hp : arg.placement with
    | image slots offset => simp [acceptImage, memoryOperand, hsize, hvalue, hmatches, hfault]
    | memory slot offset | sampler slot | scalar offset compiled | localMemory =>
      rw [hp] at himage
      cases himage
  | noBuffer hmemory hsize hvalue hother =>
    unfold accept
    cases hp : arg.placement with
    | memory slot offset => simp [acceptMemory, memoryOperand, hsize, hvalue, hother]
    | image slots offset | sampler slot | scalar offset compiled | localMemory =>
      rw [hp] at hmemory
      cases hmemory
  | samplerHandle hsampler hsize =>
    exact accept_of_samplerOperand hsampler (by simp [samplerOperand, hsize])
  | @noSampler given hsampler hsize hvalue hother =>
    refine accept_of_samplerOperand hsampler ?_
    cases given with
    | sampler sampler => exact absurd rfl (hother sampler)
    | memory object => simp [samplerOperand, hsize, hvalue]
    | bytes bytes => simp [samplerOperand, hsize, hvalue]
  | scalar hp hsize => simp [accept, hp, acceptScalar, hsize]
  | missingScalar hp hsize hvalue => simp [accept, hp, acceptScalar, hsize, hvalue]
  | @noBytes offset compiled given hp hsize hvalue hother =>
    cases given with
    | bytes bytes => exact absurd rfl (hother bytes)
    | memory object => simp [accept, hp, acceptScalar, hsize, hvalue]
    | sampler sampler => simp [accept, hp, acceptScalar, hsize, hvalue]
  | valueLength hp hsize hvalue hlength =>
    subst hsize
    simp [accept, hp, acceptScalar, hvalue, hlength]
  | zeroLocal hp hzero => simp [accept, hp, acceptLocal, hzero]
  | localValue hp hpos hvalue => simp [accept, hp, acceptLocal, Nat.ne_of_gt hpos, hvalue]
  | largeLocal hp hvalue hlarge =>
    have hpos : size ≠ 0 := by
      rintro rfl
      exact absurd hlarge (by decide)
    simp [accept, hp, acceptLocal, hpos, hvalue, hlarge]

end Argument

namespace Metadata

variable {metadata : Metadata} {call : Call} {fault : KernelFault}

theorem takes_or_refuses_call (metadata : Metadata) (call : Call) :
    (∃ arg, metadata.args[call.index.toNat]? = some arg ∧ arg.Takes call.size call.value) ∨
      ∃ fault, metadata.Refuses call fault := by
  cases hget : metadata.args[call.index.toNat]? with
  | none => exact .inr ⟨_, .index hget⟩
  | some arg =>
    rcases arg.takes_or_refuses call.size call.value with htakes | ⟨fault | fault, hrefuses⟩
    · exact .inl ⟨arg, rfl, htakes⟩
    · exact .inr ⟨_, .size hget hrefuses⟩
    · exact .inr ⟨_, .value hget hrefuses⟩

theorem accept_call_of_takes (hplaced : metadata.WellPlaced) {arg : Argument}
    (hget : metadata.args[call.index.toNat]? = some arg) (h : arg.Takes call.size call.value) :
    ∃ payload, metadata.accept call = .ok (arg, payload) := by
  obtain ⟨payload, haccept⟩ :=
    Argument.accept_of_takes (hplaced.kind arg (List.mem_of_getElem? hget)) h
  exact ⟨payload, by simp only [accept, hget, haccept]⟩

theorem accept_call_of_refuses (hplaced : metadata.WellPlaced) (h : metadata.Refuses call fault) :
    metadata.accept call = .error fault := by
  cases h with
  | index hget => simp only [accept, hget]
  | size hget hrefuses | value hget hrefuses =>
    have haccept :=
      Argument.accept_of_refuses (hplaced.kind _ (List.mem_of_getElem? hget)) hrefuses
    simp only [accept, hget, haccept, BindFault.report]

end Metadata

namespace Kernel

variable {program : Nat} {limits : Limits} {metadata : Metadata} {fresh : Nat}
  {start kernel : Kernel}

/-- Whatever calls and copies made of a new kernel, a call sets an argument just when there is the
argument and it takes the size and the value. Any other call is refused with the fault that the
rules give for it. -/
theorem assign_by_rules (h : make program limits metadata fresh = .ok start)
    (hr : start.Reaches kernel) (call : Call) :
    ((∃ kernel', kernel.assign call = .ok kernel') ↔
      ∃ arg, metadata.args[call.index.toNat]? = some arg ∧ arg.Takes call.size call.value) ∧
    ∀ fault, kernel.assign call = .error fault ↔ metadata.Refuses call fault := by
  have hmade := make_ok h
  have hplaced := hmade.wellPlaced
  have hmetadata : kernel.metadata = metadata :=
    (metadata_of_reaches hr).trans hmade.metadata_eq
  have hrefused : ∀ fault, metadata.Refuses call fault → kernel.assign call = .error fault := by
    intro fault hrefuses
    rw [assign_err, hmetadata]
    exact Metadata.accept_call_of_refuses hplaced hrefuses
  have htaken : ∀ arg, metadata.args[call.index.toNat]? = some arg →
      arg.Takes call.size call.value → ∃ kernel', kernel.assign call = .ok kernel' := by
    intro arg hget htakes
    obtain ⟨payload, haccept⟩ := Metadata.accept_call_of_takes hplaced hget htakes
    simp [assign, hmetadata, haccept]
  -- One of the two is the case, so it is the case when the outcome says so.
  rcases metadata.takes_or_refuses_call call with ⟨arg, hget, htakes⟩ | ⟨fault, hrefuses⟩
  · have hok := htaken arg hget htakes
    refine ⟨iff_of_true hok ⟨arg, hget, htakes⟩, fun fault => ⟨fun herr => ?_, hrefused fault⟩⟩
    obtain ⟨kernel', hok⟩ := hok
    rw [herr] at hok
    cases hok
  · have herr := hrefused fault hrefuses
    refine ⟨⟨fun hok => ?_, fun ⟨arg, hget, htakes⟩ => htaken arg hget htakes⟩, fun other => ?_⟩
    · obtain ⟨kernel', hok⟩ := hok
      rw [herr] at hok
      cases hok
    · refine ⟨fun hother => ?_, hrefused other⟩
      rw [herr] at hother
      cases hother
      exact hrefuses

/-- An image that kernels may only read. -/
def readOnlyImage : Object MemoryObject :=
  ⟨9, ⟨.image2D, .ofList [.readOnly], some ⟨.rgba, .float⟩, 32, none, nofun⟩⟩

/-- The writable image argument refuses it. The local argument takes a new size, and a size beyond 32
bits is refused after a value. -/
theorem everyKind_by_rules :
    ∃ start, make 0 {} everyKind 0 = .ok start ∧
      let kernel := start.assignAll everyKindCalls
      kernel.assign (.memory 1 (some readOnlyImage)) =
        .error (.invalidArgValue 1 "binding read-only image to writable image argument") ∧
      (∃ kernel', kernel.assign (.localMemory 4 16) = .ok kernel') ∧
      kernel.assign ⟨4, UInt32.size, some (.bytes [])⟩ =
        .error (.invalidArgValue 4 "value must be null for local arguments") := by
  have hmake : ∃ start, make 0 {} everyKind 0 = .ok start := ⟨_, rfl⟩
  obtain ⟨start, h⟩ := hmake
  have hrules := assign_by_rules h (.run everyKindCalls .start)
  refine ⟨start, h, ?_, (hrules _).1.2 ⟨_, rfl, by decide, by decide, rfl⟩, ?_⟩
  · refine ((hrules _).2 _).2 (.value rfl (.image rfl rfl rfl (.readOnlyWritten rfl rfl ?_)))
    decide
  · exact ((hrules _).2 _).2 (.value rfl (.localValue rfl (by decide) rfl))

end Kernel

end KernelBinding
