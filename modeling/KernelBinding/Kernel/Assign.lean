import KernelBinding.Kernel.Basic

/-!
# KernelBinding.Kernel.Assign

Giving an argument of a kernel a value. Whether the value is accepted is decided from the metadata
and the call alone (`Metadata.accept`); only an accepted value reaches the bindings, all of it at
once (`Bindings.apply`).

* `assign_ok`  — an accepted call changes the bindings and nothing else.
* `assign_err` — a call is refused exactly when the metadata refuse it, with the same fault.
-/

namespace KernelBinding

/-- Bytes of an object handle, the size given for a memory object or a sampler. -/
def handleSize : Nat :=
  8

inductive Value where
  | memory (object : Option (Object MemoryObject))
  | sampler (sampler : Option (Object Sampler))
  | bytes (bytes : List UInt8)
  deriving DecidableEq

inductive SizeFault where
  | memoryHandle
  | samplerHandle
  | scalar
  | valueLength
  | zeroLocal
  | largeLocal
  deriving DecidableEq

def SizeFault.reason : SizeFault → String
  | .memoryHandle => "global and constant arguments take a memory object handle"
  | .samplerHandle => "sampler arguments take a sampler handle"
  | .scalar => "size differs from the compiled argument size"
  | .valueLength => "value length differs from size"
  | .zeroLocal => "local arguments need a nonzero size"
  | .largeLocal => "local size exceeds 32 bits"

inductive ValueFault where
  | noMemoryObject
  | noImageArgument
  | imageKind
  | readOnlyWritten
  | writeOnlyReadWritten
  | writeOnlyRead
  | noBuffer
  | noSampler
  | missingScalar
  | noBytes
  | localValue
  deriving DecidableEq

def ValueFault.reason : ValueFault → String
  | .noMemoryObject => "expected a memory object"
  | .noImageArgument => "argument is not an image"
  | .imageKind => "invalid image type"
  | .readOnlyWritten => "binding read-only image to writable image argument"
  | .writeOnlyReadWritten => "binding write-only image to read-write image argument"
  | .writeOnlyRead => "binding write-only image to read-only image argument"
  | .noBuffer => "invalid mem object type, must be buffer"
  | .noSampler => "expected a sampler"
  | .missingScalar => "scalar arguments require a value"
  | .noBytes => "expected argument bytes"
  | .localValue => "value must be null for local arguments"

/-- Why a value is refused, without the number of the argument. -/
inductive BindFault where
  | size (fault : SizeFault)
  | value (fault : ValueFault)
  deriving DecidableEq

/-- The fault reported for argument number `index` when `size` was given. -/
def BindFault.report (index : UInt32) (size : Nat) : BindFault → KernelFault
  | .size fault => .invalidArgSize index size fault.reason
  | .value fault => .invalidArgValue index fault.reason

/-- The object in a value for an image or a buffer; without a value, none. -/
def memoryOperand (size : Nat) (value : Option Value) :
    Except BindFault (Option (Object MemoryObject)) :=
  if size ≠ handleSize then .error (.size .memoryHandle)
  else
    match value with
    | none => .ok none
    | some (.memory object) => .ok object
    | some _ => .error (.value .noMemoryObject)

/-- The sampler in a value for a sampler; without a value, none. -/
def samplerOperand (size : Nat) (value : Option Value) :
    Except BindFault (Option (Object Sampler)) :=
  if size ≠ handleSize then .error (.size .samplerHandle)
  else
    match value with
    | none => .ok none
    | some (.sampler sampler) => .ok sampler
    | some _ => .error (.value .noSampler)

namespace Signature

/-- What forbids an image for an argument that takes images of one kind. A kernel may write only to
images it is allowed to write, and read only from those it is allowed to read. -/
def imageFault? (signature : Signature) (kind : MemoryKind) (image : MemoryObject) :
    Option ValueFault :=
  if image.kind ≠ kind then some .imageKind
  else if signature.isWritable then
    if image.isReadOnly then some .readOnlyWritten
    else if signature.isReadable && image.isWriteOnly then some .writeOnlyReadWritten
    else none
  else if image.isWriteOnly then some .writeOnlyRead
  else none

end Signature

namespace Argument

/-- An image argument gets the image in all its slots and the header of its format. -/
def acceptImage (arg : Argument) (size : Nat) (value : Option Value) : Except BindFault Payload :=
  match memoryOperand size value with
  | .error fault => .error fault
  | .ok object =>
    match arg.signature.imageKind? with
    | none => .error (.value .noImageArgument)
    | some kind =>
      match object.bind fun image => arg.signature.imageFault? kind image.value with
      | some fault => .error (.value fault)
      | none =>
        let format := object.bind (·.value.format)
        .ok {
          object
          bytes := (format.map (·.header)).getD (.replicate PixelFormat.headerSize 0) }

/-- A buffer argument gets the buffer in its slot and an address: the number of the slot in the high
word, or all ones for no buffer. -/
def acceptMemory (slot : UInt32) (size : Nat) (value : Option Value) : Except BindFault Payload :=
  match memoryOperand size value with
  | .error fault => .error fault
  | .ok none => .ok { bytes := littleEndian 8 (UInt64.size - 1) }
  | .ok (some object) =>
    if object.value.kind ≠ .buffer then .error (.value .noBuffer)
    else .ok { object := some object, bytes := littleEndian 8 (slot.toNat <<< 32) }

/-- A sampler argument gets the sampler in its slot, and its state goes to the compiler. -/
def acceptSampler (size : Nat) (value : Option Value) : Except BindFault Payload :=
  match samplerOperand size value with
  | .error fault => .error fault
  | .ok sampler =>
    let config := (sampler.map fun s => SamplerConfig.ofSampler s.value).getD .unbound
    .ok { sampler, config := some (.sampler (some config)) }

/-- A scalar argument gets as many bytes as the compiler reserved for it. -/
def acceptScalar (compiled : UInt32) (size : Nat) (value : Option Value) :
    Except BindFault Payload :=
  if size ≠ compiled.toNat then .error (.size .scalar)
  else
    match value with
    | none => .error (.value .missingScalar)
    | some (.bytes bytes) =>
      if bytes.length ≠ size then .error (.size .valueLength) else .ok { bytes }
    | some _ => .error (.value .noBytes)

/-- A local argument gets no value, but a size that is neither zero nor beyond 32 bits. -/
def acceptLocal (size : Nat) (value : Option Value) : Except BindFault Payload :=
  if size = 0 then .error (.size .zeroLocal)
  else if value.isSome then .error (.value .localValue)
  else if UInt32.size ≤ size then .error (.size .largeLocal)
  else .ok { config := some (.localMemory size) }

def accept (arg : Argument) (size : Nat) (value : Option Value) : Except BindFault Payload :=
  match arg.placement with
  | .image .. => arg.acceptImage size value
  | .memory slot _ => acceptMemory slot size value
  | .sampler _ => acceptSampler size value
  | .scalar _ compiled => acceptScalar compiled size value
  | .localMemory => acceptLocal size value

end Argument

structure Call where
  index : UInt32
  size : Nat
  /-- The value; a local argument takes none. -/
  value : Option Value
  deriving DecidableEq

namespace Call

def memory (index : UInt32) (object : Option (Object MemoryObject)) : Call :=
  ⟨index, handleSize, some (.memory object)⟩

def sampler (index : UInt32) (sampler : Option (Object Sampler)) : Call :=
  ⟨index, handleSize, some (.sampler sampler)⟩

def bytes (index : UInt32) (bytes : List UInt8) : Call :=
  ⟨index, bytes.length, some (.bytes bytes)⟩

def localMemory (index : UInt32) (size : Nat) : Call :=
  ⟨index, size, none⟩

end Call

/-- What a call gives to which argument. Nothing but the metadata of the kernel and the call decides
whether it is accepted. -/
def Metadata.accept (metadata : Metadata) (call : Call) :
    Except KernelFault (Argument × Payload) :=
  match metadata.args[call.index.toNat]? with
  | none => .error (.invalidArgIndex call.index metadata.args.length)
  | some arg =>
    match arg.accept call.size call.value with
    | .error fault => .error (fault.report call.index call.size)
    | .ok payload => .ok (arg, payload)

namespace Kernel

/-- Sets an argument of a kernel, replacing whatever it was set to. -/
def assign (kernel : Kernel) (call : Call) : Except KernelFault Kernel :=
  match kernel.metadata.accept call with
  | .error fault => .error fault
  | .ok (arg, payload) =>
    .ok { kernel with bindings := kernel.bindings.apply call.index.toNat arg payload }

/-- Makes one call after another; a refused call changes nothing. -/
def assignAll (kernel : Kernel) : List Call → Kernel
  | [] => kernel
  | call :: rest =>
    match kernel.assign call with
    | .error _ => kernel.assignAll rest
    | .ok kernel => kernel.assignAll rest

theorem assign_ok {kernel kernel' : Kernel} {call : Call} (h : kernel.assign call = .ok kernel') :
    ∃ arg payload, kernel.metadata.accept call = .ok (arg, payload) ∧
      kernel' =
        { kernel with bindings := kernel.bindings.apply call.index.toNat arg payload } := by
  unfold assign at h
  split at h
  · cases h
  · rename_i arg payload hacc
    cases h
    exact ⟨arg, payload, hacc, rfl⟩

theorem assign_err {kernel : Kernel} {call : Call} {fault : KernelFault} :
    kernel.assign call = .error fault ↔ kernel.metadata.accept call = .error fault := by
  unfold assign
  split <;> simp_all

end Kernel

end KernelBinding
