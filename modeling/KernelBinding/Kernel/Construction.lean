import KernelBinding.Kernel.Basic

/-!
# KernelBinding.Kernel.Construction

Making a kernel from metadata. The metadata are checked first, so that binding an argument later
never leaves the tables of the kernel; then the literals of the source are made into objects.
-/

namespace KernelBinding

/-- Whether argument number `index` is placed as its signature asks, and inside the arguments buffer
and the sampler table. The views are checked when they are declared. -/
def Metadata.checkArgument (metadata : Metadata) (index : Nat) (arg : Argument) :
    Except MetadataFault Unit :=
  let expected := arg.signature.kind
  let found := arg.placement.kind
  if found ≠ expected then .error (.misplaced index arg.signature.typeName expected found)
  else if arg.placement.start + arg.placement.extent ≤ metadata.inputsSize &&
      arg.samplerSlots.all (· < metadata.samplerCount) then
    .ok ()
  else .error (.outsideTable index)

def Metadata.checkArguments (metadata : Metadata) (index : Nat) :
    List Argument → Except MetadataFault Unit
  | [] => .ok ()
  | arg :: rest =>
    match metadata.checkArgument index arg with
    | .error fault => .error fault
    | .ok () => metadata.checkArguments (index + 1) rest

/-- Checks all places that binding will write to. -/
def Metadata.checkPlacements (metadata : Metadata) : Except MetadataFault Unit :=
  match metadata.checkArguments 0 metadata.args with
  | .error fault => .error fault
  | .ok () =>
    match metadata.literalSamplers.find? (metadata.samplerCount ≤ ·.slot) with
    | some literal => .error (.undeclaredSampler literal.slot)
    | none =>
      match metadata.inlineConstants.find? (metadata.uavCount ≤ ·.slot) with
      | some literal => .error (.undeclaredConstant literal.slot)
      | none => .ok ()

/-- The sampler a literal describes. -/
def LiteralSampler.sampler (literal : LiteralSampler) : Except MetadataFault Sampler :=
  match Numbered.ofRank? literal.addressing with
  | none => .error (.addressingMode literal.slot literal.addressing)
  | some addressing =>
    match Numbered.ofRank? literal.filter with
    | none => .error (.filterMode literal.slot literal.filter)
    | some filter => .ok ⟨literal.normalized, addressing, filter⟩

/-- The buffer that holds the data of an inline constant. -/
def InlineConstant.buffer (limits : Limits) (literal : InlineConstant) :
    Except AllocationFault MemoryObject :=
  MemoryObject.createBuffer limits (.ofList [.copyHostPointer, .readOnly, .hostNoAccess])
    literal.data.length (some literal.data)

/-- Puts each object into its slot; of two for one slot the later stays. -/
def placeLiterals {α : Type} (table : List (Option (Object α))) :
    List (UInt32 × Object α) → List (Option (Object α))
  | [] => table
  | (slot, object) :: rest => placeLiterals (put table [slot] (some object)) rest

@[simp] theorem length_placeLiterals {α : Type} (placed : List (UInt32 × Object α)) :
    ∀ table : List (Option (Object α)), (placeLiterals table placed).length = table.length := by
  induction placed with
  | nil => intro table; rfl
  | cons p rest ih => intro table; simp [placeLiterals, ih]

namespace Kernel

/-- Makes a kernel of `program`. The objects for its literals get identities from `fresh` on, first
the samplers and then the buffers. -/
def make (program : Nat) (limits : Limits) (metadata : Metadata) (fresh : Nat) :
    Except KernelFault Kernel :=
  match Declarations.ofMetadata metadata with
  | .error fault => .error (.malformedMetadata fault.reason)
  | .ok declarations =>
    match metadata.checkPlacements with
    | .error fault => .error (.malformedMetadata fault.reason)
    | .ok () =>
      match allocate LiteralSampler.sampler fresh metadata.literalSamplers with
      | .error fault => .error (.malformedMetadata fault.reason)
      | .ok samplers =>
        match allocate (InlineConstant.buffer limits) (fresh + samplers.length)
            metadata.inlineConstants with
        | .error fault => .error (.outOfResources fault)
        | .ok buffers =>
          let bindings := Bindings.initial metadata
          .ok {
            program, limits, metadata, declarations
            bindings := { bindings with
              samplers := placeLiterals bindings.samplers
                ((metadata.literalSamplers.map (·.slot)).zip samplers)
              uavs := placeLiterals bindings.uavs
                ((metadata.inlineConstants.map (·.slot)).zip buffers) }
            literalSamplers := samplers
            inlineConstants := buffers }

/-- Number of identities taken by the literals of a kernel. -/
def literalCount (kernel : Kernel) : Nat :=
  kernel.literalSamplers.length + kernel.inlineConstants.length

end Kernel

end KernelBinding
