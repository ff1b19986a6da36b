import KernelBinding.Metadata.Argument

/-!
# KernelBinding.Metadata.Basic

What the compiler reports about one kernel on one device, and what can be wrong with it.
-/

namespace KernelBinding

/-- A sampler written out in the source of a kernel. Its modes are ranks. -/
structure LiteralSampler where
  slot : UInt32
  normalized : Bool
  addressing : UInt32
  filter : UInt32
  deriving DecidableEq

/-- Constant data that the compiler moved out of the kernel into a buffer. -/
structure InlineConstant where
  slot : UInt32
  data : List UInt8
  deriving DecidableEq

structure GroupSize where
  x : UInt16 := 0
  y : UInt16 := 0
  z : UInt16 := 0
  deriving DecidableEq

structure Metadata where
  name : String
  args : List Argument := []
  /-- Index of the constant buffer that holds the arguments. -/
  inputsIndex : UInt32 := 0
  /-- Index of the constant buffer that holds the properties of the launch. -/
  workIndex : UInt32 := 0
  /-- Bytes in the constant buffer that holds the arguments. -/
  inputsSize : Nat := 0
  uavCount : UInt32 := 0
  srvCount : UInt32 := 0
  samplerCount : UInt32 := 0
  literalSamplers : List LiteralSampler := []
  inlineConstants : List InlineConstant := []
  /-- The group size the kernel requires; zero when it requires none. -/
  requiredGroup : GroupSize := {}
  /-- The group size the kernel suggests; zero when it suggests none. -/
  suggestedGroup : GroupSize := {}
  /-- Local memory, with four bytes reserved for each local argument. -/
  localMemory : Nat := 0
  privateMemory : Nat := 0
  deriving DecidableEq

inductive ViewTable where
  | uav
  | srv
  deriving DecidableEq

def ViewTable.label : ViewTable → String
  | .uav => "UAV"
  | .srv => "SRV"

/-- Why no kernel can be made from some metadata. Arguments are given by their index. -/
inductive MetadataFault where
  | constantBufferOverflow
  | unexpectedPlacement (index : Nat) (typeName : String) (found : ArgumentKind)
  | undeclaredView (index : Nat) (table : ViewTable) (slot : UInt32) (count : Nat)
  | misplaced (index : Nat) (typeName : String) (expected found : ArgumentKind)
  | outsideTable (index : Nat)
  | undeclaredSampler (slot : UInt32)
  | undeclaredConstant (slot : UInt32)
  | addressingMode (slot mode : UInt32)
  | filterMode (slot mode : UInt32)
  deriving DecidableEq

def MetadataFault.reason : MetadataFault → String
  | .constantBufferOverflow => "constant buffer index overflow"
  | .unexpectedPlacement index typeName found =>
    let found := found.label
    s!"argument {index} (`{typeName}`) has {found} properties"
  | .undeclaredView index table slot count =>
    let table := table.label
    s!"argument {index} uses {table} slot {slot} but only {count} are declared"
  | .misplaced index typeName expected found =>
    let expected := expected.label
    let found := found.label
    s!"argument {index} (`{typeName}`) should be {expected} but has {found} properties"
  | .outsideTable index => s!"argument {index} lies outside its binding table"
  | .undeclaredSampler slot => s!"literal sampler uses undeclared slot {slot}"
  | .undeclaredConstant slot => s!"inline constant uses undeclared UAV slot {slot}"
  | .addressingMode slot mode => s!"literal sampler {slot} has addressing mode {mode}"
  | .filterMode slot mode => s!"literal sampler {slot} has filter mode {mode}"

end KernelBinding
