import KernelBinding.Numbering

/-!
# KernelBinding.Sampler

Samplers as an application describes them, and the state of a sampler that a kernel is specialised
on when it is compiled.
-/

namespace KernelBinding

/-- What a read outside the image returns. -/
inductive AddressingMode where
  | none
  | clampToEdge
  | clamp
  | repeat
  | mirroredRepeat
  deriving DecidableEq

instance : Numbered AddressingMode where
  members := [.none, .clampToEdge, .clamp, .repeat, .mirroredRepeat]
  first := 0x1130
  number
    | .none => 0x1130
    | .clampToEdge => 0x1131
    | .clamp => 0x1132
    | .repeat => 0x1133
    | .mirroredRepeat => 0x1134
  mem_members x := by cases x <;> decide
  number_members := by decide
  first_add_length := by decide

/-- How a read between pixels is resolved. -/
inductive FilterMode where
  | nearest
  | linear
  deriving DecidableEq

instance : Numbered FilterMode where
  members := [.nearest, .linear]
  first := 0x1140
  number
    | .nearest => 0x1140
    | .linear => 0x1141
  mem_members x := by cases x <;> decide
  number_members := by decide
  first_add_length := by decide

structure Sampler where
  /-- Whether coordinates run from zero to one, whatever the size of the image. -/
  normalized : Bool := true
  addressing : AddressingMode := .none
  filter : FilterMode := .nearest
  deriving DecidableEq

/-- The part of a sampler that a kernel is specialised on. -/
structure SamplerConfig where
  normalized : Bool
  /-- Rank of the addressing mode. -/
  addressing : UInt32
  linear : Bool
  deriving DecidableEq

namespace SamplerConfig

/-- The configuration of an argument that was given no sampler. -/
def unbound : SamplerConfig :=
  ⟨true, 0, false⟩

def ofSampler (sampler : Sampler) : SamplerConfig :=
  ⟨sampler.normalized, Numbered.rank sampler.addressing, sampler.filter == .linear⟩

end SamplerConfig

end KernelBinding
