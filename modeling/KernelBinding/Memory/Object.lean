import KernelBinding.Fault
import KernelBinding.Memory.Flags
import KernelBinding.Memory.Format
import KernelBinding.Memory.Kind

/-!
# KernelBinding.Memory.Object

Memory objects and the limits of the context they are created in. An object keeps what argument
binding looks at: its kind, its flags, the format of its pixels and its initial contents.

* `length_contents` — the contents of an object have the object's size.
* `create_ok` — an object that could be created is what was asked for.
-/

namespace KernelBinding

structure Limits where
  /-- Threads in the largest work-group. -/
  maxThreads : UInt32 := 1024
  /-- Work-group sizes that suit the device are multiples of this. -/
  groupMultiple : UInt32 := 64
  /-- Bytes in the largest memory object. -/
  maxAllocation : Nat := 268435456
  deriving DecidableEq

structure MemoryObject where
  kind : MemoryKind
  flags : MemoryFlags
  /-- The pixel format of an image; a plain buffer has none. -/
  format : Option PixelFormat
  size : Nat
  /-- Bytes copied from the host at creation; without them an object is filled with zeros. -/
  initial : Option (List UInt8)
  length_initial : ∀ bytes ∈ initial, bytes.length = size
  deriving DecidableEq

namespace MemoryObject

/-- The contents of an object right after its creation. -/
def contents (object : MemoryObject) : List UInt8 :=
  object.initial.getD (List.replicate object.size 0)

def isReadOnly (object : MemoryObject) : Bool :=
  object.flags.contains .readOnly

def isWriteOnly (object : MemoryObject) : Bool :=
  object.flags.contains .writeOnly

@[simp] theorem length_contents (object : MemoryObject) :
    object.contents.length = object.size := by
  unfold contents
  cases h : object.initial with
  | none => simp
  | some bytes => exact object.length_initial bytes h

/-- An object of any kind. Host data are read only under a flag that asks for them, and then their
first `size` bytes become the contents. -/
def create (limits : Limits) (kind : MemoryKind) (flags : MemoryFlags)
    (format : Option PixelFormat) (size : Nat) (hostData : Option (List UInt8)) :
    Except AllocationFault MemoryObject :=
  match flags.normalize with
  | .error fault => .error (.invalidFlags fault.reason)
  | .ok flags =>
    if size = 0 then .error (.invalidSize size)
    else if limits.maxAllocation < size then .error (.tooLarge size limits.maxAllocation)
    else if flags.contains .copyHostPointer || flags.contains .useHostPointer then
      match hostData with
      | none => .error .missingHostData
      | some bytes =>
        if h : size ≤ bytes.length then
          .ok ⟨kind, flags, format, size, some (bytes.take size), by simp [h]⟩
        else .error (.hostDataTooShort size bytes.length)
    else .ok ⟨kind, flags, format, size, none, by simp⟩

/-- The object is what was asked for, with its flags in order. -/
structure CreatedFrom (limits : Limits) (kind : MemoryKind) (flags : MemoryFlags)
    (format : Option PixelFormat) (size : Nat) (hostData : Option (List UInt8))
    (object : MemoryObject) : Prop where
  kind_eq : object.kind = kind
  flags_eq : flags.normalize = .ok object.flags
  format_eq : object.format = format
  size_eq : object.size = size
  size_pos : 0 < size
  size_le : size ≤ limits.maxAllocation
  contents_eq :
    if object.flags.contains .copyHostPointer || object.flags.contains .useHostPointer then
      ∃ bytes, hostData = some bytes ∧ size ≤ bytes.length ∧ object.contents = bytes.take size
    else object.contents = List.replicate size 0

theorem create_ok {limits : Limits} {kind : MemoryKind} {flags : MemoryFlags}
    {format : Option PixelFormat} {size : Nat} {hostData : Option (List UInt8)}
    {object : MemoryObject} (h : create limits kind flags format size hostData = .ok object) :
    CreatedFrom limits kind flags format size hostData object := by
  unfold create at h
  split at h
  · cases h
  · rename_i normal hflags
    split at h
    · cases h
    · rename_i hpos
      split at h
      · cases h
      · rename_i hle
        split at h
        · rename_i hhost
          split at h
          · cases h
          · rename_i bytes
            split at h
            · rename_i hlength
              cases h
              refine ⟨rfl, hflags, rfl, rfl, by omega, by omega, ?_⟩
              rw [if_pos hhost]
              exact ⟨bytes, rfl, hlength, rfl⟩
            · cases h
        · rename_i hhost
          cases h
          refine ⟨rfl, hflags, rfl, rfl, by omega, by omega, ?_⟩
          rw [if_neg hhost]
          rfl

def createBuffer (limits : Limits) (flags : MemoryFlags) (size : Nat)
    (hostData : Option (List UInt8)) : Except AllocationFault MemoryObject :=
  create limits .buffer flags none size hostData

/-- An image, which takes no host data. -/
def createImage (limits : Limits) (flags : MemoryFlags) (kind : MemoryKind) (format : PixelFormat)
    (size : Nat) : Except AllocationFault MemoryObject :=
  if kind = .buffer then .error (.invalidFlags FlagFault.imageOfBuffer.reason)
  else create limits kind flags (some format) size none

end MemoryObject

end KernelBinding
