/-!
# KernelBinding.Memory.Flags

The flags a memory object is created with: a set of 64 bits of which nine have a meaning. Bits
without one are kept as they are.

* `contains_insert` — inserting a flag adds that flag and no other.
-/

namespace KernelBinding

/-- The flags that have a meaning. -/
inductive MemoryFlag where
  | readWrite
  | writeOnly
  | readOnly
  | useHostPointer
  | allocHostPointer
  | copyHostPointer
  | hostWriteOnly
  | hostReadOnly
  | hostNoAccess
  deriving DecidableEq

namespace MemoryFlag

def bit : MemoryFlag → Nat
  | .readWrite => 0
  | .writeOnly => 1
  | .readOnly => 2
  | .useHostPointer => 3
  | .allocHostPointer => 4
  | .copyHostPointer => 5
  | .hostWriteOnly => 7
  | .hostReadOnly => 8
  | .hostNoAccess => 9

/-- The flags that say what kernels may do with an object. -/
def deviceAccess : List MemoryFlag :=
  [.readWrite, .writeOnly, .readOnly]

/-- The flags that say what the host may do with an object. -/
def hostAccess : List MemoryFlag :=
  [.hostWriteOnly, .hostReadOnly, .hostNoAccess]

theorem bit_lt (flag : MemoryFlag) : flag.bit < 64 := by
  cases flag <;> decide

theorem bit_inj {a b : MemoryFlag} : a.bit = b.bit ↔ a = b := by
  cases a <;> cases b <;> decide

end MemoryFlag

/-- Why a set of flags cannot be used. -/
inductive FlagFault where
  | deviceAccess
  | hostAccess
  | hostPointer
  | imageOfBuffer
  deriving DecidableEq

def FlagFault.reason : FlagFault → String
  | .deviceAccess => "conflicting device access flags"
  | .hostAccess => "conflicting host access flags"
  | .hostPointer => "USE_HOST_PTR excludes host allocation flags"
  | .imageOfBuffer => "image type must not be BUFFER"

structure MemoryFlags where
  bits : BitVec 64
  deriving DecidableEq

namespace MemoryFlags

def contains (flags : MemoryFlags) (flag : MemoryFlag) : Bool :=
  flags.bits.getLsbD flag.bit

def insert (flags : MemoryFlags) (flag : MemoryFlag) : MemoryFlags :=
  ⟨flags.bits ||| BitVec.twoPow 64 flag.bit⟩

def ofList (flags : List MemoryFlag) : MemoryFlags :=
  flags.foldl insert ⟨0⟩

theorem contains_insert (flags : MemoryFlags) (added flag : MemoryFlag) :
    (flags.insert added).contains flag = (flags.contains flag || decide (flag = added)) := by
  have := MemoryFlag.bit_lt added
  simp [contains, insert, BitVec.getLsbD_or, BitVec.getLsbD_twoPow, this, ← MemoryFlag.bit_inj,
    eq_comm]

/-- The flags an object gets when it is created with `flags`: an application names at most one kind
of device access and one of host access, and does not hand in host memory while it asks for some to be
allocated or filled. Read-write access is the default. -/
def normalize (flags : MemoryFlags) : Except FlagFault MemoryFlags :=
  if 1 < MemoryFlag.deviceAccess.countP flags.contains then .error .deviceAccess
  else if 1 < MemoryFlag.hostAccess.countP flags.contains then .error .hostAccess
  else if flags.contains .useHostPointer &&
      (flags.contains .allocHostPointer || flags.contains .copyHostPointer) then
    .error .hostPointer
  else if MemoryFlag.deviceAccess.any flags.contains then .ok flags
  else .ok (flags.insert .readWrite)

end MemoryFlags

end KernelBinding
