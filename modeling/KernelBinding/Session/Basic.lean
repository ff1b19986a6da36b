import KernelBinding.Kernel.Construction
import KernelBinding.Program.Resolution

/-!
# KernelBinding.Session.Basic

A session holds contexts, programs, memory objects, samplers and kernels under handles. The handles
own what they stand for, and kernels own the objects made from their literals; nothing else keeps an
object alive. In particular a slot does not: once the last owner of an object is gone, the slots
that refer to it read as empty.

Programs are kept by number, because a kernel keeps its program when the handle of the program is
given to another.

* `release_attach` — releasing a kernel undoes counting it.
-/

namespace KernelBinding

structure Session where
  contexts : NameTable Limits := .empty
  /-- All programs, each at its number. -/
  programs : List Program := []
  programHandles : NameTable Nat := .empty
  memory : NameTable (Object MemoryObject) := .empty
  samplers : NameTable (Object Sampler) := .empty
  kernels : NameTable Kernel := .empty
  /-- The next unused identity. -/
  fresh : Nat := 0
  deriving DecidableEq

namespace Session

def program? (session : Session) (handle : String) : Option (Nat × Program) :=
  match session.programHandles.find? handle with
  | none => none
  | some number => (session.programs[number]?).map fun program => (number, program)

def live (session : Session) (number : Nat) : UInt32 :=
  ((session.programs[number]?).map (·.live)).getD 0

/-- Whether a handle or a kernel owns the memory object with this identity. -/
def ownsMemory (session : Session) (id : Nat) : Bool :=
  session.memory.values.any (·.id == id) ||
    session.kernels.values.any (·.inlineConstants.any (·.id == id))

/-- Whether a handle or a kernel owns the sampler with this identity. -/
def ownsSampler (session : Session) (id : Nat) : Bool :=
  session.samplers.values.any (·.id == id) ||
    session.kernels.values.any (·.literalSamplers.any (·.id == id))

/-- What a slot that refers to a memory object reads as. -/
def readMemory (session : Session) (slot : Option (Object MemoryObject)) :
    Option (Object MemoryObject) :=
  slot.filter fun object => session.ownsMemory object.id

def readSampler (session : Session) (slot : Option (Object Sampler)) : Option (Object Sampler) :=
  slot.filter fun sampler => session.ownsSampler sampler.id

def uav? (session : Session) (kernel : Kernel) (slot : UInt32) : Option (Object MemoryObject) :=
  session.readMemory (kernel.bindings.uavs[slot.toNat]?).join

def srv? (session : Session) (kernel : Kernel) (slot : UInt32) : Option (Object MemoryObject) :=
  session.readMemory (kernel.bindings.srvs[slot.toNat]?).join

def sampler? (session : Session) (kernel : Kernel) (slot : UInt32) : Option (Object Sampler) :=
  session.readSampler (kernel.bindings.samplers[slot.toNat]?).join

def attach (session : Session) (kernel : Kernel) : Session :=
  { session with programs := session.programs.modify kernel.program Program.attach }

def release (session : Session) (kernel : Kernel) : Session :=
  { session with programs := session.programs.modify kernel.program Program.detach }

def releaseAll (session : Session) (kernels : List Kernel) : Session :=
  kernels.foldl release session

def spawn (session : Session) (number : Nat) (limits : Limits) (metadata : Metadata) :
    Except KernelFault (Session × Kernel) :=
  match Kernel.make number limits metadata session.fresh with
  | .error fault => .error fault
  | .ok kernel =>
    .ok ({ session.attach kernel with fresh := session.fresh + kernel.literalCount }, kernel)

def spawnNamed (session : Session) (number : Nat) (program : Program) (name : String) :
    Except KernelFault (Session × Kernel) :=
  match program.builds.resolve name with
  | .error fault => .error fault
  | .ok metadata => session.spawn number program.limits metadata

/-- Makes the kernels `names` of a program one after another. When one of them cannot be made, those
made before it are released. -/
def spawnAll (session : Session) (number : Nat) (program : Program) :
    List String → Session × Except KernelFault (List Kernel)
  | [] => (session, .ok [])
  | name :: rest =>
    match session.spawnNamed number program name with
    | .error fault => (session, .error fault)
    | .ok (session, kernel) =>
      match session.spawnAll number program rest with
      | (session, .error fault) => (session.release kernel, .error fault)
      | (session, .ok kernels) => (session, .ok (kernel :: kernels))

def spawnProgram (session : Session) (number : Nat) (program : Program) :
    Session × Except KernelFault (List Kernel) :=
  match program.builds.kernelNames with
  | [] => (session, .error .invalidProgramExecutable)
  | names => session.spawnAll number program names

/-- Makes a copy of a kernel. It has bindings of its own, to the same objects, and shares the
literals. -/
def copy (session : Session) (kernel : Kernel) : Session × Kernel :=
  (session.attach kernel, kernel)

/-- Puts a kernel under a handle. The kernel that had the handle is not released yet. -/
def storeKernel (session : Session) (handle : String) (kernel : Kernel) : Session :=
  { session with kernels := session.kernels.insert handle kernel }

def storeMemory (session : Session) (handle : String) (object : MemoryObject) : Session :=
  { session with
    memory := session.memory.insert handle ⟨session.fresh, object⟩
    fresh := session.fresh + 1 }

def storeSampler (session : Session) (handle : String) (sampler : Sampler) : Session :=
  { session with
    samplers := session.samplers.insert handle ⟨session.fresh, sampler⟩
    fresh := session.fresh + 1 }

@[simp] theorem release_attach (session : Session) (kernel : Kernel) :
    (session.attach kernel).release kernel = session := by
  have h : (session.programs.modify kernel.program Program.attach).modify kernel.program
      Program.detach = session.programs := by
    apply List.ext_getElem?
    intro i
    by_cases hi : kernel.program = i
    · subst hi
      cases h : session.programs[kernel.program]? <;> simp_all
    · simp [hi]
  simp only [attach, release, h]

end Session

end KernelBinding
