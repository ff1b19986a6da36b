import KernelBinding.Session.Command

/-!
# KernelBinding.Session.Step

Carrying out a request. A new kernel takes over its handle first; it is shown while the kernel that
had the handle still counts as live, and only then is that one released.

* `withContext_cases` and its siblings — a request that names a context is refused or carried out.
-/

namespace KernelBinding

namespace Session

/-- The result of a request: the session afterwards, and the answer. -/
abbrev Outcome := Session × Except Refusal Reply

def answer (session : Session) (reply : Reply) : Outcome :=
  (session, .ok reply)

def refuse (session : Session) (refusal : Refusal) : Outcome :=
  (session, .error refusal)

def withContext (session : Session) (handle : String) (run : Limits → Outcome) : Outcome :=
  match session.contexts.find? handle with
  | none => session.refuse (.noSuchHandle handle)
  | some limits => run limits

def withProgram (session : Session) (handle : String) (run : Nat → Program → Outcome) : Outcome :=
  match session.program? handle with
  | none => session.refuse (.noSuchHandle handle)
  | some (number, program) => run number program

def withKernel (session : Session) (handle : String) (run : Kernel → Outcome) : Outcome :=
  match session.kernels.find? handle with
  | none => session.refuse (.noSuchHandle handle)
  | some kernel => run kernel

section

variable {motive : Outcome → Prop} {session : Session} {handle : String}

/-- What holds of a refusal and of all that `run` does holds of a request that names a context. -/
theorem withContext_cases {run : Limits → Outcome}
    (hrefuse : ∀ refusal, motive (session.refuse refusal))
    (hrun : ∀ limits, motive (run limits)) : motive (session.withContext handle run) := by
  unfold withContext
  split
  · exact hrefuse _
  · exact hrun _

theorem withProgram_cases {run : Nat → Program → Outcome}
    (hrefuse : ∀ refusal, motive (session.refuse refusal))
    (hrun : ∀ number program, motive (run number program)) :
    motive (session.withProgram handle run) := by
  unfold withProgram
  split
  · exact hrefuse _
  · exact hrun _ _

theorem withKernel_cases {run : Kernel → Outcome}
    (hrefuse : ∀ refusal, motive (session.refuse refusal))
    (hrun : ∀ kernel, motive (run kernel)) : motive (session.withKernel handle run) := by
  unfold withKernel
  split
  · exact hrefuse _
  · exact hrun _

end

def addProgram (session : Session) (handle : String) (program : Program) : Session :=
  { session with
    programs := session.programs ++ [program]
    programHandles := session.programHandles.insert handle session.programs.length }

def install (session : Session) (handle : String) (kernel : Kernel) : Outcome :=
  let stored := session.storeKernel handle kernel
  (stored.releaseAll (session.kernels.find? handle).toList, .ok (.kernel (stored.view kernel)))

/-- Puts kernels under the handles `base` followed by `index`, `index + 1`, …; also gives the
kernels that had these handles. -/
def storeKernels (session : Session) (base : String) (index : Nat) :
    List Kernel → Session × List Kernel
  | [] => (session, [])
  | kernel :: rest =>
    let handle := base ++ toString index
    match (session.storeKernel handle kernel).storeKernels base (index + 1) rest with
    | (stored, displaced) => (stored, (session.kernels.find? handle).toList ++ displaced)

def installAll (session : Session) (base : String) (kernels : List Kernel) : Outcome :=
  match session.storeKernels base 0 kernels with
  | (stored, displaced) =>
    (stored.releaseAll displaced, .ok (.kernels (kernels.map stored.view)))

def memoryOperand (session : Session) : Option String → Except Refusal (Option (Object MemoryObject))
  | none => .ok none
  | some handle =>
    match session.memory.find? handle with
    | none => .error (.noSuchHandle handle)
    | some object => .ok (some object)

def samplerOperand (session : Session) : Option String → Except Refusal (Option (Object Sampler))
  | none => .ok none
  | some handle =>
    match session.samplers.find? handle with
    | none => .error (.noSuchHandle handle)
    | some sampler => .ok (some sampler)

def value (session : Session) : Operand → Except Refusal Value
  | .memory handle =>
    match session.memoryOperand handle with
    | .error refusal => .error refusal
    | .ok object => .ok (.memory object)
  | .sampler handle =>
    match session.samplerOperand handle with
    | .error refusal => .error refusal
    | .ok sampler => .ok (.sampler sampler)
  | .bytes bytes => .ok (.bytes bytes)

def call (session : Session) (index : UInt32) : Setting → Except Refusal Call
  | .memory handle =>
    match session.memoryOperand handle with
    | .error refusal => .error refusal
    | .ok object => .ok (.memory index object)
  | .sampler handle =>
    match session.samplerOperand handle with
    | .error refusal => .error refusal
    | .ok sampler => .ok (.sampler index sampler)
  | .bytes bytes => .ok (.bytes index bytes)
  | .localMemory size => .ok (.localMemory index size)
  | .raw size none => .ok ⟨index, size, none⟩
  | .raw size (some operand) =>
    match session.value operand with
    | .error refusal => .error refusal
    | .ok value => .ok ⟨index, size, some value⟩

def set (session : Session) (handle : String) (index : UInt32) (setting : Setting) : Outcome :=
  match session.call index setting with
  | .error refusal => session.refuse refusal
  | .ok call =>
    session.withKernel handle fun kernel =>
      match kernel.assign call with
      | .error fault => session.refuse (.assignment fault (session.viewBindings kernel))
      | .ok kernel =>
        let stored := session.storeKernel handle kernel
        (stored, .ok (.set (stored.viewBindings kernel)))

def dropKernel (session : Session) (handle : String) : Outcome :=
  match session.kernels.find? handle with
  | none => session.answer (.droppedKernel none)
  | some kernel =>
    let dropped := { session with kernels := session.kernels.erase handle }.release kernel
    (dropped, .ok (.droppedKernel (some (dropped.live kernel.program))))

def step (session : Session) : Command → Outcome
  | .context handle limits =>
    ({ session with contexts := session.contexts.insert handle limits }, .ok (.limits limits))
  | .program handle context devices =>
    session.withContext context fun limits =>
      (session.addProgram handle (.ofDevices limits devices), .ok .done)
  | .rebuild handle device build =>
    session.withProgram handle fun number program =>
      match program.rebuild device build with
      | .error fault => session.refuse (.kernel fault)
      | .ok program =>
        ({ session with programs := session.programs.set number program }, .ok .done)
  | .builds handle =>
    session.withProgram handle fun _ program =>
      session.answer (.builds program.builds program.live)
  | .resolve handle name =>
    session.withProgram handle fun _ program =>
      match program.builds.resolve name with
      | .error fault => session.refuse (.kernel fault)
      | .ok metadata => session.answer (.metadata metadata)
  | .create program name handle =>
    session.withProgram program fun number program =>
      match session.spawnNamed number program name with
      | .error fault => session.refuse (.creation fault program.live)
      | .ok (session, kernel) => session.install handle kernel
  | .createFrom program metadata handle =>
    session.withProgram program fun number program =>
      match session.spawn number program.limits metadata with
      | .error fault => session.refuse (.creation fault program.live)
      | .ok (session, kernel) => session.install handle kernel
  | .createAll program handle =>
    session.withProgram program fun number program =>
      match session.spawnProgram number program with
      | (session, .error fault) => session.refuse (.creation fault (session.live number))
      | (session, .ok kernels) => session.installAll handle kernels
  | .copy kernel handle =>
    session.withKernel kernel fun kernel =>
      match session.copy kernel with
      | (session, kernel) => session.install handle kernel
  | .state kernel =>
    session.withKernel kernel fun kernel => session.answer (.kernel (session.view kernel))
  | .metadata kernel =>
    session.withKernel kernel fun kernel => session.answer (.metadata kernel.metadata)
  | .argument kernel index =>
    session.withKernel kernel fun kernel => session.answer (.argument (kernel.argument? index))
  | .slot kernel kind slot =>
    session.withKernel kernel fun kernel =>
      session.answer (.slot (session.viewSlot kernel kind slot))
  | .live program =>
    session.withProgram program fun _ program => session.answer (.live program.live)
  | .buffer handle context flags size hostData =>
    session.withContext context fun limits =>
      match MemoryObject.createBuffer limits flags size hostData with
      | .error fault => session.refuse (.allocation fault)
      | .ok object => (session.storeMemory handle object, .ok (.memory object))
  | .image handle context flags kind format size =>
    session.withContext context fun limits =>
      match MemoryObject.createImage limits flags kind format size with
      | .error fault => session.refuse (.allocation fault)
      | .ok object => (session.storeMemory handle object, .ok (.memory object))
  | .sampler handle context sampler =>
    session.withContext context fun _ =>
      (session.storeSampler handle sampler, .ok (.sampler sampler))
  | .dropMemory handle =>
    ({ session with memory := session.memory.erase handle },
      .ok (.dropped (session.memory.contains handle)))
  | .dropSampler handle =>
    ({ session with samplers := session.samplers.erase handle },
      .ok (.dropped (session.samplers.contains handle)))
  | .dropKernel handle => session.dropKernel handle
  | .set kernel index setting => session.set kernel index setting

/-- Carries out requests one after another and collects the answers. -/
def run (session : Session) : List Command → Session × List (Except Refusal Reply)
  | [] => (session, [])
  | command :: rest =>
    match session.step command with
    | (session, result) =>
      match session.run rest with
      | (session, results) => (session, result :: results)

end Session

end KernelBinding
