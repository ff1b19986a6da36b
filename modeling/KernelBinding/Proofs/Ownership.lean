import KernelBinding.Session.Step

/-!
# KernelBinding.Proofs.Ownership

Who keeps the objects of a session alive. Memory objects and samplers are alike in this, and are
both called resources here. References to a resource are held under handles and by the kernels that
have it as a literal (`Session.references`); what a slot records is no reference.

A caller can reach the objects behind the slots and the literals of a kernel, and may hold on to
them. So what happens to a session is a request, or that a caller keeps a resource that is alive
(`Event`).

* `owns_of_mem`, `exists_of_owns` — a session owns the resources that are referred to.
* `read?_eq`          — a slot reads as what it records, if that is owned.
-/

namespace KernelBinding

inductive Resource where
  | memory (object : MemoryObject)
  | sampler (sampler : Sampler)
  deriving DecidableEq

namespace Object

def ofMemory (object : Object MemoryObject) : Object Resource :=
  ⟨object.id, .memory object.value⟩

def ofSampler (sampler : Object Sampler) : Object Resource :=
  ⟨sampler.id, .sampler sampler.value⟩

@[simp] theorem ofMemory_inj {a b : Object MemoryObject} : ofMemory a = ofMemory b ↔ a = b := by
  cases a
  cases b
  simp [ofMemory]

@[simp] theorem ofSampler_inj {a b : Object Sampler} : ofSampler a = ofSampler b ↔ a = b := by
  cases a
  cases b
  simp [ofSampler]

@[simp] theorem ofMemory_ne_ofSampler {a : Object MemoryObject} {b : Object Sampler} :
    ofMemory a ≠ ofSampler b := by
  simp [ofMemory, ofSampler]

@[simp] theorem ofSampler_ne_ofMemory {a : Object MemoryObject} {b : Object Sampler} :
    ofSampler b ≠ ofMemory a :=
  ofMemory_ne_ofSampler.symm

end Object

/-- The resource a slot of one of the tables records. -/
def Bindings.recorded? (bindings : Bindings) (kind : SlotKind) (slot : Nat) :
    Option (Object Resource) :=
  match kind with
  | .uav => (bindings.uavs[slot]?).join.map .ofMemory
  | .srv => (bindings.srvs[slot]?).join.map .ofMemory
  | .sampler => (bindings.samplers[slot]?).join.map .ofSampler

/-- The resources made from the literals of a kernel, in the order they are made. -/
def Kernel.literals (kernel : Kernel) : List (Object Resource) :=
  kernel.literalSamplers.map .ofSampler ++ kernel.inlineConstants.map .ofMemory

@[simp] theorem Kernel.ofMemory_mem_literals {kernel : Kernel} {literal : Object MemoryObject} :
    .ofMemory literal ∈ kernel.literals ↔ literal ∈ kernel.inlineConstants := by
  simp [literals]

@[simp] theorem Kernel.ofSampler_mem_literals {kernel : Kernel} {literal : Object Sampler} :
    .ofSampler literal ∈ kernel.literals ↔ literal ∈ kernel.literalSamplers := by
  simp [literals]

/-- What can happen to a session. -/
inductive Event where
  | request (command : Command)
  /-- A caller takes a reference of its own to a resource that is alive. -/
  | keep (handle : String) (object : Object Resource)
  deriving DecidableEq

namespace Session

/-- The references of callers. -/
def handled (session : Session) : List (Object Resource) :=
  session.memory.values.map .ofMemory ++ session.samplers.values.map .ofSampler

/-- All references there are, each as often as it is held. -/
def references (session : Session) : List (Object Resource) :=
  session.handled ++ session.kernels.values.flatMap (·.literals)

def owns (session : Session) (object : Object Resource) : Bool :=
  match object.value with
  | .memory _ => session.ownsMemory object.id
  | .sampler _ => session.ownsSampler object.id

/-- What a slot of one of the tables reads as. -/
def read? (session : Session) (kernel : Kernel) (kind : SlotKind) (slot : UInt32) :
    Option (Object Resource) :=
  match kind with
  | .uav => (session.uav? kernel slot).map .ofMemory
  | .srv => (session.srv? kernel slot).map .ofMemory
  | .sampler => (session.sampler? kernel slot).map .ofSampler

/-- Puts a resource under a handle. -/
def hold (session : Session) (handle : String) : Object Resource → Session
  | ⟨id, .memory object⟩ => { session with memory := session.memory.insert handle ⟨id, object⟩ }
  | ⟨id, .sampler sampler⟩ =>
    { session with samplers := session.samplers.insert handle ⟨id, sampler⟩ }

def next (session : Session) : Event → Session
  | .request command => (session.step command).1
  | .keep handle object =>
    if object ∈ session.references then session.hold handle object else session

def follow (session : Session) (events : List Event) : Session :=
  events.foldl next session

variable {session : Session} {object : Object Resource}

/-! ## References -/

@[simp] theorem ofMemory_mem_handled {held : Object MemoryObject} :
    .ofMemory held ∈ session.handled ↔ held ∈ session.memory.values := by
  simp [handled]

@[simp] theorem ofSampler_mem_handled {held : Object Sampler} :
    .ofSampler held ∈ session.handled ↔ held ∈ session.samplers.values := by
  simp [handled]

theorem mem_references : object ∈ session.references ↔
    object ∈ session.handled ∨ ∃ kernel ∈ session.kernels.values, object ∈ kernel.literals := by
  rw [references, List.mem_append, List.mem_flatMap]

theorem ownsMemory_iff {id : Nat} : session.ownsMemory id ↔
    ∃ owned : Object MemoryObject, .ofMemory owned ∈ session.references ∧ owned.id = id := by
  simp only [ownsMemory, mem_references, ofMemory_mem_handled, Kernel.ofMemory_mem_literals,
    Bool.or_eq_true, List.any_eq_true, beq_iff_eq]
  grind

theorem ownsSampler_iff {id : Nat} : session.ownsSampler id ↔
    ∃ owned : Object Sampler, .ofSampler owned ∈ session.references ∧ owned.id = id := by
  simp only [ownsSampler, mem_references, ofSampler_mem_handled, Kernel.ofSampler_mem_literals,
    Bool.or_eq_true, List.any_eq_true, beq_iff_eq]
  grind

theorem owns_of_mem (h : object ∈ session.references) : session.owns object := by
  obtain ⟨id, value⟩ := object
  cases value with
  | memory value => exact ownsMemory_iff.2 ⟨⟨id, value⟩, h, rfl⟩
  | sampler value => exact ownsSampler_iff.2 ⟨⟨id, value⟩, h, rfl⟩

/-- Whether a resource is owned is decided by its identity. -/
theorem exists_of_owns (h : session.owns object) :
    ∃ owned ∈ session.references, owned.id = object.id := by
  obtain ⟨id, value⟩ := object
  cases value with
  | memory value =>
    obtain ⟨owned, howned, hid⟩ := ownsMemory_iff.1 h
    exact ⟨.ofMemory owned, howned, hid⟩
  | sampler value =>
    obtain ⟨owned, howned, hid⟩ := ownsSampler_iff.1 h
    exact ⟨.ofSampler owned, howned, hid⟩

theorem read?_eq (session : Session) (kernel : Kernel) (kind : SlotKind) (slot : UInt32) :
    session.read? kernel kind slot =
      (kernel.bindings.recorded? kind slot.toNat).filter session.owns := by
  cases kind with
  | uav | srv | sampler =>
    simp only [read?, Bindings.recorded?, Option.filter_map]
    rfl

end Session

end KernelBinding
