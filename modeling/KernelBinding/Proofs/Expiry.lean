import KernelBinding.Proofs.Frame
import KernelBinding.Proofs.Identity

/-!
# KernelBinding.Proofs.Expiry

What becomes of a slot when the resource it records is released. A slot refers to a resource without
owning it, and nothing tells the slot when the last owner lets go: it goes on recording the resource
and reads as empty from then on. Nothing else of the kernel changes, and no later resource is ever
taken for the one that is gone.

* `references_dropMemory` and its siblings — what dropping a handle gives back.
* `references_set`   — giving an argument a value takes no reference and gives none back.
* `read?_next`       — an event empties the slots that record what it released, and no others.
* `slots_expire_with_owners` — what holds of slots and owners after any events.
-/

namespace KernelBinding

/-- The event stores a kernel under the handle, gives an argument of the kernel there a value, or
drops that kernel. -/
def Event.Touches (handle : String) : Event → Prop
  | .request command => command.Touches handle
  | .keep _ _ => False

namespace Session

variable {session : Session} {made : List (Object Resource)}

/-! ## References -/

/-- What callers give back is given back by the session. -/
theorem perm_references {session' : Session} {released : List (Object Resource)}
    (hkernels : session'.kernels = session.kernels)
    (hhandled : (session'.handled ++ released).Perm session.handled) :
    (session'.references ++ released).Perm session.references := by
  simp only [references, hkernels, List.append_assoc]
  refine (List.perm_append_comm.append_left _).trans ?_
  rw [← List.append_assoc]
  exact hhandled.append_right _

theorem references_dropMemory (session : Session) (handle : String) :
    ((session.step (.dropMemory handle)).1.references ++
      ((session.memory.find? handle).map Object.ofMemory).toList).Perm session.references :=
  perm_references rfl (perm_handled_dropMemory session handle)

theorem references_dropSampler (session : Session) (handle : String) :
    ((session.step (.dropSampler handle)).1.references ++
      ((session.samplers.find? handle).map Object.ofSampler).toList).Perm session.references :=
  perm_references rfl (perm_handled_dropSampler session handle)

theorem references_dropKernel (session : Session) (handle : String) :
    ((session.step (.dropKernel handle)).1.references ++
      (session.kernels.find? handle).toList.flatMap (·.literals)).Perm session.references := by
  have hvalues := (session.kernels.perm_values_erase handle).flatMap_right (·.literals)
  rw [List.flatMap_append] at hvalues
  simp only [step, dropKernel]
  split
  · rename_i hnone
    rw [hnone]
    exact .of_eq (List.append_nil _)
  · rename_i kernel hkernel
    rw [hkernel] at hvalues ⊢
    simp only [references, List.append_assoc]
    exact hvalues.append_left _

theorem find?_dropKernel (session : Session) (handle : String) :
    (session.step (.dropKernel handle)).1.kernels.find? handle = none := by
  simp only [step, dropKernel]
  split
  · assumption
  · exact session.kernels.find?_erase_self handle

theorem set_cases (session : Session) (handle : String) (index : UInt32) (setting : Setting) :
    (session.set handle index setting).1 = session ∨ ∃ kernel kernel' call,
      session.kernels.find? handle = some kernel ∧ kernel.assign call = .ok kernel' ∧
        (session.set handle index setting).1 = session.storeKernel handle kernel' := by
  unfold set
  split
  · exact .inl rfl
  · rename_i call _
    unfold withKernel
    split
    · exact .inl rfl
    · rename_i kernel hkernel
      dsimp only
      split
      · exact .inl rfl
      · rename_i kernel' hassign
        exact .inr ⟨kernel, kernel', call, hkernel, hassign, rfl⟩

/-- Giving an argument a value takes no reference, and gives none back. -/
theorem references_set (session : Session) (handle : String) (index : UInt32) (setting : Setting) :
    (session.step (.set handle index setting)).1.references.Perm session.references := by
  rw [step]
  rcases session.set_cases handle index setting with hsame | ⟨kernel, kernel', call, hkernel,
    hassign, hstored⟩
  · rw [hsame]
  · obtain ⟨_, _, _, hkernel'⟩ := Kernel.assign_ok hassign
    have hliterals : kernel'.literals = kernel.literals := by
      rw [hkernel']
      rfl
    have hvalues := (session.kernels.perm_values_insert handle kernel').flatMap_right (·.literals)
    rw [hkernel, List.flatMap_append, List.flatMap_cons, hliterals, Option.toList_some,
      List.flatMap_singleton] at hvalues
    rw [hstored]
    refine List.Perm.append_left _ ?_
    exact (List.perm_append_left_iff kernel.literals).1 (List.perm_append_comm.trans hvalues)

/-! ## Slots -/

variable {handle : String} {kernel : Kernel} {event : Event}

theorem find?_next (h : ¬ event.Touches handle) :
    (session.next event).kernels.find? handle = session.kernels.find? handle := by
  cases event with
  | request command => exact find?_kernels_step h
  | keep target object =>
    simp only [next]
    split
    · rw [kernels_hold]
    · rfl

/-- Of the slots of a kernel that an event does not touch, it empties those that record a resource
it released, and it changes no others. -/
theorem Accounted.read?_next (hmade : Accounted made session)
    (hkernel : session.kernels.find? handle = some kernel) (h : ¬ event.Touches handle)
    (kind : SlotKind) (slot : UInt32) :
    (session.next event).read? kernel kind slot =
      (session.read? kernel kind slot).filter (· ∈ (session.next event).references) := by
  obtain ⟨new, hturn⟩ := session.turn_next event
  have hmem := session.kernels.mem_values_iff.2 ⟨handle, hkernel⟩
  have hmem' := (session.next event).kernels.mem_values_iff.2 ⟨handle, (find?_next h).trans hkernel⟩
  ext object
  rw [Option.filter_eq_some_iff, hmade.read?_eq_some hmem,
    (accounted_turn hturn hmade).read?_eq_some hmem']
  simp only [decide_eq_true_eq]
  refine ⟨fun ⟨hslot, hafter⟩ => ⟨⟨hslot, ?_⟩, hafter⟩, fun ⟨⟨hslot, _⟩, hafter⟩ => ⟨hslot, hafter⟩⟩
  -- What the slot records was made before the event, so a reference to it is not new.
  rcases references_turn hturn hafter with hbefore | hnew
  · exact hbefore
  · have hlt := hmade.id_lt_fresh (.inr ⟨kernel, hmem, .inr ⟨kind, _, hslot⟩⟩)
    have := (hturn.fresh_le_id object hnew).1
    omega

/-- What holds of slots and the resources that they record. -/
structure SlotsExpire (session : Session) : Prop where
  /-- A slot reads as what it records, if a caller or a kernel that has it as a literal refers to
  it. -/
  read_iff : ∀ kernel ∈ session.kernels.values, ∀ kind slot object,
    session.read? kernel kind slot = some object ↔
      kernel.bindings.recorded? kind slot.toNat = some object ∧ object ∈ session.references
  /-- To be bound is not to be kept alive. -/
  set : ∀ handle index setting,
    (session.next (.request (.set handle index setting))).references.Perm session.references
  /-- A slot that records a resource without owners reads as empty for as long as it does. -/
  final : ∀ kernel ∈ session.kernels.values, ∀ kind slot object,
    kernel.bindings.recorded? kind slot = some object → object ∉ session.references →
      ∀ later, object ∉ (session.follow later).references ∧
        ∀ kernel kind slot other, kernel.bindings.recorded? kind slot.toNat = some other →
          other.id = object.id → (session.follow later).read? kernel kind slot = none
  /-- An event leaves kernels under other handles as they are, and empties those of their slots that
  record what it released. -/
  frame : ∀ event handle kernel, session.kernels.find? handle = some kernel →
    ¬ event.Touches handle →
      (session.next event).kernels.find? handle = some kernel ∧
        ∀ kind slot, (session.next event).read? kernel kind slot =
          (session.read? kernel kind slot).filter (· ∈ (session.next event).references)
  /-- Dropping a handle gives back one reference, or one to each literal of the kernel. -/
  dropMemory : ∀ handle, let after := session.next (.request (.dropMemory handle))
    after.kernels = session.kernels ∧ (after.references ++
      ((session.memory.find? handle).map Object.ofMemory).toList).Perm session.references
  dropSampler : ∀ handle, let after := session.next (.request (.dropSampler handle))
    after.kernels = session.kernels ∧ (after.references ++
      ((session.samplers.find? handle).map Object.ofSampler).toList).Perm session.references
  dropKernel : ∀ handle, let after := session.next (.request (.dropKernel handle))
    after.kernels.find? handle = none ∧ (after.references ++
      (session.kernels.find? handle).toList.flatMap (·.literals)).Perm session.references

theorem Accounted.slotsExpire (hmade : Accounted made session) : session.SlotsExpire where
  read_iff _ hkernel kind slot _ := hmade.read?_eq_some hkernel kind slot
  set := session.references_set
  final := by
    intro kernel hkernel kind slot object hslot hnot later
    have hobject := hmade.mentioned object (.inr ⟨kernel, hkernel, .inr ⟨kind, slot, hslot⟩⟩)
    have hgone := gone_follow (hmade.gone hobject hnot) later
    refine ⟨fun hmem => hgone.unowned object hmem rfl, fun kernel kind slot other hother hid => ?_⟩
    rw [read?_eq, hother, Option.filter_some, if_neg]
    exact (hid ▸ hgone).not_owns
  frame _ _ _ hkernel h := ⟨(find?_next h).trans hkernel, hmade.read?_next hkernel h⟩
  dropMemory handle := ⟨rfl, session.references_dropMemory handle⟩
  dropSampler handle := ⟨rfl, session.references_dropSampler handle⟩
  dropKernel handle := ⟨session.find?_dropKernel handle, session.references_dropKernel handle⟩

/-- After any events, a slot reads as the resource that it records if that has an owner, and as
empty otherwise; and when the last owner lets go, the slots that record it are all that changes. -/
theorem slots_expire_with_owners (events : List Event) : (follow {} events).SlotsExpire := by
  obtain ⟨made, hmade⟩ := accounted_follow events
  exact hmade.slotsExpire

/-- A kernel with one buffer argument. -/
def oneBuffer : Metadata where
  name := "oneBuffer"
  args := [⟨⟨some "b", "float*", .globalMemory, ⟨0⟩⟩, .memory 0 0⟩]
  inputsSize := 8
  uavCount := 1

/-- A buffer is given to a kernel and with it to a copy, and dropped. -/
def dangling : List Event :=
  [.context "c" {}, .program "p" "c" [⟨0, "d"⟩], .createFrom "p" oneBuffer "k",
    .buffer "b" "c" (.ofList [.readWrite]) 4 none, .set "k" 0 (.memory (some "b")), .copy "k" "l",
    .dropMemory "b"].map .request

/-- The copy records the buffer, and its slot reads as empty whatever comes next. -/
theorem dangling_expired : ∃ kernel buffer, (follow {} dangling).kernels.find? "l" = some kernel ∧
    kernel.bindings.recorded? .uav 0 = some buffer ∧
      ∀ later, ((follow {} dangling).follow later).read? kernel .uav 0 = none := by
  have hexpire := slots_expire_with_owners dangling
  have hkernel : ∃ kernel, (follow {} dangling).kernels.find? "l" = some kernel := ⟨_, rfl⟩
  obtain ⟨kernel, hkernel⟩ := hkernel
  have hbuffer : ∃ buffer, kernel.bindings.recorded? .uav 0 = some buffer ∧
      buffer ∉ (follow {} dangling).references := by
    cases hkernel
    exact ⟨_, rfl, by decide⟩
  obtain ⟨buffer, hslot, hnot⟩ := hbuffer
  have hmem := (NameTable.mem_values_iff _).2 ⟨"l", hkernel⟩
  exact ⟨kernel, buffer, hkernel, hslot, fun later =>
    (hexpire.final kernel hmem .uav 0 buffer hslot hnot later).2 kernel .uav 0 buffer hslot rfl⟩

end Session

end KernelBinding
