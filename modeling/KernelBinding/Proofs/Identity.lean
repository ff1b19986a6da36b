import Mathlib.Data.List.Nodup
import KernelBinding.Proofs.Access
import KernelBinding.Proofs.Lineage

/-!
# KernelBinding.Proofs.Identity

No identity is ever used twice. Wherever a resource is referred to or recorded, it is one of those
that were made, and these have ascending identities (`Accounted`). So a slot reads as the very
resource that it records, and a resource without references never has any again.

* `mentions_receive`, `mentions_made` — where the resources in the slots of a kernel come from.
* `mentions_turn`, `references_turn`  — nothing is mentioned after an event that was not before it,
  but for new resources; and no reference comes from a slot.
* `accounted_follow` — all resources are accounted for, after any events.
* `read?_eq_some`    — a slot reads as what it records, if there is a reference to that.
* `gone_follow`      — a resource that is gone stays gone.
-/

namespace KernelBinding

/-- The kernel has the resource as a literal, or one of its slots records it. -/
def Kernel.Mentions (kernel : Kernel) (object : Object Resource) : Prop :=
  object ∈ kernel.literals ∨ ∃ kind slot, kernel.bindings.recorded? kind slot = some object

/-- The call is made with the resource. -/
def Call.Names (call : Call) (object : Object Resource) : Prop :=
  call.object?.map .ofMemory = some object ∨ call.sampler?.map .ofSampler = some object

section

variable {object : Object Resource}

theorem Call.not_names {call : Call} (hobject : call.object? = none)
    (hsampler : call.sampler? = none) : ¬ call.Names object := by
  rw [Names, hobject, hsampler]
  simp

/-! ## Slots -/

/-- For any of the three tables: `old?` is a slot of it, `given` what a call may put there. -/
theorem recorded_of_write {α : Type} {f : Object α → Object Resource}
    {old? : Option (Option (Object α))} {takes : Bool} {given : Option (Object α)}
    (h : (old?.map fun old => if takes then given else old).join.map f = some object) :
    old?.join.map f = some object ∨ given.map f = some object := by
  cases old? with
  | none => cases h
  | some old =>
    cases takes with
    | true => exact .inr h
    | false => exact .inl h

theorem recorded?_apply {bindings : Bindings} {index : Nat} {arg : Argument} {call : Call}
    {kind : SlotKind} {slot : Nat}
    (h : (bindings.apply index arg (arg.payload call)).recorded? kind slot = some object) :
    bindings.recorded? kind slot = some object ∨ call.Names object := by
  cases kind with
  | uav =>
    rw [Bindings.recorded?, Bindings.getElem?_uavs_apply] at h
    exact (recorded_of_write h).imp_right .inl
  | srv =>
    rw [Bindings.recorded?, Bindings.getElem?_srvs_apply] at h
    exact (recorded_of_write h).imp_right .inl
  | sampler =>
    rw [Bindings.recorded?, Bindings.getElem?_samplers_apply] at h
    exact (recorded_of_write h).imp_right .inr

namespace Kernel

variable {kernel : Kernel} {call : Call}

theorem receive_eq (kernel : Kernel) (call : Call) :
    kernel.receive call = kernel ∨ kernel.assign call = .ok (kernel.receive call) := by
  unfold receive assignAll
  split
  · exact .inl rfl
  · rename_i hassign
    exact .inr hassign

theorem literals_assignAll (kernel : Kernel) (calls : List Call) :
    (kernel.assignAll calls).literals = kernel.literals := by
  rw [assignAll_eq]
  rfl

theorem mentions_receive (h : (kernel.receive call).Mentions object) :
    kernel.Mentions object ∨ call.Names object := by
  rcases h with hliteral | ⟨kind, slot, hslot⟩
  · rw [receive, literals_assignAll] at hliteral
    exact .inl (.inl hliteral)
  · rcases kernel.receive_eq call with hsame | hassign
    · rw [hsame] at hslot
      exact .inl (.inr ⟨kind, slot, hslot⟩)
    · obtain ⟨arg, payload, hacc, heq⟩ := assign_ok hassign
      obtain ⟨-, hval⟩ := Metadata.accept_ok hacc
      obtain ⟨rfl, -⟩ := Argument.accept_ok hval
      rw [heq] at hslot
      exact (recorded?_apply hslot).imp_left fun h => .inr ⟨kind, slot, h⟩

theorem mem_of_lastLiteral {α : Type} {slots : List UInt32} {objects : List (Object α)}
    {count i : Nat} {f : Object α → Object Resource}
    (h : ((placeLiterals (List.replicate count none) (slots.zip objects))[i]?).join.map f =
      some object) : object ∈ objects.map f := by
  rw [getElem?_placeLiterals] at h
  split at h
  · obtain ⟨literal, hlast, rfl⟩ := Option.map_eq_some_iff.1 h
    obtain ⟨j, _, _, hliteral, _⟩ := exists_of_lastLiteral hlast
    exact List.mem_map_of_mem (List.mem_of_getElem? hliteral)
  · cases h

/-- The slots of a new kernel record nothing but its literals. -/
theorem mentions_made {program : Nat} {limits : Limits} {metadata : Metadata} {fresh : Nat}
    (h : make program limits metadata fresh = .ok kernel) (hmentions : kernel.Mentions object) :
    object ∈ kernel.literals := by
  rcases hmentions with hliteral | ⟨kind, slot, hslot⟩
  · exact hliteral
  · rw [(make_ok h).bindings] at hslot
    cases kind with
    | uav => exact List.mem_append_right _ (mem_of_lastLiteral hslot)
    | srv =>
      simp only [Bindings.recorded?, Bindings.initial, List.getElem?_replicate] at hslot
      split at hslot <;> cases hslot
    | sampler => exact List.mem_append_left _ (mem_of_lastLiteral hslot)

end Kernel

end

namespace Session

variable {session session' : Session} {object : Object Resource}

/-! ## Calls -/

theorem mem_of_memoryOperand {handle : Option String} {held : Option (Object MemoryObject)}
    {index : UInt32} {size : Nat} (h : session.memoryOperand handle = .ok held)
    (hnames : Call.Names ⟨index, size, some (.memory held)⟩ object) : object ∈ session.handled := by
  rcases hnames with hnames | hnames
  · obtain ⟨named, rfl, rfl⟩ := Option.map_eq_some_iff.1 hnames
    unfold memoryOperand at h
    split at h
    · cases h
    · split at h
      · cases h
      · rename_i hfind
        cases h
        exact ofMemory_mem_handled.2 (session.memory.mem_values_iff.2 ⟨_, hfind⟩)
  · cases hnames

theorem mem_of_samplerOperand {handle : Option String} {held : Option (Object Sampler)}
    {index : UInt32} {size : Nat} (h : session.samplerOperand handle = .ok held)
    (hnames : Call.Names ⟨index, size, some (.sampler held)⟩ object) :
    object ∈ session.handled := by
  rcases hnames with hnames | hnames
  · cases hnames
  · obtain ⟨named, rfl, rfl⟩ := Option.map_eq_some_iff.1 hnames
    unfold samplerOperand at h
    split at h
    · cases h
    · split at h
      · cases h
      · rename_i hfind
        cases h
        exact ofSampler_mem_handled.2 (session.samplers.mem_values_iff.2 ⟨_, hfind⟩)

theorem mem_of_value {operand : Operand} {value : Value} {index : UInt32} {size : Nat}
    (h : session.value operand = .ok value) (hnames : Call.Names ⟨index, size, some value⟩ object) :
    object ∈ session.handled := by
  unfold Session.value at h
  split at h
  · split at h
    · cases h
    · rename_i hoperand
      cases h
      exact mem_of_memoryOperand hoperand hnames
  · split at h
    · cases h
    · rename_i hoperand
      cases h
      exact mem_of_samplerOperand hoperand hnames
  · cases h
    exact absurd hnames (Call.not_names rfl rfl)

/-- A call is made with resources that the caller holds. -/
theorem mem_of_call {index : UInt32} {setting : Setting} {call : Call}
    (h : session.call index setting = .ok call) (hnames : call.Names object) :
    object ∈ session.handled := by
  unfold Session.call at h
  split at h
  · split at h
    · cases h
    · rename_i hoperand
      cases h
      exact mem_of_memoryOperand hoperand hnames
  · split at h
    · cases h
    · rename_i hoperand
      cases h
      exact mem_of_samplerOperand hoperand hnames
  iterate 3
    · cases h
      exact absurd hnames (Call.not_names rfl rfl)
  · split at h
    · cases h
    · rename_i hvalue
      cases h
      exact mem_of_value hvalue hnames

theorem names_of_deedOf {event : Event} {handle : String} {call : Call}
    (h : session.deedOf event = .called handle call) (hnames : call.Names object) :
    object ∈ session.handled := by
  cases event with
  | keep => cases h
  | request command =>
    cases command <;> try cases h
    simp only [deedOf, deed] at h
    split at h
    · cases h
    · rename_i hcall
      cases h
      exact mem_of_call hcall hnames

/-! ## What an event adds -/

/-- Somebody refers to the resource, or a slot records it. -/
def Mentions (session : Session) (object : Object Resource) : Prop :=
  object ∈ session.handled ∨ ∃ kernel ∈ session.kernels.values, kernel.Mentions object

theorem mentions_of_mem (h : object ∈ session.references) : session.Mentions object :=
  (mem_references.1 h).imp_right fun ⟨kernel, hkernel, hliteral⟩ => ⟨kernel, hkernel, .inl hliteral⟩

variable {event : Event} {new : List (Object Resource)}

/-- Every kernel after an event is new, or was there before, perhaps without the last call. -/
theorem Turn.of_mem_kernels (h : Turn session (session.deedOf event) (kept event) new session')
    {kernel : Kernel} (hkernel : kernel ∈ session'.kernels.values) :
    kernel ∈ (session.deedOf event).products ∨ ∃ old ∈ session.kernels.values, kernel = old ∨
      ∃ call, kernel = old.receive call ∧
        ∀ object, call.Names object → object ∈ session.handled := by
  obtain ⟨handle, hfind⟩ := session'.kernels.mem_values_iff.1 hkernel
  rw [h.kernels] at hfind
  have hmem := (NameTable.mem_values_iff _).2 ⟨handle, hfind⟩
  rcases Deed.of_mem_carry hmem with hnew | ⟨old, hold, hsame | ⟨target, call, hdeed, hcall⟩⟩
  · exact .inl hnew
  · exact .inr ⟨old, hold, .inl hsame⟩
  · exact .inr ⟨old, hold, .inr ⟨call, hcall, fun object => names_of_deedOf hdeed⟩⟩

theorem references_turn (h : Turn session (session.deedOf event) (kept event) new session')
    (hobject : object ∈ session'.references) : object ∈ session.references ∨ object ∈ new := by
  rcases mem_references.1 hobject with hheld | ⟨kernel, hkernel, hliteral⟩
  · exact h.handled_references hheld
  · rcases h.of_mem_kernels hkernel with hnew | ⟨old, hold, rfl | ⟨call, rfl, -⟩⟩
    · exact .inr (h.literals.subset (List.mem_flatMap.2 ⟨kernel, hnew, hliteral⟩))
    · exact .inl (mem_references.2 (.inr ⟨kernel, hold, hliteral⟩))
    · rw [Kernel.receive, Kernel.literals_assignAll] at hliteral
      exact .inl (mem_references.2 (.inr ⟨old, hold, hliteral⟩))

theorem mentions_turn (h : Turn session (session.deedOf event) (kept event) new session')
    (hobject : session'.Mentions object) : session.Mentions object ∨ object ∈ new := by
  rcases hobject with hheld | ⟨kernel, hkernel, hmentions⟩
  · exact (h.handled_references hheld).imp_left mentions_of_mem
  · rcases h.of_mem_kernels hkernel with hnew | ⟨old, hold, rfl | ⟨call, rfl, hcall⟩⟩
    · obtain ⟨_, _, _, _, hmake⟩ := h.made kernel hnew
      have hliteral := Kernel.mentions_made hmake hmentions
      exact .inr (h.literals.subset (List.mem_flatMap.2 ⟨kernel, hnew, hliteral⟩))
    · exact .inl (.inr ⟨kernel, hold, hmentions⟩)
    · rcases Kernel.mentions_receive hmentions with hmentions | hnames
      · exact .inl (.inr ⟨old, hold, hmentions⟩)
      · exact .inl (.inl (hcall object hnames))

/-! ## All resources ever made -/

/-- The list has all resources that were ever made, in the order they were made. -/
structure Accounted (made : List (Object Resource)) (session : Session) : Prop where
  ascending : made.Pairwise (·.id < ·.id)
  lt_fresh : ∀ object ∈ made, object.id < session.fresh
  mentioned : ∀ object, session.Mentions object → object ∈ made

theorem Turn.fresh_le_id (h : Turn session (session.deedOf event) (kept event) new session') :
    ∀ object ∈ new, session.fresh ≤ object.id ∧ object.id < session.fresh + new.length := by
  intro object hobject
  have hid : object.id ∈ List.range' session.fresh new.length :=
    h.ids ▸ List.mem_map_of_mem hobject
  exact List.mem_range'_1.1 hid

variable {made : List (Object Resource)}

theorem accounted_turn (h : Turn session (session.deedOf event) (kept event) new session')
    (hmade : Accounted made session) : Accounted (made ++ new) session' := by
  have hnew := h.fresh_le_id
  have hfresh := h.fresh_le
  refine ⟨List.pairwise_append.2 ⟨hmade.ascending, ?_, fun a ha b hb => ?_⟩,
    fun object hobject => ?_, fun object hobject => ?_⟩
  · have hids : (new.map (·.id)).Pairwise (· < ·) := h.ids ▸ List.pairwise_lt_range'
    exact List.pairwise_map.1 hids
  · exact Nat.lt_of_lt_of_le (hmade.lt_fresh a ha) (hnew b hb).1
  · rcases List.mem_append.1 hobject with hobject | hobject
    · have := hmade.lt_fresh object hobject
      omega
    · have := hnew object hobject
      omega
  · exact List.mem_append.2 ((mentions_turn h hobject).imp_left (hmade.mentioned object))

theorem Accounted.id_lt_fresh (h : Accounted made session) (hobject : session.Mentions object) :
    object.id < session.fresh :=
  h.lt_fresh object (h.mentioned object hobject)

theorem Accounted.eq_of_id (h : Accounted made session) {other : Object Resource}
    (hobject : object ∈ made) (hother : other ∈ made) (hid : object.id = other.id) :
    object = other := by
  have hdistinct : (made.map (·.id)).Nodup :=
    List.pairwise_map.2 (h.ascending.imp Nat.ne_of_lt)
  exact List.inj_on_of_nodup_map hdistinct hobject hother hid

/-- A resource that was made is owned if and only if there is a reference to it. -/
theorem Accounted.owns_iff (h : Accounted made session) (hobject : object ∈ made) :
    session.owns object ↔ object ∈ session.references := by
  refine ⟨fun howns => ?_, owns_of_mem⟩
  obtain ⟨owned, howned, hid⟩ := exists_of_owns howns
  rwa [← h.eq_of_id (h.mentioned owned (mentions_of_mem howned)) hobject hid]

theorem Accounted.read?_eq_some (h : Accounted made session) {kernel : Kernel}
    (hkernel : kernel ∈ session.kernels.values) (kind : SlotKind) (slot : UInt32) :
    session.read? kernel kind slot = some object ↔
      kernel.bindings.recorded? kind slot.toNat = some object ∧ object ∈ session.references := by
  rw [read?_eq, Option.filter_eq_some_iff]
  refine and_congr_right fun hslot => h.owns_iff (h.mentioned object ?_)
  exact .inr ⟨kernel, hkernel, .inr ⟨kind, slot.toNat, hslot⟩⟩

theorem accounted_empty : Accounted [] {} := by
  refine ⟨.nil, List.forall_mem_nil _, ?_⟩
  rintro object (hheld | ⟨kernel, hkernel, -⟩)
  · cases hheld
  · cases hkernel

theorem accounted_follow (events : List Event) : ∃ made, Accounted made (follow {} events) := by
  refine List.foldlRecOn (motive := fun session => ∃ made, Accounted made session) events _
    ⟨[], accounted_empty⟩ ?_
  rintro session ⟨made, hmade⟩ event -
  obtain ⟨new, hturn⟩ := session.turn_next event
  exact ⟨made ++ new, accounted_turn hturn hmade⟩

/-! ## Resources that are gone -/

/-- The identity was given out, and no reference is to a resource with this identity. -/
structure Gone (session : Session) (id : Nat) : Prop where
  lt_fresh : id < session.fresh
  unowned : ∀ owned ∈ session.references, owned.id ≠ id

theorem Accounted.gone (h : Accounted made session) (hobject : object ∈ made)
    (hnot : object ∉ session.references) : session.Gone object.id := by
  refine ⟨h.lt_fresh object hobject, fun owned howned hid => hnot ?_⟩
  rwa [← h.eq_of_id (h.mentioned owned (mentions_of_mem howned)) hobject hid]

theorem Gone.not_owns (h : session.Gone object.id) : ¬ session.owns object := by
  intro howns
  obtain ⟨owned, howned, hid⟩ := exists_of_owns howns
  exact h.unowned owned howned hid

theorem gone_next {id : Nat} (h : session.Gone id) (event : Event) :
    (session.next event).Gone id := by
  obtain ⟨new, hturn⟩ := session.turn_next event
  have hlt := h.lt_fresh
  have hfresh := hturn.fresh_le
  refine ⟨by omega, fun owned howned => ?_⟩
  rcases references_turn hturn howned with hold | hnew
  · exact h.unowned owned hold
  · have := (hturn.fresh_le_id owned hnew).1
    omega

/-- What is gone stays gone. -/
theorem gone_follow {id : Nat} (h : session.Gone id) (events : List Event) :
    (session.follow events).Gone id :=
  List.foldlRecOn (motive := (Gone · id)) events _ h fun _ h event _ => gone_next h event

end Session

end KernelBinding
