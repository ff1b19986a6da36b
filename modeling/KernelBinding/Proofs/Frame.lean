import KernelBinding.Proofs.Effects

/-!
# KernelBinding.Proofs.Frame

Which requests change what is stored under the handle of a kernel. Only requests that name the
handle do (`Command.Touches`). The others leave the kernel under it as it is, with all that its
slots refer to, even when they take away the last owner of an object or release other kernels.

* `Effect.find?_cases`  — of the requests that do not replace a kernel, only one that gives it a
  value changes it.
* `find?_kernels_step`  — so a request keeps the kernel under a handle that it does not touch.
* `find?_kernels_run`   — so does a sequence of such requests.
* `exists_kernel_step`  — a request that does not replace a kernel keeps its program and metadata.
-/

namespace KernelBinding

/-- The request stores a kernel under the handle, gives an argument of the kernel there a value, or
drops that kernel. -/
def Command.Touches (handle : String) : Command → Prop
  | .create _ _ target | .createFrom _ _ target | .copy _ target => handle = target
  | .createAll _ base => ∃ index : Nat, handle = base ++ toString index
  | .dropKernel target | .set target _ _ => handle = target
  | _ => False

namespace Session

variable {session session' : Session} {handle : String} {command : Command}

theorem Replaces.touches (h : session.Replaces handle command) : command.Touches handle := by
  cases command with
  | createAll program base =>
    obtain ⟨_, _, index, _, _, heq⟩ := h
    exact ⟨index, heq⟩
  | create | createFrom | copy | dropKernel => exact h
  | _ => exact h.elim

/-- A kernel that is not replaced stays as it is, or is given a value. -/
theorem Effect.find?_cases (h : Effect session command session')
    (hkeep : ¬ session.Replaces handle command) :
    session'.kernels.find? handle = session.kernels.find? handle ∨
      ∃ index setting call kernel kernel', command = .set handle index setting ∧
        session.kernels.find? handle = some kernel ∧ kernel.assign call = .ok kernel' ∧
          session'.kernels.find? handle = some kernel' := by
  cases h with
  | none _ hkernels => exact .inl (congrArg (·.find? handle) hkernels)
  | program => exact .inl rfl
  | rebuild _ _ => exact .inl rfl
  | create _ hmade =>
    refine .inl ?_
    rw [find?_install_of_ne hkeep, (spawnNamed_ok hmade).kernels_eq]
    rfl
  | createFrom _ hmade =>
    refine .inl ?_
    rw [find?_install_of_ne hkeep, (spawn_ok hmade).kernels_eq]
    rfl
  | @createAll program base number found made kernels hfound hmade =>
    refine .inl ?_
    rw [find?_installAll_of_ne fun index hlt heq => ?_, kernels_spawnProgram hmade]
    rw [(spawnProgram_ok hmade).1] at hlt
    exact hkeep ⟨number, found, index, hfound, hlt, heq⟩
  | createNone _ hfailed => exact .inl (congrArg (·.find? handle) (kernels_spawnProgram hfailed))
  | copy _ => exact .inl (find?_install_of_ne hkeep _ _)
  | @set target index setting call kernel kernel' hfound hassign =>
    by_cases heq : handle = target
    · subst heq
      exact .inr ⟨index, setting, call, kernel, kernel', rfl, hfound, hassign,
        session.kernels.find?_insert_self handle kernel'⟩
    · exact .inl (session.kernels.find?_insert_of_ne kernel' heq)
  | drop _ => exact .inl (session.kernels.find?_erase_of_ne hkeep)

/-- A request keeps the kernel under a handle that it does not touch. -/
theorem find?_kernels_step (h : ¬ command.Touches handle) :
    (session.step command).1.kernels.find? handle = session.kernels.find? handle := by
  rcases (session.effect_step command).find?_cases fun hreplaces => h hreplaces.touches with
    hsame | ⟨_, _, _, _, _, rfl, _⟩
  · exact hsame
  · exact absurd rfl h

theorem find?_kernels_run {commands : List Command} :
    ∀ {session : Session}, (∀ command ∈ commands, ¬ command.Touches handle) →
      (session.run commands).1.kernels.find? handle = session.kernels.find? handle := by
  induction commands with
  | nil => intro session _; rfl
  | cons command rest ih =>
    intro session h
    have hstep : (session.step command).1.kernels.find? handle = session.kernels.find? handle :=
      find?_kernels_step (h command List.mem_cons_self)
    exact (ih fun other hother => h other (List.mem_cons_of_mem _ hother)).trans hstep

/-- A request that does not replace a kernel keeps it, except for its bindings. -/
theorem exists_kernel_step {kernel : Kernel} (h : session.kernels.find? handle = some kernel)
    (hkeep : ¬ session.Replaces handle command) :
    ∃ kernel', (session.step command).1.kernels.find? handle = some kernel' ∧
      kernel'.program = kernel.program ∧ kernel'.metadata = kernel.metadata := by
  rcases (session.effect_step command).find?_cases hkeep with
    hsame | ⟨_, _, _, _, _, _, hfound, hassign, hstored⟩
  · exact ⟨kernel, hsame.trans h, rfl, rfl⟩
  · cases hfound.symm.trans h
    obtain ⟨_, _, _, rfl⟩ := Kernel.assign_ok hassign
    exact ⟨_, hstored, rfl, rfl⟩

end Session

end KernelBinding
