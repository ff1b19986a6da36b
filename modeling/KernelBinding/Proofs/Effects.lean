import KernelBinding.Proofs.Atomicity
import KernelBinding.Proofs.Construction

/-!
# KernelBinding.Proofs.Effects

What a request does to the programs and kernels of a session, said once (`Effect`). A request either
leaves all of them alone, or does one of nine things to them; what holds of a session after each of
these holds after every request.

* `effect_step`   — every request has one of the effects.
* `run_induction` — what every request keeps, a sequence of requests keeps.
* `spawn_made`, `spawnAll_ok` — the kernels that were made belong to the program and have the
  metadata they were made of.
* `find?_storeKernels_getElem`, `mem_storeKernels` — where several kernels are stored, and which
  kernels give way to them.
* `find?_install_of_ne`, `find?_installAll_of_ne` — storing kernels changes nothing under other
  handles.
-/

namespace KernelBinding

namespace Session

/-- What carrying out a request in `session` does to the programs and the kernels. -/
inductive Effect (session : Session) : Command → Session → Prop
  /-- Nothing: the request is refused, only asks for something, or is about other things. -/
  | none {command : Command} {session' : Session} :
      session'.programs = session.programs → session'.kernels = session.kernels →
        Effect session command session'
  | program {handle context : String} {limits : Limits} {devices : List Device} :
      Effect session (.program handle context devices)
        (session.addProgram handle (.ofDevices limits devices))
  | rebuild {handle : String} {device : Device} {build : Build} {number : Nat}
      {program program' : Program} :
      session.program? handle = some (number, program) →
        program.rebuild device build = .ok program' →
          Effect session (.rebuild handle device build)
            { session with programs := session.programs.set number program' }
  | create {program name handle : String} {number : Nat} {found : Program} {made : Session}
      {kernel : Kernel} :
      session.program? program = some (number, found) →
        session.spawnNamed number found name = .ok (made, kernel) →
          Effect session (.create program name handle) (made.install handle kernel).1
  | createFrom {program handle : String} {metadata : Metadata} {number : Nat} {found : Program}
      {made : Session} {kernel : Kernel} :
      session.program? program = some (number, found) →
        session.spawn number found.limits metadata = .ok (made, kernel) →
          Effect session (.createFrom program metadata handle) (made.install handle kernel).1
  | createAll {program base : String} {number : Nat} {found : Program} {made : Session}
      {kernels : List Kernel} :
      session.program? program = some (number, found) →
        session.spawnProgram number found = (made, .ok kernels) →
          Effect session (.createAll program base) (made.installAll base kernels).1
  /-- Kernels may have been made, but they are gone again. -/
  | createNone {program base : String} {number : Nat} {found : Program} {failed : Session}
      {fault : KernelFault} :
      session.program? program = some (number, found) →
        session.spawnProgram number found = (failed, .error fault) →
          Effect session (.createAll program base) failed
  | copy {source handle : String} {kernel : Kernel} :
      session.kernels.find? source = some kernel →
        Effect session (.copy source handle) ((session.attach kernel).install handle kernel).1
  | set {handle : String} {index : UInt32} {setting : Setting} {call : Call}
      {kernel kernel' : Kernel} :
      session.kernels.find? handle = some kernel → kernel.assign call = .ok kernel' →
        Effect session (.set handle index setting) (session.storeKernel handle kernel')
  | drop {handle : String} {kernel : Kernel} :
      session.kernels.find? handle = some kernel →
        Effect session (.dropKernel handle)
          ({ session with kernels := session.kernels.erase handle }.release kernel)

variable {session session' : Session}

theorem effect_set (session : Session) (handle : String) (index : UInt32) (setting : Setting) :
    Effect session (.set handle index setting) (session.set handle index setting).1 := by
  unfold set
  split
  · exact .none rfl rfl
  · rename_i call hcall
    unfold withKernel
    split
    · exact .none rfl rfl
    · rename_i kernel hkernel
      dsimp only
      split
      · exact .none rfl rfl
      · rename_i hassign
        exact .set hkernel hassign

theorem effect_dropKernel (session : Session) (handle : String) :
    Effect session (.dropKernel handle) (session.dropKernel handle).1 := by
  unfold dropKernel
  split
  · exact .none rfl rfl
  · rename_i hkernel
    exact .drop hkernel

/-- The outcome of a request that names a program, from what is done once it is found. -/
theorem effect_withProgram {command : Command} {handle : String} {run : Nat → Program → Outcome}
    (h : ∀ number program, session.program? handle = some (number, program) →
      Effect session command (run number program).1) :
    Effect session command (session.withProgram handle run).1 := by
  unfold withProgram
  split
  · exact .none rfl rfl
  · rename_i hfound
    exact h _ _ hfound

theorem effect_step (session : Session) (command : Command) :
    Effect session command (session.step command).1 := by
  cases command with
  | context handle limits => exact .none rfl rfl
  | program handle context devices =>
    simp only [step, withContext]
    split
    · exact .none rfl rfl
    · exact .program
  | rebuild handle device build =>
    refine effect_withProgram fun number program hfound => ?_
    split
    · exact .none rfl rfl
    · rename_i hrebuild
      exact .rebuild hfound hrebuild
  | builds handle => exact effect_withProgram fun _ _ _ => .none rfl rfl
  | resolve handle name =>
    refine effect_withProgram fun _ program _ => ?_
    split <;> exact .none rfl rfl
  | create program name handle =>
    refine effect_withProgram fun number found hfound => ?_
    split
    · exact .none rfl rfl
    · rename_i hmade
      exact .create hfound hmade
  | createFrom program metadata handle =>
    refine effect_withProgram fun number found hfound => ?_
    split
    · exact .none rfl rfl
    · rename_i hmade
      exact .createFrom hfound hmade
  | createAll program base =>
    refine effect_withProgram fun number found hfound => ?_
    split
    · rename_i hfailed
      exact .createNone hfound hfailed
    · rename_i hmade
      exact .createAll hfound hmade
  | copy source handle =>
    simp only [step, withKernel]
    split
    · exact .none rfl rfl
    · rename_i hkernel
      exact .copy hkernel
  | state kernel | metadata kernel | argument kernel index | slot kernel kind slot =>
    simp only [step, withKernel]
    split <;> exact .none rfl rfl
  | live program => exact effect_withProgram fun _ _ _ => .none rfl rfl
  | buffer handle context flags size hostData | image handle context flags kind format size =>
    simp only [step, withContext]
    split
    · exact .none rfl rfl
    · split <;> exact .none rfl rfl
  | sampler handle context sampler =>
    simp only [step, withContext]
    split <;> exact .none rfl rfl
  | dropMemory handle => exact .none rfl rfl
  | dropSampler handle => exact .none rfl rfl
  | dropKernel handle => exact effect_dropKernel session handle
  | set kernel index setting => exact effect_set session kernel index setting

/-! ## Sequences of requests -/

theorem run_induction {kept : Session → Prop}
    (hstep : ∀ session command, kept session → kept (session.step command).1)
    (commands : List Command) :
    ∀ {session : Session}, kept session → kept (session.run commands).1 := by
  induction commands with
  | nil => intro session h; exact h
  | cons command rest ih => intro session h; exact ih (hstep session command h)

theorem run_append (before after : List Command) : ∀ session : Session,
    (session.run (before ++ after)).1 = ((session.run before).1.run after).1 := by
  induction before with
  | nil => intro session; rfl
  | cons command rest ih => intro session; exact ih (session.step command).1

/-! ## Programs and new kernels -/

theorem getElem?_of_program? {handle : String} {number : Nat} {program : Program}
    (h : session.program? handle = some (number, program)) :
    session.programs[number]? = some program := by
  unfold program? at h
  split at h
  · cases h
  · obtain ⟨found, hfound, heq⟩ := Option.map_eq_some_iff.1 h
    cases heq
    exact hfound

theorem spawn_made {number : Nat} {limits : Limits} {metadata : Metadata} {kernel : Kernel}
    (h : session.spawn number limits metadata = .ok (session', kernel)) :
    Kernel.Made number limits metadata session.fresh kernel := by
  unfold spawn at h
  split at h
  · cases h
  · rename_i hmake
    cases h
    exact Kernel.make_ok hmake

/-- The kernel belongs to the program, and has the metadata for which its name stands there. -/
structure MadeOf (number : Nat) (program : Program) (name : String) (kernel : Kernel) : Prop where
  program_eq : kernel.program = number
  resolve_eq : program.builds.resolve name = .ok kernel.metadata

theorem spawnNamed_made {number : Nat} {program : Program} {name : String} {kernel : Kernel}
    (h : session.spawnNamed number program name = .ok (session', kernel)) :
    MadeOf number program name kernel := by
  unfold spawnNamed at h
  split at h
  · cases h
  · rename_i hresolve
    have hmade := spawn_made h
    exact ⟨hmade.program_eq, by rw [hresolve, hmade.metadata_eq]⟩

theorem spawnAll_ok {number : Nat} {program : Program} (names : List String) :
    ∀ {session session' : Session} {kernels : List Kernel},
      session.spawnAll number program names = (session', .ok kernels) →
        kernels.length = names.length ∧ ∀ (i : Nat) (name : String) (kernel : Kernel),
          names[i]? = some name → kernels[i]? = some kernel →
            MadeOf number program name kernel := by
  induction names with
  | nil =>
    intro session session' kernels h
    cases h
    exact ⟨rfl, nofun⟩
  | cons first rest ih =>
    intro session session' kernels h
    simp only [spawnAll] at h
    split at h
    · cases h
    · rename_i hfirst
      split at h
      · cases h
      · rename_i hrest
        cases h
        obtain ⟨hlength, hmade⟩ := ih hrest
        refine ⟨congrArg (· + 1) hlength, fun i name kernel hname hkernel => ?_⟩
        cases i with
        | zero =>
          cases hname
          cases hkernel
          exact spawnNamed_made hfirst
        | succ i => exact hmade i name kernel hname hkernel

theorem spawnProgram_ok {number : Nat} {program : Program} {kernels : List Kernel}
    (h : session.spawnProgram number program = (session', .ok kernels)) :
    kernels.length = program.builds.kernelNames.length ∧
      ∀ (i : Nat) (name : String) (kernel : Kernel), program.builds.kernelNames[i]? = some name →
        kernels[i]? = some kernel → MadeOf number program name kernel := by
  unfold spawnProgram at h
  split at h
  · cases h
  · exact spawnAll_ok _ h

/-! ## Making and releasing kernels -/

theorem Unchanged.kernels_eq (h : session.Unchanged session') :
    session'.kernels = session.kernels := by
  rw [h.eq]

theorem kernels_spawnAll {number : Nat} {program : Program} (names : List String) :
    ∀ {session session' : Session} {result : Except KernelFault (List Kernel)},
      session.spawnAll number program names = (session', result) →
        session'.kernels = session.kernels := by
  induction names with
  | nil =>
    intro session session' result h
    cases h
    rfl
  | cons name rest ih =>
    intro session session' result h
    simp only [spawnAll] at h
    split at h
    · cases h
      rfl
    · rename_i made kernel hmade
      have hkernels : made.kernels = session.kernels := (spawnNamed_ok hmade).kernels_eq
      split at h <;> rename_i hrest <;> cases h <;> exact (ih hrest).trans hkernels

theorem kernels_spawnProgram {number : Nat} {program : Program}
    {result : Except KernelFault (List Kernel)}
    (h : session.spawnProgram number program = (session', result)) :
    session'.kernels = session.kernels := by
  unfold spawnProgram at h
  split at h
  · cases h
    rfl
  · exact kernels_spawnAll _ h

theorem kernels_releaseAll (kernels : List Kernel) :
    ∀ session : Session, (session.releaseAll kernels).kernels = session.kernels := by
  induction kernels with
  | nil => intro session; rfl
  | cons kernel rest ih => intro session; exact ih (session.release kernel)

/-! ## Storing kernels -/

/-- The handles for all kernels of a program differ. -/
theorem eq_of_numbered {base : String} {i j : Nat}
    (h : base ++ toString i = base ++ toString j) : i = j := by
  have hdigits := (String.append_right_inj base).1 h
  rw [Nat.toString_eq_ofList_toDigits, Nat.toString_eq_ofList_toDigits,
    String.ofList_inj] at hdigits
  rw [← Nat.ofDigitChars_ten_toDigits (n := i), hdigits, Nat.ofDigitChars_ten_toDigits]

theorem programs_storeKernels (base : String) (kernels : List Kernel) :
    ∀ (session : Session) (index : Nat),
      (session.storeKernels base index kernels).1.programs = session.programs := by
  induction kernels with
  | nil => intro session index; rfl
  | cons kernel rest ih =>
    intro session index
    exact ih (session.storeKernel (base ++ toString index) kernel) (index + 1)

theorem find?_storeKernels {handle base : String} (kernels : List Kernel) :
    ∀ (session : Session) (index : Nat),
      (∀ i : Nat, index ≤ i → i < index + kernels.length → handle ≠ base ++ toString i) →
        (session.storeKernels base index kernels).1.kernels.find? handle =
          session.kernels.find? handle := by
  induction kernels with
  | nil => intro session index _; rfl
  | cons kernel rest ih =>
    intro session index hne
    rw [List.length_cons] at hne
    have hrest := ih (session.storeKernel (base ++ toString index) kernel) (index + 1)
      fun i hi hlt => hne i (by omega) (by omega)
    simp only [storeKernels]
    rw [hrest]
    exact session.kernels.find?_insert_of_ne kernel (hne index (by omega) (by omega))

theorem find?_storeKernels_getElem (base : String) (kernels : List Kernel) :
    ∀ (session : Session) (index i : Nat) (kernel : Kernel), kernels[i]? = some kernel →
      (session.storeKernels base index kernels).1.kernels.find? (base ++ toString (index + i)) =
        some kernel := by
  induction kernels with
  | nil => intro session index i kernel h; cases h
  | cons first rest ih =>
    intro session index i kernel h
    simp only [storeKernels]
    cases i with
    | zero =>
      -- The kernels stored afterwards have other handles.
      cases h
      rw [find?_storeKernels rest _ _ fun j hj _ heq => ?_]
      · exact session.kernels.find?_insert_self _ _
      · have := eq_of_numbered heq
        omega
    | succ i =>
      have hrest := ih (session.storeKernel (base ++ toString index) first) (index + 1) i kernel h
      rwa [show index + 1 + i = index + (i + 1) by omega] at hrest

/-- The kernels that give way were under the handles that are taken over. -/
theorem mem_storeKernels {base : String} {kernel : Kernel} (kernels : List Kernel) :
    ∀ (session : Session) (index : Nat), kernel ∈ (session.storeKernels base index kernels).2 →
      ∃ i, index ≤ i ∧ i < index + kernels.length ∧
        session.kernels.find? (base ++ toString i) = some kernel := by
  induction kernels with
  | nil => intro session index h; cases h
  | cons first rest ih =>
    intro session index h
    rw [List.length_cons]
    rcases List.mem_append.1 h with h | h
    · exact ⟨index, by omega, by omega, Option.mem_toList.1 h⟩
    · obtain ⟨i, hi, hlt, hfind⟩ := ih _ _ h
      refine ⟨i, by omega, by omega, ?_⟩
      rw [← hfind]
      refine (session.kernels.find?_insert_of_ne first fun heq => ?_).symm
      have := eq_of_numbered heq
      omega

theorem find?_install (session : Session) (handle : String) (kernel : Kernel) :
    (session.install handle kernel).1.kernels.find? handle = some kernel := by
  rw [install, kernels_releaseAll]
  exact session.kernels.find?_insert_self handle kernel

theorem find?_install_of_ne {handle target : String} (h : handle ≠ target)
    (session : Session) (kernel : Kernel) :
    (session.install target kernel).1.kernels.find? handle = session.kernels.find? handle := by
  rw [install, kernels_releaseAll]
  exact session.kernels.find?_insert_of_ne kernel h

theorem find?_installAll {base : String} {kernels : List Kernel} {index : Nat} {kernel : Kernel}
    (h : kernels[index]? = some kernel) (session : Session) :
    (session.installAll base kernels).1.kernels.find? (base ++ toString index) = some kernel := by
  have hstored := find?_storeKernels_getElem base kernels session 0 index kernel h
  rw [Nat.zero_add] at hstored
  rw [installAll, kernels_releaseAll]
  exact hstored

theorem find?_installAll_of_ne {handle base : String} {kernels : List Kernel}
    (h : ∀ index < kernels.length, handle ≠ base ++ toString index) (session : Session) :
    (session.installAll base kernels).1.kernels.find? handle = session.kernels.find? handle := by
  rw [installAll, kernels_releaseAll]
  exact find?_storeKernels kernels session 0 fun index _ hlt => h index (by omega)

/-- The request puts another kernel under the handle, or drops the one there. -/
def Replaces (session : Session) (handle : String) : Command → Prop
  | .create _ _ target | .createFrom _ _ target | .copy _ target | .dropKernel target =>
    handle = target
  | .createAll program base => ∃ number found index,
    session.program? program = some (number, found) ∧
      index < found.builds.kernelNames.length ∧ handle = base ++ toString index
  | _ => False

end Session

end KernelBinding
