import KernelBinding.Proofs.Frame
import KernelBinding.Proofs.LiveCount

/-!
# KernelBinding.Proofs.Rebuild

A program is not rebuilt while it has kernels. As its count is exact, a kernel that is alive keeps
what its program was built into as it was when the kernel was made: the name it was made for still
stands for its metadata, and for those of its copies, even when the kernel itself is gone.

* `builds?_step_of_ne`, `builds?_step` — a request leaves alone what another program, or one with
  kernels, was built into.
* `current_of_madeFor`   — so the name a kernel was made for stands for its metadata.
* `rebuild_guards_kernels` — with the conditions under which a program is rebuilt.
-/

namespace KernelBinding

namespace Session

variable {session session' : Session} {number : Nat}

/-- What the program of this number was built into for each of its devices. -/
def builds? (session : Session) (number : Nat) : Option BuildTable :=
  (session.programs[number]?).map (·.builds)

/-- The kernel under the handle has the metadata for which the name stands in its program now. -/
def Current (session : Session) (number : Nat) (name handle : String) : Prop :=
  ∃ kernel builds, session.kernels.find? handle = some kernel ∧ kernel.program = number ∧
    session.builds? number = some builds ∧ builds.resolve name = .ok kernel.metadata

/-! ## Requests and builds -/

theorem builds?_congr (h : session'.programs = session.programs) :
    session'.builds? number = session.builds? number := by
  rw [builds?, builds?, h]

theorem builds?_modify {f : Program → Program} (hf : ∀ program, (f program).builds = program.builds)
    (session : Session) (of : Nat) :
    { session with programs := session.programs.modify of f }.builds? number =
      session.builds? number := by
  unfold builds?
  rw [List.getElem?_modify]
  cases session.programs[number]? with
  | none => rfl
  | some program => by_cases h : of = number <;> simp [h, hf]

theorem builds?_attach (session : Session) (kernel : Kernel) :
    (session.attach kernel).builds? number = session.builds? number :=
  builds?_modify (f := Program.attach) (fun _ => rfl) session kernel.program

theorem builds?_release (session : Session) (kernel : Kernel) :
    (session.release kernel).builds? number = session.builds? number :=
  builds?_modify (f := Program.detach) (fun _ => rfl) session kernel.program

theorem builds?_releaseAll (kernels : List Kernel) : ∀ session : Session,
    (session.releaseAll kernels).builds? number = session.builds? number := by
  induction kernels with
  | nil => intro session; rfl
  | cons kernel rest ih =>
    intro session
    exact (ih (session.release kernel)).trans (builds?_release session kernel)

theorem builds?_made {kernel : Kernel} (h : (session.attach kernel).Unchanged session') :
    session'.builds? number = session.builds? number :=
  (builds?_congr h.programs_eq).trans (builds?_attach session kernel)

theorem builds?_spawnAll {of : Nat} {program : Program} (names : List String) :
    ∀ {session session' : Session} {result : Except KernelFault (List Kernel)},
      session.spawnAll of program names = (session', result) →
        session'.builds? number = session.builds? number := by
  induction names with
  | nil =>
    intro session session' result h
    cases h
    rfl
  | cons name rest ih =>
    intro session session' result h
    simp only [spawnAll] at h
    split at h
    · cases h
      rfl
    · rename_i made kernel hmade
      have hfirst : made.builds? number = session.builds? number :=
        builds?_made (spawnNamed_ok hmade)
      split at h
      · rename_i hfailed
        cases h
        exact (builds?_release _ _).trans ((ih hfailed).trans hfirst)
      · rename_i hrest
        cases h
        exact (ih hrest).trans hfirst

theorem builds?_spawnProgram {of : Nat} {program : Program}
    {result : Except KernelFault (List Kernel)}
    (h : session.spawnProgram of program = (session', result)) :
    session'.builds? number = session.builds? number := by
  unfold spawnProgram at h
  split at h
  · cases h
    rfl
  · exact builds?_spawnAll _ h

theorem builds?_install (session : Session) (handle : String) (kernel : Kernel) :
    (session.install handle kernel).1.builds? number = session.builds? number :=
  builds?_releaseAll _ (session.storeKernel handle kernel)

theorem builds?_installAll (session : Session) (base : String) (kernels : List Kernel) :
    (session.installAll base kernels).1.builds? number = session.builds? number :=
  (builds?_releaseAll _ _).trans (builds?_congr (programs_storeKernels base kernels session 0))

theorem builds?_addProgram {handle : String} {program : Program} {builds : BuildTable}
    (h : session.builds? number = some builds) :
    (session.addProgram handle program).builds? number = some builds := by
  obtain ⟨found, hfound, heq⟩ := Option.map_eq_some_iff.1 h
  obtain ⟨hlt, _⟩ := List.getElem?_eq_some_iff.1 hfound
  rw [builds?, addProgram, List.getElem?_append_left hlt]
  exact h

/-- Only a request to rebuild a program changes what it was built into. -/
theorem builds?_step_of_ne {builds : BuildTable} (h : session.builds? number = some builds)
    {command : Command}
    (hne : ∀ handle device build of program program', command = .rebuild handle device build →
      session.program? handle = some (of, program) →
        program.rebuild device build = .ok program' → of ≠ number) :
    (session.step command).1.builds? number = some builds := by
  have heffect := session.effect_step command
  generalize (session.step command).1 = session' at heffect ⊢
  cases heffect with
  | none hprograms _ => exact (builds?_congr hprograms).trans h
  | program => exact builds?_addProgram h
  | rebuild hfound hrebuild =>
    rw [builds?, List.getElem?_set_ne (hne _ _ _ _ _ _ rfl hfound hrebuild)]
    exact h
  | create _ hmade =>
    exact (builds?_install ..).trans ((builds?_made (spawnNamed_ok hmade)).trans h)
  | createFrom _ hmade => exact (builds?_install ..).trans ((builds?_made (spawn_ok hmade)).trans h)
  | createAll _ hmade => exact (builds?_installAll ..).trans ((builds?_spawnProgram hmade).trans h)
  | createNone _ hfailed => exact (builds?_spawnProgram hfailed).trans h
  | copy _ => exact (builds?_install ..).trans ((builds?_attach ..).trans h)
  | set _ _ => exact h
  | drop _ => exact (builds?_release ..).trans h

/-- While a program has kernels, no request changes what it was built into. -/
theorem builds?_step {builds : BuildTable} (hlive : session.live number ≠ 0)
    (h : session.builds? number = some builds) (command : Command) :
    (session.step command).1.builds? number = some builds := by
  refine builds?_step_of_ne h ?_
  -- A program with kernels is not rebuilt, so the one that is rebuilt is another.
  rintro handle device build of program program' rfl hfound hrebuild rfl
  have hcount : session.live of = program.live := by
    rw [live, getElem?_of_program? hfound]
    rfl
  exact hlive (hcount.trans (Program.rebuild_ok hrebuild).1)

/-! ## Kernels made by name -/

theorem Unchanged.current {name handle : String} (h : session.Unchanged session')
    (hcurrent : session.Current number name handle) : session'.Current number name handle := by
  rw [Current, h.kernels_eq, builds?_congr h.programs_eq]
  exact hcurrent

theorem current_step {name handle : String} {command : Command}
    (hexact : Moment.Exact ⟨session, []⟩) (hkeep : ¬ session.Replaces handle command)
    (h : session.Current number name handle) :
    (session.step command).1.Current number name handle := by
  obtain ⟨kernel, builds, hkernel, hprogram, hbuilds, hresolve⟩ := h
  obtain ⟨kernel', hkernel', hprogram', hmetadata'⟩ := exists_kernel_step hkernel hkeep
  -- The kernel itself is counted, so its program is not rebuilt.
  have halive : kernel ∈ Moment.kernels ⟨session, []⟩ :=
    List.mem_append_left _ (session.kernels.mem_values_iff.2 ⟨handle, hkernel⟩)
  have hlive : session.live number ≠ 0 := by
    have hpos := hexact.pos kernel halive
    rw [hprogram] at hpos
    rintro hzero
    rw [hzero] at hpos
    exact absurd hpos (by decide)
  exact ⟨kernel', builds, hkernel', hprogram'.trans hprogram, builds?_step hlive hbuilds command,
    hmetadata' ▸ hresolve⟩

/-- A request that was refused keeps the name of a kernel. -/
theorem current_refused {name handle : String} {command : Command} {refusal : Refusal}
    (hrefused : (session.step command).2 = .error refusal)
    (h : session.Current number name handle) :
    (session.step command).1.Current number name handle :=
  keeps_step h (fun _ _ _ _ hunchanged => hunchanged.current h) refusal hrefused

theorem builds?_of_program? {handle : String} {program : Program}
    (h : session.program? handle = some (number, program)) :
    session.builds? number = some program.builds := by
  rw [builds?, getElem?_of_program? h]
  rfl

theorem current_create {program name handle : String} {found : Program} {reply : Reply}
    (hfound : session.program? program = some (number, found))
    (hok : (session.step (.create program name handle)).2 = .ok reply) :
    (session.step (.create program name handle)).1.Current number name handle := by
  simp only [step, withProgram, hfound] at hok ⊢
  split at hok
  · cases hok
  · rename_i made kernel hmade
    obtain ⟨hprogram, hresolve⟩ := spawnNamed_made hmade
    refine ⟨kernel, found.builds, find?_install made handle kernel, hprogram, ?_, hresolve⟩
    rw [builds?_install, builds?_made (spawnNamed_ok hmade), builds?_of_program? hfound]

theorem current_createAll {program base name : String} {index : Nat} {found : Program}
    {reply : Reply} (hfound : session.program? program = some (number, found))
    (hname : found.builds.kernelNames[index]? = some name)
    (hok : (session.step (.createAll program base)).2 = .ok reply) :
    (session.step (.createAll program base)).1.Current number name (base ++ toString index) := by
  simp only [step, withProgram, hfound] at hok ⊢
  split at hok
  · cases hok
  · rename_i made kernels hmade
    obtain ⟨hlength, hall⟩ := spawnProgram_ok hmade
    obtain ⟨hlt, _⟩ := List.getElem?_eq_some_iff.1 hname
    have hkernel : kernels[index]? = some kernels[index] := List.getElem?_eq_getElem (hlength ▸ hlt)
    obtain ⟨hprogram, hresolve⟩ := hall index name _ hname hkernel
    refine ⟨_, found.builds, find?_installAll hkernel made, hprogram, ?_, hresolve⟩
    rw [builds?_installAll, builds?_spawnProgram hmade, builds?_of_program? hfound]

/-- A copy has the metadata of the kernel it was made from. -/
theorem current_copy {source name : String} (h : session.Current number name source)
    (handle : String) : (session.step (.copy source handle)).1.Current number name handle := by
  obtain ⟨kernel, builds, hkernel, hprogram, hbuilds, hresolve⟩ := h
  simp only [step, withKernel, hkernel, copy]
  refine ⟨kernel, builds, find?_install _ handle kernel, hprogram, ?_, hresolve⟩
  rw [builds?_install, builds?_attach, hbuilds]

/-- There were always fewer kernels than a counter can tell apart. -/
def FewKernels (commands : List Command) : Prop :=
  ∀ before, before <+: commands → (run {} before).1.kernels.values.length < UInt32.size

/-- After the requests the handle stands for a kernel that was made for the name in the program of
this number, or for a copy of such a kernel, over any number of copies. -/
inductive MadeFor (number : Nat) (name : String) : List Command → String → Prop
  | create {commands : List Command} {program handle : String} {found : Program} {reply : Reply} :
      (run {} commands).1.program? program = some (number, found) →
        ((run {} commands).1.step (.create program name handle)).2 = .ok reply →
          MadeFor number name (commands ++ [.create program name handle]) handle
  | createAll {commands : List Command} {program base : String} {index : Nat} {found : Program}
      {reply : Reply} :
      (run {} commands).1.program? program = some (number, found) →
        found.builds.kernelNames[index]? = some name →
          ((run {} commands).1.step (.createAll program base)).2 = .ok reply →
            MadeFor number name (commands ++ [.createAll program base]) (base ++ toString index)
  | copy {commands : List Command} {source : String} (handle : String) :
      MadeFor number name commands source →
        MadeFor number name (commands ++ [.copy source handle]) handle
  | keep {commands : List Command} {handle : String} {command : Command} :
      MadeFor number name commands handle → ¬ (run {} commands).1.Replaces handle command →
        MadeFor number name (commands ++ [command]) handle
  | refused {commands : List Command} {handle : String} {command : Command} {refusal : Refusal} :
      MadeFor number name commands handle →
        ((run {} commands).1.step command).2 = .error refusal →
          MadeFor number name (commands ++ [command]) handle

theorem FewKernels.exact {commands : List Command} (h : FewKernels commands) :
    Moment.Exact ⟨(run {} commands).1, []⟩ := by
  refine (counted_run commands).exact ?_
  rw [Moment.kernels, List.append_nil]
  exact h commands (List.prefix_refl _)

theorem FewKernels.of_append {commands : List Command} {command : Command}
    (h : FewKernels (commands ++ [command])) : FewKernels commands :=
  fun before hbefore => h before (hbefore.trans (List.prefix_append _ _))

theorem current_of_madeFor {name handle : String} {commands : List Command}
    (h : MadeFor number name commands handle) (hfew : FewKernels commands) :
    (run {} commands).1.Current number name handle := by
  induction h with
  | create hfound hok =>
    rw [run_append]
    exact current_create hfound hok
  | createAll hfound hname hok =>
    rw [run_append]
    exact current_createAll hfound hname hok
  | copy handle _ ih =>
    rw [run_append]
    exact current_copy (ih hfew.of_append) handle
  | keep _ hkeep ih =>
    rw [run_append]
    exact current_step hfew.of_append.exact hkeep (ih hfew.of_append)
  | refused _ hrefused ih =>
    rw [run_append]
    exact current_refused hrefused (ih hfew.of_append)

/-! ## Requests to rebuild -/

/-- What becomes of a request to rebuild a program that has `alive` kernels. -/
structure RebuildRule (session : Session) (handle : String) (number : Nat) (program : Program)
    (device : Device) (build : Build) (alive : Nat) : Prop where
  accepted : (∃ reply, (session.step (.rebuild handle device build)).2 = .ok reply) ↔
    alive = 0 ∧ ∃ entry ∈ program.builds, entry.1 = device
  first : ∀ before old after, alive = 0 → program.builds = before ++ (device, old) :: after →
    (∀ entry ∈ before, entry.1 ≠ device) →
      let program' := { program with builds := before ++ (device, some build) :: after }
      session.step (.rebuild handle device build) =
        ({ session with programs := session.programs.set number program' }, .ok .done)
  attached : alive ≠ 0 → ∃ count, count.toNat = alive ∧
    session.step (.rebuild handle device build) =
      (session, .error (.kernel (.kernelsAttached count)))
  unknown : alive = 0 → (∀ entry ∈ program.builds, entry.1 ≠ device) →
    session.step (.rebuild handle device build) =
      (session, .error (.kernel (.unknownDevice device.id)))

theorem step_rebuild_of_error {handle : String} {program : Program} {device : Device}
    {build : Build} {fault : KernelFault} (hfound : session.program? handle = some (number, program))
    (h : program.rebuild device build = .error fault) :
    session.step (.rebuild handle device build) = (session, .error (.kernel fault)) := by
  simp only [step, withProgram, hfound, h, refuse]

theorem step_rebuild_of_ok {handle : String} {program program' : Program} {device : Device}
    {build : Build} (hfound : session.program? handle = some (number, program))
    (h : program.rebuild device build = .ok program') :
    session.step (.rebuild handle device build) =
      ({ session with programs := session.programs.set number program' }, .ok .done) := by
  simp only [step, withProgram, hfound, h]

theorem rebuildRule {handle : String} {program : Program}
    (hfound : session.program? handle = some (number, program)) {alive : Nat}
    (halive : program.live.toNat = alive) (device : Device) (build : Build) :
    RebuildRule session handle number program device build alive := by
  have hattached : alive ≠ 0 → ∃ count, count.toNat = alive ∧
      session.step (.rebuild handle device build) =
        (session, .error (.kernel (.kernelsAttached count))) := by
    intro hne
    have hlive : program.live ≠ 0 := by
      rintro hzero
      rw [hzero] at halive
      exact hne halive.symm
    exact ⟨program.live, halive, step_rebuild_of_error hfound (program.rebuild_of_live hlive _ _)⟩
  have hfree : alive = 0 → program.live = 0 := by
    rintro rfl
    exact UInt32.toNat_inj.1 halive
  have hunknown : alive = 0 → (∀ entry ∈ program.builds, entry.1 ≠ device) →
      session.step (.rebuild handle device build) =
        (session, .error (.kernel (.unknownDevice device.id))) := by
    intro hzero hnone
    refine step_rebuild_of_error hfound ?_
    rw [Program.rebuild_of_not_live (hfree hzero), BuildTable.record?_eq_none.2 hnone]
  refine ⟨⟨?_, ?_⟩, ?_, hattached, hunknown⟩
  · rintro ⟨reply, hok⟩
    by_cases hzero : alive = 0
    · refine ⟨hzero, Classical.byContradiction fun hnone => ?_⟩
      rw [hunknown hzero fun entry hentry heq => hnone ⟨entry, hentry, heq⟩] at hok
      cases hok
    · obtain ⟨_, _, hrefused⟩ := hattached hzero
      rw [hrefused] at hok
      cases hok
  · rintro ⟨hzero, entry, hentry, hdevice⟩
    have hrebuild := Program.rebuild_of_not_live (hfree hzero) device build
    split at hrebuild
    · rename_i hnone
      exact absurd hdevice (BuildTable.record?_eq_none.1 hnone entry hentry)
    · exact ⟨.done, congrArg Prod.snd (step_rebuild_of_ok hfound hrebuild)⟩
  · intro before old after hzero hbuilds hbefore
    refine step_rebuild_of_ok hfound ?_
    rw [Program.rebuild_of_not_live (hfree hzero), hbuilds, BuildTable.record?_append hbefore]

/-- A program is rebuilt if and only if it has no kernels and is for the device, and then only what
it was built into for the first such device changes. So after any requests every kernel that was
made by name has the metadata for which the name stands in its program now, and so have its copies.
-/
theorem rebuild_guards_kernels {commands : List Command} {session : Session}
    (hfew : FewKernels commands) (h : (run {} commands).1 = session) :
    (∀ handle number program device build, session.program? handle = some (number, program) →
      RebuildRule session handle number program device build
        (session.kernels.values.countP (·.program == number))) ∧
    ∀ number name handle, MadeFor number name commands handle →
      session.Current number name handle := by
  subst h
  refine ⟨fun handle number program device build hfound => ?_, fun number name handle hmade =>
    current_of_madeFor hmade hfew⟩
  have hlive := hfew.exact.live_eq number
  rw [live, getElem?_of_program? hfound, Moment.count, Moment.kernels, List.append_nil] at hlive
  exact rebuildRule hfound hlive device build

/-- A kernel is made by name and copied, and only the copy stays. -/
def guarded : List Command :=
  halfSound ++ [.create "p" "first" "k"] ++ [.copy "k" "l"] ++ [.dropKernel "k"]

/-- The copy keeps the program from being rebuilt, and the name standing for its metadata. -/
theorem guarded_rebuild : ∃ session build, (run {} guarded).1 = session ∧ FewKernels guarded ∧
    MadeFor 0 "first" guarded "l" ∧ session.Current 0 "first" "l" ∧
      ∃ count, count.toNat = 1 ∧ session.step (.rebuild "p" ⟨0, "d"⟩ build) =
        (session, .error (.kernel (.kernelsAttached count))) := by
  have hfew : FewKernels guarded := by
    intro before hbefore
    rw [List.prefix_iff_eq_take.1 hbefore]
    have hall : ∀ n < 7, (run {} (guarded.take n)).1.kernels.values.length < UInt32.size := by
      decide
    exact hall _ (Nat.lt_succ_of_le hbefore.length_le)
  have hmade : MadeFor 0 "first" guarded "l" :=
    .keep (.copy "l" (.create rfl rfl)) (by simp [Replaces])
  obtain ⟨hrule, hcurrent⟩ := rebuild_guards_kernels hfew rfl
  have hattached := (hrule "p" 0 _ ⟨0, "d"⟩ (.executable []) rfl).attached (by decide)
  exact ⟨_, _, rfl, hfew, hmade, hcurrent 0 "first" "l" hmade, hattached⟩

end Session

end KernelBinding
