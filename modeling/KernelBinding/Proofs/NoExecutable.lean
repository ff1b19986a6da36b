import KernelBinding.Proofs.AllKernels
import KernelBinding.Proofs.DeviceOrder

/-!
# KernelBinding.Proofs.NoExecutable

When an attempt to make kernels reports that there is no executable. An attempt at one kernel does
so when no device has an executable. An attempt at all kernels does so when no executable has a
kernel, so the two differ for a program whose executables are all empty.

* `spawnNamed_noExecutable`   — one kernel: there is no executable.
* `spawnProgram_noExecutable` — all kernels: there is no name.
* `noExecutable_by_kernels`   — both, and where they agree.
-/

namespace KernelBinding

namespace BuildTable

/-- For some device the program was built into an executable. -/
def HasExecutable (builds : BuildTable) : Prop :=
  ∃ device build, (device, some build) ∈ builds ∧ build.status = .success ∧
    build.binary = .executable

variable {builds : BuildTable}

theorem executables_eq_nil : builds.executables = [] ↔ ¬ builds.HasExecutable := by
  rw [executables, List.filterMap_eq_nil_iff]
  constructor
  · rintro hnone ⟨device, build, hmem, hstatus, hbinary⟩
    have hexec : build.isExecutable = true := by simp [Build.isExecutable, hstatus, hbinary]
    have hfilter := hnone _ hmem
    rw [Option.filter_some, if_pos hexec] at hfilter
    cases hfilter
  · rintro hnone ⟨device, entry⟩ hmem
    rw [Option.eq_none_iff_forall_not_mem]
    intro build hbuild
    obtain ⟨rfl, hexec⟩ := Option.filter_eq_some_iff.1 hbuild
    obtain ⟨hstatus, hbinary⟩ : build.status = .success ∧ build.binary = .executable := by
      simpa [Build.isExecutable] using hexec
    exact hnone ⟨device, build, hmem, hstatus, hbinary⟩

/-- What has a kernel is an executable. -/
theorem Exposes.hasExecutable {name : String} (h : builds.Exposes name) : builds.HasExecutable := by
  obtain ⟨build, hbuild, -⟩ := exposes_iff.1 h
  exact Classical.not_not.1 fun hnone =>
    absurd (executables_eq_nil.2 hnone) (List.ne_nil_of_mem hbuild)

end BuildTable

namespace Session

variable {session : Session} {number : Nat} {program : Program} {name : String}

theorem spawnNamed_noExecutable :
    session.spawnNamed number program name = .error .invalidProgramExecutable ↔
      ¬ program.builds.HasExecutable := by
  have hresolve : program.builds.resolve name = .error .invalidProgramExecutable ↔ _ :=
    BuildTable.resolve_eq_noExecutable
  rw [← BuildTable.executables_eq_nil, ← hresolve]
  unfold spawnNamed
  cases program.builds.resolve name with
  | error fault => simp
  | ok metadata =>
    simp only [reduceCtorEq, iff_false]
    unfold spawn
    split
    · rename_i fault hmake
      rintro ⟨⟩
      rcases Kernel.make_error_cases hmake with ⟨_, h⟩ | ⟨_, h⟩ <;> cases h
    · exact nofun

/-- When there is a name, each fault is that of one of the names, and is another one. -/
theorem spawnProgram_noExecutable :
    (session.spawnProgram number program).2 = .error .invalidProgramExecutable ↔
      ∀ name, ¬ program.builds.Exposes name := by
  constructor
  · intro herr name hname
    rw [spawnProgram_eq ⟨name, hname⟩, ← faultOf_eq_some, faultOf_spawnAll session] at herr
    obtain ⟨other, hmem, hobstacle⟩ := List.exists_of_findSome?_eq_some herr
    have hexposed := spawnNamed_exposed (BuildTable.mem_kernelNames.1 hmem)
      (faultOf_eq_some.1 hobstacle)
    exact hexposed.1 rfl
  · intro hnone
    have hnames : program.builds.kernelNames = [] :=
      List.eq_nil_iff_forall_not_mem.2 fun name hmem =>
        hnone name (BuildTable.mem_kernelNames.1 hmem)
    simp only [spawnProgram, hnames]

/-- An attempt at all kernels reports that there is no executable exactly when no executable has a
kernel, and an attempt at one kernel when there is none. The two agree unless there are executables
and all of them are empty. -/
theorem noExecutable_by_kernels (session : Session) (number : Nat) (program : Program) :
    ((session.spawnProgram number program).2 = .error .invalidProgramExecutable ↔
      ∀ name, ¬ program.builds.Exposes name) ∧
    (∀ name, session.spawnNamed number program name = .error .invalidProgramExecutable ↔
      ¬ program.builds.HasExecutable) ∧
    (((session.spawnProgram number program).2 = .error .invalidProgramExecutable ↔
        ¬ program.builds.HasExecutable) ↔
      (program.builds.HasExecutable → ∃ name, program.builds.Exposes name)) := by
  refine ⟨spawnProgram_noExecutable, fun name => spawnNamed_noExecutable, ?_⟩
  rw [spawnProgram_noExecutable]
  constructor
  · intro hagree hexec
    exact Classical.byContradiction fun hnone =>
      hagree.1 (fun name hname => hnone ⟨name, hname⟩) hexec
  · intro hsome
    refine ⟨fun hnone hexec => ?_, fun hnone name hname => hnone hname.hasExecutable⟩
    obtain ⟨name, hname⟩ := hsome hexec
    exact hnone name hname

/-- A program that was built into an executable without kernels. -/
def hollow : Program where
  limits := {}
  builds := [(⟨0, "d"⟩, some (.executable []))]

/-- There is an executable, as the attempt at one kernel finds; the attempt at all kernels reports
that there is none. -/
theorem hollow_disagrees : hollow.builds.HasExecutable ∧
    (spawnProgram { programs := [hollow] } 0 hollow).2 = .error .invalidProgramExecutable ∧
      spawnNamed { programs := [hollow] } 0 hollow "k" = .error (.invalidKernelName "k") :=
  ⟨⟨_, _, List.mem_singleton_self _, rfl, rfl⟩, rfl, rfl⟩

end Session

end KernelBinding
