import KernelBinding.Proofs.KernelNames
import KernelBinding.Proofs.LiveCount
import KernelBinding.Proofs.Resolution

/-!
# KernelBinding.Proofs.AllKernels

Making all kernels of a program. They are made one by one in the order of their names, and the first
that cannot be made ends the attempt. Whether a kernel can be made depends on the program and the
name only (`obstacle?_congr`), so an attempt at all of them goes as the single attempts would.

* `make_error_congr`   — metadata that make no kernel make none later, for the same reason.
* `faultOf_spawnAll`   — several kernels are made unless there is an obstacle to one of them, and
  the first obstacle is the fault.
* `live_spawnAll`      — each kernel that is made counts.
* `spawnNamed_exposed` — a name that some executable has is not unknown.
* `spawnProgram_spawnsAll` — what making all kernels of a program comes to.
-/

namespace KernelBinding

/-! ## Single kernels -/

namespace Kernel

variable {program : Nat} {limits : Limits} {metadata : Metadata} {fresh : Nat} {fault : KernelFault}

theorem make_error_congr (h : make program limits metadata fresh = .error fault) (fresh' : Nat) :
    make program limits metadata fresh' = .error fault := by
  unfold make at h ⊢
  split at h
  · rename_i hdecls
    simpa only [hdecls] using h
  · rename_i hdecls
    split at h
    · rename_i hplaced
      simpa only [hdecls, hplaced] using h
    · rename_i hplaced
      split at h
      · rename_i hsamplers
        simpa only [hdecls, hplaced, allocate_eq_error.2 (allocate_eq_error.1 hsamplers)] using h
      · rename_i samplers hsamplers
        split at h
        · rename_i hbuffers
          obtain ⟨samplers', hsamplers'⟩ : ∃ samplers',
              allocate LiteralSampler.sampler fresh' metadata.literalSamplers = .ok samplers' :=
            exists_allocate_eq_ok.2 (exists_allocate_eq_ok.1 ⟨samplers, hsamplers⟩)
          simpa only [hdecls, hplaced, hsamplers',
            allocate_eq_error.2 (allocate_eq_error.1 hbuffers)] using h
        · cases h

theorem make_error_cases (h : make program limits metadata fresh = .error fault) :
    (∃ reason, fault = .malformedMetadata reason) ∨ ∃ cause, fault = .outOfResources cause := by
  unfold make at h
  split at h
  · cases h
    exact .inl ⟨_, rfl⟩
  · split at h
    · cases h
      exact .inl ⟨_, rfl⟩
    · split at h
      · cases h
        exact .inl ⟨_, rfl⟩
      · split at h
        · cases h
          exact .inr ⟨_, rfl⟩
        · cases h

end Kernel

/-- The fault in a result, if it is one. -/
def faultOf {α : Type} : Except KernelFault α → Option KernelFault
  | .error fault => some fault
  | .ok _ => none

theorem faultOf_eq_some {α : Type} {result : Except KernelFault α} {fault : KernelFault} :
    faultOf result = some fault ↔ result = .error fault := by
  cases result <;> simp [faultOf]

theorem faultOf_eq_none {α : Type} {result : Except KernelFault α} :
    faultOf result = none ↔ ∃ value, result = .ok value := by
  cases result <;> simp [faultOf]

namespace Session

/-- Why a kernel of a program cannot be made, if it cannot. -/
def obstacle? (session : Session) (number : Nat) (program : Program) (name : String) :
    Option KernelFault :=
  faultOf (session.spawnNamed number program name)

variable {session session' : Session} {number : Nat} {program : Program} {name : String}
  {fault : KernelFault}

theorem spawnNamed_error_congr (h : session.spawnNamed number program name = .error fault)
    (other : Session) : other.spawnNamed number program name = .error fault := by
  unfold spawnNamed at h ⊢
  split at h
  · rename_i hresolve
    simpa only [hresolve] using h
  · unfold spawn at h
    split at h
    · rename_i hmake
      simp only [spawn, Kernel.make_error_congr hmake other.fresh]
      exact h
    · cases h

theorem obstacle?_congr (session other : Session) (number : Nat) (program : Program) :
    session.obstacle? number program = other.obstacle? number program := by
  funext name
  refine Option.ext fun fault => ?_
  simp only [obstacle?, faultOf_eq_some]
  exact ⟨fun h => spawnNamed_error_congr h other, fun h => spawnNamed_error_congr h session⟩

/-- What an executable has is neither unknown nor without an executable, though it may have failed
to compile, differ between devices or be unsound. -/
theorem spawnNamed_exposed (hname : program.builds.Exposes name)
    (h : session.spawnNamed number program name = .error fault) :
    fault ≠ .invalidProgramExecutable ∧ ∀ other, fault ≠ .invalidKernelName other := by
  unfold spawnNamed at h
  split at h
  · rename_i hresolve
    cases h
    have hentries : program.builds.entries name ≠ [] := by
      obtain ⟨build, hbuild, hmem⟩ := BuildTable.exposes_iff.1 hname
      obtain ⟨entry, hentry⟩ := (NameTable.mem_names_iff _).1 hmem
      exact List.ne_nil_of_mem (List.mem_filterMap.2 ⟨build, hbuild, hentry⟩)
    rcases BuildTable.resolve_eq_error.1 hresolve with ⟨-, hnone⟩ | ⟨-, -, hnone⟩ | hearliest
    · exact absurd hnone (BuildTable.executables_ne_nil hentries)
    · exact absurd hnone hentries
    · obtain ⟨before, entry, after, -, hoffence, -⟩ := hearliest
      cases hoffence <;> exact ⟨nofun, nofun⟩
  · unfold spawn at h
    split at h
    · rename_i hmake
      cases h
      rcases Kernel.make_error_cases hmake with ⟨reason, rfl⟩ | ⟨cause, rfl⟩ <;>
        exact ⟨nofun, nofun⟩
    · cases h

/-! ## Several kernels -/

/-- The kernels made before do not matter: the obstacles are those that `start` has. -/
theorem faultOf_spawnAll (start : Session) (names : List String) : ∀ session : Session,
    faultOf (session.spawnAll number program names).2 =
      names.findSome? (start.obstacle? number program) := by
  induction names with
  | nil => intro session; rfl
  | cons name rest ih =>
    intro session
    have hfirst : start.obstacle? number program name =
        faultOf (session.spawnNamed number program name) :=
      congrFun (obstacle?_congr start session number program) name
    rw [List.findSome?_cons, hfirst]
    simp only [spawnAll]
    cases session.spawnNamed number program name with
    | error fault => rfl
    | ok made =>
      have hrest := ih made.1
      simp only [faultOf]
      rw [← hrest]
      rcases made.1.spawnAll number program rest with ⟨after, _ | kernels⟩ <;> rfl

theorem live_spawnNamed {kernel : Kernel} (hnumber : number < session.programs.length)
    (h : session.spawnNamed number program name = .ok (session', kernel)) :
    session'.live number = session.live number + 1 ∧
      session'.programs.length = session.programs.length := by
  have hprogram := (spawnNamed_made h).program_eq
  have hprograms := (spawnNamed_ok h).programs_eq
  constructor
  · rw [live_congr hprograms, live_attach (hprogram ▸ hnumber), if_pos hprogram]
  · rw [hprograms, length_programs_attach]

theorem live_spawnAll (names : List String) : ∀ {session session' : Session}
    {kernels : List Kernel}, number < session.programs.length →
      session.spawnAll number program names = (session', .ok kernels) →
        session'.live number = session.live number + .ofNat names.length := by
  induction names with
  | nil =>
    intro session session' kernels _ h
    cases h
    exact (UInt32.add_zero _).symm
  | cons name rest ih =>
    intro session session' kernels hnumber h
    simp only [spawnAll] at h
    split at h
    · cases h
    · rename_i made kernel hmade
      split at h
      · cases h
      · rename_i hrest
        cases h
        obtain ⟨hlive, hlength⟩ := live_spawnNamed hnumber hmade
        rw [ih (hlength ▸ hnumber) hrest, hlive, List.length_cons, UInt32.ofNat_add,
          UInt32.add_assoc, UInt32.add_comm 1]
        rfl

/-! ## All kernels -/

/-- What making all kernels of a program comes to, by what making each of them alone would. -/
structure SpawnsAll (session : Session) (number : Nat) (program : Program) (names : List String) :
    Prop where
  mem_names : ∀ name, name ∈ names ↔ program.builds.Exposes name
  /-- In particular no name is there twice. -/
  ascending : names.Pairwise Precedes
  succeeds_iff :
    (∃ made kernels, session.spawnProgram number program = (made, .ok kernels)) ↔
      ∀ name, program.builds.Exposes name →
        ∃ made kernel, session.spawnNamed number program name = .ok (made, kernel)
  success : ∀ made kernels, session.spawnProgram number program = (made, .ok kernels) →
    kernels.length = names.length ∧
      (∀ (i : Nat) (name : String) (kernel : Kernel), names[i]? = some name →
        kernels[i]? = some kernel → MadeOf number program name kernel) ∧
      made.live number = session.live number + .ofNat names.length
  /-- The fault is that of the smallest name whose kernel cannot be made. -/
  failure : ∀ failed fault, session.spawnProgram number program = (failed, .error fault) →
    (∃ name ∈ names, session.spawnNamed number program name = .error fault ∧
      ∀ smaller ∈ names, Precedes smaller name →
        ∃ made kernel, session.spawnNamed number program smaller = .ok (made, kernel)) ∧
      fault ≠ .invalidProgramExecutable ∧ (∀ name, fault ≠ .invalidKernelName name) ∧
      failed.live number = session.live number

theorem spawnProgram_eq (h : ∃ name, program.builds.Exposes name) :
    session.spawnProgram number program =
      session.spawnAll number program program.builds.kernelNames := by
  obtain ⟨name, hname⟩ := h
  unfold spawnProgram
  split
  · rename_i hnil
    have hmem := BuildTable.mem_kernelNames.2 hname
    rw [hnil] at hmem
    cases hmem
  · rfl

theorem obstacle?_eq_none : session.obstacle? number program name = none ↔
    ∃ made kernel, session.spawnNamed number program name = .ok (made, kernel) := by
  rw [obstacle?, faultOf_eq_none, Prod.exists]

/-- Making all kernels of a program succeeds just when each of them can be made alone. Then there is
one kernel for each name, in the order of the names, and each of them counts. Otherwise the fault is
that of the smallest name for which there is one, and no kernel more is alive than before. -/
theorem spawnProgram_spawnsAll (hprogram : session.programs[number]? = some program)
    (hname : ∃ name, program.builds.Exposes name) :
    session.SpawnsAll number program program.builds.kernelNames := by
  have hspawn : session.spawnProgram number program = _ := spawnProgram_eq hname
  have hfault : faultOf (session.spawnProgram number program).2 =
      program.builds.kernelNames.findSome? (session.obstacle? number program) :=
    hspawn ▸ faultOf_spawnAll session program.builds.kernelNames session
  obtain ⟨hnumber, -⟩ := List.getElem?_eq_some_iff.1 hprogram
  refine ⟨fun name => BuildTable.mem_kernelNames, BuildTable.pairwise_kernelNames _, ?_, ?_, ?_⟩
  · have hnone : (∃ made kernels, session.spawnProgram number program = (made, .ok kernels)) ↔
        faultOf (session.spawnProgram number program).2 = none := by
      rw [faultOf_eq_none]
      rcases session.spawnProgram number program with ⟨made, _ | kernels⟩ <;> simp
    rw [hnone, hfault, List.findSome?_eq_none_iff]
    simp only [BuildTable.mem_kernelNames, obstacle?_eq_none]
  · intro made kernels h
    obtain ⟨hlength, hmade⟩ := spawnProgram_ok h
    exact ⟨hlength, hmade, live_spawnAll _ hnumber (hspawn ▸ h)⟩
  · intro failed fault h
    have hsome : faultOf (session.spawnProgram number program).2 = some fault := by
      rw [h]
      rfl
    rw [hfault, List.findSome?_eq_some_iff] at hsome
    obtain ⟨before, name, after, hnames, hobstacle, hbefore⟩ := hsome
    have hmem : name ∈ program.builds.kernelNames := by simp [hnames]
    have herror := faultOf_eq_some.1 hobstacle
    obtain ⟨hexec, hunknown⟩ := spawnNamed_exposed (BuildTable.mem_kernelNames.1 hmem) herror
    refine ⟨⟨name, hmem, herror, fun smaller hsmaller hprecedes => ?_⟩, hexec, hunknown, ?_⟩
    · -- The names ascend, so the smaller ones are those before.
      have hascending := BuildTable.pairwise_kernelNames program.builds
      rw [hnames] at hascending hsmaller
      obtain ⟨-, hrest, -⟩ := List.pairwise_append.1 hascending
      rcases List.mem_append.1 hsmaller with hsmaller | hsmaller
      · exact obstacle?_eq_none.1 (hbefore smaller hsmaller)
      · rcases List.mem_cons.1 hsmaller with rfl | hsmaller
        · exact absurd hprecedes (Precedes.irrefl smaller)
        · exact absurd hprecedes (List.rel_of_pairwise_cons hrest hsmaller).asymm
    · exact live_congr (unchanged_spawnProgram h).programs_eq number

/-- A program with two kernels alive. Two of its executables' kernels cannot be made, and a third
device has a library. -/
def patchy : Program where
  limits := {}
  builds := [
    (⟨0, "d"⟩, some ⟨.success, .executable, .ofList [("ébène", none),
      ("beta", some (.ofItems "beta" [.inlineConstant []])),
      ("alpha", some (.ofItems "alpha" [.inlineConstant [1]]))]⟩),
    (⟨1, "d"⟩, some { Build.executable [.ofItems "aleph" []] with binary := .library }),
    (⟨2, "d"⟩, some (.executable [.ofItems "gamma" [], .ofItems "alpha" [.inlineConstant [2]]]))]
  live := 2

/-- The kernel before the first obstacle is made and released again. Without the device that has the
obstacles both kernels are made. -/
theorem patchy_spawnsAll :
    patchy.builds.kernelNames = ["alpha", "beta", "gamma", "ébène"] ∧
      SpawnsAll { programs := [patchy] } 0 patchy patchy.builds.kernelNames ∧
      (∃ failed, spawnProgram { programs := [patchy] } 0 patchy =
        (failed, .error (.outOfResources (.invalidSize 0))) ∧ failed.live 0 = 2) ∧
      ∃ made kernels, let rest := { patchy with builds := patchy.builds.tail }
        spawnProgram { programs := [rest] } 0 rest = (made, .ok kernels) ∧
          kernels.map (·.name) = ["alpha", "gamma"] ∧ made.live 0 = 4 := by
  refine ⟨rfl, spawnProgram_spawnsAll rfl ⟨"gamma", ?_⟩, ⟨_, rfl, rfl⟩, ⟨_, _, rfl, rfl, rfl⟩⟩
  exact BuildTable.mem_kernelNames.1 (by decide)

end Session

end KernelBinding
