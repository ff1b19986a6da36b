import KernelBinding.Fault
import KernelBinding.Memory.Object
import KernelBinding.Metadata.Basic
import KernelBinding.NameTable

/-!
# KernelBinding.Program.Basic

Programs and what was built from them for each device. A program counts its live kernels and refuses
to be rebuilt while there are any.

* `record?_append`, `record?_eq_none` — a build is recorded for the first entry of its device.
-/

namespace KernelBinding

structure Device where
  id : UInt32
  name : String
  deriving DecidableEq

inductive BuildStatus where
  | none
  | inProgress
  | success
  | error
  deriving DecidableEq

inductive BinaryKind where
  | none
  | compiledObject
  | library
  | executable
  deriving DecidableEq

structure Build where
  status : BuildStatus
  binary : BinaryKind
  /-- The kernels of the binary; one without metadata failed to compile. -/
  kernels : NameTable (Option Metadata)
  deriving DecidableEq

namespace Build

/-- A build that made an executable with these kernels; of two with one name the later stays. -/
def executable (kernels : List Metadata) : Build :=
  ⟨.success, .executable, .ofList (kernels.map fun kernel => (kernel.name, some kernel))⟩

def isExecutable (build : Build) : Bool :=
  build.status == .success && build.binary == .executable

end Build

/-- The devices of a program in the order they were associated with it, each with its last build. -/
abbrev BuildTable := List (Device × Option Build)

/-- Records a build for the first entry of `device`; `none` when there is no such entry. -/
def BuildTable.record? (device : Device) (build : Build) : BuildTable → Option BuildTable
  | [] => none
  | entry :: rest =>
    if entry.1 = device then some ((entry.1, some build) :: rest)
    else (record? device build rest).map (entry :: ·)

/-- Only the first entry of the device changes. -/
theorem BuildTable.record?_append {device : Device} {before : BuildTable}
    (h : ∀ entry ∈ before, entry.1 ≠ device) (old : Option Build) (after : BuildTable)
    (build : Build) : record? device build (before ++ (device, old) :: after) =
      some (before ++ (device, some build) :: after) := by
  induction before with
  | nil => simp [record?]
  | cons entry rest ih =>
    obtain ⟨hentry, hrest⟩ := List.forall_mem_cons.1 h
    simp [record?, hentry, ih hrest]

theorem BuildTable.record?_eq_none {device : Device} {build : Build} {builds : BuildTable} :
    builds.record? device build = none ↔ ∀ entry ∈ builds, entry.1 ≠ device := by
  induction builds with
  | nil => simp [record?]
  | cons entry rest ih => by_cases h : entry.1 = device <;> simp [record?, h, ih]

structure Program where
  /-- The limits of the context it was made in. -/
  limits : Limits
  builds : BuildTable
  /-- Number of live kernels. -/
  live : UInt32 := 0
  deriving DecidableEq

namespace Program

/-- A program that has not been built for any of its devices. -/
def ofDevices (limits : Limits) (devices : List Device) : Program where
  limits := limits
  builds := devices.map fun device => (device, none)

/-- Records the result of a build, unless kernels are alive. -/
def rebuild (program : Program) (device : Device) (build : Build) : Except KernelFault Program :=
  if program.live ≠ 0 then .error (.kernelsAttached program.live)
  else
    match program.builds.record? device build with
    | none => .error (.unknownDevice device.id)
    | some builds => .ok { program with builds }

theorem rebuild_of_live {program : Program} (h : program.live ≠ 0) (device : Device)
    (build : Build) : program.rebuild device build = .error (.kernelsAttached program.live) :=
  if_pos h

theorem rebuild_of_not_live {program : Program} (h : program.live = 0) (device : Device)
    (build : Build) : program.rebuild device build =
      match program.builds.record? device build with
      | none => .error (.unknownDevice device.id)
      | some builds => .ok { program with builds } :=
  if_neg fun hne => hne h

theorem rebuild_ok {program program' : Program} {device : Device} {build : Build}
    (h : program.rebuild device build = .ok program') :
    program.live = 0 ∧ ∃ builds, program.builds.record? device build = some builds ∧
      program' = { program with builds } := by
  unfold rebuild at h
  split at h
  · cases h
  · rename_i hlive
    split at h
    · cases h
    · rename_i builds hrecord
      cases h
      exact ⟨Classical.not_not.1 hlive, builds, hrecord, rfl⟩

/-- Counts a kernel that came into being. -/
def attach (program : Program) : Program :=
  { program with live := program.live + 1 }

/-- Counts a kernel that went away. -/
def detach (program : Program) : Program :=
  { program with live := program.live - 1 }

@[simp] theorem detach_attach (program : Program) : program.attach.detach = program := by
  simp [attach, detach]

end Program

end KernelBinding
