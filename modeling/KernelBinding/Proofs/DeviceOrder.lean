import Mathlib.Logic.Relation
import KernelBinding.Metadata.Layout
import KernelBinding.Proofs.Resolution

/-!
# KernelBinding.Proofs.DeviceOrder

Which device comes first decides which metadata a name stands for, and which of several faults is
reported, but not whether there is a kernel of that name, nor what its arguments are. A device
without an executable decides nothing at all.

* `exists_resolve_eq_ok`, `exists_resolve_badEntry` — a name is resolved, or an entry for it is at
  fault, by what the entries are and not by their order.
* `resolve_alike_of_perm` — so tables with the same entries in another order come out alike.
* `resolve_edit`          — and an idle entry may come, go or change.
-/

namespace KernelBinding

/-- The fault is with what some executable says of the kernel. -/
inductive KernelFault.OfEntry : KernelFault → Prop
  | notCompiled (name : String) : OfEntry (.kernelNotCompiled name)
  | definition (name reason : String) : OfEntry (.invalidKernelDefinition name reason)

theorem Offence.ofEntry {name : String} {first entry : Option Metadata} {fault : KernelFault}
    (h : Offence name first entry fault) : fault.OfEntry := by
  cases h with
  | notCompiled => exact .notCompiled name
  | argumentCount _ _ => exact .definition _ _
  | argument _ _ _ => exact .definition _ _

/-- Two attempts to resolve a name come out alike: both give metadata, of kernels with the same
arguments, or both find no executable, no kernel of the name, or an entry that is at fault. -/
structure Alike (a b : Except KernelFault Metadata) : Prop where
  ok : (∃ metadata, a = .ok metadata) ↔ ∃ metadata, b = .ok metadata
  signatures : ∀ first second, a = .ok first → b = .ok second → first.signatures = second.signatures
  noExecutable : a = .error .invalidProgramExecutable ↔ b = .error .invalidProgramExecutable
  unknownName : ∀ name, a = .error (.invalidKernelName name) ↔ b = .error (.invalidKernelName name)
  badEntry : (∃ fault, a = .error fault ∧ fault.OfEntry) ↔ ∃ fault, b = .error fault ∧ fault.OfEntry

/-- All entries were compiled, and all declare the same arguments. -/
def OneKernel (entries : List (Option Metadata)) : Prop :=
  (∀ entry ∈ entries, entry ≠ none) ∧
    ∀ a b, some a ∈ entries → some b ∈ entries → a.SameArguments b

namespace BuildTable

variable {builds builds' : BuildTable} {name : String}

/-! ## The outcome without the order -/

theorem exists_resolve_eq_ok : (∃ metadata, builds.resolve name = .ok metadata) ↔
    builds.entries name ≠ [] ∧ OneKernel (builds.entries name) := by
  constructor
  · rintro ⟨metadata, h⟩
    obtain ⟨hhead, hone⟩ := resolve_eq_ok.1 h
    refine ⟨?_, hone⟩
    rintro hnil
    rw [hnil] at hhead
    cases hhead
  · rintro ⟨hne, hcompiled, hsame⟩
    obtain ⟨entry, rest, hentries⟩ := List.exists_cons_of_ne_nil hne
    obtain ⟨metadata, rfl⟩ := Option.ne_none_iff_exists'.1
      (hcompiled entry (hentries ▸ List.mem_cons_self))
    exact ⟨metadata, resolve_eq_ok.2 ⟨by rw [hentries]; rfl, hcompiled, hsame⟩⟩

theorem resolve_eq_noExecutable :
    builds.resolve name = .error .invalidProgramExecutable ↔ builds.executables = [] := by
  rw [resolve_eq_error]
  constructor
  · rintro (⟨-, h⟩ | ⟨h, -⟩ | ⟨_, _, _, _, h, -⟩)
    · exact h
    · cases h
    · cases h.ofEntry
  · exact fun h => .inl ⟨rfl, h⟩

theorem resolve_eq_unknownName {unknown : String} :
    builds.resolve name = .error (.invalidKernelName unknown) ↔
      unknown = name ∧ builds.executables ≠ [] ∧ builds.entries name = [] := by
  rw [resolve_eq_error]
  constructor
  · rintro (⟨h, -⟩ | ⟨h, hexec⟩ | ⟨_, _, _, _, h, -⟩)
    · cases h
    · cases h
      exact ⟨rfl, hexec⟩
    · cases h.ofEntry
  · rintro ⟨rfl, hexec⟩
    exact .inr (.inl ⟨rfl, hexec⟩)

/-- What is left when there are entries and they are not those of one kernel. -/
theorem exists_resolve_badEntry :
    (∃ fault, builds.resolve name = .error fault ∧ fault.OfEntry) ↔
      builds.entries name ≠ [] ∧ ¬ OneKernel (builds.entries name) := by
  constructor
  · rintro ⟨fault, h, hentry⟩
    have hne : builds.entries name ≠ [] := by
      rcases resolve_eq_error.1 h with ⟨rfl, -⟩ | ⟨rfl, -⟩ | hoffence
      · cases hentry
      · cases hentry
      · exact hoffence.ne_nil
    refine ⟨hne, fun hone => ?_⟩
    obtain ⟨metadata, hok⟩ := exists_resolve_eq_ok.2 ⟨hne, hone⟩
    rw [h] at hok
    cases hok
  · rintro ⟨hne, hnot⟩
    cases h : builds.resolve name with
    | ok metadata => exact absurd (exists_resolve_eq_ok.1 ⟨metadata, h⟩).2 hnot
    | error fault =>
      refine ⟨fault, rfl, ?_⟩
      rcases resolve_eq_error.1 h with ⟨-, hnil⟩ | ⟨-, -, hnil⟩ | ⟨_, _, _, _, hoffence, -⟩
      · exact absurd hnil (executables_ne_nil hne)
      · exact absurd hnil hne
      · exact hoffence.ofEntry

/-! ## Another order -/

theorem executables_perm (h : builds.Perm builds') :
    builds.executables.Perm builds'.executables :=
  h.filterMap _

theorem entries_perm (h : builds.Perm builds') (name : String) :
    (builds.entries name).Perm (builds'.entries name) :=
  (executables_perm h).filterMap _

end BuildTable

theorem OneKernel.perm {entries entries' : List (Option Metadata)} (h : entries.Perm entries') :
    OneKernel entries ↔ OneKernel entries' := by
  simp only [OneKernel, h.mem_iff]

theorem perm_eq_nil {α : Type} {as bs : List α} (h : as.Perm bs) : as = [] ↔ bs = [] := by
  rw [← List.length_eq_zero_iff, ← List.length_eq_zero_iff, h.length_eq]

namespace BuildTable

variable {builds builds' : BuildTable}

theorem resolve_alike_of_perm (h : builds.Perm builds') (name : String) :
    Alike (builds.resolve name) (builds'.resolve name) := by
  have hexec := executables_perm h
  have hentries := entries_perm h name
  refine ⟨?_, ?_, ?_, ?_, ?_⟩
  · rw [exists_resolve_eq_ok, exists_resolve_eq_ok, Ne, Ne, perm_eq_nil hentries,
      OneKernel.perm hentries]
  · -- Both are entries of one and the same table, whose entries declare the same arguments.
    intro first second hfirst hsecond
    obtain ⟨hhead, -, hsame⟩ := resolve_eq_ok.1 hfirst
    obtain ⟨hhead', -⟩ := resolve_eq_ok.1 hsecond
    refine Metadata.sameArguments_iff.1 (hsame first second (List.mem_of_head? hhead) ?_)
    exact hentries.mem_iff.2 (List.mem_of_head? hhead')
  · rw [resolve_eq_noExecutable, resolve_eq_noExecutable, perm_eq_nil hexec]
  · intro unknown
    rw [resolve_eq_unknownName, resolve_eq_unknownName, Ne, Ne, perm_eq_nil hexec,
      perm_eq_nil hentries]
  · rw [exists_resolve_badEntry, exists_resolve_badEntry, Ne, Ne, perm_eq_nil hentries,
      OneKernel.perm hentries]

/-! ## Entries without an executable -/

/-- No kernel can be made from what the entry holds, whatever kernels that lists: there is no build,
or one that failed or is not finished, or one that made something else than an executable. -/
def Idle (entry : Device × Option Build) : Prop :=
  ∀ build ∈ entry.2, build.status ≠ .success ∨ build.binary ≠ .executable

/-- An idle entry is put in, taken out, or put in the place of another one. -/
inductive IdleEdit : BuildTable → BuildTable → Prop
  | insert {before after : BuildTable} {entry : Device × Option Build} :
      Idle entry → IdleEdit (before ++ after) (before ++ entry :: after)
  | delete {before after : BuildTable} {entry : Device × Option Build} :
      Idle entry → IdleEdit (before ++ entry :: after) (before ++ after)
  | replace {before after : BuildTable} {entry entry' : Device × Option Build} :
      Idle entry → Idle entry' → IdleEdit (before ++ entry :: after) (before ++ entry' :: after)

theorem executables_append (before after : BuildTable) :
    executables (before ++ after) = before.executables ++ after.executables :=
  List.filterMap_append

theorem executables_idle {entry : Device × Option Build} (h : Idle entry) (rest : BuildTable) :
    executables (entry :: rest) = rest.executables := by
  have hnone : entry.2.filter (·.isExecutable) = none := by
    rw [Option.filter_eq_none_iff]
    intro build hbuild
    simp only [Build.isExecutable, Bool.and_eq_true, beq_iff_eq]
    rintro ⟨hstatus, hbinary⟩
    exact (h build hbuild).elim (· hstatus) (· hbinary)
  rw [executables_cons, hnone, Option.toList_none, List.nil_append]

theorem executables_edit (h : IdleEdit builds builds') :
    builds.executables = builds'.executables := by
  cases h with
  | insert hidle => rw [executables_append, executables_append, executables_idle hidle]
  | delete hidle => rw [executables_append, executables_append, executables_idle hidle]
  | replace hidle hidle' =>
    rw [executables_append, executables_append, executables_idle hidle, executables_idle hidle']

theorem resolve_edit (h : Relation.ReflTransGen IdleEdit builds builds') (name : String) :
    builds.resolve name = builds'.resolve name := by
  have hexec : builds.executables = builds'.executables := by
    induction h with
    | refl => rfl
    | tail _ hedit ih => exact ih.trans (executables_edit hedit)
  rw [resolve_eq, resolve_eq, entries, entries, hexec]

/-- Tables with the same entries in different orders resolve every name alike. And any number of
edits of idle entries, anywhere in a table, leave the result what it was, fault and all. -/
theorem resolve_order_independent :
    (∀ (builds builds' : BuildTable) (name : String), builds.Perm builds' →
      Alike (builds.resolve name) (builds'.resolve name)) ∧
    ∀ (builds builds' : BuildTable) (name : String),
      Relation.ReflTransGen IdleEdit builds builds' → builds.resolve name = builds'.resolve name :=
  ⟨fun _ _ name h => resolve_alike_of_perm h name, fun _ _ name h => resolve_edit h name⟩

/-- Three devices with a kernel `add`. On the first it failed to compile, and on the others it does
not have the same number of arguments. -/
def disputed : BuildTable :=
  [(⟨0, "d"⟩, some ⟨.success, .executable, .ofList [("add", none)]⟩),
    (⟨1, "d"⟩, some (.executable [.ofItems "add" [.scalar "n" "uint" 4]])),
    (⟨2, "d"⟩, some (.executable [.ofItems "add" []]))]

/-- A library with another kernel of that name. -/
def disputedLibrary : Device × Option Build :=
  (⟨3, "d"⟩, some { Build.executable [.ofItems "add" [.sampler "s"]] with binary := .library })

/-- Read backwards, another entry offends first. The library in front is not looked at. -/
theorem disputed_order_independent :
    disputed.resolve "add" = .error (.kernelNotCompiled "add") ∧
      BuildTable.resolve disputed.reverse "add" = .error
        (.invalidKernelDefinition "add" "argument count differs between devices") ∧
      Alike (disputed.resolve "add") (BuildTable.resolve disputed.reverse "add") ∧
      disputed.resolve "add" = BuildTable.resolve (disputedLibrary :: disputed) "add" := by
  have hidle : Idle disputedLibrary := by
    intro build hbuild
    cases hbuild
    exact .inr nofun
  refine ⟨rfl, rfl, resolve_order_independent.1 _ _ _ (List.reverse_perm disputed).symm, ?_⟩
  have hedit : IdleEdit ([] ++ disputed) ([] ++ disputedLibrary :: disputed) := .insert hidle
  exact resolve_order_independent.2 _ _ "add" (.single hedit)

end BuildTable

end KernelBinding
