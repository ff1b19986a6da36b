import KernelBinding.Program.Resolution

/-!
# KernelBinding.Proofs.Resolution

Which kernel a name stands for. The devices are looked at in their order, but only what the
executables say of the name matters, the `entries` of a build table.

* `run_of_chosen`, `run_of_none` — what a scan of the remaining devices gives, once a first entry is
  chosen and before that.
* `resolve_eq`  — so the first entry is resolved unless a later one offends against it.
* `resolve_by_entries` — when a name is resolved, and otherwise which of the faults is reported.
-/

namespace KernelBinding

namespace Metadata

/-- The two have as many arguments, and declare them alike, place by place. -/
def SameArguments (a b : Metadata) : Prop :=
  a.args.length = b.args.length ∧
    ∀ (i : Nat) (x y : Argument), a.args[i]? = some x → b.args[i]? = some y →
      x.signature.typeName = y.signature.typeName ∧ x.signature.name = y.signature.name ∧
        x.signature.space = y.signature.space ∧
        x.signature.qualifiers.bits = y.signature.qualifiers.bits

variable {a b c : Metadata}

theorem sameArguments_iff : a.SameArguments b ↔ a.signatures = b.signatures := by
  constructor
  · rintro ⟨hlen, hsame⟩
    refine List.ext_getElem (by simpa [signatures] using hlen) fun i ha hb => ?_
    simp only [signatures, List.length_map] at ha hb
    have hi := hsame i a.args[i] b.args[i] (List.getElem?_eq_getElem ha)
      (List.getElem?_eq_getElem hb)
    simp only [signatures, List.getElem_map]
    generalize a.args[i].signature = x, b.args[i].signature = y at hi
    obtain ⟨_, _, _, ⟨_⟩⟩ := x
    obtain ⟨_, _, _, ⟨_⟩⟩ := y
    simp_all
  · intro h
    refine ⟨by simpa [signatures] using congrArg List.length h, fun i x y hx hy => ?_⟩
    have hi := congrArg (·[i]?) h
    simp only [signatures, List.getElem?_map, hx, hy, Option.map_some, Option.some.injEq] at hi
    simp [hi]

theorem SameArguments.refl (a : Metadata) : a.SameArguments a :=
  sameArguments_iff.2 rfl

theorem SameArguments.symm (h : a.SameArguments b) : b.SameArguments a :=
  sameArguments_iff.2 (sameArguments_iff.1 h).symm

theorem SameArguments.trans (h : a.SameArguments b) (h' : b.SameArguments c) :
    a.SameArguments c :=
  sameArguments_iff.2 ((sameArguments_iff.1 h).trans (sameArguments_iff.1 h'))

theorem disagreement?_eq_none : a.disagreement? b = none ↔ a.SameArguments b := by
  rw [sameArguments_iff]
  unfold disagreement?
  split
  · rename_i hlen
    simp only [reduceCtorEq, false_iff]
    intro h
    exact hlen (by simpa [signatures] using congrArg List.length h)
  · split <;> simp_all

end Metadata

/-- What the executables say of a kernel, in the order of the devices; a failed compilation is an
entry without metadata, and an executable without the kernel gives no entry. -/
def BuildTable.entries (builds : BuildTable) (name : String) : List (Option Metadata) :=
  builds.executables.filterMap (·.kernels.find? name)

theorem BuildTable.executables_cons (entry : Device × Option Build) (rest : BuildTable) :
    executables (entry :: rest) = (entry.2.filter (·.isExecutable)).toList ++ rest.executables := by
  cases h : entry.2.filter (·.isExecutable) <;> simp [executables, h]

theorem BuildTable.entries_cons (entry : Device × Option Build) (rest : BuildTable)
    (name : String) : entries (entry :: rest) name =
      ((entry.2.filter (·.isExecutable)).bind (·.kernels.find? name)).toList ++
        rest.entries name := by
  rw [entries, executables_cons, List.filterMap_append, ← entries]
  cases entry.2.filter (·.isExecutable) with
  | none => rfl
  | some build => cases h : build.kernels.find? name <;> simp [h]

/-- What is wrong with an entry for the kernel `name`, when the first entry is `first`. -/
inductive Offence (name : String) (first : Option Metadata) : Option Metadata → KernelFault → Prop
  | notCompiled : Offence name first none (.kernelNotCompiled name)
  | argumentCount {chosen found : Metadata} : first = some chosen →
      chosen.args.length ≠ found.args.length → Offence name first (some found)
        (.invalidKernelDefinition chosen.name "argument count differs between devices")
  | argument {chosen found : Metadata} : first = some chosen →
      chosen.args.length = found.args.length → ¬ chosen.SameArguments found →
        Offence name first (some found)
          (.invalidKernelDefinition chosen.name "argument differs between devices")

/-- The earliest of the entries that offend against the first one has this fault. -/
def EarliestOffence (name : String) (entries : List (Option Metadata)) (fault : KernelFault) :
    Prop :=
  ∃ before entry after, entries = before ++ entry :: after ∧
    Offence name entries.head?.join entry fault ∧
      ∀ earlier ∈ before, ∀ other, ¬ Offence name entries.head?.join earlier other

/-! ## Scanning the devices -/

/-- The fault of an entry after the first one. -/
def offence? (name : String) (first : Metadata) : Option Metadata → Option KernelFault
  | none => some (.kernelNotCompiled name)
  | some found =>
    (first.disagreement? found).map fun disagreement =>
      .invalidKernelDefinition first.name disagreement.reason

theorem offence?_eq_some {name : String} {first : Metadata} {entry : Option Metadata}
    {fault : KernelFault} :
    offence? name first entry = some fault ↔ Offence name (some first) entry fault := by
  constructor
  · intro h
    cases entry with
    | none => cases h; exact .notCompiled
    | some found =>
      obtain ⟨disagreement, hd, rfl⟩ := Option.map_eq_some_iff.1 h
      unfold Metadata.disagreement? at hd
      split at hd
      · rename_i hlen
        cases hd
        exact .argumentCount rfl hlen
      · rename_i hlen
        split at hd
        · rename_i hsig
          cases hd
          exact .argument rfl (by simpa using hlen) (mt Metadata.sameArguments_iff.1 hsig)
        · cases hd
  · intro h
    cases h with
    | notCompiled => rfl
    | argumentCount hfirst hlen =>
      cases hfirst
      simp [offence?, Metadata.disagreement?, hlen, Disagreement.reason]
    | argument hfirst hlen hsame =>
      cases hfirst
      rw [Metadata.sameArguments_iff] at hsame
      simp [offence?, Metadata.disagreement?, hlen, hsame, Disagreement.reason]

theorem offence?_eq_none {name : String} {first : Metadata} {entry : Option Metadata} :
    offence? name first entry = none ↔ ∃ found, entry = some found ∧ first.SameArguments found := by
  cases entry with
  | none => simp [offence?]
  | some found => simp [offence?, Metadata.disagreement?_eq_none]

namespace Scan

variable {name : String}

theorem run_of_chosen {first : Metadata} (builds : BuildTable) :
    ∀ executable : Bool, run name ⟨executable, some first⟩ builds =
      match (builds.entries name).findSome? (offence? name first) with
      | some fault => .error fault
      | none => .ok ⟨executable || !builds.executables.isEmpty, some first⟩ := by
  induction builds with
  | nil => intro executable; simp [run, BuildTable.entries, BuildTable.executables]
  | cons entry rest ih =>
    intro executable
    rw [BuildTable.entries_cons, BuildTable.executables_cons]
    simp only [run, visit]
    cases entry.2.filter (·.isExecutable) with
    | none => simp [ih]
    | some build =>
      cases hfind : build.kernels.find? name with
      | none => simp [hfind, ih]
      | some found =>
        cases found with
        | none => simp [hfind, List.findSome?_cons, offence?]
        | some found =>
          cases hd : first.disagreement? found <;>
            simp [hfind, offence?, hd, ih]

theorem run_of_none (builds : BuildTable) :
    ∀ executable : Bool, run name ⟨executable, none⟩ builds =
      match builds.entries name with
      | [] => .ok ⟨executable || !builds.executables.isEmpty, none⟩
      | none :: _ => .error (.kernelNotCompiled name)
      | some first :: rest =>
        match rest.findSome? (offence? name first) with
        | some fault => .error fault
        | none => .ok ⟨true, some first⟩ := by
  induction builds with
  | nil => intro executable; simp [run, BuildTable.entries, BuildTable.executables]
  | cons entry rest ih =>
    intro executable
    rw [BuildTable.entries_cons, BuildTable.executables_cons]
    simp only [run, visit]
    cases entry.2.filter (·.isExecutable) with
    | none => simp [ih]
    | some build =>
      cases hfind : build.kernels.find? name with
      | none => simp [hfind, ih]
      | some found => cases found <;> simp [hfind, run_of_chosen]

end Scan

/-! ## The earliest offence -/

section

variable {name : String} {first : Metadata} {rest : List (Option Metadata)} {fault : KernelFault}

theorem EarliestOffence.ne_nil {entries : List (Option Metadata)}
    (h : EarliestOffence name entries fault) : entries ≠ [] := by
  obtain ⟨before, entry, after, rfl, _⟩ := h
  simp

theorem earliestOffence_none :
    EarliestOffence name (none :: rest) fault ↔ fault = .kernelNotCompiled name := by
  constructor
  · rintro ⟨_ | ⟨head, before⟩, entry, after, heq, hoff, hbefore⟩
    · cases heq
      cases hoff
      rfl
    · cases heq
      exact absurd .notCompiled (hbefore none (.head _) _)
  · rintro rfl
    exact ⟨[], none, rest, rfl, .notCompiled, nofun⟩

/-- A first entry that was compiled does not offend against itself. -/
theorem earliestOffence_some : EarliestOffence name (some first :: rest) fault ↔
    rest.findSome? (offence? name first) = some fault := by
  rw [List.findSome?_eq_some_iff]
  constructor
  · rintro ⟨_ | ⟨head, before⟩, entry, after, heq, hoff, hbefore⟩
    · cases heq
      cases hoff with
      | argumentCount hfirst hlen => cases hfirst; exact absurd rfl hlen
      | argument hfirst _ hsame => cases hfirst; exact absurd (.refl first) hsame
    · cases heq
      refine ⟨before, entry, after, rfl, offence?_eq_some.2 hoff, fun earlier hearlier => ?_⟩
      rw [Option.eq_none_iff_forall_not_mem]
      intro other hother
      exact hbefore earlier (.tail _ hearlier) other (offence?_eq_some.1 hother)
  · rintro ⟨before, entry, after, rfl, hoff, hbefore⟩
    refine ⟨some first :: before, entry, after, rfl, offence?_eq_some.1 hoff, ?_⟩
    intro earlier hearlier other hother
    have hnone : offence? name first earlier = none := by
      rcases List.mem_cons.1 hearlier with rfl | hearlier
      · exact offence?_eq_none.2 ⟨first, rfl, .refl first⟩
      · exact hbefore earlier hearlier
    rw [offence?_eq_some.2 hother] at hnone
    cases hnone

/-- To compare all entries with the first one is to compare them with each other. -/
theorem findSome?_offence?_eq_none : rest.findSome? (offence? name first) = none ↔
    (∀ entry ∈ some first :: rest, entry ≠ none) ∧
      ∀ a b, some a ∈ some first :: rest → some b ∈ some first :: rest → a.SameArguments b := by
  simp only [List.findSome?_eq_none_iff, offence?_eq_none]
  constructor
  · intro h
    have hall : ∀ entry ∈ some first :: rest,
        ∃ found, entry = some found ∧ first.SameArguments found := by
      intro entry hentry
      rcases List.mem_cons.1 hentry with rfl | hentry
      · exact ⟨first, rfl, .refl first⟩
      · exact h entry hentry
    refine ⟨?_, fun a b ha hb => ?_⟩
    · rintro entry hentry rfl
      obtain ⟨found, hfound, -⟩ := hall none hentry
      cases hfound
    · obtain ⟨_, ⟨⟩, hfa⟩ := hall _ ha
      obtain ⟨_, ⟨⟩, hfb⟩ := hall _ hb
      exact hfa.symm.trans hfb
  · rintro ⟨hcompiled, hsame⟩ entry hentry
    cases entry with
    | none => exact absurd rfl (hcompiled none (.tail _ hentry))
    | some found => exact ⟨found, rfl, hsame first found (.head _) (.tail _ hentry)⟩

end

/-! ## Resolution -/

namespace BuildTable

variable {builds : BuildTable} {name : String}

theorem resolve_eq (builds : BuildTable) (name : String) : builds.resolve name =
    match builds.entries name with
    | [] =>
      if builds.executables = [] then .error .invalidProgramExecutable
      else .error (.invalidKernelName name)
    | none :: _ => .error (.kernelNotCompiled name)
    | some first :: rest =>
      match rest.findSome? (offence? name first) with
      | some fault => .error fault
      | none => .ok first := by
  unfold resolve
  rw [Scan.run_of_none builds false]
  rcases builds.entries name with _ | ⟨_ | first, rest⟩
  · cases builds.executables <;> simp [Scan.result]
  · rfl
  · simp only
    cases rest.findSome? (offence? name first) <;> rfl

theorem executables_ne_nil (h : builds.entries name ≠ []) : builds.executables ≠ [] := by
  intro hnil
  exact h (by simp [entries, hnil])

theorem resolve_eq_ok {metadata : Metadata} : builds.resolve name = .ok metadata ↔
    (builds.entries name).head? = some (some metadata) ∧
      (∀ entry ∈ builds.entries name, entry ≠ none) ∧
      ∀ a b, some a ∈ builds.entries name → some b ∈ builds.entries name → a.SameArguments b := by
  rw [resolve_eq]
  rcases builds.entries name with _ | ⟨_ | first, rest⟩
  · cases builds.executables <;> simp
  · simp
  · have hnone : rest.findSome? (offence? name first) = none ↔ _ := findSome?_offence?_eq_none
    simp only [List.head?_cons, ← hnone]
    cases rest.findSome? (offence? name first) <;> simp

theorem resolve_eq_error {fault : KernelFault} : builds.resolve name = .error fault ↔
    fault = .invalidProgramExecutable ∧ builds.executables = [] ∨
      fault = .invalidKernelName name ∧ builds.executables ≠ [] ∧ builds.entries name = [] ∨
        EarliestOffence name (builds.entries name) fault := by
  have hexec : builds.entries name ≠ [] → builds.executables ≠ [] := executables_ne_nil
  rw [resolve_eq]
  revert hexec
  rcases builds.entries name with _ | ⟨_ | first, rest⟩ <;> intro hexec
  · have hno : ¬ EarliestOffence name [] fault := fun h => h.ne_nil rfl
    by_cases hnil : builds.executables = [] <;> simp [hnil, hno, eq_comm]
  · have hne := hexec (List.cons_ne_nil _ _)
    simp only [earliestOffence_none, hne, List.cons_ne_nil, and_false, false_or, Except.error.injEq]
    exact eq_comm
  · have hne := hexec (List.cons_ne_nil _ _)
    simp only [earliestOffence_some]
    cases rest.findSome? (offence? name first) <;> simp [hne]

/-- A name is resolved when it has entries, all of them were compiled and all declare the same
arguments; it then stands for the first one. Otherwise the fault says that there is no executable,
that none has the kernel, or what is wrong with the earliest offending entry. -/
theorem resolve_by_entries (builds : BuildTable) (name : String) :
    (∀ metadata, builds.resolve name = .ok metadata ↔
      (builds.entries name).head? = some (some metadata) ∧
        (∀ entry ∈ builds.entries name, entry ≠ none) ∧
        ∀ a b, some a ∈ builds.entries name → some b ∈ builds.entries name →
          a.SameArguments b) ∧
    (builds.resolve name = .error .invalidProgramExecutable ↔ builds.executables = []) ∧
    (builds.resolve name = .error (.invalidKernelName name) ↔
      builds.executables ≠ [] ∧ builds.entries name = []) ∧
    ∀ fault, builds.resolve name = .error fault ↔
      fault = .invalidProgramExecutable ∧ builds.executables = [] ∨
        fault = .invalidKernelName name ∧ builds.executables ≠ [] ∧ builds.entries name = [] ∨
          EarliestOffence name (builds.entries name) fault := by
  refine ⟨fun metadata => resolve_eq_ok, ?_, ?_, fun fault => resolve_eq_error⟩
  · rw [resolve_eq_error]
    constructor
    · rintro (⟨-, h⟩ | ⟨h, -⟩ | ⟨_, _, _, _, h, -⟩)
      · exact h
      · cases h
      · cases h
    · exact fun h => .inl ⟨rfl, h⟩
  · rw [resolve_eq_error]
    constructor
    · rintro (⟨h, -⟩ | ⟨-, h⟩ | ⟨_, _, _, _, h, -⟩)
      · cases h
      · exact h
      · cases h
    · exact fun h => .inr (.inl ⟨rfl, h⟩)

end BuildTable

end KernelBinding
