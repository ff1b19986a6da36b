import KernelBinding.Proofs.AllKernels
import KernelBinding.Proofs.BuildRecord
import KernelBinding.Proofs.DeviceOrder

/-!
# KernelBinding.Proofs.KernelLists

Programs whose devices were built into executables from lists of metadata, where a name may be in a
list more than once. What an executable has under a name is called by it, so kernels and faults
carry the name that was asked for.

* `find?_executable`  — an executable has the last metadata of its list with the name.
* `head?_entries_ofLists` — the first entry for a name comes from the first list that has it.
* `resolve_ofLists_ok` and its siblings — what a name stands for, and which faults there are.
* `kernels_named_by_lists` — the kernels of such a program, after any requests.
-/

namespace KernelBinding

variable {devices : List Device} {lists : Device → Option (List Metadata)} {name : String}
  {metadata : Metadata}

/-- The device was built from a list that has the name. -/
def HasName (lists : Device → Option (List Metadata)) (name : String) (device : Device) : Prop :=
  ∃ list metadata, lists device = some list ∧ metadata ∈ list ∧ metadata.name = name

/-- The metadata are the last of the list with this name. -/
def IsLastNamed (name : String) (list : List Metadata) (metadata : Metadata) : Prop :=
  ∃ front back, list = front ++ metadata :: back ∧ metadata.name = name ∧
    ∀ later ∈ back, later.name ≠ name

/-- The metadata are the last with this name in the list of the first device whose list has it. -/
def Provides (devices : List Device) (lists : Device → Option (List Metadata)) (name : String)
    (metadata : Metadata) : Prop :=
  ∃ before device after list, devices = before ++ device :: after ∧ lists device = some list ∧
    IsLastNamed name list metadata ∧ ∀ earlier ∈ before, ¬ HasName lists name earlier

theorem IsLastNamed.name_eq {list : List Metadata} (h : IsLastNamed name list metadata) :
    metadata.name = name := by
  obtain ⟨_, _, _, hname, _⟩ := h
  exact hname

theorem Provides.name_eq (h : Provides devices lists name metadata) : metadata.name = name := by
  obtain ⟨_, _, _, _, _, _, hlast, _⟩ := h
  exact hlast.name_eq

/-! ## Lists -/

/-- The last of the metadata with the name. -/
def lastNamed? (name : String) (list : List Metadata) : Option Metadata :=
  list.findRev? (·.name == name)

theorem lastNamed?_eq_some {list : List Metadata} :
    lastNamed? name list = some metadata ↔ IsLastNamed name list metadata := by
  rw [lastNamed?, List.findRev?_eq_find?_reverse, List.find?_eq_some_iff_append]
  simp only [beq_iff_eq, Bool.not_eq_true', beq_eq_false_iff_ne]
  constructor
  · rintro ⟨hname, back, front, hlist, hback⟩
    refine ⟨front.reverse, back.reverse, ?_, hname, fun later hlater => ?_⟩
    · rw [← List.reverse_reverse list, hlist]
      simp
    · exact hback later (List.mem_reverse.1 hlater)
  · rintro ⟨front, back, rfl, hname, hback⟩
    exact ⟨hname, back.reverse, front.reverse, by simp, fun later hlater =>
      hback later (List.mem_reverse.1 hlater)⟩

theorem bind_lastNamed?_eq_none {device : Device} :
    (lists device).bind (lastNamed? name) = none ↔ ¬ HasName lists name device := by
  rw [Option.bind_eq_none_iff]
  simp only [lastNamed?, List.findRev?_eq_find?_reverse, List.find?_eq_none, List.mem_reverse,
    beq_iff_eq, HasName, not_exists, not_and]
  exact ⟨fun h list metadata hlist hmem => h list hlist metadata hmem,
    fun h list hlist metadata hmem => h list metadata hlist hmem⟩

theorem find?_executable (list : List Metadata) (name : String) :
    (Build.executable list).kernels.find? name = (lastNamed? name list).map some := by
  rw [Build.executable, NameTable.find?_ofList, lastNamed?, List.findRev?_eq_find?_reverse,
    List.findRev?_eq_find?_reverse, ← List.map_reverse, List.find?_map, Option.map_map]
  rfl

theorem mem_names_executable {list : List Metadata} :
    name ∈ (Build.executable list).kernels.names ↔
      ∃ metadata ∈ list, metadata.name = name := by
  rw [Build.executable, NameTable.mem_names_ofList, List.map_map, List.mem_map]
  rfl

/-! ## What a name stands for -/

namespace BuildTable

/-- Each device is not built, or built into an executable from its list. -/
def ofLists (devices : List Device) (lists : Device → Option (List Metadata)) : BuildTable :=
  tabulate devices fun device => (lists device).map .executable

theorem executables_ofLists (devices : List Device) (lists : Device → Option (List Metadata)) :
    (ofLists devices lists).executables = (devices.filterMap lists).map .executable := by
  rw [executables, ofLists, tabulate, List.filterMap_map, List.map_filterMap]
  congr 1
  funext device
  cases h : lists device with
  | none => simp [h]
  | some list => simp [h, Build.isExecutable, Build.executable]

theorem entries_ofLists (devices : List Device) (lists : Device → Option (List Metadata))
    (name : String) : (ofLists devices lists).entries name =
      (devices.filterMap fun device => (lists device).bind (lastNamed? name)).map some := by
  rw [entries, executables_ofLists, List.filterMap_map, ← List.filterMap_filterMap,
    List.map_filterMap]
  congr 1
  funext list
  exact find?_executable list name

theorem head?_entries_ofLists : ((ofLists devices lists).entries name).head? =
    some (some metadata) ↔ Provides devices lists name metadata := by
  rw [entries_ofLists, List.head?_map, List.head?_filterMap, Option.map_eq_some_iff]
  simp only [Option.some.injEq, exists_eq_right, List.findSome?_eq_some_iff,
    Option.bind_eq_some_iff, lastNamed?_eq_some, bind_lastNamed?_eq_none, Provides]
  constructor
  · rintro ⟨before, device, after, hdevices, ⟨list, hlist, hlast⟩, hbefore⟩
    exact ⟨before, device, after, list, hdevices, hlist, hlast, hbefore⟩
  · rintro ⟨before, device, after, list, hdevices, hlist, hlast, hbefore⟩
    exact ⟨before, device, after, hdevices, ⟨list, hlist, hlast⟩, hbefore⟩

/-- Every entry for a name was compiled, and is called by that name. -/
theorem of_mem_entries_ofLists {entry : Option Metadata}
    (h : entry ∈ (ofLists devices lists).entries name) :
    ∃ metadata, entry = some metadata ∧ metadata.name = name := by
  rw [entries_ofLists] at h
  obtain ⟨metadata, hmem, rfl⟩ := List.mem_map.1 h
  obtain ⟨device, -, hlast⟩ := List.mem_filterMap.1 hmem
  obtain ⟨list, -, hlast⟩ := Option.bind_eq_some_iff.1 hlast
  exact ⟨metadata, rfl, (lastNamed?_eq_some.1 hlast).name_eq⟩

theorem resolve_ofLists_ok (h : (ofLists devices lists).resolve name = .ok metadata) :
    Provides devices lists name metadata :=
  head?_entries_ofLists.1 (resolve_eq_ok.1 h).1

theorem resolve_ofLists_unknownName {unknown : String} :
    (ofLists devices lists).resolve name = .error (.invalidKernelName unknown) ↔
      unknown = name ∧ (∃ device ∈ devices, lists device ≠ none) ∧
        ∀ device ∈ devices, ¬ HasName lists name device := by
  rw [resolve_eq_unknownName, executables_ofLists, entries_ofLists, Ne, List.map_eq_nil_iff,
    List.map_eq_nil_iff, List.filterMap_eq_nil_iff, List.filterMap_eq_nil_iff]
  simp only [bind_lastNamed?_eq_none, not_forall, exists_prop, Ne]

/-- The fault of an entry is that it differs from the first one, which is called by the name. -/
theorem resolve_ofLists_ofEntry {fault : KernelFault}
    (h : (ofLists devices lists).resolve name = .error fault) (hentry : fault.OfEntry) :
    ∃ reason, fault = .invalidKernelDefinition name reason := by
  rcases resolve_eq_error.1 h with ⟨rfl, -⟩ | ⟨rfl, -⟩ | ⟨before, entry, after, heq, hoffence, -⟩
  · cases hentry
  · cases hentry
  · -- No entry failed to compile, so the offence is against the first one.
    have hfirst : ∀ chosen, ((ofLists devices lists).entries name).head?.join = some chosen →
        chosen.name = name := by
      intro chosen hchosen
      have hmem := List.mem_of_head? (Option.join_eq_some_iff.1 hchosen)
      obtain ⟨_, ⟨⟩, hname⟩ := of_mem_entries_ofLists hmem
      exact hname
    have hmem : entry ∈ (ofLists devices lists).entries name := by simp [heq]
    obtain ⟨found, rfl, -⟩ := of_mem_entries_ofLists hmem
    cases hoffence with
    | argumentCount hchosen _ => exact ⟨_, by rw [hfirst _ hchosen]⟩
    | argument hchosen _ _ => exact ⟨_, by rw [hfirst _ hchosen]⟩

theorem exposes_ofLists :
    (ofLists devices lists).Exposes name ↔ ∃ device ∈ devices, HasName lists name device := by
  rw [exposes_iff, executables_ofLists]
  simp only [List.mem_map, List.mem_filterMap]
  constructor
  · rintro ⟨_, ⟨list, ⟨device, hdevice, hlist⟩, rfl⟩, hname⟩
    obtain ⟨metadata, hmem, hname⟩ := mem_names_executable.1 hname
    exact ⟨device, hdevice, list, metadata, hlist, hmem, hname⟩
  · rintro ⟨device, hdevice, list, metadata, hlist, hmem, hname⟩
    exact ⟨_, ⟨list, ⟨device, hdevice, hlist⟩, rfl⟩, mem_names_executable.2 ⟨metadata, hmem, hname⟩⟩

end BuildTable

namespace Session

variable {session made : Session} {number : Nat} {program : Program} {kernel : Kernel}
  {kernels : List Kernel}

/-! ## Kernels -/

/-- How kernels and faults are named in a program that is built from lists of metadata. -/
structure NamedByLists (session : Session) (number : Nat) (program : Program)
    (devices : List Device) (lists : Device → Option (List Metadata)) : Prop where
  created : ∀ name made kernel, session.spawnNamed number program name = .ok (made, kernel) →
    kernel.name = name ∧ Provides devices lists name kernel.metadata
  compiled : ∀ name other, program.builds.resolve name ≠ .error (.kernelNotCompiled other)
  unknown : ∀ name other, program.builds.resolve name = .error (.invalidKernelName other) ↔
    other = name ∧ (∃ device ∈ devices, lists device ≠ none) ∧
      ∀ device ∈ devices, ¬ HasName lists name device
  definition : ∀ name other reason,
    program.builds.resolve name = .error (.invalidKernelDefinition other reason) → other = name
  /-- In particular no name is there twice. -/
  createdAll : ∀ made kernels, session.spawnProgram number program = (made, .ok kernels) →
    (kernels.map (·.name)).Pairwise Precedes ∧
      ∀ name, name ∈ kernels.map (·.name) ↔ ∃ device ∈ devices, HasName lists name device

theorem provides_of_madeOf (hbuilds : program.builds = .ofLists devices lists)
    (h : MadeOf number program name kernel) :
    kernel.name = name ∧ Provides devices lists name kernel.metadata := by
  have hprovides := BuildTable.resolve_ofLists_ok (hbuilds ▸ h.resolve_eq)
  exact ⟨hprovides.name_eq, hprovides⟩

theorem names_spawnProgram (hbuilds : program.builds = .ofLists devices lists)
    (h : session.spawnProgram number program = (made, .ok kernels)) :
    kernels.map (·.name) = program.builds.kernelNames := by
  obtain ⟨hlength, hmade⟩ := spawnProgram_ok h
  refine List.ext_getElem (by simpa using hlength) fun i hi hi' => ?_
  rw [List.length_map] at hi
  rw [List.getElem_map]
  exact (provides_of_madeOf hbuilds (hmade i _ _ (List.getElem?_eq_getElem hi')
    (List.getElem?_eq_getElem hi))).1

theorem namedByLists (session : Session) (number : Nat)
    (hbuilds : program.builds = .ofLists devices lists) :
    session.NamedByLists number program devices lists := by
  refine ⟨fun name made kernel h => provides_of_madeOf hbuilds (spawnNamed_made h), ?_, ?_, ?_, ?_⟩
  · intro name other h
    obtain ⟨_, hfault⟩ := BuildTable.resolve_ofLists_ofEntry (hbuilds ▸ h) (.notCompiled other)
    cases hfault
  · intro name other
    rw [hbuilds]
    exact BuildTable.resolve_ofLists_unknownName
  · intro name other reason h
    obtain ⟨_, hfault⟩ :=
      BuildTable.resolve_ofLists_ofEntry (hbuilds ▸ h) (.definition other reason)
    cases hfault
    rfl
  · intro made kernels h
    rw [names_spawnProgram hbuilds h]
    refine ⟨BuildTable.pairwise_kernelNames _, fun name => ?_⟩
    rw [BuildTable.mem_kernelNames, hbuilds]
    exact BuildTable.exposes_ofLists

/-- A program is made for distinct devices, and other requests follow, in any number and order. When
the last build of each device, if there is one, is an executable from a list of metadata, then a
kernel that is made by name is called so and has the last metadata with that name from the first
list that has it; no fault is about a failed compilation, and the others are about the name asked
for; and all kernels made at once have the names of the lists, each once, in ascending order. -/
theorem kernels_named_by_lists {start session : Session} {handle context : String}
    {limits : Limits} {commands : List Command}
    (hcontext : start.contexts.find? context = some limits) (hdistinct : devices.Nodup)
    (hrun : (start.run (.program handle context devices :: commands)).1 = session)
    (hbuilt : ∀ device ∈ devices,
      lastBuild? (start.rebuilds start.programs.length
        (.program handle context devices :: commands)) device =
          (lists device).map .executable) :
    ∃ program, session.programs[start.programs.length]? = some program ∧
      session.NamedByLists start.programs.length program devices lists := by
  subst hrun
  obtain ⟨program, hprogram, hbuilds⟩ := Option.map_eq_some_iff.1
    (builds?_run_new handle hcontext hdistinct commands)
  refine ⟨program, hprogram, namedByLists _ _ (hbuilds.trans ?_)⟩
  exact List.map_congr_left fun device hdevice => congrArg (device, ·) (hbuilt device hdevice)

/-- The first of these devices is never built, and the second twice. -/
def relistedDevices : List Device :=
  [⟨0, "d"⟩, ⟨1, "d"⟩, ⟨2, "d"⟩]

/-- A list has one name twice, and while a kernel is alive the third device is built in vain. -/
def relisted : List Command :=
  [.program "p" "c" relistedDevices,
    .rebuild "p" ⟨1, "d"⟩ (.executable [.ofItems "stale" []]),
    .rebuild "p" ⟨1, "d"⟩ (.executable [.ofItems "mix" [.inlineConstant [1]], .ofItems "sum" [],
      .ofItems "mix" [.inlineConstant [2]]]),
    .rebuild "p" ⟨2, "d"⟩ (.executable [.ofItems "mix" [], .ofItems "add" []]),
    .create "p" "mix" "k",
    .rebuild "p" ⟨2, "d"⟩ (.executable [])]

/-- The lists that the devices are built from in the end. -/
def relistedLists (device : Device) : Option (List Metadata) :=
  if device.id = 1 then
    some [.ofItems "mix" [.inlineConstant [1]], .ofItems "sum" [],
      .ofItems "mix" [.inlineConstant [2]]]
  else if device.id = 2 then some [.ofItems "mix" [], .ofItems "add" []]
  else none

/-- The kernel has the later of the metadata with its name. -/
theorem relisted_named_by_lists : ∃ session program,
    (run { contexts := .ofList [("c", {})] } relisted).1 = session ∧
      (∀ device ∈ relistedDevices,
        lastBuild? (rebuilds { contexts := .ofList [("c", {})] } 0 relisted) device =
          (relistedLists device).map .executable) ∧
      session.programs[0]? = some program ∧
      session.NamedByLists 0 program relistedDevices relistedLists ∧
      (∃ made kernel, session.spawnNamed 0 program "mix" = .ok (made, kernel) ∧
        kernel.metadata = .ofItems "mix" [.inlineConstant [2]]) ∧
      ∃ made kernels, session.spawnProgram 0 program = (made, .ok kernels) ∧
        kernels.map (·.name) = ["add", "mix", "sum"] := by
  have hbuilt : ∀ device ∈ relistedDevices,
      lastBuild? (rebuilds { contexts := .ofList [("c", {})] } 0 relisted) device =
        (relistedLists device).map .executable := by
    decide
  obtain ⟨program, hprogram, hnamed⟩ := kernels_named_by_lists rfl (by decide) rfl hbuilt
  refine ⟨_, program, rfl, hbuilt, hprogram, hnamed, ?_⟩
  cases hprogram
  exact ⟨⟨_, _, rfl, rfl⟩, _, _, rfl, rfl⟩

end Session

end KernelBinding
