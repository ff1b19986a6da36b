import KernelBinding.Proofs.Effects
import KernelBinding.Proofs.Ownership

/-!
# KernelBinding.Proofs.Deeds

What an event does to the kernels under handles, told from the request and its answer alone
(`Deed`), and which resources are new after it. Everything later said of kernels and resources over
time rests on one lemma about one event (`turn_next`).

* `storeKernels_eq`, `releaseAll_eq` — storing and releasing kernels, each in one equation.
* `madeFrom_spawnAll` — kernels made together take consecutive identities.
* `turns_step`        — the turn of a session that a request is, request by request.
* `turn_next`         — an event does to the kernels what its deed says, and adds only resources
  with identities that were never used.
-/

namespace KernelBinding

/-- Puts several values into a table, one after another. -/
def NameTable.insertAll {α : Type} (table : NameTable α) (entries : List (String × α)) :
    NameTable α :=
  entries.foldl (fun table entry => table.insert entry.1 entry.2) table

namespace NameTable

variable {α : Type} {table : NameTable α} {name : String} {value : α}

theorem mem_values_insert {other : α} (h : other ∈ (table.insert name value).values) :
    other = value ∨ other ∈ table.values :=
  List.mem_cons.1 ((table.perm_values_insert name value).mem_iff.1 (List.mem_append_left _ h))

theorem mem_values_of_erase {other : α} (h : other ∈ (table.erase name).values) :
    other ∈ table.values :=
  (table.perm_values_erase name).mem_iff.1 (List.mem_append_left _ h)

theorem mem_values_insertAll (entries : List (String × α)) : ∀ {table : NameTable α},
    value ∈ (table.insertAll entries).values →
      value ∈ entries.map (·.2) ∨ value ∈ table.values := by
  induction entries with
  | nil => intro table h; exact .inr h
  | cons entry rest ih =>
    intro table h
    rcases ih h with hrest | hinserted
    · exact .inl (List.mem_cons_of_mem _ hrest)
    · rcases mem_values_insert hinserted with rfl | htable
      · exact .inl List.mem_cons_self
      · exact .inr htable

end NameTable

/-- Something that is done to kernels under handles, or to what is recorded of them. -/
inductive Deed (α : Type) where
  | made (entries : List (String × α))
  | copied (source handle : String)
  | called (handle : String) (call : Call)
  | dropped (handle : String)

namespace Deed

variable {α : Type}

def nothing : Deed α :=
  .made []

/-- The table after the deed. What is done to a handle without a kernel has no effect. -/
def carry (receive : Call → α → α) (table : NameTable α) : Deed α → NameTable α
  | .made entries => table.insertAll entries
  | .copied source handle =>
    match table.find? source with
    | none => table
    | some found => table.insert handle found
  | .called handle call =>
    match table.find? handle with
    | none => table
    | some found => table.insert handle (receive call found)
  | .dropped handle => table.erase handle

/-- What is new. -/
def products : Deed α → List α
  | .made entries => entries.map (·.2)
  | _ => []

theorem of_mem_carry {receive : Call → α → α} {table : NameTable α} {value : α} {deed : Deed α}
    (h : value ∈ (deed.carry receive table).values) : value ∈ deed.products ∨
      ∃ old ∈ table.values, value = old ∨
        ∃ handle call, deed = .called handle call ∧ value = receive call old := by
  cases deed with
  | made entries =>
    rcases NameTable.mem_values_insertAll entries h with hnew | hold
    · exact .inl hnew
    · exact .inr ⟨value, hold, .inl rfl⟩
  | copied source handle =>
    simp only [carry] at h
    split at h
    · exact .inr ⟨value, h, .inl rfl⟩
    · rename_i found hfound
      rcases NameTable.mem_values_insert h with rfl | hold
      · exact .inr ⟨value, table.mem_values_iff.2 ⟨source, hfound⟩, .inl rfl⟩
      · exact .inr ⟨value, hold, .inl rfl⟩
  | called handle call =>
    simp only [carry] at h
    split at h
    · exact .inr ⟨value, h, .inl rfl⟩
    · rename_i found hfound
      rcases NameTable.mem_values_insert h with rfl | hold
      · exact .inr ⟨found, table.mem_values_iff.2 ⟨handle, hfound⟩, .inr ⟨handle, call, rfl, rfl⟩⟩
      · exact .inr ⟨value, hold, .inl rfl⟩
  | dropped handle => exact .inr ⟨value, NameTable.mem_values_of_erase h, .inl rfl⟩

end Deed

/-- A kernel after a call; one that is refused leaves it as it is. -/
def Kernel.receive (call : Call) (kernel : Kernel) : Kernel :=
  kernel.assignAll [call]

namespace Session

/-- The kernels that an answer shows. -/
def shown : Except Refusal Reply → List Kernel
  | .ok (.kernel view) => [view.kernel]
  | .ok (.kernels views) => views.map (·.kernel)
  | _ => []

/-- What a request did to kernels, given its answer. -/
def deed (session : Session) (command : Command) (answer : Except Refusal Reply) : Deed Kernel :=
  match command with
  | .create _ _ handle | .createFrom _ _ handle =>
    .made ((shown answer).map fun kernel => (handle, kernel))
  | .createAll _ base =>
    .made ((shown answer).zipIdx.map fun kernel => (base ++ toString kernel.2, kernel.1))
  | .copy source handle => .copied source handle
  | .dropKernel handle => .dropped handle
  | .set handle index setting =>
    match session.call index setting with
    | .error _ => .nothing
    | .ok call => .called handle call
  | _ => .nothing

def deedOf (session : Session) : Event → Deed Kernel
  | .request command => session.deed command (session.step command).2
  | .keep _ _ => .nothing

/-- Kernels made one after another, while the next unused identity goes from the first number to the
second. -/
inductive MadeFrom : Nat → List Kernel → Nat → Prop
  | nil {fresh : Nat} : MadeFrom fresh [] fresh
  | cons {program : Nat} {limits : Limits} {metadata : Metadata} {fresh last : Nat}
      {kernel : Kernel} {rest : List Kernel} :
      Kernel.make program limits metadata fresh = .ok kernel →
        MadeFrom (fresh + kernel.literalCount) rest last → MadeFrom fresh (kernel :: rest) last

/-- The resources that a caller keeps, if they are alive. -/
def kept : Event → List (Object Resource)
  | .request _ => []
  | .keep _ object => [object]

/-- What an event does to a session when it does `deed`, callers keep the resources `kept` and the
resources `new` are new. -/
structure Turn (session : Session) (deed : Deed Kernel) (kept new : List (Object Resource))
    (session' : Session) : Prop where
  kernels : ∀ handle, session'.kernels.find? handle =
    (deed.carry Kernel.receive session.kernels).find? handle
  /-- The identities of the new resources are the next ones. -/
  ids : new.map (·.id) = List.range' session.fresh new.length
  fresh_le : session.fresh + new.length ≤ session'.fresh
  /-- Callers get no reference to a new kernel's literals. -/
  handled : ∀ object ∈ session'.handled, object ∈ session.handled ∨
    object ∈ kept ∧ object ∈ session.references ∨ object ∈ new ∧ deed.products = []
  made : ∀ kernel ∈ deed.products, ∃ program limits metadata fresh,
    Kernel.make program limits metadata fresh = .ok kernel
  literals : (deed.products.flatMap (·.literals)).Sublist new

variable {session session' : Session}

/-! ## Storing and releasing -/

theorem releaseAll_eq (kernels : List Kernel) : ∀ session : Session,
    session.releaseAll kernels =
      { session with programs := (session.releaseAll kernels).programs } := by
  induction kernels with
  | nil => intro session; rfl
  | cons kernel rest ih => intro session; exact ih (session.release kernel)

theorem storeKernels_eq (base : String) (kernels : List Kernel) :
    ∀ (session : Session) (index : Nat),
      (session.storeKernels base index kernels).1 = { session with
        kernels := session.kernels.insertAll
          ((kernels.zipIdx index).map fun kernel => (base ++ toString kernel.2, kernel.1)) } := by
  induction kernels with
  | nil => intro session index; rfl
  | cons kernel rest ih =>
    intro session index
    exact ih (session.storeKernel (base ++ toString index) kernel) (index + 1)

/-- Storing a kernel and releasing the one that had the handle changes programs and kernels only. -/
theorem install_eq (session : Session) (handle : String) (kernel : Kernel) :
    (session.install handle kernel).1 = { session with
      programs := (session.install handle kernel).1.programs
      kernels := session.kernels.insert handle kernel } :=
  releaseAll_eq _ (session.storeKernel handle kernel)

theorem installAll_eq (session : Session) (base : String) (kernels : List Kernel) :
    (session.installAll base kernels).1 = { session with
      programs := (session.installAll base kernels).1.programs
      kernels := session.kernels.insertAll
        (kernels.zipIdx.map fun kernel => (base ++ toString kernel.2, kernel.1)) } := by
  have hstored := storeKernels_eq base kernels session 0
  unfold installAll
  generalize session.storeKernels base 0 kernels = result at hstored ⊢
  obtain ⟨stored, displaced⟩ := result
  obtain rfl := hstored
  exact releaseAll_eq displaced _

theorem Unchanged.handled_eq (h : session.Unchanged session') :
    session'.handled = session.handled := by
  rw [h.eq]
  rfl

/-! ## New kernels -/

theorem ids_allocate {α β ε : Type} {make : α → Except ε β} {fresh : Nat} {as : List α}
    {objects : List (Object β)} (h : allocate make fresh as = .ok objects) :
    objects.map (·.id) = List.range' fresh objects.length := by
  refine List.ext_getElem (by simp) fun i hi _ => ?_
  rw [List.length_map] at hi
  rw [List.getElem_map, List.getElem_range', Nat.one_mul]
  exact (getElem?_allocate h (List.getElem?_eq_getElem hi)).1

theorem length_literals (kernel : Kernel) : kernel.literals.length = kernel.literalCount := by
  simp [Kernel.literals, Kernel.literalCount]

/-- The literals of a new kernel have consecutive identities. -/
theorem ids_literals {program : Nat} {limits : Limits} {metadata : Metadata} {fresh : Nat}
    {kernel : Kernel} (h : Kernel.make program limits metadata fresh = .ok kernel) :
    kernel.literals.map (·.id) = List.range' fresh kernel.literalCount := by
  have hmade := Kernel.make_ok h
  have hsamplers := ids_allocate hmade.samplers
  have hbuffers := ids_allocate hmade.buffers
  calc kernel.literals.map (·.id)
      = kernel.literalSamplers.map (·.id) ++ kernel.inlineConstants.map (·.id) := by
        simp only [Kernel.literals, List.map_append, List.map_map]
        rfl
    _ = List.range' fresh kernel.literalCount := by
        rw [hsamplers, hbuffers, Kernel.literalCount, ← List.range'_append_1]

theorem MadeFrom.ids {fresh last : Nat} {kernels : List Kernel} (h : MadeFrom fresh kernels last) :
    last = fresh + (kernels.flatMap (·.literals)).length ∧
      (kernels.flatMap (·.literals)).map (·.id) =
        List.range' fresh (kernels.flatMap (·.literals)).length := by
  induction h with
  | nil => exact ⟨rfl, rfl⟩
  | cons hmake _ ih =>
    obtain ⟨hlast, hids⟩ := ih
    simp only [List.flatMap_cons, List.map_append, List.length_append, length_literals]
    refine ⟨by omega, ?_⟩
    rw [ids_literals hmake, hids, List.range'_append_1]

theorem MadeFrom.made {fresh last : Nat} {kernels : List Kernel} (h : MadeFrom fresh kernels last) :
    ∀ kernel ∈ kernels, ∃ program limits metadata fresh,
      Kernel.make program limits metadata fresh = .ok kernel := by
  induction h with
  | nil => exact List.forall_mem_nil _
  | cons hmake _ ih => exact List.forall_mem_cons.2 ⟨⟨_, _, _, _, hmake⟩, ih⟩

theorem madeFrom_spawn {number : Nat} {limits : Limits} {metadata : Metadata} {kernel : Kernel}
    (h : session.spawn number limits metadata = .ok (session', kernel)) :
    MadeFrom session.fresh [kernel] session'.fresh := by
  unfold spawn at h
  split at h
  · cases h
  · rename_i hmake
    cases h
    exact .cons hmake .nil

theorem madeFrom_spawnNamed {number : Nat} {program : Program} {name : String} {kernel : Kernel}
    (h : session.spawnNamed number program name = .ok (session', kernel)) :
    MadeFrom session.fresh [kernel] session'.fresh := by
  unfold spawnNamed at h
  split at h
  · cases h
  · exact madeFrom_spawn h

theorem MadeFrom.append {first middle last : Nat} {before after : List Kernel}
    (h : MadeFrom first before middle) (h' : MadeFrom middle after last) :
    MadeFrom first (before ++ after) last := by
  induction h with
  | nil => exact h'
  | cons hmake _ ih => exact .cons hmake (ih h')

theorem madeFrom_spawnAll {number : Nat} {program : Program} (names : List String) :
    ∀ {session session' : Session} {kernels : List Kernel},
      session.spawnAll number program names = (session', .ok kernels) →
        MadeFrom session.fresh kernels session'.fresh ∧ session'.handled = session.handled := by
  induction names with
  | nil =>
    intro session session' kernels h
    cases h
    exact ⟨.nil, rfl⟩
  | cons name rest ih =>
    intro session session' kernels h
    simp only [spawnAll] at h
    split at h
    · cases h
    · rename_i made kernel hmade
      split at h
      · cases h
      · rename_i hrest
        cases h
        obtain ⟨hfrom, hhandled⟩ := ih hrest
        refine ⟨(madeFrom_spawnNamed hmade).append hfrom, hhandled.trans ?_⟩
        rw [(spawnNamed_ok hmade).eq]
        rfl

theorem madeFrom_spawnProgram {number : Nat} {program : Program} {kernels : List Kernel}
    (h : session.spawnProgram number program = (session', .ok kernels)) :
    MadeFrom session.fresh kernels session'.fresh ∧ session'.handled = session.handled := by
  unfold spawnProgram at h
  split at h
  · cases h
  · exact madeFrom_spawnAll _ h

/-! ## Turns -/

@[simp] theorem kernels_hold (session : Session) (handle : String) (object : Object Resource) :
    (session.hold handle object).kernels = session.kernels := by
  cases object with
  | mk id value => cases value <;> rfl

@[simp] theorem fresh_hold (session : Session) (handle : String) (object : Object Resource) :
    (session.hold handle object).fresh = session.fresh := by
  cases object with
  | mk id value => cases value <;> rfl

theorem mem_handled_hold {handle : String} {object held : Object Resource}
    (h : held ∈ (session.hold handle object).handled) : held = object ∨ held ∈ session.handled := by
  obtain ⟨id, value⟩ := object
  cases value with
  | memory value =>
    rcases List.mem_append.1 h with h | h
    · obtain ⟨stored, hstored, rfl⟩ := List.mem_map.1 h
      rcases NameTable.mem_values_insert hstored with rfl | hold
      · exact .inl rfl
      · exact .inr (ofMemory_mem_handled.2 hold)
    · exact .inr (List.mem_append_right _ h)
  | sampler value =>
    rcases List.mem_append.1 h with h | h
    · exact .inr (List.mem_append_left _ h)
    · obtain ⟨stored, hstored, rfl⟩ := List.mem_map.1 h
      rcases NameTable.mem_values_insert hstored with rfl | hold
      · exact .inl rfl
      · exact .inr (ofSampler_mem_handled.2 hold)

/-- Dropping a handle takes away one reference to what it stands for. -/
theorem perm_handled_dropMemory (session : Session) (handle : String) :
    ((session.step (.dropMemory handle)).1.handled ++
      ((session.memory.find? handle).map Object.ofMemory).toList).Perm session.handled := by
  have hvalues := (session.memory.perm_values_erase handle).map Object.ofMemory
  rw [List.map_append, ← Option.toList_map] at hvalues
  refine List.Perm.trans ?_ (hvalues.append_right _)
  simp only [handled, step, List.append_assoc]
  exact List.perm_append_comm.append_left _

theorem perm_handled_dropSampler (session : Session) (handle : String) :
    ((session.step (.dropSampler handle)).1.handled ++
      ((session.samplers.find? handle).map Object.ofSampler).toList).Perm session.handled := by
  have hvalues := (session.samplers.perm_values_erase handle).map Object.ofSampler
  rw [List.map_append, ← Option.toList_map] at hvalues
  simp only [handled, step, List.append_assoc]
  exact hvalues.append_left _

/-- A turn in which no resource comes into being. -/
theorem turn_of_carry {deed : Deed Kernel} {kept : List (Object Resource)}
    (hkernels : ∀ handle, session'.kernels.find? handle =
      (deed.carry Kernel.receive session.kernels).find? handle)
    (hproducts : deed.products = []) (hfresh : session.fresh ≤ session'.fresh)
    (hhandled : ∀ object ∈ session'.handled,
      object ∈ session.handled ∨ object ∈ kept ∧ object ∈ session.references) :
    Turn session deed kept [] session' := by
  refine ⟨hkernels, rfl, hfresh, fun object hobject => ?_, ?_, ?_⟩
  · exact (hhandled object hobject).imp_right .inl
  · rw [hproducts]
    exact List.forall_mem_nil _
  · rw [hproducts]
    exact .refl _

theorem turn_made {entries : List (String × Kernel)}
    (hkernels : session'.kernels = session.kernels.insertAll entries)
    (hfrom : MadeFrom session.fresh (entries.map (·.2)) session'.fresh)
    (hhandled : session'.handled = session.handled) :
    Turn session (.made entries) [] ((entries.map (·.2)).flatMap (·.literals)) session' := by
  obtain ⟨hfresh, hids⟩ := hfrom.ids
  refine ⟨fun handle => by rw [hkernels]; rfl, hids, Nat.le_of_eq hfresh.symm, ?_, hfrom.made,
    .refl _⟩
  intro object hobject
  exact .inl (hhandled ▸ hobject)

/-- A request and its outcome are a turn of the session. -/
def Turns (session : Session) (command : Command) (outcome : Outcome) : Prop :=
  ∃ new, Turn session (session.deed command outcome.2) [] new outcome.1

variable {command : Command} {outcome : Outcome}

theorem turns_of_handled (hdeed : session.deed command outcome.2 = .nothing)
    (hkernels : outcome.1.kernels = session.kernels) (hfresh : session.fresh ≤ outcome.1.fresh)
    (hhandled : ∀ object ∈ outcome.1.handled, object ∈ session.handled) :
    session.Turns command outcome := by
  refine ⟨[], turn_of_carry (fun handle => ?_) (by rw [hdeed]; rfl) hfresh fun object hobject =>
    .inl (hhandled object hobject)⟩
  rw [hdeed, hkernels]
  rfl

theorem turns_same (hdeed : session.deed command outcome.2 = .nothing)
    (hkernels : outcome.1.kernels = session.kernels) (hfresh : session.fresh ≤ outcome.1.fresh)
    (hhandled : outcome.1.handled = session.handled) : session.Turns command outcome :=
  turns_of_handled hdeed hkernels hfresh fun _ hobject => hhandled ▸ hobject

theorem turns_unchanged {answer : Except Refusal Reply}
    (hdeed : session.deed command answer = .nothing) : session.Turns command (session, answer) :=
  turns_same hdeed rfl (Nat.le_refl _) rfl

/-- A new resource is put under a handle. -/
theorem turns_stored (handle : String) (value : Resource)
    (hdeed : session.deed command outcome.2 = .nothing)
    (houtcome : outcome.1 = { session.hold handle ⟨session.fresh, value⟩ with
      fresh := session.fresh + 1 })
    (hkernels : outcome.1.kernels = session.kernels) : session.Turns command outcome := by
  refine ⟨[⟨session.fresh, value⟩], fun name => ?_, rfl, ?_, fun object hobject => ?_, ?_, ?_⟩
  · rw [hdeed, hkernels]
    rfl
  · rw [houtcome]
    exact Nat.le_refl _
  · rw [houtcome] at hobject
    rcases mem_handled_hold hobject with rfl | hold
    · exact .inr (.inr ⟨List.mem_cons_self, hdeed ▸ rfl⟩)
    · exact .inl hold
  · rw [hdeed]
    exact List.forall_mem_nil _
  · rw [hdeed]
    exact List.nil_sublist _

theorem turns_install {made : Session} {handle : String} {kernel : Kernel}
    (hdeed : session.deed command (made.install handle kernel).2 = .made [(handle, kernel)])
    (hkernels : made.kernels = session.kernels) (hfrom : MadeFrom session.fresh [kernel] made.fresh)
    (hhandled : made.handled = session.handled) :
    session.Turns command (made.install handle kernel) := by
  refine ⟨_, hdeed ▸ turn_made ?_ ?_ ?_⟩
  · rw [install_eq, hkernels]
    rfl
  · rw [install_eq]
    exact hfrom
  · rw [install_eq]
    exact hhandled

theorem shown_installAll (base : String) (kernels : List Kernel) :
    shown (session.installAll base kernels).2 = kernels := by
  simp only [installAll, shown, List.map_map]
  exact List.map_id kernels

theorem turns_createAll {program base : String} {made : Session} {kernels : List Kernel}
    (hkernels : made.kernels = session.kernels) (hfrom : MadeFrom session.fresh kernels made.fresh)
    (hhandled : made.handled = session.handled) :
    session.Turns (.createAll program base) (made.installAll base kernels) := by
  have hdeed : session.deed (.createAll program base) (made.installAll base kernels).2 =
      .made (kernels.zipIdx.map fun kernel => (base ++ toString kernel.2, kernel.1)) := by
    rw [deed, shown_installAll]
  have hentries : (kernels.zipIdx.map fun kernel => (base ++ toString kernel.2, kernel.1)).map
      (·.2) = kernels := by
    rw [List.map_map]
    exact List.zipIdx_map_fst 0 kernels
  refine ⟨_, hdeed ▸ turn_made ?_ ?_ ?_⟩
  · rw [installAll_eq, hkernels]
  · rw [installAll_eq, hentries]
    exact hfrom
  · rw [installAll_eq]
    exact hhandled

/-- A request that does something to the kernels there are, and makes none. -/
theorem turns_of_carry {deed : Deed Kernel} (hdeed : session.deed command outcome.2 = deed)
    (hproducts : deed.products = [])
    (hkernels : ∀ handle, outcome.1.kernels.find? handle =
      (deed.carry Kernel.receive session.kernels).find? handle)
    (hfresh : outcome.1.fresh = session.fresh) (hhandled : outcome.1.handled = session.handled) :
    session.Turns command outcome := by
  subst hdeed
  refine ⟨[], turn_of_carry hkernels hproducts (Nat.le_of_eq hfresh.symm) fun object hobject => ?_⟩
  exact .inl (hhandled ▸ hobject)

theorem turns_copy (source handle : String) :
    session.Turns (.copy source handle) (session.step (.copy source handle)) := by
  have hdeed (outcome : Outcome) :
      session.deed (.copy source handle) outcome.2 = .copied source handle := rfl
  simp only [step, withKernel]
  split
  · rename_i hnone
    refine turns_of_carry (hdeed _) rfl (fun name => ?_) rfl rfl
    simp only [Deed.carry, hnone]
    rfl
  · rename_i kernel hkernel
    have hinstall := install_eq (session.attach kernel) handle kernel
    rw [copy]
    refine turns_of_carry (hdeed _) rfl (fun name => ?_) ?_ ?_
    · simp only [Deed.carry, hkernel]
      rw [hinstall]
      rfl
    · rw [hinstall]
      rfl
    · rw [hinstall]
      rfl

theorem turns_dropKernel (handle : String) :
    session.Turns (.dropKernel handle) (session.dropKernel handle) := by
  have hdeed (outcome : Outcome) :
      session.deed (.dropKernel handle) outcome.2 = .dropped handle := rfl
  unfold dropKernel
  split
  · rename_i hnone
    refine turns_of_carry (hdeed _) rfl (fun name => ?_) rfl rfl
    by_cases hname : name = handle
    · rw [hname, Deed.carry, NameTable.find?_erase_self]
      exact hnone
    · exact (session.kernels.find?_erase_of_ne hname).symm
  · exact turns_of_carry (hdeed _) rfl (fun name => rfl) rfl rfl

/-- To receive a call that is refused is to stay. -/
theorem turns_set (handle : String) (index : UInt32) (setting : Setting) :
    session.Turns (.set handle index setting) (session.set handle index setting) := by
  unfold set
  split
  · rename_i hcall
    exact turns_unchanged (by simp only [deed, hcall])
  · rename_i call hcall
    have hdeed (answer : Except Refusal Reply) :
        session.deed (.set handle index setting) answer = .called handle call := by
      simp only [deed, hcall]
    unfold withKernel
    split
    · rename_i hnone
      refine turns_of_carry (hdeed _) rfl (fun name => ?_) rfl rfl
      simp only [Deed.carry, hnone]
      rfl
    · rename_i kernel hkernel
      dsimp only
      split
      · rename_i fault hassign
        refine turns_of_carry (hdeed _) rfl (fun name => ?_) rfl rfl
        simp only [Deed.carry, hkernel, Kernel.receive, Kernel.assignAll, hassign]
        by_cases hname : name = handle
        · rw [hname, NameTable.find?_insert_self]
          exact hkernel
        · exact (session.kernels.find?_insert_of_ne kernel hname).symm
      · rename_i kernel' hassign
        refine turns_of_carry (hdeed _) rfl (fun name => ?_) rfl rfl
        simp only [Deed.carry, hkernel, Kernel.receive, Kernel.assignAll, hassign]
        rfl

theorem turns_step (session : Session) (command : Command) :
    session.Turns command (session.step command) := by
  cases command with
  | context handle limits => exact turns_same rfl rfl (Nat.le_refl _) rfl
  | program handle context devices =>
    refine withContext_cases (fun _ => turns_unchanged rfl) fun limits => ?_
    exact turns_same rfl rfl (Nat.le_refl _) rfl
  | rebuild handle device build =>
    refine withProgram_cases (fun _ => turns_unchanged rfl) fun number program => ?_
    split
    · exact turns_unchanged rfl
    · exact turns_same rfl rfl (Nat.le_refl _) rfl
  | builds handle | live handle =>
    exact withProgram_cases (fun _ => turns_unchanged rfl) fun _ _ => turns_unchanged rfl
  | resolve handle name =>
    refine withProgram_cases (fun _ => turns_unchanged rfl) fun number program => ?_
    split <;> exact turns_unchanged rfl
  | create program name handle =>
    refine withProgram_cases (fun _ => turns_unchanged rfl) fun number found => ?_
    split
    · exact turns_unchanged rfl
    · rename_i hmade
      have hunchanged := spawnNamed_ok hmade
      exact turns_install rfl hunchanged.kernels_eq (madeFrom_spawnNamed hmade)
        hunchanged.handled_eq
  | createFrom program metadata handle =>
    refine withProgram_cases (fun _ => turns_unchanged rfl) fun number found => ?_
    split
    · exact turns_unchanged rfl
    · rename_i hmade
      have hunchanged := spawn_ok hmade
      exact turns_install rfl hunchanged.kernels_eq (madeFrom_spawn hmade) hunchanged.handled_eq
  | createAll program base =>
    refine withProgram_cases (fun _ => turns_unchanged rfl) fun number found => ?_
    split
    · rename_i hfailed
      have hunchanged := unchanged_spawnProgram hfailed
      exact turns_same rfl hunchanged.kernels_eq hunchanged.fresh hunchanged.handled_eq
    · rename_i hmade
      obtain ⟨hfrom, hhandled⟩ := madeFrom_spawnProgram hmade
      exact turns_createAll (kernels_spawnProgram hmade) hfrom hhandled
  | copy source handle => exact turns_copy source handle
  | state kernel | metadata kernel | argument kernel index | slot kernel kind slot =>
    exact withKernel_cases (fun _ => turns_unchanged rfl) fun _ => turns_unchanged rfl
  | buffer handle context flags size hostData | image handle context flags kind format size =>
    refine withContext_cases (fun _ => turns_unchanged rfl) fun limits => ?_
    split
    · exact turns_unchanged rfl
    · rename_i object _
      exact turns_stored handle (.memory object) rfl rfl rfl
  | sampler handle context sampler =>
    refine withContext_cases (fun _ => turns_unchanged rfl) fun limits => ?_
    exact turns_stored handle (.sampler sampler) rfl rfl rfl
  | dropMemory handle =>
    refine turns_of_handled rfl rfl (Nat.le_refl _) fun object hobject => ?_
    exact (perm_handled_dropMemory session handle).mem_iff.1 (List.mem_append_left _ hobject)
  | dropSampler handle =>
    refine turns_of_handled rfl rfl (Nat.le_refl _) fun object hobject => ?_
    exact (perm_handled_dropSampler session handle).mem_iff.1 (List.mem_append_left _ hobject)
  | dropKernel handle => exact turns_dropKernel handle
  | set kernel index setting => exact turns_set kernel index setting

theorem turn_next (session : Session) (event : Event) :
    ∃ new, Turn session (session.deedOf event) (kept event) new (session.next event) := by
  cases event with
  | request command => exact turns_step session command
  | keep handle object =>
    simp only [next]
    split
    · rename_i halive
      refine ⟨[], turn_of_carry (fun name => ?_) rfl ?_ fun held hheld => ?_⟩
      · rw [kernels_hold]
        rfl
      · exact Nat.le_of_eq (fresh_hold session handle object).symm
      · rcases mem_handled_hold hheld with rfl | hold
        · exact .inr ⟨List.mem_cons_self, halive⟩
        · exact .inl hold
    · exact ⟨[], turn_of_carry (fun _ => rfl) rfl (Nat.le_refl _) fun _ hheld => .inl hheld⟩

theorem Turn.handled_references {deed : Deed Kernel} {kept new : List (Object Resource)}
    (h : Turn session deed kept new session') {object : Object Resource}
    (hobject : object ∈ session'.handled) : object ∈ session.references ∨ object ∈ new := by
  rcases h.handled object hobject with hheld | ⟨-, hkept⟩ | ⟨hnew, -⟩
  · exact .inl (mem_references.2 (.inl hheld))
  · exact .inl hkept
  · exact .inr hnew

end Session

end KernelBinding
