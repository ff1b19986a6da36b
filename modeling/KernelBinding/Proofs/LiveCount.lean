import KernelBinding.Proofs.Moments

/-!
# KernelBinding.Proofs.LiveCount

Every program counts its kernels exactly: at each moment its counter is the number of its kernels,
those that no handle stands for included. So the counter never falls below zero, and only a request
that concerns a program changes its count.

* `change_of_next` — what an operation does to the kernels there are, and to the counters with them.
* `counted_next`   — so it keeps the count, up to the width of the counter.
* `live_path`      — and the counts of the programs that the operations are not about.
* `live_counts_kernels` — the same said of requests.
-/

namespace KernelBinding

namespace Session

namespace Moment

/-- How many kernels of a program there are. -/
def count (moment : Moment) (number : Nat) : Nat :=
  moment.kernels.countP (·.program == number)

/-- The counters agree with the kernels, as far as a counter can tell numbers apart. -/
structure Counted (moment : Moment) : Prop where
  known : ∀ kernel ∈ moment.kernels, kernel.program < moment.session.programs.length
  live_eq : ∀ number, moment.session.live number = .ofNat (moment.count number)

/-- The counters are the numbers of kernels, and those of the kernels there are have not run out. -/
structure Exact (moment : Moment) : Prop where
  live_eq : ∀ number, (moment.session.live number).toNat = moment.count number
  pos : ∀ kernel ∈ moment.kernels, 0 < moment.session.live kernel.program

end Moment

variable {session session' : Session} {about : Nat → Prop}

/-! ## The counters -/

theorem live_congr (h : session'.programs = session.programs) (number : Nat) :
    session'.live number = session.live number := by
  rw [live, live, h]

theorem live_attach {kernel : Kernel} (h : kernel.program < session.programs.length)
    (number : Nat) : (session.attach kernel).live number =
      session.live number + if kernel.program = number then 1 else 0 := by
  unfold live attach
  by_cases heq : kernel.program = number
  · subst heq
    simp [h, Program.attach]
  · simp [heq]

theorem live_release {kernel : Kernel} (h : kernel.program < session.programs.length)
    (number : Nat) : (session.release kernel).live number =
      session.live number - if kernel.program = number then 1 else 0 := by
  unfold live release
  by_cases heq : kernel.program = number
  · subst heq
    simp [h, Program.detach]
  · simp [heq]

theorem length_programs_release (kernel : Kernel) :
    (session.release kernel).programs.length = session.programs.length := by
  simp [release]

theorem live_addProgram (session : Session) (handle : String) (limits : Limits)
    (devices : List Device) (number : Nat) :
    (session.addProgram handle (.ofDevices limits devices)).live number = session.live number := by
  unfold live addProgram
  rcases Nat.lt_trichotomy number session.programs.length with h | rfl | h
  · rw [List.getElem?_append_left h]
  · simp [Program.ofDevices]
  · have hlt : (session.programs ++ [Program.ofDevices limits devices]).length ≤ number := by
      rw [List.length_append]
      exact h
    rw [List.getElem?_eq_none hlt, List.getElem?_eq_none (Nat.le_of_lt h)]

theorem live_rebuild {number : Nat} {device : Device} {build : Build} {program program' : Program}
    (hprogram : session.programs[number]? = some program)
    (h : program.rebuild device build = .ok program') (other : Nat) :
    { session with programs := session.programs.set number program' }.live other =
      session.live other := by
  obtain ⟨_, builds, _, rfl⟩ := Program.rebuild_ok h
  unfold live
  rw [List.getElem?_set]
  split
  · rename_i heq
    subst heq
    obtain ⟨hlt, _⟩ := List.getElem?_eq_some_iff.1 hprogram
    rw [if_pos hlt, hprogram]
    rfl
  · rfl

/-! ## What an operation does to the counts -/

namespace Moment

variable {moment moment' : Moment}

/-- A kernel came into being, or one went away, or there are as many kernels of each program as
before. -/
inductive Change (about : Nat → Prop) (moment moment' : Moment) : Prop
  | came {kernel : Kernel} : about kernel.program →
      kernel.program < moment.session.programs.length →
        moment'.session.programs = (moment.session.attach kernel).programs →
          moment'.kernels.Perm (kernel :: moment.kernels) → Change about moment moment'
  | went {kernel : Kernel} : about kernel.program →
      moment'.session.programs = (moment.session.release kernel).programs →
        moment.kernels.Perm (kernel :: moment'.kernels) → Change about moment moment'
  | stayed : moment.session.programs.length ≤ moment'.session.programs.length →
      (∀ number, moment'.session.live number = moment.session.live number) →
        (moment'.kernels.map (·.program)).Perm (moment.kernels.map (·.program)) →
          Change about moment moment'

theorem change_of_perm (hprograms : moment'.session.programs = moment.session.programs)
    (hperm : moment'.kernels.Perm moment.kernels) : Change about moment moment' :=
  .stayed (hprograms ▸ Nat.le_refl _) (live_congr hprograms) (hperm.map _)

theorem perm_made {loose : List Kernel} (h : session'.kernels = session.kernels) (kernel : Kernel) :
    (kernels ⟨session', loose ++ [kernel]⟩).Perm (kernel :: kernels ⟨session, loose⟩) := by
  simp only [kernels, h, ← List.append_assoc]
  exact List.perm_append_singleton kernel _

/-- The kernel under the handle gives way to one of the same program. -/
theorem perm_assigned {loose : List Kernel} {handle : String} {kernel kernel' : Kernel}
    (hkernel : session.kernels.find? handle = some kernel)
    (hprogram : kernel'.program = kernel.program) :
    ((kernels ⟨session.storeKernel handle kernel', loose⟩).map (·.program)).Perm
      ((kernels ⟨session, loose⟩).map (·.program)) := by
  have hperm := session.kernels.perm_values_insert handle kernel'
  rw [hkernel] at hperm
  have hmap := (hperm.trans (List.perm_append_singleton kernel' _).symm).map (·.program)
  simp only [Option.toList_some, List.map_append, List.map_cons, List.map_nil, hprogram] at hmap
  simp only [kernels, List.map_append, storeKernel]
  exact ((List.perm_append_right_iff _).1 hmap).append_right _

theorem change_of_next (h : Next about moment moment') (hcounted : moment.Counted) :
    Change about moment moment' := by
  cases h with
  | spawned habout hnumber hmade =>
    have hprogram := (spawn_made hmade).program_eq
    exact .came (hprogram ▸ habout) (hprogram ▸ hnumber) (spawn_ok hmade).programs_eq
      (perm_made (spawn_ok hmade).kernels_eq _)
  | copied habout hkernel => exact .came habout (hcounted.known _ hkernel) rfl (perm_made rfl _)
  | released habout =>
    refine .went habout rfl ?_
    simp only [kernels, ← List.append_assoc]
    exact List.perm_middle
  | @stored session loose kernel handle =>
    refine change_of_perm rfl ?_
    -- The kernel that is stored was the first loose one; the one it displaces becomes the last.
    have hstored := session.kernels.perm_values_insert handle kernel
    refine List.perm_iff_count.2 fun other => ?_
    have hcount := hstored.count_eq other
    simp only [kernels, storeKernel, List.count_append, List.count_cons] at hcount ⊢
    omega
  | @taken session loose handle =>
    refine change_of_perm rfl ?_
    have herased := session.kernels.perm_values_erase handle
    refine List.perm_iff_count.2 fun other => ?_
    have hcount := herased.count_eq other
    simp only [kernels, List.count_append] at hcount ⊢
    omega
  | assigned hkernel hassign =>
    obtain ⟨_, _, _, rfl⟩ := Kernel.assign_ok hassign
    exact .stayed (Nat.le_refl _) (fun _ => rfl) (perm_assigned hkernel rfl)
  | rebuilt hprogram hrebuild =>
    exact .stayed (by simp) (live_rebuild hprogram hrebuild) (.refl _)
  | added handle limits devices =>
    exact .stayed (by simp [addProgram]) (live_addProgram _ handle limits devices) (.refl _)
  | other hprograms hkernels =>
    exact change_of_perm hprograms (by rw [kernels, hkernels, kernels])

theorem count_of_perm {kernel : Kernel} (h : moment'.kernels.Perm (kernel :: moment.kernels))
    (number : Nat) : moment'.count number =
      moment.count number + if kernel.program = number then 1 else 0 := by
  rw [count, h.countP_eq, List.countP_cons, count]
  simp only [beq_iff_eq]

theorem counted_next (h : Next about moment moment') (hcounted : moment.Counted) :
    moment'.Counted := by
  -- Both sides of `live_eq` wrap around together, so a step needs no bound on the kernels.
  have hchange := change_of_next h hcounted
  obtain ⟨hknown, hlive⟩ := hcounted
  cases hchange with
  | came _ hkernel hprograms hperm =>
    refine ⟨fun other hother => ?_, fun number => ?_⟩
    · rw [hprograms, length_programs_attach]
      rcases List.mem_cons.1 (hperm.mem_iff.1 hother) with rfl | hother
      · exact hkernel
      · exact hknown other hother
    · rw [live_congr hprograms, live_attach hkernel, hlive, count_of_perm hperm]
      split <;> simp [UInt32.ofNat_add]
  | went _ hprograms hperm =>
    have hkernel := hknown _ (hperm.mem_iff.2 List.mem_cons_self)
    refine ⟨fun other hother => ?_, fun number => ?_⟩
    · rw [hprograms, length_programs_release]
      exact hknown other (hperm.mem_iff.2 (List.mem_cons_of_mem _ hother))
    · rw [live_congr hprograms, live_release hkernel, hlive, count_of_perm hperm]
      split <;> simp [UInt32.ofNat_add]
  | stayed hlength hlives hperm =>
    refine ⟨fun other hother => ?_, fun number => ?_⟩
    · have hprogram : other.program ∈ moment.kernels.map (·.program) :=
        hperm.mem_iff.1 (List.mem_map.2 ⟨other, hother, rfl⟩)
      obtain ⟨kernel, hkernel, heq⟩ := List.mem_map.1 hprogram
      rw [← heq]
      exact Nat.lt_of_lt_of_le (hknown kernel hkernel) hlength
    · have hcount : moment'.count number = moment.count number := by
        have hsame := hperm.countP_eq (· == number)
        rw [List.countP_map, List.countP_map] at hsame
        exact hsame
      rw [hlives, hlive, hcount]

theorem counted_path (h : Path about moment moment') (hcounted : moment.Counted) :
    moment'.Counted := by
  induction h with
  | refl => exact hcounted
  | tail _ hnext ih => exact counted_next hnext ih

theorem Counted.exact (h : moment.Counted) (hfew : moment.kernels.length < UInt32.size) :
    moment.Exact := by
  have hlive : ∀ number, (moment.session.live number).toNat = moment.count number := by
    intro number
    have hle : moment.count number ≤ moment.kernels.length := List.countP_le_length
    rw [h.live_eq, UInt32.toNat_ofNat_of_lt' (by omega)]
  refine ⟨hlive, fun kernel hkernel => ?_⟩
  rw [UInt32.lt_iff_toNat_lt, hlive]
  exact List.countP_pos_iff.2 ⟨kernel, hkernel, beq_self_eq_true _⟩

theorem ne_of_about {a b : Nat} (ha : about a) (hb : ¬ about b) : a ≠ b := by
  rintro rfl
  exact hb ha

/-- A program that the operations are not about keeps its count. -/
theorem live_path (h : Path about moment moment') (hcounted : moment.Counted) {number : Nat}
    (hother : ¬ about number) : moment'.session.live number = moment.session.live number := by
  induction h with
  | refl => rfl
  | tail hpath hnext ih =>
    have hbefore := counted_path hpath hcounted
    refine Eq.trans ?_ ih
    cases change_of_next hnext hbefore with
    | came habout hkernel hprograms _ =>
      rw [live_congr hprograms, live_attach hkernel, if_neg (ne_of_about habout hother),
        UInt32.add_zero]
    | went habout hprograms hperm =>
      have hkernel := hbefore.known _ (hperm.mem_iff.2 List.mem_cons_self)
      rw [live_congr hprograms, live_release hkernel, if_neg (ne_of_about habout hother),
        UInt32.sub_zero]
    | stayed _ hlives _ => exact hlives number

end Moment

open Moment

theorem counted_run (commands : List Command) : Counted ⟨(run {} commands).1, []⟩ := by
  have hstep : ∀ session command, Counted ⟨session, []⟩ → Counted ⟨(session.step command).1, []⟩ :=
    fun session command hcounted => counted_path (path_step session command) hcounted
  exact run_induction hstep commands ⟨nofun, fun _ => rfl⟩

/-- After any requests the count of every program is the number of its kernels, as long as there are
fewer kernels than a counter can tell apart. The same holds at each moment of whatever operations on
programs and kernels come next, in any order; so a kernel that goes away was counted. Every request
is a sequence of such operations, and one that does not concern a program keeps its count. -/
theorem live_counts_kernels {commands : List Command} {session : Session}
    (h : (run {} commands).1 = session) :
    (session.kernels.values.length < UInt32.size → ∀ number,
      (session.live number).toNat = session.kernels.values.countP (·.program == number)) ∧
    (∀ about moment, Path about ⟨session, []⟩ moment → moment.kernels.length < UInt32.size →
      moment.Exact) ∧
    (∀ about moment, Path about ⟨session, []⟩ moment → ∀ number, ¬ about number →
      moment.session.live number = session.live number) ∧
    ∀ command, Path (Concerns session command) ⟨session, []⟩ ⟨(session.step command).1, []⟩ := by
  subst h
  have hcounted := counted_run commands
  refine ⟨fun hfew number => ?_, fun about moment hpath hfew => ?_,
    fun about moment hpath number hother => ?_, path_step _⟩
  · have hexact := hcounted.exact (by simpa only [Moment.kernels, List.append_nil] using hfew)
    simpa only [Moment.count, Moment.kernels, List.append_nil] using hexact.live_eq number
  · exact (counted_path hpath hcounted).exact hfew
  · exact live_path hpath hcounted hother

/-- Two programs, the first with a kernel and a copy of it, after an attempt to make all kernels of
the first that made one of them in vain. -/
def crowded : List Command :=
  halfSound ++ [.program "q" "c" [⟨0, "d"⟩],
    .rebuild "q" ⟨0, "d"⟩ (.executable [.ofItems "only" []]),
    .create "p" "first" "k", .copy "k" "l", .createAll "p" "m"]

/-- A kernel of the second program takes over the handle of the copy. -/
theorem crowded_live_counts :
    ∃ session session', (run {} crowded).1 = session ∧
      session.kernels.values.length < UInt32.size ∧
      (∀ number, (session.live number).toNat =
        session.kernels.values.countP (·.program == number)) ∧
      (session.live 0, session.live 1) = (2, 0) ∧
      (session.step (.create "q" "only" "l")).1 = session' ∧
      Exact ⟨session', []⟩ ∧ (session'.live 0, session'.live 1) = (1, 1) := by
  obtain ⟨hlive, hexact, _, hstep⟩ := live_counts_kernels (show (run {} crowded).1 = _ from rfl)
  have hpath := hstep (.create "q" "only" "l")
  exact ⟨_, _, rfl, by decide, hlive (by decide), rfl, rfl, hexact _ _ hpath (by decide), rfl⟩

end Session

end KernelBinding
