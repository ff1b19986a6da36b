import Mathlib.Logic.Relation
import KernelBinding.Proofs.Effects

/-!
# KernelBinding.Proofs.Moments

A request is a sequence of operations on programs and kernels: kernels are made, copied, stored
under a handle, taken from it, and released, one at a time. In between there are kernels that no
handle stands for: new ones that are not stored yet, and displaced ones that are not released yet. A
`Moment` has them beside the session.

* `path_spawnAll`     — an attempt to make several kernels releases what it made when it fails.
* `path_storeKernels` — kernels that are stored leave those that had their handles.
* `path_step`         — a request leads from a session without loose kernels to such a session, and
  makes and releases kernels only of programs that it concerns.
-/

namespace KernelBinding

namespace Session

/-- A moment of carrying out a request. -/
structure Moment where
  session : Session
  /-- The kernels that exist and that no handle stands for. -/
  loose : List Kernel := []

namespace Moment

def kernels (moment : Moment) : List Kernel :=
  moment.session.kernels.values ++ moment.loose

/-- One operation on programs and kernels. Those that make or release a kernel do so for one of the
programs `about`. -/
inductive Next (about : Nat → Prop) : Moment → Moment → Prop
  | spawned {session session' : Session} {loose : List Kernel} {kernel : Kernel} {number : Nat}
      {limits : Limits} {metadata : Metadata} :
      about number → number < session.programs.length →
        session.spawn number limits metadata = .ok (session', kernel) →
          Next about ⟨session, loose⟩ ⟨session', loose ++ [kernel]⟩
  | copied {moment : Moment} {kernel : Kernel} :
      about kernel.program → kernel ∈ moment.kernels →
        Next about moment
          ⟨(moment.session.copy kernel).1, moment.loose ++ [(moment.session.copy kernel).2]⟩
  | released {session : Session} {before after : List Kernel} {kernel : Kernel} :
      about kernel.program →
        Next about ⟨session, before ++ kernel :: after⟩ ⟨session.release kernel, before ++ after⟩
  | stored {session : Session} {loose : List Kernel} {kernel : Kernel} (handle : String) :
      Next about ⟨session, kernel :: loose⟩
        ⟨session.storeKernel handle kernel, loose ++ (session.kernels.find? handle).toList⟩
  | taken {session : Session} {loose : List Kernel} (handle : String) :
      Next about ⟨session, loose⟩
        ⟨{ session with kernels := session.kernels.erase handle },
          loose ++ (session.kernels.find? handle).toList⟩
  | assigned {session : Session} {loose : List Kernel} {handle : String} {call : Call}
      {kernel kernel' : Kernel} :
      session.kernels.find? handle = some kernel → kernel.assign call = .ok kernel' →
        Next about ⟨session, loose⟩ ⟨session.storeKernel handle kernel', loose⟩
  | rebuilt {session : Session} {loose : List Kernel} {number : Nat} {device : Device}
      {build : Build} {program program' : Program} :
      session.programs[number]? = some program → program.rebuild device build = .ok program' →
        Next about ⟨session, loose⟩
          ⟨{ session with programs := session.programs.set number program' }, loose⟩
  | added {session : Session} {loose : List Kernel} (handle : String) (limits : Limits)
      (devices : List Device) :
      Next about ⟨session, loose⟩
        ⟨session.addProgram handle (.ofDevices limits devices), loose⟩
  /-- Anything that has nothing to do with programs and kernels. -/
  | other {session session' : Session} {loose : List Kernel} :
      session'.programs = session.programs → session'.kernels = session.kernels →
        Next about ⟨session, loose⟩ ⟨session', loose⟩

/-- A sequence of operations. -/
abbrev Path (about : Nat → Prop) : Moment → Moment → Prop :=
  Relation.ReflTransGen (Next about)

end Moment

/-- The request makes, copies or drops a kernel of the program of this number. -/
inductive Concerns (session : Session) (command : Command) (number : Nat) : Prop
  | create {program name handle : String} {found : Program} :
      command = .create program name handle → session.program? program = some (number, found) →
        Concerns session command number
  | createFrom {program handle : String} {metadata : Metadata} {found : Program} :
      command = .createFrom program metadata handle →
        session.program? program = some (number, found) → Concerns session command number
  | createAll {program base : String} {found : Program} :
      command = .createAll program base → session.program? program = some (number, found) →
        Concerns session command number
  | copy {source handle : String} {kernel : Kernel} :
      command = .copy source handle → session.kernels.find? source = some kernel →
        kernel.program = number → Concerns session command number
  | replaces {handle : String} {kernel : Kernel} :
      session.Replaces handle command → session.kernels.find? handle = some kernel →
        kernel.program = number → Concerns session command number

variable {session session' : Session} {about : Nat → Prop}

open Moment

theorem Unchanged.programs_eq (h : session.Unchanged session') :
    session'.programs = session.programs := by
  rw [h.eq]

theorem length_programs_attach (kernel : Kernel) :
    (session.attach kernel).programs.length = session.programs.length := by
  simp [attach]

/-! ## Making, storing and releasing -/

theorem next_spawnNamed {number : Nat} {program : Program} {name : String} {kernel : Kernel}
    (habout : about number) (hnumber : number < session.programs.length)
    (h : session.spawnNamed number program name = .ok (session', kernel)) (loose : List Kernel) :
    Next about ⟨session, loose⟩ ⟨session', loose ++ [kernel]⟩ := by
  unfold spawnNamed at h
  split at h
  · cases h
  · exact .spawned habout hnumber h

/-- When not all kernels can be made, those that were are gone again. -/
theorem path_spawnAll {number : Nat} {program : Program} (habout : about number)
    (names : List String) : ∀ {session session' : Session}
      {result : Except KernelFault (List Kernel)} (loose : List Kernel),
      number < session.programs.length →
        session.spawnAll number program names = (session', result) →
          Path about ⟨session, loose⟩ ⟨session', loose ++ result.toOption.getD []⟩ := by
  induction names with
  | nil =>
    intro session session' result loose hnumber h
    cases h
    simp only [Except.toOption, Option.getD_some, List.append_nil]
    exact .refl
  | cons name rest ih =>
    intro session session' result loose hnumber h
    simp only [spawnAll] at h
    split at h
    · cases h
      simp only [Except.toOption, Option.getD_none, List.append_nil]
      exact .refl
    · rename_i made kernel hmade
      have hfirst := next_spawnNamed habout hnumber hmade loose
      have hlength : number < made.programs.length := by
        rw [(spawnNamed_ok hmade).programs_eq, length_programs_attach]
        exact hnumber
      -- The first kernel is loose while the rest is made: `ih` is for any loose kernels.
      split at h
      · rename_i failed fault hfailed
        cases h
        have hrest := ih (loose ++ [kernel]) hlength hfailed
        simp only [Except.toOption, Option.getD_none, List.append_nil] at hrest ⊢
        have hlast : Next about ⟨failed, loose ++ [kernel]⟩ ⟨failed.release kernel, loose ++ []⟩ :=
          .released ((spawnNamed_made hmade).program_eq ▸ habout)
        rw [List.append_nil] at hlast
        exact .head hfirst (hrest.tail hlast)
      · rename_i all kernels hrest
        cases h
        have hrest := ih (loose ++ [kernel]) hlength hrest
        simp only [Except.toOption, Option.getD_some, List.append_assoc, List.singleton_append]
          at hrest ⊢
        exact .head hfirst hrest

theorem path_spawnProgram {number : Nat} {program : Program}
    {result : Except KernelFault (List Kernel)} (habout : about number)
    (hnumber : number < session.programs.length)
    (h : session.spawnProgram number program = (session', result)) :
    Path about ⟨session, []⟩ ⟨session', result.toOption.getD []⟩ := by
  unfold spawnProgram at h
  split at h
  · cases h
    exact .refl
  · exact path_spawnAll habout _ [] hnumber h

theorem path_releaseAll (kernels : List Kernel) : ∀ session : Session,
    (∀ kernel ∈ kernels, about kernel.program) →
      Path about ⟨session, kernels⟩ ⟨session.releaseAll kernels, []⟩ := by
  induction kernels with
  | nil => intro session _; exact .refl
  | cons kernel rest ih =>
    intro session habout
    obtain ⟨hfirst, hrest⟩ := List.forall_mem_cons.1 habout
    have hnext : Next about ⟨session, [] ++ kernel :: rest⟩ ⟨session.release kernel, [] ++ rest⟩ :=
      .released hfirst
    exact .head hnext (ih (session.release kernel) hrest)

theorem path_install (handle : String) (kernel : Kernel)
    (habout : ∀ other, session.kernels.find? handle = some other → about other.program) :
    Path about ⟨session, [kernel]⟩ ⟨(session.install handle kernel).1, []⟩ := by
  refine .head (.stored handle) (path_releaseAll _ _ fun other hother => ?_)
  exact habout other (Option.mem_toList.1 hother)

/-- The kernels are stored one after another, and those that give way line up behind the others. -/
theorem path_storeKernels (base : String) (kernels : List Kernel) :
    ∀ (session : Session) (index : Nat) (displaced : List Kernel),
      Path about ⟨session, kernels ++ displaced⟩
        ⟨(session.storeKernels base index kernels).1,
          displaced ++ (session.storeKernels base index kernels).2⟩ := by
  induction kernels with
  | nil =>
    intro session index displaced
    simp only [storeKernels, List.nil_append, List.append_nil]
    exact .refl
  | cons kernel rest ih =>
    -- What gives way now is displaced from then on, so `ih` is about more displaced kernels.
    intro session index displaced
    have hrest := ih (session.storeKernel (base ++ toString index) kernel) (index + 1)
      (displaced ++ (session.kernels.find? (base ++ toString index)).toList)
    simp only [storeKernels]
    rw [← List.append_assoc] at hrest ⊢
    exact .head (.stored (base ++ toString index)) hrest

theorem path_installAll (base : String) (kernels : List Kernel)
    (habout : ∀ index other, index < kernels.length →
      session.kernels.find? (base ++ toString index) = some other → about other.program) :
    Path about ⟨session, kernels⟩ ⟨(session.installAll base kernels).1, []⟩ := by
  have hstored : Path about ⟨session, kernels ++ []⟩ ⟨(session.storeKernels base 0 kernels).1,
      [] ++ (session.storeKernels base 0 kernels).2⟩ := path_storeKernels base kernels session 0 []
  rw [List.append_nil, List.nil_append] at hstored
  refine hstored.trans (path_releaseAll _ _ fun other hother => ?_)
  obtain ⟨index, _, hlt, hfind⟩ := mem_storeKernels kernels session 0 hother
  exact habout index other (by omega) hfind

theorem path_drop {handle : String} {kernel : Kernel}
    (hkernel : session.kernels.find? handle = some kernel) (habout : about kernel.program) :
    Path about ⟨session, []⟩
      ⟨{ session with kernels := session.kernels.erase handle }.release kernel, []⟩ := by
  have htaken : Next about ⟨session, []⟩
      ⟨{ session with kernels := session.kernels.erase handle },
        [] ++ (session.kernels.find? handle).toList⟩ := .taken handle
  rw [hkernel] at htaken
  exact .head htaken (path_releaseAll [kernel] _ (List.forall_mem_singleton.2 habout))

/-! ## Requests -/

/-- A request leads from the session without loose kernels to such a session. -/
theorem path_step (session : Session) (command : Command) :
    Path (Concerns session command) ⟨session, []⟩ ⟨(session.step command).1, []⟩ := by
  have hlength {handle number found} (h : session.program? handle = some (number, found)) :
      number < session.programs.length := (List.getElem?_eq_some_iff.1 (getElem?_of_program? h)).1
  have heffect := session.effect_step command
  generalize (session.step command).1 = session' at heffect ⊢
  cases heffect with
  | none hprograms hkernels => exact .single (.other hprograms hkernels)
  | program => exact .single (.added _ _ _)
  | rebuild hfound hrebuild =>
    exact .single (.rebuilt (getElem?_of_program? hfound) hrebuild)
  | @create program name handle number found made kernel hfound hmade =>
    have habout : Concerns session (.create program name handle) number := .create rfl hfound
    refine .head (next_spawnNamed habout (hlength hfound) hmade [])
      (path_install _ _ fun other hother => ?_)
    rw [(spawnNamed_ok hmade).kernels_eq] at hother
    exact .replaces rfl hother rfl
  | @createFrom program handle metadata number found made kernel hfound hmade =>
    have habout : Concerns session (.createFrom program metadata handle) number :=
      .createFrom rfl hfound
    refine .head (.spawned habout (hlength hfound) hmade)
      (path_install _ _ fun other hother => ?_)
    rw [(spawn_ok hmade).kernels_eq] at hother
    exact .replaces rfl hother rfl
  | @createAll program base number found made kernels hfound hmade =>
    have habout : Concerns session (.createAll program base) number := .createAll rfl hfound
    refine (path_spawnProgram habout (hlength hfound) hmade).trans
      (path_installAll _ _ fun index other hindex hother => ?_)
    rw [kernels_spawnProgram hmade] at hother
    rw [Except.toOption, Option.getD_some, (spawnProgram_ok hmade).1] at hindex
    exact .replaces ⟨number, found, index, hfound, hindex, rfl⟩ hother rfl
  | createNone hfound hfailed =>
    exact path_spawnProgram (.createAll rfl hfound) (hlength hfound) hfailed
  | @copy source handle kernel hkernel =>
    have habout : Concerns session (.copy source handle) kernel.program := .copy rfl hkernel rfl
    have hstored : kernel ∈ Moment.kernels ⟨session, []⟩ :=
      List.mem_append_left _ (session.kernels.mem_values_iff.2 ⟨source, hkernel⟩)
    refine .head (.copied habout hstored)
      (path_install _ _ fun other hother => ?_)
    exact .replaces rfl hother rfl
  | set hkernel hassign =>
    exact .single (.assigned hkernel hassign)
  | drop hkernel => exact path_drop hkernel (.replaces rfl hkernel rfl)

end Session

end KernelBinding
