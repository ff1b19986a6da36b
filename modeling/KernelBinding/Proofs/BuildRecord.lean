import Mathlib.Logic.Function.Basic
import KernelBinding.Proofs.Rebuild

/-!
# KernelBinding.Proofs.BuildRecord

The last build for a device. A program of distinct devices holds for each of them the build of the
last request to rebuild it for this device that was carried out, whatever the other requests were.

* `record?_tabulate` — recording a build changes what there is for its device.
* `recordAll_tabulate` — so of several builds the last one for each device stays.
* `builds?_step_eq`  — of all requests only one to rebuild the program records a build.
* `builds?_run`      — so after a run all that were recorded are there, one over another.
* `builds?_run_new`  — for a program that was made in the run, the last one for each device.
-/

namespace KernelBinding

/-- The last of the builds for the device. -/
def lastBuild? (recorded : List (Device × Build)) (device : Device) : Option Build :=
  (recorded.findRev? (·.1 == device)).map (·.2)

theorem lastBuild?_cons (first : Device × Build) (rest : List (Device × Build)) (device : Device) :
    lastBuild? (first :: rest) device =
      (lastBuild? rest device).or (if first.1 = device then some first.2 else none) := by
  rw [lastBuild?, lastBuild?, List.findRev?]
  cases rest.findRev? (·.1 == device) with
  | some found => rfl
  | none => by_cases h : first.1 = device <;> simp [h]

namespace BuildTable

/-- The table that holds `last device` for each of the devices. -/
def tabulate (devices : List Device) (last : Device → Option Build) : BuildTable :=
  devices.map fun device => (device, last device)

/-- Records builds one after another. -/
def recordAll (builds : BuildTable) (recorded : List (Device × Build)) : BuildTable :=
  recorded.foldl (fun builds entry => (builds.record? entry.1 entry.2).getD builds) builds

variable {devices : List Device}

theorem tabulate_cons (first : Device) (rest : List Device) (last : Device → Option Build) :
    tabulate (first :: rest) last = (first, last first) :: tabulate rest last :=
  rfl

theorem tabulate_update_of_notMem {device : Device} (h : device ∉ devices)
    (last : Device → Option Build) (build : Build) :
    tabulate devices (Function.update last device (some build)) = tabulate devices last := by
  refine List.map_congr_left fun other hother => ?_
  rw [Function.update_of_ne]
  rintro rfl
  exact h hother

/-- Where the device is not in the table nothing is recorded, and nothing changes. -/
theorem record?_tabulate (hdistinct : devices.Nodup) (last : Device → Option Build)
    (device : Device) (build : Build) :
    ((tabulate devices last).record? device build).getD (tabulate devices last) =
      tabulate devices (Function.update last device (some build)) := by
  induction devices with
  | nil => rfl
  | cons first rest ih =>
    obtain ⟨hfirst, hrest⟩ := List.nodup_cons.1 hdistinct
    rw [tabulate_cons, tabulate_cons, record?]
    by_cases heq : first = device
    · subst heq
      rw [if_pos rfl, Option.getD_some, Function.update_self, tabulate_update_of_notMem hfirst]
    · rw [if_neg heq, Function.update_of_ne heq, ← ih hrest]
      cases (tabulate rest last).record? device build <;> rfl

theorem recordAll_tabulate (hdistinct : devices.Nodup) (recorded : List (Device × Build)) :
    ∀ last : Device → Option Build, (tabulate devices last).recordAll recorded =
      tabulate devices fun device => (lastBuild? recorded device).or (last device) := by
  -- From the front: the first build is what the table held before, as far as the rest can tell.
  induction recorded with
  | nil => intro last; rfl
  | cons first rest ih =>
    intro last
    rw [recordAll, List.foldl_cons, record?_tabulate hdistinct]
    refine (ih _).trans (congrArg (tabulate devices) (funext fun device => ?_))
    rw [lastBuild?_cons, Option.or_assoc]
    by_cases h : first.1 = device
    · subst h
      rw [Function.update_self, if_pos rfl, Option.some_or]
    · rw [Function.update_of_ne (Ne.symm h), if_neg h, Option.none_or]

end BuildTable

namespace Session

variable {session : Session} {number : Nat} {builds : BuildTable}

/-- What a request that is carried out builds the program of this number into, with the device. -/
def rebuildOf? (session : Session) (number : Nat) : Command → Option (Device × Build)
  | .rebuild handle device build =>
    if (session.program? handle).any (·.1 == number) ∧
        (session.step (.rebuild handle device build)).2.isOk then
      some (device, build)
    else none
  | _ => none

/-- All builds that are recorded for the program of this number in a run, in order. -/
def rebuilds (session : Session) (number : Nat) : List Command → List (Device × Build)
  | [] => []
  | command :: rest =>
    (session.rebuildOf? number command).toList ++ (session.step command).1.rebuilds number rest

theorem rebuildOf?_eq_some {command : Command} {device : Device} {build : Build} :
    session.rebuildOf? number command = some (device, build) ↔
      ∃ handle program program', command = .rebuild handle device build ∧
        session.program? handle = some (number, program) ∧
          program.rebuild device build = .ok program' := by
  constructor
  · intro h
    cases command with
    | rebuild handle device' build' =>
      simp only [rebuildOf?, Option.ite_none_right_eq_some, Option.any_eq_true, beq_iff_eq] at h
      obtain ⟨⟨⟨⟨of, program⟩, hfound, rfl⟩, hok⟩, heq⟩ := h
      cases heq
      cases hrebuild : program.rebuild device build with
      | error fault =>
        rw [step_rebuild_of_error hfound hrebuild] at hok
        cases hok
      | ok program' => exact ⟨handle, program, program', rfl, hfound, hrebuild⟩
    | _ => cases h
  · rintro ⟨handle, program, program', rfl, hfound, hrebuild⟩
    simp [rebuildOf?, hfound, step_rebuild_of_ok hfound hrebuild, Except.isOk, Except.toBool]

theorem builds?_step_eq (h : session.builds? number = some builds) (command : Command) :
    (session.step command).1.builds? number =
      some (builds.recordAll (session.rebuildOf? number command).toList) := by
  cases hrecorded : session.rebuildOf? number command with
  | none =>
    refine builds?_step_of_ne h ?_
    -- Had this program been rebuilt, that would be recorded.
    rintro handle device build of program program' rfl hfound hrebuild rfl
    rw [rebuildOf?_eq_some.2 ⟨handle, program, program', rfl, hfound, hrebuild⟩] at hrecorded
    cases hrecorded
  | some entry =>
    obtain ⟨device, build⟩ := entry
    obtain ⟨handle, program, program', rfl, hfound, hrebuild⟩ := rebuildOf?_eq_some.1 hrecorded
    have hbuilds : program.builds = builds :=
      Option.some.inj ((builds?_of_program? hfound).symm.trans h)
    obtain ⟨hlt, -⟩ := List.getElem?_eq_some_iff.1 (getElem?_of_program? hfound)
    rw [step_rebuild_of_ok hfound hrebuild, builds?, List.getElem?_set_self hlt]
    obtain ⟨-, after, hrecord, rfl⟩ := Program.rebuild_ok hrebuild
    rw [Option.toList_some, BuildTable.recordAll, List.foldl_cons, List.foldl_nil, ← hbuilds,
      hrecord]
    rfl

theorem builds?_run (commands : List Command) : ∀ {session : Session} {builds : BuildTable},
    session.builds? number = some builds →
      (session.run commands).1.builds? number =
        some (builds.recordAll (session.rebuilds number commands)) := by
  induction commands with
  | nil => intro session builds h; exact h
  | cons command rest ih =>
    intro session builds h
    refine (ih (builds?_step_eq h command)).trans (congrArg some ?_)
    exact List.foldl_append.symm

/-- A program that a run begins with gets the next number, and holds in the end the last build that
was recorded for each of its devices. -/
theorem builds?_run_new (handle : String) {context : String} {limits : Limits}
    {devices : List Device} (hcontext : session.contexts.find? context = some limits)
    (hdistinct : devices.Nodup) (commands : List Command) :
    let commands := .program handle context devices :: commands
    (session.run commands).1.builds? session.programs.length = some (.tabulate devices
      (lastBuild? (session.rebuilds session.programs.length commands))) := by
  have hnew : (session.step (.program handle context devices)).1.builds? session.programs.length =
      some (.tabulate devices fun _ => none) := by
    simp only [step, withContext, hcontext, builds?, addProgram, List.getElem?_concat_length]
    rfl
  refine (builds?_run commands hnew).trans (congrArg some ?_)
  rw [BuildTable.recordAll_tabulate hdistinct]
  simp only [Option.or_none]
  rfl

end Session

end KernelBinding
