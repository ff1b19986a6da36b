import KernelBinding.Metadata.Layout
import KernelBinding.Session.Step

/-!
# KernelBinding.Proofs.Atomicity

A request that is refused changes nothing. Most requests check everything before they do anything.
The one that does not is making all kernels of a program: kernels were made and counted when a later
one cannot be made, and releasing them takes all of it back, except for the identities that their
literals got (`Session.Unchanged`).

* `spawn_ok`, `unchanged_release` — what making a kernel does, and that releasing it undoes that.
* `unchanged_spawnAll` — so no kernel is left of a failed attempt to make several.
* `keeps_step`        — no request changes the session and is refused.
* `refused_unchanged` — the same said of sessions, with the objects that are alive.
-/

namespace KernelBinding

namespace Session

/-- One session is as the other was, but identities may have been used up. -/
structure Unchanged (session session' : Session) : Prop where
  eq : session' = { session with fresh := session'.fresh }
  fresh : session.fresh ≤ session'.fresh

theorem Unchanged.refl (session : Session) : session.Unchanged session :=
  ⟨rfl, Nat.le_refl _⟩

/-! ## Making kernels -/

variable {session session' : Session} {number : Nat} {kernel : Kernel}

theorem spawn_ok {limits : Limits} {metadata : Metadata}
    (h : session.spawn number limits metadata = .ok (session', kernel)) :
    (session.attach kernel).Unchanged session' := by
  unfold spawn at h
  split at h
  · cases h
  · cases h
    exact ⟨rfl, Nat.le_add_right ..⟩

theorem spawnNamed_ok {program : Program} {name : String}
    (h : session.spawnNamed number program name = .ok (session', kernel)) :
    (session.attach kernel).Unchanged session' := by
  unfold spawnNamed at h
  split at h
  · cases h
  · exact spawn_ok h

/-- Releasing a new kernel takes back all of its making but the identities. What else went on in
between must have left no trace. -/
theorem unchanged_release {made failed : Session} (hmade : (session.attach kernel).Unchanged made)
    (hfailed : made.Unchanged failed) : session.Unchanged (failed.release kernel) := by
  have hattach : failed = { session.attach kernel with fresh := failed.fresh } := by
    rw [hfailed.eq, hmade.eq]
  refine ⟨?_, Nat.le_trans hmade.fresh hfailed.fresh⟩
  calc failed.release kernel
      = { session.attach kernel with fresh := failed.fresh }.release kernel := by rw [← hattach]
    _ = { (session.attach kernel).release kernel with fresh := failed.fresh } := rfl
    _ = { session with fresh := failed.fresh } := by rw [release_attach]

/-- Making several kernels fails without a trace: the one made first is released last. -/
theorem unchanged_spawnAll {program : Program} {fault : KernelFault} (names : List String) :
    ∀ {session session' : Session},
      session.spawnAll number program names = (session', .error fault) →
        session.Unchanged session' := by
  induction names with
  | nil => intro session session' h; cases h
  | cons name rest ih =>
    -- The rest is made after the first kernel: `ih` is about the session that counts it already.
    intro session session' h
    simp only [spawnAll] at h
    split at h
    · cases h
      exact .refl session
    · rename_i made kernel hmade
      split at h
      · rename_i failed _ hfailed
        cases h
        exact unchanged_release (spawnNamed_ok hmade) (ih hfailed)
      · cases h

theorem unchanged_spawnProgram {program : Program} {fault : KernelFault}
    (h : session.spawnProgram number program = (session', .error fault)) :
    session.Unchanged session' := by
  unfold spawnProgram at h
  split at h
  · cases h
    exact .refl session
  · exact unchanged_spawnAll _ h

/-! ## Requests -/

/-- A request that was refused left a session that is `kept`. -/
def Keeps (kept : Session → Prop) (outcome : Outcome) : Prop :=
  ∀ refusal, outcome.2 = .error refusal → kept outcome.1

section

variable {kept : Session → Prop}

theorem keeps_refuse (h : kept session) (refusal : Refusal) : Keeps kept (session.refuse refusal) :=
  fun _ _ => h

theorem keeps_ok (session : Session) (reply : Reply) : Keeps kept (session, .ok reply) :=
  nofun

theorem keeps_set (h : kept session) (handle : String) (index : UInt32) (setting : Setting) :
    Keeps kept (session.set handle index setting) := by
  unfold set
  split
  · exact keeps_refuse h _
  · refine withKernel_cases (keeps_refuse h) fun kernel => ?_
    split
    · exact keeps_refuse h _
    · exact keeps_ok _ _

theorem keeps_dropKernel (handle : String) : Keeps kept (session.dropKernel handle) := by
  unfold dropKernel
  split <;> exact keeps_ok _ _

/-- A refused request keeps the session itself, unless it was for all kernels of a program. -/
theorem keeps_step (h : kept session) {command : Command}
    (hall : ∀ program handle session', command = .createAll program handle →
      session.Unchanged session' → kept session') : Keeps kept (session.step command) := by
  cases command with
  | context handle limits => exact keeps_ok _ _
  | program handle context devices =>
    exact withContext_cases (keeps_refuse h) fun limits => keeps_ok _ _
  | rebuild handle device build =>
    refine withProgram_cases (keeps_refuse h) fun number program => ?_
    split
    · exact keeps_refuse h _
    · exact keeps_ok _ _
  | builds handle => exact withProgram_cases (keeps_refuse h) fun _ program => keeps_ok _ _
  | resolve handle name =>
    refine withProgram_cases (keeps_refuse h) fun _ program => ?_
    split
    · exact keeps_refuse h _
    · exact keeps_ok _ _
  | create program name handle =>
    refine withProgram_cases (keeps_refuse h) fun number program => ?_
    split
    · exact keeps_refuse h _
    · exact keeps_ok _ _
  | createFrom program metadata handle =>
    refine withProgram_cases (keeps_refuse h) fun number program => ?_
    split
    · exact keeps_refuse h _
    · exact keeps_ok _ _
  | createAll program handle =>
    refine withProgram_cases (keeps_refuse h) fun number program => ?_
    split
    · rename_i hfailed
      exact keeps_refuse (hall _ _ _ rfl (unchanged_spawnProgram hfailed)) _
    · exact keeps_ok _ _
  | copy kernel handle => exact withKernel_cases (keeps_refuse h) fun kernel => keeps_ok _ _
  | state kernel => exact withKernel_cases (keeps_refuse h) fun kernel => keeps_ok _ _
  | metadata kernel => exact withKernel_cases (keeps_refuse h) fun kernel => keeps_ok _ _
  | argument kernel index => exact withKernel_cases (keeps_refuse h) fun kernel => keeps_ok _ _
  | slot kernel kind slot => exact withKernel_cases (keeps_refuse h) fun kernel => keeps_ok _ _
  | live program => exact withProgram_cases (keeps_refuse h) fun _ program => keeps_ok _ _
  | buffer handle context flags size hostData =>
    refine withContext_cases (keeps_refuse h) fun limits => ?_
    split
    · exact keeps_refuse h _
    · exact keeps_ok _ _
  | image handle context flags kind format size =>
    refine withContext_cases (keeps_refuse h) fun limits => ?_
    split
    · exact keeps_refuse h _
    · exact keeps_ok _ _
  | sampler handle context sampler => exact withContext_cases (keeps_refuse h) fun _ => keeps_ok _ _
  | dropMemory handle => exact keeps_ok _ _
  | dropSampler handle => exact keeps_ok _ _
  | dropKernel handle => exact keeps_dropKernel handle
  | set kernel index setting => exact keeps_set h kernel index setting

end

/-- A refused request leaves the session as it was: all kernels, programs and handles, the objects
that are alive, and what is seen of any kernel. Only a request for all kernels of a program may use
up identities for kernels that are gone again. -/
theorem refused_unchanged {command : Command} {refusal : Refusal}
    (h : session.step command = (session', .error refusal)) :
    session.Unchanged session' ∧
      ((∀ program handle, command ≠ .createAll program handle) → session' = session) ∧
      (∀ id, session'.ownsMemory id = session.ownsMemory id) ∧
      (∀ id, session'.ownsSampler id = session.ownsSampler id) ∧
      ∀ kernel, session'.view kernel = session.view kernel := by
  have hstep : ∀ kept : Session → Prop, Keeps kept (session.step command) → kept session' := by
    intro kept hkeeps
    rw [h] at hkeeps
    exact hkeeps refusal rfl
  have hunchanged : session.Unchanged session' :=
    hstep _ (keeps_step (.refl session) fun _ _ _ _ hs => hs)
  refine ⟨hunchanged, ?_, ?_, ?_, ?_⟩
  · intro hne
    have hkeeps : Keeps (· = session) (session.step command) := by
      refine keeps_step ?_ fun program handle _ hall _ => absurd hall (hne program handle)
      rfl
    exact hstep _ hkeeps
  · intro id
    rw [hunchanged.eq]
    rfl
  · intro id
    rw [hunchanged.eq]
    rfl
  · intro kernel
    rw [hunchanged.eq]
    rfl

/-- A program with two kernels; the second has a constant for a slot that there is not. -/
def halfSound : List Command :=
  [.context "c" {}, .program "p" "c" [⟨0, "d"⟩],
    .rebuild "p" ⟨0, "d"⟩ (.executable [.ofItems "first" [.inlineConstant [1]],
      { Metadata.ofItems "second" [.inlineConstant [1]] with uavCount := 0 }])]

/-- The first kernel is made and goes away again, with the constant that belongs to it. -/
theorem halfSound_unchanged :
    ∃ session session' refusal, (run {} halfSound).1 = session ∧
      session.step (.createAll "p" "k") = (session', .error refusal) ∧
      session.Unchanged session' ∧ session'.live 0 = 0 ∧ session'.fresh = 1 := by
  have hstep : ∃ session' refusal,
      (run {} halfSound).1.step (.createAll "p" "k") = (session', .error refusal) := ⟨_, _, rfl⟩
  obtain ⟨session', refusal, h⟩ := hstep
  refine ⟨_, session', refusal, rfl, h, (refused_unchanged h).1, ?_, ?_⟩
  · cases h
    rfl
  · cases h
    rfl

end Session

end KernelBinding
