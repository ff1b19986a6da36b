import KernelBinding.Kernel.Construction
import KernelBinding.Proofs.Assignment

/-!
# KernelBinding.Proofs.Runs

Runs of calls on one kernel. A refused call leaves no trace, so a run is the fold of its accepted
calls (`assignAll_eq`), and a call is accepted or refused whatever came before it (`accepted_eq`).

* `findRev?_eq_some` — what it is to be the last element that passes a test.
* `getElem?_foldl` — the last write wins, for any table and any kind of write.
* `getElem?_uavs_foldl` and its siblings — the same for the five tables of a kernel.
-/

namespace KernelBinding

/-! ## The last element that passes a test -/

section

variable {α : Type} {p : α → Bool} {a : α}

theorem findRev?_eq_none {l : List α} :
    l.findRev? p = none ↔ ∀ (j : Nat) (b : α), l[j]? = some b → ¬ p b := by
  rw [List.findRev?_eq_find?_reverse, List.find?_eq_none]
  simp only [List.mem_reverse]
  exact ⟨fun h j b hb => h b (List.mem_of_getElem? hb),
    fun h b hb => (List.getElem?_of_mem hb).elim fun j hj => h j b hj⟩

theorem findRev?_eq_some {l : List α} : l.findRev? p = some a ↔
    ∃ i : Nat, l[i]? = some a ∧ p a ∧ ∀ (j : Nat) (b : α), i < j → l[j]? = some b → ¬ p b := by
  induction l with
  | nil => simp
  | cons x rest ih =>
    rw [List.findRev?]
    constructor
    · intro h
      split at h
      · rename_i hrest
        cases h
        obtain ⟨i, hi, hp, hlast⟩ := ih.1 hrest
        refine ⟨i + 1, hi, hp, fun j b hj hb => ?_⟩
        cases j with
        | zero => omega
        | succ j => exact hlast j b (Nat.lt_of_succ_lt_succ hj) hb
      · rename_i hrest
        split at h
        · rename_i hx
          cases h
          refine ⟨0, rfl, hx, fun j b hj hb => ?_⟩
          cases j with
          | zero => omega
          | succ j => exact findRev?_eq_none.1 hrest j b hb
        · cases h
    · rintro ⟨i, hi, hp, hlast⟩
      have hlater : ∀ (j : Nat) (b : α), i < j + 1 → rest[j]? = some b → ¬ p b :=
        fun j b hj hb => hlast (j + 1) b hj hb
      cases i with
      | zero =>
        cases hi
        rw [findRev?_eq_none.2 fun j b hb => hlater j b (Nat.succ_pos j) hb]
        exact if_pos hp
      | succ i =>
        rw [ih.2 ⟨i, hi, hp, fun j b hj hb => hlater j b (Nat.succ_lt_succ hj) hb⟩]

end

/-! ## The last write -/

/-- When every event of a list writes the places it hits and leaves the others, a place holds in the
end what the last event that hits it wrote, or what it held in the beginning. -/
theorem getElem?_foldl {σ α β : Type} (table : σ → List α) (step : σ → β → σ)
    (hits : β → Nat → Bool) (value : β → Nat → α) (events : List β)
    (h : ∀ e ∈ events, ∀ s i, (table (step s e))[i]? =
      (table s)[i]?.map fun old => if hits e i then value e i else old) (s : σ) (i : Nat) :
    (table (events.foldl step s))[i]? = (table s)[i]?.map fun old =>
      ((events.findRev? (hits · i)).map (value · i)).getD old := by
  -- From the front: the rest decides, and the first event counts only if the rest never hits `i`.
  induction events generalizing s with
  | nil =>
    simp only [List.foldl_nil, List.findRev?, Option.map_none, Option.getD_none, Option.map_id']
  | cons e rest ih =>
    rw [List.foldl_cons, ih (fun d hd => h d (List.mem_cons_of_mem e hd)),
      h e List.mem_cons_self, Option.map_map]
    congr 1
    funext old
    simp only [Function.comp, List.findRev?]
    cases rest.findRev? (hits · i) with
    | some d => rfl
    | none => by_cases hit : hits e i <;> simp [hit]

namespace Metadata

/-- The argument a call is about satisfies `test`. -/
def concerns (metadata : Metadata) (test : Argument → Bool) (call : Call) : Bool :=
  (metadata.args[call.index.toNat]?).any test

/-- Byte `i` of the arguments buffer, as a call whose argument has that byte writes it. -/
def byte (metadata : Metadata) (call : Call) (i : Nat) : UInt8 :=
  match metadata.args[call.index.toNat]? with
  | some arg => (arg.encoding call)[i - arg.placement.start]?.getD 0
  | none => 0

def configured (metadata : Metadata) (call : Call) : ArgumentConfig :=
  match metadata.args[call.index.toNat]? with
  | some arg => arg.configured call
  | none => .none

/-- What a call does to bindings once it is accepted. -/
def perform (metadata : Metadata) (bindings : Bindings) (call : Call) : Bindings :=
  match metadata.args[call.index.toNat]? with
  | some arg => bindings.apply call.index.toNat arg (arg.payload call)
  | none => bindings

def accepts (metadata : Metadata) (call : Call) : Bool :=
  (metadata.accept call).isOk

variable {metadata : Metadata} {call : Call}

theorem accept_ok {arg : Argument} {payload : Payload}
    (h : metadata.accept call = .ok (arg, payload)) :
    metadata.args[call.index.toNat]? = some arg ∧
      arg.accept call.size call.value = .ok payload := by
  unfold accept at h
  split at h
  · cases h
  · rename_i hget
    split at h
    · cases h
    · rename_i hacc
      cases h
      exact ⟨hget, hacc⟩

theorem exists_of_accepts (h : metadata.accepts call) :
    ∃ arg payload, metadata.args[call.index.toNat]? = some arg ∧
      arg.accept call.size call.value = .ok payload := by
  unfold accepts at h
  cases hacc : metadata.accept call with
  | error fault => rw [hacc] at h; cases h
  | ok given => exact ⟨given.1, given.2, accept_ok hacc⟩

theorem length_encoding (h : metadata.accepts call) {arg : Argument}
    (hget : metadata.args[call.index.toNat]? = some arg) :
    (arg.encoding call).length = arg.placement.extent := by
  obtain ⟨other, payload, hother, hval⟩ := exists_of_accepts h
  rw [hother] at hget
  cases hget
  exact (Argument.accept_ok hval).2

end Metadata

namespace Kernel

/-- The calls of a run that the kernel accepts, in order. -/
def accepted (kernel : Kernel) : List Call → List Call
  | [] => []
  | call :: rest =>
    match kernel.assign call with
    | .error _ => kernel.accepted rest
    | .ok kernel => call :: kernel.accepted rest

/-- The last accepted call of a run for argument number `index`. -/
def lastAccepted (kernel : Kernel) (calls : List Call) (index : UInt32) : Option Call :=
  (kernel.accepted calls).findRev? (·.index == index)

/-- The fault a call meets; none when it is accepted. -/
def fault? (kernel : Kernel) (call : Call) : Option KernelFault :=
  match kernel.assign call with
  | .error fault => some fault
  | .ok _ => none

variable {kernel kernel' : Kernel} {call : Call}

theorem assign_performs (h : kernel.assign call = .ok kernel') :
    kernel' = { kernel with bindings := kernel.metadata.perform kernel.bindings call } ∧
      kernel.metadata.accepts call := by
  obtain ⟨arg, payload, hacc, rfl⟩ := assign_ok h
  obtain ⟨hget, hval⟩ := Metadata.accept_ok hacc
  obtain ⟨rfl, _⟩ := Argument.accept_ok hval
  exact ⟨by simp only [Metadata.perform, hget], by simp [Metadata.accepts, hacc, Except.isOk,
    Except.toBool]⟩

theorem assign_refuses {fault : KernelFault} (h : kernel.assign call = .error fault) :
    kernel.metadata.accepts call = false := by
  simp [Metadata.accepts, assign_err.1 h, Except.isOk, Except.toBool]

theorem accepted_eq (calls : List Call) :
    ∀ kernel : Kernel, kernel.accepted calls = calls.filter kernel.metadata.accepts := by
  induction calls with
  | nil => intro kernel; rfl
  | cons call rest ih =>
    intro kernel
    simp only [accepted]
    split
    · rename_i hassign
      rw [ih, List.filter_cons_of_neg (by simp [assign_refuses hassign])]
    · rename_i after hassign
      obtain ⟨rfl, hacc⟩ := assign_performs hassign
      rw [ih, List.filter_cons_of_pos hacc]

theorem assignAll_eq (calls : List Call) : ∀ kernel : Kernel, kernel.assignAll calls =
    { kernel with
      bindings := (kernel.accepted calls).foldl kernel.metadata.perform kernel.bindings } := by
  induction calls with
  | nil => intro kernel; rfl
  | cons call rest ih =>
    intro kernel
    cases hassign : kernel.assign call with
    | error fault =>
      simp only [assignAll, accepted, hassign]
      exact ih kernel
    | ok after =>
      obtain ⟨rfl, _⟩ := assign_performs hassign
      simp only [assignAll, accepted, hassign, List.foldl_cons]
      exact ih _

theorem accepts_of_mem_accepted {calls : List Call} (h : call ∈ kernel.accepted calls) :
    kernel.metadata.accepts call := by
  rw [accepted_eq] at h
  exact (List.mem_filter.1 h).2

theorem fault?_eq (kernel : Kernel) (call : Call) :
    kernel.fault? call =
      match kernel.metadata.accept call with
      | .error fault => some fault
      | .ok _ => none := by
  unfold fault? assign
  cases kernel.metadata.accept call <;> rfl

end Kernel

/-! ## The five tables -/

namespace Metadata

variable {metadata : Metadata} (calls : List Call) (bindings : Bindings) (i : Nat)

/-- For a table whose places every call that takes them gives the same `value`. -/
theorem getElem?_table_foldl {α : Type} (table : Bindings → List α)
    (takes : Argument → Nat → Bool) (value : Call → α)
    (h : ∀ (bindings : Bindings) (index : Nat) (arg : Argument) (call : Call) (i : Nat),
      (table (bindings.apply index arg (arg.payload call)))[i]? =
        (table bindings)[i]?.map fun old => if takes arg i then value call else old) :
    (table (calls.foldl metadata.perform bindings))[i]? = (table bindings)[i]?.map fun old =>
      ((calls.findRev? (metadata.concerns (takes · i))).map value).getD old := by
  refine getElem?_foldl table metadata.perform (fun call j => metadata.concerns (takes · j) call)
    (fun call _ => value call) calls ?_ bindings i
  intro call _ bindings i
  unfold perform concerns
  cases metadata.args[call.index.toNat]? with
  | none => simp
  | some arg => exact h bindings _ arg call i

theorem getElem?_uavs_foldl : (calls.foldl metadata.perform bindings).uavs[i]? =
    bindings.uavs[i]?.map fun old =>
      ((calls.findRev? (metadata.concerns (·.takesUav i))).map (·.object?)).getD old :=
  getElem?_table_foldl calls bindings i Bindings.uavs _ _ Bindings.getElem?_uavs_apply

theorem getElem?_srvs_foldl : (calls.foldl metadata.perform bindings).srvs[i]? =
    bindings.srvs[i]?.map fun old =>
      ((calls.findRev? (metadata.concerns (·.takesSrv i))).map (·.object?)).getD old :=
  getElem?_table_foldl calls bindings i Bindings.srvs _ _ Bindings.getElem?_srvs_apply

theorem getElem?_samplers_foldl : (calls.foldl metadata.perform bindings).samplers[i]? =
    bindings.samplers[i]?.map fun old =>
      ((calls.findRev? (metadata.concerns (·.takesSampler i))).map (·.sampler?)).getD old :=
  getElem?_table_foldl calls bindings i Bindings.samplers _ _ Bindings.getElem?_samplers_apply

/-- Here the calls have to be accepted: a call with too few bytes would leave some of the argument's
bytes as they were. -/
theorem getElem?_inputs_foldl (h : ∀ call ∈ calls, metadata.accepts call) :
    (calls.foldl metadata.perform bindings).inputs[i]? =
      bindings.inputs[i]?.map fun old =>
        ((calls.findRev? (metadata.concerns (·.takesByte i))).map (metadata.byte · i)).getD old := by
  refine getElem?_foldl Bindings.inputs metadata.perform
    (fun call j => metadata.concerns (·.takesByte j) call) metadata.byte calls ?_ bindings i
  intro call hcall bindings i
  unfold perform concerns byte
  cases hget : metadata.args[call.index.toNat]? with
  | none => simp
  | some arg =>
    exact Bindings.getElem?_inputs_apply _ _ _ _ _ (length_encoding (h call hcall) hget)

theorem getElem?_configs_foldl : (calls.foldl metadata.perform bindings).configs[i]? =
    bindings.configs[i]?.map fun old =>
      ((calls.findRev? fun call =>
        call.index.toNat == i && metadata.concerns (·.isConfigured) call).map
          metadata.configured).getD old := by
  refine getElem?_foldl Bindings.configs metadata.perform
    (fun call j => call.index.toNat == j && metadata.concerns (·.isConfigured) call)
    (fun call _ => metadata.configured call) calls ?_ bindings i
  intro call _ bindings i
  unfold perform concerns configured
  cases metadata.args[call.index.toNat]? with
  | none => simp
  | some arg => simpa using Bindings.getElem?_configs_apply bindings call.index.toNat arg call i

end Metadata

end KernelBinding
