import KernelBinding.Metadata.Layout
import KernelBinding.Proofs.CheckedWrites
import KernelBinding.Proofs.Construction
import KernelBinding.Session.Basic

/-!
# KernelBinding.Proofs.Bounds

Binding never leaves the tables of a kernel. The tables keep the lengths that the metadata give them
and each configuration keeps the form its argument asks for (`Bindings.Shaped`); so every place that
an accepted call writes to exists (`Bindings.Room`), and nothing of what it writes is dropped.

* `shaped_initial`, `shaped_perform` — the shape holds of a new kernel and survives an accepted
  call.
* `shaped_of_reaches` — so it holds of whatever calls and copies make of a new kernel.
* `reaches_inBounds`  — and nothing is ever written outside a table.
-/

namespace KernelBinding

/-- The configurations that an argument placed like this can have. -/
def Placement.Admits : Placement → ArgumentConfig → Prop
  | .localMemory, config => ∃ size < UInt32.size, config = .localMemory size
  | .sampler _, config => ∃ state, config = .sampler state
  | _, config => config = .none

namespace Bindings

/-- The tables have the lengths and the configurations the form that the metadata ask for. -/
structure Shaped (metadata : Metadata) (bindings : Bindings) : Prop where
  uavs : bindings.uavs.length = metadata.uavCount.toNat
  srvs : bindings.srvs.length = metadata.srvCount.toNat
  samplers : bindings.samplers.length = metadata.samplerCount.toNat
  inputs : bindings.inputs.length = metadata.inputsSize
  configs : bindings.configs.length = metadata.args.length
  admitted : ∀ (i : Nat) (arg : Argument) (config : ArgumentConfig), metadata.args[i]? = some arg →
    bindings.configs[i]? = some config → arg.placement.Admits config

end Bindings

/-! ## The shape of the tables -/

theorem Placement.admits_initialConfig (placement : Placement) :
    placement.Admits placement.initialConfig := by
  cases placement with
  | localMemory => exact ⟨0, by decide, rfl⟩
  | sampler slot => exact ⟨none, rfl⟩
  | image slots offset => rfl
  | memory slot offset => rfl
  | scalar offset size => rfl

/-- What an accepted call configures has the right form; a local size fits in 32 bits. -/
theorem Argument.admits_configured {arg : Argument} {call : Call} {payload : Payload}
    (h : arg.accept call.size call.value = .ok payload) :
    arg.placement.Admits (arg.configured call) := by
  unfold configured
  unfold accept at h
  cases hp : arg.placement with
  | localMemory =>
    rw [hp] at h
    obtain ⟨_, _, hsize, _⟩ := acceptLocal_ok h
    exact ⟨call.size, hsize, rfl⟩
  | sampler slot =>
    cases hs : call.sampler? with
    | none => exact ⟨_, rfl⟩
    | some sampler => exact ⟨_, rfl⟩
  | image slots offset => rfl
  | memory slot offset => rfl
  | scalar offset size => rfl

namespace Bindings

theorem shaped_initial (metadata : Metadata) : (initial metadata).Shaped metadata := by
  refine ⟨?_, ?_, ?_, ?_, ?_, ?_⟩
  · exact List.length_replicate
  · exact List.length_replicate
  · exact List.length_replicate
  · exact List.length_replicate
  · exact List.length_map ..
  · intro i arg config hget hconfig
    simp only [initial, List.getElem?_map, hget, Option.map_some, Option.some.injEq] at hconfig
    rw [← hconfig]
    exact arg.placement.admits_initialConfig

theorem shaped_perform {metadata : Metadata} {bindings : Bindings} {call : Call}
    (h : bindings.Shaped metadata) (hacc : metadata.accepts call) :
    (metadata.perform bindings call).Shaped metadata := by
  obtain ⟨arg, payload, hget, hval⟩ := Metadata.exists_of_accepts hacc
  obtain ⟨rfl, _⟩ := Argument.accept_ok hval
  obtain ⟨huavs, hsrvs, hsamplers, hinputs, hconfigs⟩ :=
    length_apply bindings call.index.toNat arg (arg.payload call)
  simp only [Metadata.perform, hget]
  refine ⟨huavs.trans h.uavs, hsrvs.trans h.srvs, hsamplers.trans h.samplers,
    hinputs.trans h.inputs, hconfigs.trans h.configs, ?_⟩
  intro i other config hother hconfig
  rw [getElem?_configs_apply, Option.map_eq_some_iff] at hconfig
  obtain ⟨old, hold, rfl⟩ := hconfig
  by_cases hi : call.index.toNat = i ∧ arg.isConfigured
  · rw [if_pos hi]
    rw [hi.1, hother] at hget
    cases hget
    exact Argument.admits_configured hval
  · rw [if_neg hi]
    exact h.admitted i other old hother hold

end Bindings

/-! ## Reachable kernels -/

namespace Kernel

/-- The kernels that runs of calls and copies make of `start`. -/
inductive Reaches (start : Kernel) : Kernel → Prop
  | start : Reaches start start
  | run {kernel : Kernel} (calls : List Call) :
      Reaches start kernel → Reaches start (kernel.assignAll calls)
  | copy {kernel : Kernel} (session : Session) :
      Reaches start kernel → Reaches start (session.copy kernel).2

variable {program : Nat} {limits : Limits} {metadata : Metadata} {fresh : Nat}
  {start kernel : Kernel}

theorem metadata_of_reaches (h : start.Reaches kernel) : kernel.metadata = start.metadata := by
  induction h with
  | start => rfl
  | run calls _ ih => rw [assignAll_eq]; exact ih
  | copy session _ ih => exact ih

theorem Made.shaped (h : Made program limits metadata fresh kernel) :
    kernel.bindings.Shaped metadata := by
  have hinit := Bindings.shaped_initial metadata
  rw [h.bindings]
  exact ⟨(length_placeLiterals _ _).trans hinit.uavs, hinit.srvs,
    (length_placeLiterals _ _).trans hinit.samplers, hinit.inputs, hinit.configs, hinit.admitted⟩

/-- What holds of the bindings of a kernel, and still holds after every accepted call, holds of all
kernels made of it. -/
theorem bindings_of_reaches {kept : Bindings → Prop} (hstart : kept start.bindings)
    (hcall : ∀ bindings call, start.metadata.accepts call → kept bindings →
      kept (start.metadata.perform bindings call)) (hr : start.Reaches kernel) :
    kept kernel.bindings := by
  induction hr with
  | start => exact hstart
  | run calls hr ih =>
    rw [assignAll_eq, metadata_of_reaches hr]
    refine List.foldlRecOn _ _ ih fun bindings hb call hmem => hcall bindings call ?_ hb
    rw [← metadata_of_reaches hr]
    exact accepts_of_mem_accepted hmem
  | copy session _ ih => exact ih

theorem shaped_of_reaches (h : start.bindings.Shaped start.metadata) (hr : start.Reaches kernel) :
    kernel.bindings.Shaped start.metadata :=
  bindings_of_reaches h (fun _ _ hacc hb => Bindings.shaped_perform hb hacc) hr

end Kernel

namespace Bindings

theorem room_of_accept {metadata : Metadata} {bindings : Bindings} {call : Call} {arg : Argument}
    {payload : Payload} (hplaced : metadata.WellPlaced) (h : bindings.Shaped metadata)
    (hacc : metadata.accept call = .ok (arg, payload)) :
    bindings.Room call.index.toNat arg payload := by
  obtain ⟨hget, hval⟩ := Metadata.accept_ok hacc
  obtain ⟨rfl, hlen⟩ := Argument.accept_ok hval
  have hmem := List.mem_of_getElem? hget
  obtain ⟨hindex, _⟩ := List.getElem?_eq_some_iff.1 hget
  refine ⟨?_, ?_, ?_, ?_, ?_⟩
  · rw [h.uavs]; exact hplaced.uav arg hmem
  · rw [h.srvs]; exact hplaced.srv arg hmem
  · rw [h.samplers]; exact hplaced.sampler arg hmem
  · have hbytes := hplaced.bytes arg hmem
    rw [h.inputs]
    simp only [Argument.payload, hlen]
    exact hbytes
  · rw [h.configs]; exact hindex

end Bindings

/-! ## The refusal that never comes -/

theorem ValueFault.eq_noImageArgument {fault : ValueFault}
    (h : fault.reason = ValueFault.noImageArgument.reason) : fault = .noImageArgument := by
  cases fault <;> first | rfl | exact absurd h (by decide)

theorem memoryOperand_error {size : Nat} {value : Option Value} {fault : BindFault}
    (h : memoryOperand size value = .error fault) :
    fault = .size .memoryHandle ∨ fault = .value .noMemoryObject := by
  unfold memoryOperand at h
  split at h
  · cases h; exact .inl rfl
  · split at h
    · cases h
    · cases h
    · cases h; exact .inr rfl

theorem samplerOperand_error {size : Nat} {value : Option Value} {fault : BindFault}
    (h : samplerOperand size value = .error fault) :
    fault = .size .samplerHandle ∨ fault = .value .noSampler := by
  unfold samplerOperand at h
  split at h
  · cases h; exact .inl rfl
  · split at h
    · cases h
    · cases h
    · cases h; exact .inr rfl

theorem Signature.imageFault?_ne_noImageArgument (signature : Signature) (kind : MemoryKind)
    (image : MemoryObject) : signature.imageFault? kind image ≠ some .noImageArgument := by
  unfold imageFault?
  split
  · exact nofun
  · split
    · split
      · exact nofun
      · split <;> exact nofun
    · split <;> exact nofun

namespace Argument

variable {arg : Argument} (size : Nat) (value : Option Value)

theorem acceptImage_ne_noImageArgument (h : arg.signature.imageKind?.isSome) :
    arg.acceptImage size value ≠ .error (.value .noImageArgument) := by
  unfold acceptImage
  split
  · rename_i hop
    rcases memoryOperand_error hop with rfl | rfl <;> exact nofun
  · rename_i object _
    split
    · rename_i hnone
      rw [hnone] at h
      cases h
    · rename_i kind _
      split
      · rename_i fault hfault
        intro heq
        cases heq
        obtain ⟨image, _, hf⟩ := Option.bind_eq_some_iff.1 hfault
        exact arg.signature.imageFault?_ne_noImageArgument kind image.value hf
      · exact nofun

/-- An argument placed as its signature asks is never refused for not being an image. -/
theorem accept_ne_noImageArgument (h : arg.placement.kind = arg.signature.kind) :
    arg.accept size value ≠ .error (.value .noImageArgument) := by
  unfold accept
  split
  · rename_i hp
    rw [hp] at h
    exact acceptImage_ne_noImageArgument size value (Signature.kind_eq_image.1 h.symm)
  · unfold acceptMemory
    split
    · rename_i hop
      rcases memoryOperand_error hop with rfl | rfl <;> exact nofun
    · exact nofun
    · split <;> exact nofun
  · unfold acceptSampler
    split
    · rename_i hop
      rcases samplerOperand_error hop with rfl | rfl <;> exact nofun
    · exact nofun
  · unfold acceptScalar
    split
    · exact nofun
    · split
      · exact nofun
      · split <;> exact nofun
      · exact nofun
  · unfold acceptLocal
    split
    · exact nofun
    · split
      · exact nofun
      · split <;> exact nofun

end Argument

theorem Metadata.accept_ne_noImageArgument {metadata : Metadata} (h : metadata.WellPlaced)
    (call : Call) (index : UInt32) :
    metadata.accept call ≠ .error (.invalidArgValue index ValueFault.noImageArgument.reason) := by
  unfold accept
  split
  · exact nofun
  · rename_i arg hget
    split
    · rename_i fault hfault
      intro heq
      cases fault with
      | size fault => cases heq
      | value fault =>
        simp only [BindFault.report, Except.error.injEq, KernelFault.invalidArgValue.injEq] at heq
        have hkind := h.kind arg (List.mem_of_getElem? hget)
        rw [ValueFault.eq_noImageArgument heq.2] at hfault
        exact Argument.accept_ne_noImageArgument call.size call.value hkind hfault
    · exact nofun

/-! ## Safety of binding -/

namespace Kernel

variable {program : Nat} {limits : Limits} {metadata : Metadata} {fresh : Nat}
  {start kernel : Kernel}

/-- Whatever calls and copies make of a new kernel, its tables have the lengths and its
configurations the form they had in the beginning, every argument is placed as its signature asks,
an accepted call finds every place that it writes to, so that it would do the same if writing
elsewhere failed, and no call is refused for an image argument not being one. -/
theorem reaches_inBounds (h : make program limits metadata fresh = .ok start)
    (hr : start.Reaches kernel) :
    kernel.bindings.Shaped metadata ∧
      (∀ arg ∈ metadata.args, arg.placement.kind = arg.signature.kind) ∧
      (∀ call arg payload, kernel.metadata.accept call = .ok (arg, payload) →
        kernel.bindings.Room call.index.toNat arg payload ∧
          kernel.bindings.write? call.index.toNat arg payload =
            some (kernel.bindings.apply call.index.toNat arg payload)) ∧
      ∀ call index, kernel.assign call ≠
        .error (.invalidArgValue index ValueFault.noImageArgument.reason) := by
  have hmade := make_ok h
  have hstart := hmade.shaped
  rw [← hmade.metadata_eq] at hstart
  have hshaped := shaped_of_reaches hstart hr
  have hmeta := metadata_of_reaches hr
  rw [hmade.metadata_eq] at hshaped hmeta
  refine ⟨hshaped, hmade.wellPlaced.kind, ?_, ?_⟩
  · intro call arg payload hacc
    rw [hmeta] at hacc
    have hroom := Bindings.room_of_accept hmade.wellPlaced hshaped hacc
    exact ⟨hroom, hroom.write?_eq_some⟩
  · intro call index herr
    rw [assign_err, hmeta] at herr
    exact Metadata.accept_ne_noImageArgument hmade.wellPlaced call index herr

/-- An argument of every kind and a literal of either kind. -/
def everyKind : Metadata :=
  .ofItems "everyKind" [.buffer "a" ⟨0⟩, .image "i" "image2d_t" (.ofList [.writable]) 2,
    .inlineConstant [1], .sampler "s", .literalSampler false 0 0, .scalar "n" "uint" 4,
    .localBuffer "l"]

/-- Calls for its scalar and its local memory, and a refused one in between. -/
def everyKindCalls : List Call :=
  [.bytes 3 [1, 2, 3, 4], .bytes 7 [1], .localMemory 4 64]

def picture : Object MemoryObject :=
  ⟨3, ⟨.image2D, .ofList [.readWrite], some ⟨.rgba, .float⟩, 24, none, nofun⟩⟩

def smooth : Object Sampler :=
  ⟨4, ⟨false, .repeat, .linear⟩⟩

/-- The image has two slots to go to and the sampler one. The image argument refuses the sampler,
but not for being no image. -/
theorem everyKind_inBounds :
    ∃ start kernel, make 0 {} everyKind 0 = .ok start ∧ start.Reaches kernel ∧
      kernel.bindings.Shaped everyKind ∧
      kernel.bindings.inputs = [0, 0, 0, 0, 0, 0, 0, 0,
        0, 0, 0, 0, 0, 0, 0, 0, 1, 2, 3, 4, 0, 0, 0, 0, 0, 0, 0, 0, 0, 0, 0, 0] ∧
      (∃ arg payload, kernel.metadata.accept (.memory 1 (some picture)) = .ok (arg, payload) ∧
        arg.uavSlots = [1, 2] ∧ kernel.bindings.Room 1 arg payload ∧
          kernel.bindings.write? 1 arg payload = some (kernel.bindings.apply 1 arg payload)) ∧
      (∃ arg payload, kernel.metadata.accept (.sampler 2 (some smooth)) = .ok (arg, payload) ∧
        arg.samplerSlots = [0] ∧ kernel.bindings.Room 2 arg payload ∧
          kernel.bindings.write? 2 arg payload = some (kernel.bindings.apply 2 arg payload)) ∧
      kernel.assign (.sampler 1 (some smooth)) =
        .error (.invalidArgValue 1 ValueFault.noMemoryObject.reason) ∧
      ∀ index, kernel.assign (.sampler 1 (some smooth)) ≠
        .error (.invalidArgValue index ValueFault.noImageArgument.reason) := by
  have hmake : ∃ start, make 0 {} everyKind 0 = .ok start := ⟨_, rfl⟩
  obtain ⟨start, h⟩ := hmake
  obtain ⟨kernel, hkernel⟩ :
      ∃ kernel, kernel = (({} : Session).copy (start.assignAll everyKindCalls)).2 := ⟨_, rfl⟩
  have hreaches : start.Reaches kernel := hkernel ▸ .copy {} (.run everyKindCalls .start)
  obtain ⟨hshaped, -, hroom, hnever⟩ := reaches_inBounds h hreaches
  have himage : ∃ arg payload, kernel.metadata.accept (.memory 1 (some picture)) =
      .ok (arg, payload) ∧ arg.uavSlots = [1, 2] := by
    subst hkernel
    cases h
    exact ⟨_, _, rfl, rfl⟩
  have hsampler : ∃ arg payload, kernel.metadata.accept (.sampler 2 (some smooth)) =
      .ok (arg, payload) ∧ arg.samplerSlots = [0] := by
    subst hkernel
    cases h
    exact ⟨_, _, rfl, rfl⟩
  obtain ⟨image, imagePayload, himage, huavs⟩ := himage
  obtain ⟨sampler, samplerPayload, hsampler, hslots⟩ := hsampler
  refine ⟨start, kernel, h, hreaches, hshaped, ?_,
    ⟨image, imagePayload, himage, huavs, hroom _ image imagePayload himage⟩,
    ⟨sampler, samplerPayload, hsampler, hslots, hroom _ sampler samplerPayload hsampler⟩, ?_,
    hnever (.sampler 1 (some smooth))⟩
  all_goals
    subst hkernel
    cases h
    rfl

end Kernel

end KernelBinding
