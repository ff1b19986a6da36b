import KernelBinding.Proofs.Access
import KernelBinding.Proofs.Frame
import KernelBinding.Proofs.Independence

/-!
# KernelBinding.Proofs.Coherence

What is recorded of an argument is one value. The slots, the bytes and the configuration of an
argument are written in different places, but each accepted call writes all of them
(`Bindings.Records`), and calls for other arguments write none of them when no slot and no byte
belongs to two arguments.

* `records_perform`, `Records.perform_other` — one call: for the argument itself, and for another.
* `records_foldl`   — so after a run all places record the last accepted call.
* `shows_of_records` — and what they record is read as the value of that call.
* `views_coherent`  — the law for runs on a new kernel. Objects may die meanwhile.
-/

namespace KernelBinding

namespace Bindings

/-- All places of argument number `index` hold what `call` gave. -/
structure Records (bindings : Bindings) (index : Nat) (arg : Argument) (call : Call) : Prop where
  uavs : ∀ i, arg.takesUav i → bindings.uavs[i]? = some call.object?
  srvs : ∀ i, arg.takesSrv i → bindings.srvs[i]? = some call.object?
  samplers : ∀ i, arg.takesSampler i → bindings.samplers[i]? = some call.sampler?
  inputs : ∀ i, arg.takesByte i →
    bindings.inputs[i]? = some ((arg.encoding call)[i - arg.placement.start]?.getD 0)
  configs : arg.isConfigured → bindings.configs[index]? = some (arg.configured call)

variable {metadata : Metadata} {bindings : Bindings} {arg : Argument} {call : Call}

theorem lt_of_any {slots : List UInt32} {count i : Nat} (h : ∀ slot ∈ slots, slot.toNat < count)
    (hi : slots.any (·.toNat == i)) : i < count := by
  obtain ⟨slot, hslot, rfl⟩ := any_toNat_iff.1 hi
  exact h slot hslot

theorem records_perform (hplaced : metadata.WellPlaced) (h : bindings.Shaped metadata)
    (hget : metadata.args[call.index.toNat]? = some arg) (hacc : metadata.accepts call) :
    (metadata.perform bindings call).Records call.index.toNat arg call := by
  have hmem := List.mem_of_getElem? hget
  have hlen := Metadata.length_encoding hacc hget
  simp only [Metadata.perform, hget]
  refine ⟨fun i hi => ?_, fun i hi => ?_, fun i hi => ?_, fun i hi => ?_, fun hc => ?_⟩
  · have hlt : i < bindings.uavs.length := by
      rw [h.uavs]
      exact lt_of_any (hplaced.uav arg hmem) hi
    rw [getElem?_uavs_apply, List.getElem?_eq_getElem hlt, Option.map_some, if_pos hi]
  · have hlt : i < bindings.srvs.length := by
      rw [h.srvs]
      exact lt_of_any (hplaced.srv arg hmem) hi
    rw [getElem?_srvs_apply, List.getElem?_eq_getElem hlt, Option.map_some, if_pos hi]
  · have hlt : i < bindings.samplers.length := by
      rw [h.samplers]
      exact lt_of_any (hplaced.sampler arg hmem) hi
    rw [getElem?_samplers_apply, List.getElem?_eq_getElem hlt, Option.map_some, if_pos hi]
  · have hend := hplaced.bytes arg hmem
    have hlt : i < bindings.inputs.length := by
      have hi' := hi
      simp only [Argument.takesByte, Bool.and_eq_true, decide_eq_true_eq] at hi'
      rw [h.inputs]
      omega
    rw [getElem?_inputs_apply _ _ _ _ _ hlen, List.getElem?_eq_getElem hlt, Option.map_some,
      if_pos hi]
  · have hlt : call.index.toNat < bindings.configs.length := by
      rw [h.configs]
      exact (List.getElem?_eq_some_iff.1 hget).1
    rw [getElem?_configs_apply, List.getElem?_eq_getElem hlt, Option.map_some, if_pos ⟨rfl, hc⟩]

/-- A call for another argument, none of whose places belong to this one. -/
theorem Records.perform_other {index : Nat} {last : Call} (h : bindings.Records index arg last)
    (hsep : metadata.Separated) (hget : metadata.args[index]? = some arg)
    (hacc : metadata.accepts call) (hne : call.index.toNat ≠ index) :
    (metadata.perform bindings call).Records index arg last := by
  obtain ⟨other, _, hother, hval⟩ := Metadata.exists_of_accepts hacc
  have hlen := Metadata.length_encoding hacc hother
  have hfree : ∀ {test : Argument → Bool}, (∀ a b : Argument, a.Apart b → ¬ (test a ∧ test b)) →
      test arg → ¬ test other := by
    intro test htest harg hboth
    exact hne (hsep.place_unique htest hother hget hboth harg)
  simp only [Metadata.perform, hother]
  refine ⟨fun i hi => ?_, fun i hi => ?_, fun i hi => ?_, fun i hi => ?_, fun hc => ?_⟩
  · have hnot := hfree (fun a b hab => hab.not_takesUav) hi
    rw [getElem?_uavs_apply, h.uavs i hi, Option.map_some, if_neg hnot]
  · have hnot := hfree (fun a b hab => hab.not_takesSrv) hi
    rw [getElem?_srvs_apply, h.srvs i hi, Option.map_some, if_neg hnot]
  · have hnot := hfree (fun a b hab => hab.not_takesSampler) hi
    rw [getElem?_samplers_apply, h.samplers i hi, Option.map_some, if_neg hnot]
  · have hnot := hfree (fun a b hab => hab.bytes i) hi
    rw [getElem?_inputs_apply _ _ _ _ _ hlen, h.inputs i hi, Option.map_some, if_neg hnot]
  · rw [getElem?_configs_apply, h.configs hc, Option.map_some, if_neg fun hi => hne hi.1]

/-- After a run of accepted calls an argument records the last one of them that was for it. -/
theorem records_foldl (hplaced : metadata.WellPlaced) (hsep : metadata.Separated) {index : UInt32}
    (hget : metadata.args[index.toNat]? = some arg) {last : Call} {calls : List Call} :
    ∀ {bindings : Bindings}, bindings.Shaped metadata → (∀ call ∈ calls, metadata.accepts call) →
      calls.findRev? (·.index == index) = some last →
        (calls.foldl metadata.perform bindings).Records index.toNat arg last := by
  induction calls with
  | nil => intro bindings _ _ hlast; cases hlast
  | cons call rest ih =>
    intro bindings h hacc hlast
    have hcall := hacc call List.mem_cons_self
    have hrest : ∀ other ∈ rest, metadata.accepts other := fun other hmem =>
      hacc other (List.mem_cons_of_mem _ hmem)
    simp only [List.findRev?] at hlast
    split at hlast
    · rename_i found hfound
      cases hlast
      exact ih (shaped_perform h hcall) hrest hfound
    · rename_i hnone
      split at hlast
      · rename_i hindex
        cases hlast
        obtain rfl := eq_of_beq hindex
        -- No later call is for this argument, so each of them leaves the record alone.
        refine List.foldlRecOn (motive := (Records · _ arg last)) rest _
          (records_perform hplaced h hget hcall) ?_
        intro after hafter other hmem
        refine hafter.perform_other hsep hget (hrest other hmem) fun heq => ?_
        rw [List.findRev?_eq_find?_reverse, List.find?_eq_none] at hnone
        exact hnone other (List.mem_reverse.2 hmem) (beq_iff_eq.2 (UInt32.toNat_inj.1 heq))
      · cases hlast

end Bindings

/-! ## What a record is read as -/

/-- Some context made the object. -/
def MemoryObject.Created (object : MemoryObject) : Prop :=
  (∃ limits flags size hostData, createBuffer limits flags size hostData = .ok object) ∨
    ∃ limits flags kind format size, createImage limits flags kind format size = .ok object

theorem MemoryObject.Created.exists_format {object : MemoryObject} (h : object.Created)
    (hkind : object.kind ≠ .buffer) : ∃ format, object.format = some format := by
  rcases h with ⟨limits, flags, size, hostData, h⟩ | ⟨limits, flags, kind, format, size, h⟩
  · exact absurd (create_ok h).kind_eq hkind
  · unfold createImage at h
    split at h
    · cases h
    · exact ⟨format, (create_ok h).format_eq⟩

/-- The bytes are the header of the image's format, or zeros for no image. -/
def HeaderOf (bytes : List UInt8) : Option (Object MemoryObject) → Prop
  | some image =>
    image.value.Created → ∃ format, image.value.format = some format ∧ bytes = format.header
  | none => bytes = .replicate PixelFormat.headerSize 0

/-- The bytes are the number of the slot in the high word just when there is a buffer, and all ones
just when there is none. -/
def AddressOf (bytes : List UInt8) (slot : UInt32) (buffer : Option (Object MemoryObject)) : Prop :=
  (ofLittleEndian bytes = slot.toNat <<< 32 ↔ buffer.isSome) ∧
    (ofLittleEndian bytes = UInt64.size - 1 ↔ buffer = none)

section

variable {arg : Argument} {call : Call} {payload : Payload} {slot : UInt32}

theorem headerOf_encoding {slots : List UInt32} {offset : UInt32}
    (hp : arg.placement = .image slots offset)
    (hval : arg.acceptImage call.size call.value = .ok payload) :
    HeaderOf (arg.encoding call) call.object? := by
  simp only [Argument.encoding, hp]
  cases ho : call.object? with
  | none => rfl
  | some image =>
    intro hcreated
    have hkind := (Argument.allows_of_acceptImage hval ho).1
    have hne : image.value.kind ≠ .buffer := by
      intro heq
      rw [heq] at hkind
      exact arg.signature.imageKind?_ne_buffer hkind
    obtain ⟨format, hformat⟩ := hcreated.exists_format hne
    refine ⟨format, hformat, ?_⟩
    rw [Option.bind_some, hformat]

/-- An address with a slot in its high word is not all ones. -/
theorem addressOf_encoding (call : Call) {offset : UInt32}
    (hp : arg.placement = .memory slot offset) :
    AddressOf (arg.encoding call) slot call.object? := by
  have hlt := slot.toNat_lt
  have hshift : slot.toNat <<< 32 = slot.toNat * 2 ^ 32 := Nat.shiftLeft_eq ..
  have hne : slot.toNat <<< 32 ≠ UInt64.size - 1 := by
    simp only [hshift, UInt64.size]
    omega
  simp only [Argument.encoding, hp]
  cases call.object? with
  | none =>
    have hones : ofLittleEndian (.replicate 8 0xFF) = UInt64.size - 1 := by decide
    unfold AddressOf
    rw [hones]
    exact ⟨iff_of_false hne.symm Bool.false_ne_true, iff_of_true rfl rfl⟩
  | some buffer =>
    have haddress : ofLittleEndian (littleEndian 8 (slot.toNat <<< 32)) = slot.toNat <<< 32 := by
      rw [ofLittleEndian_littleEndian]
      exact Nat.mod_eq_of_lt (by omega)
    unfold AddressOf
    simp only
    rw [haddress]
    exact ⟨iff_of_true rfl rfl, iff_of_false hne (Option.some_ne_none buffer)⟩

end

namespace Bindings

/-- The bytes of the arguments buffer from `start` on, `count` of them. -/
def stretch (bindings : Bindings) (start count : Nat) : List UInt8 :=
  (bindings.inputs.drop start).take count

/-- All that the bindings say of argument number `index` is said of the value in `call`: each slot
refers to its object, and the bytes and the configuration are those of that same object. -/
def Shows (bindings : Bindings) (index : Nat) (arg : Argument) (call : Call) : Prop :=
  match arg.placement with
  | .image slots offset =>
    (∀ slot ∈ slots, (if arg.signature.isWritable then bindings.uavs
      else bindings.srvs)[slot.toNat]? = some call.object?) ∧
      HeaderOf (bindings.stretch offset.toNat PixelFormat.headerSize) call.object?
  | .memory slot offset =>
    bindings.uavs[slot.toNat]? = some call.object? ∧
      AddressOf (bindings.stretch offset.toNat 8) slot call.object?
  | .sampler slot =>
    bindings.samplers[slot.toNat]? = some call.sampler? ∧
      bindings.configs[index]? = some (.sampler (some (match call.sampler? with
        | some sampler => .ofSampler sampler.value
        | none => .unbound)))
  | .scalar offset size => call.value = some (.bytes (bindings.stretch offset.toNat size.toNat))
  | .localMemory => bindings.configs[index]? = some (.localMemory call.size)

variable {bindings : Bindings} {index : Nat} {arg : Argument} {call : Call} {payload : Payload}

theorem Records.stretch_eq (h : bindings.Records index arg call)
    (hlen : (arg.encoding call).length = arg.placement.extent) :
    bindings.stretch arg.placement.start arg.placement.extent = arg.encoding call := by
  apply List.ext_getElem?
  intro i
  by_cases hi : i < arg.placement.extent
  · have htakes : arg.takesByte (arg.placement.start + i) := by
      simp only [Argument.takesByte, Bool.and_eq_true, decide_eq_true_eq]
      omega
    rw [stretch, List.getElem?_take_of_lt hi, List.getElem?_drop, h.inputs _ htakes,
      Nat.add_sub_cancel_left, List.getElem?_eq_getElem (hlen ▸ hi), Option.getD_some]
  · rw [stretch, List.getElem?_take_eq_none (by omega), List.getElem?_eq_none (by omega)]

theorem shows_of_records (h : bindings.Records index arg call)
    (hval : arg.accept call.size call.value = .ok payload) : bindings.Shows index arg call := by
  have hbytes := h.stretch_eq (Argument.accept_ok hval).2
  unfold Shows
  unfold Argument.accept at hval
  cases hp : arg.placement with
  | image slots offset =>
    rw [hp] at hval hbytes
    have hheader := headerOf_encoding hp hval
    rw [← hbytes] at hheader
    refine ⟨fun slot hslot => ?_, hheader⟩
    by_cases hw : arg.signature.isWritable
    · rw [if_pos hw]
      refine h.uavs _ (any_toNat_iff.2 ⟨slot, ?_, rfl⟩)
      simpa [Argument.uavSlots, hp, hw] using hslot
    · rw [if_neg hw]
      refine h.srvs _ (any_toNat_iff.2 ⟨slot, ?_, rfl⟩)
      simpa [Argument.srvSlots, hp, hw] using hslot
  | memory slot offset =>
    rw [hp] at hbytes
    have haddress := addressOf_encoding call hp
    rw [← hbytes] at haddress
    have htakes : arg.takesUav slot.toNat := by
      simp [Argument.takesUav, Argument.uavSlots, hp]
    exact ⟨h.uavs _ htakes, haddress⟩
  | sampler slot =>
    have htakes : arg.takesSampler slot.toNat := by
      simp [Argument.takesSampler, Argument.samplerSlots, hp]
    have hconfig := h.configs (by simp [Argument.isConfigured, hp])
    refine ⟨h.samplers _ htakes, ?_⟩
    rw [hconfig]
    simp only [Argument.configured, hp]
    cases call.sampler? <;> rfl
  | scalar offset size =>
    rw [hp] at hval hbytes
    obtain ⟨bytes, hv, -⟩ := Argument.acceptScalar_ok hval
    have hencoding : arg.encoding call = bytes := by simp only [Argument.encoding, hp, hv]
    rw [hencoding] at hbytes
    rw [hv, ← hbytes]
    rfl
  | localMemory =>
    have hconfig := h.configs (by simp [Argument.isConfigured, hp])
    rw [hconfig]
    simp only [Argument.configured, hp]

end Bindings

namespace Kernel

variable {program : Nat} {limits : Limits} {metadata : Metadata} {fresh : Nat} {kernel : Kernel}

theorem shows_of_lastAccepted (h : Made program limits metadata fresh kernel)
    (hsep : metadata.Separated) {calls : List Call} {index : UInt32} {call : Call}
    (hlast : kernel.lastAccepted calls index = some call) :
    ∃ arg, metadata.args[index.toNat]? = some arg ∧
      (kernel.assignAll calls).bindings.Shows index.toNat arg call := by
  have hacc : ∀ call ∈ kernel.accepted calls, metadata.accepts call := h.accepts_of_mem
  have hfound := hlast
  rw [lastAccepted, List.findRev?_eq_find?_reverse] at hfound
  have hindex : call.index = index := by simpa using List.find?_some hfound
  have hmem := List.mem_reverse.1 (List.mem_of_find?_eq_some hfound)
  obtain ⟨arg, payload, hget, hval⟩ := Metadata.exists_of_accepts (hacc call hmem)
  rw [hindex] at hget
  refine ⟨arg, hget, ?_⟩
  rw [assignAll_eq, h.metadata_eq]
  exact Bindings.shows_of_records
    (Bindings.records_foldl h.wellPlaced hsep hget h.shaped hacc hlast) hval

/-- After any run of calls on a new kernel with separated metadata, all that the kernel records of an
argument that was set is the value of the last accepted call for it. What is recorded does not change
while other requests are carried out, whichever objects they drop. -/
theorem views_coherent (h : make program limits metadata fresh = .ok kernel)
    (hsep : metadata.Separated) (calls : List Call) :
    (∀ index call, kernel.lastAccepted calls index = some call →
      ∃ arg, metadata.args[index.toNat]? = some arg ∧
        (kernel.assignAll calls).bindings.Shows index.toNat arg call) ∧
    ∀ (session : Session) (handle : String) (commands : List Command),
      session.kernels.find? handle = some (kernel.assignAll calls) →
        (∀ command ∈ commands, ¬ command.Touches handle) →
          (session.run commands).1.kernels.find? handle = some (kernel.assignAll calls) := by
  refine ⟨fun index call hlast => shows_of_lastAccepted (make_ok h) hsep hlast, ?_⟩
  intro session handle commands hstored hothers
  rw [Session.find?_kernels_run hothers, hstored]

/-- A scalar, and an image of two planes that is written. -/
def painting : Metadata :=
  .ofItems "painting" [.scalar "n" "uint" 4, .image "i" "image2d_t" (.ofList [.writable]) 2]

theorem canvas_without_contents (bytes : List UInt8) (h : none = some bytes) :
    bytes.length = 16 :=
  absurd h.symm (Option.some_ne_none bytes)

def canvas : Object MemoryObject :=
  ⟨0, ⟨.image2D, .ofList [.readWrite], some ⟨.rgba, .float⟩, 16, none, canvas_without_contents⟩⟩

/-- The image is set, unset with too small a size, which is refused, and the scalar is set. -/
def paintingCalls : List Call :=
  [.memory 1 (some canvas), ⟨1, 4, none⟩, .bytes 0 [1, 2, 3, 4]]

/-- The same calls as requests of a session. -/
def paintingCommands : List Command :=
  [.context "c" {}, .program "p" "c" [⟨0, "d"⟩], .createFrom "p" painting "k",
    .image "canvas" "c" ⟨0⟩ .image2D ⟨.rgba, .float⟩ 16, .set "k" 1 (.memory (some "canvas")),
    .set "k" 1 (.raw 4 none), .set "k" 0 (.bytes [1, 2, 3, 4])]

/-- The image is dropped, and the kernel still records it in both slots and in its bytes. -/
theorem painting_coherent :
    ∃ kernel session, make 0 {} painting 0 = .ok kernel ∧ painting.Separated ∧
      (Session.run {} (paintingCommands ++ [.dropMemory "canvas"])).1 = session ∧
      session.kernels.find? "k" = some (kernel.assignAll paintingCalls) ∧
      session.ownsMemory canvas.id = false ∧
      (∃ arg, painting.args[1]? = some arg ∧
        (kernel.assignAll paintingCalls).bindings.Shows 1 arg (.memory 1 (some canvas))) ∧
      (kernel.assignAll paintingCalls).bindings.uavs = [some canvas, some canvas] := by
  have hmake : ∃ kernel, make 0 {} painting 0 = .ok kernel := ⟨_, rfl⟩
  obtain ⟨kernel, h⟩ := hmake
  have hsep : painting.Separated :=
    Metadata.separated_ofItems _ ⟨by decide, by decide, by decide, by decide⟩
  obtain ⟨hshows, hstays⟩ := views_coherent h hsep paintingCalls
  have hstored : (Session.run {} paintingCommands).1.kernels.find? "k" =
      some (kernel.assignAll paintingCalls) := by
    cases h
    rfl
  refine ⟨kernel, _, h, hsep, rfl, ?_, rfl, hshows 1 _ ?_, ?_⟩
  · refine hstays (Session.run {} paintingCommands).1 "k" [.dropMemory "canvas"] hstored ?_
    simp [Command.Touches]
  · cases h
    rfl
  · cases h
    rfl

end Kernel

end KernelBinding
