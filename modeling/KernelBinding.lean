import KernelBinding.Numbering
import KernelBinding.Bytes
import KernelBinding.SlotTable
import KernelBinding.NameTable
import KernelBinding.Memory.Kind
import KernelBinding.Memory.Format
import KernelBinding.Sampler
import KernelBinding.Fault
import KernelBinding.Memory.Flags
import KernelBinding.Memory.Object
import KernelBinding.Metadata.Argument
import KernelBinding.Metadata.Basic
import KernelBinding.Metadata.Declarations
import KernelBinding.Metadata.Layout
import KernelBinding.Object
import KernelBinding.Kernel.Bindings
import KernelBinding.Kernel.Basic
import KernelBinding.Kernel.Construction
import KernelBinding.Kernel.Assign
import KernelBinding.Program.Basic
import KernelBinding.Program.Resolution
import KernelBinding.Session.Basic
import KernelBinding.Session.View
import KernelBinding.Session.Command
import KernelBinding.Session.Step
import KernelBinding.Proofs.Assignment
import KernelBinding.Proofs.Runs
import KernelBinding.Proofs.Construction
import KernelBinding.Proofs.LastCall
import KernelBinding.Proofs.Bounds
import KernelBinding.Proofs.Independence
import KernelBinding.Proofs.Atomicity
import KernelBinding.Proofs.Resolution
import KernelBinding.Proofs.Access
import KernelBinding.Proofs.Declaration
import KernelBinding.Proofs.Frame
import KernelBinding.Proofs.Views
import KernelBinding.Proofs.Coherence
import KernelBinding.Proofs.DeviceOrder
import KernelBinding.Proofs.Acceptance
import KernelBinding.Proofs.Effects
import KernelBinding.Proofs.Moments
import KernelBinding.Proofs.LiveCount
import KernelBinding.Proofs.Rebuild
import KernelBinding.Proofs.Literals
import KernelBinding.Proofs.Ownership
import KernelBinding.Proofs.Deeds
import KernelBinding.Proofs.Lineage
import KernelBinding.Proofs.Identity
import KernelBinding.Proofs.Lifetime
import KernelBinding.Proofs.Expiry
import KernelBinding.Proofs.KernelNames
import KernelBinding.Proofs.AllKernels
import KernelBinding.Proofs.Admission
import KernelBinding.Proofs.NewKernel
import KernelBinding.Proofs.Listing
import KernelBinding.Proofs.DeclaredSlots
import KernelBinding.Proofs.Creation
import KernelBinding.Proofs.LocalMemory
import KernelBinding.Proofs.NoExecutable
import KernelBinding.Proofs.BuildRecord
import KernelBinding.Proofs.KernelLists
import KernelBinding.Proofs.FormatHeader
import KernelBinding.Proofs.GaplessLayout
import KernelBinding.Proofs.LaidOutKernels
