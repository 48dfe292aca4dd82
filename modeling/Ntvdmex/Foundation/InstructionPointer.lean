import Ntvdmex.Foundation.Interpreter

/-!
# Instruction pointers and the memory they point into

A program moves a pointer of its processor by a number of bytes.  How many may depend on what
it reads, so memory is what a host answers with as long as nothing is written.
-/

namespace Ntvdmex.Foundation

variable {γ α : Type} {w : Nat}

def Host.KeepsMemory (host : Host) : Prop :=
  ∀ calls call linear, call.IsRead → host.read8 (call :: calls) linear = host.read8 calls linear

theorem Host.KeepsMemory.read8_append {host : Host} (hkeeps : host.KeepsMemory)
    {reads calls : List HostCall} (hreads : ∀ call ∈ reads, call.IsRead) (linear : Dword) :
    host.read8 (reads ++ calls) linear = host.read8 calls linear := by
  induction reads with
  | nil => rfl
  | cons call reads ih =>
    have hrest := ih fun other hother => hreads other (List.mem_cons_of_mem call hother)
    rw [List.cons_append, hkeeps _ _ _ (hreads call List.mem_cons_self), hrest]

def latestWrite (linear : Dword) : List HostCall → Option Byte
  | [] => none
  | .write written value :: calls => if written = linear then some value else latestWrite linear calls
  | _ :: calls => latestWrite linear calls

variable (memory : Dword → Byte) (portIn : List HostCall → Word → Nat → Dword)

def memoryHost : Host where
  read8 calls linear := (latestWrite linear calls).getD (memory linear)
  portIn

theorem memoryHost_keepsMemory : (memoryHost memory portIn).KeepsMemory := by
  intro calls call linear hread
  cases call with
  | fetch _ => rfl
  | read _ => rfl
  | probe _ _ _ => rfl
  | write _ _ => exact hread.elim
  | portIn _ _ => exact hread.elim
  | portOut _ _ _ => exact hread.elim

namespace Interp

instance {δ : Type} {f : γ → δ} {p : Interp γ α} [h : Leaves OnlyReads p] : Leaves (SameCpu f) p :=
  ⟨fun m => congrArg f (h.after_related m).1⟩

end Interp

end Ntvdmex.Foundation
