import PinkTrace.Lib.Session
import PinkTrace.Lib.Stream
import PinkTrace.Vm

/-!
# Sessions with a tracee's memory

A tracer does not make one call. It reads and writes the memory of a stopped tracee as often as it
likes, and each call decides by itself how: `pink_read_vm_data` and `pink_write_vm_data` try cross
memory attach every time, and fall back to words every time it is missing. Nothing is remembered
between two calls but the tracee.

Here is what a single call is to such a tracer, and the abstract machine it would like to talk to:
a plain byte store, with no paths in it.

## What a tracer can be promised

There are two answers to that, and both are here. `VmCall.stored` is the strong one: the replies
are those of a store. It needs memory that is accessible and, on the word-wise path, writes of
whole words. `VmCall.Accounted` is the weak one, and holds without any of that: whatever a call
returns, it has moved that many bytes and no others. A tracer that looks at the values it gets can
rely on the second in situations where the first is not to be had.
-/

set_option autoImplicit false

namespace PinkTrace

open Lib

variable {arch : Arch}

/-- A call of a tracer. A read has a buffer with something in it, and a write brings along what
    the uninitialised union of `pink_vm_lwrite` holds in each round. -/
inductive VmCall (arch : Arch)
  | read (addr : Addr arch) (dest : Bytes) (len : Nat)
  | write (addr : Addr arch) (src : Bytes) (len : Nat) (junk : Nat → Word arch)

/-- What the tracer gets: the value, and of a read its buffer. The buffer is cut to the length
    that was asked for, since nothing behind it belongs to the call. -/
structure VmReply where
  ret : Int
  buffer : List UInt8

namespace VmCall

/-- The library's answer. The state goes from one call to the next, with the log and the `errno`
    in it; the calls themselves only depend on the memory. -/
def reply (fuel : Nat) (K : Kernel arch) (abi : Abi arch) :
    VmCall arch → State arch → Option (VmReply × State arch)
  | read addr dest len, s =>
    (pinkReadVmData fuel K abi addr dest len s).map fun r => (⟨r.ret, listOf r.dest len⟩, r.st)
  | write addr src len junk, s =>
    (pinkWriteVmData fuel K junk abi addr src len s).map fun w => (⟨w.ret, []⟩, w.st)

/-- The answer of a byte store. It never refuses, and returns what it was asked for; the junk of a
    write does not appear. -/
def stored : VmCall arch → Memory arch.longBits → VmReply × Memory arch.longBits
  | read addr _ len, mem => (⟨len, listOf (mem.from addr) len⟩, mem)
  | write addr src len _, mem => (⟨len, []⟩, mem.store addr src len)

/-- The value that was returned is the whole truth about a call: a read has filled as much of the
    buffer as it says, with what the memory holds, and a write has stored as much of its bytes as
    it says, and nothing else. -/
def Accounted (abi : Abi arch) :
    VmCall arch → VmReply → Memory arch.longBits → Memory arch.longBits → Prop
  | read addr dest len, reply, mem, mem' =>
    reply.ret ≤ len ∧ mem' = mem ∧
      reply.buffer = listOf (copy dest 0 (mem.from (setupAddr abi addr)) reply.ret.toNat) len
  | write addr src len _, reply, mem, mem' =>
    reply.ret ≤ len ∧ mem' = mem.store (setupAddr abi addr) src reply.ret.toNat

end VmCall

/-- A call, and whether attach may be used at that moment. Permissions come and go, and a session
    that began with attach may end without it. -/
structure VmMoment (arch : Arch) where
  readv : Attach
  writev : Attach
  call : VmCall arch

end PinkTrace
