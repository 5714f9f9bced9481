import PinkTrace.Arch

/-!
# The kernel's side of a transfer (`ptrace(2)`, `process_vm_readv(2)`, `trace.c`)

The library reaches tracee memory in two ways: one aligned `long` at a time through
`PTRACE_PEEKDATA` and `PTRACE_POKEDATA`, or a whole range at once through cross memory attach.
Neither is under `src/`, so both are modelled from their documentation, with everything the kernel
is free to choose collected in `Kernel`: which words can be peeked and poked and what they fail
with, which bytes attach can reach, whether attach is there at all, and how much of a readable
request it cares to transfer.

`pink_ptrace` is the one wrapper all requests go through. What makes it delicate is that the value
of a peek is reported in band: a word whose bytes are all `0xff` *is* the error return, and only
`errno` tells the two apart.

## What is assumed of a kernel, and what is not

`Kernel` asks for two things only: a request that can make progress makes some, and none moves a
byte it cannot reach. It does not say that a word is as accessible as its bytes are, nor that
peeks and attach agree about a page. Those are true of Linux, and `AddressSpace.kernel` has them;
but they are needed only where the two paths are compared, and a result that holds without them is
stated without them.

A request is also logged. The log is not state that the code could look at. It is there so that
results can speak of the requests that were made, of their order and of their sizes, and so that a
kernel may answer the same question differently the next time.
-/

set_option autoImplicit false

namespace PinkTrace

open Lib

/-- A nonzero `errno`. Zero means that nothing went wrong, and code that returns `-errno` would
    then report success; so it is no value here, and `Option Errno` is what a variable holds. -/
structure Errno where
  code : Nat
  pos : 0 < code
  deriving DecidableEq, Repr

namespace Errno

def eperm : Errno := ⟨1, by decide⟩
def eintr : Errno := ⟨4, by decide⟩
def eio : Errno := ⟨5, by decide⟩
def efault : Errno := ⟨14, by decide⟩
def einval : Errno := ⟨22, by decide⟩
def enosys : Errno := ⟨38, by decide⟩

end Errno

variable {arch : Arch}

/-- A `long` as the bytes it is stored as, which is how `union { long val; char x[]; }` looks
    at it. Byte order does not matter: a word is never computed with. -/
abbrev Word (arch : Arch) := Fin arch.sizeofLong → UInt8

namespace Word

/-- `-1`. -/
def negOne : Word arch := fun _ => 0xff

/-- `0`. -/
def zero : Word arch := fun _ => 0

/-- The bytes from `&u.x[0]` on. -/
def x (u : Word arch) : Bytes := fun j => if h : j < arch.sizeofLong then u ⟨j, h⟩ else 0

/-- The word whose bytes are the first ones behind a pointer. -/
def ofBytes (b : Bytes) : Word arch := fun j => b j

theorem x_of_lt {u : Word arch} {j : Nat} (h : j < arch.sizeofLong) : u.x j = u ⟨j, h⟩ :=
  dif_pos h

theorem x_ofBytes (b : Bytes) {j : Nat} (h : j < arch.sizeofLong) :
    (ofBytes b : Word arch).x j = b j := dif_pos h

end Word

/-- A request the tracer put to the kernel. The values that are written are not part of it: what
    became of them is seen in the memory. -/
inductive Request (arch : Arch)
  | peekData (a : Addr arch)
  | pokeData (a : Addr arch)
  | vmReadv (base : Addr arch) (len : Nat)
  | vmWritev (base : Addr arch) (len : Nat)
  deriving DecidableEq

/-- What a transfer can see and change: the tracee's memory, the tracer's `errno` (`none` is
    zero) and, oldest first, the requests made so far. -/
structure State (arch : Arch) where
  mem : Memory arch.longBits
  errno : Option Errno
  log : List (Request arch)

/-- Everything the kernel decides. It may decide anew at every request: `transfer` is given the
    number of requests before, and the errors may differ from one address to the next. -/
structure Kernel (arch : Arch) where
  /-- What `PTRACE_PEEKDATA` of the word at an address fails with. -/
  peekErr : Addr arch → Option Errno
  /-- What `PTRACE_POKEDATA` of the word at an address fails with. -/
  pokeErr : Addr arch → Option Errno
  /-- The bytes `process_vm_readv` can reach. -/
  readable : Addr arch → Bool
  /-- The bytes `process_vm_writev` can reach. -/
  writable : Addr arch → Bool
  /-- What every `process_vm_readv` fails with where the call is missing or forbidden. -/
  readvErr : Option Errno
  /-- …and every `process_vm_writev`. -/
  writevErr : Option Errno
  /-- How much of a request with this many reachable bytes is transferred; the first argument
      counts the requests before it. -/
  transfer : Nat → Nat → Nat
  /-- A request that can make progress makes some, and none past what it can reach. -/
  transfer_pos : ∀ k {p : Nat}, 0 < p → 0 < transfer k p
  transfer_le : ∀ k p, transfer k p ≤ p

/-! ## `ptrace(2)` on tracee memory -/

/-- `ptrace(PTRACE_PEEKDATA, pid, a, NULL)`, in the form the C library gives it: the word is
    the return value, and `errno` is cleared by a successful peek. -/
def ptracePeekData (K : Kernel arch) (a : Addr arch) (s : State arch) :
    Word arch × State arch :=
  match K.peekErr a with
  | some e => (Word.negOne, { s with errno := some e, log := s.log ++ [.peekData a] })
  | none => (.ofBytes (s.mem.from a), { s with errno := none, log := s.log ++ [.peekData a] })

/-- `ptrace(PTRACE_POKEDATA, pid, a, v)`. -/
def ptracePokeData (K : Kernel arch) (a : Addr arch) (v : Word arch) (s : State arch) :
    Word arch × State arch :=
  match K.pokeErr a with
  | some e => (Word.negOne, { s with errno := some e, log := s.log ++ [.pokeData a] })
  | none => (Word.zero, { s with
      mem := s.mem.store a v.x arch.sizeofLong, log := s.log ++ [.pokeData a] })

/-- `EIO` and `EFAULT` are reported "more or less arbitrarily" for the same fault. `pink_ptrace`
    has the callers see the second. -/
def mapEio (e : Errno) : Errno := if e = .eio then .efault else e

/-- The shape of a `trace.c` function around a request that the host may not have:
    `#if PINK_HAVE_… return pink_ptrace(…); #else return -ENOSYS; #endif`. -/
def ifHave {α : Type} (found : Bool) (request : Except Errno α) : Except Errno α :=
  if found then request else .error .enosys

/-- `pink_ptrace` around one request: the value, or the `errno` it returns negated. It clears
    `errno` first and then needs both signs of a failure, a value of `-1` and an `errno` that is
    set. -/
def pinkPtrace (req : State arch → Word arch × State arch) (s : State arch) :
    Except Errno (Word arch) × State arch :=
  let (val, s) := req { s with errno := none }
  match s.errno with
  | some e =>
    if ∀ j, val j = 0xff then (.error (mapEio e), { s with errno := some (mapEio e) })
    else (.ok val, s)
  | none => (.ok val, s)

/-- `pink_read_word_data`. -/
def pinkReadWordData (K : Kernel arch) (off : Addr arch) (s : State arch) :
    Except Errno (Word arch) × State arch :=
  pinkPtrace (ptracePeekData K off) s

/-- `pink_write_word_data`. -/
def pinkWriteWordData (K : Kernel arch) (off : Addr arch) (val : Word arch) (s : State arch) :
    Except Errno (Word arch) × State arch :=
  pinkPtrace (ptracePokeData K off val) s

/-- **The in-band protocol is unambiguous**: a peek that succeeds is reported as a success,
    also when the word it found is `-1`. -/
theorem pinkReadWordData_ok {K : Kernel arch} {a : Addr arch} (s : State arch)
    (h : K.peekErr a = none) :
    pinkReadWordData K a s = (.ok (.ofBytes (s.mem.from a)),
      { s with errno := none, log := s.log ++ [.peekData a] }) := by
  simp only [pinkReadWordData, pinkPtrace, ptracePeekData, h]

/-- A peek that fails leaves the memory alone, and the errno the caller sees is the mapped one, in
    the return value and in `errno` alike. -/
theorem pinkReadWordData_error {K : Kernel arch} {a : Addr arch} {e : Errno} (s : State arch)
    (h : K.peekErr a = some e) :
    pinkReadWordData K a s = (.error (mapEio e),
      { s with errno := some (mapEio e), log := s.log ++ [.peekData a] }) := by
  simp [pinkReadWordData, pinkPtrace, ptracePeekData, h, Word.negOne]

/-- A poke stores a whole word: also the bytes of it that the caller did not mean to write. What
    they are is up to the caller. -/
theorem pinkWriteWordData_ok {K : Kernel arch} {a : Addr arch} (v : Word arch) (s : State arch)
    (h : K.pokeErr a = none) :
    pinkWriteWordData K a v s = (.ok Word.zero,
      { mem := s.mem.store a v.x arch.sizeofLong, errno := none,
        log := s.log ++ [.pokeData a] }) := by
  simp only [pinkWriteWordData, pinkPtrace, ptracePokeData, h]

theorem pinkWriteWordData_error {K : Kernel arch} {a : Addr arch} {e : Errno} (v : Word arch)
    (s : State arch) (h : K.pokeErr a = some e) :
    pinkWriteWordData K a v s = (.error (mapEio e),
      { s with errno := some (mapEio e), log := s.log ++ [.pokeData a] }) := by
  simp [pinkWriteWordData, pinkPtrace, ptracePokeData, h, Word.negOne]

/-! ## Cross memory attach -/

/-- What a transfer out of the tracee leaves behind: the value returned, the buffer at `dest`, and
    the state. The buffer is a result because a call that fails may have filled some of it. -/
structure ReadRet (arch : Arch) where
  ret : Int
  dest : Bytes
  st : State arch

/-- What a transfer into the tracee leaves behind. The bytes written are in the memory of the
    state, whatever the value says. -/
structure WriteRet (arch : Arch) where
  ret : Int
  st : State arch

/-- How many bytes of the request `[base, base + len)` can be reached before the first that
    cannot. The kernel copies front to back, so nothing behind that byte counts. -/
def reach (ok : Addr arch → Bool) (base : Addr arch) (len : Nat) : Nat :=
  leading (fun i => ok (ahead base i)) len

/-- What an attach request of this length fails with before any byte is looked at: a kernel
    without the call knows nothing else, any other first refuses a length that is negative as
    an `ssize_t`, and only then looks for the tracee and the permission. -/
def attachFailure (arch : Arch) (err : Option Errno) (len : Nat) : Option Errno :=
  if err = some .enosys then err
  else if 2 ^ (arch.longBits - 1) ≤ len then some .einval
  else err

/-- `process_vm_readv` with one local and one remote `iovec`, the local one at `dest + off`. A
    request whose first byte cannot be reached fails, every other transfers what
    `Kernel.transfer` says. -/
def processVmReadv (K : Kernel arch) (dest : Bytes) (off : Nat) (base : Addr arch) (len : Nat)
    (s : State arch) : ReadRet arch :=
  let log := s.log ++ [.vmReadv base len]
  match attachFailure arch K.readvErr len with
  | some e => ⟨-1, dest, { s with errno := some e, log }⟩
  | none =>
    if 0 < len ∧ reach K.readable base len = 0 then
      ⟨-1, dest, { s with errno := some .efault, log }⟩
    else
      let n := K.transfer s.log.length (reach K.readable base len)
      ⟨n, copy dest off (s.mem.from base) n, { s with log }⟩

/-- `process_vm_writev` with one local and one remote `iovec`. The mirror image of
    `processVmReadv`, but that nothing of the tracer changes. -/
def processVmWritev (K : Kernel arch) (base : Addr arch) (src : Bytes) (len : Nat)
    (s : State arch) : WriteRet arch :=
  let log := s.log ++ [.vmWritev base len]
  match attachFailure arch K.writevErr len with
  | some e => ⟨-1, { s with errno := some e, log }⟩
  | none =>
    if 0 < len ∧ reach K.writable base len = 0 then
      ⟨-1, { s with errno := some .efault, log }⟩
    else
      let n := K.transfer s.log.length (reach K.writable base len)
      ⟨n, { s with mem := s.mem.store base src n, log }⟩

/-- A length that is an `ssize_t` is no reason of its own to fail. -/
theorem attachFailure_of_lt {len : Nat} (h : len < 2 ^ (arch.longBits - 1)) (err : Option Errno) :
    attachFailure arch err len = err := by
  unfold attachFailure
  split
  · rfl
  · rw [if_neg (by omega)]

/-- …and any other is, whatever the state of the tracee. The errno is not named: a kernel without
    the call does not get as far as the length. -/
theorem attachFailure_of_le {len : Nat} (h : 2 ^ (arch.longBits - 1) ≤ len)
    (err : Option Errno) : ∃ e, attachFailure arch err len = some e := by
  by_cases he : err = some .enosys
  · exact ⟨.enosys, by rw [attachFailure, if_pos he, he]⟩
  · exact ⟨.einval, by rw [attachFailure, if_neg he, if_pos h]⟩

/-- Whether a request fails altogether is decided by its first byte. -/
theorem reach_eq_zero {ok : Addr arch → Bool} {base : Addr arch} {len : Nat} (hpos : 0 < len) :
    reach ok base len = 0 ↔ ok base = false := by
  constructor
  · intro h0
    have hstop := leading_stops (p := fun i => ok (ahead base i)) (m := len)
      (by unfold reach at h0; omega)
    unfold reach at h0
    rw [h0, ahead_zero] at hstop
    exact hstop
  · intro hbad
    refine leading_unique (Nat.zero_le _) (fun i hi => absurd hi (Nat.not_lt_zero i)) fun _ => ?_
    rw [ahead_zero]
    exact hbad

section

variable {K : Kernel arch} {base : Addr arch} {len : Nat}

/-- An attach read where the call is there: a fault if the first byte is out of reach… -/
theorem processVmReadv_fault (dest : Bytes) (off : Nat) (s : State arch)
    (hK : K.readvErr = none) (hs : len < 2 ^ (arch.longBits - 1)) (hpos : 0 < len)
    (hbad : K.readable base = false) :
    processVmReadv K dest off base len s =
      ⟨-1, dest, { s with errno := some .efault, log := s.log ++ [.vmReadv base len] }⟩ := by
  simp only [processVmReadv, attachFailure_of_lt hs, hK]
  exact if_pos ⟨hpos, (reach_eq_zero hpos).mpr hbad⟩

/-- …and otherwise a transfer out of the reachable bytes. -/
theorem processVmReadv_transfer (dest : Bytes) (off : Nat) (s : State arch)
    (hK : K.readvErr = none) (hs : len < 2 ^ (arch.longBits - 1)) (hpos : 0 < len)
    (hgood : K.readable base = true) :
    processVmReadv K dest off base len s =
      ⟨K.transfer s.log.length (reach K.readable base len),
        copy dest off (s.mem.from base) (K.transfer s.log.length (reach K.readable base len)),
        { s with log := s.log ++ [.vmReadv base len] }⟩ := by
  simp only [processVmReadv, attachFailure_of_lt hs, hK]
  refine if_neg fun hand => ?_
  rw [(reach_eq_zero hpos).mp hand.2] at hgood
  exact absurd hgood (by decide)

end

/-! ## Page-granular kernels

What the library's two paths can be compared on: a tracee whose memory is accessible page by
page, where a peek fails exactly on an unreadable page, a poke exactly on an unwritable one,
and attach transfers every byte it can reach. -/

/-- Whether cross memory attach may be used, and how its absence shows. -/
inductive Attach
  | available | enosys | eperm
  deriving DecidableEq, Repr

/-- The `errno` of a call under this availability. -/
def Attach.err : Attach → Option Errno
  | available => none
  | enosys => some .enosys
  | eperm => some .eperm

/-- The protection of a tracee's pages, by page number, and which of its two errnos a fault on a
    word is reported with. -/
structure AddressSpace (arch : Arch) where
  readable : Nat → Bool
  writable : Nat → Bool
  faultsEio : Addr arch → Bool

namespace AddressSpace

variable (sp : AddressSpace arch)

/-- The number of the 4096-byte page an address lies in. -/
def page (a : Addr arch) : Nat := a.toNat / 4096

def fault (a : Addr arch) : Errno := if sp.faultsEio a then .eio else .efault

/-- The kernel in front of such a tracee. A word that is peeked is aligned, so it lies on the page
    of its first byte, and asking for that page is enough. -/
def kernel (readv writev : Attach) : Kernel arch where
  peekErr a := if sp.readable (page a) then none else some (sp.fault a)
  pokeErr a := if sp.writable (page a) then none else some (sp.fault a)
  readable a := sp.readable (page a)
  writable a := sp.writable (page a)
  readvErr := readv.err
  writevErr := writev.err
  transfer _ p := p
  transfer_pos _ _ h := h
  transfer_le _ p := Nat.le_refl p

/-- Every byte of the range lies on a readable page. -/
def Readable (addr : Addr arch) (len : Nat) : Prop :=
  ∀ i, i < len → sp.readable (page (ahead addr i)) = true

/-- Every byte of the range lies on a writable page. -/
def Writable (addr : Addr arch) (len : Nat) : Prop :=
  ∀ i, i < len → sp.writable (page (ahead addr i)) = true

end AddressSpace

end PinkTrace
