import PinkTrace.Lib.Loop
import PinkTrace.Kernel

/-!
# Data transfer between address spaces (`vm.c`, and the readers and writers over it)

The six transfer functions of `vm.c`, and the four entry points of `read.c` and `write.c` that try
cross memory attach first and fall back to `ptrace` on `ENOSYS` or `EPERM`.

Every `while` loop is a body for `Lib.run`, and every function takes the bound `fuel` on the
passes of its loops; `none` means the bound was reached, or that the C code has no defined
behaviour there. The widths that matter are kept: the counters of the word-wise loops are 32-bit
and wrap, a result is converted to `ssize_t`, and `pink_vm_cread_nul` computes its chunk in `int`,
where overflow is undefined. An address held in a `long` is taken modulo the address space, as the
kernel takes it.

## Where the six functions differ from what one would write

They look like one function six times, and most of what there is to prove is where they are not:

* the word-wise functions do not call `setup_addr`, so a compat address keeps its upper half there
  and loses it on the way through attach;
* `pink_vm_lwrite` copies from `src[residue]`, although `src` has not been moved back by the
  residue, and pokes a union of which `m` bytes were assigned;
* its `count` is an `unsigned int`, and so is the `-1` it returns when the first poke fails;
* the NUL scan of `pink_vm_lread_nul` runs to the end of the word, past `m`, and its value is
  computed from the position in the word rather than in the buffer;
* `pink_vm_cread_nul` takes the page offset from the address it was entered with, in every round.

Each of these is in the definition of the function it belongs to. The lemmas that follow from them
are in `Proof/Vm`, one file per function.
-/

set_option autoImplicit false

namespace PinkTrace

open Lib

variable {arch : Arch}

/-- The value of type `ssize_t` an unsigned integer converts to. A count of `2^31` bytes or more
    comes out of it negative on a 32-bit build, and unchanged on the others. -/
def toSsize (arch : Arch) (n : Nat) : Int := Int.bmod n (2 ^ arch.longBits)

/-- `setup_addr`: addresses of a 32-bit ABI under a 64-bit host lose their upper half. -/
def setupAddr (abi : Abi arch) (addr : Addr arch) : Addr arch :=
  if 1 < arch.pinkAbisSupported ∧ 4 < arch.sizeofLong then
    let wsize := pinkAbiWordsize abi
    if wsize < arch.sizeofLong then addr &&& BitVec.ofNat _ (2 ^ (8 * wsize) - 1) else addr
  else addr

/-! ## One word at a time

The three `pink_vm_l*` functions share their loop variables: the address, the distance `dest`
or `src` has moved, the bytes left, the residue of the first word and the 32-bit count. -/

/-- The variables of a word-wise loop. `off` stands for a pointer that moves: the code increments
    `dest` or `src` itself, and the difference to where it began is all that is ever asked. -/
@[ext] structure Cursor (arch : Arch) where
  addr : Addr arch
  off : Nat
  len : Nat
  residue : Nat
  count : Nat

namespace Cursor

/-- `count = 0; residue = addr & (sizeof(long) - 1)`. Only the first word can have a residue;
    `next` sets it to zero. -/
def start (addr : Addr arch) (len : Nat) : Cursor arch where
  addr
  off := 0
  len
  residue := (addr &&& BitVec.ofNat _ (arch.sizeofLong - 1)).toNat
  count := 0

/-- `addr &= -sizeof(long)`. Done in every pass; after the first it changes nothing. -/
def aligned (c : Cursor arch) : Addr arch := c.addr &&& -BitVec.ofNat _ arch.sizeofLong

/-- `m = MIN(sizeof(long) - residue, len)`: the bytes of the word at hand that belong to the
    range. It is positive as long as `len` is, and that is why the loops end. -/
def m (c : Cursor arch) : Nat := min (arch.sizeofLong - c.residue) c.len

/-- The updates at the end of a pass: `residue = 0`, and the word just handled is behind. -/
def next (c : Cursor arch) : Cursor arch where
  addr := ahead c.aligned arch.sizeofLong
  off := c.off + c.m
  len := c.len - c.m
  residue := 0
  count := (c.count + c.m) % 2 ^ 32

end Cursor

/-- The variables of the word-wise readers, with the buffer as it is at this point of the copy. -/
structure LreadVars (arch : Arch) where
  cur : Cursor arch
  dest : Bytes
  st : State arch

/-- One pass of `pink_vm_lread`. A failed peek abandons the call, whatever was copied. -/
def lreadBody (K : Kernel arch) (v : LreadVars arch) : Next (LreadVars arch) (ReadRet arch) :=
  if v.cur.len = 0 then .done ⟨toSsize arch v.cur.count, v.dest, v.st⟩
  else
    match pinkReadWordData K v.cur.aligned v.st with
    | (.error e, st) => .done ⟨-1, v.dest, { st with errno := some e }⟩
    | (.ok u, st) => .again {
        cur := v.cur.next
        dest := copy v.dest v.cur.off (fun i => u.x (v.cur.residue + i)) v.cur.m
        st }

/-- `pink_vm_lread`. Up to the width of its count it returns `len` or fails: there is no short
    read on this path. -/
def pinkVmLread (fuel : Nat) (K : Kernel arch) (addr : Addr arch) (dest : Bytes) (len : Nat)
    (s : State arch) : Option (ReadRet arch) :=
  run (lreadBody K) fuel ⟨.start addr len, dest, s⟩

/-- `while (residue < sizeof(long)) if (u.x[residue++] == '\0') …`: the index of the first NUL of
    a word at or after `residue`. The scan knows nothing of `m`, so it also finds a NUL behind the
    last byte that was asked for. -/
def scanNul (u : Word arch) (residue : Nat) : Option Nat :=
  (List.range' residue (arch.sizeofLong - residue)).find? (fun j => u.x j == 0)

/-- One pass of `pink_vm_lread_nul`. The value returned at a NUL is
    `(dest - orig_dest) + residue - 1` after `residue` was stepped past it. -/
def lreadNulBody (K : Kernel arch) (v : LreadVars arch) :
    Next (LreadVars arch) (ReadRet arch) :=
  if v.cur.len = 0 then .done ⟨toSsize arch v.cur.count, v.dest, v.st⟩
  else
    match pinkReadWordData K v.cur.aligned v.st with
    | (.error e, st) => .done ⟨-1, v.dest, { st with errno := some e }⟩
    | (.ok u, st) =>
      let dest := copy v.dest v.cur.off (fun i => u.x (v.cur.residue + i)) v.cur.m
      match scanNul u v.cur.residue with
      | some j => .done ⟨toSsize arch (v.cur.off + j), dest, st⟩
      | none => .again { cur := v.cur.next, dest, st }

/-- `pink_vm_lread_nul`. The same walk as `pink_vm_lread` with one more way out of it. -/
def pinkVmLreadNul (fuel : Nat) (K : Kernel arch) (addr : Addr arch) (dest : Bytes) (len : Nat)
    (s : State arch) : Option (ReadRet arch) :=
  run (lreadNulBody K) fuel ⟨.start addr len, dest, s⟩

/-- The variables of the word-wise writer; `round` numbers the passes. -/
structure LwriteVars (arch : Arch) where
  cur : Cursor arch
  round : Nat
  st : State arch

/-- The union of a pass after `memcpy(u.x, &src[residue], m)`: the first `m` bytes come from
    `src`, the others are what the uninitialised union held. -/
def lwriteUnion (src : Bytes) (junk : Word arch) (c : Cursor arch) : Word arch :=
  fun j => if j < c.m then src (c.off + c.residue + j) else junk j

/-- One pass of `pink_vm_lwrite`. The value returned on a failure is an `unsigned int`, also
    when it is written `-1`. -/
def lwriteBody (K : Kernel arch) (src : Bytes) (junk : Nat → Word arch)
    (v : LwriteVars arch) : Next (LwriteVars arch) (WriteRet arch) :=
  if v.cur.len = 0 then .done ⟨toSsize arch v.cur.count, v.st⟩
  else
    match pinkWriteWordData K v.cur.aligned (lwriteUnion src (junk v.round) v.cur) v.st with
    | (.error e, st) =>
      .done ⟨toSsize arch (if 0 < v.cur.count then v.cur.count else 2 ^ 32 - 1),
        { st with errno := some e }⟩
    | (.ok _, st) => .again ⟨v.cur.next, v.round + 1, st⟩

/-- `pink_vm_lwrite`. `junk k` is what the uninitialised union of the `k`-th pass holds, and
    `src` is the tracer's memory from `src` on, past the buffer's own bytes as well. -/
def pinkVmLwrite (fuel : Nat) (K : Kernel arch) (junk : Nat → Word arch) (addr : Addr arch)
    (src : Bytes) (len : Nat) (s : State arch) : Option (WriteRet arch) :=
  run (lwriteBody K src junk) fuel ⟨.start addr len, 0, s⟩

/-! ## Cross memory attach -/

/-- `pink_vm_cread`. -/
def pinkVmCread (K : Kernel arch) (abi : Abi arch) (addr : Addr arch) (dest : Bytes)
    (len : Nat) (s : State arch) : ReadRet arch :=
  processVmReadv K dest 0 (setupAddr abi addr) len s

/-- The variables of the chunked string reader: where the next chunk goes and comes from, the
    bytes left and the count. -/
structure CreadNulVars (arch : Arch) where
  localOff : Nat
  remote : Addr arch
  len : Nat
  count : Nat
  dest : Bytes
  st : State arch

/-- `chunk_len` before the page end is considered: `len` converted to `int`, at most 256. Of a
    `len` that is no `int` it may be zero or negative. -/
def cappedChunk (len : Nat) : Int :=
  let chunk := Int.bmod len (2 ^ 32)
  if 256 < chunk then 256 else chunk

/-- `end_in_page = ((addr + chunk_len) & 4095)`, from the `addr` the function was entered with.
    The variable is never advanced, so this is not the offset of the chunk that is about to be
    read. -/
def endInPage (addr : Addr arch) (chunk : Int) : Int :=
  (addr + BitVec.ofInt _ chunk &&& 4095).toNat

/-- `chunk_len` as requested from the kernel; `none` where the subtraction overflows. A chunk that
    would end behind a page boundary is cut back to it, unless nothing would be left. -/
def chunkLen (addr : Addr arch) (len : Nat) : Option Int :=
  let chunk := cappedChunk len
  let r := chunk - endInPage addr chunk
  if r < -2 ^ 31 then none
  else some (if 0 < r then r else chunk)

/-- `memchr(base, '\0', r)` as an index. Only the bytes that this request transferred are
    searched. -/
def memchrNul (b : Bytes) (r : Nat) : Option Nat :=
  (List.range r).find? (fun i => b i == 0)

/-- One pass of `pink_vm_cread_nul`. -/
def creadNulBody (K : Kernel arch) (addr : Addr arch) (v : CreadNulVars arch) :
    Next (CreadNulVars arch) (ReadRet arch) :=
  if v.len = 0 then .done ⟨v.count, v.dest, v.st⟩
  else
    match chunkLen addr v.len with
    | none => .undef
    | some chunk =>
      let iovLen := (BitVec.ofInt arch.longBits chunk).toNat
      let r := processVmReadv K v.dest v.localOff v.remote iovLen v.st
      if r.ret < 0 then .done ⟨if 0 < v.count then v.count else -1, r.dest, r.st⟩
      else
        match memchrNul (fun i => r.dest (v.localOff + i)) r.ret.toNat with
        | some p => .done ⟨v.count + p + 1, r.dest, r.st⟩
        | none => .again {
            localOff := v.localOff + r.ret.toNat
            remote := ahead v.remote r.ret.toNat
            len := v.len - r.ret.toNat
            count := v.count + r.ret.toNat
            dest := r.dest
            st := r.st }

/-- `pink_vm_cread_nul`. `setup_addr` is applied once, and the result serves as the remote address
    and as the one the chunks are computed from. -/
def pinkVmCreadNul (fuel : Nat) (K : Kernel arch) (abi : Abi arch) (addr : Addr arch)
    (dest : Bytes) (len : Nat) (s : State arch) : Option (ReadRet arch) :=
  let addr := setupAddr abi addr
  run (creadNulBody K addr) fuel ⟨0, addr, len, 0, dest, s⟩

/-- `pink_vm_cwrite`. -/
def pinkVmCwrite (K : Kernel arch) (abi : Abi arch) (addr : Addr arch) (src : Bytes)
    (len : Nat) (s : State arch) : WriteRet arch :=
  processVmWritev K (setupAddr abi addr) src len s

/-! ## The entry points of `read.c` and `write.c` -/

/-- `errno == ENOSYS || errno == EPERM`, the test that selects the `ptrace` fallback. It looks at
    `errno` and not at the value returned; that is sound because `errno` was cleared and a call
    that succeeds leaves it alone. -/
def attachMissing (s : State arch) : Bool :=
  s.errno = some .enosys || s.errno = some .eperm

/-- `pink_read_vm_data`. The fallback gets the address as the caller gave it, not as `setup_addr`
    left it. -/
def pinkReadVmData (fuel : Nat) (K : Kernel arch) (abi : Abi arch) (addr : Addr arch)
    (dest : Bytes) (len : Nat) (s : State arch) : Option (ReadRet arch) :=
  let r := pinkVmCread K abi addr dest len { s with errno := none }
  if attachMissing r.st then pinkVmLread fuel K addr r.dest len r.st else some r

/-- `pink_read_vm_data_full`: `0`, or a negated errno. A short read counts as a fault, although
    the kernel did not report one. -/
def pinkReadVmDataFull (fuel : Nat) (K : Kernel arch) (abi : Abi arch) (addr : Addr arch)
    (dest : Bytes) (len : Nat) (s : State arch) : Option (ReadRet arch) := do
  let r ← pinkReadVmData fuel K abi addr dest len { s with errno := none }
  if r.ret < 0 then some { r with ret := -((r.st.errno.map Errno.code).getD 0 : Nat) }
  else if (len : Int) ≠ r.ret then some { r with ret := -(Errno.efault.code : Nat) }
  else some { r with ret := 0 }

/-- `pink_read_vm_data_nul`, which `pink_read_string` is another name of. The fallback starts from
    the beginning, also if attach had already delivered some chunks. -/
def pinkReadVmDataNul (fuel : Nat) (K : Kernel arch) (abi : Abi arch) (addr : Addr arch)
    (dest : Bytes) (len : Nat) (s : State arch) : Option (ReadRet arch) := do
  let r ← pinkVmCreadNul fuel K abi addr dest len { s with errno := none }
  if attachMissing r.st then pinkVmLreadNul fuel K addr r.dest len r.st else some r

/-- `pink_write_vm_data`. As with reads, the decision between the paths is made anew in every
    call. -/
def pinkWriteVmData (fuel : Nat) (K : Kernel arch) (junk : Nat → Word arch) (abi : Abi arch)
    (addr : Addr arch) (src : Bytes) (len : Nat) (s : State arch) : Option (WriteRet arch) :=
  let r := pinkVmCwrite K abi addr src len { s with errno := none }
  if attachMissing r.st then pinkVmLwrite fuel K junk addr src len r.st else some r

end PinkTrace
