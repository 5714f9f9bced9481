import PinkTrace.Read
import PinkTrace.Regset.X86

/-!
# Socket calls (`socket.c`)

A socket call reaches the kernel in one of two ways. On most ABIs it is a system call of its own,
with its arguments in the argument registers; on i386 it may also be multiplexed through
`socketcall(int call, unsigned long *args)`, where the second argument points to an array of words
in tracee memory. `pink_read_socket_argument` hides the difference, and `pink_read_socket_address`
decodes a `struct sockaddr` on top of it.

The two ways widen a 32-bit word differently: a register is read through a `long`, which extends
its sign, and an array element through an `unsigned int`, which does not.

## What a caller gets when something fails

Both functions have several results that are assigned at different points, and an early return
leaves the others as the caller had them. So every result is also a parameter: `argval`, what `fd`
points to and the `struct pink_sockaddr` come in with their old contents. A failed read of the
address itself is the one case in which the caller's structure has changed and is not filled: its
union was cleared, and holds as many bytes as arrived.
-/

set_option autoImplicit false

namespace PinkTrace

open Lib

variable {arch : Arch}

/-- What `socket.c` uses of a `struct pink_regset`: the ABI, and `pink_read_argument` on it. With
    that the file is independent of the architecture, as it is in C. -/
structure CallRegs (arch : Arch) where
  abi : Abi arch
  pinkReadArgument : Nat → Except Errno (Addr arch)

/-- The register set of the `x86_64` build. -/
def X86Regset.callRegs (rs : X86Regset) : CallRegs .x86_64 :=
  ⟨rs.abi, PinkTrace.pinkReadArgument rs⟩

/-! ## `pink_read_socket_argument` -/

/-- What reading an argument leaves behind: zero or a negated errno, `*argval`, and the state. -/
structure ArgRet (arch : Arch) where
  ret : Int
  argval : Addr arch
  st : State arch

/-- `pink_read_vm_object_full` of an unsigned object of `size` bytes, assigned to `*argval`. The
    object is uninitialised, and assigned from only after all of it was read. -/
def readUnsigned (fuel : Nat) (K : Kernel arch) (abi : Abi arch) (uAddr : Addr arch) (size : Nat)
    (argval : Addr arch) (s : State arch) : Option (ArgRet arch) := do
  let r ← pinkReadVmDataFull fuel K abi uAddr (fun _ => 0) size s
  if r.ret < 0 then some ⟨r.ret, argval, r.st⟩
  else some ⟨0, BitVec.ofNat _ (loadUnsigned arch r.dest size), r.st⟩

/-- `pink_read_socket_argument`, of a caller who does pass an `argval`. The index of an array
    element is not bounded by anything; that of a register is, by `pink_read_argument`. -/
def pinkReadSocketArgument (fuel : Nat) (K : Kernel arch) (regset : CallRegs arch)
    (decodeSocketcall : Bool) (argIndex : Nat) (argval : Addr arch) (s : State arch) :
    Option (ArgRet arch) :=
  if !decodeSocketcall then
    match regset.pinkReadArgument argIndex with
    | .error e => some ⟨-(e.code : Int), argval, s⟩
    | .ok arg => some ⟨0, arg, s⟩
  else
    match regset.pinkReadArgument 1 with
    | .error e => some ⟨-(e.code : Int), argval, s⟩
    | .ok addr =>
      let wsize := pinkAbiWordsize regset.abi
      let uAddr := addr + BitVec.ofNat _ (argIndex * wsize)
      if wsize = 4 then readUnsigned fuel K regset.abi uAddr 4 argval s
      else readUnsigned fuel K regset.abi uAddr arch.sizeofLong argval s

/-! ## `pink_read_socket_address` -/

/-- `sizeof(sockaddr->u)`, which is also that of its `pad`. -/
abbrev sizeofSockaddrU : Nat := 128

/-- `struct pink_sockaddr`, its union as the bytes of `pad`. A family of `-1` means that there was
    no address. -/
structure PinkSockaddr where
  family : Int
  length : Nat
  u : Bytes

/-- What decoding a socket address leaves behind. `fd` is `none` for a null pointer, and
    otherwise what it points to. -/
structure SockaddrRet (arch : Arch) where
  ret : Int
  fd : Option (BitVec 32)
  sockaddr : PinkSockaddr
  st : State arch

/-- `if (addrlen < 2 || addrlen > sizeof(sockaddr->u)) addrlen = sizeof(sockaddr->u)`. A length
    that makes no sense is not an error: then as much is read as there is room for. -/
def clampAddrlen (addrlen : Nat) : Nat :=
  if addrlen < 2 ∨ sizeofSockaddrU < addrlen then sizeofSockaddrU else addrlen

/-- The end of `pink_read_socket_address`, once `addr` and `addrlen` are known. The last byte of
    the union is set to zero even if all of it was read, so that a path in it is always a string.
    -/
def readSockaddr (fuel : Nat) (K : Kernel arch) (abi : Abi arch) (addr addrlen : Addr arch)
    (fd : Option (BitVec 32)) (sockaddr : PinkSockaddr) (s : State arch) :
    Option (SockaddrRet arch) :=
  if addr = 0 then some ⟨0, fd, { sockaddr with family := -1, length := 0 }, s⟩
  else do
    let addrlen := clampAddrlen addrlen.toNat
    let u := copy sockaddr.u 0 (fun _ => 0) sizeofSockaddrU
    let r ← pinkReadVmDataFull fuel K abi addr u addrlen s
    if r.ret < 0 then some ⟨r.ret, fd, { sockaddr with u := r.dest }, r.st⟩
    else
      let u := copy r.dest (sizeofSockaddrU - 1) (fun _ => 0) 1
      some ⟨0, fd, ⟨loadUnsigned arch u 2, addrlen, u⟩, r.st⟩

/-- The middle of it: the two arguments at `arg_index` and, in `unsigned` arithmetic, `arg_index +
    1`. The second is read only if the first was. -/
def readSockaddrArgs (fuel : Nat) (K : Kernel arch) (regset : CallRegs arch)
    (decodeSocketcall : Bool) (argIndex : Nat) (fd : Option (BitVec 32))
    (sockaddr : PinkSockaddr) (s : State arch) : Option (SockaddrRet arch) := do
  let a ← pinkReadSocketArgument fuel K regset decodeSocketcall argIndex 0 s
  if a.ret < 0 then some ⟨a.ret, fd, sockaddr, a.st⟩
  else
    let l ← pinkReadSocketArgument fuel K regset decodeSocketcall ((argIndex + 1) % 2 ^ 32) 0 a.st
    if l.ret < 0 then some ⟨l.ret, fd, sockaddr, l.st⟩
    else readSockaddr fuel K regset.abi a.argval l.argval fd sockaddr l.st

/-- `pink_read_socket_address`. A caller who passes an `fd` has the first argument read before the
    others, and assigned even if one of those fails. -/
def pinkReadSocketAddress (fuel : Nat) (K : Kernel arch) (regset : CallRegs arch)
    (decodeSocketcall : Bool) (argIndex : Nat) (fd : Option (BitVec 32))
    (sockaddr : PinkSockaddr) (s : State arch) : Option (SockaddrRet arch) :=
  match fd with
  | none => readSockaddrArgs fuel K regset decodeSocketcall argIndex none sockaddr s
  | some old => do
    let r ← pinkReadSocketArgument fuel K regset decodeSocketcall 0 0 s
    if r.ret < 0 then some ⟨r.ret, some old, sockaddr, r.st⟩
    else
      readSockaddrArgs fuel K regset decodeSocketcall argIndex (some (r.argval.setWidth 32))
        sockaddr r.st

end PinkTrace
