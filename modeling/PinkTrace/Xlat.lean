import PinkTrace.Lib.Assoc

/-!
# Named constants (`name.c`, `event.h`, `socket.h`)

Three of the tables of `name.c` are not indexed by number: events, subcalls of `socketcall(2)` and
address families are arrays of pairs, searched by `xname` and `xlookup`. The first two are fixed.
Of the address families a build has those that its C library defines, each with the number it has
there, in the order of the source; what a C library defines is a parameter here.

It has to be one, because the families have aliases. `AF_FILE`, `AF_LOCAL` and `AF_UNIX` are
commonly one number, and which of the three names `xname` answers with is decided by the order of
the table and by which of them are there. `Lib.defined` is the table with the missing rows left
out.
-/

set_option autoImplicit false

namespace PinkTrace

open Lib

/-- An array of `struct xlat`, without the row that ends it. The end is a row with a null pointer,
    so a name is never part of it. -/
abbrev Xlat := List (String × Int)

/-- `xname`. -/
def xname (xlat : Xlat) (val : Int) : Option String := keyOf xlat val

/-- `xlookup`; `none` is a null pointer. An empty name is refused before the table is searched,
    and `-1` stands for all failures. -/
def xlookup (xlat : Xlat) (str : Option String) : Int :=
  match str with
  | none => -1
  | some str => if str = "" then -1 else (valueOf xlat str).getD (-1)

/-! ## Events -/

/-- `enum pink_event`. -/
inductive PinkEvent
  | none | fork | vfork | clone | exec | vforkDone | exit | seccomp | stop
  deriving DecidableEq, Repr

def PinkEvent.val : PinkEvent → Int
  | none => 0 | fork => 1 | vfork => 2 | clone => 3 | exec => 4 | vforkDone => 5 | exit => 6
  | seccomp => 7 | stop => 128

def events : Xlat :=
  [("FORK", PinkEvent.fork.val), ("VFORK", PinkEvent.vfork.val), ("CLONE", PinkEvent.clone.val),
   ("EXEC", PinkEvent.exec.val), ("VFORK_DONE", PinkEvent.vforkDone.val),
   ("EXIT", PinkEvent.exit.val), ("SECCOMP", PinkEvent.seccomp.val),
   ("STOP", PinkEvent.stop.val)]

def pinkNameEvent (event : Int) : Option String := xname events event

def pinkLookupEvent (name : Option String) : Int := xlookup events name

/-! ## Subcalls -/

/-- `enum pink_socket_subcall`, in the order of its numbers, which start at one. They are the
    kernel's `SYS_SOCKET` and so on. -/
inductive PinkSocketSubcall
  | socket | bind | connect | listen | accept | getsockname | getpeername | socketpair | send
  | recv | sendto | recvfrom | shutdown | setsockopt | getsockopt | sendmsg | recvmsg | accept4
  deriving DecidableEq, Repr

def PinkSocketSubcall.val (subcall : PinkSocketSubcall) : Int := subcall.ctorIdx + 1

/-- The table begins with `bind`: `socket`, the first of the enumeration, has no row. -/
def socketSubcalls : Xlat :=
  [("bind", PinkSocketSubcall.bind.val), ("connect", PinkSocketSubcall.connect.val),
   ("listen", PinkSocketSubcall.listen.val), ("accept", PinkSocketSubcall.accept.val),
   ("getsockname", PinkSocketSubcall.getsockname.val),
   ("getpeername", PinkSocketSubcall.getpeername.val),
   ("socketpair", PinkSocketSubcall.socketpair.val), ("send", PinkSocketSubcall.send.val),
   ("recv", PinkSocketSubcall.recv.val), ("sendto", PinkSocketSubcall.sendto.val),
   ("recvfrom", PinkSocketSubcall.recvfrom.val), ("shutdown", PinkSocketSubcall.shutdown.val),
   ("setsockopt", PinkSocketSubcall.setsockopt.val),
   ("getsockopt", PinkSocketSubcall.getsockopt.val), ("sendmsg", PinkSocketSubcall.sendmsg.val),
   ("recvmsg", PinkSocketSubcall.recvmsg.val), ("accept4", PinkSocketSubcall.accept4.val)]

def pinkNameSocketSubcall (subcall : Int) : Option String := xname socketSubcalls subcall

def pinkLookupSocketSubcall (name : Option String) : Int := xlookup socketSubcalls name

/-! ## Address families -/

/-- The families `name.c` knows of, in the order of its table. The order decides which of several
    names for one number is found. -/
def addrfamNames : List String :=
  ["AF_ALG", "AF_APPLETALK", "AF_ASH", "AF_ATMPVC", "AF_ATMSVC", "AF_AX25", "AF_BLUETOOTH",
   "AF_BRIDGE", "AF_CAIF", "AF_CAN", "AF_DECnet", "AF_ECONET", "AF_FILE", "AF_IB",
   "AF_IEEE802154", "AF_IMPLINK", "AF_INET", "AF_INET6", "AF_IPX", "AF_IRDA", "AF_ISDN",
   "AF_ISO", "AF_IUCV", "AF_KCM", "AF_KEY", "AF_LLC", "AF_LOCAL", "AF_MAX", "AF_MPLS",
   "AF_NETBEUI", "AF_NETLINK", "AF_NETROM", "AF_NFC", "AF_PACKET", "AF_PHONET", "AF_PPPOX",
   "AF_QIPCRTR", "AF_RDS", "AF_ROSE", "AF_ROUTE", "AF_RXRPC", "AF_SECURITY", "AF_SNA",
   "AF_SMC", "AF_TIPC", "AF_UNIX", "AF_UNSPEC", "AF_VSOCK", "AF_WANPIPE", "AF_X25", "AF_XDP"]

/-- The table of a build whose C library defines `af`. -/
def addrfams (af : String → Option Int) : Xlat :=
  defined addrfamNames af

def pinkNameSocketFamily (af : String → Option Int) (family : Int) : Option String :=
  xname (addrfams af) family

def pinkLookupSocketFamily (af : String → Option Int) (name : Option String) : Int :=
  xlookup (addrfams af) name

end PinkTrace
