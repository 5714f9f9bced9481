import PinkTrace.Lib.NameTable

/-!
# System calls of PowerPC (`linux/powerpc/syscallent.h`)

The one table of a PowerPC build. A comma is missing after `perf_event_open`, so that literal and
the next one are a single row.

The file is here twice: as the rows that the compiler makes of it, and as it is written, line by
line, with the number in each line's comment.
-/

set_option autoImplicit false
set_option maxRecDepth 10000

namespace PinkTrace

open Lib

/-- `linux/powerpc/syscallent.h`. -/
def syscallentPowerpc : NameTable String :=
  [some "restart_syscall", some "exit", some "fork", some "read", some "write", some "open",
   some "close", some "waitpid", some "creat", some "link", some "unlink", some "execve",
   some "chdir", some "time", some "mknod", some "chmod", some "lchown", some "break",
   some "oldstat", some "lseek", some "getpid", some "mount", some "oldumount", some "setuid",
   some "getuid", some "stime", some "ptrace", some "alarm", some "oldfstat", some "pause",
   some "utime", some "stty", some "gtty", some "access", some "nice", some "ftime", some "sync",
   some "kill", some "rename", some "mkdir", some "rmdir", some "dup", some "pipe", some "times",
   some "prof", some "brk", some "setgid", some "getgid", some "signal", some "geteuid",
   some "getegid", some "acct", some "umount", some "lock", some "ioctl", some "fcntl",
   some "sys_mpx", some "setpgid", some "ulimit", some "oldolduname", some "umask",
   some "chroot", some "ustat", some "dup2", some "getppid", some "getpgrp", some "setsid",
   some "sigaction", some "sgetmask", some "ssetmask", some "setreuid", some "setregid",
   some "sigsuspend", some "sigpending", some "sethostname", some "setrlimit",
   some "oldgetrlimit", some "getrusage", some "gettimeofday", some "settimeofday",
   some "getgroups", some "setgroups", some "oldselect", some "symlink", some "oldlstat",
   some "readlink", some "uselib", some "swapon", some "reboot", some "readdir", some "mmap",
   some "munmap", some "truncate", some "ftruncate", some "fchmod", some "fchown",
   some "getpriority", some "setpriority", some "profil", some "statfs",
   -- 100
   some "fstatfs", some "ioperm", some "socketcall", some "syslog", some "setitimer",
   some "getitimer", some "stat", some "lstat", some "fstat", some "olduname", some "SYS_110",
   some "vhangup", some "idle", some "SYS_113", some "wait4", some "swapoff", some "sysinfo",
   some "ipc", some "fsync", some "sigreturn", some "clone", some "setdomainname", some "uname",
   some "SYS_123", some "adjtimex", some "mprotect", some "sigprocmask", some "create_module",
   some "init_module", some "delete_module", some "get_kernel_syms", some "quotactl",
   some "getpgid", some "fchdir", some "bdflush", some "sysfs", some "personality",
   some "afs_syscall", some "setfsuid", some "setfsgid", some "_llseek", some "getdents",
   some "select", some "flock", some "msync", some "readv", some "writev", some "getsid",
   some "fdatasync", some "_sysctl", some "mlock", some "munlock", some "mlockall",
   some "munlockall", some "sched_setparam", some "sched_getparam", some "sched_setscheduler",
   some "sched_getscheduler", some "sched_yield", some "sched_get_priority_max",
   some "sched_get_priority_min", some "sched_rr_get_interval", some "nanosleep", some "mremap",
   some "setresuid", some "getresuid", some "query_module", some "poll", some "nfsservctl",
   some "setresgid", some "getresgid", some "prctl", some "rt_sigreturn", some "rt_sigaction",
   some "rt_sigprocmask", some "rt_sigpending", some "rt_sigtimedwait", some "rt_sigqueueinfo",
   some "rt_sigsuspend", some "pread64", some "pwrite64", some "chown", some "getcwd",
   some "capget", some "capset", some "sigaltstack", some "sendfile", some "getpmsg",
   some "putpmsg", some "vfork", some "getrlimit", some "readahead", some "mmap2",
   some "truncate64", some "ftruncate64", some "stat64", some "lstat64", some "fstat64",
   some "pciconfig_read", some "pciconfig_write",
   -- 200
   some "pciconfig_iobase", some "MOL", some "getdents64", some "pivot_root", some "fcntl64",
   some "madvise", some "mincore", some "gettid", some "tkill", some "setxattr",
   some "lsetxattr", some "fsetxattr", some "getxattr", some "lgetxattr", some "fgetxattr",
   some "listxattr", some "llistxattr", some "flistxattr", some "removexattr",
   some "lremovexattr", some "fremovexattr", some "futex", some "sched_setaffinity",
   some "sched_getaffinity", some "SYS_224", some "tux", some "sendfile64", some "io_setup",
   some "io_destroy", some "io_getevents", some "io_submit", some "io_cancel",
   some "set_tid_address", some "fadvise64", some "exit_group", some "lookup_dcookie",
   some "epoll_create", some "epoll_ctl", some "epoll_wait", some "remap_file_pages",
   some "timer_create", some "timer_settime", some "timer_gettime", some "timer_getoverrun",
   some "timer_delete", some "clock_settime", some "clock_gettime", some "clock_getres",
   some "clock_nanosleep", some "swapcontext", some "tgkill", some "utimes", some "statfs64",
   some "fstatfs64", some "fadvise64_64", some "rtas", some "debug_setcontext", some "vserver",
   some "SYS_258", some "mbind", some "get_mempolicy", some "set_mempolicy", some "mq_open",
   some "mq_unlink", some "mq_timedsend", some "mq_timedreceive", some "mq_notify",
   some "mq_getsetattr", some "sys_kexec_load", some "add_key", some "request_key",
   some "keyctl", some "waitid", some "ioprio_set", some "ioprio_get", some "inotify_init",
   some "inotify_add_watch", some "inotify_rm_watch", some "spu_run", some "spu_create",
   some "pselect6", some "ppoll", some "unshare", some "splice", some "tee", some "vmsplice",
   some "openat", some "mkdirat", some "mknodat", some "fchownat", some "futimesat",
   some "newfstatat", some "unlinkat", some "renameat", some "linkat", some "symlinkat",
   some "readlinkat", some "fchmodat", some "faccessat", some "set_robust_list",
   -- 300
   some "get_robust_list", some "move_pages", some "getcpu", some "epoll_pwait", some "SYS_304",
   some "signalfd", some "timerfd", some "eventfd", some "SYS_308", some "fallocate",
   some "subpage_prot", some "timerfd_settime", some "timerfd_gettime", some "signalfd4",
   some "eventfd2", some "epoll_create1", some "dup3", some "pipe2", some "inotify_init1",
   some "perf_event_openpreadv", some "pwritev", some "rt_tgsigqueueinfo", some "fanotify_init",
   some "fanotify_mark", some "prlimit64", some "socket", some "bind", some "connect",
   some "listen", some "accept", some "getsockname", some "getpeername", some "socketpair",
   some "send", some "sendto", some "recv", some "recvfrom", some "shutdown", some "setsockopt",
   some "getsockopt", some "sendmsg", some "recvmsg", some "recvmmsg", some "accept4",
   some "name_to_handle_at", some "open_by_handle_at", some "clock_adjtime", some "syncfs",
   some "sendmmsg", some "setns", some "process_vm_readv", some "process_vm_writev", some "kcmp",
   some "finit_module"]

/-- The lines of `linux/powerpc/syscallent.h`. -/
def powerpcLines : List NameTable.Line :=
  [⟨"restart_syscall", 0, true⟩, ⟨"exit", 1, true⟩, ⟨"fork", 2, true⟩, ⟨"read", 3, true⟩,
   ⟨"write", 4, true⟩, ⟨"open", 5, true⟩, ⟨"close", 6, true⟩, ⟨"waitpid", 7, true⟩,
   ⟨"creat", 8, true⟩, ⟨"link", 9, true⟩, ⟨"unlink", 10, true⟩, ⟨"execve", 11, true⟩,
   ⟨"chdir", 12, true⟩, ⟨"time", 13, true⟩, ⟨"mknod", 14, true⟩, ⟨"chmod", 15, true⟩,
   ⟨"lchown", 16, true⟩, ⟨"break", 17, true⟩, ⟨"oldstat", 18, true⟩, ⟨"lseek", 19, true⟩,
   ⟨"getpid", 20, true⟩, ⟨"mount", 21, true⟩, ⟨"oldumount", 22, true⟩, ⟨"setuid", 23, true⟩,
   ⟨"getuid", 24, true⟩, ⟨"stime", 25, true⟩, ⟨"ptrace", 26, true⟩, ⟨"alarm", 27, true⟩,
   ⟨"oldfstat", 28, true⟩, ⟨"pause", 29, true⟩, ⟨"utime", 30, true⟩, ⟨"stty", 31, true⟩,
   ⟨"gtty", 32, true⟩, ⟨"access", 33, true⟩, ⟨"nice", 34, true⟩, ⟨"ftime", 35, true⟩,
   ⟨"sync", 36, true⟩, ⟨"kill", 37, true⟩, ⟨"rename", 38, true⟩, ⟨"mkdir", 39, true⟩,
   ⟨"rmdir", 40, true⟩, ⟨"dup", 41, true⟩, ⟨"pipe", 42, true⟩, ⟨"times", 43, true⟩,
   ⟨"prof", 44, true⟩, ⟨"brk", 45, true⟩, ⟨"setgid", 46, true⟩, ⟨"getgid", 47, true⟩,
   ⟨"signal", 48, true⟩, ⟨"geteuid", 49, true⟩, ⟨"getegid", 50, true⟩, ⟨"acct", 51, true⟩,
   ⟨"umount", 52, true⟩, ⟨"lock", 53, true⟩, ⟨"ioctl", 54, true⟩, ⟨"fcntl", 55, true⟩,
   ⟨"sys_mpx", 56, true⟩, ⟨"setpgid", 57, true⟩, ⟨"ulimit", 58, true⟩, ⟨"oldolduname", 59, true⟩,
   ⟨"umask", 60, true⟩, ⟨"chroot", 61, true⟩, ⟨"ustat", 62, true⟩, ⟨"dup2", 63, true⟩,
   ⟨"getppid", 64, true⟩, ⟨"getpgrp", 65, true⟩, ⟨"setsid", 66, true⟩, ⟨"sigaction", 67, true⟩,
   ⟨"sgetmask", 68, true⟩, ⟨"ssetmask", 69, true⟩, ⟨"setreuid", 70, true⟩, ⟨"setregid", 71, true⟩,
   ⟨"sigsuspend", 72, true⟩, ⟨"sigpending", 73, true⟩, ⟨"sethostname", 74, true⟩,
   ⟨"setrlimit", 75, true⟩, ⟨"oldgetrlimit", 76, true⟩, ⟨"getrusage", 77, true⟩,
   ⟨"gettimeofday", 78, true⟩, ⟨"settimeofday", 79, true⟩, ⟨"getgroups", 80, true⟩,
   ⟨"setgroups", 81, true⟩, ⟨"oldselect", 82, true⟩, ⟨"symlink", 83, true⟩,
   ⟨"oldlstat", 84, true⟩, ⟨"readlink", 85, true⟩, ⟨"uselib", 86, true⟩, ⟨"swapon", 87, true⟩,
   ⟨"reboot", 88, true⟩, ⟨"readdir", 89, true⟩, ⟨"mmap", 90, true⟩, ⟨"munmap", 91, true⟩,
   ⟨"truncate", 92, true⟩, ⟨"ftruncate", 93, true⟩, ⟨"fchmod", 94, true⟩, ⟨"fchown", 95, true⟩,
   ⟨"getpriority", 96, true⟩, ⟨"setpriority", 97, true⟩, ⟨"profil", 98, true⟩,
   ⟨"statfs", 99, true⟩, ⟨"fstatfs", 100, true⟩, ⟨"ioperm", 101, true⟩, ⟨"socketcall", 102, true⟩,
   ⟨"syslog", 103, true⟩, ⟨"setitimer", 104, true⟩, ⟨"getitimer", 105, true⟩, ⟨"stat", 106, true⟩,
   ⟨"lstat", 107, true⟩, ⟨"fstat", 108, true⟩, ⟨"olduname", 109, true⟩, ⟨"SYS_110", 110, true⟩,
   ⟨"vhangup", 111, true⟩, ⟨"idle", 112, true⟩, ⟨"SYS_113", 113, true⟩, ⟨"wait4", 114, true⟩,
   ⟨"swapoff", 115, true⟩, ⟨"sysinfo", 116, true⟩, ⟨"ipc", 117, true⟩, ⟨"fsync", 118, true⟩,
   ⟨"sigreturn", 119, true⟩, ⟨"clone", 120, true⟩, ⟨"setdomainname", 121, true⟩,
   ⟨"uname", 122, true⟩, ⟨"SYS_123", 123, true⟩, ⟨"adjtimex", 124, true⟩, ⟨"mprotect", 125, true⟩,
   ⟨"sigprocmask", 126, true⟩, ⟨"create_module", 127, true⟩, ⟨"init_module", 128, true⟩,
   ⟨"delete_module", 129, true⟩, ⟨"get_kernel_syms", 130, true⟩, ⟨"quotactl", 131, true⟩,
   ⟨"getpgid", 132, true⟩, ⟨"fchdir", 133, true⟩, ⟨"bdflush", 134, true⟩, ⟨"sysfs", 135, true⟩,
   ⟨"personality", 136, true⟩, ⟨"afs_syscall", 137, true⟩, ⟨"setfsuid", 138, true⟩,
   ⟨"setfsgid", 139, true⟩, ⟨"_llseek", 140, true⟩, ⟨"getdents", 141, true⟩,
   ⟨"select", 142, true⟩, ⟨"flock", 143, true⟩, ⟨"msync", 144, true⟩, ⟨"readv", 145, true⟩,
   ⟨"writev", 146, true⟩, ⟨"getsid", 147, true⟩, ⟨"fdatasync", 148, true⟩, ⟨"_sysctl", 149, true⟩,
   ⟨"mlock", 150, true⟩, ⟨"munlock", 151, true⟩, ⟨"mlockall", 152, true⟩,
   ⟨"munlockall", 153, true⟩, ⟨"sched_setparam", 154, true⟩, ⟨"sched_getparam", 155, true⟩,
   ⟨"sched_setscheduler", 156, true⟩, ⟨"sched_getscheduler", 157, true⟩,
   ⟨"sched_yield", 158, true⟩, ⟨"sched_get_priority_max", 159, true⟩,
   ⟨"sched_get_priority_min", 160, true⟩, ⟨"sched_rr_get_interval", 161, true⟩,
   ⟨"nanosleep", 162, true⟩, ⟨"mremap", 163, true⟩, ⟨"setresuid", 164, true⟩,
   ⟨"getresuid", 165, true⟩, ⟨"query_module", 166, true⟩, ⟨"poll", 167, true⟩,
   ⟨"nfsservctl", 168, true⟩, ⟨"setresgid", 169, true⟩, ⟨"getresgid", 170, true⟩,
   ⟨"prctl", 171, true⟩, ⟨"rt_sigreturn", 172, true⟩, ⟨"rt_sigaction", 173, true⟩,
   ⟨"rt_sigprocmask", 174, true⟩, ⟨"rt_sigpending", 175, true⟩, ⟨"rt_sigtimedwait", 176, true⟩,
   ⟨"rt_sigqueueinfo", 177, true⟩, ⟨"rt_sigsuspend", 178, true⟩, ⟨"pread64", 179, true⟩,
   ⟨"pwrite64", 180, true⟩, ⟨"chown", 181, true⟩, ⟨"getcwd", 182, true⟩, ⟨"capget", 183, true⟩,
   ⟨"capset", 184, true⟩, ⟨"sigaltstack", 185, true⟩, ⟨"sendfile", 186, true⟩,
   ⟨"getpmsg", 187, true⟩, ⟨"putpmsg", 188, true⟩, ⟨"vfork", 189, true⟩, ⟨"getrlimit", 190, true⟩,
   ⟨"readahead", 190, true⟩, ⟨"mmap2", 192, true⟩, ⟨"truncate64", 193, true⟩,
   ⟨"ftruncate64", 194, true⟩, ⟨"stat64", 195, true⟩, ⟨"lstat64", 196, true⟩,
   ⟨"fstat64", 197, true⟩, ⟨"pciconfig_read", 198, true⟩, ⟨"pciconfig_write", 199, true⟩,
   ⟨"pciconfig_iobase", 200, true⟩, ⟨"MOL", 201, true⟩, ⟨"getdents64", 202, true⟩,
   ⟨"pivot_root", 203, true⟩, ⟨"fcntl64", 204, true⟩, ⟨"madvise", 205, true⟩,
   ⟨"mincore", 206, true⟩, ⟨"gettid", 207, true⟩, ⟨"tkill", 208, true⟩, ⟨"setxattr", 209, true⟩,
   ⟨"lsetxattr", 210, true⟩, ⟨"fsetxattr", 211, true⟩, ⟨"getxattr", 212, true⟩,
   ⟨"lgetxattr", 213, true⟩, ⟨"fgetxattr", 214, true⟩, ⟨"listxattr", 215, true⟩,
   ⟨"llistxattr", 216, true⟩, ⟨"flistxattr", 217, true⟩, ⟨"removexattr", 218, true⟩,
   ⟨"lremovexattr", 219, true⟩, ⟨"fremovexattr", 220, true⟩, ⟨"futex", 221, true⟩,
   ⟨"sched_setaffinity", 222, true⟩, ⟨"sched_getaffinity", 223, true⟩, ⟨"SYS_224", 224, true⟩,
   ⟨"tux", 225, true⟩, ⟨"sendfile64", 226, true⟩, ⟨"io_setup", 227, true⟩,
   ⟨"io_destroy", 228, true⟩, ⟨"io_getevents", 229, true⟩, ⟨"io_submit", 230, true⟩,
   ⟨"io_cancel", 231, true⟩, ⟨"set_tid_address", 232, true⟩, ⟨"fadvise64", 233, true⟩,
   ⟨"exit_group", 234, true⟩, ⟨"lookup_dcookie", 235, true⟩, ⟨"epoll_create", 236, true⟩,
   ⟨"epoll_ctl", 237, true⟩, ⟨"epoll_wait", 238, true⟩, ⟨"remap_file_pages", 239, true⟩,
   ⟨"timer_create", 240, true⟩, ⟨"timer_settime", 241, true⟩, ⟨"timer_gettime", 242, true⟩,
   ⟨"timer_getoverrun", 243, true⟩, ⟨"timer_delete", 244, true⟩, ⟨"clock_settime", 245, true⟩,
   ⟨"clock_gettime", 246, true⟩, ⟨"clock_getres", 247, true⟩, ⟨"clock_nanosleep", 248, true⟩,
   ⟨"swapcontext", 249, true⟩, ⟨"tgkill", 250, true⟩, ⟨"utimes", 251, true⟩,
   ⟨"statfs64", 252, true⟩, ⟨"fstatfs64", 253, true⟩, ⟨"fadvise64_64", 254, true⟩,
   ⟨"rtas", 255, true⟩, ⟨"debug_setcontext", 256, true⟩, ⟨"vserver", 257, true⟩,
   ⟨"SYS_258", 258, true⟩, ⟨"mbind", 259, true⟩, ⟨"get_mempolicy", 260, true⟩,
   ⟨"set_mempolicy", 261, true⟩, ⟨"mq_open", 262, true⟩, ⟨"mq_unlink", 263, true⟩,
   ⟨"mq_timedsend", 264, true⟩, ⟨"mq_timedreceive", 265, true⟩, ⟨"mq_notify", 266, true⟩,
   ⟨"mq_getsetattr", 267, true⟩, ⟨"sys_kexec_load", 268, true⟩, ⟨"add_key", 269, true⟩,
   ⟨"request_key", 270, true⟩, ⟨"keyctl", 271, true⟩, ⟨"waitid", 272, true⟩,
   ⟨"ioprio_set", 273, true⟩, ⟨"ioprio_get", 274, true⟩, ⟨"inotify_init", 275, true⟩,
   ⟨"inotify_add_watch", 276, true⟩, ⟨"inotify_rm_watch", 277, true⟩, ⟨"spu_run", 278, true⟩,
   ⟨"spu_create", 279, true⟩, ⟨"pselect6", 280, true⟩, ⟨"ppoll", 281, true⟩,
   ⟨"unshare", 282, true⟩, ⟨"splice", 283, true⟩, ⟨"tee", 284, true⟩, ⟨"vmsplice", 285, true⟩,
   ⟨"openat", 286, true⟩, ⟨"mkdirat", 287, true⟩, ⟨"mknodat", 288, true⟩, ⟨"fchownat", 289, true⟩,
   ⟨"futimesat", 290, true⟩, ⟨"newfstatat", 291, true⟩, ⟨"unlinkat", 292, true⟩,
   ⟨"renameat", 293, true⟩, ⟨"linkat", 294, true⟩, ⟨"symlinkat", 295, true⟩,
   ⟨"readlinkat", 296, true⟩, ⟨"fchmodat", 297, true⟩, ⟨"faccessat", 298, true⟩,
   ⟨"set_robust_list", 299, true⟩, ⟨"get_robust_list", 300, true⟩, ⟨"move_pages", 301, true⟩,
   ⟨"getcpu", 302, true⟩, ⟨"epoll_pwait", 303, true⟩, ⟨"SYS_304", 304, true⟩,
   ⟨"signalfd", 305, true⟩, ⟨"timerfd", 306, true⟩, ⟨"eventfd", 307, true⟩,
   ⟨"SYS_308", 308, true⟩, ⟨"fallocate", 309, true⟩, ⟨"subpage_prot", 310, true⟩,
   ⟨"timerfd_settime", 311, true⟩, ⟨"timerfd_gettime", 312, true⟩, ⟨"signalfd4", 313, true⟩,
   ⟨"eventfd2", 314, true⟩, ⟨"epoll_create1", 315, true⟩, ⟨"dup3", 316, true⟩,
   ⟨"pipe2", 317, true⟩, ⟨"inotify_init1", 318, true⟩, ⟨"perf_event_open", 319, false⟩,
   ⟨"preadv", 320, true⟩, ⟨"pwritev", 321, true⟩, ⟨"rt_tgsigqueueinfo", 322, true⟩,
   ⟨"fanotify_init", 323, true⟩, ⟨"fanotify_mark", 324, true⟩, ⟨"prlimit64", 325, true⟩,
   ⟨"socket", 326, true⟩, ⟨"bind", 327, true⟩, ⟨"connect", 328, true⟩, ⟨"listen", 329, true⟩,
   ⟨"accept", 330, true⟩, ⟨"getsockname", 331, true⟩, ⟨"getpeername", 332, true⟩,
   ⟨"socketpair", 333, true⟩, ⟨"send", 334, true⟩, ⟨"sendto", 335, true⟩, ⟨"recv", 336, true⟩,
   ⟨"recvfrom", 337, true⟩, ⟨"shutdown", 338, true⟩, ⟨"setsockopt", 339, true⟩,
   ⟨"getsockopt", 340, true⟩, ⟨"sendmsg", 341, true⟩, ⟨"recvmsg", 342, true⟩,
   ⟨"recvmmsg", 343, true⟩, ⟨"accept4", 344, true⟩, ⟨"name_to_handle_at", 345, true⟩,
   ⟨"open_by_handle_at", 346, true⟩, ⟨"clock_adjtime", 347, true⟩, ⟨"syncfs", 348, true⟩,
   ⟨"sendmmsg", 349, true⟩, ⟨"setns", 350, true⟩, ⟨"process_vm_readv", 351, true⟩,
   ⟨"process_vm_writev", 352, true⟩, ⟨"kcmp", 353, true⟩, ⟨"finit_module", 354, true⟩]

end PinkTrace
