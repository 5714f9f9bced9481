import PinkTrace.Lib.NameTable

/-!
# System calls of the ARM ABIs (`linux/{aarch64,arm}/syscallent.h`)

The 32-bit table ends with the ARM specific calls, which the kernel numbers `0x000f00xx` and
`0x000ffff0`; `shuffle_scno` moves them here. An AArch64 build carries both tables, an ARM one the
second.

The rows are copied in the order of the source, with `none` for its `NULL`s, and the line comments
count them by the hundred.
-/

set_option autoImplicit false
set_option maxRecDepth 10000

namespace PinkTrace

open Lib

/-- `linux/aarch64/syscallent.h`. -/
def syscallentAarch64 : NameTable String :=
  [some "io_setup", some "io_destroy", some "io_submit", some "io_cancel", some "io_getevents",
   some "setxattr", some "lsetxattr", some "fsetxattr", some "getxattr", some "lgetxattr",
   some "fgetxattr", some "listxattr", some "llistxattr", some "flistxattr", some "removexattr",
   some "lremovexattr", some "fremovexattr", some "getcwd", some "lookup_dcookie",
   some "eventfd2", some "epoll_create1", some "epoll_ctl", some "epoll_pwait", some "dup",
   some "dup3", some "fcntl", some "inotify_init1", some "inotify_add_watch",
   some "inotify_rm_watch", some "ioctl", some "ioprio_set", some "ioprio_get", some "flock",
   some "mknodat", some "mkdirat", some "unlinkat", some "symlinkat", some "linkat",
   some "renameat", some "umount2", some "mount", some "pivot_root", some "nfsservctl",
   some "statfs", some "fstatfs", some "truncate", some "ftruncate", some "fallocate",
   some "faccessat", some "chdir", some "fchdir", some "chroot", some "fchmod", some "fchmodat",
   some "fchownat", some "fchown", some "openat", some "close", some "vhangup", some "pipe2",
   some "quotactl", some "getdents64", some "lseek", some "read", some "write", some "readv",
   some "writev", some "pread64", some "pwrite64", some "preadv", some "pwritev",
   some "sendfile", some "pselect6", some "ppoll", some "signalfd4", some "vmsplice",
   some "splice", some "tee", some "readlinkat", some "newfstatat", some "fstat", some "sync",
   some "fsync", some "fdatasync", some "sync_file_range", some "timerfd_create",
   some "timerfd_settime", some "timerfd_gettime", some "utimensat", some "acct", some "capget",
   some "capset", some "personality", some "exit", some "exit_group", some "waitid",
   some "set_tid_address", some "unshare", some "futex", some "set_robust_list",
   -- 100
   some "get_robust_list", some "nanosleep", some "getitimer", some "setitimer",
   some "kexec_load", some "init_module", some "delete_module", some "timer_create",
   some "timer_gettime", some "timer_getoverrun", some "timer_settime", some "timer_delete",
   some "clock_settime", some "clock_gettime", some "clock_getres", some "clock_nanosleep",
   some "syslog", some "ptrace", some "sched_setparam", some "sched_setscheduler",
   some "sched_getscheduler", some "sched_getparam", some "sched_setaffinity",
   some "sched_getaffinity", some "sched_yield", some "sched_get_priority_max",
   some "sched_get_priority_min", some "sched_rr_get_interval", some "restart_syscall",
   some "kill", some "tkill", some "tgkill", some "sigaltstack", some "rt_sigsuspend",
   some "rt_sigaction", some "rt_sigprocmask", some "rt_sigpending", some "rt_sigtimedwait",
   some "rt_sigqueueinfo", some "rt_sigreturn", some "setpriority", some "getpriority",
   some "reboot", some "setregid", some "setgid", some "setreuid", some "setuid",
   some "setresuid", some "getresuid", some "setresgid", some "getresgid", some "setfsuid",
   some "setfsgid", some "times", some "setpgid", some "getpgid", some "getsid", some "setsid",
   some "getgroups", some "setgroups", some "uname", some "sethostname", some "setdomainname",
   some "getrlimit", some "setrlimit", some "getrusage", some "umask", some "prctl",
   some "getcpu", some "gettimeofday", some "settimeofday", some "adjtimex", some "getpid",
   some "getppid", some "getuid", some "geteuid", some "getgid", some "getegid", some "gettid",
   some "sysinfo", some "mq_open", some "mq_unlink", some "mq_timedsend", some "mq_timedreceive",
   some "mq_notify", some "mq_getsetattr", some "msgget", some "msgctl", some "msgrcv",
   some "msgsnd", some "semget", some "semctl", some "semtimedop", some "semop", some "shmget",
   some "shmctl", some "shmat", some "shmdt", some "socket", some "socketpair",
   -- 200
   some "bind", some "listen", some "accept", some "connect", some "getsockname",
   some "getpeername", some "sendto", some "recvfrom", some "setsockopt", some "getsockopt",
   some "shutdown", some "sendmsg", some "recvmsg", some "readahead", some "brk", some "munmap",
   some "mremap", some "add_key", some "request_key", some "keyctl", some "clone", some "execve",
   some "mmap", some "fadvise64", some "swapon", some "swapoff", some "mprotect", some "msync",
   some "mlock", some "munlock", some "mlockall", some "munlockall", some "mincore",
   some "madvise", some "remap_file_pages", some "mbind", some "get_mempolicy",
   some "set_mempolicy", some "migrate_pages", some "move_pages", some "rt_tgsigqueueinfo",
   some "perf_event_open", some "accept4", some "recvmmsg", none, none, none, none, none, none,
   none, none, none, none, none, none, none, none, none, none, some "wait4", some "prlimit64",
   some "fanotify_init", some "fanotify_mark", some "name_to_handle_at",
   some "open_by_handle_at", some "clock_adjtime", some "syncfs", some "setns", some "sendmmsg",
   some "process_vm_readv", some "process_vm_writev", some "kcmp", some "finit_module",
   some "sched_setattr", some "sched_getattr", some "renameat2", some "seccomp",
   some "getrandom", some "memfd_create", some "bpf", some "execveat", some "userfaultfd",
   some "membarrier", some "mlock2", some "copy_file_range", some "preadv2", some "pwritev2",
   some "pkey_mprotect", some "pkey_alloc", some "pkey_free", some "statx", some "io_pgetevents",
   some "rseq", some "kexec_file_load", none, none, none, none, none,
   -- 300
   none, none, none, none, none, none, none, none, none, none, none, none, none, none, none,
   none, none, none, none, none, none, none, none, none, none, none, none, none, none, none,
   none, none, none, none, none, none, none, none, none, none, none, none, none, none, none,
   none, none, none, none, none, none, none, none, none, none, none, none, none, none, none,
   none, none, none, none, none, none, none, none, none, none, none, none, none, none, none,
   none, none, none, none, none, none, none, none, none, none, none, none, none, none, none,
   none, none, none, none, none, none, none, none, none, none,
   -- 400
   none, none, none, none, none, none, none, none, none, none, none, none, none, none, none,
   none, none, none, none, none, none, none, none, none, some "pidfd_send_signal",
   some "io_uring_setup", some "io_uring_enter", some "io_uring_register", some "open_tree",
   some "move_mount", some "fsopen", some "fsconfig", some "fsmount", some "fspick",
   some "pidfd_open", some "clone3", some "close_range", some "openat2", some "pidfd_getfd",
   some "faccessat2", some "process_madvise", some "epoll_pwait2", some "mount_setattr"]

/-- `linux/arm/syscallent.h`. -/
def syscallentArm : NameTable String :=
  [some "restart_syscall", some "exit", some "fork", some "read", some "write", some "open",
   some "close", some "waitpid", some "creat", some "link", some "unlink", some "execve",
   some "chdir", some "time", some "mknod", some "chmod", some "lchown", some "break",
   some "oldstat", some "lseek", some "getpid", some "mount", some "oldumount", some "setuid",
   some "getuid", some "stime", some "ptrace", some "alarm", some "oldfstat", some "pause",
   some "utime", some "stty", some "gtty", some "access", some "nice", some "ftime", some "sync",
   some "kill", some "rename", some "mkdir", some "rmdir", some "dup", some "pipe", some "times",
   some "prof", some "brk", some "setgid", some "getgid", some "signal", some "geteuid",
   some "getegid", some "acct", some "umount", some "lock", some "ioctl", some "fcntl",
   some "mpx", some "setpgid", some "ulimit", some "oldolduname", some "umask", some "chroot",
   some "ustat", some "dup2", some "getppid", some "getpgrp", some "setsid", some "sigaction",
   some "siggetmask", some "sigsetmask", some "setreuid", some "setregid", some "sigsuspend",
   some "sigpending", some "sethostname", some "setrlimit", some "old_getrlimit",
   some "getrusage", some "gettimeofday", some "settimeofday", some "getgroups",
   some "setgroups", some "oldselect", some "symlink", some "oldlstat", some "readlink",
   some "uselib", some "swapon", some "reboot", some "readdir", some "old_mmap", some "munmap",
   some "truncate", some "ftruncate", some "fchmod", some "fchown", some "getpriority",
   some "setpriority", some "profil", some "statfs",
   -- 100
   some "fstatfs", some "ioperm", some "socketcall", some "syslog", some "setitimer",
   some "getitimer", some "stat", some "lstat", some "fstat", some "olduname", some "iopl",
   some "vhangup", some "idle", some "syscall", some "wait4", some "swapoff", some "sysinfo",
   some "ipc", some "fsync", some "sigreturn", some "clone", some "setdomainname", some "uname",
   some "modify_ldt", some "adjtimex", some "mprotect", some "sigprocmask", some "create_module",
   some "init_module", some "delete_module", some "get_kernel_syms", some "quotactl",
   some "getpgid", some "fchdir", some "bdflush", some "sysfs", some "personality",
   some "afs_syscall", some "setfsuid", some "setfsgid", some "_llseek", some "getdents",
   some "select", some "flock", some "msync", some "readv", some "writev", some "getsid",
   some "fdatasync", some "_sysctl", some "mlock", some "munlock", some "mlockall",
   some "munlockall", some "sched_setparam", some "sched_getparam", some "sched_setscheduler",
   some "sched_getscheduler", some "sched_yield", some "sched_get_priority_max",
   some "sched_get_priority_min", some "sched_rr_get_interval", some "nanosleep", some "mremap",
   some "setresuid", some "getresuid", some "vm86", some "query_module", some "poll",
   some "nfsservctl", some "setresgid", some "getresgid", some "prctl", some "rt_sigreturn",
   some "rt_sigaction", some "rt_sigprocmask", some "rt_sigpending", some "rt_sigtimedwait",
   some "rt_sigqueueinfo", some "rt_sigsuspend", some "pread", some "pwrite", some "chown",
   some "getcwd", some "capget", some "capset", some "sigaltstack", some "sendfile",
   some "getpmsg", some "putpmsg", some "vfork", some "getrlimit", some "mmap2",
   some "truncate64", some "ftruncate64", some "stat64", some "lstat64", some "fstat64",
   some "lchown32", some "getuid32",
   -- 200
   some "getgid32", some "geteuid32", some "getegid32", some "setreuid32", some "setregid32",
   some "getgroups32", some "setgroups32", some "fchown32", some "setresuid32",
   some "getresuid32", some "setresgid32", some "getresgid32", some "chown32", some "setuid32",
   some "setgid32", some "setfsuid32", some "setfsgid32", some "getdents64", some "pivot_root",
   some "mincore", some "madvise", some "fcntl64", some "SYS_222", some "SYS_223", some "gettid",
   some "readahead", some "setxattr", some "lsetxattr", some "fsetxattr", some "getxattr",
   some "lgetxattr", some "fgetxattr", some "listxattr", some "llistxattr", some "flistxattr",
   some "removexattr", some "lremovexattr", some "fremovexattr", some "tkill", some "sendfile64",
   some "futex", some "sched_setaffinity", some "sched_getaffinity", some "io_setup",
   some "io_destroy", some "io_getevents", some "io_submit", some "io_cancel", some "exit_group",
   some "lookup_dcookie", some "epoll_create", some "epoll_ctl", some "epoll_wait",
   some "remap_file_pages", some "SYS_254", some "SYS_255", some "set_tid_address",
   some "timer_create", some "timer_settime", some "timer_gettime", some "timer_getoverrun",
   some "timer_delete", some "clock_settime", some "clock_gettime", some "clock_getres",
   some "clock_nanosleep", some "statfs64", some "fstatfs64", some "tgkill", some "utimes",
   some "fadvise64_64", some "pciconfig_iobase", some "pciconfig_read", some "pciconfig_write",
   some "mq_open", some "mq_unlink", some "mq_timedsend", some "mq_timedreceive",
   some "mq_notify", some "mq_getsetattr", some "waitid", some "socket", some "bind",
   some "connect", some "listen", some "accept", some "getsockname", some "getpeername",
   some "socketpair", some "send", some "sendto", some "recv", some "recvfrom", some "shutdown",
   some "setsockopt", some "getsockopt", some "sendmsg", some "recvmsg", some "semop",
   some "semget",
   -- 300
   some "semctl", some "msgsnd", some "msgrcv", some "msgget", some "msgctl", some "shmat",
   some "shmdt", some "shmget", some "shmctl", some "add_key", some "request_key", some "keyctl",
   some "semtimedop", some "vserver", some "ioprio_set", some "ioprio_get", some "inotify_init",
   some "inotify_add_watch", some "inotify_rm_watch", some "mbind", some "set_mempolicy",
   some "get_mempolicy", some "openat", some "mkdirat", some "mknodat", some "fchownat",
   some "futimesat", some "newfstatat", some "unlinkat", some "renameat", some "linkat",
   some "symlinkat", some "readlinkat", some "fchmodat", some "faccessat", some "PSELECT6",
   some "ppoll", some "unshare", some "set_robust_list", some "get_robust_list", some "splice",
   some "SYS_341", some "tee", some "vmsplice", some "move_pages", some "getcpu",
   some "epoll_pwait", some "kexec_load", some "utimensat", some "signalfd", some "timerfd",
   some "eventfd", some "fallocate", some "timerfd_settime", some "timerfd_gettime",
   some "signalfd4", some "eventfd2", some "epoll_create1", some "dup3", some "pipe2",
   some "inotify_init1", some "preadv", some "pwritev", some "rt_tgsigqueueinfo",
   some "perf_event_open", some "recvmmsg", some "accept4", some "fanotify_init",
   some "fanotify_mark", some "prlimit64", some "name_to_handle_at", some "open_by_handle_at",
   some "clock_adjtime", some "syncfs", some "sendmmsg", some "setns", some "process_vm_readv",
   some "process_vm_writev", some "kcmp", some "finit_module", some "sched_setattr",
   some "sched_getattr", some "renameat2", some "seccomp", some "getrandom", some "memfd_create",
   some "bpf", some "execveat", some "cmpxchg", none, some "breakpoint", some "cacheflush",
   some "usr26", some "usr32", some "set_tls"]

end PinkTrace
