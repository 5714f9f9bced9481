import PinkTrace.Lib.NameTable

/-!
# System calls of the x86 ABIs (`linux/{x86_64,i386,x32}/syscallent.h`)

The three tables an x86_64 build carries; an i386 build has the second of them alone. Rows without
a call are `NULL` in the source. In the x32 table a comma is missing after `mq_notify#64`, so that
literal and the next one are a single row, and every row behind it stands one place before its
annotation.

The tables are what the compiler makes of the files, not what their authors meant. A row that is
wrong in the source is wrong here.
-/

set_option autoImplicit false
set_option maxRecDepth 10000

namespace PinkTrace

open Lib

/-- `linux/x86_64/syscallent.h`. -/
def syscallentX86_64 : NameTable String :=
  [some "read", some "write", some "open", some "close", some "stat", some "fstat", some "lstat",
   some "poll", some "lseek", some "mmap", some "mprotect", some "munmap", some "brk",
   some "rt_sigaction", some "rt_sigprocmask", some "rt_sigreturn", some "ioctl", some "pread",
   some "pwrite", some "readv", some "writev", some "access", some "pipe", some "select",
   some "sched_yield", some "mremap", some "msync", some "mincore", some "madvise",
   some "shmget", some "shmat", some "shmctl", some "dup", some "dup2", some "pause",
   some "nanosleep", some "getitimer", some "alarm", some "setitimer", some "getpid",
   some "sendfile", some "socket", some "connect", some "accept", some "sendto", some "recvfrom",
   some "sendmsg", some "recvmsg", some "shutdown", some "bind", some "listen",
   some "getsockname", some "getpeername", some "socketpair", some "setsockopt",
   some "getsockopt", some "clone", some "fork", some "vfork", some "execve", some "_exit",
   some "wait4", some "kill", some "uname", some "semget", some "semop", some "semctl",
   some "shmdt", some "msgget", some "msgsnd", some "msgrcv", some "msgctl", some "fcntl",
   some "flock", some "fsync", some "fdatasync", some "truncate", some "ftruncate",
   some "getdents", some "getcwd", some "chdir", some "fchdir", some "rename", some "mkdir",
   some "rmdir", some "creat", some "link", some "unlink", some "symlink", some "readlink",
   some "chmod", some "fchmod", some "chown", some "fchown", some "lchown", some "umask",
   some "gettimeofday", some "getrlimit", some "getrusage", some "sysinfo",
   -- 100
   some "times", some "ptrace", some "getuid", some "syslog", some "getgid", some "setuid",
   some "setgid", some "geteuid", some "getegid", some "setpgid", some "getppid", some "getpgrp",
   some "setsid", some "setreuid", some "setregid", some "getgroups", some "setgroups",
   some "setresuid", some "getresuid", some "setresgid", some "getresgid", some "getpgid",
   some "setfsuid", some "setfsgid", some "getsid", some "capget", some "capset",
   some "rt_sigpending", some "rt_sigtimedwait", some "rt_sigqueueinfo", some "rt_sigsuspend",
   some "sigaltstack", some "utime", some "mknod", some "uselib", some "personality",
   some "ustat", some "statfs", some "fstatfs", some "sysfs", some "getpriority",
   some "setpriority", some "sched_setparam", some "sched_getparam", some "sched_setscheduler",
   some "sched_getscheduler", some "sched_get_priority_max", some "sched_get_priority_min",
   some "sched_rr_get_interval", some "mlock", some "munlock", some "mlockall",
   some "munlockall", some "vhangup", some "modify_ldt", some "pivot_root", some "_sysctl",
   some "prctl", some "arch_prctl", some "adjtimex", some "setrlimit", some "chroot",
   some "sync", some "acct", some "settimeofday", some "mount", some "umount", some "swapon",
   some "swapoff", some "reboot", some "sethostname", some "setdomainname", some "iopl",
   some "ioperm", some "create_module", some "init_module", some "delete_module",
   some "get_kernel_syms", some "query_module", some "quotactl", some "nfsservctl",
   some "getpmsg", some "putpmsg", some "afs_syscall", some "tuxcall", some "security",
   some "gettid", some "readahead", some "setxattr", some "lsetxattr", some "fsetxattr",
   some "getxattr", some "lgetxattr", some "fgetxattr", some "listxattr", some "llistxattr",
   some "flistxattr", some "removexattr", some "lremovexattr", some "fremovexattr",
   -- 200
   some "tkill", some "time", some "futex", some "sched_setaffinity", some "sched_getaffinity",
   some "set_thread_area", some "io_setup", some "io_destroy", some "io_getevents",
   some "io_submit", some "io_cancel", some "get_thread_area", some "lookup_dcookie",
   some "epoll_create", some "epoll_ctl_old", some "epoll_wait_old", some "remap_file_pages",
   some "getdents64", some "set_tid_address", some "restart_syscall", some "semtimedop",
   some "fadvise64", some "timer_create", some "timer_settime", some "timer_gettime",
   some "timer_getoverrun", some "timer_delete", some "clock_settime", some "clock_gettime",
   some "clock_getres", some "clock_nanosleep", some "exit_group", some "epoll_wait",
   some "epoll_ctl", some "tgkill", some "utimes", some "vserver", some "mbind",
   some "set_mempolicy", some "get_mempolicy", some "mq_open", some "mq_unlink",
   some "mq_timedsend", some "mq_timedreceive", some "mq_notify", some "mq_getsetattr",
   some "kexec_load", some "waitid", some "add_key", some "request_key", some "keyctl",
   some "ioprio_set", some "ioprio_get", some "inotify_init", some "inotify_add_watch",
   some "inotify_rm_watch", some "migrate_pages", some "openat", some "mkdirat", some "mknodat",
   some "fchownat", some "futimesat", some "newfstatat", some "unlinkat", some "renameat",
   some "linkat", some "symlinkat", some "readlinkat", some "fchmodat", some "faccessat",
   some "pselect6", some "ppoll", some "unshare", some "set_robust_list", some "get_robust_list",
   some "splice", some "tee", some "sync_file_range", some "vmsplice", some "move_pages",
   some "utimensat", some "epoll_pwait", some "signalfd", some "timerfd_create", some "eventfd",
   some "fallocate", some "timerfd_settime", some "timerfd_gettime", some "accept4",
   some "signalfd4", some "eventfd2", some "epoll_create1", some "dup3", some "pipe2",
   some "inotify_init1", some "preadv", some "pwritev", some "rt_tgsigqueueinfo",
   some "perf_event_open", some "recvmmsg",
   -- 300
   some "fanotify_init", some "fanotify_mark", some "prlimit64", some "name_to_handle_at",
   some "open_by_handle_at", some "clock_adjtime", some "syncfs", some "sendmmsg", some "setns",
   some "getcpu", some "process_vm_readv", some "process_vm_writev", some "kcmp",
   some "finit_module", some "sched_setattr", some "sched_getattr", some "renameat2",
   some "seccomp", some "getrandom", some "memfd_create", some "kexec_file_load", some "bpf",
   some "execveat", some "userfaultfd", some "membarrier", some "mlock2", some "copy_file_range",
   some "preadv2", some "pwritev2", some "pkey_mprotect", some "pkey_alloc", some "pkey_free",
   some "statx", some "io_pgetevents", some "rseq", none, none, none, none, none, none, none,
   none, none, none, none, none, none, none, none, none, none, none, none, none, none, none,
   none, none, none, none, none, none, none, none, none, none, none, none, none, none, none,
   none, none, none, none, none, none, none, none, none, none, none, none, none, none, none,
   none, none, none, none, none, none, none, none, none, none, none, none, none,
   -- 400
   none, none, none, none, none, none, none, none, none, none, none, none, none, none, none,
   none, none, none, none, none, none, none, none, none, some "pidfd_send_signal",
   some "io_uring_setup", some "io_uring_enter", some "io_uring_register", some "open_tree",
   some "move_mount", some "fsopen", some "fsconfig", some "fsmount", some "fspick",
   some "pidfd_open", some "clone3", some "close_range", some "openat2", some "pidfd_getfd",
   some "faccessat2", some "process_madvise", some "epoll_pwait2"]

/-- `linux/i386/syscallent.h`. -/
def syscallentI386 : NameTable String :=
  [some "restart_syscall", some "_exit", some "fork", some "read", some "write", some "open",
   some "close", some "waitpid", some "creat", some "link", some "unlink", some "execve",
   some "chdir", some "time", some "mknod", some "chmod", some "lchown", some "break",
   some "oldstat", some "lseek", some "getpid", some "mount", some "oldumount", some "setuid",
   some "getuid", some "stime", some "ptrace", some "alarm", some "oldfstat", some "pause",
   some "utime", some "stty", some "gtty", some "access", some "nice", some "ftime", some "sync",
   some "kill", some "rename", some "mkdir", some "rmdir", some "dup", some "pipe", some "times",
   some "prof", some "brk", some "setgid", some "getgid", some "signal", some "geteuid",
   some "getegid", some "acct", some "umount", some "lock", some "ioctl", some "fcntl",
   some "mpx", some "setpgid", some "ulimit", some "oldolduname", some "umask", some "chroot",
   some "ustat", some "dup2", some "getppid", some "getpgrp", some "setsid", some "sigaction",
   some "siggetmask", some "sigsetmask", some "setreuid", some "setregid", some "sigsuspend",
   some "sigpending", some "sethostname", some "setrlimit", some "old_getrlimit",
   some "getrusage", some "gettimeofday", some "settimeofday", some "getgroups",
   some "setgroups", some "oldselect", some "symlink", some "oldlstat", some "readlink",
   some "uselib", some "swapon", some "reboot", some "readdir", some "old_mmap", some "munmap",
   some "truncate", some "ftruncate", some "fchmod", some "fchown", some "getpriority",
   some "setpriority", some "profil", some "statfs",
   -- 100
   some "fstatfs", some "ioperm", some "socketcall", some "syslog", some "setitimer",
   some "getitimer", some "stat", some "lstat", some "fstat", some "olduname", some "iopl",
   some "vhangup", some "idle", some "vm86old", some "wait4", some "swapoff", some "sysinfo",
   some "ipc", some "fsync", some "sigreturn", some "clone", some "setdomainname", some "uname",
   some "modify_ldt", some "adjtimex", some "mprotect", some "sigprocmask", some "create_module",
   some "init_module", some "delete_module", some "get_kernel_syms", some "quotactl",
   some "getpgid", some "fchdir", some "bdflush", some "sysfs", some "personality",
   some "afs_syscall", some "setfsuid", some "setfsgid", some "_llseek", some "getdents",
   some "select", some "flock", some "msync", some "readv", some "writev", some "getsid",
   some "fdatasync", some "_sysctl", some "mlock", some "munlock", some "mlockall",
   some "munlockall", some "sched_setparam", some "sched_getparam", some "sched_setscheduler",
   some "sched_getscheduler", some "sched_yield", some "sched_get_priority_max",
   some "sched_get_priority_min", some "sched_rr_get_interval", some "nanosleep", some "mremap",
   some "setresuid", some "getresuid", some "vm86", some "query_module", some "poll",
   some "nfsservctl", some "setresgid", some "getresgid", some "prctl", some "rt_sigreturn",
   some "rt_sigaction", some "rt_sigprocmask", some "rt_sigpending", some "rt_sigtimedwait",
   some "rt_sigqueueinfo", some "rt_sigsuspend", some "pread64", some "pwrite64", some "chown",
   some "getcwd", some "capget", some "capset", some "sigaltstack", some "sendfile",
   some "getpmsg", some "putpmsg", some "vfork", some "getrlimit", some "mmap2",
   some "truncate64", some "ftruncate64", some "stat64", some "lstat64", some "fstat64",
   some "lchown32", some "getuid32",
   -- 200
   some "getgid32", some "geteuid32", some "getegid32", some "setreuid32", some "setregid32",
   some "getgroups32", some "setgroups32", some "fchown32", some "setresuid32",
   some "getresuid32", some "setresgid32", some "getresgid32", some "chown32", some "setuid32",
   some "setgid32", some "setfsuid32", some "setfsgid32", some "pivot_root", some "mincore",
   some "madvise", some "getdents64", some "fcntl64", some "SYS_222", some "SYS_223",
   some "gettid", some "readahead", some "setxattr", some "lsetxattr", some "fsetxattr",
   some "getxattr", some "lgetxattr", some "fgetxattr", some "listxattr", some "llistxattr",
   some "flistxattr", some "removexattr", some "lremovexattr", some "fremovexattr", some "tkill",
   some "sendfile64", some "futex", some "sched_setaffinity", some "sched_getaffinity",
   some "set_thread_area", some "get_thread_area", some "io_setup", some "io_destroy",
   some "io_getevents", some "io_submit", some "io_cancel", some "fadvise64", some "SYS_251",
   some "exit_group", some "lookup_dcookie", some "epoll_create", some "epoll_ctl",
   some "epoll_wait", some "remap_file_pages", some "set_tid_address", some "timer_create",
   some "timer_settime", some "timer_gettime", some "timer_getoverrun", some "timer_delete",
   some "clock_settime", some "clock_gettime", some "clock_getres", some "clock_nanosleep",
   some "statfs64", some "fstatfs64", some "tgkill", some "utimes", some "fadvise64_64",
   some "vserver", some "mbind", some "get_mempolicy", some "set_mempolicy", some "mq_open",
   some "mq_unlink", some "mq_timedsend", some "mq_timedreceive", some "mq_notify",
   some "mq_getsetattr", some "sys_kexec_load", some "waitid", some "SYS_285", some "add_key",
   some "request_key", some "keyctl", some "ioprio_set", some "ioprio_get", some "inotify_init",
   some "inotify_add_watch", some "inotify_rm_watch", some "migrate_pages", some "openat",
   some "mkdirat", some "mknodat", some "fchownat", some "futimesat",
   -- 300
   some "fstatat64", some "unlinkat", some "renameat", some "linkat", some "symlinkat",
   some "readlinkat", some "fchmodat", some "faccessat", some "pselect6", some "ppoll",
   some "unshare", some "set_robust_list", some "get_robust_list", some "splice",
   some "sync_file_range", some "tee", some "vmsplice", some "move_pages", some "getcpu",
   some "epoll_pwait", some "utimensat", some "signalfd", some "timerfd_create", some "eventfd",
   some "fallocate", some "timerfd_settime", some "timerfd_gettime", some "signalfd4",
   some "eventfd2", some "epoll_create1", some "dup3", some "pipe2", some "inotify_init1",
   some "preadv", some "pwritev", some "rt_tgsigqueueinfo", some "perf_event_open",
   some "recvmmsg", some "fanotify_init", some "fanotify_mark", some "prlimit64",
   some "name_to_handle_at", some "open_by_handle_at", some "clock_adjtime", some "syncfs",
   some "sendmmsg", some "setns", some "process_vm_readv", some "process_vm_writev", some "kcmp",
   some "finit_module", some "sched_setattr", some "sched_getattr", some "renameat2",
   some "seccomp", some "getrandom", some "memfd_create", some "bpf", some "execveat",
   some "socket", some "socketpair", some "bind", some "connect", some "listen", some "accept4",
   some "getsockopt", some "setsockopt", some "getsockname", some "getpeername", some "sendto",
   some "sendmsg", some "recvfrom", some "recvmsg", some "shutdown", some "userfaultfd",
   some "membarrier", some "mlock2", some "copy_file_range", some "preadv2", some "pwritev2",
   some "pkey_mprotect", some "pkey_alloc", some "pkey_free", some "statx", some "arch_prctl",
   some "io_pgetevents", some "rseq", some "SYS_387", some "SYS_388", some "SYS_389",
   some "SYS_390", some "SYS_391", some "SYS_392", some "semget", some "semctl", some "shmget",
   some "shmctl", some "shmat", some "shmdt", some "msgget",
   -- 400
   some "msgsnd", some "msgrcv", some "msgctl", some "clock_gettime64", some "clock_settime64",
   some "clock_adjtime64", some "clock_getres_time64", some "clock_nanosleep_time64",
   some "timer_gettime64", some "timer_settime64", some "timerfd_gettime64",
   some "timerfd_settime64", some "utimensat_time64", some "pselect6_time64",
   some "ppoll_time64", some "SYS_415", some "io_pgetevents_time64", some "recvmmsg_time64",
   some "mq_timedsend_time64", some "mq_timedreceive_time64", some "semtimedop_time64",
   some "rt_sigtimedwait_time64", some "futex_time64", some "sched_rr_get_interval_time64",
   some "pidfd_send_signal", some "io_uring_setup", some "io_uring_enter",
   some "io_uring_register", some "open_tree", some "move_mount", some "fsopen", some "fsconfig",
   some "fsmount", some "fspick", some "pidfd_open", some "clone3", some "close_range",
   some "openat2", some "pidfd_getfd", some "faccessat2", some "process_madvise",
   some "epoll_pwait2"]

/-- `linux/x32/syscallent.h`. -/
def syscallentX32 : NameTable String :=
  [some "read", some "write", some "open", some "close", some "stat", some "fstat", some "lstat",
   some "poll", some "lseek", some "mmap", some "mprotect", some "munmap", some "brk",
   some "rt_sigaction#64", some "rt_sigprocmask", some "rt_sigreturn#64", some "ioctl#64",
   some "pread", some "pwrite", some "readv#64", some "writev#64", some "access", some "pipe",
   some "select", some "sched_yield", some "mremap", some "msync", some "mincore",
   some "madvise", some "shmget", some "shmat", some "shmctl", some "dup", some "dup2",
   some "pause", some "nanosleep", some "getitimer", some "alarm", some "setitimer",
   some "getpid", some "sendfile", some "socket", some "connect", some "accept", some "sendto",
   some "recvfrom#64", some "sendmsg#64", some "recvmsg#64", some "shutdown", some "bind",
   some "listen", some "getsockname", some "getpeername", some "socketpair",
   some "setsockopt#64", some "getsockopt#64", some "clone", some "fork", some "vfork",
   some "execve#64", some "_exit", some "wait4", some "kill", some "uname", some "semget",
   some "semop", some "semctl", some "shmdt", some "msgget", some "msgsnd", some "msgrcv",
   some "msgctl", some "fcntl", some "flock", some "fsync", some "fdatasync", some "truncate",
   some "ftruncate", some "getdents", some "getcwd", some "chdir", some "fchdir", some "rename",
   some "mkdir", some "rmdir", some "creat", some "link", some "unlink", some "symlink",
   some "readlink", some "chmod", some "fchmod", some "chown", some "fchown", some "lchown",
   some "umask", some "gettimeofday", some "getrlimit", some "getrusage", some "sysinfo",
   -- 100
   some "times", some "ptrace#64", some "getuid", some "syslog", some "getgid", some "setuid",
   some "setgid", some "geteuid", some "getegid", some "setpgid", some "getppid", some "getpgrp",
   some "setsid", some "setreuid", some "setregid", some "getgroups", some "setgroups",
   some "setresuid", some "getresuid", some "setresgid", some "getresgid", some "getpgid",
   some "setfsuid", some "setfsgid", some "getsid", some "capget", some "capset",
   some "rt_sigpending#64", some "rt_sigtimedwait#64", some "rt_sigqueueinfo#64",
   some "rt_sigsuspend", some "sigaltstack#64", some "utime", some "mknod", some "uselib#64",
   some "personality", some "ustat", some "statfs", some "fstatfs", some "sysfs",
   some "getpriority", some "setpriority", some "sched_setparam", some "sched_getparam",
   some "sched_setscheduler", some "sched_getscheduler", some "sched_get_priority_max",
   some "sched_get_priority_min", some "sched_rr_get_interval", some "mlock", some "munlock",
   some "mlockall", some "munlockall", some "vhangup", some "modify_ldt", some "pivot_root",
   some "_sysctl#64", some "prctl", some "arch_prctl", some "adjtimex", some "setrlimit",
   some "chroot", some "sync", some "acct", some "settimeofday", some "mount", some "umount",
   some "swapon", some "swapoff", some "reboot", some "sethostname", some "setdomainname",
   some "iopl", some "ioperm", some "create_module#64", some "init_module", some "delete_module",
   some "get_kernel_syms#64", some "query_module#64", some "quotactl", some "nfsservctl#64",
   some "getpmsg", some "putpmsg", some "afs_syscall", some "tuxcall", some "security",
   some "gettid", some "readahead", some "setxattr", some "lsetxattr", some "fsetxattr",
   some "getxattr", some "lgetxattr", some "fgetxattr", some "listxattr", some "llistxattr",
   some "flistxattr", some "removexattr", some "lremovexattr", some "fremovexattr",
   -- 200
   some "tkill", some "time", some "futex", some "sched_setaffinity", some "sched_getaffinity",
   some "set_thread_area#64", some "io_setup#64", some "io_destroy", some "io_getevents",
   some "io_submit#64", some "io_cancel", some "get_thread_area#64", some "lookup_dcookie",
   some "epoll_create", some "epoll_ctl_old#64", some "epoll_wait_old#64",
   some "remap_file_pages", some "getdents64", some "set_tid_address", some "restart_syscall",
   some "semtimedop", some "fadvise64", some "timer_create#64", some "timer_settime",
   some "timer_gettime", some "timer_getoverrun", some "timer_delete", some "clock_settime",
   some "clock_gettime", some "clock_getres", some "clock_nanosleep", some "exit_group",
   some "epoll_wait", some "epoll_ctl", some "tgkill", some "utimes", some "vserver#64",
   some "mbind", some "set_mempolicy", some "get_mempolicy", some "mq_open", some "mq_unlink",
   some "mq_timedsend", some "mq_timedreceive", some "mq_notify#64mq_getsetattr",
   some "kexec_load#64", some "waitid#64", some "add_key", some "request_key", some "keyctl",
   some "ioprio_set", some "ioprio_get", some "inotify_init", some "inotify_add_watch",
   some "inotify_rm_watch", some "migrate_pages", some "openat", some "mkdirat", some "mknodat",
   some "fchownat", some "futimesat", some "newfstatat", some "unlinkat", some "renameat",
   some "linkat", some "symlinkat", some "readlinkat", some "fchmodat", some "faccessat",
   some "pselect6", some "ppoll", some "unshare", some "set_robust_list#64",
   some "get_robust_list#64", some "splice", some "tee", some "sync_file_range",
   some "vmsplice#64", some "move_pages#64", some "utimensat", some "epoll_pwait",
   some "signalfd", some "timerfd_create", some "eventfd", some "fallocate",
   some "timerfd_settime", some "timerfd_gettime", some "accept4", some "signalfd4",
   some "eventfd2", some "epoll_create1", some "dup3", some "pipe2", some "inotify_init1",
   some "preadv#64", some "pwritev#64", some "rt_tgsigqueueinfo#64", some "perf_event_open",
   some "recvmmsg#64", some "fanotify_init",
   -- 300
   some "fanotify_mark", some "prlimit64", some "name_to_handle_at", some "open_by_handle_at",
   some "clock_adjtime", some "syncfs", some "sendmmsg#64", some "setns", some "getcpu",
   some "process_vm_readv#64", some "process_vm_writev#64", some "kcmp", some "finit_module",
   some "sched_setattr", some "sched_getattr", some "renameat2", some "seccomp",
   some "getrandom", some "memfd_create", some "kexec_file_load", some "bpf", some "execveat#64",
   some "userfaultfd", some "membarrier", some "mlock2", some "copy_file_range",
   some "preadv2#64", some "pwritev2#64", some "pkey_mprotect", some "pkey_alloc",
   some "pkey_free", some "statx", some "io_pgetevents", some "rseq", none, none, none, none,
   none, none, none, none, none, none, none, none, none, none, none, none, none, none, none,
   none, none, none, none, none, none, none, none, none, none, none, none, none, none, none,
   none, none, none, none, none, none, none, none, none, none, none, none, none, none, none,
   none, none, none, none, none, none, none, none, none, none, none, none, none, none, none,
   none, none,
   -- 400
   none, none, none, none, none, none, none, none, none, none, none, none, none, none, none,
   none, none, none, none, none, none, none, none, some "pidfd_send_signal",
   some "io_uring_setup", some "io_uring_enter", some "io_uring_register", some "open_tree",
   some "move_mount", some "fsopen", some "fsconfig", some "fsmount", some "fspick",
   some "pidfd_open", some "clone3", some "close_range", some "openat2", some "pidfd_getfd",
   some "faccessat2", some "process_madvise", some "epoll_pwait2", none, none, none, none, none,
   none, none, none, none, none, none, none, none, none, none, none, none, none, none, none,
   none, none, none, none, none, none, none, none, none, none, none, none, none, none, none,
   none, none, none, none, none, none, none, none, none, none, none, none, none, none, none,
   none, none, none, none, none, none, none, none, none,
   -- 500
   none, none, none, none, none, none, none, none, none, none, none, some "rt_sigaction",
   some "rt_sigreturn", some "ioctl", some "readv", some "writev", some "recvfrom",
   some "sendmsg", some "recvmsg", some "execve", some "ptrace", some "rt_sigpending",
   some "rt_sigtimedwait", some "rt_sigqueueinfo", some "sigaltstack", some "timer_create",
   some "mq_notify", some "kexec_load", some "waitid", some "set_robust_list",
   some "get_robust_list", some "vmsplice", some "move_pages", some "preadv", some "pwritev",
   some "rt_tgsigqueueinfo", some "recvmmsg", some "sendmmsg", some "process_vm_readv",
   some "process_vm_writev", some "setsockopt", some "getsockopt", some "io_setup",
   some "io_submit", some "execveat", some "preadv2", some "pwritev2"]

end PinkTrace
