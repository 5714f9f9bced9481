import PinkTrace.Lib.NameTable

/-!
# Errors and signals (`linux/errnoent.h`, `linux/signalent.h`)

All ABIs of all builds share these two tables. The one row that depends on the build is number 58
of the errors, which is `EDEADLOCK` on PowerPC and one of the numbers without an error elsewhere.
Those have names as well, `ERRNO_58` and so on: no row of this table is `NULL`.

Zero has a name in both of them, `ERRNO_0` and `SIG_0`, although it is neither an error nor a
signal. The tables say what a number is called, and not whether it can occur.
-/

set_option autoImplicit false
set_option maxRecDepth 10000

namespace PinkTrace

open Lib

/-- `errnoent`. The argument is `PINK_ARCH_POWERPC`; it changes the contents of a row and not the
    number of rows. -/
def errnoent (powerpc : Bool) : NameTable String :=
  [some "ERRNO_0", some "EPERM", some "ENOENT", some "ESRCH", some "EINTR", some "EIO",
   some "ENXIO", some "E2BIG", some "ENOEXEC", some "EBADF", some "ECHILD", some "EAGAIN",
   some "ENOMEM", some "EACCES", some "EFAULT", some "ENOTBLK", some "EBUSY", some "EEXIST",
   some "EXDEV", some "ENODEV", some "ENOTDIR", some "EISDIR", some "EINVAL", some "ENFILE",
   some "EMFILE", some "ENOTTY", some "ETXTBSY", some "EFBIG", some "ENOSPC", some "ESPIPE",
   some "EROFS", some "EMLINK", some "EPIPE", some "EDOM", some "ERANGE", some "EDEADLK",
   some "ENAMETOOLONG", some "ENOLCK", some "ENOSYS", some "ENOTEMPTY", some "ELOOP",
   some "ERRNO_41", some "ENOMSG", some "EIDRM", some "ECHRNG", some "EL2NSYNC", some "EL3HLT",
   some "EL3RST", some "ELNRNG", some "EUNATCH", some "ENOCSI", some "EL2HLT", some "EBADE",
   some "EBADR", some "EXFULL", some "ENOANO", some "EBADRQC", some "EBADSLT",
   some (if powerpc then "EDEADLOCK" else "ERRNO_58"), some "EBFONT", some "ENOSTR",
   some "ENODATA", some "ETIME", some "ENOSR", some "ENONET", some "ENOPKG", some "EREMOTE",
   some "ENOLINK", some "EADV", some "ESRMNT", some "ECOMM", some "EPROTO", some "EMULTIHOP",
   some "EDOTDOT", some "EBADMSG", some "EOVERFLOW", some "ENOTUNIQ", some "EBADFD",
   some "EREMCHG", some "ELIBACC", some "ELIBBAD", some "ELIBSCN", some "ELIBMAX",
   some "ELIBEXEC", some "EILSEQ", some "ERESTART", some "ESTRPIPE", some "EUSERS",
   some "ENOTSOCK", some "EDESTADDRREQ", some "EMSGSIZE", some "EPROTOTYPE", some "ENOPROTOOPT",
   some "EPROTONOSUPPORT", some "ESOCKTNOSUPPORT", some "EOPNOTSUPP", some "EPFNOSUPPORT",
   some "EAFNOSUPPORT", some "EADDRINUSE", some "EADDRNOTAVAIL",
   -- 100
   some "ENETDOWN", some "ENETUNREACH", some "ENETRESET", some "ECONNABORTED", some "ECONNRESET",
   some "ENOBUFS", some "EISCONN", some "ENOTCONN", some "ESHUTDOWN", some "ETOOMANYREFS",
   some "ETIMEDOUT", some "ECONNREFUSED", some "EHOSTDOWN", some "EHOSTUNREACH", some "EALREADY",
   some "EINPROGRESS", some "ESTALE", some "EUCLEAN", some "ENOTNAM", some "ENAVAIL",
   some "EISNAM", some "EREMOTEIO", some "EDQUOT", some "ENOMEDIUM", some "EMEDIUMTYPE",
   some "ECANCELED", some "ENOKEY", some "EKEYEXPIRED", some "EKEYREVOKED", some "EKEYREJECTED",
   some "EOWNERDEAD", some "ENOTRECOVERABLE", some "ERFKILL", some "EHWPOISON", some "ERRNO_134",
   some "ERRNO_135", some "ERRNO_136", some "ERRNO_137", some "ERRNO_138", some "ERRNO_139",
   some "ERRNO_140", some "ERRNO_141", some "ERRNO_142", some "ERRNO_143", some "ERRNO_144",
   some "ERRNO_145", some "ERRNO_146", some "ERRNO_147", some "ERRNO_148", some "ERRNO_149",
   some "ERRNO_150", some "ERRNO_151", some "ERRNO_152", some "ERRNO_153", some "ERRNO_154",
   some "ERRNO_155", some "ERRNO_156", some "ERRNO_157", some "ERRNO_158", some "ERRNO_159",
   some "ERRNO_160", some "ERRNO_161", some "ERRNO_162", some "ERRNO_163", some "ERRNO_164",
   some "ERRNO_165", some "ERRNO_166", some "ERRNO_167", some "ERRNO_168", some "ERRNO_169",
   some "ERRNO_170", some "ERRNO_171", some "ERRNO_172", some "ERRNO_173", some "ERRNO_174",
   some "ERRNO_175", some "ERRNO_176", some "ERRNO_177", some "ERRNO_178", some "ERRNO_179",
   some "ERRNO_180", some "ERRNO_181", some "ERRNO_182", some "ERRNO_183", some "ERRNO_184",
   some "ERRNO_185", some "ERRNO_186", some "ERRNO_187", some "ERRNO_188", some "ERRNO_189",
   some "ERRNO_190", some "ERRNO_191", some "ERRNO_192", some "ERRNO_193", some "ERRNO_194",
   some "ERRNO_195", some "ERRNO_196", some "ERRNO_197", some "ERRNO_198", some "ERRNO_199",
   -- 200
   some "ERRNO_200", some "ERRNO_201", some "ERRNO_202", some "ERRNO_203", some "ERRNO_204",
   some "ERRNO_205", some "ERRNO_206", some "ERRNO_207", some "ERRNO_208", some "ERRNO_209",
   some "ERRNO_210", some "ERRNO_211", some "ERRNO_212", some "ERRNO_213", some "ERRNO_214",
   some "ERRNO_215", some "ERRNO_216", some "ERRNO_217", some "ERRNO_218", some "ERRNO_219",
   some "ERRNO_220", some "ERRNO_221", some "ERRNO_222", some "ERRNO_223", some "ERRNO_224",
   some "ERRNO_225", some "ERRNO_226", some "ERRNO_227", some "ERRNO_228", some "ERRNO_229",
   some "ERRNO_230", some "ERRNO_231", some "ERRNO_232", some "ERRNO_233", some "ERRNO_234",
   some "ERRNO_235", some "ERRNO_236", some "ERRNO_237", some "ERRNO_238", some "ERRNO_239",
   some "ERRNO_240", some "ERRNO_241", some "ERRNO_242", some "ERRNO_243", some "ERRNO_244",
   some "ERRNO_245", some "ERRNO_246", some "ERRNO_247", some "ERRNO_248", some "ERRNO_249",
   some "ERRNO_250", some "ERRNO_251", some "ERRNO_252", some "ERRNO_253", some "ERRNO_254",
   some "ERRNO_255", some "ERRNO_256", some "ERRNO_257", some "ERRNO_258", some "ERRNO_259",
   some "ERRNO_260", some "ERRNO_261", some "ERRNO_262", some "ERRNO_263", some "ERRNO_264",
   some "ERRNO_265", some "ERRNO_266", some "ERRNO_267", some "ERRNO_268", some "ERRNO_269",
   some "ERRNO_270", some "ERRNO_271", some "ERRNO_272", some "ERRNO_273", some "ERRNO_274",
   some "ERRNO_275", some "ERRNO_276", some "ERRNO_277", some "ERRNO_278", some "ERRNO_279",
   some "ERRNO_280", some "ERRNO_281", some "ERRNO_282", some "ERRNO_283", some "ERRNO_284",
   some "ERRNO_285", some "ERRNO_286", some "ERRNO_287", some "ERRNO_288", some "ERRNO_289",
   some "ERRNO_290", some "ERRNO_291", some "ERRNO_292", some "ERRNO_293", some "ERRNO_294",
   some "ERRNO_295", some "ERRNO_296", some "ERRNO_297", some "ERRNO_298", some "ERRNO_299",
   -- 300
   some "ERRNO_300", some "ERRNO_301", some "ERRNO_302", some "ERRNO_303", some "ERRNO_304",
   some "ERRNO_305", some "ERRNO_306", some "ERRNO_307", some "ERRNO_308", some "ERRNO_309",
   some "ERRNO_310", some "ERRNO_311", some "ERRNO_312", some "ERRNO_313", some "ERRNO_314",
   some "ERRNO_315", some "ERRNO_316", some "ERRNO_317", some "ERRNO_318", some "ERRNO_319",
   some "ERRNO_320", some "ERRNO_321", some "ERRNO_322", some "ERRNO_323", some "ERRNO_324",
   some "ERRNO_325", some "ERRNO_326", some "ERRNO_327", some "ERRNO_328", some "ERRNO_329",
   some "ERRNO_330", some "ERRNO_331", some "ERRNO_332", some "ERRNO_333", some "ERRNO_334",
   some "ERRNO_335", some "ERRNO_336", some "ERRNO_337", some "ERRNO_338", some "ERRNO_339",
   some "ERRNO_340", some "ERRNO_341", some "ERRNO_342", some "ERRNO_343", some "ERRNO_344",
   some "ERRNO_345", some "ERRNO_346", some "ERRNO_347", some "ERRNO_348", some "ERRNO_349",
   some "ERRNO_350", some "ERRNO_351", some "ERRNO_352", some "ERRNO_353", some "ERRNO_354",
   some "ERRNO_355", some "ERRNO_356", some "ERRNO_357", some "ERRNO_358", some "ERRNO_359",
   some "ERRNO_360", some "ERRNO_361", some "ERRNO_362", some "ERRNO_363", some "ERRNO_364",
   some "ERRNO_365", some "ERRNO_366", some "ERRNO_367", some "ERRNO_368", some "ERRNO_369",
   some "ERRNO_370", some "ERRNO_371", some "ERRNO_372", some "ERRNO_373", some "ERRNO_374",
   some "ERRNO_375", some "ERRNO_376", some "ERRNO_377", some "ERRNO_378", some "ERRNO_379",
   some "ERRNO_380", some "ERRNO_381", some "ERRNO_382", some "ERRNO_383", some "ERRNO_384",
   some "ERRNO_385", some "ERRNO_386", some "ERRNO_387", some "ERRNO_388", some "ERRNO_389",
   some "ERRNO_390", some "ERRNO_391", some "ERRNO_392", some "ERRNO_393", some "ERRNO_394",
   some "ERRNO_395", some "ERRNO_396", some "ERRNO_397", some "ERRNO_398", some "ERRNO_399",
   -- 400
   some "ERRNO_400", some "ERRNO_401", some "ERRNO_402", some "ERRNO_403", some "ERRNO_404",
   some "ERRNO_405", some "ERRNO_406", some "ERRNO_407", some "ERRNO_408", some "ERRNO_409",
   some "ERRNO_410", some "ERRNO_411", some "ERRNO_412", some "ERRNO_413", some "ERRNO_414",
   some "ERRNO_415", some "ERRNO_416", some "ERRNO_417", some "ERRNO_418", some "ERRNO_419",
   some "ERRNO_420", some "ERRNO_421", some "ERRNO_422", some "ERRNO_423", some "ERRNO_424",
   some "ERRNO_425", some "ERRNO_426", some "ERRNO_427", some "ERRNO_428", some "ERRNO_429",
   some "ERRNO_430", some "ERRNO_431", some "ERRNO_432", some "ERRNO_433", some "ERRNO_434",
   some "ERRNO_435", some "ERRNO_436", some "ERRNO_437", some "ERRNO_438", some "ERRNO_439",
   some "ERRNO_440", some "ERRNO_441", some "ERRNO_442", some "ERRNO_443", some "ERRNO_444",
   some "ERRNO_445", some "ERRNO_446", some "ERRNO_447", some "ERRNO_448", some "ERRNO_449",
   some "ERRNO_450", some "ERRNO_451", some "ERRNO_452", some "ERRNO_453", some "ERRNO_454",
   some "ERRNO_455", some "ERRNO_456", some "ERRNO_457", some "ERRNO_458", some "ERRNO_459",
   some "ERRNO_460", some "ERRNO_461", some "ERRNO_462", some "ERRNO_463", some "ERRNO_464",
   some "ERRNO_465", some "ERRNO_466", some "ERRNO_467", some "ERRNO_468", some "ERRNO_469",
   some "ERRNO_470", some "ERRNO_471", some "ERRNO_472", some "ERRNO_473", some "ERRNO_474",
   some "ERRNO_475", some "ERRNO_476", some "ERRNO_477", some "ERRNO_478", some "ERRNO_479",
   some "ERRNO_480", some "ERRNO_481", some "ERRNO_482", some "ERRNO_483", some "ERRNO_484",
   some "ERRNO_485", some "ERRNO_486", some "ERRNO_487", some "ERRNO_488", some "ERRNO_489",
   some "ERRNO_490", some "ERRNO_491", some "ERRNO_492", some "ERRNO_493", some "ERRNO_494",
   some "ERRNO_495", some "ERRNO_496", some "ERRNO_497", some "ERRNO_498", some "ERRNO_499",
   -- 500
   some "ERRNO_500", some "ERRNO_501", some "ERRNO_502", some "ERRNO_503", some "ERRNO_504",
   some "ERRNO_505", some "ERRNO_506", some "ERRNO_507", some "ERRNO_508", some "ERRNO_509",
   some "ERRNO_510", some "ERRNO_511", some "ERESTARTSYS", some "ERESTARTNOINTR",
   some "ERESTARTNOHAND", some "ENOIOCTLCMD", some "ERESTART_RESTARTBLOCK", some "EPROBE_DEFER",
   some "EOPENSTALE", some "ERRNO_519", some "ERRNO_520", some "EBADHANDLE", some "ENOTSYNC",
   some "EBADCOOKIE", some "ENOTSUPP", some "ETOOSMALL", some "ESERVERFAULT", some "EBADTYPE",
   some "EJUKEBOX", some "EIOCBQUEUED", some "ERECALLCONFLICT"]

/-- `signalent`. -/
def signalent : NameTable String :=
  [some "SIG_0", some "SIGHUP", some "SIGINT", some "SIGQUIT", some "SIGILL", some "SIGTRAP",
   some "SIGABRT", some "SIGBUS", some "SIGFPE", some "SIGKILL", some "SIGUSR1", some "SIGSEGV",
   some "SIGUSR2", some "SIGPIPE", some "SIGALRM", some "SIGTERM", some "SIGSTKFLT",
   some "SIGCHLD", some "SIGCONT", some "SIGSTOP", some "SIGTSTP", some "SIGTTIN",
   some "SIGTTOU", some "SIGURG", some "SIGXCPU", some "SIGXFSZ", some "SIGVTALRM",
   some "SIGPROF", some "SIGWINCH", some "SIGIO", some "SIGPWR", some "SIGSYS", some "SIGRTMIN"]

end PinkTrace
