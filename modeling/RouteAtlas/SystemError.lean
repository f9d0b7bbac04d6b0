/-!
# Errors of the operating system

The system reports a failed request as a number; `SystemError.message` puts it in words.
-/

namespace RouteAtlas

/-- The texts of the error numbers, counted from zero; empty where a number has no text. -/
def systemErrorTexts : Array String := #[
    "Success", "Operation not permitted", "No such file or directory", "No such process",
    "Interrupted system call", "Input/output error", "No such device or address",
    "Argument list too long", "Exec format error", "Bad file descriptor", "No child processes",
    "Resource temporarily unavailable", "Cannot allocate memory", "Permission denied",
    "Bad address", "Block device required", "Device or resource busy", "File exists",
    "Invalid cross-device link", "No such device", "Not a directory", "Is a directory",
    "Invalid argument", "Too many open files in system", "Too many open files",
    "Inappropriate ioctl for device", "Text file busy", "File too large",
    "No space left on device", "Illegal seek", "Read-only file system", "Too many links",
    "Broken pipe", "Numerical argument out of domain", "Numerical result out of range",
    "Resource deadlock avoided", "File name too long", "No locks available",
    "Function not implemented", "Directory not empty", "Too many levels of symbolic links", "",
    "No message of desired type", "Identifier removed", "Channel number out of range",
    "Level 2 not synchronized", "Level 3 halted", "Level 3 reset", "Link number out of range",
    "Protocol driver not attached", "No CSI structure available", "Level 2 halted",
    "Invalid exchange", "Invalid request descriptor", "Exchange full", "No anode",
    "Invalid request code", "Invalid slot", "", "Bad font file format", "Device not a stream",
    "No data available", "Timer expired", "Out of streams resources",
    "Machine is not on the network", "Package not installed", "Object is remote",
    "Link has been severed", "Advertise error", "Srmount error", "Communication error on send",
    "Protocol error", "Multihop attempted", "RFS specific error", "Bad message",
    "Value too large for defined data type", "Name not unique on network",
    "File descriptor in bad state", "Remote address changed",
    "Can not access a needed shared library", "Accessing a corrupted shared library",
    ".lib section in a.out corrupted", "Attempting to link in too many shared libraries",
    "Cannot exec a shared library directly", "Invalid or incomplete multibyte or wide character",
    "Interrupted system call should be restarted", "Streams pipe error", "Too many users",
    "Socket operation on non-socket", "Destination address required", "Message too long",
    "Protocol wrong type for socket", "Protocol not available", "Protocol not supported",
    "Socket type not supported", "Operation not supported", "Protocol family not supported",
    "Address family not supported by protocol", "Address already in use",
    "Cannot assign requested address", "Network is down", "Network is unreachable",
    "Network dropped connection on reset", "Software caused connection abort",
    "Connection reset by peer", "No buffer space available",
    "Transport endpoint is already connected", "Transport endpoint is not connected",
    "Cannot send after transport endpoint shutdown", "Too many references: cannot splice",
    "Connection timed out", "Connection refused", "Host is down", "No route to host",
    "Operation already in progress", "Operation now in progress", "Stale file handle",
    "Structure needs cleaning", "Not a XENIX named type file", "No XENIX semaphores available",
    "Is a named type file", "Remote I/O error", "Disk quota exceeded", "No medium found",
    "Wrong medium type", "Operation canceled", "Required key not available", "Key has expired",
    "Key has been revoked", "Key was rejected by service", "Owner died", "State not recoverable",
    "Operation not possible due to RF-kill", "Memory page has hardware error"]

/-- An error number of the operating system. -/
structure SystemError where
  code : Nat
deriving DecidableEq, Repr, Inhabited

namespace SystemError

/-- No entry of that name. -/
def notFound : SystemError := ⟨2⟩

/-- The entry is there already. -/
def exists_ : SystemError := ⟨17⟩

/-- A part of the path that should be a directory is none. -/
def notDirectory : SystemError := ⟨20⟩

/-- A file was asked for and the path names a directory. -/
def isDirectory : SystemError := ⟨21⟩

/-- The path cannot name what was asked for. -/
def invalidArgument : SystemError := ⟨22⟩

/-- The device has no room for what is written. -/
def noSpace : SystemError := ⟨28⟩

/-- A name or a path is longer than the system takes. -/
def nameTooLong : SystemError := ⟨36⟩

/-- Following the links of the path does not end. -/
def tooManyLinks : SystemError := ⟨40⟩

/-- The text of the number alone. -/
def text (e : SystemError) : String :=
  match systemErrorTexts[e.code]? with
  | none | some "" => s!"Unknown error {e.code}"
  | some t => t

/-- The error in words, with its number. -/
def message (e : SystemError) : String := s!"{e.text} (os error {e.code})"

end SystemError

end RouteAtlas
