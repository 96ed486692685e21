/-!
# File errors

Why a file could not be looked at, and the text shown for each reason.

## Main definitions

* `IoError` — the reasons.
* `IoError.message` — their texts.
-/

namespace LiveSketch

/-- Why a file operation failed. -/
inductive IoError where
  | notFound
  | permissionDenied
  | notDirectory
  | isDirectory
  | nameTooLong
  | tooManyLinks
  /-- A path with a zero character in it. -/
  | zeroInPath
  /-- Bytes that were to be read as text are not text. -/
  | notText
  /-- Any other condition that the system reports by number. -/
  | system (code : Int)
  /-- A condition that has only a text. -/
  | other (text : String)
deriving DecidableEq, Inhabited

namespace IoError

/-- The system's descriptions of its error numbers. -/
def systemTexts : List (Int × String) :=
  [(1, "Operation not permitted"), (2, "No such file or directory"), (3, "No such process"),
   (4, "Interrupted system call"), (5, "Input/output error"), (6, "No such device or address"),
   (7, "Argument list too long"), (8, "Exec format error"), (9, "Bad file descriptor"),
   (10, "No child processes"), (11, "Resource temporarily unavailable"),
   (12, "Cannot allocate memory"), (13, "Permission denied"), (14, "Bad address"),
   (15, "Block device required"), (16, "Device or resource busy"), (17, "File exists"),
   (18, "Invalid cross-device link"), (19, "No such device"), (20, "Not a directory"),
   (21, "Is a directory"), (22, "Invalid argument"), (23, "Too many open files in system"),
   (24, "Too many open files"), (25, "Inappropriate ioctl for device"), (26, "Text file busy"),
   (27, "File too large"), (28, "No space left on device"), (29, "Illegal seek"),
   (30, "Read-only file system"), (31, "Too many links"), (32, "Broken pipe"),
   (33, "Numerical argument out of domain"), (34, "Numerical result out of range"),
   (35, "Resource deadlock avoided"), (36, "File name too long"), (37, "No locks available"),
   (38, "Function not implemented"), (39, "Directory not empty"),
   (40, "Too many levels of symbolic links"), (110, "Connection timed out"),
   (111, "Connection refused"), (116, "Stale file handle"), (122, "Disk quota exceeded")]

/-- The text for an error number. -/
def systemMessage (code : Int) : String :=
  match systemTexts.find? (fun entry => entry.1 = code) with
  | some (_, text) => s!"{text} (os error {code})"
  | none => s!"Unknown error {code} (os error {code})"

/-- The text shown for an error. -/
def message : IoError → String
  | notFound => systemMessage 2
  | permissionDenied => systemMessage 13
  | notDirectory => systemMessage 20
  | isDirectory => systemMessage 21
  | nameTooLong => systemMessage 36
  | tooManyLinks => systemMessage 40
  | zeroInPath => "file name contained an unexpected NUL byte"
  | notText => "stream did not contain valid UTF-8"
  | system code => systemMessage code
  | other text => text

end IoError

end LiveSketch
