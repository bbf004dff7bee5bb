import Conveyor.Task.Id
import Conveyor.Task.Status

/-!
# Errors

Every failure a transfer can meet is one `Error`. Its `Error.kind` decides what happens to the
task: a transient error (an I/O failure or a timeout) is retried with backoff, everything else
finishes the task, or is passed over for an optional element.

`Error.ofIo` classifies a failed operating-system call on a path by the system's kind of
failure: a missing path is `notFound`, a refused one `permissionDenied`, and the rest are I/O
errors that carry the path and the system's text.
-/

namespace Conveyor

/-- A failure of a transfer operation. -/
inductive Error where
  /-- A path does not exist on its storage system. -/
  | notFound (path : String)
  /-- No adapter is registered for a storage system. -/
  | systemNotFound (system : String)
  /-- The storage system is registered but disabled. -/
  | systemDisabled (system : String)
  /-- Access to a path was refused. -/
  | permissionDenied (path : String)
  /-- A backend cannot perform an operation. -/
  | unsupported (operation backend : String)
  /-- An I/O failure that may go away on retry. -/
  | io (message : String)
  /-- An operation ran out of time. -/
  | timeout (seconds : Nat)
  /-- The task store failed. -/
  | store (message : String)
  /-- A status change that the transition table refuses. -/
  | invalidTransition (source target : Status)
  /-- A worker touched a task it does not own. -/
  | notOwner (task : TaskId)
  /-- No task has this id. -/
  | taskNotFound (id : TaskId)
  /-- A malformed request or location. -/
  | invalidRequest (message : String)
  /-- The operation was cancelled. -/
  | cancelled
  /-- The configuration is unusable. -/
  | config (message : String)
  /-- Any other failure, with its text. -/
  | other (message : String)
deriving DecidableEq, Repr, Inhabited

/-- How a failure is handled. -/
inductive ErrorKind where
  | notFound | authorization | transient | unsupported | unavailable
  | store | state | cancelled | config | other
deriving DecidableEq, Repr, Inhabited

/-- The name of a kind of failure. -/
def ErrorKind.name : ErrorKind → String
  | .notFound => "NotFound"
  | .authorization => "Authorization"
  | .transient => "Transient"
  | .unsupported => "Unsupported"
  | .unavailable => "Unavailable"
  | .store => "Store"
  | .state => "State"
  | .cancelled => "Cancelled"
  | .config => "Config"
  | .other => "Other"

namespace Error

/-- The kind of a failure. -/
def kind : Error → ErrorKind
  | notFound _ | systemNotFound _ => .notFound
  | permissionDenied _ => .authorization
  | io _ | timeout _ => .transient
  | unsupported _ _ => .unsupported
  | systemDisabled _ => .unavailable
  | store _ => .store
  | invalidTransition _ _ | notOwner _ | taskNotFound _ | invalidRequest _ => .state
  | cancelled => .cancelled
  | config _ => .config
  | other _ => .other

/-- Whether a failure may go away by itself. -/
def isTransient (e : Error) : Bool := e.kind == .transient

/-- Only transient failures are retried. -/
def shouldRetry (e : Error) : Bool := e.isTransient

/-- Whether the source or its system does not exist. -/
def isNotFound (e : Error) : Bool := e.kind == .notFound

/-- The name of the cause. -/
def variant : Error → String
  | notFound _ => "NotFound"
  | systemNotFound _ => "SystemNotFound"
  | systemDisabled _ => "SystemDisabled"
  | permissionDenied _ => "PermissionDenied"
  | unsupported _ _ => "Unsupported"
  | io _ => "Io"
  | timeout _ => "Timeout"
  | store _ => "Store"
  | invalidTransition _ _ => "InvalidTransition"
  | notOwner _ => "NotOwner"
  | taskNotFound _ => "TaskNotFound"
  | invalidRequest _ => "InvalidRequest"
  | cancelled => "Cancelled"
  | config _ => "Config"
  | other _ => "Other"

/-- The text of a failure. -/
def message : Error → String
  | notFound p => "Not found: " ++ p
  | systemNotFound s => "Storage system not found: " ++ s
  | systemDisabled s => "Storage system disabled: " ++ s
  | permissionDenied p => "Permission denied: " ++ p
  | unsupported op b => "Operation '" ++ op ++ "' is not supported by the " ++ b ++ " backend"
  | io m => "I/O error: " ++ m
  | timeout s => "Operation timed out after " ++ toString s ++ " seconds"
  | store m => "Task store error: " ++ m
  | invalidTransition s t => "Invalid transition from " ++ s.name ++ " to " ++ t.name
  | notOwner t => "Task " ++ t.render ++ " is not assigned to the calling worker"
  | taskNotFound t => "Task not found: " ++ t.render
  | invalidRequest m => "Invalid request: " ++ m
  | cancelled => "Operation cancelled"
  | config m => "Configuration error: " ++ m
  | other m => m

end Error

/-- The kinds of failure an operating-system call reports. -/
inductive IoKind where
  | notFound | permissionDenied | unsupported | timedOut | connectionReset
  | connectionRefused | connectionAborted | unexpectedEof | interrupted | brokenPipe
  | wouldBlock | invalidData | invalidInput | alreadyExists | writeZero | outOfMemory | other
deriving DecidableEq, Repr, Inhabited

namespace IoKind

/-- All kinds, with their names. -/
def named : List (String × IoKind) :=
  [("NotFound", notFound), ("PermissionDenied", permissionDenied), ("Unsupported", unsupported),
   ("TimedOut", timedOut), ("ConnectionReset", connectionReset),
   ("ConnectionRefused", connectionRefused), ("ConnectionAborted", connectionAborted),
   ("UnexpectedEof", unexpectedEof), ("Interrupted", interrupted), ("BrokenPipe", brokenPipe),
   ("WouldBlock", wouldBlock), ("InvalidData", invalidData), ("InvalidInput", invalidInput),
   ("AlreadyExists", alreadyExists), ("WriteZero", writeZero), ("OutOfMemory", outOfMemory),
   ("Other", other)]

/-- The kind with a name. -/
def ofName? (s : String) : Option IoKind :=
  (named.find? (·.1 == s)).map (·.2)

end IoKind

/-- A failed system call on `path`, whose own text is `text`, as a transfer failure. -/
def Error.ofIo (kind : IoKind) (text path : String) : Error :=
  match kind with
  | .notFound => .notFound path
  | .permissionDenied => .permissionDenied path
  | .unsupported => .unsupported text "io"
  | .timedOut => .io (path ++ ": timed out: " ++ text)
  | _ => .io (path ++ ": " ++ text)

end Conveyor
