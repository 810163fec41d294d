import SqlDraft.Text.Quoted
import SqlDraft.Text.Utf8

/-!
# Faults

What can go wrong around the drafting of scripts: reading files, reaching the database, sending
messages.  Each fault is a cause; `Fault.message` has its wording.
-/

namespace SqlDraft

/-- Why the system does not do what it is asked for with a file or a directory. -/
inductive FileFault.Cause
  | notFound
  | inputOutput
  | permissionDenied
  | notADirectory
  | nameTooLong
  | tooManyLinks
  /-- Some other cause, by its number and in its words. -/
  | other (number : Nat) (words : Text)
  deriving DecidableEq, Repr

namespace FileFault.Cause

def number : Cause → Nat
  | notFound => 2
  | inputOutput => 5
  | permissionDenied => 13
  | notADirectory => 20
  | nameTooLong => 36
  | tooManyLinks => 40
  | other number _ => number

def words : Cause → Text
  | notFound => "No such file or directory"
  | inputOutput => "Input/output error"
  | permissionDenied => "Permission denied"
  | notADirectory => "Not a directory"
  | nameTooLong => "File name too long"
  | tooManyLinks => "Too many levels of symbolic links"
  | other _ words => words

/-- For these causes there is nothing at a path, and asking what there is does not fail. -/
def meansNothing (cause : Cause) : Bool :=
  -- the last is the number of a bad descriptor
  [notFound.number, notADirectory.number, tooManyLinks.number, 9].elem cause.number

end FileFault.Cause

/-- What goes wrong with a file or a directory, and the path that was asked for; there is none where
an open file is read. -/
structure FileFault where
  cause : FileFault.Cause
  path : Option Text := none
  deriving DecidableEq, Repr

namespace FileFault

def inputOutput : FileFault := ⟨.inputOutput, none⟩

def notFound (path : Text) : FileFault := ⟨.notFound, some path⟩

def message (fault : FileFault) : Text :=
  let reason : Text :=
    "[Errno " ++ Nat.toDigits 10 fault.cause.number ++ "] " ++ fault.cause.words
  match fault.path with
  | none => reason
  | some path => reason ++ ": " ++ Text.quoted path

end FileFault

/-- A cause for which a request, a write or a run of migrations ends early. -/
inductive Fault
  /-- The directory of templates is not there. -/
  | libraryMissing (directory : Text)
  /-- The directory of templates cannot be read. -/
  | libraryUnreadable (directory : Text) (cause : FileFault)
  /-- A file is no text. -/
  | undecodable (fault : Text.Utf8.Fault)
  /-- A file cannot be read. -/
  | file (fault : FileFault)
  /-- The database refuses the connection. -/
  | connectionRefused
  /-- The connection breaks down in a way that no caller is meant to recover from. -/
  | connectionBroken
  /-- The pool of connections has been closed. -/
  | poolClosed
  /-- The row cannot be inserted. -/
  | executeFailed
  /-- The transaction cannot be committed. -/
  | commitFailed
  /-- A statement of a migration fails. -/
  | statementFailed
  /-- A message cannot be sent. -/
  | sendFailed
  /-- A log line cannot be handled. -/
  | handlerFailed
  /-- The name of a variable has an equals sign in it. -/
  | variableName
  /-- A variable has a null character in it. -/
  | nullInVariable
  /-- No address of the database is given. -/
  | databaseUrlMissing
  /-- The pool of connections has less room than it needs at least. -/
  | poolTooSmall
  /-- The directory of migrations is not there. -/
  | migrationsMissing (directory : Text)
  /-- The directory of migrations has none. -/
  | migrationsEmpty (directory : Text)
  /-- The log knows no such level. -/
  | unknownLevel (name : Text)
  /-- No token is given for the chat. -/
  | botTokenMissing
  /-- The token for the chat has no valid form. -/
  | botTokenInvalid
  /-- The token for the chat has blanks in it. -/
  | botTokenBlank
  /-- No messages can be fetched. -/
  | pollingFailed
  /-- Some other cause, in its own words. -/
  | other (message : Text)
  deriving DecidableEq, Repr

/-- Nobody who takes care of faults is meant to recover from this one. -/
def Fault.isFatal : Fault → Bool
  | .connectionBroken => true
  | _ => false

def Fault.message : Fault → Text
  | .libraryMissing directory => "Template library directory does not exist: " ++ directory
  | .libraryUnreadable directory cause =>
    "Cannot read template library " ++ directory ++ ": " ++ cause.message
  | .undecodable fault => fault.message
  | .file fault => fault.message
  | .connectionRefused => "connection refused"
  | .connectionBroken => "hard failure"
  | .poolClosed => "pool is closed"
  | .executeFailed => "execute failed"
  | .commitFailed => "commit failed"
  | .statementFailed => "statement failed"
  | .sendFailed => "send failed"
  | .handlerFailed => "handler failure"
  | .variableName => "illegal environment variable name"
  | .nullInVariable => "embedded null byte"
  | .databaseUrlMissing => "DATABASE_URL is required (set it in .env or environment)"
  | .poolTooSmall => "max_size must be greater or equal than min_size"
  | .migrationsMissing directory => "Migrations directory does not exist: " ++ directory
  | .migrationsEmpty directory => "No .sql migration files found in " ++ directory
  | .unknownLevel name => "Unknown level: " ++ Text.quoted name
  | .botTokenMissing => "TELEGRAM_BOT_TOKEN is required to run the bot"
  | .botTokenInvalid => "Token is invalid!"
  | .botTokenBlank => "Token is invalid! It can't contains spaces."
  | .pollingFailed => "polling failed"
  | .other message => message

end SqlDraft
