import SourceLocator.FileTree.Cause
import SourceLocator.Path
import SourceLocator.Text.Utf8

/-!
# Records of what happened

The library reports by `Record`s what it could not do and how much it found.  A record is a
value: `Record.level` says how serious it is, `Record.source` which part of the library made
it, and `Record.message` words it.  A `Logged` value carries the records that were made on
the way to it.
-/

namespace SourceLocator

open Text

/-- How serious a record is. -/
inductive Level where
  | notSet
  | debug
  | info
  | warning
  | error
  | critical
deriving DecidableEq

namespace Level

/-- The name of a level. -/
def name : Level → String
  | .notSet => "NOTSET"
  | .debug => "DEBUG"
  | .info => "INFO"
  | .warning => "WARNING"
  | .error => "ERROR"
  | .critical => "CRITICAL"

/-- The place of a level in the order of seriousness. -/
def rank : Level → Nat
  | .notSet => 0
  | .debug => 10
  | .info => 20
  | .warning => 30
  | .error => 40
  | .critical => 50

/-- The levels by the names under which they can be asked for. -/
def named : List (String × Level) :=
  [("CRITICAL", .critical), ("FATAL", .critical), ("ERROR", .error), ("WARN", .warning),
   ("WARNING", .warning), ("INFO", .info), ("DEBUG", .debug), ("NOTSET", .notSet)]

end Level

/-- Why the text of a file cannot be had. -/
inductive ReadError where
  | file (e : FileError)
  | encoding (f : Utf8.Fault)
deriving DecidableEq

/-- Two lower-case hexadecimal digits of a byte. -/
private def byteDigits (b : UInt8) : String :=
  String.ofList (hexDigits 2 b.toNat)

/-- The wording of a place where a file is not UTF-8. -/
def Text.Utf8.Fault.message (f : Utf8.Fault) : String :=
  "'utf-8' codec can't decode " ++
    (match f.bytes with
      | [b] => "byte 0x" ++ byteDigits b ++ " in position " ++ toString f.start
      | bytes =>
        "bytes in position " ++ toString f.start ++ "-"
          ++ toString (f.start + bytes.length - 1))
    ++ ": " ++ f.reason.message

/-- The wording of a reading error. -/
def ReadError.message : ReadError → String
  | .file e => e.message
  | .encoding f => f.message

/-- The name of the variable that asks for a level. -/
def levelVariable : String := "ANDROID_REVERSER_LOG_LEVEL"

/-- What is reported. -/
inductive Record where
  /-- A walk failed. -/
  | cannotTraverse (root : Path) (e : FileError)
  /-- A walk found a number of files. -/
  | found (count : Nat) (extension : String) (root : Path)
  /-- A file could not be read and so counts as outside the package. -/
  | outside (path : Path) (package : String) (e : ReadError)
  /-- A level was asked for that there is not. -/
  | unknownLevel (requested : String)
deriving DecidableEq

/-- The part of the library that makes a record. -/
inductive Source where
  | scan
  | membership
  | program
deriving DecidableEq

namespace Record

/-- How serious a record is. -/
def level : Record → Level
  | .cannotTraverse _ _ | .unknownLevel _ => .warning
  | .found _ _ _ | .outside _ _ _ => .debug

/-- The part of the library that makes the record. -/
def source : Record → Source
  | .cannotTraverse _ _ | .found _ _ _ => .scan
  | .outside _ _ _ => .membership
  | .unknownLevel _ => .program

/-- The wording of a record. -/
def message : Record → String
  | .cannotTraverse root e => "Cannot traverse " ++ root.render ++ ": " ++ e.message
  | .found count extension root =>
    "Found " ++ toString count ++ " " ++ extension ++ " file(s) under " ++ root.render
  | .outside path package e =>
    "Treating " ++ path.render ++ " as outside " ++ package ++ ": " ++ e.message
  | .unknownLevel requested =>
    "Unknown " ++ levelVariable ++ " " ++ quoted requested ++ ", using "
      ++ Level.warning.name

end Record

/-- A value with the records made on the way to it, in the order of their making. -/
structure Logged (α : Type) where
  value : α
  records : List Record

end SourceLocator
