import Brainfuck.Decimal.Numeral
import Brainfuck.Text.Quoted

/-!
# What can go wrong

Every error is a cause. The wording of the ones that are reported to the user is in one
place, `Brainfuck.Failure.message?`. A failure that is about a value holds it as the wording
shows it.

A text that is no program (`Brainfuck.CompileError`) is special: it does not stop the
session it was meant for, which keeps the error and cannot be run until it is given
another text.
-/

namespace Brainfuck

/-- Why a text is no program. -/
inductive CompileError where
  /-- The bracket at this position has no partner. -/
  | unbalanced (position : Nat)
  /-- There is nothing to optimize. -/
  | empty
deriving DecidableEq

/-- The wording of a compile error. -/
def CompileError.message : CompileError → String
  | unbalanced position => "Error parsing input BF: Unbalanced bracket at col " ++ toString position
  | empty => "There is no code to optimize!"

/-- Why an option is refused. -/
inductive OptionError where
  /-- The options are no mapping. -/
  | notMapping
  /-- There are no options of these names. -/
  | unknown (names : List String)
  /-- The option wants a truth value. -/
  | notBoolean (name : String) (given : String)
  /-- The option wants a whole number. -/
  | notInteger (name : String) (given : String)
  /-- The option wants a text. -/
  | notText (name : String) (given : String)
  /-- There is no such way to treat the end of the input. -/
  | unknownMode (modes : List String) (given : String)
deriving DecidableEq

/-- The wording of a refused option. -/
def OptionError.message : OptionError → String
  | notMapping => "configuration must be a mapping of option names to values"
  | unknown names => "unknown configuration option(s): " ++ ", ".intercalate names
  | notBoolean name given => name ++ " must be a boolean, got " ++ given
  | notInteger name given => name ++ " must be an integer, got " ++ given
  | notText name given => name ++ " must be a string, got " ++ given
  | unknownMode modes given =>
    "eof must be one of " ++ ", ".intercalate modes ++ ", got " ++ given

/-- Why a file cannot be read. -/
inductive FileError where
  /-- There is no such file. -/
  | missing
  /-- The file is a directory. -/
  | directory
  /-- A part of its path that should be a directory is a file. -/
  | throughFile
  /-- A part of its path, or the whole, is too long. -/
  | nameTooLong
  /-- It is not allowed to be read. -/
  | forbidden
deriving DecidableEq

namespace FileError

/-- The number of a file error. -/
def number : FileError → Nat
  | missing => 2
  | forbidden => 13
  | throughFile => 20
  | directory => 21
  | nameTooLong => 36

/-- The wording of a file error. -/
def message : FileError → String
  | missing => "No such file or directory"
  | throughFile => "Not a directory"
  | directory => "Is a directory"
  | nameTooLong => "File name too long"
  | forbidden => "Permission denied"

end FileError

/-- Everything that can go wrong. -/
inductive Failure where
  /-- The program text is refused. -/
  | compile (error : CompileError)
  /-- The length of a tape must be a positive whole number. -/
  | tapeLength (given : String)
  /-- There is no cell at this position of the tape. There is no wording for a position that is too
  long to be written. -/
  | outOfBounds (position : Int) (length : Nat)
  /-- The instruction at this position found no more input. -/
  | endOfInput (pc : Nat)
  /-- An option is refused. -/
  | option (error : OptionError)
  /-- A value of this kind cannot serve as input. -/
  | unusableInput (kind : String)
  /-- A value of this kind cannot serve as output. -/
  | unusableOutput (kind : String)
  /-- A position counts neither from the start nor from the end. -/
  | badIndex
  /-- A value is of a kind that the operation does not take. -/
  | wrongKind
  /-- A value is of the right kind, but out of range. -/
  | badValue
  /-- A number is infinite or beyond every size. -/
  | tooLarge
  /-- There is not enough memory. -/
  | outOfMemory
  /-- The object has no such operation. -/
  | noSuchOperation
  /-- A character has no code of one byte. -/
  | unencodable
  /-- A word is none of those that are known. -/
  | unknownWord
  /-- Bytes are not the code of a text. -/
  | undecodable
  /-- The file of this name cannot be read. -/
  | file (error : FileError) (name : String)
  /-- A document is malformed. -/
  | malformedDocument
  /-- A document or a value is nested too deeply. -/
  | tooDeep
deriving DecidableEq

namespace Failure

/-- Whether a failure is one of a file. -/
def isFileError : Failure → Bool
  | file _ _ => true
  | _ => false

/-- Whether a program ends in an orderly way after a failure, telling the user its message. The
other failures stop it. -/
def isReported : Failure → Bool
  | compile _ | tapeLength _ | endOfInput _ | option _ => true
  | outOfBounds position _ => (Decimal.numeral? position).isSome
  | f => f.isFileError

/-- The wording of a failure, if it has one. -/
def message? : Failure → Option String
  | compile error => some error.message
  | tapeLength given => some ("Invalid tape length " ++ given ++ "!")
  | outOfBounds position length =>
    (Decimal.numeral? position).map fun text =>
      text ++ " is out of the bounds of the BF tape [0," ++ toString length ++ ")"
  | endOfInput pc => some ("End of input reached at instruction " ++ toString pc)
  | option error => some error.message
  | file error name =>
    some ("[Errno " ++ toString error.number ++ "] " ++ error.message ++ ": " ++ Text.quoted name)
  | unusableInput kind => some ("Cannot use " ++ kind ++ " as an input source")
  | unusableOutput kind => some ("Cannot use " ++ kind ++ " as an output sink")
  | badIndex | wrongKind | badValue | tooLarge | outOfMemory
  | noSuchOperation | unencodable | unknownWord | undecodable | malformedDocument | tooDeep => none

/-- What is left of an operation whose failure ends everything: the failure, or else the state
after it. -/
def resolve {α : Type} : Option Failure × α → Except Failure α
  | (none, a) => .ok a
  | (some f, _) => .error f

end Failure

end Brainfuck
