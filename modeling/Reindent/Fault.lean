-- SUMMARY: What a stream or a file can answer instead of doing as it was asked.
import Reindent.Capacity
import Reindent.Encoding

/-! # Faults

A fault is what goes wrong outside the document: in the stream that is read or written, or in the
file tree. -/

namespace Reindent

/-- Why a read or a write did not happen. -/
inductive Fault where
  /-- The device failed. -/
  | device (message : String)
  /-- The text could not be coded. -/
  | coding (message : String)
  | undecodable (error : DecodeError)
  | unencodable (error : EncodeError)
  /-- The stream does not take such requests, which is its caller's mistake. -/
  | misuse (message : String)
  /-- The request asks for too much. -/
  | excess (excess : Excess)
  deriving DecidableEq, Repr

def Fault.message : Fault → String
  | .device message => message
  | .coding message => message
  | .undecodable error => error.message
  | .unencodable error => error.message
  | .misuse message => message
  | .excess e => e.message

/-- Why a file could not be opened. -/
inductive OpenFault where
  | missing
  | isDirectory
  | notDirectory
  | tooLong
  /-- The path goes from one symbolic link to the next. -/
  | tooManyLinks
  deriving DecidableEq, Repr

def OpenFault.message : OpenFault → String
  | .missing => "No such file or directory"
  | .isDirectory => "Is a directory"
  | .notDirectory => "Not a directory"
  | .tooLong => "File name too long"
  | .tooManyLinks => "Too many levels of symbolic links"

end Reindent
