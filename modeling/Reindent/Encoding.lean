-- SUMMARY: The text encodings of files, and what is wrong with bytes or texts they cannot carry.
import Reindent.Text.Quoted

/-! # Encodings

Files are UTF-8, Latin-1 or ASCII. -/

namespace Reindent

abbrev Bytes := List UInt8

inductive Encoding where
  | utf8
  | latin1
  | ascii
  deriving DecidableEq, Repr

namespace Encoding

/-- The name that messages use. -/
def label : Encoding → String
  | .utf8 => "utf-8"
  | .latin1 => "latin-1"
  | .ascii => "ascii"

/-- Characters from this number on cannot be written. -/
def limit : Encoding → Nat
  | .utf8 => 0x110000
  | .latin1 => 0x100
  | .ascii => 0x80

/-! ## Finding an encoding by name -/

/-- The name that an encoding goes by, as `plainName` has it. -/
def ownName : Encoding → String
  | .utf8 => "utf_8"
  | .latin1 => "latin_1"
  | .ascii => "ascii"

/-- The names that an encoding has besides its own. -/
def otherNames : Encoding → List String
  | .utf8 => ["utf8", "utf", "u8", "utf8_ucs2", "utf8_ucs4", "cp65001"]
  | .latin1 =>
    ["latin1", "latin", "l1", "iso_8859_1", "iso8859_1", "iso8859", "8859", "cp819", "csisolatin1",
     "ibm819", "iso_8859_1_1987", "iso_ir_100"]
  | .ascii =>
    ["us_ascii", "us", "646", "ansi_x3.4_1968", "ansi_x3_4_1968", "ansi_x3.4_1986", "cp367",
     "csascii", "ibm367", "iso646_us", "iso_646.irv_1991", "iso_ir_6"]

/-- Names differ neither in case nor in the marks between their parts: a run of characters that are
    neither letters, digits nor dots counts as one underscore, and none at either end. -/
def plainName (name : Text) : Text :=
  go false (name.dropWhile (!keeps ·))
where
  keeps (c : Char) : Bool := c.isAlphanum || c == '.'
  go (gap : Bool) : Text → Text
    | [] => []
    | c :: rest =>
      if keeps c then (if gap then ['_'] else []) ++ c.toLower :: go false rest
      else go true rest

/-- The encoding of a name. In the names that are not an encoding's own a dot may stand for an
    underscore. -/
def ofName? (name : Text) : Option Encoding :=
  let plain := plainName name
  let undotted := plain.map fun c => if c == '.' then '_' else c
  [.utf8, .latin1, .ascii].find? fun encoding =>
    encoding.ownName.toList == plain ||
    encoding.otherNames.any fun other => other.toList == plain || other.toList == undotted

end Encoding

/-! ## What can be wrong -/

/-- Why bytes are no text. -/
inductive DecodeReason where
  | notInRange
  | badStart
  | badContinuation
  | cutShort
  deriving DecidableEq, Repr

/-- Bytes that are no text, with their offset in the block that was being read. -/
structure DecodeError where
  encoding : Encoding
  offset : Nat
  run : Bytes
  reason : DecodeReason
  deriving DecidableEq, Repr

/-- Characters that cannot be written, with their offset in the text that was being written. -/
structure EncodeError where
  encoding : Encoding
  offset : Nat
  run : Text
  deriving DecidableEq, Repr

def DecodeReason.message (encoding : Encoding) : DecodeReason → String
  | .notInRange => s!"ordinal not in range({encoding.limit})"
  | .badStart => "invalid start byte"
  | .badContinuation => "invalid continuation byte"
  | .cutShort => "unexpected end of data"

def DecodeError.message (e : DecodeError) : String :=
  let what :=
    match e.run with
    | [byte] => s!"byte 0x{String.ofList (Text.hexDigits 2 byte.toNat)} in position {e.offset}"
    | run => s!"bytes in position {e.offset}-{e.offset + run.length - 1}"
  s!"'{e.encoding.label}' codec can't decode {what}: {e.reason.message e.encoding}"

def EncodeError.message (e : EncodeError) : String :=
  let what :=
    match e.run with
    | [c] => s!"character '{String.ofList (Text.escapeByCode c)}' in position {e.offset}"
    | run => s!"characters in position {e.offset}-{e.offset + run.length - 1}"
  s!"'{e.encoding.label}' codec can't encode {what}: ordinal not in range({e.encoding.limit})"

end Reindent
