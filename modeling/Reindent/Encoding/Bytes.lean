-- SUMMARY: Texts as bytes and bytes as texts, under each encoding.
import Reindent.Encoding.Utf8

/-! # Texts as bytes -/

namespace Reindent.Encoding

/-! ## Writing -/

/-- The first run of characters that the encoding lacks. -/
def unencodable? (encoding : Encoding) (t : Text) : Option EncodeError :=
  let fits (c : Char) : Bool := c.toNat < encoding.limit
  match t.dropWhile fits with
  | [] => none
  | rest => some ⟨encoding, (t.takeWhile fits).length, rest.takeWhile (!fits ·)⟩

def encode (encoding : Encoding) (t : Text) : Except EncodeError Bytes :=
  match encoding.unencodable? t with
  | some e => .error e
  | none =>
    match encoding with
    | .utf8 => .ok (Utf8.encode t)
    | .latin1 | .ascii => .ok (t.map fun c => UInt8.ofNat c.toNat)

/-! ## Reading -/

/-- Decodes the bytes of one block, with what was carried into it. -/
def decodeBlock (encoding : Encoding) (bytes : Bytes) : Text × Utf8.Ending :=
  let plain (b : UInt8) : Char := Char.ofNat b.toNat
  match encoding with
  | .utf8 => Utf8.decode bytes
  | .latin1 => (bytes.map plain, .complete)
  | .ascii =>
    let good := bytes.takeWhile (·.toNat < encoding.limit)
    match bytes.drop good.length with
    | [] => (good.map plain, .complete)
    | b :: _ => (good.map plain, .bad good.length [b] .notInRange)

end Reindent.Encoding
