import Lanewise.Image
import Lanewise.Text.Base64

/-!
# Program data in requests

A request carries a program as a text, or as an image in base 58 or base 64, the latter possibly
compressed once more.

## Main definitions

* `Encoding`, `Encoding.parse`: how a program is carried.
* `Encoding.decode`, `Encoding.encode`: image bytes and their text.
-/

namespace Lanewise

/-- How a program is carried. -/
inductive Encoding
  | source
  | base58
  | base64
  | base64Zstd
deriving DecidableEq, Repr, Inhabited

namespace Encoding

/-- The name of an encoding. -/
def name : Encoding → String
  | source => "lasm"
  | base58 => "base58"
  | base64 => "base64"
  | base64Zstd => "base64+zstd"

/-- The encoding with exactly the given name. -/
def ofName? (s : String) : Option Encoding :=
  [source, base58, base64, base64Zstd].find? (·.name == s)

/-- Why data has no bytes or bytes no data. -/
inductive Error
  | unknown (name : String)
  | unsupported (name : String)
  | base58 (e : Base58.Error)
  | base64
  | base64Inside
  | image (e : Image.Error)
deriving DecidableEq, Repr

/-- The wording of an error. -/
def Error.message : Error → String
  | unknown s => "unknown encoding " ++ Text.quote s
  | unsupported s => "unsupported encoding " ++ Text.quote s
  | base58 e => e.message
  | base64 => "illegal base64 data"
  | base64Inside => "base64 decode failed: illegal base64 data"
  | image e => e.message

/-- The encoding with a given name in any case; no name means a program text. -/
def parse (s : String) : Except Error Encoding :=
  if s.isEmpty then .ok source
  else match ofName? (s.map Char.toLower) with
    | some e => .ok e
    | none => .error (.unknown s)

/-- The bytes of data whose encoding has the given name. Program texts are no bytes. -/
def decode (data encoding : String) : Except Error ByteArray :=
  match ofName? encoding with
  | some .base58 =>
    match Base58.decode data with
    | .ok bs => .ok ⟨bs.toArray⟩
    | .error e => .error (.base58 e)
  | some .base64 =>
    match Base64.decode? data with
    | some bs => .ok bs
    | none => .error .base64
  | some .base64Zstd =>
    match Base64.decode? data with
    | none => .error .base64Inside
    | some bs =>
      match Image.decompress bs Image.maxSize with
      | .ok out => .ok out
      | .error e => .error (.image e)
  | _ => .error (.unsupported encoding)

/-- The data of bytes in the encoding with the given name. -/
def encode (z : Image.Compressor) (bytes : ByteArray) (encoding : String) : Except Error String :=
  match ofName? encoding with
  | some .base58 => .ok (Base58.encode bytes.toList)
  | some .base64 => .ok (Base64.encode bytes.toList)
  | some .base64Zstd => .ok (Base64.encode (z.compress bytes).toList)
  | _ => .error (.unsupported encoding)

end Encoding

end Lanewise
