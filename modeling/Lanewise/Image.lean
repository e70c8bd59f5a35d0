import Lanewise.Assembly
import Lanewise.Proofs.Zstd.Stored
import Lanewise.Text.Path

/-!
# Program images

An image is a header of 48 bytes and a payload. The header holds a mark, the version, flags, the
entry, the number of words, and the digest of the encoded words. The payload is the encoded words,
compressed if a flag says so. How well a payload is compressed is left open: whatever does it, the
payload has to come back.

## Main definitions

* `Image.Compressor`: what compresses payloads.
* `Image`, `Image.encode`, `Image.load`: images and their bytes.
* `Image.parse`: an image or a program text.
* `Image.loadFile`: the image in a file, by the extension of its name.
-/

namespace Lanewise

/-- A program, where it starts, and whether it is kept compressed. -/
structure Image where
  program : Program
  entry : Int
  compressed : Bool := false
deriving DecidableEq, Repr, Inhabited

namespace Image

/-- The greatest size of an image. -/
def maxSize : Nat := 16 * 1024 * 1024

/-- The greatest number of words of a program in an image. -/
def maxWords : Nat := 4 * 1024 * 1024

/-- The size of the header. -/
def headerSize : Nat := 48

/-- The mark at the front of an image. -/
def mark : List UInt8 := "LVMI".toUTF8.toList

/-- Why there is no image. -/
inductive Error
  /-- The image to be written has no valid entry. -/
  | program (e : Program.Error)
  | tooManyWords (n : Nat)
  | tooLarge (bytes : Nat)
  | short (bytes : Nat)
  | badMark
  | version (n : Nat)
  | flags (n : Nat)
  | payloadTooLarge (limit : Int)
  | payloadCorrupt
  | payloadSize (bytes words : Nat)
  | digest
  /-- The image read holds no usable program. -/
  | unusable (e : Program.Error)
deriving DecidableEq, Repr

/-- The wording of an error. -/
def Error.message : Error → String
  | program e => e.message
  | tooManyWords n => s!"program image too large: {n} words"
  | tooLarge n => s!"program image too large: {n} bytes"
  | short n => s!"invalid program image: {n} bytes is shorter than the header"
  | badMark => "invalid program image: bad magic"
  | version n => s!"unsupported image version: {n}"
  | flags n => "invalid program image: unknown flags 0x" ++ String.ofList (Text.hexDigits 4 n)
  | payloadTooLarge n =>
    s!"program image too large: decompressed payload exceeds {n} bytes"
  | payloadCorrupt => "invalid program image: decompress"
  | payloadSize b w => s!"invalid program image: payload has {b} bytes, header declares {w} words"
  | digest => "image checksum mismatch"
  | unusable e => "invalid program image: " ++ e.message

/-- The content address of the program. -/
def id (img : Image) : ProgramId :=
  img.program.id

/-- Decompresses a payload of limited size. -/
def decompress (data : ByteArray) (limit : Int) : Except Error ByteArray :=
  match Zstd.decompress data limit.toNat with
  | .ok out => .ok out
  | .error .tooLarge => .error (.payloadTooLarge limit)
  | .error .corrupt => .error .payloadCorrupt

/-- What compresses payloads. A payload that fits into an image comes back. -/
structure Compressor where
  compress : ByteArray → ByteArray
  decompress_compress (raw : ByteArray) :
    raw.size ≤ 4 * maxWords → decompress (compress raw) (4 * maxWords) = .ok raw

/-- Payloads in stored blocks, which are longer than the payload. -/
def Compressor.stored : Compressor where
  compress := Zstd.store
  decompress_compress raw hsize := by
    have hmax : maxWords = 4194304 := rfl
    have hlimit : (4 * (maxWords : Int)).toNat = 16777216 := rfl
    have hbytes : Nat.pow 256 4 = 4294967296 := rfl
    have hwindow : Zstd.minWindow = 1024 := rfl
    rw [decompress, hlimit, Zstd.decompress_store (by omega) (by omega) (by omega)]

instance : Inhabited Compressor := ⟨.stored⟩

/-- The header of an image. -/
def header (flags entry words : Nat) (digest : ByteArray) : ByteArray :=
  let h : ByteArray := ⟨mark.toArray⟩
  let h := Zstd.pushNumber h 1 2
  let h := Zstd.pushNumber h flags 2
  let h := Zstd.pushNumber h entry 4
  let h := Zstd.pushNumber h words 4
  h ++ digest

/-- The bytes of an image, with the payload compressed or not. -/
def encode (img : Image) (z : Compressor) (compress : Bool) : Except Error ByteArray :=
  match img.program.checkEntry img.entry with
  | .error e => .error (.program e)
  | .ok () =>
    if maxWords < img.program.size then .error (.tooManyWords img.program.size)
    else
      let raw := img.program.encode
      let payload := if compress then z.compress raw else raw
      let out := header (if compress then 1 else 0) img.entry.toNat img.program.size
        (Blake3.digest raw) ++ payload
      if maxSize < out.size then .error (.tooLarge out.size) else .ok out

/-- The little-endian number of `n` bytes at an offset. -/
def numberAt (data : ByteArray) (i n : Nat) : Nat :=
  Zstd.numberAt data data.size i n

/-- Whether data begins with the mark of an image. -/
def isImage (data : ByteArray) : Bool :=
  (data.extract 0 4).toList == mark

/-- The image with given bytes. -/
def load (data : ByteArray) : Except Error Image := do
  if maxSize < data.size then throw (.tooLarge data.size)
  if data.size < headerSize then throw (.short data.size)
  if !isImage data then throw .badMark
  let version := numberAt data 4 2
  if version ≠ 1 then throw (.version version)
  let flags := numberAt data 6 2
  if 1 < flags then throw (.flags flags)
  let entry := numberAt data 8 4
  let count := numberAt data 12 4
  if maxWords < count then throw (.tooManyWords count)
  let payload := data.extract headerSize data.size
  let raw ← if flags = 1 then decompress payload (4 * maxWords) else pure payload
  if raw.size ≠ 4 * count then throw (.payloadSize raw.size count)
  if (Blake3.digest raw).data ≠ (data.extract 16 48).data then throw .digest
  match Program.decode raw with
  | .error e => throw (.unusable e)
  | .ok program =>
    match program.checkEntry entry with
    | .error e => throw (.unusable e)
    | .ok () => return { program, entry, compressed := flags = 1 }

/-! ### Texts and files -/

/-- Why data or a file holds no image. -/
inductive FileError
  | image (e : Error)
  | assembly (e : Assembly.Error)
  | unknownExtension (ext : String)
  /-- The file does not exist. -/
  | missing (path : String)
  | fileTooLarge (path : String) (bytes : Nat)
  | assemblyIn (path : String) (e : Assembly.Error)
deriving DecidableEq, Repr

/-- The wording of an error. -/
def FileError.message : FileError → String
  | image e => e.message
  | assembly e => e.message
  | unknownExtension ext => "unknown program file extension: " ++ Text.quote ext
  | missing path => "stat " ++ path ++ ": no such file or directory"
  | fileTooLarge path n => "program image too large: " ++ path ++ s!" is {n} bytes"
  | assemblyIn path e => path ++ ": " ++ e.message

/-- The image of a program text. -/
def ofExecutable (x : Executable) : Image :=
  { program := x.program, entry := x.entry }

/-- Data that begins with the mark is an image, all other data is a program text. -/
def parse (data : ByteArray) : Except FileError Image :=
  if isImage data then
    match load data with
    | .ok img => .ok img
    | .error e => .error (.image e)
  else
    match assemble data.toList with
    | .ok x => .ok (ofExecutable x)
    | .error e => .error (.assembly e)

/-- The image in a file with the given path and contents; a file that does not exist has none. -/
def loadFile (path : String) (contents : Option ByteArray) : Except FileError Image :=
  let ext := Path.extension path
  if ext ≠ ".lvm" ∧ ext ≠ ".lasm" then .error (.unknownExtension ext)
  else match contents with
    | none => .error (.missing path)
    | some data =>
      if maxSize < data.size then .error (.fileTooLarge path data.size)
      else if ext = ".lvm" then
        match load data with
        | .ok img => .ok img
        | .error e => .error (.image e)
      else
        match assemble data.toList with
        | .ok x => .ok (ofExecutable x)
        | .error e => .error (.assemblyIn path e)

end Image

end Lanewise
