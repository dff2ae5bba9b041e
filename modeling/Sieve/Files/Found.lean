/-
What is found at a path, and reading it as text. A text is read only from a file,
and only where its bytes are well formed.
-/

namespace Sieve.Files

inductive Found where
  | file (contents : ByteArray)
  | directory
  | missing
  | notDirectory
  | nameTooLong
  | nulInName
  /-- Something that may not be read. -/
  | denied
  /-- Below a directory that may not be searched, so that nothing is seen there. -/
  | hidden

/-- Whether anything is seen at the path. -/
def Found.isThere : Found → Bool
  | .file _ => true
  | .directory => true
  | .denied => true
  | _ => false

/-- Why a text cannot be read. -/
inductive ReadFault where
  | missing
  | isDirectory
  | notDirectory
  | nameTooLong
  | nulInName
  | denied
  | undecodable
deriving DecidableEq, Repr

def ReadFault.message : ReadFault → String
  | .missing => "No such file or directory (os error 2)"
  | .isDirectory => "Is a directory (os error 21)"
  | .notDirectory => "Not a directory (os error 20)"
  | .nameTooLong => "File name too long (os error 36)"
  | .nulInName => "file name contained an unexpected NUL byte"
  | .denied => "Permission denied (os error 13)"
  | .undecodable => "stream did not contain valid UTF-8"

/-- The text that bytes encode. -/
def decode (contents : ByteArray) : Except ReadFault String :=
  match String.fromUTF8? contents with
  | some text => .ok text
  | none => .error .undecodable

/-- The text of a file. -/
def Found.text : Found → Except ReadFault String
  | .file contents => decode contents
  | .directory => .error .isDirectory
  | .missing => .error .missing
  | .notDirectory => .error .notDirectory
  | .nameTooLong => .error .nameTooLong
  | .nulInName => .error .nulInName
  | .denied => .error .denied
  | .hidden => .error .denied

/-- The lines of bytes, each with the line feed at its end. -/
def byteLines : (line : List UInt8) → List UInt8 → List ByteArray
  | [], [] => []
  | line, [] => [⟨line.reverse.toArray⟩]
  | line, byte :: rest =>
    if byte = 10 then ⟨(byte :: line).reverse.toArray⟩ :: byteLines [] rest
    else byteLines (byte :: line) rest

/-- The text of the lines before the first one that is not well formed. -/
def leadingText (contents : ByteArray) : String :=
  String.join (((byteLines [] contents.toList).map String.fromUTF8?).takeWhile Option.isSome
    |>.filterMap id)

end Sieve.Files
