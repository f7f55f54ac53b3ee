import LoginThrottle.Compression.Brotli
import LoginThrottle.Compression.Deflate
import LoginThrottle.Compression.Zstandard
import LoginThrottle.Text.Ascii
import LoginThrottle.Text.Blank

/-!
The codings in which a content may claim to be compressed.
-/

set_option autoImplicit false
set_option relaxedAutoImplicit false

namespace LoginThrottle.Compression

inductive Coding
  | gzip
  | deflate
  | brotli
  | zstandard
  deriving DecidableEq, Repr

namespace Coding

def all : List Coding :=
  [gzip, deflate, brotli, zstandard]

def name : Coding → String
  | gzip => "gzip"
  | deflate => "deflate"
  | brotli => "br"
  | zstandard => "zstd"

/-- The coding of a name, in any ASCII case. -/
def ofName? (text : List Char) : Option Coding :=
  all.find? fun coding ↦ Text.asciiSame (Text.trim text) coding.name.toList

/-- What the bytes of a text expand to. No text begins as `gzip` does, not even one without
characters. -/
def expand? (coding : Coding) (text : List UInt8) : Option (List UInt8) :=
  match coding with
  | gzip => none
  | deflate => Deflate.expander.expand text
  | brotli => Brotli.expander.expand text
  | zstandard => Zstandard.expander.expand text

end Coding

end LoginThrottle.Compression
