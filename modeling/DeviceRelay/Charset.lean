import DeviceRelay.Charset.Utf8
import DeviceRelay.Charset.Utf16
import DeviceRelay.Charset.SingleByte
import DeviceRelay.Text.Loose

/-!
# Charsets

A connector names the charset of its bodies in free text. `Charset.ofName?` finds the charset that a
name means, whatever the case and the punctuation; `decode` and `encode` go between octets and
characters. A name is looked for by its octets, up to the first zero, so `checkName` lets no torn name pass, and none
that holds the character zero.

    name ──ofName?──▶ Charset        Bytes ──decode──▶ List Char ──encode──▶ Bytes

The five charsets of Unicode encode every text; the other three refuse characters that they lack.
-/

namespace DeviceRelay

/-- The charsets that a body may be in. -/
inductive Charset where
  | utf8
  /-- UTF-8 with an optional mark in front, written with one. -/
  | utf8Marked
  /-- UTF-16 in the order that a mark names, written with a mark, little end first. -/
  | utf16
  | utf16le
  | utf16be
  | latin1
  | ascii
  | windows1252
  deriving Repr, DecidableEq

namespace Charset

/-- Whether a mark belongs to a word of a charset's name: letters, digits and dots of ASCII do. -/
def belongs (c : Char) : Bool := c.isAlphanum || c == '.'

/-- Words in lower case, with one underscore between two of them and none behind the last. -/
def canonicalChars : List Char → List Char
  | [] => []
  | c :: rest =>
    if belongs c then c.toLower :: canonicalChars rest
    else match rest with
      | [] => []
      | d :: _ => if belongs d then '_' :: canonicalChars rest else canonicalChars rest

/-- The canonical form of a charset's name: letters in lower case, and each run of other marks
between two of its words as one underscore. -/
def canonicalName (name : String) : String :=
  String.ofList (canonicalChars (name.toList.dropWhile fun c => !belongs c))

/-- The canonical form of a charset's name with underscores for dots. -/
def undotted (name : String) : String :=
  String.ofList ((canonicalName name).toList.map fun c => if c == '.' then '_' else c)

/-- Whether a name means what has one main name and others: the main name is taken as it is, the others
also with dots for underscores. -/
def means (main : String) (others : List String) (name : String) : Bool :=
  canonicalName name == main || others.contains (canonicalName name) || others.contains (undotted name)

/-- The canonical names of each charset: the main one, and the others. -/
def names : List (Charset × String × List String) :=
  [(.utf8, "utf_8", ["utf8", "utf", "u8", "utf8_ucs2", "utf8_ucs4", "cp65001"]),
   (.utf8Marked, "utf_8_sig", []),
   (.utf16, "utf_16", ["utf16", "u16"]),
   (.utf16le, "utf_16_le", ["utf_16le", "unicodelittleunmarked"]),
   (.utf16be, "utf_16_be", ["utf_16be", "unicodebigunmarked"]),
   (.latin1, "latin_1", ["latin1", "latin", "l1", "iso_8859_1", "iso8859_1", "iso8859", "8859",
     "iso_8859_1_1987", "iso_ir_100", "cp819", "ibm819", "csisolatin1"]),
   (.ascii, "ascii", ["us_ascii", "us", "646", "ansi_x3.4_1968", "ansi_x3_4_1968",
     "ansi_x3.4_1986", "cp367", "csascii", "ibm367", "iso646_us", "iso_646.irv_1991", "iso_ir_6"]),
   (.windows1252, "cp1252", ["windows_1252", "1252"])]

/-- The charset that a name means. -/
def ofName? : LooseText → Option Charset
  | .text name => (names.find? fun entry => means entry.2.1 entry.2.2 name).map (·.1)
  | .torn _ => none

/-- A name that can be looked for, known or not. -/
def checkName : LooseText → Except NameFault String
  | .torn t => .error (.surrogates (CodePoint.firstSurrogate + t.first) t.position (t.position + t.more))
  | .text name => if name.toList.contains '\x00' then .error .zero else .ok name

/-- The canonical names of transformations between octets, or between texts. They have names like
charsets, but there is no text on the one side and octets on the other. -/
def transformations : List (String × List String) :=
  [("base64_codec", ["base64", "base_64"]), ("bz2_codec", ["bz2"]), ("hex_codec", ["hex"]),
   ("quopri_codec", ["quopri", "quoted_printable", "quotedprintable"]), ("rot_13", ["rot13"]),
   ("uu_codec", ["uu"]), ("zlib_codec", ["zip", "zlib"])]

/-- Whether the name means a transformation. -/
def isTransformation (name : String) : Bool :=
  transformations.any fun entry => means entry.1 entry.2 name

/-- The characters that the octets spell. -/
def decode : Charset → Bytes → Except DecodeFault (List Char)
  | .utf8, b => Utf8.decode b
  | .utf8Marked, b => Utf8.decode (Utf8.dropMark b)
  | .utf16, b => Utf16.decodeMarked b
  | .utf16le, b => Utf16.decodeFrom .little 0 b
  | .utf16be, b => Utf16.decodeFrom .big 0 b
  | .latin1, b => SingleByte.decodeFrom SingleByte.latin1 0 b
  | .ascii, b => SingleByte.decodeFrom SingleByte.ascii 0 b
  | .windows1252, b => SingleByte.decodeFrom SingleByte.windows1252 0 b

/-- The octets of the characters. -/
def encode : Charset → List Char → Except EncodeFault Bytes
  | .utf8, cs => .ok (Utf8.encode cs)
  | .utf8Marked, cs => .ok (Utf8.mark ++ Utf8.encode cs)
  | .utf16, cs => .ok (Utf16.encodeMarked cs)
  | .utf16le, cs => .ok (Utf16.encode .little cs)
  | .utf16be, cs => .ok (Utf16.encode .big cs)
  | .latin1, cs => SingleByte.encodeFrom SingleByte.latin1 0 cs
  | .ascii, cs => SingleByte.encodeFrom SingleByte.ascii 0 cs
  | .windows1252, cs => SingleByte.encodeFrom SingleByte.windows1252 0 cs

/-- Whether the charset has octets for every text. -/
def isUnicode : Charset → Bool
  | .utf8 | .utf8Marked | .utf16 | .utf16le | .utf16be => true
  | .latin1 | .ascii | .windows1252 => false

/-- The Unicode charsets encode every text. -/
theorem encode_isOk_of_isUnicode {c : Charset} (h : c.isUnicode = true) (cs : List Char) :
    ∃ b, c.encode cs = .ok b := by
  cases c <;> first | exact ⟨_, rfl⟩ | cases h

end Charset

end DeviceRelay
