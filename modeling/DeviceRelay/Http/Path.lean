import DeviceRelay.Bytes
import DeviceRelay.Charset.Utf8
import DeviceRelay.Text.Segments

/-!
# Paths of requests

The target of a request is a path, perhaps behind a scheme and an authority and perhaps with a query behind a
question mark, all of which are passed over. In the path an octet may be written as a percent sign and two
hexadecimal digits, and segments of dots go along it or back up.
-/

namespace DeviceRelay.Http.Path

/-- The octet that two digits spell. -/
def escaped? (high low : UInt8) : Option UInt8 := do
  let h ← Hex.value? (Char.ofNat high.toNat)
  let l ← Hex.value? (Char.ofNat low.toNat)
  some (UInt8.ofNat (h * 16 + l))

/-- The octets of a path: escaped octets are those that the digits say. A percent sign without two digits
stands for itself. -/
def octets : Bytes → Bytes
  | 0x25 :: high :: low :: rest =>
    match escaped? high low with
    | some b => b :: octets rest
    | none => 0x25 :: octets (high :: low :: rest)
  | b :: rest => b :: octets rest
  | [] => []

/-- The characters of a path with escaped octets, which spell UTF-8; what breaks it becomes a replacement
character. -/
def unescape (path : List Char) : List Char :=
  Charset.Utf8.decodeLossy (octets (Charset.Utf8.encode path))

/-! ### The path of a target -/

/-- Whether a character ends the path of a target. -/
def isEnd (c : Char) : Bool := c == '?' || c == '#'

/-- Whether a character may stand in the name of a scheme. -/
def inScheme (c : Char) : Bool := c.isAlphanum || c == '+' || c == '.' || c == '-'

/-- What follows the scheme of a target, if it has one. -/
def afterScheme? (target : List Char) : Option (List Char) :=
  match target.head?.map Char.isAlpha, target.dropWhile inScheme with
  | some true, ':' :: rest => some rest
  | _, _ => none

/-- Cut the authority off, which two slashes announce. -/
def cutAuthority (cs : List Char) : List Char × List Char :=
  match cs with
  | '/' :: '/' :: rest => rest.span fun c => !(c == '/' || isEnd c)
  | cs => ([], cs)

/-- The path of a target as it is written. The path of a target with scheme and authority stands as it is;
any other begins with one slash. -/
def written (target : List Char) : List Char :=
  let scheme := afterScheme? target
  let (authority, rest) := cutAuthority (scheme.getD target)
  let path := rest.takeWhile fun c => !isEnd c
  if scheme.isSome && !authority.isEmpty then path else '/' :: path.dropWhile (· == '/')

/-- Walk along the segments of a path; `walked` are those so far, last first. One dot stays where it is, and
two go one segment up, but not beyond the first. -/
def walk (walked : List (List Char)) : List (List Char) → List (List Char)
  | [] => walked.reverse
  | ['.'] :: rest => walk walked rest
  | ['.', '.'] :: rest => walk (if walked = [[]] then walked else walked.drop 1) rest
  | segment :: rest => walk (segment :: walked) rest

/-- The path without segments of dots. -/
def withoutDots (path : List Char) : List Char :=
  Text.joinChars ['/'] (walk [] (Text.splitChars ['/'] path))

/-- The path of a target: what is escaped is read twice, once for those who send it on and once for those who
receive it. -/
def ofTarget (target : List Char) : List Char :=
  let path := unescape (unescape (withoutDots (written target)))
  if path.isEmpty then ['/'] else path

/-- The path with an escape for each character that would end it. -/
def escaped (path : List Char) : List Char :=
  path.flatMap fun c => if c == '?' then ['%', '3', 'F'] else if c == '#' then ['%', '2', '3'] else [c]

/-- The path as the log shows it: without tabs and line ends. -/
def shown (path : List Char) : String :=
  String.ofList <| (escaped path).filter fun c => !(c == '\t' || c == '\n' || c == '\r')

/-- The path without the slashes at its end. -/
def withoutSlashes (path : List Char) : List Char :=
  (path.reverse.dropWhile fun c => c == '/').reverse

end DeviceRelay.Http.Path
