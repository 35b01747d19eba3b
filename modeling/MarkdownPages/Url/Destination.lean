import MarkdownPages.Url.Parts
import MarkdownPages.Url.Percent
import MarkdownPages.Url.Punycode

/-!
# Link destinations

How the destination of a Markdown link is written into the document, how it is shown, and which
destinations are refused.
-/

namespace MarkdownPages.Url

open Text

def isLabelStop (c : Char) : Bool :=
  c == '.' || c.toNat == 0x3002 || c.toNat == 0xFF0E || c.toNat == 0xFF61

def encodeLabel (label : Text) : Text :=
  if label.any (fun c => 0x7E < c.toNat) then "xn--".toList ++ Punycode.encode label else label

def decodeLabel? (label : Text) : Option Text :=
  match "xn--".toList.isPrefixOf? label with
  | some code => Punycode.decode? (lower code)
  | none => some label

def encodeHost (host : Text) : Text := ['.'].intercalate ((host.splitOnP isLabelStop).map encodeLabel)

def decodeHost (host : Text) : Text :=
  (((host.splitOnP isLabelStop).mapM decodeLabel?).map (List.intercalate ['.'])).getD host

def hasNamedHost (p : Parts) : Bool :=
  !p.host.isEmpty &&
    (p.scheme.isEmpty || ["http:", "https:", "mailto:"].any (·.toList == p.scheme))

def normalize (url : Text) : Text :=
  let p := Parts.ofText url
  percentEncode { p with host := if hasNamedHost p then encodeHost p.host else p.host }.toText

def display (url : Text) : Text :=
  let p := Parts.ofText url
  percentDecode { p with host := if hasNamedHost p then decodeHost p.host else p.host }.toText

def refusedSchemes : List String := ["vbscript:", "javascript:", "file:", "data:"]

def acceptedData : List String :=
  ["data:image/gif;", "data:image/png;", "data:image/jpeg;", "data:image/webp;"]

def isAccepted (url : Text) : Bool :=
  let url := lower (trim url)
  !refusedSchemes.any (fun scheme => scheme.toList.isPrefixOf url) ||
    acceptedData.any (fun data => data.toList.isPrefixOf url)

end MarkdownPages.Url
