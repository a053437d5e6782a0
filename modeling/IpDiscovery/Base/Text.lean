import Mathlib

/-! String operations of the standard library that the parsers use. -/

namespace IpDiscovery

/-- `char::is_whitespace`, the `White_Space` property. -/
def isWhitespace (char : Char) : Bool :=
  -- The property covers these code points and ranges.
  let code := char.toNat
  0x09 ≤ code && code ≤ 0x0D || code = 0x20 || code = 0x85 || code = 0xA0 || code = 0x1680 ||
    0x2000 ≤ code && code ≤ 0x200A || code = 0x2028 || code = 0x2029 || code = 0x202F ||
    code = 0x205F || code = 0x3000

/-- `str::split_whitespace`. -/
def splitWhitespace (text : String) : List String :=
  -- Neighbouring separators leave empty pieces, which are dropped.
  ((text.toList.splitOnP isWhitespace).filter (!·.isEmpty)).map String.ofList

/-- `str::trim`. -/
def trim (text : String) : String :=
  -- The end is trimmed as the start of the reversed text.
  String.ofList ((text.toList.dropWhile isWhitespace).reverse.dropWhile isWhitespace).reverse

/-- A line without the carriage return that may stand before its line feed. -/
def stripCarriageReturn (line : List Char) : List Char :=
  if line.getLast? = some '\r' then line.dropLast else line

/-- `str::lines`, for which a final line feed ends the last line instead of opening another. -/
def lines (text : String) : List String :=
  -- Only the last piece may be missing its line feed.
  let parts := text.toList.splitOnP (· == '\n')
  let last := parts.getLast?.getD []
  (parts.dropLast.map stripCarriageReturn ++ if last = [] then [] else [last]).map String.ofList

/-- `str::trim_end_matches` at a character. -/
def trimEndMatches (char : Char) (text : String) : String :=
  String.ofList (text.toList.rdropWhile (· == char))

/-- `str::split` at a character, which cuts an empty text into one empty piece. -/
def splitChar (char : Char) (text : String) : List String :=
  (text.toList.splitOn char).map String.ofList

/-- `str::strip_prefix`. -/
def stripPrefix (opening text : String) : Option String :=
  if opening.toList.isPrefixOf text.toList then
    some (String.ofList (text.toList.drop opening.toList.length))
  else none

end IpDiscovery
