import Harvest.Text.Charset.Halves
import Harvest.Text.Charset.Hangul
import Harvest.Text.Charset.Hanzi
import Harvest.Text.Charset.Kanji
import Harvest.Text.Charset.Traditional
import Harvest.Text.Blank
import Harvest.Text.Utf8

/-!
Character sets of documents, the labels they go by, and the text of bytes in each of them. Strict
reading refuses what lenient reading marks with replacement characters.
-/

namespace Harvest.Text

inductive Charset where
  | utf8
  | utf16 (bigEndian : Bool)
  /-- One byte per character, the lower half as in ASCII. -/
  | half (name : String)
  | shiftJis
  | eucJp
  | gbk
  | eucKr
  | big5
  deriving DecidableEq

namespace Charset

/-- A character set followed by its labels. -/
def labels : List (Charset × String) :=
  [(utf8, "unicode-1-1-utf-8 unicode11utf8 unicode20utf8 utf-8 utf8 x-unicode20utf8"),
    (utf16 false,
      "csunicode iso-10646-ucs-2 ucs-2 unicode unicodefeff utf-16 utf-16le"),
    (utf16 true, "unicodefffe utf-16be"),
    (half "ibm866", "866 cp866 csibm866 ibm866"),
    (half "iso-8859-2",
      "csisolatin2 iso-8859-2 iso-ir-101 iso8859-2 iso88592 iso_8859-2 iso_8859-2:1987 l2 latin2"),
    (half "iso-8859-3",
      "csisolatin3 iso-8859-3 iso-ir-109 iso8859-3 iso88593 iso_8859-3 iso_8859-3:1988 l3 latin3"),
    (half "iso-8859-4",
      "csisolatin4 iso-8859-4 iso-ir-110 iso8859-4 iso88594 iso_8859-4 iso_8859-4:1988 l4 latin4"),
    (half "iso-8859-5",
      "csisolatincyrillic cyrillic iso-8859-5 iso-ir-144 iso8859-5 iso88595 iso_8859-5"),
    (half "iso-8859-5", "iso_8859-5:1988"),
    (half "iso-8859-6",
      "arabic asmo-708 csiso88596e csiso88596i csisolatinarabic ecma-114 iso-8859-6 iso-8859-6-e"),
    (half "iso-8859-6",
      "iso-8859-6-i iso-ir-127 iso8859-6 iso88596 iso_8859-6 iso_8859-6:1987"),
    (half "iso-8859-7",
      "csisolatingreek ecma-118 elot_928 greek greek8 iso-8859-7 iso-ir-126 iso8859-7 iso88597"),
    (half "iso-8859-7", "iso_8859-7 iso_8859-7:1987 sun_eu_greek"),
    (half "iso-8859-8",
      "csiso88598e csisolatinhebrew hebrew iso-8859-8 iso-8859-8-e iso-ir-138 iso8859-8 iso88598"),
    (half "iso-8859-8",
      "iso_8859-8 iso_8859-8:1988 visual csiso88598i iso-8859-8-i logical"),
    (half "iso-8859-10",
      "csisolatin6 iso-8859-10 iso-ir-157 iso8859-10 iso885910 l6 latin6"),
    (half "iso-8859-13", "iso-8859-13 iso8859-13 iso885913"),
    (half "iso-8859-14", "iso-8859-14 iso8859-14 iso885914"),
    (half "iso-8859-15",
      "csisolatin9 iso-8859-15 iso8859-15 iso885915 iso_8859-15 l9"),
    (half "iso-8859-16", "iso-8859-16"),
    (half "koi8-r", "cskoi8r koi koi8 koi8-r koi8_r"),
    (half "koi8-u", "koi8-ru koi8-u"),
    (half "macintosh", "csmacintosh mac macintosh x-mac-roman"),
    (half "windows-874", "dos-874 iso-8859-11 iso8859-11 iso885911 tis-620 windows-874"),
    (half "windows-1250", "cp1250 windows-1250 x-cp1250"),
    (half "windows-1251", "cp1251 windows-1251 x-cp1251"),
    (half "windows-1252",
      "ansi_x3.4-1968 ascii cp1252 cp819 csisolatin1 ibm819 iso-8859-1 iso-ir-100 iso8859-1"),
    (half "windows-1252",
      "iso88591 iso_8859-1 iso_8859-1:1987 l1 latin1 us-ascii windows-1252 x-cp1252"),
    (half "windows-1253", "cp1253 windows-1253 x-cp1253"),
    (half "windows-1254",
      "cp1254 csisolatin5 iso-8859-9 iso-ir-148 iso8859-9 iso88599 iso_8859-9 iso_8859-9:1989"),
    (half "windows-1254", "l5 latin5 windows-1254 x-cp1254"),
    (half "windows-1255", "cp1255 windows-1255 x-cp1255"),
    (half "windows-1256", "cp1256 windows-1256 x-cp1256"),
    (half "windows-1257", "cp1257 windows-1257 x-cp1257"),
    (half "windows-1258", "cp1258 windows-1258 x-cp1258"),
    (half "x-mac-cyrillic", "x-mac-cyrillic x-mac-ukrainian"),
    (shiftJis, "csshiftjis ms932 ms_kanji shift-jis shift_jis sjis windows-31j x-sjis"),
    (eucJp, "cseucpkdfmtjapanese euc-jp x-euc-jp"),
    (gbk, "chinese csgb2312 csiso58gb231280 gb2312 gb_2312 gb_2312-80 gbk iso-ir-58 x-gbk gb18030"),
    (eucKr,
      "cseuckr csksc56011987 euc-kr iso-ir-149 korean ks_c_5601-1987 ks_c_5601-1989 ksc5601"),
    (eucKr, "ksc_5601 windows-949"),
    (big5, "big5 big5-hkscs cn-big5 csbig5 x-x-big5")]

private def isLabelBlank (c : Char) : Bool :=
  c == ' ' || c == '\t' || c == '\n' || c == '\r' || c == Char.ofNat 12

/-- The character set with a label, in any letter case and between blanks. -/
def ofLabel? (label : List Char) : Option Charset :=
  let bare := (label.dropWhile isLabelBlank).reverse.dropWhile isLabelBlank |>.reverse
  let name := String.ofList (bare.map lowerAscii)
  (labels.find? fun row => (row.2.splitOn " ").contains name).map Prod.fst

private def halfTables : List (String × Table) :=
  halves.map fun row => (row.1, Table.ofLines row.2)

private def kanji : Array (Array Char) := (kanjiRows.map fun row => row.toList.toArray).toArray

private def hanzi : Array (Array Char) := (hanziRows.map fun row => row.toList.toArray).toArray

private def hangul : Array (Array Char) := (hangulRows.map fun row => row.toList.toArray).toArray

private def traditional : Array (Array Char) :=
  (traditionalRows.map fun row => row.toList.toArray).toArray

private def cell (rows : Array (Array Char)) (row column : Nat) : Option Char := do
  let c ← (← rows[row]?)[column]?
  if c == Utf8.replacement then none else some c

/-- The character of a byte above the lower half. -/
private def halfChar (table : Table) (b : Nat) : Option Char := do
  let row ← table.covering b
  let first ← row.numbers.head?
  some (Char.ofNat (first + (b - row.start)))

private def kanjiChar (lead trail : Nat) : Option Char :=
  if lead == 0xA0 || 0xFC < lead || trail < 0x40 || trail == 0x7F || 0xFC < trail then none
  else cell kanji (if lead < 0xA0 then lead - 0x81 else lead - 0xC1)
    (if trail < 0x7F then trail - 0x40 else trail - 0x41)

/-- Two rows of 94 characters share one row of the table. -/
private def kanjiPlane (lead trail : Nat) : Option Char :=
  if lead == 0x8E then
    if 0xA1 ≤ trail && trail ≤ 0xDF then some (Char.ofNat (0xFF61 + (trail - 0xA1))) else none
  else if lead < 0xA1 || trail < 0xA1 || trail == 0xFF then none
  else
    let place := (lead - 0xA1) * 94 + (trail - 0xA1)
    cell kanji (place / 188) (place % 188)

private def hanziChar (lead trail : Nat) : Option Char :=
  if trail < 0x40 || trail == 0x7F || trail == 0xFF then none
  else cell hanzi (lead - 0x81) (if trail < 0x7F then trail - 0x40 else trail - 0x41)

private def hangulChar (lead trail : Nat) : Option Char :=
  if trail < 0x41 || trail == 0xFF then none else cell hangul (lead - 0x81) (trail - 0x41)

private def traditionalChar (lead trail : Nat) : Option Char :=
  if lead < 0x87 || trail < 0x40 || trail == 0xFF || (0x7F ≤ trail && trail < 0xA1) then none
  else cell traditional (lead - 0x87) (if trail < 0x7F then trail - 0x40 else trail - 0x62)

/-- A character for each byte or pair of bytes, or nothing for a broken piece. A broken pair gives its
second byte back if that is an ASCII character. -/
private def pairs (single : Nat → Option Char) (double : Nat → Nat → Option Char) :
    List UInt8 → List (Option Char)
  | [] => []
  | [b] =>
    if b < 0x80 then [some (Char.ofNat b.toNat)] else [single b.toNat]
  | b :: t :: rest =>
    if b < 0x80 then some (Char.ofNat b.toNat) :: pairs single double (t :: rest)
    else match single b.toNat with
      | some c => some c :: pairs single double (t :: rest)
      | none =>
        if b == 0x80 || b == 0xFF then none :: pairs single double (t :: rest)
        else match double b.toNat t.toNat with
          | some c => some c :: pairs single double rest
          | none =>
            none :: (if t < 0x80 then pairs single double (t :: rest) else pairs single double rest)

private def isHigh (unit : Nat) : Bool := 0xD800 ≤ unit && unit < 0xDC00

private def isLow (unit : Nat) : Bool := 0xDC00 ≤ unit && unit < 0xE000

private def ofUnits : List Nat → List (Option Char)
  | [] => []
  | [u] => [if isHigh u || isLow u then none else some (Char.ofNat u)]
  | u :: v :: rest =>
    if isHigh u && isLow v then
      some (Char.ofNat (0x10000 + (u - 0xD800) * 0x400 + (v - 0xDC00))) :: ofUnits rest
    else (if isHigh u || isLow u then none else some (Char.ofNat u)) :: ofUnits (v :: rest)

private def units (bigEndian : Bool) : List UInt8 → List Nat × Bool
  | [] => ([], true)
  | [_] => ([], false)
  | a :: b :: rest =>
    let (later, isWhole) := units bigEndian rest
    ((if bigEndian then a.toNat * 256 + b.toNat else b.toNat * 256 + a.toNat) :: later, isWhole)

/-- The characters of bytes, with nothing for each broken piece. -/
private def pieces : Charset → List UInt8 → List (Option Char)
  | utf8, bytes => (Utf8.decodeLossy bytes).map some
  | utf16 bigEndian, bytes =>
    let (list, isWhole) := units bigEndian bytes
    ofUnits list ++ (if isWhole then [] else [none])
  | half name, bytes =>
    match halfTables.find? fun row => row.1 == name with
    | some (_, table) =>
      bytes.map fun b => if b < 0x80 then some (Char.ofNat b.toNat) else halfChar table b.toNat
    | none => bytes.map fun b => some (Char.ofNat b.toNat)
  | shiftJis, bytes =>
    pairs (fun b =>
      if 0xA1 ≤ b && b ≤ 0xDF then some (Char.ofNat (0xFF61 + (b - 0xA1)))
      else if b == 0x80 then some (Char.ofNat 0x80) else none) kanjiChar bytes
  | eucJp, bytes => pairs (fun _ => none) kanjiPlane bytes
  | gbk, bytes => pairs (fun b => if b == 0x80 then some '€' else none) hanziChar bytes
  | eucKr, bytes => pairs (fun _ => none) hangulChar bytes
  | big5, bytes => pairs (fun _ => none) traditionalChar bytes

/-- The text of bytes without a broken piece. -/
def decode? (set : Charset) (bytes : List UInt8) : Option (List Char) :=
  if set = utf8 then Utf8.decode? bytes else (set.pieces bytes).mapM id

/-- The text of any bytes, with a replacement character for each broken piece. -/
def decodeLossy (set : Charset) (bytes : List UInt8) : List Char :=
  if set = utf8 then Utf8.decodeLossy bytes
  else (set.pieces bytes).map fun c => c.getD Utf8.replacement

end Charset

end Harvest.Text
