import ResourceGraph.Text.Charset.Escaped
import ResourceGraph.Text.Charset.Shifted
import ResourceGraph.Text.Charset.SingleByteTables
import ResourceGraph.Text.Charset.Switched
import ResourceGraph.Text.Charset.Units

/-!
# Charsets

The charset of a body tells what characters its bytes write.  A charset has a name of its own and
perhaps others; all of them may be written in several ways.
-/

namespace ResourceGraph.Text.Charset

/-- A name that is listed among the charsets and is none. -/
def refused (fault : CharsetFault) : Charset := fun _ => .error fault

/-- The names of the charset with units of two bytes in an order that is to be told. -/
def twoByteNames : String := "utf_16 u16 utf16"

/-- The names of the charset with units of four bytes in an order that is to be told. -/
def fourByteNames : String := "utf_32 u32 utf32"

/-- The charsets other than those with a table of single bytes, with their names, the own one
first. -/
def families : List (String × Charset) := [
  ("utf_8 cp65001 u8 utf utf8 utf8_ucs2 utf8_ucs4", standard),
  ("utf_8_sig", signed),
  (twoByteNames, marked 2),
  (fourByteNames, marked 4),
  ("utf_16_le unicodelittleunmarked utf_16le", ofReader (twoByteReader .littleEndian)),
  ("utf_16_be unicodebigunmarked utf_16be", ofReader (twoByteReader .bigEndian)),
  ("utf_32_le utf_32le", ofReader (fourByteReader .littleEndian)),
  ("utf_32_be utf_32be", ofReader (fourByteReader .bigEndian)),
  ("ascii 646 ansi_x3.4_1968 ansi_x3.4_1986 ansi_x3_4_1968 cp367 csascii ibm367 iso646_us " ++
    "iso_646.irv_1991 iso_ir_6 us us_ascii", ofReader ascii),
  ("shift_jis csshiftjis s_jis shiftjis sjis x_mac_japanese", ofReader shiftedJapanese),
  ("cp932 932 ms932 ms_kanji mskanji", ofReader windowsJapanese),
  ("shift_jisx0213 s_jisx0213 shiftjisx0213 sjisx0213", ofReader (shiftedPlanes true)),
  ("shift_jis_2004 s_jis_2004 shiftjis2004 sjis_2004", ofReader (shiftedPlanes false)),
  ("euc_jp eucjp u_jis ujis", ofReader extendedJapanese),
  ("euc_jisx0213 eucjisx0213", ofReader (extendedPlanes true)),
  ("euc_jis_2004 euc_jis2004 eucjis2004 jisx0213", ofReader (extendedPlanes false)),
  ("gb2312 chinese csiso58gb231280 euc_cn euccn eucgb2312_cn gb2312_1980 gb2312_80 iso_ir_58 " ++
    "x_mac_simp_chinese", ofReader gridChinese),
  ("gbk 936 cp936 ms936", ofReader extendedChinese),
  ("gb18030 gb18030_2000", ofReader completeChinese),
  ("big5 big5_tw csbig5 x_mac_trad_chinese", ofReader traditionalChinese),
  ("cp950 950 ms950", ofReader windowsTraditional),
  ("big5hkscs big5_hkscs hkscs", ofReader hongKong),
  ("euc_kr euckr korean ks_c_5601 ks_c_5601_1987 ks_x_1001 ksc5601 ksx1001 x_mac_korean",
    ofReader gridKorean),
  ("cp949 949 ms949 uhc", ofReader extendedKorean),
  ("johab cp1361 ms1361", ofReader letterKorean),
  ("utf_7 u7 unicode_1_1_utf_7 utf7", shifted),
  ("hz hz_gb hz_gb_2312 hzgb", tildeChinese),
  ("iso2022_jp csiso2022jp iso2022jp iso_2022_jp", switched (CodedSet.japaneseGrids ++ [.roman])),
  ("iso2022_jp_1 iso2022jp_1 iso_2022_jp_1",
    switched (CodedSet.japaneseGrids ++ [.supplement, .roman])),
  ("iso2022_jp_2 iso2022jp_2 iso_2022_jp_2", widelySwitched),
  ("iso2022_jp_2004 iso2022jp_2004 iso_2022_jp_2004",
    switched [.grid 'B' japanese, .firstPlane 'Q' false, .secondPlane]),
  ("iso2022_jp_3 iso2022jp_3 iso_2022_jp_3",
    switched [.grid 'B' japanese, .firstPlane 'O' true, .secondPlane]),
  ("iso2022_jp_ext iso2022jp_ext iso_2022_jp_ext",
    switched (CodedSet.japaneseGrids ++ [.supplement, .roman, .kana])),
  ("iso2022_kr csiso2022kr iso2022kr iso_2022_kr", shiftedKorean),
  ("unicode_escape", ofReader quotedReader),
  ("raw_unicode_escape", ofReader rawReader),
  ("punycode", punycode),
  ("undefined", refused .undefined),
  ("idna", refused .undefined),
  ("base64_codec base64 base_64", refused .packing),
  ("bz2_codec bz2", refused .packing),
  ("hex_codec hex", refused .packing),
  ("quopri_codec quopri quoted_printable quotedprintable", refused .packing),
  ("uu_codec uu", refused .packing),
  ("zlib_codec zip zlib", refused .packing),
  ("rot_13 rot13", refused .cipher)]

/-! ## Names -/

/-- Whether names between spaces have a name among them.  In all but the own name of a charset a
line may be written as a point. -/
def lists (names : String) (name : List Char) : Bool :=
  let listed := names.toList.splitOn ' '
  listed.contains name ||
    (listed.drop 1).contains (name.map fun c => if c = '.' then '_' else c)

/-- The table of single bytes with a name. -/
def tableNamed? (name : List Char) : Option (Array Char) :=
  let named (tables : List (List String × List String)) : Option (List String) :=
    (tables.find? fun table => table.1.any fun names => lists names name).map Prod.snd
  match named upperHalves with
  | some lines => some (((Array.range 128).map Char.ofNat) ++ cellsOf lines)
  | none => (named wholeTables).map cellsOf

/-- A name of a charset in small letters, with a line for every row of characters other than
letters, digits and points between them; `pending` tells whether such a row has begun. -/
def normalizeAfter (pending : Bool) : List Char → List Char
  | [] => []
  | c :: rest =>
    if c.isAlphanum || c == '.' then
      if pending then '_' :: c.toLower :: normalizeAfter false rest
      else c.toLower :: normalizeAfter false rest
    else normalizeAfter true rest

/-- A name of a charset in the form in which names are listed. -/
def normalize (name : List Char) : List Char :=
  normalizeAfter false (name.dropWhile fun c => !(c.isAlphanum || c == '.'))

/-- The charset with a name. -/
def ofName? (name : String) : Option Charset :=
  let wanted := normalize name.toList
  match families.find? fun family => lists family.1 wanted with
  | some (_, charset) => some charset
  | none => (tableNamed? wanted).map fun cells => ofReader (tableReader cells)

/-- The charset with a name for short texts, where the lowest byte comes first unless a mark tells
something else. -/
def ofNameForShort? (name : String) : Option Charset :=
  let wanted := normalize name.toList
  let lowFirst (size : Nat) := markedOr (ofReader (unitReader size .littleEndian)) size
  if lists twoByteNames wanted then some (lowFirst 2)
  else if lists fourByteNames wanted then some (lowFirst 4)
  else ofName? name

/-- The characters that bytes write in a charset, none if any of the bytes are malformed. -/
def readSound? (charset : Charset) (bytes : List Nat) : Option (List Char) :=
  charset bytes |>.toOption |>.filter fun characters => !characters.contains replacement

end ResourceGraph.Text.Charset
