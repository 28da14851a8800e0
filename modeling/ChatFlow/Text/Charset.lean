import ChatFlow.Text.Page
import ChatFlow.Text.Wide

/-!
# Charsets

How bytes stand for characters. `Charset.ofName?` finds a charset by one of its names,
`Charset.decode?` reads bytes in it; bytes that are no character become replacement characters. The
table of charsets is not complete: `Codecs` is whatever else there is, and `Codecs.decode?` reads bytes
in the charset of any name.
-/

namespace ChatFlow.Text

/-- A way to write characters as bytes. -/
inductive Charset where
  | ascii
  /-- Every byte is a code point. -/
  | latin
  | utf8
  /-- UTF-8 without the byte order mark that it may start with. -/
  | markedUtf8
  | utf16 (bigEndian : Bool)
  | utf32 (bigEndian : Bool)
  /-- UTF-16 in the order that a mark at the start tells. -/
  | markedUtf16
  /-- UTF-32 in the order that a mark at the start tells. -/
  | markedUtf32
  /-- The characters of the bytes from 128 on. -/
  | page (upper : String)
  deriving DecidableEq, Repr

namespace Charset

/-- A page of ISO 8859, which keeps the control characters from 128 to 159. -/
def isoPage (upper : String) : Charset :=
  page (String.ofList ((List.range 32).map fun n => Char.ofNat (128 + n)) ++ upper)

/-- The charsets with their names. -/
def named : List (List String × Charset) := [
  (["646", "ansi_x3.4_1968", "ansi_x3.4_1986", "ansi_x3_4_1968", "ascii", "cp367", "csascii",
    "ibm367", "iso646_us", "iso_646.irv_1991", "iso_ir_6", "us", "us_ascii"], ascii),
  (["8859", "cp819", "csisolatin1", "ibm819", "iso8859", "iso8859_1", "iso_8859_1",
    "iso_8859_1_1987", "iso_ir_100", "l1", "latin", "latin1", "latin_1"], latin),
  (["cp65001", "u8", "utf", "utf8", "utf8_ucs2", "utf8_ucs4", "utf_8"], utf8),
  (["utf_8_sig"], markedUtf8),
  (["u16", "utf16", "utf_16"], markedUtf16),
  (["unicodelittleunmarked", "utf_16_le", "utf_16le"], utf16 false),
  (["unicodebigunmarked", "utf_16_be", "utf_16be"], utf16 true),
  (["u32", "utf32", "utf_32"], markedUtf32),
  (["utf_32_le", "utf_32le"], utf32 false),
  (["utf_32_be", "utf_32be"], utf32 true),
  (["csisolatin2", "iso8859_2", "iso_8859_2", "iso_8859_2_1987", "iso_ir_101", "l2",
    "latin2"], isoPage Page.iso2),
  (["csisolatin3", "iso8859_3", "iso_8859_3", "iso_8859_3_1988", "iso_ir_109", "l3",
    "latin3"], isoPage Page.iso3),
  (["csisolatin4", "iso8859_4", "iso_8859_4", "iso_8859_4_1988", "iso_ir_110", "l4",
    "latin4"], isoPage Page.iso4),
  (["csisolatincyrillic", "cyrillic", "iso8859_5", "iso_8859_5", "iso_8859_5_1988",
    "iso_ir_144"], isoPage Page.iso5),
  (["arabic", "asmo_708", "csisolatinarabic", "ecma_114", "iso8859_6", "iso_8859_6",
    "iso_8859_6_1987", "iso_ir_127"], isoPage Page.iso6),
  (["csisolatingreek", "ecma_118", "elot_928", "greek", "greek8", "iso8859_7", "iso_8859_7",
    "iso_8859_7_1987", "iso_ir_126"], isoPage Page.iso7),
  (["csisolatinhebrew", "hebrew", "iso8859_8", "iso_8859_8", "iso_8859_8_1988",
    "iso_ir_138"], isoPage Page.iso8),
  (["csisolatin5", "iso8859_9", "iso_8859_9", "iso_8859_9_1989", "iso_ir_148", "l5",
    "latin5"], isoPage Page.iso9),
  (["csisolatin6", "iso8859_10", "iso_8859_10", "iso_8859_10_1992", "iso_ir_157", "l6",
    "latin6"], isoPage Page.iso10),
  (["iso8859_11", "iso_8859_11", "iso_8859_11_2001", "thai"], isoPage Page.iso11),
  (["iso8859_13", "iso_8859_13", "l7", "latin7"], isoPage Page.iso13),
  (["iso8859_14", "iso_8859_14", "iso_8859_14_1998", "iso_celtic", "iso_ir_199", "l8",
    "latin8"], isoPage Page.iso14),
  (["iso8859_15", "iso_8859_15", "l9", "latin9"], isoPage Page.iso15),
  (["iso8859_16", "iso_8859_16", "iso_8859_16_2001", "iso_ir_226", "l10",
    "latin10"], isoPage Page.iso16),
  (["1250", "cp1250", "windows_1250"], page Page.windows1250),
  (["1251", "cp1251", "windows_1251"], page Page.windows1251),
  (["1252", "cp1252", "windows_1252"], page Page.windows1252),
  (["1253", "cp1253", "windows_1253"], page Page.windows1253),
  (["1254", "cp1254", "windows_1254"], page Page.windows1254),
  (["1255", "cp1255", "windows_1255"], page Page.windows1255),
  (["1256", "cp1256", "windows_1256"], page Page.windows1256),
  (["1257", "cp1257", "windows_1257"], page Page.windows1257),
  (["1258", "cp1258", "windows_1258"], page Page.windows1258),
  (["cskoi8r", "koi8_r"], page Page.koi8r),
  (["koi8_u"], page Page.koi8u),
  (["437", "cp437", "cspc8codepage437", "ibm437"], page Page.page437),
  (["850", "cp850", "cspc850multilingual", "ibm850"], page Page.page850),
  (["852", "cp852", "cspcp852", "ibm852"], page Page.page852),
  (["866", "cp866", "csibm866", "ibm866"], page Page.page866),
  (["mac_roman", "macintosh", "macroman"], page Page.macintosh)]

/-- A name in small letters, with an underscore for each row of other characters inside. -/
def plainName (name : String) : String :=
  let (cs, _) := name.toList.foldl (fun (cs, gap) c =>
    if c.isAlphanum || c == '.' then
      (c.toLower :: if gap && !cs.isEmpty then '_' :: cs else cs, false)
    else (cs, true)) (([] : List Char), false)
  String.ofList cs.reverse

/-- The charset of a name. -/
def ofName? (name : String) : Option Charset :=
  (named.find? fun (names, _) => names.contains (plainName name)).map (·.2)

/-- Read bytes in UTF-16 that tell their order. One byte alone tells nothing and is none. -/
def decodeMarked16? : List UInt8 → Option (List Char)
  | 0xff :: 0xfe :: bs => let (ns, isOpen) := pairs false bs; some (decodePairs isOpen ns)
  | 0xfe :: 0xff :: bs => let (ns, isOpen) := pairs true bs; some (decodePairs isOpen ns)
  | [] => some []
  | [_] => some [replacement]
  | _ => none

/-- Read bytes in UTF-32 that tell their order. -/
def decodeMarked32? : List UInt8 → Option (List Char)
  | 0xff :: 0xfe :: 0 :: 0 :: bs => let (ns, isOpen) := quads false bs; some (decodeQuads isOpen ns)
  | 0 :: 0 :: 0xfe :: 0xff :: bs => let (ns, isOpen) := quads true bs; some (decodeQuads isOpen ns)
  | [] => some []
  | _ :: _ :: _ :: _ :: _ => none
  | _ => some [replacement]

/-- The character of a byte in a page. -/
def pageChar (upper : Array Char) (b : UInt8) : Char :=
  if b < 128 then Char.ofNat b.toNat else upper.getD (b.toNat - 128) replacement

/-- Read bytes, unless they had to tell their order and do not. -/
def decode? (charset : Charset) (bytes : List UInt8) : Option (List Char) :=
  match charset with
  | ascii => some (bytes.map fun b => if b < 128 then Char.ofNat b.toNat else replacement)
  | latin => some (bytes.map fun b => Char.ofNat b.toNat)
  | utf8 => some (decodeUtf8 bytes)
  | markedUtf8 => some (decodeUtf8 (match bytes with
    | 0xef :: 0xbb :: 0xbf :: bs => bs
    | bs => bs))
  | utf16 bigEndian => let (ns, isOpen) := pairs bigEndian bytes; some (decodePairs isOpen ns)
  | utf32 bigEndian => let (ns, isOpen) := quads bigEndian bytes; some (decodeQuads isOpen ns)
  | markedUtf16 => decodeMarked16? bytes
  | markedUtf32 => decodeMarked32? bytes
  | page upper => let upper := upper.toList.toArray; some (bytes.map (pageChar upper))

end Charset

/-- The codecs for names that are not in the table. A codec makes a text of bytes, or it fails. -/
abbrev Codecs := String → Option (List UInt8 → Option String)

/-- Read bytes in the charset of a name, which is UTF-8 if nobody knows the name. -/
def Codecs.decode? (codecs : Codecs) (name : String) (bytes : List UInt8) : Option String :=
  match Charset.ofName? name with
  | some charset => (charset.decode? bytes).map String.ofList
  | none => match codecs name with
    | some decode? => decode? bytes
    | none => some (String.ofList (decodeUtf8 bytes))

end ChatFlow.Text
