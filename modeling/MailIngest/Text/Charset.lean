import MailIngest.Text.Utf8
import MailIngest.Text.CodePage
import MailIngest.Text.Charset.Iso2022
import MailIngest.Text.Charset.Utf7
import MailIngest.Text.Charset.Escape
import MailIngest.Text.Charset.Punycode
import MailIngest.Text.CodePoint

/-!
# Character sets

Mail names the character set of its text by name, in any case and with any punctuation:
`UTF-8`, `utf8`, `us-ascii`, `ISO-8859-1`, `windows-1252`. A name is looked up by its
normal form: ASCII letters in lower case, digits and dots kept, and each run of other
characters between them one underscore. The normal form names a codec through a table of
aliases, also with its dots read as underscores, or else as the codec's canonical name.

Reading bytes yields characters and *undecodable pieces*: the bytes of one maximal ill-formed
unit, kept so that a caller can replace them by U+FFFD or carry them on as raw bytes. The escape
encodings, UTF-7 and Punycode may also give a surrogate code unit alone, which is text but no
character. Beside the
Unicode encodings and the code pages, the multibyte sets of Japanese, Korean and Chinese mail,
the ISO 2022 family, UTF-7, the backslash-escape encodings and Punycode are read
(`Charset.Iso2022` and the modules it builds on). Reading takes the error handler the caller
will apply, since a few codecs read differently under it or refuse it, and the escape and
multibyte readers resume after the leading bytes of an error that can be kept raw. Reading no
bytes gives no text under any name.

The main statement is `decode_latin1` (Latin-1 reads every byte as the character of its
number).
-/

namespace MailIngest.Text.Charset

/-- The character sets this library reads. -/
inductive Codec where
  | ascii
  | utf8
  | utf8Sig
  | latin1
  | latin9
  | windows1252
  | utf16
  | utf16le
  | utf16be
  | utf32
  | utf32le
  | utf32be
  /-- A code page: the characters of the bytes 0 to 255, U+FFFE for an undefined byte. -/
  | codePage (chars : String)
  | shiftJis
  | cp932
  | eucJp
  /-- EUC-JIS-2004, or EUC-JISX0213 with the 2000 edition. -/
  | eucJisX0213 (edition2000 : Bool)
  /-- Shift_JIS-2004, or Shift_JISX0213 with the 2000 edition. -/
  | shiftJisX0213 (edition2000 : Bool)
  | eucKr
  | cp949
  | johab
  | gb2312
  | gbk
  | gb18030
  | big5
  | cp950
  | big5Hkscs
  | iso2022 (e : Iso2022)
  | hz
  | utf7
  | unicodeEscape
  | rawUnicodeEscape
  | punycode
  | idna
  /-- The codec that reads nothing: every use fails. -/
  | undefined
deriving DecidableEq, Inhabited

def normalizeName (s : String) : String :=
  let step : (List Char × Bool) → Char → (List Char × Bool) := fun (acc, punct) c =>
    if c.isAlphanum || c = '.' then
      ((c.toLower :: if punct && !acc.isEmpty then '_' :: acc else acc), false)
    else (acc, true)
  String.ofList (s.toList.foldl step ([], false)).1.reverse

def aliases : List (String × String) :=
  [("037", "cp037"), ("1026", "cp1026"), ("1125", "cp1125"), ("1140", "cp1140"),
   ("1250", "cp1250"), ("1251", "cp1251"), ("1252", "cp1252"), ("1253", "cp1253"),
   ("1254", "cp1254"), ("1255", "cp1255"), ("1256", "cp1256"), ("1257", "cp1257"),
   ("1258", "cp1258"), ("273", "cp273"), ("424", "cp424"), ("437", "cp437"), ("500", "cp500"),
   ("646", "ascii"), ("775", "cp775"), ("850", "cp850"), ("852", "cp852"), ("855", "cp855"),
   ("857", "cp857"), ("858", "cp858"), ("860", "cp860"), ("861", "cp861"), ("862", "cp862"),
   ("863", "cp863"), ("864", "cp864"), ("865", "cp865"), ("866", "cp866"), ("869", "cp869"),
   ("8859", "latin_1"), ("932", "cp932"), ("936", "gbk"), ("949", "cp949"), ("950", "cp950"),
   ("ansi_x3.4_1968", "ascii"), ("ansi_x3.4_1986", "ascii"), ("ansi_x3_4_1968", "ascii"),
   ("arabic", "iso8859_6"), ("asmo_708", "iso8859_6"), ("big5_hkscs", "big5hkscs"),
   ("big5_tw", "big5"), ("chinese", "gb2312"), ("cp1051", "hp_roman8"), ("cp1361", "johab"),
   ("cp154", "ptcp154"), ("cp367", "ascii"), ("cp65001", "utf_8"), ("cp819", "latin_1"),
   ("cp866u", "cp1125"), ("cp936", "gbk"), ("cp_gr", "cp869"), ("cp_is", "cp861"),
   ("csHPRoman8", "hp_roman8"), ("csascii", "ascii"), ("csbig5", "big5"), ("csibm037", "cp037"),
   ("csibm1026", "cp1026"), ("csibm273", "cp273"), ("csibm424", "cp424"), ("csibm500", "cp500"),
   ("csibm855", "cp855"), ("csibm857", "cp857"), ("csibm858", "cp858"), ("csibm860", "cp860"),
   ("csibm861", "cp861"), ("csibm863", "cp863"), ("csibm864", "cp864"), ("csibm865", "cp865"),
   ("csibm866", "cp866"), ("csibm869", "cp869"), ("csiso2022jp", "iso2022_jp"),
   ("csiso2022kr", "iso2022_kr"), ("csiso58gb231280", "gb2312"), ("csisolatin1", "latin_1"),
   ("csisolatin2", "iso8859_2"), ("csisolatin3", "iso8859_3"), ("csisolatin4", "iso8859_4"),
   ("csisolatin5", "iso8859_9"), ("csisolatin6", "iso8859_10"), ("csisolatinarabic", "iso8859_6"),
   ("csisolatincyrillic", "iso8859_5"), ("csisolatingreek", "iso8859_7"),
   ("csisolatinhebrew", "iso8859_8"), ("cskoi8r", "koi8_r"), ("cspc775baltic", "cp775"),
   ("cspc850multilingual", "cp850"), ("cspc862latinhebrew", "cp862"),
   ("cspc8codepage437", "cp437"), ("cspcp852", "cp852"), ("csptcp154", "ptcp154"),
   ("csshiftjis", "shift_jis"), ("cyrillic", "iso8859_5"), ("cyrillic_asian", "ptcp154"),
   ("ebcdic_cp_be", "cp500"), ("ebcdic_cp_ca", "cp037"), ("ebcdic_cp_ch", "cp500"),
   ("ebcdic_cp_he", "cp424"), ("ebcdic_cp_nl", "cp037"), ("ebcdic_cp_us", "cp037"),
   ("ebcdic_cp_wt", "cp037"), ("ecma_114", "iso8859_6"), ("ecma_118", "iso8859_7"),
   ("elot_928", "iso8859_7"), ("euc_cn", "gb2312"), ("euc_jis2004", "euc_jis_2004"),
   ("euccn", "gb2312"), ("eucgb2312_cn", "gb2312"), ("eucjis2004", "euc_jis_2004"),
   ("eucjisx0213", "euc_jisx0213"), ("eucjp", "euc_jp"), ("euckr", "euc_kr"),
   ("gb18030_2000", "gb18030"), ("gb2312_1980", "gb2312"), ("gb2312_80", "gb2312"),
   ("greek", "iso8859_7"), ("greek8", "iso8859_7"), ("hebrew", "iso8859_8"),
   ("hkscs", "big5hkscs"), ("hz_gb", "hz"), ("hz_gb_2312", "hz"), ("hzgb", "hz"),
   ("ibm037", "cp037"), ("ibm039", "cp037"), ("ibm1026", "cp1026"), ("ibm1051", "hp_roman8"),
   ("ibm1125", "cp1125"), ("ibm1140", "cp1140"), ("ibm273", "cp273"), ("ibm367", "ascii"),
   ("ibm424", "cp424"), ("ibm437", "cp437"), ("ibm500", "cp500"), ("ibm775", "cp775"),
   ("ibm819", "latin_1"), ("ibm850", "cp850"), ("ibm852", "cp852"), ("ibm855", "cp855"),
   ("ibm857", "cp857"), ("ibm858", "cp858"), ("ibm860", "cp860"), ("ibm861", "cp861"),
   ("ibm862", "cp862"), ("ibm863", "cp863"), ("ibm864", "cp864"), ("ibm865", "cp865"),
   ("ibm866", "cp866"), ("ibm869", "cp869"), ("iso2022jp", "iso2022_jp"),
   ("iso2022jp_1", "iso2022_jp_1"), ("iso2022jp_2", "iso2022_jp_2"),
   ("iso2022jp_2004", "iso2022_jp_2004"), ("iso2022jp_3", "iso2022_jp_3"),
   ("iso2022jp_ext", "iso2022_jp_ext"), ("iso2022kr", "iso2022_kr"), ("iso646_us", "ascii"),
   ("iso8859", "latin_1"), ("iso8859_1", "latin_1"), ("iso_2022_jp", "iso2022_jp"),
   ("iso_2022_jp_1", "iso2022_jp_1"), ("iso_2022_jp_2", "iso2022_jp_2"),
   ("iso_2022_jp_2004", "iso2022_jp_2004"), ("iso_2022_jp_3", "iso2022_jp_3"),
   ("iso_2022_jp_ext", "iso2022_jp_ext"), ("iso_2022_kr", "iso2022_kr"),
   ("iso_646.irv_1991", "ascii"), ("iso_8859_1", "latin_1"), ("iso_8859_10", "iso8859_10"),
   ("iso_8859_10_1992", "iso8859_10"), ("iso_8859_11", "iso8859_11"),
   ("iso_8859_11_2001", "iso8859_11"), ("iso_8859_13", "iso8859_13"),
   ("iso_8859_14", "iso8859_14"), ("iso_8859_14_1998", "iso8859_14"),
   ("iso_8859_15", "iso8859_15"), ("iso_8859_16", "iso8859_16"),
   ("iso_8859_16_2001", "iso8859_16"), ("iso_8859_1_1987", "latin_1"),
   ("iso_8859_2", "iso8859_2"), ("iso_8859_2_1987", "iso8859_2"), ("iso_8859_3", "iso8859_3"),
   ("iso_8859_3_1988", "iso8859_3"), ("iso_8859_4", "iso8859_4"),
   ("iso_8859_4_1988", "iso8859_4"), ("iso_8859_5", "iso8859_5"),
   ("iso_8859_5_1988", "iso8859_5"), ("iso_8859_6", "iso8859_6"),
   ("iso_8859_6_1987", "iso8859_6"), ("iso_8859_7", "iso8859_7"),
   ("iso_8859_7_1987", "iso8859_7"), ("iso_8859_8", "iso8859_8"),
   ("iso_8859_8_1988", "iso8859_8"), ("iso_8859_9", "iso8859_9"),
   ("iso_8859_9_1989", "iso8859_9"), ("iso_celtic", "iso8859_14"), ("iso_ir_100", "latin_1"),
   ("iso_ir_101", "iso8859_2"), ("iso_ir_109", "iso8859_3"), ("iso_ir_110", "iso8859_4"),
   ("iso_ir_126", "iso8859_7"), ("iso_ir_127", "iso8859_6"), ("iso_ir_138", "iso8859_8"),
   ("iso_ir_144", "iso8859_5"), ("iso_ir_148", "iso8859_9"), ("iso_ir_157", "iso8859_10"),
   ("iso_ir_166", "tis_620"), ("iso_ir_199", "iso8859_14"), ("iso_ir_226", "iso8859_16"),
   ("iso_ir_58", "gb2312"), ("iso_ir_6", "ascii"), ("jisx0213", "euc_jis_2004"),
   ("korean", "euc_kr"), ("ks_c_5601", "euc_kr"), ("ks_c_5601_1987", "euc_kr"),
   ("ks_x_1001", "euc_kr"), ("ksc5601", "euc_kr"), ("ksx1001", "euc_kr"), ("kz_1048", "kz1048"),
   ("l1", "latin_1"), ("l10", "iso8859_16"), ("l2", "iso8859_2"), ("l3", "iso8859_3"),
   ("l4", "iso8859_4"), ("l5", "iso8859_9"), ("l6", "iso8859_10"), ("l7", "iso8859_13"),
   ("l8", "iso8859_14"), ("l9", "iso8859_15"), ("latin", "latin_1"), ("latin1", "latin_1"),
   ("latin10", "iso8859_16"), ("latin2", "iso8859_2"), ("latin3", "iso8859_3"),
   ("latin4", "iso8859_4"), ("latin5", "iso8859_9"), ("latin6", "iso8859_10"),
   ("latin7", "iso8859_13"), ("latin8", "iso8859_14"), ("latin9", "iso8859_15"),
   ("mac_centeuro", "mac_latin2"), ("maccentraleurope", "mac_latin2"),
   ("maccyrillic", "mac_cyrillic"), ("macgreek", "mac_greek"), ("maciceland", "mac_iceland"),
   ("macintosh", "mac_roman"), ("maclatin2", "mac_latin2"), ("macroman", "mac_roman"),
   ("macturkish", "mac_turkish"), ("ms1361", "johab"), ("ms932", "cp932"), ("ms936", "gbk"),
   ("ms949", "cp949"), ("ms950", "cp950"), ("ms_kanji", "cp932"), ("mskanji", "cp932"),
   ("pt154", "ptcp154"), ("r8", "hp_roman8"), ("rk1048", "kz1048"), ("roman8", "hp_roman8"),
   ("ruscii", "cp1125"), ("s_jis", "shift_jis"), ("s_jis_2004", "shift_jis_2004"),
   ("s_jisx0213", "shift_jisx0213"), ("shiftjis", "shift_jis"),
   ("shiftjis2004", "shift_jis_2004"), ("shiftjisx0213", "shift_jisx0213"), ("sjis", "shift_jis"),
   ("sjis_2004", "shift_jis_2004"), ("sjisx0213", "shift_jisx0213"), ("strk1048_2002", "kz1048"),
   ("thai", "iso8859_11"), ("tis620", "tis_620"), ("tis_620_0", "tis_620"),
   ("tis_620_2529_0", "tis_620"), ("tis_620_2529_1", "tis_620"), ("u16", "utf_16"),
   ("u32", "utf_32"), ("u7", "utf_7"), ("u8", "utf_8"), ("u_jis", "euc_jp"), ("uhc", "cp949"),
   ("ujis", "euc_jp"), ("unicode_1_1_utf_7", "utf_7"), ("unicodebigunmarked", "utf_16_be"),
   ("unicodelittleunmarked", "utf_16_le"), ("us", "ascii"), ("us_ascii", "ascii"),
   ("utf", "utf_8"), ("utf16", "utf_16"), ("utf32", "utf_32"), ("utf7", "utf_7"),
   ("utf8", "utf_8"), ("utf8_ucs2", "utf_8"), ("utf8_ucs4", "utf_8"), ("utf_16be", "utf_16_be"),
   ("utf_16le", "utf_16_le"), ("utf_32be", "utf_32_be"), ("utf_32le", "utf_32_le"),
   ("windows_1250", "cp1250"), ("windows_1251", "cp1251"), ("windows_1252", "cp1252"),
   ("windows_1253", "cp1253"), ("windows_1254", "cp1254"), ("windows_1255", "cp1255"),
   ("windows_1256", "cp1256"), ("windows_1257", "cp1257"), ("windows_1258", "cp1258"),
   ("x_mac_japanese", "shift_jis"), ("x_mac_korean", "euc_kr"), ("x_mac_simp_chinese", "gb2312"),
   ("x_mac_trad_chinese", "big5")]

def ofCanonical? (name : String) : Option Codec :=
  match name with
  | "ascii" => some .ascii
  | "utf_8" => some .utf8
  | "utf_8_sig" => some .utf8Sig
  | "latin_1" | "iso8859_1" => some .latin1
  | "iso8859_15" => some .latin9
  | "cp1252" => some .windows1252
  | "utf_16" => some .utf16
  | "utf_16_le" => some .utf16le
  | "utf_16_be" => some .utf16be
  | "utf_32" => some .utf32
  | "utf_32_le" => some .utf32le
  | "utf_32_be" => some .utf32be
  | "charmap" => some .latin1
  | "shift_jis" => some .shiftJis
  | "cp932" => some .cp932
  | "euc_jp" => some .eucJp
  | "euc_jis_2004" => some (.eucJisX0213 false)
  | "euc_jisx0213" => some (.eucJisX0213 true)
  | "shift_jis_2004" => some (.shiftJisX0213 false)
  | "shift_jisx0213" => some (.shiftJisX0213 true)
  | "euc_kr" => some .eucKr
  | "cp949" => some .cp949
  | "johab" => some .johab
  | "gb2312" => some .gb2312
  | "gbk" => some .gbk
  | "gb18030" => some .gb18030
  | "big5" => some .big5
  | "cp950" => some .cp950
  | "big5hkscs" => some .big5Hkscs
  | "iso2022_kr" => some (.iso2022 iso2022Kr)
  | "iso2022_jp" => some (.iso2022 iso2022Jp)
  | "iso2022_jp_1" => some (.iso2022 iso2022Jp1)
  | "iso2022_jp_2" => some (.iso2022 iso2022Jp2)
  | "iso2022_jp_2004" => some (.iso2022 iso2022Jp2004)
  | "iso2022_jp_3" => some (.iso2022 iso2022Jp3)
  | "iso2022_jp_ext" => some (.iso2022 iso2022JpExt)
  | "hz" => some .hz
  | "utf_7" => some .utf7
  | "unicode_escape" => some .unicodeEscape
  | "raw_unicode_escape" => some .rawUnicodeEscape
  | "punycode" => some .punycode
  | "idna" => some .idna
  | "undefined" => some .undefined
  | _ => (CodePage.pages.find? (·.1 = name)).map fun p => .codePage p.2

def aliasOf? (name : String) : Option String := (aliases.find? (·.1 = name)).map (·.2)

/-- The codec a charset name names, if this library reads it: the codec of the alias the
normal form is, else of the canonical name it is; a name with a dot is never canonical. -/
def lookup (name : String) : Option Codec :=
  let n := normalizeName name
  let canonical := match aliasOf? n with
    | some m => [m, n]
    | none => match aliasOf? (String.ofList (n.toList.map fun c => if c = '.' then '_' else c)) with
      | some m => [m, n]
      | none => [n]
  canonical.findSome? fun m => if m.isEmpty || m.toList.contains '.' then none else ofCanonical? m

/-- The characters Windows-1252 gives the bytes 0x80 to 0x9F; zero marks a byte it leaves
undefined. -/
def windows1252High : List Nat :=
  [0x20AC, 0, 0x201A, 0x0192, 0x201E, 0x2026, 0x2020, 0x2021, 0x02C6, 0x2030, 0x0160, 0x2039,
   0x0152, 0, 0x017D, 0, 0, 0x2018, 0x2019, 0x201C, 0x201D, 0x2022, 0x2013, 0x2014, 0x02DC,
   0x2122, 0x0161, 0x203A, 0x0153, 0, 0x017E, 0x0178]

/-- The bytes where Latin-9 differs from Latin-1, with its characters. -/
def latin9Changes : List (Nat × Nat) :=
  [(0xA4, 0x20AC), (0xA6, 0x0160), (0xA8, 0x0161), (0xB4, 0x017D), (0xB8, 0x017E),
   (0xBC, 0x0152), (0xBD, 0x0153), (0xBE, 0x0178)]

/-- A single-byte character set as a function from bytes to characters. -/
def singleByte (f : UInt8 → Option Char) (bs : List UInt8) : List Piece :=
  bs.map fun b => match f b with
    | some c => .char c
    | none => .bad [b]

def windows1252Char (b : UInt8) : Option Char :=
  let n := b.toNat
  if 0x80 ≤ n ∧ n < 0xA0 then
    match windows1252High.getD (n - 0x80) 0 with
    | 0 => none
    | v => some (Char.ofNat v)
  else some (Char.ofNat n)

def latin9Char (b : UInt8) : Char :=
  match latin9Changes.find? (·.1 = b.toNat) with
  | some (_, v) => Char.ofNat v
  | none => Char.ofNat b.toNat

/-- UTF-8 as pieces: each maximal ill-formed subpart is one undecodable piece. -/
def utf8Pieces : Nat → List UInt8 → List Piece
  | 0, _ => []
  | _, [] => []
  | fuel + 1, b :: rest =>
    match Utf8.scan b rest with
    | (some c, k) => .char c :: utf8Pieces fuel (rest.drop k)
    | (none, k) => .bad (b :: rest.take k) :: utf8Pieces fuel (rest.drop k)

def unit16 (little : Bool) (a b : UInt8) : Nat :=
  if little then b.toNat * 256 + a.toNat else a.toNat * 256 + b.toNat

/-- UTF-16 in a fixed byte order: surrogate pairs join; a lone surrogate and a trailing odd
byte do not decode. -/
def utf16Pieces (little : Bool) : Nat → List UInt8 → List Piece
  | 0, _ => []
  | _, [] => []
  | _, [b] => [.bad [b]]
  | fuel + 1, a :: b :: rest =>
    let u := unit16 little a b
    if 0xD800 ≤ u ∧ u < 0xDC00 then
      match rest with
      | c :: d :: rest' =>
        let v := unit16 little c d
        if 0xDC00 ≤ v ∧ v < 0xE000 then
          .char (Char.ofNat (0x10000 + (u - 0xD800) * 0x400 + (v - 0xDC00))) ::
            utf16Pieces little fuel rest'
        else .bad [a, b] :: utf16Pieces little fuel rest
      | _ => [.bad (a :: b :: rest)]
    else if 0xDC00 ≤ u ∧ u < 0xE000 then .bad [a, b] :: utf16Pieces little fuel rest
    else .char (Char.ofNat u) :: utf16Pieces little fuel rest

/-- UTF-32 in a fixed byte order: a unit beyond U+10FFFF or a surrogate does not decode, nor
do one to three trailing bytes. -/
def utf32Pieces (little : Bool) : Nat → List UInt8 → List Piece
  | 0, _ => []
  | _, [] => []
  | fuel + 1, bs@(a :: b :: c :: d :: rest) =>
    let v := if little then ((d.toNat * 256 + c.toNat) * 256 + b.toNat) * 256 + a.toNat
      else ((a.toNat * 256 + b.toNat) * 256 + c.toNat) * 256 + d.toNat
    if v > 0x10FFFF ∨ (0xD800 ≤ v ∧ v < 0xE000) then .bad (bs.take 4) :: utf32Pieces little fuel rest
    else .char (Char.ofNat v) :: utf32Pieces little fuel rest
  | _, bs => [.bad bs]

/-- One step of UTF-16 in a fixed byte order: a unit, a surrogate pair, or an error over a lone
low surrogate, over a high surrogate that no low one follows (with whatever is left when the
bytes end first), or over a trailing odd byte. -/
def utf16Step (little : Bool) (bs : List UInt8) : Step :=
  match bs with
  | a :: b :: rest =>
    let u := unit16 little a b
    if 0xD800 ≤ u ∧ u < 0xDC00 then
      match rest with
      | c :: d :: _ =>
        let v := unit16 little c d
        if 0xDC00 ≤ v ∧ v < 0xE000 then .code (0x10000 + (u - 0xD800) * 0x400 + (v - 0xDC00)) 4
        else .error 2
      | _ => .error bs.length
    else if 0xDC00 ≤ u ∧ u < 0xE000 then .error 2
    else .code u 2
  | _ => .error bs.length

/-- One step of UTF-32 in a fixed byte order: a code point, or an error over a unit beyond
U+10FFFF or in the surrogate range, or over one to three trailing bytes. -/
def utf32Step (little : Bool) (bs : List UInt8) : Step :=
  match bs with
  | a :: b :: c :: d :: _ =>
    let v := if little then ((d.toNat * 256 + c.toNat) * 256 + b.toNat) * 256 + a.toNat
      else ((a.toNat * 256 + b.toNat) * 256 + c.toNat) * 256 + d.toNat
    if v > 0x10FFFF ∨ (0xD800 ≤ v ∧ v < 0xE000) then .error 4 else .code v 4
  | _ => .error bs.length

/-- The byte order a byte order mark announces, and the bytes after it; little-endian when
there is none. -/
def byteOrder (mark : List UInt8) (bs : List UInt8) (bigMark : List UInt8) : Bool × List UInt8 :=
  if bs.take mark.length = mark then (true, bs.drop mark.length)
  else if bs.take bigMark.length = bigMark then (false, bs.drop bigMark.length)
  else (true, bs)

/-- The step function of a character set read one step at a time, without state. -/
def stepOf? : Codec → Option (List UInt8 → Step)
  | .shiftJis => some shiftJisStep
  | .cp932 => some cp932Step
  | .eucJp => some eucJpStep
  | .eucJisX0213 edition2000 => some (eucJisX0213Step edition2000)
  | .shiftJisX0213 edition2000 => some (shiftJisX0213Step edition2000)
  | .eucKr => some eucKrStep
  | .cp949 => some cp949Step
  | .johab => some johabStep
  | .gb2312 => some gb2312Step
  | .gbk => some gbkStep
  | .gb18030 => some gb18030Step
  | .big5 => some big5Step
  | .cp950 => some cp950Step
  | .big5Hkscs => some big5HkscsStep
  | .unicodeEscape => some unicodeEscapeStep
  | .rawUnicodeEscape => some rawUnicodeEscapeStep
  | _ => none

/-- The step function of UTF-16 or UTF-32 and the bytes it reads, after a byte order mark
where the codec looks for one. -/
def wideSteps (c : Codec) (bs : List UInt8) : Option ((List UInt8 → Step) × List UInt8) :=
  match c with
  | .utf16 =>
    let (little, body) := byteOrder [0xFF, 0xFE] bs [0xFE, 0xFF]
    some (utf16Step little, body)
  | .utf16le => some (utf16Step true, bs)
  | .utf16be => some (utf16Step false, bs)
  | .utf32 =>
    let (little, body) := byteOrder [0xFF, 0xFE, 0, 0] bs [0, 0, 0xFE, 0xFF]
    some (utf32Step little, body)
  | .utf32le => some (utf32Step true, bs)
  | .utf32be => some (utf32Step false, bs)
  | _ => none

/-- Reads bytes in a character set that has no failure beyond undecodable pieces. -/
def plainPieces (c : Codec) (bs : List UInt8) : List Piece :=
  match c with
  | .ascii => singleByte (fun b => if b < 0x80 then some (Char.ofNat b.toNat) else none) bs
  | .utf8 => utf8Pieces bs.length bs
  | .utf8Sig =>
    let body := if bs.take 3 = [0xEF, 0xBB, 0xBF] then bs.drop 3 else bs
    utf8Pieces body.length body
  | .latin1 => bs.map fun b => .char (Char.ofNat b.toNat)
  | .latin9 => bs.map fun b => .char (latin9Char b)
  | .windows1252 => singleByte windows1252Char bs
  | .utf16 =>
    let (little, body) := byteOrder [0xFF, 0xFE] bs [0xFE, 0xFF]
    utf16Pieces little body.length body
  | .utf16le => utf16Pieces true bs.length bs
  | .utf16be => utf16Pieces false bs.length bs
  | .utf32 =>
    let (little, body) := byteOrder [0xFF, 0xFE, 0, 0] bs [0, 0, 0xFE, 0xFF]
    utf32Pieces little body.length body
  | .utf32le => utf32Pieces true bs.length bs
  | .utf32be => utf32Pieces false bs.length bs
  | .codePage chars =>
    let table := chars.toList.toArray
    singleByte (fun b => match table[b.toNat]? with
      | some c => if c = '\uFFFE' then none else some c
      | none => none) bs
  | .hz => hz bs
  | .utf7 => utf7 bs
  | c => match stepOf? c with
    | some step => runSteps step bs
    | none => []

/-- Reads bytes in a character set under an error handler: the pieces, or the name of the
failure that stops reading. Only ISO-2022-JP-2 (through `ESC N`), Punycode, IDNA and the
undefined codec fail. No bytes are no text under every codec. -/
def decode (c : Codec) (handler : Handler) (bs : List UInt8) : Except String (List Piece) :=
  if bs.isEmpty then .ok [] else
  match c with
  | .iso2022 e => iso2022 e handler bs
  | .punycode => Charset.punycode handler bs
  | .idna => Charset.idna handler bs
  | .undefined => .error "UnicodeError"
  | .utf16 | .utf16le | .utf16be | .utf32 | .utf32le | .utf32be =>
    match handler, wideSteps c bs with
    | .keepRaw, some (step, body) => runStepsRaw step body
    | _, _ => .ok (plainPieces c bs)
  | _ => match handler, stepOf? c with
    | .keepRaw, some step => runStepsRaw step bs
    | _, _ => .ok (plainPieces c bs)

/-- Decoded text with each undecodable piece as U+FFFD; a surrogate alone is kept. -/
def replacing (ps : List Piece) : List CodePoint :=
  ps.map fun p => match p with
    | .char c => .char c
    | .bad _ => .char '�'
    | .lone u => .lone u

def strict? (ps : List Piece) : Option String :=
  (ps.mapM fun (p : Piece) => match p with
    | .char c => some c
    | .bad _ | .lone _ => none).map String.ofList

/-- Text read in a named character set with replacement, or the failure that stops reading;
`none` when the name is unknown. No bytes are no text, whatever the name. -/
def decodeNamed? (name : String) (bs : List UInt8) : Option (Except String (List CodePoint)) :=
  if bs.isEmpty then some (.ok []) else (lookup name).map fun c => replacing <$> decode c .replace bs

/-- Latin-1 reads every byte as the character of its number. -/
theorem decode_latin1 (handler : Handler) (bs : List UInt8) :
    decode .latin1 handler bs = .ok (bs.map fun b => Piece.char (Char.ofNat b.toNat)) := by
  cases bs <;> cases handler <;> rfl


end MailIngest.Text.Charset
