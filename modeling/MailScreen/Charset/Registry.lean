import MailScreen.Charset.EastAsian
import MailScreen.Charset.Wide
import MailScreen.Charset.Table.Windows
import MailScreen.Charset.Table.Iso
import MailScreen.Charset.Table.Dos
import MailScreen.Charset.Table.Mac
import MailScreen.Charset.Table.Ebcdic

/-!
# Charset names

The charsets that can be named. A name is compared in a normal form: letters in lower case, and
every run of characters other than ASCII letters, ASCII digits and dots as one low line, with none
at the ends. An alias may write dots for low lines, the name proper may not.
-/
namespace MailScreen

/-- The ways to write text as octets. -/
inductive Charset where
  /-- Code points below 128, an octet each. -/
  | ascii
  /-- Code points below 256, an octet each. -/
  | latin1
  /-- One to four octets for a character. -/
  | utf8
  /-- UTF-8 after a signature. -/
  | signedUtf8
  /-- Units of 16 bits, in a given order or in that of a mark. -/
  | utf16 (order : Option OctetOrder)
  /-- Units of 32 bits, in a given order or in that of a mark. -/
  | utf32 (order : Option OctetOrder)
  /-- ASCII with shifted sequences. -/
  | utf7
  /-- ASCII first, then the places of the other characters. -/
  | punycode
  /-- ASCII with escapes for all that is not plain. -/
  | escaped
  /-- Latin 1 with escapes for larger code points. -/
  | rawEscaped
  /-- A set of at most 256 characters. -/
  | singleByte (characters : String)
  /-- A charset of East Asian characters. -/
  | eastAsian (charset : EastAsian)
  /-- Labels of domain names, which only a strict reader may decode. -/
  | domainLabels
  /-- A name that is reserved so that using it fails. -/
  | undefined
  /-- A name that stands for a transformation of octets and not for a charset. -/
  | transform
  deriving DecidableEq, Repr

/-- A charset with the names it is known by. -/
structure CharsetEntry where
  /-- The name proper, in normal form. -/
  name : String
  /-- The name that messages show. -/
  label : String
  /-- Other names, in normal form. -/
  aliases : List String
  /-- What the names stand for. -/
  charset : Charset

/-- All charsets that can be named. -/
def charsetEntries : List CharsetEntry := [
  ⟨"utf_8", "utf-8", ["cp65001", "u8", "utf", "utf8", "utf8_ucs2", "utf8_ucs4"], .utf8⟩,
  ⟨"utf_8_sig", "utf-8-sig", [], .signedUtf8⟩,
  ⟨"ascii", "ascii",
    ["646", "ansi_x3.4_1968", "ansi_x3.4_1986", "ansi_x3_4_1968", "cp367", "csascii", "ibm367",
      "iso646_us", "iso_646.irv_1991", "iso_ir_6", "us", "us_ascii"], .ascii⟩,
  ⟨"latin_1", "iso8859-1",
    ["8859", "cp819", "csisolatin1", "ibm819", "iso8859", "iso8859_1", "iso_8859_1",
      "iso_8859_1_1987", "iso_ir_100", "l1", "latin", "latin1"], .latin1⟩,
  ⟨"iso8859_1", "iso8859-1", [], .latin1⟩,
  ⟨"charmap", "charmap", [], .latin1⟩,
  ⟨"utf_7", "utf-7", ["u7", "unicode_1_1_utf_7", "utf7"], .utf7⟩,
  ⟨"utf_16", "utf-16", ["u16", "utf16"], .utf16 none⟩,
  ⟨"utf_16_le", "utf-16-le", ["unicodelittleunmarked", "utf_16le"], .utf16 (some .little)⟩,
  ⟨"utf_16_be", "utf-16-be", ["unicodebigunmarked", "utf_16be"], .utf16 (some .big)⟩,
  ⟨"utf_32", "utf-32", ["u32", "utf32"], .utf32 none⟩,
  ⟨"utf_32_le", "utf-32-le", ["utf_32le"], .utf32 (some .little)⟩,
  ⟨"utf_32_be", "utf-32-be", ["utf_32be"], .utf32 (some .big)⟩,
  ⟨"punycode", "punycode", [], .punycode⟩,
  ⟨"unicode_escape", "unicode-escape", [], .escaped⟩,
  ⟨"raw_unicode_escape", "raw-unicode-escape", [], .rawEscaped⟩,
  ⟨"idna", "idna", [], .domainLabels⟩,
  ⟨"undefined", "undefined", [], .undefined⟩,
  ⟨"base64_codec", "base64", ["base64", "base_64"], .transform⟩,
  ⟨"bz2_codec", "bz2", ["bz2"], .transform⟩,
  ⟨"hex_codec", "hex", ["hex"], .transform⟩,
  ⟨"quopri_codec", "quopri", ["quopri", "quoted_printable", "quotedprintable"], .transform⟩,
  ⟨"rot_13", "rot-13", ["rot13"], .transform⟩,
  ⟨"uu_codec", "uu", ["uu"], .transform⟩,
  ⟨"zlib_codec", "zlib", ["zip", "zlib"], .transform⟩,
  ⟨"gb2312", "gb2312",
    ["chinese", "csiso58gb231280", "euc_cn", "euccn", "eucgb2312_cn", "gb2312_1980",
      "gb2312_80", "iso_ir_58", "x_mac_simp_chinese"], .eastAsian .gb2312⟩,
  ⟨"gbk", "gbk", ["936", "cp936", "ms936"], .eastAsian .gbk⟩,
  ⟨"gb18030", "gb18030", ["gb18030_2000"], .eastAsian .gb18030⟩,
  ⟨"hz", "hz", ["hz_gb", "hz_gb_2312", "hzgb"], .eastAsian .hz⟩,
  ⟨"big5", "big5", ["big5_tw", "csbig5", "x_mac_trad_chinese"], .eastAsian .big5⟩,
  ⟨"cp950", "cp950", ["950", "ms950"], .eastAsian .cp950⟩,
  ⟨"big5hkscs", "big5hkscs", ["big5_hkscs", "hkscs"], .eastAsian .hkscs⟩,
  ⟨"euc_kr", "euc_kr",
    ["euckr", "korean", "ks_c_5601", "ks_c_5601_1987", "ks_x_1001", "ksc5601", "ksx1001",
      "x_mac_korean"], .eastAsian .eucKr⟩,
  ⟨"cp949", "cp949", ["949", "ms949", "uhc"], .eastAsian .cp949⟩,
  ⟨"johab", "johab", ["cp1361", "ms1361"], .eastAsian .johab⟩,
  ⟨"iso2022_kr", "iso2022_kr", ["csiso2022kr", "iso2022kr", "iso_2022_kr"], .eastAsian .iso2022Kr⟩,
  ⟨"shift_jis", "shift_jis",
    ["csshiftjis", "s_jis", "shiftjis", "sjis", "x_mac_japanese"], .eastAsian .shiftJis⟩,
  ⟨"cp932", "cp932", ["932", "ms932", "ms_kanji", "mskanji"], .eastAsian .cp932⟩,
  ⟨"euc_jp", "euc_jp", ["eucjp", "u_jis", "ujis"], .eastAsian .eucJp⟩,
  ⟨"iso2022_jp", "iso2022_jp", ["csiso2022jp", "iso2022jp", "iso_2022_jp"], .eastAsian .iso2022Jp⟩,
  ⟨"iso2022_jp_1", "iso2022_jp_1", ["iso2022jp_1", "iso_2022_jp_1"], .eastAsian .iso2022Jp1⟩,
  ⟨"iso2022_jp_2", "iso2022_jp_2", ["iso2022jp_2", "iso_2022_jp_2"], .eastAsian .iso2022Jp2⟩,
  ⟨"iso2022_jp_ext", "iso2022_jp_ext",
    ["iso2022jp_ext", "iso_2022_jp_ext"], .eastAsian .iso2022JpExt⟩,
  ⟨"iso2022_jp_3", "iso2022_jp_3", ["iso2022jp_3", "iso_2022_jp_3"], .eastAsian .iso2022Jp3⟩,
  ⟨"iso2022_jp_2004", "iso2022_jp_2004",
    ["iso2022jp_2004", "iso_2022_jp_2004"], .eastAsian .iso2022Jp2004⟩,
  ⟨"shift_jisx0213", "shift_jisx0213",
    ["s_jisx0213", "shiftjisx0213", "sjisx0213"], .eastAsian .shiftJisX0213⟩,
  ⟨"shift_jis_2004", "shift_jis_2004",
    ["s_jis_2004", "shiftjis2004", "sjis_2004"], .eastAsian .shiftJis2004⟩,
  ⟨"euc_jisx0213", "euc_jisx0213", ["eucjisx0213"], .eastAsian .eucJisX0213⟩,
  ⟨"euc_jis_2004", "euc_jis_2004",
    ["euc_jis2004", "eucjis2004", "jisx0213"], .eastAsian .eucJis2004⟩,
  ⟨"cp1250", "cp1250", ["1250", "windows_1250"], .singleByte CharsetTable.cp1250⟩,
  ⟨"cp1251", "cp1251", ["1251", "windows_1251"], .singleByte CharsetTable.cp1251⟩,
  ⟨"cp1252", "cp1252", ["1252", "windows_1252"], .singleByte CharsetTable.cp1252⟩,
  ⟨"cp1253", "cp1253", ["1253", "windows_1253"], .singleByte CharsetTable.cp1253⟩,
  ⟨"cp1254", "cp1254", ["1254", "windows_1254"], .singleByte CharsetTable.cp1254⟩,
  ⟨"cp1255", "cp1255", ["1255", "windows_1255"], .singleByte CharsetTable.cp1255⟩,
  ⟨"cp1256", "cp1256", ["1256", "windows_1256"], .singleByte CharsetTable.cp1256⟩,
  ⟨"cp1257", "cp1257", ["1257", "windows_1257"], .singleByte CharsetTable.cp1257⟩,
  ⟨"cp1258", "cp1258", ["1258", "windows_1258"], .singleByte CharsetTable.cp1258⟩,
  ⟨"cp874", "cp874", [], .singleByte CharsetTable.cp874⟩,
  ⟨"kz1048", "kz1048", ["kz_1048", "rk1048", "strk1048_2002"], .singleByte CharsetTable.kz1048⟩,
  ⟨"ptcp154", "ptcp154",
    ["cp154", "csptcp154", "cyrillic_asian", "pt154"], .singleByte CharsetTable.ptcp154⟩,
  ⟨"iso8859_2", "iso8859-2",
    ["csisolatin2", "iso_8859_2", "iso_8859_2_1987", "iso_ir_101", "l2", "latin2"],
    .singleByte CharsetTable.iso8859Part2⟩,
  ⟨"iso8859_3", "iso8859-3",
    ["csisolatin3", "iso_8859_3", "iso_8859_3_1988", "iso_ir_109", "l3", "latin3"],
    .singleByte CharsetTable.iso8859Part3⟩,
  ⟨"iso8859_4", "iso8859-4",
    ["csisolatin4", "iso_8859_4", "iso_8859_4_1988", "iso_ir_110", "l4", "latin4"],
    .singleByte CharsetTable.iso8859Part4⟩,
  ⟨"iso8859_5", "iso8859-5",
    ["csisolatincyrillic", "cyrillic", "iso_8859_5", "iso_8859_5_1988", "iso_ir_144"],
    .singleByte CharsetTable.iso8859Part5⟩,
  ⟨"iso8859_6", "iso8859-6",
    ["arabic", "asmo_708", "csisolatinarabic", "ecma_114", "iso_8859_6", "iso_8859_6_1987",
      "iso_ir_127"], .singleByte CharsetTable.iso8859Part6⟩,
  ⟨"iso8859_7", "iso8859-7",
    ["csisolatingreek", "ecma_118", "elot_928", "greek", "greek8", "iso_8859_7",
      "iso_8859_7_1987", "iso_ir_126"], .singleByte CharsetTable.iso8859Part7⟩,
  ⟨"iso8859_8", "iso8859-8",
    ["csisolatinhebrew", "hebrew", "iso_8859_8", "iso_8859_8_1988", "iso_ir_138"],
    .singleByte CharsetTable.iso8859Part8⟩,
  ⟨"iso8859_9", "iso8859-9",
    ["csisolatin5", "iso_8859_9", "iso_8859_9_1989", "iso_ir_148", "l5", "latin5"],
    .singleByte CharsetTable.iso8859Part9⟩,
  ⟨"iso8859_10", "iso8859-10",
    ["csisolatin6", "iso_8859_10", "iso_8859_10_1992", "iso_ir_157", "l6", "latin6"],
    .singleByte CharsetTable.iso8859Part10⟩,
  ⟨"iso8859_11", "iso8859-11",
    ["iso_8859_11", "iso_8859_11_2001", "thai"], .singleByte CharsetTable.iso8859Part11⟩,
  ⟨"iso8859_13", "iso8859-13",
    ["iso_8859_13", "l7", "latin7"], .singleByte CharsetTable.iso8859Part13⟩,
  ⟨"iso8859_14", "iso8859-14",
    ["iso_8859_14", "iso_8859_14_1998", "iso_celtic", "iso_ir_199", "l8", "latin8"],
    .singleByte CharsetTable.iso8859Part14⟩,
  ⟨"iso8859_15", "iso8859-15",
    ["iso_8859_15", "l9", "latin9"], .singleByte CharsetTable.iso8859Part15⟩,
  ⟨"iso8859_16", "iso8859-16",
    ["iso_8859_16", "iso_8859_16_2001", "iso_ir_226", "l10", "latin10"],
    .singleByte CharsetTable.iso8859Part16⟩,
  ⟨"koi8_r", "koi8-r", ["cskoi8r"], .singleByte CharsetTable.koi8R⟩,
  ⟨"koi8_t", "koi8-t", [], .singleByte CharsetTable.koi8T⟩,
  ⟨"koi8_u", "koi8-u", [], .singleByte CharsetTable.koi8U⟩,
  ⟨"tis_620", "tis-620",
    ["iso_ir_166", "tis620", "tis_620_0", "tis_620_2529_0", "tis_620_2529_1"],
    .singleByte CharsetTable.tis620⟩,
  ⟨"hp_roman8", "hp-roman8",
    ["cp1051", "ibm1051", "r8", "roman8"], .singleByte CharsetTable.hpRoman8⟩,
  ⟨"cp437", "cp437", ["437", "cspc8codepage437", "ibm437"], .singleByte CharsetTable.cp437⟩,
  ⟨"cp720", "cp720", [], .singleByte CharsetTable.cp720⟩,
  ⟨"cp737", "cp737", [], .singleByte CharsetTable.cp737⟩,
  ⟨"cp775", "cp775", ["775", "cspc775baltic", "ibm775"], .singleByte CharsetTable.cp775⟩,
  ⟨"cp850", "cp850", ["850", "cspc850multilingual", "ibm850"], .singleByte CharsetTable.cp850⟩,
  ⟨"cp852", "cp852", ["852", "cspcp852", "ibm852"], .singleByte CharsetTable.cp852⟩,
  ⟨"cp855", "cp855", ["855", "csibm855", "ibm855"], .singleByte CharsetTable.cp855⟩,
  ⟨"cp856", "cp856", [], .singleByte CharsetTable.cp856⟩,
  ⟨"cp857", "cp857", ["857", "csibm857", "ibm857"], .singleByte CharsetTable.cp857⟩,
  ⟨"cp858", "cp858", ["858", "csibm858", "ibm858"], .singleByte CharsetTable.cp858⟩,
  ⟨"cp860", "cp860", ["860", "csibm860", "ibm860"], .singleByte CharsetTable.cp860⟩,
  ⟨"cp861", "cp861", ["861", "cp_is", "csibm861", "ibm861"], .singleByte CharsetTable.cp861⟩,
  ⟨"cp862", "cp862", ["862", "cspc862latinhebrew", "ibm862"], .singleByte CharsetTable.cp862⟩,
  ⟨"cp863", "cp863", ["863", "csibm863", "ibm863"], .singleByte CharsetTable.cp863⟩,
  ⟨"cp864", "cp864", ["864", "csibm864", "ibm864"], .singleByte CharsetTable.cp864⟩,
  ⟨"cp865", "cp865", ["865", "csibm865", "ibm865"], .singleByte CharsetTable.cp865⟩,
  ⟨"cp866", "cp866", ["866", "csibm866", "ibm866"], .singleByte CharsetTable.cp866⟩,
  ⟨"cp869", "cp869", ["869", "cp_gr", "csibm869", "ibm869"], .singleByte CharsetTable.cp869⟩,
  ⟨"cp1006", "cp1006", [], .singleByte CharsetTable.cp1006⟩,
  ⟨"cp1125", "cp1125", ["1125", "cp866u", "ibm1125", "ruscii"], .singleByte CharsetTable.cp1125⟩,
  ⟨"mac_arabic", "mac-arabic", [], .singleByte CharsetTable.macArabic⟩,
  ⟨"mac_croatian", "mac-croatian", [], .singleByte CharsetTable.macCroatian⟩,
  ⟨"mac_cyrillic", "mac-cyrillic", ["maccyrillic"], .singleByte CharsetTable.macCyrillic⟩,
  ⟨"mac_farsi", "mac-farsi", [], .singleByte CharsetTable.macFarsi⟩,
  ⟨"mac_greek", "mac-greek", ["macgreek"], .singleByte CharsetTable.macGreek⟩,
  ⟨"mac_iceland", "mac-iceland", ["maciceland"], .singleByte CharsetTable.macIceland⟩,
  ⟨"mac_latin2", "mac-latin2",
    ["mac_centeuro", "maccentraleurope", "maclatin2"], .singleByte CharsetTable.macLatin2⟩,
  ⟨"mac_roman", "mac-roman", ["macintosh", "macroman"], .singleByte CharsetTable.macRoman⟩,
  ⟨"mac_romanian", "mac-romanian", [], .singleByte CharsetTable.macRomanian⟩,
  ⟨"mac_turkish", "mac-turkish", ["macturkish"], .singleByte CharsetTable.macTurkish⟩,
  ⟨"palmos", "palmos", [], .singleByte CharsetTable.palmos⟩,
  ⟨"cp037", "cp037",
    ["037", "csibm037", "ebcdic_cp_ca", "ebcdic_cp_nl", "ebcdic_cp_us", "ebcdic_cp_wt",
      "ibm037", "ibm039"], .singleByte CharsetTable.cp037⟩,
  ⟨"cp273", "cp273", ["273", "csibm273", "ibm273"], .singleByte CharsetTable.cp273⟩,
  ⟨"cp424", "cp424",
    ["424", "csibm424", "ebcdic_cp_he", "ibm424"], .singleByte CharsetTable.cp424⟩,
  ⟨"cp500", "cp500",
    ["500", "csibm500", "ebcdic_cp_be", "ebcdic_cp_ch", "ibm500"], .singleByte CharsetTable.cp500⟩,
  ⟨"cp875", "cp875", [], .singleByte CharsetTable.cp875⟩,
  ⟨"cp1026", "cp1026", ["1026", "csibm1026", "ibm1026"], .singleByte CharsetTable.cp1026⟩,
  ⟨"cp1140", "cp1140", ["1140", "ibm1140"], .singleByte CharsetTable.cp1140⟩]

/-- A character that stays in the normal form of a charset name. -/
def isNameChar (c : Char) : Bool := c.isAlphanum || c == '.'

/-- The normal form of what is left of a charset name. `started` says that something stands before
it, and `gap` that other characters stand between. -/
def normalNameFrom (started gap : Bool) : Text → Text
  | [] => []
  | c :: rest =>
    if isNameChar c then
      (if gap && started then ['_', c.toLower] else [c.toLower]) ++ normalNameFrom true false rest
    else normalNameFrom started true rest

/-- The normal form of a charset name. -/
def normalName (name : Text) : Text := normalNameFrom false false name

/-- The charset that a name stands for. -/
def findCharset? (name : Text) : Option CharsetEntry :=
  let name := normalName name
  let dotless := name.map fun c => if c = '.' then '_' else c
  let isAlso (entry : CharsetEntry) (other : Text) :=
    entry.aliases.any fun known => known.toList = other
  charsetEntries.find? (isAlso · name) <|> charsetEntries.find? (isAlso · dotless) <|>
    charsetEntries.find? fun entry => entry.name.toList = name

end MailScreen
