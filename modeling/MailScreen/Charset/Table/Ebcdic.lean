/-!
# EBCDIC code pages

The characters of the code pages in which letters do not stand where ASCII has them. A string of
128 characters holds the upper half of a set whose lower half is ASCII, a string of 256 the whole
set. The replacement character stands where a set has none.
-/
namespace MailScreen.CharsetTable

/-- The characters of cp037. -/
def cp037 : String :=
  "\x00\x01\x02\x03\u009C\t\u0086\x7f\u0097\u008D\u008E\x0b\x0c\r\x0e\x0f\x10\x11\x12\x13" ++
  "\u009D\u0085\x08\u0087\x18\x19\u0092\u008F\x1c\x1d\x1e\x1f\u0080\u0081\u0082\u0083\u0084\n" ++
  "\x17\x1b\u0088\u0089\u008A\u008B\u008C\x05\x06\x07\u0090\u0091\x16\u0093\u0094\u0095\u0096" ++
  "\x04\u0098\u0099\u009A\u009B\x14\x15\u009E\x1a \u00A0âäàáãåçñ¢.<(+|&éêëèíîïìß!$*);¬-\x2fÂÄ" ++
  "ÀÁÃÅÇÑ¦,%_>?øÉÊËÈÍÎÏÌ`:#@'=\"Øabcdefghi«»ðýþ±°jklmnopqrªºæ¸Æ¤µ~stuvwxyz¡¿ÐÝÞ®^£¥·©§¶¼½¾[]¯" ++
  "¨´×\x7bABCDEFGHI\u00ADôöòóõ\x7dJKLMNOPQR¹ûüùúÿ\\÷STUVWXYZ²ÔÖÒÓÕ0123456789³ÛÜÙÚ\u009F"

/-- The characters of cp273. -/
def cp273 : String :=
  "\x00\x01\x02\x03\u009C\t\u0086\x7f\u0097\u008D\u008E\x0b\x0c\r\x0e\x0f\x10\x11\x12\x13" ++
  "\u009D\u0085\x08\u0087\x18\x19\u0092\u008F\x1c\x1d\x1e\x1f\u0080\u0081\u0082\u0083\u0084\n" ++
  "\x17\x1b\u0088\u0089\u008A\u008B\u008C\x05\x06\x07\u0090\u0091\x16\u0093\u0094\u0095\u0096" ++
  "\x04\u0098\u0099\u009A\u009B\x14\x15\u009E\x1a \u00A0â\x7bàáãåçñÄ.<(+!&éêëèíîïì~Ü$*);^-" ++
  "\x2fÂ[ÀÁÃÅÇÑö,%_>?øÉÊËÈÍÎÏÌ`:#§'=\"Øabcdefghi«»ðýþ±°jklmnopqrªºæ¸Æ¤µßstuvwxyz¡¿ÐÝÞ®¢£¥·©@¶" ++
  "¼½¾¬|‾¨´×äABCDEFGHI\u00ADô¦òóõüJKLMNOPQR¹û\x7dùúÿÖ÷STUVWXYZ²Ô\\ÒÓÕ0123456789³Û]ÙÚ\u009F"

/-- The characters of cp424. -/
def cp424 : String :=
  "\x00\x01\x02\x03\u009C\t\u0086\x7f\u0097\u008D\u008E\x0b\x0c\r\x0e\x0f\x10\x11\x12\x13" ++
  "\u009D\u0085\x08\u0087\x18\x19\u0092\u008F\x1c\x1d\x1e\x1f\u0080\u0081\u0082\u0083\u0084\n" ++
  "\x17\x1b\u0088\u0089\u008A\u008B\u008C\x05\x06\x07\u0090\u0091\x16\u0093\u0094\u0095\u0096" ++
  "\x04\u0098\u0099\u009A\u009B\x14\x15\u009E\x1a \u05D0\u05D1\u05D2\u05D3\u05D4\u05D5\u05D6" ++
  "\u05D7\u05D8¢.<(+|&\u05D9\u05DA\u05DB\u05DC\u05DD\u05DE\u05DF\u05E0\u05E1!$*);¬-\x2f\u05E2" ++
  "\u05E3\u05E4\u05E5\u05E6\u05E7\u05E8\u05E9¦,%_>?\uFFFD\u05EA\uFFFD\uFFFD\u00A0\uFFFD\uFFFD" ++
  "\uFFFD‗`:#@'=\"\uFFFDabcdefghi«»\uFFFD\uFFFD\uFFFD±°jklmnopqr\uFFFD\uFFFD\uFFFD¸\uFFFD¤µ~s" ++
  "tuvwxyz\uFFFD\uFFFD\uFFFD\uFFFD\uFFFD®^£¥·©§¶¼½¾[]¯¨´×\x7bABCDEFGHI\u00AD\uFFFD\uFFFD" ++
  "\uFFFD\uFFFD\uFFFD\x7dJKLMNOPQR¹\uFFFD\uFFFD\uFFFD\uFFFD\uFFFD\\÷STUVWXYZ²\uFFFD\uFFFD" ++
  "\uFFFD\uFFFD\uFFFD0123456789³\uFFFD\uFFFD\uFFFD\uFFFD\u009F"

/-- The characters of cp500. -/
def cp500 : String :=
  "\x00\x01\x02\x03\u009C\t\u0086\x7f\u0097\u008D\u008E\x0b\x0c\r\x0e\x0f\x10\x11\x12\x13" ++
  "\u009D\u0085\x08\u0087\x18\x19\u0092\u008F\x1c\x1d\x1e\x1f\u0080\u0081\u0082\u0083\u0084\n" ++
  "\x17\x1b\u0088\u0089\u008A\u008B\u008C\x05\x06\x07\u0090\u0091\x16\u0093\u0094\u0095\u0096" ++
  "\x04\u0098\u0099\u009A\u009B\x14\x15\u009E\x1a \u00A0âäàáãåçñ[.<(+!&éêëèíîïìß]$*);^-\x2fÂÄ" ++
  "ÀÁÃÅÇÑ¦,%_>?øÉÊËÈÍÎÏÌ`:#@'=\"Øabcdefghi«»ðýþ±°jklmnopqrªºæ¸Æ¤µ~stuvwxyz¡¿ÐÝÞ®¢£¥·©§¶¼½¾¬|¯" ++
  "¨´×\x7bABCDEFGHI\u00ADôöòóõ\x7dJKLMNOPQR¹ûüùúÿ\\÷STUVWXYZ²ÔÖÒÓÕ0123456789³ÛÜÙÚ\u009F"

/-- The characters of cp875. -/
def cp875 : String :=
  "\x00\x01\x02\x03\u009C\t\u0086\x7f\u0097\u008D\u008E\x0b\x0c\r\x0e\x0f\x10\x11\x12\x13" ++
  "\u009D\u0085\x08\u0087\x18\x19\u0092\u008F\x1c\x1d\x1e\x1f\u0080\u0081\u0082\u0083\u0084\n" ++
  "\x17\x1b\u0088\u0089\u008A\u008B\u008C\x05\x06\x07\u0090\u0091\x16\u0093\u0094\u0095\u0096" ++
  "\x04\u0098\u0099\u009A\u009B\x14\x15\u009E\x1a ΑΒΓΔΕΖΗΘΙ[.<(+!&ΚΛΜΝΞΟΠΡΣ]$*);^-\x2fΤΥΦΧΨΩΪ" ++
  "Ϋ|,%_>?¨ΆΈΉ\u00A0ΊΌΎΏ`:#@'=\"΅abcdefghiαβγδεζ°jklmnopqrηθικλμ´~stuvwxyzνξοπρσ£άέήϊίόύϋώςτυ" ++
  "φχψ\x7bABCDEFGHI\u00ADωΐΰ‘―\x7dJKLMNOPQR±½\x1a·’¦\\\x1aSTUVWXYZ²§\x1a\x1a«¬0123456789³©" ++
  "\x1a\x1a»\u009F"

/-- The characters of cp1026. -/
def cp1026 : String :=
  "\x00\x01\x02\x03\u009C\t\u0086\x7f\u0097\u008D\u008E\x0b\x0c\r\x0e\x0f\x10\x11\x12\x13" ++
  "\u009D\u0085\x08\u0087\x18\x19\u0092\u008F\x1c\x1d\x1e\x1f\u0080\u0081\u0082\u0083\u0084\n" ++
  "\x17\x1b\u0088\u0089\u008A\u008B\u008C\x05\x06\x07\u0090\u0091\x16\u0093\u0094\u0095\u0096" ++
  "\x04\u0098\u0099\u009A\u009B\x14\x15\u009E\x1a \u00A0âäàáãå\x7bñÇ.<(+!&éêëèíîïìßĞİ*);^-" ++
  "\x2fÂÄÀÁÃÅ[Ñş,%_>?øÉÊËÈÍÎÏÌı:ÖŞ'=ÜØabcdefghi«»\x7d`¦±°jklmnopqrªºæ¸Æ¤µöstuvwxyz¡¿]$@®¢£¥·©" ++
  "§¶¼½¾¬|¯¨´×çABCDEFGHI\u00ADô~òóõğJKLMNOPQR¹û\\ùúÿü÷STUVWXYZ²Ô#ÒÓÕ0123456789³Û\"ÙÚ\u009F"

/-- The characters of cp1140. -/
def cp1140 : String :=
  "\x00\x01\x02\x03\u009C\t\u0086\x7f\u0097\u008D\u008E\x0b\x0c\r\x0e\x0f\x10\x11\x12\x13" ++
  "\u009D\u0085\x08\u0087\x18\x19\u0092\u008F\x1c\x1d\x1e\x1f\u0080\u0081\u0082\u0083\u0084\n" ++
  "\x17\x1b\u0088\u0089\u008A\u008B\u008C\x05\x06\x07\u0090\u0091\x16\u0093\u0094\u0095\u0096" ++
  "\x04\u0098\u0099\u009A\u009B\x14\x15\u009E\x1a \u00A0âäàáãåçñ¢.<(+|&éêëèíîïìß!$*);¬-\x2fÂÄ" ++
  "ÀÁÃÅÇÑ¦,%_>?øÉÊËÈÍÎÏÌ`:#@'=\"Øabcdefghi«»ðýþ±°jklmnopqrªºæ¸Æ€µ~stuvwxyz¡¿ÐÝÞ®^£¥·©§¶¼½¾[]¯" ++
  "¨´×\x7bABCDEFGHI\u00ADôöòóõ\x7dJKLMNOPQR¹ûüùúÿ\\÷STUVWXYZ²ÔÖÒÓÕ0123456789³ÛÜÙÚ\u009F"

end MailScreen.CharsetTable
