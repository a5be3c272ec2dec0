set_option autoImplicit false

/-! # Code pages

A code page is an encoding of one byte a character that agrees with ASCII below `0x80`. It is given
by the characters of the upper half of the bytes. Some bytes stand for no character; the table has
U+FFFD for them, which no page contains. -/

namespace RelyingParty

/-- The code pages that are known. -/
inductive CodePage where
  /-- Central European, with symbols below U+00A0. -/
  | windows1250
  /-- Cyrillic, with symbols and letters of other languages. -/
  | windows1251
  /-- Western European, with symbols below U+00A0. -/
  | windows1252
  /-- Greek, with symbols below U+00A0. -/
  | windows1253
  /-- Turkish, with symbols below U+00A0. -/
  | windows1254
  /-- Baltic, with symbols below U+00A0. -/
  | windows1257
  /-- Letters, lines and symbols of the first personal computers. -/
  | ibm437
  /-- The same for Western European languages. -/
  | ibm850
  /-- The same for Cyrillic. -/
  | ibm866
  /-- Central European. -/
  | latin2
  /-- Cyrillic. -/
  | cyrillic
  /-- Greek. -/
  | greek
  /-- Turkish. -/
  | latin5
  /-- Western European, with the sign of the euro. -/
  | latin9
  /-- Russian, in the order of the Latin letters that sound alike. -/
  | koi8r
  /-- The same for Ukrainian. -/
  | koi8u
  /-- Western European, in an order of its own. -/
  | macRoman
  deriving DecidableEq, Repr

namespace CodePage

/-- The character for a byte without one. -/
def missing : Char := '\uFFFD'

/-- The control characters from U+0080 to U+009F. -/
def controls : List Char := (List.range 32).map fun n => Char.ofNat (0x80 + n)

/-- The characters of the upper half. -/
def upper : CodePage → List Char
  | .windows1250 =>
    ("€�‚�„…†‡�‰Š‹ŚŤŽŹ�‘’“”•–—�™š›śťžź"
      ++ "\u00a0\u02c7\u02d8Ł¤Ą¦§\u00a8©Ş«¬\u00ad®Ż°±\u02dbł\u00b4µ¶·\u00b8ąş»Ľ\u02ddľż"
      ++ "ŔÁÂĂÄĹĆÇČÉĘËĚÍÎĎĐŃŇÓÔŐÖ×ŘŮÚŰÜÝŢß"
      ++ "ŕáâăäĺćçčéęëěíîďđńňóôőö÷řůúűüýţ\u02d9").toList
  | .windows1251 =>
    ("ЂЃ‚ѓ„…†‡€‰Љ‹ЊЌЋЏђ‘’“”•–—�™љ›њќћџ"
      ++ "\u00a0ЎўЈ¤Ґ¦§Ё©Є«¬\u00ad®Ї°±Ііґµ¶·ё№є»јЅѕї"
      ++ "АБВГДЕЖЗИЙКЛМНОПРСТУФХЦЧШЩЪЫЬЭЮЯ"
      ++ "абвгдежзийклмнопрстуфхцчшщъыьэюя").toList
  | .windows1252 =>
    ("€�‚ƒ„…†‡\u02c6‰Š‹Œ�Ž��‘’“”•–—\u02dc™š›œ�žŸ"
      ++ "\u00a0¡¢£¤¥¦§\u00a8©ª«¬\u00ad®\u00af°±²³\u00b4µ¶·\u00b8¹º»¼½¾¿"
      ++ "ÀÁÂÃÄÅÆÇÈÉÊËÌÍÎÏÐÑÒÓÔÕÖ×ØÙÚÛÜÝÞß"
      ++ "àáâãäåæçèéêëìíîïðñòóôõö÷øùúûüýþÿ").toList
  | .windows1253 =>
    ("€�‚ƒ„…†‡�‰�‹�����‘’“”•–—�™�›����"
      ++ "\u00a0\u0385Ά£¤¥¦§\u00a8©�«¬\u00ad®―°±²³\u0384µ¶·ΈΉΊ»Ό½ΎΏ"
      ++ "ΐΑΒΓΔΕΖΗΘΙΚΛΜΝΞΟΠΡ�ΣΤΥΦΧΨΩΪΫάέήί"
      ++ "ΰαβγδεζηθικλμνξοπρςστυφχψωϊϋόύώ�").toList
  | .windows1254 =>
    ("€�‚ƒ„…†‡\u02c6‰Š‹Œ����‘’“”•–—\u02dc™š›œ��Ÿ"
      ++ "\u00a0¡¢£¤¥¦§\u00a8©ª«¬\u00ad®\u00af°±²³\u00b4µ¶·\u00b8¹º»¼½¾¿"
      ++ "ÀÁÂÃÄÅÆÇÈÉÊËÌÍÎÏĞÑÒÓÔÕÖ×ØÙÚÛÜİŞß"
      ++ "àáâãäåæçèéêëìíîïğñòóôõö÷øùúûüışÿ").toList
  | .windows1257 =>
    ("€�‚�„…†‡�‰�‹�\u00a8\u02c7\u00b8�‘’“”•–—�™�›�\u00af\u02db�"
      ++ "\u00a0�¢£¤�¦§Ø©Ŗ«¬\u00ad®Æ°±²³\u00b4µ¶·ø¹ŗ»¼½¾æ"
      ++ "ĄĮĀĆÄÅĘĒČÉŹĖĢĶĪĻŠŃŅÓŌÕÖ×ŲŁŚŪÜŻŽß"
      ++ "ąįāćäåęēčéźėģķīļšńņóōõö÷ųłśūüżž\u02d9").toList
  | .ibm437 =>
    ("ÇüéâäàåçêëèïîìÄÅÉæÆôöòûùÿÖÜ¢£¥₧ƒ"
      ++ "áíóúñÑªº¿⌐¬½¼¡«»░▒▓│┤╡╢╖╕╣║╗╝╜╛┐"
      ++ "└┴┬├─┼╞╟╚╔╩╦╠═╬╧╨╤╥╙╘╒╓╫╪┘┌█▄▌▐▀"
      ++ "αßΓπΣσµτΦΘΩδ∞φε∩≡±≥≤⌠⌡÷≈°∙·√\u207f²■\u00a0").toList
  | .ibm850 =>
    ("ÇüéâäàåçêëèïîìÄÅÉæÆôöòûùÿÖÜø£Ø×ƒ"
      ++ "áíóúñÑªº¿®¬½¼¡«»░▒▓│┤ÁÂÀ©╣║╗╝¢¥┐"
      ++ "└┴┬├─┼ãÃ╚╔╩╦╠═╬¤ðÐÊËÈıÍÎÏ┘┌█▄¦Ì▀"
      ++ "ÓßÔÒõÕµþÞÚÛÙýÝ\u00af\u00b4\u00ad±‗¾¶§÷\u00b8°\u00a8·¹³²■\u00a0").toList
  | .ibm866 =>
    ("АБВГДЕЖЗИЙКЛМНОПРСТУФХЦЧШЩЪЫЬЭЮЯ"
      ++ "абвгдежзийклмноп░▒▓│┤╡╢╖╕╣║╗╝╜╛┐"
      ++ "└┴┬├─┼╞╟╚╔╩╦╠═╬╧╨╤╥╙╘╒╓╫╪┘┌█▄▌▐▀"
      ++ "рстуфхцчшщъыьэюяЁёЄєЇїЎў°∙·√№¤■\u00a0").toList
  | .latin2 =>
    controls ++ ("\u00a0Ą\u02d8Ł¤ĽŚ§\u00a8ŠŞŤŹ\u00adŽŻ°ą\u02dbł\u00b4ľś\u02c7\u00b8šşťź\u02ddžż"
      ++ "ŔÁÂĂÄĹĆÇČÉĘËĚÍÎĎĐŃŇÓÔŐÖ×ŘŮÚŰÜÝŢß"
      ++ "ŕáâăäĺćçčéęëěíîďđńňóôőö÷řůúűüýţ\u02d9").toList
  | .cyrillic =>
    controls ++ ("\u00a0ЁЂЃЄЅІЇЈЉЊЋЌ\u00adЎЏАБВГДЕЖЗИЙКЛМНОП"
      ++ "РСТУФХЦЧШЩЪЫЬЭЮЯабвгдежзийклмноп"
      ++ "рстуфхцчшщъыьэюя№ёђѓєѕіїјљњћќ§ўџ").toList
  | .greek =>
    controls ++ ("\u00a0‘’£€₯¦§\u00a8©\u037a«¬\u00ad�―°±²³\u0384\u0385Ά·ΈΉΊ»Ό½ΎΏ"
      ++ "ΐΑΒΓΔΕΖΗΘΙΚΛΜΝΞΟΠΡ�ΣΤΥΦΧΨΩΪΫάέήί"
      ++ "ΰαβγδεζηθικλμνξοπρςστυφχψωϊϋόύώ�").toList
  | .latin5 =>
    controls ++ ("\u00a0¡¢£¤¥¦§\u00a8©ª«¬\u00ad®\u00af°±²³\u00b4µ¶·\u00b8¹º»¼½¾¿"
      ++ "ÀÁÂÃÄÅÆÇÈÉÊËÌÍÎÏĞÑÒÓÔÕÖ×ØÙÚÛÜİŞß"
      ++ "àáâãäåæçèéêëìíîïğñòóôõö÷øùúûüışÿ").toList
  | .latin9 =>
    controls ++ ("\u00a0¡¢£€¥Š§š©ª«¬\u00ad®\u00af°±²³Žµ¶·ž¹º»ŒœŸ¿"
      ++ "ÀÁÂÃÄÅÆÇÈÉÊËÌÍÎÏÐÑÒÓÔÕÖ×ØÙÚÛÜÝÞß"
      ++ "àáâãäåæçèéêëìíîïðñòóôõö÷øùúûüýþÿ").toList
  | .koi8r =>
    ("─│┌┐└┘├┤┬┴┼▀▄█▌▐░▒▓⌠■∙√≈≤≥\u00a0⌡°²·÷"
      ++ "═║╒ё╓╔╕╖╗╘╙╚╛╜╝╞╟╠╡Ё╢╣╤╥╦╧╨╩╪╫╬©"
      ++ "юабцдефгхийклмнопярстужвьызшэщчъ"
      ++ "ЮАБЦДЕФГХИЙКЛМНОПЯРСТУЖВЬЫЗШЭЩЧЪ").toList
  | .koi8u =>
    ("─│┌┐└┘├┤┬┴┼▀▄█▌▐░▒▓⌠■∙√≈≤≥\u00a0⌡°²·÷"
      ++ "═║╒ёє╔ії╗╘╙╚╛ґ╝╞╟╠╡ЁЄ╣ІЇ╦╧╨╩╪Ґ╬©"
      ++ "юабцдефгхийклмнопярстужвьызшэщчъ"
      ++ "ЮАБЦДЕФГХИЙКЛМНОПЯРСТУЖВЬЫЗШЭЩЧЪ").toList
  | .macRoman =>
    ("ÄÅÇÉÑÖÜáàâäãåçéèêëíìîïñóòôöõúùûü"
      ++ "†°¢£§•¶ß®©™\u00b4\u00a8≠ÆØ∞±≤≥¥µ∂∑∏π∫ªºΩæø"
      ++ "¿¡¬√ƒ≈∆«»…\u00a0ÀÃÕŒœ–—“”‘’÷◊ÿŸ⁄€‹›ﬁﬂ"
      ++ "‡·‚„‰ÂÊÁËÈÍÎÏÌÓÔ\uf8ffÒÚÛÙı\u02c6\u02dc\u00af\u02d8\u02d9\u02da\u00b8\u02dd\u02db\u02c7").toList

/-- The names of the code pages, in lower case and with underscores. -/
def names : List (String × CodePage) :=
  [("cp1250", .windows1250), ("1250", .windows1250), ("windows_1250", .windows1250),
   ("cp1251", .windows1251), ("1251", .windows1251), ("windows_1251", .windows1251),
   ("cp1252", .windows1252), ("1252", .windows1252), ("windows_1252", .windows1252),
   ("cp1253", .windows1253), ("1253", .windows1253), ("windows_1253", .windows1253),
   ("cp1254", .windows1254), ("1254", .windows1254), ("windows_1254", .windows1254),
   ("cp1257", .windows1257), ("1257", .windows1257), ("windows_1257", .windows1257),
   ("cp437", .ibm437), ("437", .ibm437), ("cspc8codepage437", .ibm437), ("ibm437", .ibm437),
   ("cp850", .ibm850), ("850", .ibm850), ("cspc850multilingual", .ibm850), ("ibm850", .ibm850),
   ("cp866", .ibm866), ("866", .ibm866), ("csibm866", .ibm866), ("ibm866", .ibm866),
   ("iso8859_2", .latin2), ("csisolatin2", .latin2), ("iso_8859_2", .latin2),
   ("iso_8859_2_1987", .latin2), ("iso_ir_101", .latin2), ("l2", .latin2), ("latin2", .latin2),
   ("iso8859_5", .cyrillic), ("csisolatincyrillic", .cyrillic), ("cyrillic", .cyrillic),
   ("iso_8859_5", .cyrillic), ("iso_8859_5_1988", .cyrillic), ("iso_ir_144", .cyrillic),
   ("iso8859_7", .greek), ("csisolatingreek", .greek), ("ecma_118", .greek),
   ("elot_928", .greek), ("greek", .greek), ("greek8", .greek), ("iso_8859_7", .greek),
   ("iso_8859_7_1987", .greek), ("iso_ir_126", .greek), ("iso8859_9", .latin5),
   ("csisolatin5", .latin5), ("iso_8859_9", .latin5), ("iso_8859_9_1989", .latin5),
   ("iso_ir_148", .latin5), ("l5", .latin5), ("latin5", .latin5), ("iso8859_15", .latin9),
   ("iso_8859_15", .latin9), ("l9", .latin9), ("latin9", .latin9), ("koi8_r", .koi8r),
   ("cskoi8r", .koi8r), ("koi8_u", .koi8u), ("mac_roman", .macRoman), ("macintosh", .macRoman),
   ("macroman", .macRoman)]

/-- The character of a byte. -/
def decodeByte? (p : CodePage) (b : UInt8) : Option Char :=
  if b < 0x80 then some (Char.ofNat b.toNat)
  else (p.upper[b.toNat - 0x80]?).filter (· != missing)

/-- The byte of a character. -/
def encodeChar? (p : CodePage) (c : Char) : Option UInt8 :=
  if c.toNat < 0x80 then some (UInt8.ofNat c.toNat)
  else if c = missing then none
  else (p.upper.idxOf? c).map fun n => UInt8.ofNat (0x80 + n)

end CodePage

end RelyingParty
