import RegexInference.Unicode.Script

/-!
# Script extensions

Some characters belong to no script of their own and yet are written in certain scripts only, and
some characters of one script are borrowed by others.  A set named after a script holds what is also
written in it.
-/

namespace RegexInference.Unicode.ScriptExtension

def adlam : CodeSet := ⟨[
  0x61f, 0x620, 0x640, 0x641, 0x204f, 0x2050, 0x2e41, 0x2e42], by decide⟩

def caucasianAlbanian : CodeSet := ⟨[
  0x304, 0x305, 0x331, 0x332, 0x35e, 0x35f], by decide⟩

def arabic : CodeSet := ⟨[
  0x60c, 0x60d, 0x61b, 0x61c, 0x61f, 0x620, 0x640, 0x641, 0x64b, 0x656, 0x670, 0x671, 0x204f,
  0x2050, 0x2e41, 0x2e42, 0xfd3e, 0xfd40, 0x102e0, 0x102fc], by decide⟩

def armenian : CodeSet := ⟨[
  0x308, 0x309], by decide⟩

def avestan : CodeSet := ⟨[
  0xb7, 0xb8, 0x2e30, 0x2e32], by decide⟩

def bengali : CodeSet := ⟨[
  0x2bc, 0x2bd, 0x951, 0x953, 0x964, 0x966, 0x1cd0, 0x1cd1, 0x1cd2, 0x1cd3, 0x1cd5, 0x1cd7,
  0x1cd8, 0x1cd9, 0x1ce1, 0x1ce2, 0x1cea, 0x1ceb, 0x1ced, 0x1cee, 0x1cf2, 0x1cf3, 0x1cf5, 0x1cf8,
  0xa8f1, 0xa8f2], by decide⟩

def bopomofo : CodeSet := ⟨[
  0x2c7, 0x2c8, 0x2c9, 0x2cc, 0x2d9, 0x2da, 0x3001, 0x3004, 0x3008, 0x3012, 0x3013, 0x3020,
  0x302a, 0x302e, 0x3030, 0x3031, 0x3037, 0x3038, 0x30fb, 0x30fc, 0xfe45, 0xfe47, 0xff61, 0xff66], by decide⟩

def buginese : CodeSet := ⟨[
  0xa9cf, 0xa9d0], by decide⟩

def buhid : CodeSet := ⟨[
  0x1735, 0x1737], by decide⟩

def chakma : CodeSet := ⟨[
  0x9e6, 0x9f0, 0x1040, 0x104a], by decide⟩

def carian : CodeSet := ⟨[
  0xb7, 0xb8, 0x205a, 0x205b, 0x205d, 0x205e, 0x2e31, 0x2e32], by decide⟩

def cherokee : CodeSet := ⟨[
  0x300, 0x303, 0x304, 0x305, 0x30b, 0x30d, 0x323, 0x325, 0x330, 0x332], by decide⟩

def coptic : CodeSet := ⟨[
  0xb7, 0xb8, 0x300, 0x301, 0x304, 0x306, 0x307, 0x308, 0x374, 0x376, 0x2e17, 0x2e18, 0x102e0,
  0x102fc], by decide⟩

def cyproMinoan : CodeSet := ⟨[
  0x10100, 0x10102], by decide⟩

def cypriot : CodeSet := ⟨[
  0x10100, 0x10103, 0x10107, 0x10134, 0x10137, 0x10140], by decide⟩

def cyrillic : CodeSet := ⟨[
  0x2bc, 0x2bd, 0x300, 0x303, 0x304, 0x305, 0x306, 0x307, 0x308, 0x309, 0x30b, 0x30c, 0x311,
  0x312, 0x485, 0x487, 0x1df8, 0x1df9, 0x2e43, 0x2e44], by decide⟩

def devanagari : CodeSet := ⟨[
  0x2bc, 0x2bd, 0x951, 0x953, 0x964, 0x966, 0x1cd0, 0x1cf7, 0x1cf8, 0x1cfa, 0x20f0, 0x20f1,
  0xa830, 0xa83a], by decide⟩

def dogra : CodeSet := ⟨[
  0x964, 0x970, 0xa830, 0xa83a], by decide⟩

def duployan : CodeSet := ⟨[
  0xb7, 0xb8, 0x307, 0x309, 0x30a, 0x30b, 0x323, 0x325, 0x2e3c, 0x2e3d, 0x1bca0, 0x1bca4], by decide⟩

def elbasan : CodeSet := ⟨[
  0xb7, 0xb8, 0x305, 0x306], by decide⟩

def ethiopic : CodeSet := ⟨[
  0x30e, 0x30f], by decide⟩

def garay : CodeSet := ⟨[
  0x60c, 0x60d, 0x61b, 0x61c, 0x61f, 0x620], by decide⟩

def georgian : CodeSet := ⟨[
  0xb7, 0xb8, 0x589, 0x58a, 0x10fb, 0x10fc, 0x205a, 0x205b, 0x2e31, 0x2e32], by decide⟩

def glagolitic : CodeSet := ⟨[
  0xb7, 0xb8, 0x303, 0x304, 0x305, 0x306, 0x484, 0x485, 0x487, 0x488, 0x589, 0x58a, 0x10fb,
  0x10fc, 0x205a, 0x205b, 0x2e43, 0x2e44, 0xa66f, 0xa670], by decide⟩

def gunjalaGondi : CodeSet := ⟨[
  0xb7, 0xb8, 0x964, 0x966], by decide⟩

def masaramGondi : CodeSet := ⟨[
  0x964, 0x966], by decide⟩

def gothic : CodeSet := ⟨[
  0xb7, 0xb8, 0x304, 0x306, 0x308, 0x309, 0x331, 0x332], by decide⟩

def grantha : CodeSet := ⟨[
  0x951, 0x953, 0x964, 0x966, 0xbe6, 0xbf4, 0x1cd0, 0x1cd1, 0x1cd2, 0x1cd4, 0x1cf2, 0x1cf5,
  0x1cf8, 0x1cfa, 0x20f0, 0x20f1, 0x1133b, 0x1133c, 0x11fd0, 0x11fd2, 0x11fd3, 0x11fd4], by decide⟩

def greek : CodeSet := ⟨[
  0xb7, 0xb8, 0x300, 0x302, 0x304, 0x305, 0x306, 0x307, 0x308, 0x309, 0x313, 0x314, 0x342, 0x343,
  0x345, 0x346, 0x374, 0x375, 0x1dc0, 0x1dc2, 0x205d, 0x205e], by decide⟩

def gujarati : CodeSet := ⟨[
  0x951, 0x953, 0x964, 0x966, 0xa830, 0xa83a], by decide⟩

def gurungKhema : CodeSet := ⟨[
  0x965, 0x966], by decide⟩

def gurmukhi : CodeSet := ⟨[
  0x951, 0x953, 0x964, 0x966, 0xa830, 0xa83a], by decide⟩

def hangul : CodeSet := ⟨[
  0x3001, 0x3004, 0x3008, 0x3012, 0x3013, 0x3020, 0x3030, 0x3031, 0x3037, 0x3038, 0x30fb, 0x30fc,
  0xfe45, 0xfe47, 0xff61, 0xff66], by decide⟩

def han : CodeSet := ⟨[
  0xb7, 0xb8, 0x2ff0, 0x3000, 0x3001, 0x3004, 0x3006, 0x3007, 0x3008, 0x3012, 0x3013, 0x3020,
  0x302a, 0x302e, 0x3030, 0x3031, 0x3037, 0x3038, 0x303c, 0x3040, 0x30fb, 0x30fc, 0x3190, 0x31a0,
  0x31c0, 0x31e6, 0x31ef, 0x31f0, 0x3220, 0x3248, 0x3280, 0x32b1, 0x32c0, 0x32cc, 0x32ff, 0x3300,
  0x3358, 0x3371, 0x337b, 0x3380, 0x33e0, 0x33ff, 0xa700, 0xa708, 0xfe45, 0xfe47, 0xff61, 0xff66,
  0x1d360, 0x1d372, 0x1f250, 0x1f252], by decide⟩

def hanunoo : CodeSet := ⟨[
  0x1735, 0x1737], by decide⟩

def hebrew : CodeSet := ⟨[
  0x307, 0x309], by decide⟩

def hiragana : CodeSet := ⟨[
  0x3001, 0x3004, 0x3008, 0x3012, 0x3013, 0x3020, 0x3030, 0x3036, 0x3037, 0x3038, 0x303c, 0x303e,
  0x3099, 0x309d, 0x30a0, 0x30a1, 0x30fb, 0x30fd, 0xfe45, 0xfe47, 0xff61, 0xff66, 0xff70, 0xff71,
  0xff9e, 0xffa0], by decide⟩

def oldHungarian : CodeSet := ⟨[
  0x205a, 0x205b, 0x205d, 0x205e, 0x2e31, 0x2e32, 0x2e41, 0x2e42], by decide⟩

def javanese : CodeSet := ⟨[
  0xa9cf, 0xa9d0], by decide⟩

def kayahLi : CodeSet := ⟨[
  0xa92e, 0xa92f], by decide⟩

def katakana : CodeSet := ⟨[
  0x305, 0x306, 0x323, 0x324, 0x3001, 0x3004, 0x3008, 0x3012, 0x3013, 0x3020, 0x3030, 0x3036,
  0x3037, 0x3038, 0x303c, 0x303e, 0x3099, 0x309d, 0x30a0, 0x30a1, 0x30fb, 0x30fd, 0xfe45, 0xfe47,
  0xff61, 0xff66, 0xff70, 0xff71, 0xff9e, 0xffa0], by decide⟩

def khojki : CodeSet := ⟨[
  0xae6, 0xaf0, 0xa830, 0xa83a], by decide⟩

def kannada : CodeSet := ⟨[
  0x951, 0x953, 0x964, 0x966, 0x1cd0, 0x1cd1, 0x1cd2, 0x1cd4, 0x1cda, 0x1cdb, 0x1cf2, 0x1cf3,
  0x1cf4, 0x1cf5, 0xa830, 0xa836], by decide⟩

def kaithi : CodeSet := ⟨[
  0x966, 0x970, 0x2e31, 0x2e32, 0xa830, 0xa83a], by decide⟩

def latin : CodeSet := ⟨[
  0xb7, 0xb8, 0x2bc, 0x2bd, 0x2c7, 0x2c8, 0x2c9, 0x2cc, 0x2cd, 0x2ce, 0x2d7, 0x2d8, 0x2d9, 0x2da,
  0x300, 0x30f, 0x310, 0x312, 0x313, 0x314, 0x323, 0x326, 0x32d, 0x32f, 0x330, 0x332, 0x358,
  0x359, 0x35e, 0x35f, 0x363, 0x370, 0x485, 0x487, 0x951, 0x953, 0x10fb, 0x10fc, 0x1df8, 0x1df9,
  0x202f, 0x2030, 0x20f0, 0x20f1, 0x2e17, 0x2e18, 0xa700, 0xa708, 0xa92e, 0xa92f], by decide⟩

def limbu : CodeSet := ⟨[
  0x965, 0x966], by decide⟩

def linearA : CodeSet := ⟨[
  0x10107, 0x10134], by decide⟩

def linearB : CodeSet := ⟨[
  0x10100, 0x10103, 0x10107, 0x10134, 0x10137, 0x10140], by decide⟩

def lisu : CodeSet := ⟨[
  0x2bc, 0x2bd, 0x2cd, 0x2ce, 0x300a, 0x300c], by decide⟩

def lycian : CodeSet := ⟨[
  0x205a, 0x205b], by decide⟩

def lydian : CodeSet := ⟨[
  0xb7, 0xb8, 0x2e31, 0x2e32], by decide⟩

def mahajani : CodeSet := ⟨[
  0xb7, 0xb8, 0x964, 0x970, 0xa830, 0xa83a], by decide⟩

def mandaic : CodeSet := ⟨[
  0x640, 0x641], by decide⟩

def manichaean : CodeSet := ⟨[
  0x640, 0x641], by decide⟩

def meroiticHieroglyphs : CodeSet := ⟨[
  0x205d, 0x205e], by decide⟩

def malayalam : CodeSet := ⟨[
  0x951, 0x953, 0x964, 0x966, 0x1cda, 0x1cdb, 0x1cf2, 0x1cf3, 0xa830, 0xa833], by decide⟩

def modi : CodeSet := ⟨[
  0xa830, 0xa83a], by decide⟩

def mongolian : CodeSet := ⟨[
  0x1802, 0x1804, 0x1805, 0x1806, 0x202f, 0x2030, 0x3001, 0x3003, 0x3008, 0x300c], by decide⟩

def multani : CodeSet := ⟨[
  0xa66, 0xa70], by decide⟩

def myanmar : CodeSet := ⟨[
  0xa92e, 0xa92f], by decide⟩

def nandinagari : CodeSet := ⟨[
  0x951, 0x952, 0x964, 0x966, 0xce6, 0xcf0, 0x1ce9, 0x1cea, 0x1cf2, 0x1cf3, 0x1cfa, 0x1cfb,
  0xa830, 0xa836], by decide⟩

def newa : CodeSet := ⟨[
  0x951, 0x953, 0x1cd5, 0x1cd6, 0x1cd7, 0x1cd9, 0x1ce2, 0x1ce3, 0x1ce9, 0x1cea, 0x1ceb, 0x1cec,
  0x1ced, 0x1cee], by decide⟩

def nko : CodeSet := ⟨[
  0x60c, 0x60d, 0x61b, 0x61c, 0x61f, 0x620, 0xfd3e, 0xfd40], by decide⟩

def olOnal : CodeSet := ⟨[
  0x964, 0x966], by decide⟩

def oldTurkic : CodeSet := ⟨[
  0x205a, 0x205b, 0x2e30, 0x2e31], by decide⟩

def oriya : CodeSet := ⟨[
  0x951, 0x953, 0x964, 0x966, 0x1cda, 0x1cdb, 0x1cf2, 0x1cf3], by decide⟩

def osage : CodeSet := ⟨[
  0x301, 0x302, 0x304, 0x305, 0x30b, 0x30c, 0x358, 0x359], by decide⟩

def oldUyghur : CodeSet := ⟨[
  0x640, 0x641, 0x10af2, 0x10af3], by decide⟩

def oldPermic : CodeSet := ⟨[
  0xb7, 0xb8, 0x300, 0x301, 0x306, 0x309, 0x313, 0x314, 0x483, 0x484], by decide⟩

def phagsPa : CodeSet := ⟨[
  0x1802, 0x1804, 0x1805, 0x1806, 0x202f, 0x2030, 0x3002, 0x3003], by decide⟩

def psalterPahlavi : CodeSet := ⟨[
  0x640, 0x641], by decide⟩

def hanifiRohingya : CodeSet := ⟨[
  0x60c, 0x60d, 0x61b, 0x61c, 0x61f, 0x620, 0x640, 0x641, 0x6d4, 0x6d5], by decide⟩

def runic : CodeSet := ⟨[
  0x16eb, 0x16ee], by decide⟩

def samaritan : CodeSet := ⟨[
  0x2e31, 0x2e32], by decide⟩

def shavian : CodeSet := ⟨[
  0xb7, 0xb8], by decide⟩

def sharada : CodeSet := ⟨[
  0x951, 0x952, 0x1cd7, 0x1cd8, 0x1cd9, 0x1cda, 0x1cdc, 0x1cde, 0x1ce0, 0x1ce1, 0x1cea, 0x1ceb,
  0x1ced, 0x1cee, 0xa830, 0xa836, 0xa838, 0xa839], by decide⟩

def khudawadi : CodeSet := ⟨[
  0x964, 0x966, 0xa830, 0xa83a], by decide⟩

def sinhala : CodeSet := ⟨[
  0x964, 0x966, 0x1cf2, 0x1cf3], by decide⟩

def sogdian : CodeSet := ⟨[
  0x640, 0x641], by decide⟩

def sunuwar : CodeSet := ⟨[
  0x300, 0x302, 0x303, 0x304, 0x30d, 0x30e, 0x310, 0x311, 0x32d, 0x32e, 0x331, 0x332], by decide⟩

def sylotiNagri : CodeSet := ⟨[
  0x964, 0x966, 0x9e6, 0x9f0], by decide⟩

def syriac : CodeSet := ⟨[
  0x303, 0x305, 0x307, 0x309, 0x30a, 0x30b, 0x323, 0x326, 0x32d, 0x32f, 0x330, 0x332, 0x60c,
  0x60d, 0x61b, 0x61d, 0x61f, 0x620, 0x640, 0x641, 0x64b, 0x656, 0x670, 0x671, 0x1df8, 0x1df9,
  0x1dfa, 0x1dfb], by decide⟩

def tagbanwa : CodeSet := ⟨[
  0x1735, 0x1737], by decide⟩

def takri : CodeSet := ⟨[
  0x964, 0x966, 0xa830, 0xa83a], by decide⟩

def taiLe : CodeSet := ⟨[
  0x300, 0x302, 0x307, 0x309, 0x30c, 0x30d, 0x1040, 0x104a], by decide⟩

def tamil : CodeSet := ⟨[
  0x951, 0x953, 0x964, 0x966, 0x1cda, 0x1cdb, 0xa8f3, 0xa8f4, 0x11301, 0x11302, 0x11303, 0x11304,
  0x1133b, 0x1133d], by decide⟩

def tangut : CodeSet := ⟨[
  0x2ff0, 0x3000, 0x31ef, 0x31f0], by decide⟩

def telugu : CodeSet := ⟨[
  0x951, 0x953, 0x964, 0x966, 0x1cd5, 0x1cd7, 0x1cd8, 0x1cd9, 0x1cda, 0x1cdb, 0x1cf2, 0x1cf3], by decide⟩

def tifinagh : CodeSet := ⟨[
  0x302, 0x303, 0x304, 0x305, 0x306, 0x30a, 0x323, 0x324], by decide⟩

def tagalog : CodeSet := ⟨[
  0x1735, 0x1737], by decide⟩

def thaana : CodeSet := ⟨[
  0x60c, 0x60d, 0x61b, 0x61d, 0x61f, 0x620, 0x660, 0x66a, 0xfdf2, 0xfdf3, 0xfdfd, 0xfdfe], by decide⟩

def thai : CodeSet := ⟨[
  0x2bc, 0x2bd, 0x2d7, 0x2d8, 0x303, 0x304, 0x331, 0x332], by decide⟩

def tibetan : CodeSet := ⟨[
  0x3008, 0x300c], by decide⟩

def tirhuta : CodeSet := ⟨[
  0x951, 0x953, 0x964, 0x966, 0x1cd5, 0x1cd6, 0x1ce2, 0x1ce3, 0x1cf2, 0x1cf3, 0xa830, 0xa83a], by decide⟩

def todhri : CodeSet := ⟨[
  0x301, 0x302, 0x304, 0x305, 0x307, 0x308, 0x311, 0x312, 0x313, 0x314, 0x35e, 0x35f], by decide⟩

def toto : CodeSet := ⟨[
  0x2bc, 0x2bd], by decide⟩

def tuluTigalari : CodeSet := ⟨[
  0xce6, 0xcf0, 0x1cf2, 0x1cf3, 0x1cf4, 0x1cf5, 0xa830, 0xa836, 0xa8f1, 0xa8f2], by decide⟩

def yezidi : CodeSet := ⟨[
  0x60c, 0x60d, 0x61b, 0x61c, 0x61f, 0x620, 0x660, 0x66a], by decide⟩

def yi : CodeSet := ⟨[
  0x3001, 0x3003, 0x3008, 0x3012, 0x3014, 0x301c, 0x30fb, 0x30fc, 0xff61, 0xff66], by decide⟩

/-- The shared characters that a script takes part in, by its short name. -/
def shared : List (String × CodeSet) := [
  ("adlm", adlam),
  ("aghb", caucasianAlbanian),
  ("arab", arabic),
  ("armn", armenian),
  ("avst", avestan),
  ("beng", bengali),
  ("bopo", bopomofo),
  ("bugi", buginese),
  ("buhd", buhid),
  ("cakm", chakma),
  ("cari", carian),
  ("cher", cherokee),
  ("copt", coptic),
  ("cpmn", cyproMinoan),
  ("cprt", cypriot),
  ("cyrl", cyrillic),
  ("deva", devanagari),
  ("dogr", dogra),
  ("dupl", duployan),
  ("elba", elbasan),
  ("ethi", ethiopic),
  ("gara", garay),
  ("geor", georgian),
  ("glag", glagolitic),
  ("gong", gunjalaGondi),
  ("gonm", masaramGondi),
  ("goth", gothic),
  ("gran", grantha),
  ("grek", greek),
  ("gujr", gujarati),
  ("gukh", gurungKhema),
  ("guru", gurmukhi),
  ("hang", hangul),
  ("hani", han),
  ("hano", hanunoo),
  ("hebr", hebrew),
  ("hira", hiragana),
  ("hung", oldHungarian),
  ("java", javanese),
  ("kali", kayahLi),
  ("kana", katakana),
  ("khoj", khojki),
  ("knda", kannada),
  ("kthi", kaithi),
  ("latn", latin),
  ("limb", limbu),
  ("lina", linearA),
  ("linb", linearB),
  ("lisu", lisu),
  ("lyci", lycian),
  ("lydi", lydian),
  ("mahj", mahajani),
  ("mand", mandaic),
  ("mani", manichaean),
  ("mero", meroiticHieroglyphs),
  ("mlym", malayalam),
  ("modi", modi),
  ("mong", mongolian),
  ("mult", multani),
  ("mymr", myanmar),
  ("nand", nandinagari),
  ("newa", newa),
  ("nkoo", nko),
  ("onao", olOnal),
  ("orkh", oldTurkic),
  ("orya", oriya),
  ("osge", osage),
  ("ougr", oldUyghur),
  ("perm", oldPermic),
  ("phag", phagsPa),
  ("phlp", psalterPahlavi),
  ("rohg", hanifiRohingya),
  ("runr", runic),
  ("samr", samaritan),
  ("shaw", shavian),
  ("shrd", sharada),
  ("sind", khudawadi),
  ("sinh", sinhala),
  ("sogd", sogdian),
  ("sunu", sunuwar),
  ("sylo", sylotiNagri),
  ("syrc", syriac),
  ("tagb", tagbanwa),
  ("takr", takri),
  ("tale", taiLe),
  ("taml", tamil),
  ("tang", tangut),
  ("telu", telugu),
  ("tfng", tifinagh),
  ("tglg", tagalog),
  ("thaa", thaana),
  ("thai", thai),
  ("tibt", tibetan),
  ("tirh", tirhuta),
  ("todr", todhri),
  ("toto", toto),
  ("tutg", tuluTigalari),
  ("yezi", yezidi),
  ("yiii", yi)]

/-- All characters that are shared by certain scripts. -/
def anyShared : CodeSet := CodeSet.unionAll (shared.map Prod.snd)

/-- The characters that a script takes part in.  Those that belong to all scripts, or take the
script of the character before them, are left out where a list of scripts is known for them. -/
def ofName? (name : String) : Option CodeSet :=
  (Script.all.find? fun entry => entry.1.contains name).map fun (names, members) =>
    let short := names.headD ""
    if short = "zyyy" ∨ short = "zinh" then members.diff anyShared
    else
      match shared.lookup short with
      | some others => members.union others
      | none => members

end RegexInference.Unicode.ScriptExtension
