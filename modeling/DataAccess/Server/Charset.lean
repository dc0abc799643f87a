/-!
# Character sets and collations

The character sets that a MySQL connection can have, each with its collations: the ends of their
names after the name of the set.
-/

namespace DataAccess.Server

/-- The ends of the collations that all Unicode character sets have. -/
def unicodeCollations : List String := [
  "bin", "croatian_ci", "czech_ci", "danish_ci", "esperanto_ci", "estonian_ci", "general_ci",
  "german2_ci", "hungarian_ci", "icelandic_ci", "latvian_ci", "lithuanian_ci", "persian_ci",
  "polish_ci", "roman_ci", "romanian_ci", "sinhala_ci", "slovak_ci", "slovenian_ci", "spanish2_ci",
  "spanish_ci", "swedish_ci", "turkish_ci", "unicode_520_ci", "unicode_ci", "vietnamese_ci"]

/-- The ends of the collations that only `utf8mb4` has. -/
def weightedCollations : List String := [
  "0900_ai_ci", "0900_as_ci", "0900_as_cs", "0900_bin", "cs_0900_ai_ci", "cs_0900_as_cs",
  "da_0900_ai_ci", "da_0900_as_cs", "de_pb_0900_ai_ci", "de_pb_0900_as_cs", "eo_0900_ai_ci",
  "eo_0900_as_cs", "es_0900_ai_ci", "es_0900_as_cs", "es_trad_0900_ai_ci", "es_trad_0900_as_cs",
  "et_0900_ai_ci", "et_0900_as_cs", "hr_0900_ai_ci", "hr_0900_as_cs", "hu_0900_ai_ci",
  "hu_0900_as_cs", "is_0900_ai_ci", "is_0900_as_cs", "ja_0900_as_cs", "ja_0900_as_cs_ks",
  "la_0900_ai_ci", "la_0900_as_cs", "lt_0900_ai_ci", "lt_0900_as_cs", "lv_0900_ai_ci",
  "lv_0900_as_cs", "pl_0900_ai_ci", "pl_0900_as_cs", "ro_0900_ai_ci", "ro_0900_as_cs",
  "ru_0900_ai_ci", "ru_0900_as_cs", "sk_0900_ai_ci", "sk_0900_as_cs", "sl_0900_ai_ci",
  "sl_0900_as_cs", "sv_0900_ai_ci", "sv_0900_as_cs", "tr_0900_ai_ci", "tr_0900_as_cs",
  "vi_0900_ai_ci", "vi_0900_as_cs", "zh_0900_as_cs"]

/-- The character sets with the ends of their collations. The binary set has one collation, which
has its name. -/
def charsets : List (String × List String) := [
  ("armscii8", ["bin", "general_ci"]),
  ("ascii", ["bin", "general_ci"]),
  ("big5", ["bin", "chinese_ci"]),
  ("binary", []),
  ("cp1250", ["bin", "croatian_ci", "czech_cs", "general_ci", "polish_ci"]),
  ("cp1251", ["bin", "bulgarian_ci", "general_ci", "general_cs", "ukrainian_ci"]),
  ("cp1256", ["bin", "general_ci"]),
  ("cp1257", ["bin", "general_ci", "lithuanian_ci"]),
  ("cp850", ["bin", "general_ci"]),
  ("cp852", ["bin", "general_ci"]),
  ("cp866", ["bin", "general_ci"]),
  ("cp932", ["bin", "japanese_ci"]),
  ("dec8", ["bin", "swedish_ci"]),
  ("eucjpms", ["bin", "japanese_ci"]),
  ("euckr", ["bin", "korean_ci"]),
  ("gb18030", ["bin", "chinese_ci", "unicode_520_ci"]),
  ("gb2312", ["bin", "chinese_ci"]),
  ("gbk", ["bin", "chinese_ci"]),
  ("geostd8", ["bin", "general_ci"]),
  ("greek", ["bin", "general_ci"]),
  ("hebrew", ["bin", "general_ci"]),
  ("hp8", ["bin", "english_ci"]),
  ("keybcs2", ["bin", "general_ci"]),
  ("koi8r", ["bin", "general_ci"]),
  ("koi8u", ["bin", "general_ci"]),
  ("latin1", ["bin", "danish_ci", "general_ci", "general_cs", "german1_ci", "german2_ci",
    "spanish_ci", "swedish_ci"]),
  ("latin2", ["bin", "croatian_ci", "czech_cs", "general_ci", "hungarian_ci"]),
  ("latin5", ["bin", "turkish_ci"]),
  ("latin7", ["bin", "estonian_cs", "general_ci", "general_cs"]),
  ("macce", ["bin", "general_ci"]),
  ("macroman", ["bin", "general_ci"]),
  ("sjis", ["bin", "japanese_ci"]),
  ("swe7", ["bin", "swedish_ci"]),
  ("tis620", ["bin", "thai_ci"]),
  ("ucs2", "general_mysql500_ci" :: unicodeCollations),
  ("ujis", ["bin", "japanese_ci"]),
  ("utf16", unicodeCollations),
  ("utf16le", ["bin", "general_ci"]),
  ("utf32", unicodeCollations),
  ("utf8", "general_mysql500_ci" :: "tolower_ci" :: unicodeCollations),
  ("utf8mb4", weightedCollations ++ unicodeCollations)]

/-- Whether there is a character set with a name. -/
def isCharset (name : String) : Bool := charsets.any (·.1 == name)

/-- The names of the collations of a character set. -/
def collationsOf (set : String × List String) : List String :=
  if set.2.isEmpty then [set.1] else set.2.map fun ending => set.1 ++ "_" ++ ending

/-- Whether there is a collation with a name. -/
def isCollation (name : String) : Bool := charsets.any fun set => (collationsOf set).contains name

end DataAccess.Server
