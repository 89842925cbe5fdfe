/-!
# Characters with more than one plain character

Ligatures, numbers in circles and brackets, units and abbreviations, as rows of
the words they are written out to. A space stands where a name can hold neither
the character nor a word for it.
-/

namespace FuturesDesk.Url.Mapping

/-- The first code point of a row, and the words from there on. -/
def wordRows : List (Nat × List String) :=
  [(0xB9, ["1", "o", "»", "1⁄4", "1⁄2", "3⁄4"]), (0x130, ["i\u0307", "ı", "ij", "ij", "ĵ", "ĵ", "ķ"]),
   (0x13F, ["l·", "l·"]), (0x149, ["ʼn"]), (0x1C4, ["dž", "dž", "dž", "lj", "lj", "lj", "nj", "nj", "nj"]),
   (0x1F1, ["dz", "dz", "dz", "ǵ", "ǵ", "ƕ", "ƿ"]),
   (0x340, ["\u0300", "\u0301", "\u0342", "\u0313", "\u0308\u0301", "ι"]), (0x587, ["եւ"]),
   (0x675, ["\u0627\u0674", "\u0648\u0674", "\u06C7\u0674", "\u064A\u0674"]),
   (0x958, ["क\u093C", "ख\u093C", "ग\u093C", "ज\u093C", "ड\u093C", "ढ\u093C", "फ\u093C", "य\u093C"]),
   (0x9DC, ["ড\u09BC", "ঢ\u09BC", " ", "য\u09BC"]), (0xA33, ["ਲ\u0A3C", " ", "ਵ", "ਸ\u0A3C"]),
   (0xA59, ["ਖ\u0A3C", "ਗ\u0A3C", "ਜ\u0A3C", "ੜ", " ", "ਫ\u0A3C"]), (0xB5C, ["ଡ\u0B3C", "ଢ\u0B3C"]),
   (0xE33, ["\u0E4Dา"]), (0xEB3, ["\u0ECDາ"]), (0xEDC, ["ຫນ", "ຫມ"]), (0xF43, ["ག\u0FB7"]), (0xF4D, ["ཌ\u0FB7"]),
   (0xF52, ["ད\u0FB7"]), (0xF57, ["བ\u0FB7"]), (0xF5C, ["ཛ\u0FB7"]), (0xF69, ["ཀ\u0FB5"]),
   (0xF73, ["\u0F71\u0F72", "\u0F74", "\u0F71\u0F74", "\u0FB2\u0F80", "\u0FB2\u0F71\u0F80", "\u0FB3\u0F80",
     "\u0FB3\u0F71\u0F80"]),
   (0xF81, ["\u0F71\u0F80"]), (0xF93, ["\u0F92\u0FB7"]), (0xF9D, ["\u0F9C\u0FB7"]), (0xFA2, ["\u0FA1\u0FB7"]),
   (0xFA7, ["\u0FA6\u0FB7"]), (0xFAC, ["\u0FAB\u0FB7"]), (0xFB9, ["\u0F90\u0FB5"]),
   (0x1E9A, ["aʾ", "ṡ", "ẜ", "ẝ", "ß"]),
   (0x1F80, ["ἀι", "ἁι", "ἂι", "ἃι", "ἄι", "ἅι", "ἆι", "ἇι", "ἀι", "ἁι", "ἂι", "ἃι", "ἄι", "ἅι", "ἆι", "ἇι", "ἠι", "ἡι",
     "ἢι", "ἣι", "ἤι", "ἥι", "ἦι", "ἧι", "ἠι", "ἡι", "ἢι", "ἣι", "ἤι", "ἥι", "ἦι", "ἧι", "ὠι", "ὡι", "ὢι", "ὣι",
     "ὤι", "ὥι", "ὦι", "ὧι", "ὠι", "ὡι", "ὢι", "ὣι", "ὤι", "ὥι", "ὦι", "ὧι", "ᾰ", "ᾱ", "ὰι", "αι", "άι", " ",
     "ᾶ", "ᾶι", "ᾰ", "ᾱ", "ὰ", "ά", "αι", " ", "ι"]),
   (0x1FC2, ["ὴι", "ηι", "ήι", " ", "ῆ", "ῆι", "ὲ", "έ", "ὴ", "ή", "ηι"]),
   (0x1FE8, ["ῠ", "ῡ", "ὺ", "ύ", "ῥ", " ", " ", "`", " ", " ", "ὼι", "ωι", "ώι", " ", "ῶ", "ῶι", "ὸ", "ό", "ὼ", "ώ",
     "ωι"]),
   (0x2033, ["′′", "′′′", "‵", "‵‵", "‵‵‵"]), (0x203C, ["!!"]), (0x2057, ["′′′′"]), (0x20A8, ["rs"]),
   (0x2102, ["c", "°c"]),
   (0x2107, ["ɛ", "℈", "°f", "g", "h", "h", "h", "h", "ħ", "i", "i", "l", "l", "℔", "n", "no", "℗", "℘", "p", "q", "r",
     "r", "r", "℞", "℟", "sm", "tel", "tm"]),
   (0x2124, ["z", "℥", "ω", "℧", "z", "℩", "k", "å", "b", "c", "℮", "e", "e", "f", "ⅎ", "m", "o", "\u05D0", "\u05D1",
     "\u05D2", "\u05D3", "i", "℺", "fax", "π", "γ", "γ", "π", "∑"]),
   (0x2150, ["1⁄7", "1⁄9", "1⁄10", "1⁄3", "2⁄3", "1⁄5", "2⁄5", "3⁄5", "4⁄5", "1⁄6", "5⁄6", "1⁄8", "3⁄8", "5⁄8", "7⁄8",
     "1⁄", "i", "ii", "iii", "iv", "v", "vi", "vii", "viii", "ix", "x", "xi", "xii", "l", "c", "d", "m", "i",
     "ii", "iii", "iv", "v", "vi", "vii", "viii", "ix", "x", "xi", "xii", "l", "c", "d", "m"]),
   (0x2189, ["0⁄3"]), (0x222C, ["∫∫", "∫∫∫", "∮", "∮∮", "∮∮∮"]),
   (0x2469, ["10", "11", "12", "13", "14", "15", "16", "17", "18", "19", "20", "(1)", "(2)", "(3)", "(4)", "(5)", "(6)",
     "(7)", "(8)", "(9)", "(10)", "(11)", "(12)", "(13)", "(14)", "(15)", "(16)", "(17)", "(18)", "(19)",
     "(20)"]),
   (0x249C, ["(a)", "(b)", "(c)", "(d)", "(e)", "(f)", "(g)", "(h)", "(i)", "(j)", "(k)", "(l)", "(m)", "(n)", "(o)",
     "(p)", "(q)", "(r)", "(s)", "(t)", "(u)", "(v)", "(w)", "(x)", "(y)", "(z)"]),
   (0x2A0C, ["∫∫∫∫"]), (0x2A75, ["==", "==="]), (0x2ADC, ["⫝\u0338"]), (0x309F, ["より"]), (0x30FF, ["コト"]),
   (0x3200, ["(ᄀ)", "(ᄂ)", "(ᄃ)", "(ᄅ)", "(ᄆ)", "(ᄇ)", "(ᄉ)", "(ᄋ)", "(ᄌ)", "(ᄎ)", "(ᄏ)", "(ᄐ)", "(ᄑ)", "(ᄒ)", "(가)",
     "(나)", "(다)", "(라)", "(마)", "(바)", "(사)", "(아)", "(자)", "(차)", "(카)", "(타)", "(파)", "(하)", "(주)", "(오전)",
     "(오후)", " ", "(一)", "(二)", "(三)", "(四)", "(五)", "(六)", "(七)", "(八)", "(九)", "(十)", "(月)", "(火)", "(水)",
     "(木)", "(金)", "(土)", "(日)", "(株)", "(有)", "(社)", "(名)", "(特)", "(財)", "(祝)", "(労)", "(代)", "(呼)", "(学)",
     "(監)", "(企)", "(資)", "(協)", "(祭)", "(休)", "(自)", "(至)", "問", "幼", "文", "箏"]),
   (0x3250, ["pte", "21", "22", "23", "24", "25", "26", "27", "28", "29", "30", "31", "32", "33", "34", "35"]),
   (0x3260, ["ᄀ", "ᄂ", "ᄃ", "ᄅ", "ᄆ", "ᄇ", "ᄉ", "ᄋ", "ᄌ", "ᄎ", "ᄏ", "ᄐ", "ᄑ", "ᄒ", "가", "나", "다", "라", "마", "바", "사",
     "아", "자", "차", "카", "타", "파", "하", "참고", "주의"]),
   (0x32B1, ["36", "37", "38", "39", "40", "41", "42", "43", "44", "45", "46", "47", "48", "49", "50", "1月", "2月", "3月",
     "4月", "5月", "6月", "7月", "8月", "9月", "10月", "11月", "12月", "hg", "erg", "ev", "ltd"]),
   (0x32FB, ["ワ", "ヰ", "ヱ", "ヲ", "令和", "アパート", "アルファ", "アンペア", "アール", "イニング", "インチ", "ウォン", "エスクード", "エーカー", "オンス",
     "オーム", "カイリ", "カラット", "カロリー", "ガロン", "ガンマ", "ギガ", "ギニー", "キュリー", "ギルダー", "キロ", "キログラム", "キロメートル", "キロワット",
     "グラム", "グラムトン", "クルゼイロ", "クローネ", "ケース", "コルナ", "コーポ", "サイクル", "サンチーム", "シリング", "センチ", "セント", "ダース", "デシ",
     "ドル", "トン", "ナノ", "ノット", "ハイツ", "パーセント", "パーツ", "バーレル", "ピアストル", "ピクル", "ピコ", "ビル", "ファラッド", "フィート",
     "ブッシェル", "フラン", "ヘクタール", "ペソ", "ペニヒ", "ヘルツ", "ペンス", "ページ", "ベータ", "ポイント", "ボルト", "ホン", "ポンド", "ホール", "ホーン",
     "マイクロ", "マイル", "マッハ", "マルク", "マンション", "ミクロン", "ミリ", "ミリバール", "メガ", "メガトン", "メートル", "ヤード", "ヤール", "ユアン",
     "リットル", "リラ", "ルピー", "ルーブル", "レム", "レントゲン", "ワット", "0点", "1点", "2点", "3点", "4点", "5点", "6点", "7点", "8点",
     "9点", "10点", "11点", "12点", "13点", "14点", "15点", "16点", "17点", "18点", "19点", "20点", "21点", "22点", "23点",
     "24点", "hpa", "da", "au", "bar", "ov", "pc", "dm", "dm2", "dm3", "iu", "平成", "昭和", "大正", "明治", "株式会社", "pa",
     "na", "μa", "ma", "ka", "kb", "mb", "gb", "cal", "kcal", "pf", "nf", "μf", "μg", "mg", "kg", "hz", "khz",
     "mhz", "ghz", "thz", "μl", "ml", "dl", "kl", "fm", "nm", "μm", "mm", "cm", "km", "mm2", "cm2", "m2", "km2",
     "mm3", "cm3", "m3", "km3", "m∕s", "m∕s2", "pa", "kpa", "mpa", "gpa", "rad", "rad∕s", "rad∕s2", "ps", "ns",
     "μs", "ms", "pv", "nv", "μv", "mv", "kv", "mv", "pw", "nw", "μw", "mw", "kw", "mw", "kω", "mω", " ", "bq",
     "cc", "cd", "c∕kg", " ", "db", "gy", "ha", "hp", "in", "kk", "km", "kt", "lm", "ln", "log", "lx", "mb",
     "mil", "mol", "ph", " ", "ppm", "pr", "sr", "sv", "wb", "v∕m", "a∕m", "1日", "2日", "3日", "4日", "5日", "6日",
     "7日", "8日", "9日", "10日", "11日", "12日", "13日", "14日", "15日", "16日", "17日", "18日", "19日", "20日", "21日", "22日",
     "23日", "24日", "25日", "26日", "27日", "28日", "29日", "30日", "31日", "gal"]),
   (0xFB00, ["ff", "fi", "fl", "ffi", "ffl", "st", "st"]), (0xFB13, ["մն", "մե", "մի", "վն", "մխ"]),
   (0xFB1D, ["\u05D9\u05B4", "\uFB1E", "\u05F2\u05B7", "\u05E2", "\u05D0", "\u05D3", "\u05D4", "\u05DB", "\u05DC",
     "\u05DD", "\u05E8", "\u05EA", "+", "\u05E9\u05C1", "\u05E9\u05C2", "\u05E9\u05BC\u05C1",
     "\u05E9\u05BC\u05C2", "\u05D0\u05B7", "\u05D0\u05B8", "\u05D0\u05BC", "\u05D1\u05BC", "\u05D2\u05BC",
     "\u05D3\u05BC", "\u05D4\u05BC", "\u05D5\u05BC", "\u05D6\u05BC", " ", "\u05D8\u05BC", "\u05D9\u05BC",
     "\u05DA\u05BC", "\u05DB\u05BC", "\u05DC\u05BC", " ", "\u05DE\u05BC", " ", "\u05E0\u05BC", "\u05E1\u05BC",
     " ", "\u05E3\u05BC", "\u05E4\u05BC", " ", "\u05E6\u05BC", "\u05E7\u05BC", "\u05E8\u05BC", "\u05E9\u05BC",
     "\u05EA\u05BC", "\u05D5\u05B9", "\u05D1\u05BF", "\u05DB\u05BF", "\u05E4\u05BF", "\u05D0\u05DC"]),
   (0xFBD3, ["\u06AD", "\u06AD", "\u06AD", "\u06AD", "\u06C7", "\u06C7", "\u06C6", "\u06C6", "\u06C8", "\u06C8",
     "\u06C7\u0674"]),
   (0xFBEA, ["\u0626\u0627", "\u0626\u0627", "\u0626\u06D5", "\u0626\u06D5", "\u0626\u0648", "\u0626\u0648",
     "\u0626\u06C7", "\u0626\u06C7", "\u0626\u06C6", "\u0626\u06C6", "\u0626\u06C8", "\u0626\u06C8",
     "\u0626\u06D0", "\u0626\u06D0", "\u0626\u06D0", "\u0626\u0649", "\u0626\u0649", "\u0626\u0649", "\u06CC",
     "\u06CC", "\u06CC", "\u06CC", "\u0626\u062C", "\u0626\u062D", "\u0626\u0645", "\u0626\u0649",
     "\u0626\u064A", "\u0628\u062C", "\u0628\u062D", "\u0628\u062E", "\u0628\u0645", "\u0628\u0649",
     "\u0628\u064A", "\u062A\u062C", "\u062A\u062D", "\u062A\u062E", "\u062A\u0645", "\u062A\u0649",
     "\u062A\u064A", "\u062B\u062C", "\u062B\u0645", "\u062B\u0649", "\u062B\u064A", "\u062C\u062D",
     "\u062C\u0645", "\u062D\u062C", "\u062D\u0645", "\u062E\u062C", "\u062E\u062D", "\u062E\u0645",
     "\u0633\u062C", "\u0633\u062D", "\u0633\u062E", "\u0633\u0645", "\u0635\u062D", "\u0635\u0645",
     "\u0636\u062C", "\u0636\u062D", "\u0636\u062E", "\u0636\u0645", "\u0637\u062D", "\u0637\u0645",
     "\u0638\u0645", "\u0639\u062C", "\u0639\u0645", "\u063A\u062C", "\u063A\u0645", "\u0641\u062C",
     "\u0641\u062D", "\u0641\u062E", "\u0641\u0645", "\u0641\u0649", "\u0641\u064A", "\u0642\u062D",
     "\u0642\u0645", "\u0642\u0649", "\u0642\u064A", "\u0643\u0627", "\u0643\u062C", "\u0643\u062D",
     "\u0643\u062E", "\u0643\u0644", "\u0643\u0645", "\u0643\u0649", "\u0643\u064A", "\u0644\u062C",
     "\u0644\u062D", "\u0644\u062E", "\u0644\u0645", "\u0644\u0649", "\u0644\u064A", "\u0645\u062C",
     "\u0645\u062D", "\u0645\u062E", "\u0645\u0645", "\u0645\u0649", "\u0645\u064A", "\u0646\u062C",
     "\u0646\u062D", "\u0646\u062E", "\u0646\u0645", "\u0646\u0649", "\u0646\u064A", "\u0647\u062C",
     "\u0647\u0645", "\u0647\u0649", "\u0647\u064A", "\u064A\u062C", "\u064A\u062D", "\u064A\u062E",
     "\u064A\u0645", "\u064A\u0649", "\u064A\u064A", "\u0630\u0670", "\u0631\u0670", "\u0649\u0670"]),
   (0xFC64, ["\u0626\u0631", "\u0626\u0632", "\u0626\u0645", "\u0626\u0646", "\u0626\u0649", "\u0626\u064A",
     "\u0628\u0631", "\u0628\u0632", "\u0628\u0645", "\u0628\u0646", "\u0628\u0649", "\u0628\u064A",
     "\u062A\u0631", "\u062A\u0632", "\u062A\u0645", "\u062A\u0646", "\u062A\u0649", "\u062A\u064A",
     "\u062B\u0631", "\u062B\u0632", "\u062B\u0645", "\u062B\u0646", "\u062B\u0649", "\u062B\u064A",
     "\u0641\u0649", "\u0641\u064A", "\u0642\u0649", "\u0642\u064A", "\u0643\u0627", "\u0643\u0644",
     "\u0643\u0645", "\u0643\u0649", "\u0643\u064A", "\u0644\u0645", "\u0644\u0649", "\u0644\u064A",
     "\u0645\u0627", "\u0645\u0645", "\u0646\u0631", "\u0646\u0632", "\u0646\u0645", "\u0646\u0646",
     "\u0646\u0649", "\u0646\u064A", "\u0649\u0670", "\u064A\u0631", "\u064A\u0632", "\u064A\u0645",
     "\u064A\u0646", "\u064A\u0649", "\u064A\u064A", "\u0626\u062C", "\u0626\u062D", "\u0626\u062E",
     "\u0626\u0645", "\u0626\u0647", "\u0628\u062C", "\u0628\u062D", "\u0628\u062E", "\u0628\u0645",
     "\u0628\u0647", "\u062A\u062C", "\u062A\u062D", "\u062A\u062E", "\u062A\u0645", "\u062A\u0647",
     "\u062B\u0645", "\u062C\u062D", "\u062C\u0645", "\u062D\u062C", "\u062D\u0645", "\u062E\u062C",
     "\u062E\u0645", "\u0633\u062C", "\u0633\u062D", "\u0633\u062E", "\u0633\u0645", "\u0635\u062D",
     "\u0635\u062E", "\u0635\u0645", "\u0636\u062C", "\u0636\u062D", "\u0636\u062E", "\u0636\u0645",
     "\u0637\u062D", "\u0638\u0645", "\u0639\u062C", "\u0639\u0645", "\u063A\u062C", "\u063A\u0645",
     "\u0641\u062C", "\u0641\u062D", "\u0641\u062E", "\u0641\u0645", "\u0642\u062D", "\u0642\u0645",
     "\u0643\u062C", "\u0643\u062D", "\u0643\u062E", "\u0643\u0644", "\u0643\u0645", "\u0644\u062C",
     "\u0644\u062D", "\u0644\u062E", "\u0644\u0645", "\u0644\u0647", "\u0645\u062C", "\u0645\u062D",
     "\u0645\u062E", "\u0645\u0645", "\u0646\u062C", "\u0646\u062D", "\u0646\u062E", "\u0646\u0645",
     "\u0646\u0647", "\u0647\u062C", "\u0647\u0645", "\u0647\u0670", "\u064A\u062C", "\u064A\u062D",
     "\u064A\u062E", "\u064A\u0645", "\u064A\u0647", "\u0626\u0645", "\u0626\u0647", "\u0628\u0645",
     "\u0628\u0647", "\u062A\u0645", "\u062A\u0647", "\u062B\u0645", "\u062B\u0647", "\u0633\u0645",
     "\u0633\u0647", "\u0634\u0645", "\u0634\u0647", "\u0643\u0644", "\u0643\u0645", "\u0644\u0645",
     "\u0646\u0645", "\u0646\u0647", "\u064A\u0645", "\u064A\u0647", "\u0640\u064E\u0651", "\u0640\u064F\u0651",
     "\u0640\u0650\u0651", "\u0637\u0649", "\u0637\u064A", "\u0639\u0649", "\u0639\u064A", "\u063A\u0649",
     "\u063A\u064A", "\u0633\u0649", "\u0633\u064A", "\u0634\u0649", "\u0634\u064A", "\u062D\u0649",
     "\u062D\u064A", "\u062C\u0649", "\u062C\u064A", "\u062E\u0649", "\u062E\u064A", "\u0635\u0649",
     "\u0635\u064A", "\u0636\u0649", "\u0636\u064A", "\u0634\u062C", "\u0634\u062D", "\u0634\u062E",
     "\u0634\u0645", "\u0634\u0631", "\u0633\u0631", "\u0635\u0631", "\u0636\u0631", "\u0637\u0649",
     "\u0637\u064A", "\u0639\u0649", "\u0639\u064A", "\u063A\u0649", "\u063A\u064A", "\u0633\u0649",
     "\u0633\u064A", "\u0634\u0649", "\u0634\u064A", "\u062D\u0649", "\u062D\u064A", "\u062C\u0649",
     "\u062C\u064A", "\u062E\u0649", "\u062E\u064A", "\u0635\u0649", "\u0635\u064A", "\u0636\u0649",
     "\u0636\u064A", "\u0634\u062C", "\u0634\u062D", "\u0634\u062E", "\u0634\u0645", "\u0634\u0631",
     "\u0633\u0631", "\u0635\u0631", "\u0636\u0631", "\u0634\u062C", "\u0634\u062D", "\u0634\u062E",
     "\u0634\u0645", "\u0633\u0647", "\u0634\u0647", "\u0637\u0645", "\u0633\u062C", "\u0633\u062D",
     "\u0633\u062E", "\u0634\u062C", "\u0634\u062D", "\u0634\u062E", "\u0637\u0645", "\u0638\u0645",
     "\u0627\u064B", "\u0627\u064B"]),
   (0xFD50, ["\u062A\u062C\u0645", "\u062A\u062D\u062C", "\u062A\u062D\u062C", "\u062A\u062D\u0645",
     "\u062A\u062E\u0645", "\u062A\u0645\u062C", "\u062A\u0645\u062D", "\u062A\u0645\u062E",
     "\u062C\u0645\u062D", "\u062C\u0645\u062D", "\u062D\u0645\u064A", "\u062D\u0645\u0649",
     "\u0633\u062D\u062C", "\u0633\u062C\u062D", "\u0633\u062C\u0649", "\u0633\u0645\u062D",
     "\u0633\u0645\u062D", "\u0633\u0645\u062C", "\u0633\u0645\u0645", "\u0633\u0645\u0645",
     "\u0635\u062D\u062D", "\u0635\u062D\u062D", "\u0635\u0645\u0645", "\u0634\u062D\u0645",
     "\u0634\u062D\u0645", "\u0634\u062C\u064A", "\u0634\u0645\u062E", "\u0634\u0645\u062E",
     "\u0634\u0645\u0645", "\u0634\u0645\u0645", "\u0636\u062D\u0649", "\u0636\u062E\u0645",
     "\u0636\u062E\u0645", "\u0637\u0645\u062D", "\u0637\u0645\u062D", "\u0637\u0645\u0645",
     "\u0637\u0645\u064A", "\u0639\u062C\u0645", "\u0639\u0645\u0645", "\u0639\u0645\u0645",
     "\u0639\u0645\u0649", "\u063A\u0645\u0645", "\u063A\u0645\u064A", "\u063A\u0645\u0649",
     "\u0641\u062E\u0645", "\u0641\u062E\u0645", "\u0642\u0645\u062D", "\u0642\u0645\u0645",
     "\u0644\u062D\u0645", "\u0644\u062D\u064A", "\u0644\u062D\u0649", "\u0644\u062C\u062C",
     "\u0644\u062C\u062C", "\u0644\u062E\u0645", "\u0644\u062E\u0645", "\u0644\u0645\u062D",
     "\u0644\u0645\u062D", "\u0645\u062D\u062C", "\u0645\u062D\u0645", "\u0645\u062D\u064A",
     "\u0645\u062C\u062D", "\u0645\u062C\u0645", "\u0645\u062E\u062C", "\u0645\u062E\u0645", "﶐", "﶑",
     "\u0645\u062C\u062E", "\u0647\u0645\u062C", "\u0647\u0645\u0645", "\u0646\u062D\u0645",
     "\u0646\u062D\u0649", "\u0646\u062C\u0645", "\u0646\u062C\u0645", "\u0646\u062C\u0649",
     "\u0646\u0645\u064A", "\u0646\u0645\u0649", "\u064A\u0645\u0645", "\u064A\u0645\u0645",
     "\u0628\u062E\u064A", "\u062A\u062C\u064A", "\u062A\u062C\u0649", "\u062A\u062E\u064A",
     "\u062A\u062E\u0649", "\u062A\u0645\u064A", "\u062A\u0645\u0649", "\u062C\u0645\u064A",
     "\u062C\u062D\u0649", "\u062C\u0645\u0649", "\u0633\u062E\u0649", "\u0635\u062D\u064A",
     "\u0634\u062D\u064A", "\u0636\u062D\u064A", "\u0644\u062C\u064A", "\u0644\u0645\u064A",
     "\u064A\u062D\u064A", "\u064A\u062C\u064A", "\u064A\u0645\u064A", "\u0645\u0645\u064A",
     "\u0642\u0645\u064A", "\u0646\u062D\u064A", "\u0642\u0645\u062D", "\u0644\u062D\u0645",
     "\u0639\u0645\u064A", "\u0643\u0645\u064A", "\u0646\u062C\u062D", "\u0645\u062E\u064A",
     "\u0644\u062C\u0645", "\u0643\u0645\u0645", "\u0644\u062C\u0645", "\u0646\u062C\u062D",
     "\u062C\u062D\u064A", "\u062D\u062C\u064A", "\u0645\u062C\u064A", "\u0641\u0645\u064A",
     "\u0628\u062D\u064A", "\u0643\u0645\u0645", "\u0639\u062C\u0645", "\u0635\u0645\u0645",
     "\u0633\u062E\u064A", "\u0646\u062C\u064A"]),
   (0xFDF0, ["\u0635\u0644\u06D2", "\u0642\u0644\u06D2", "\u0627\u0644\u0644\u0647", "\u0627\u0643\u0628\u0631",
     "\u0645\u062D\u0645\u062F", "\u0635\u0644\u0639\u0645", "\u0631\u0633\u0648\u0644",
     "\u0639\u0644\u064A\u0647", "\u0648\u0633\u0644\u0645", "\u0635\u0644\u0649", " ", " ",
     "\u0631\u06CC\u0627\u0644"]),
   (0xFE71, ["\u0640\u064B"]),
   (0xFE77, ["\u0640\u064E", " ", "\u0640\u064F", " ", "\u0640\u0650", " ", "\u0640\u0651", " ", "\u0640\u0652",
     "\u0621", "\u0622", "\u0622", "\u0623", "\u0623", "\u0624", "\u0624", "\u0625", "\u0625", "\u0626",
     "\u0626", "\u0626", "\u0626", "\u0627", "\u0627", "\u0628", "\u0628", "\u0628", "\u0628", "\u0629",
     "\u0629", "\u062A", "\u062A", "\u062A", "\u062A", "\u062B", "\u062B", "\u062B", "\u062B", "\u062C",
     "\u062C", "\u062C", "\u062C", "\u062D", "\u062D", "\u062D", "\u062D", "\u062E", "\u062E", "\u062E",
     "\u062E", "\u062F", "\u062F", "\u0630", "\u0630", "\u0631", "\u0631", "\u0632", "\u0632", "\u0633",
     "\u0633", "\u0633", "\u0633", "\u0634", "\u0634", "\u0634", "\u0634", "\u0635", "\u0635", "\u0635",
     "\u0635", "\u0636", "\u0636", "\u0636", "\u0636", "\u0637", "\u0637", "\u0637", "\u0637", "\u0638",
     "\u0638", "\u0638", "\u0638", "\u0639", "\u0639", "\u0639", "\u0639", "\u063A", "\u063A", "\u063A",
     "\u063A", "\u0641", "\u0641", "\u0641", "\u0641", "\u0642", "\u0642", "\u0642", "\u0642", "\u0643",
     "\u0643", "\u0643", "\u0643", "\u0644", "\u0644", "\u0644", "\u0644", "\u0645", "\u0645", "\u0645",
     "\u0645", "\u0646", "\u0646", "\u0646", "\u0646", "\u0647", "\u0647", "\u0647", "\u0647", "\u0648",
     "\u0648", "\u0649", "\u0649", "\u064A", "\u064A", "\u064A", "\u064A", "\u0644\u0622", "\u0644\u0622",
     "\u0644\u0623", "\u0644\u0623", "\u0644\u0625", "\u0644\u0625", "\u0644\u0627", "\u0644\u0627"]),
   (0x1D15E, ["𝅗𝅥", "𝅘𝅥", "𝅘𝅥𝅮", "𝅘𝅥𝅯", "𝅘𝅥𝅰", "𝅘𝅥𝅱", "𝅘𝅥𝅲"]),
   (0x1D1BB, ["𝆹𝅥", "𝆺𝅥", "𝆹𝅥𝅮", "𝆺𝅥𝅮", "𝆹𝅥𝅯", "𝆺𝅥𝅯"]),
   (0x1F101, ["0,", "1,", "2,", "3,", "4,", "5,", "6,", "7,", "8,", "9,"]),
   (0x1F110, ["(a)", "(b)", "(c)", "(d)", "(e)", "(f)", "(g)", "(h)", "(i)", "(j)", "(k)", "(l)", "(m)", "(n)", "(o)",
     "(p)", "(q)", "(r)", "(s)", "(t)", "(u)", "(v)", "(w)", "(x)", "(y)", "(z)", "〔s〕", "c", "r", "cd", "wz"]),
   (0x1F14A, ["hv", "mv", "sd", "ss", "ppv", "wc"]), (0x1F16A, ["mc", "md", "mr"]), (0x1F190, ["dj"]),
   (0x1F200, ["ほか", "ココ", "サ"]), (0x1F240, ["〔本〕", "〔三〕", "〔二〕", "〔安〕", "〔点〕", "〔打〕", "〔盗〕", "〔勝〕", "〔敗〕"])]

end FuturesDesk.Url.Mapping
