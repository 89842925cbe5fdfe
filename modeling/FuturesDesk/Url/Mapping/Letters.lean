/-!
# Characters with one plain character

Rows of plain forms, from the code point of the row on. A character that has
no other form stands for itself, and a space where a name can hold neither.
-/

namespace FuturesDesk.Url.Mapping

/-- The first code point of a row, and the plain forms from there on. -/
def letterRows : List (Nat × String) :=
  [(0xAA, "a"), (0xB2, "23 μ"), (0x178, "ÿ"), (0x17F, "s"), (0x180, "ƀɓƃƃƅƅɔƈƈɖɗƌƌƍǝəɛƒƒɠɣƕɩɨƙ"),
   (0x19C, "ɯɲƞɵ"), (0x1A6, "ʀƨƨʃƪƫƭƭʈưưʊʋƴƴƶƶʒƹ"), (0x1BC, "ƽ"), (0x220, "ƞ"), (0x23A, "ⱥȼȼƚⱦȿ"),
   (0x240, "ɀɂɂƀʉʌ"), (0x2B0, "hɦjrɹɻʁwy"), (0x2E0, "ɣlsxʕ"), (0x370, "ͱͱͳͳʹ͵ͷ"), (0x37E, ";ϳ"),
   (0x386, "ά·έήί ό ύώ"), (0x3CF, "ϗβθυύϋφπ"), (0x3F0, "κρσϳθε϶ϸϸσϻϻϼͻͼͽ"), (0x4C0, "ӏ"), (0xF0C, "་"),
   (0x10C7, "ⴧ"), (0x10CD, "ⴭ"), (0x10FC, "ნ"), (0x1C80, "вдосттъѣꙋᲊ"), (0x1CBD, "ჽჾჿ"), (0x1D2C, "aæbᴯdeǝ"),
   (0x1D3C, "oȣpr"), (0x1D40, "tuwaɐɑᴂbdeəɛɜgᵎkmŋoɔᴖᴗptuᴝɯvᴥβγδφχiruvβγρφχ"), (0x1D78, "н"),
   (0x1D9B, "ɒcɕðɜfɟɡɥɨɩɪᵻʝɭᶅʟɱɰɲɳɴɵɸʂʃƫʉʊᴜʋʌzʐʑʒθ"), (0x1F59, "ὑ ὓ ὕ ὗ"), (0x1F71, "άὲέὴήὶίὸόὺύὼώ"),
   (0x1FD3, "ΐ"), (0x1FD8, "ῐῑὶί"), (0x1FE3, "ΰ"), (0x2011, "‐"), (0x2070, "0i"), (0x207A, "+−=()n"),
   (0x208A, "+−=() aeoxəhklmnpst"), (0x2145, "ddeij"), (0x2183, "ↄ"), (0x2329, "〈〉"), (0x24EA, "0"),
   (0x2C60, "ⱡⱡɫᵽɽ"), (0x2C6D, "ɑɱɐɒⱱⱳⱳⱴⱶ"), (0x2C7C, "jvȿɀ"), (0x2CEB, "ⳬⳬⳮ"), (0x2CF2, "ⳳ"), (0x2D6F, "ⵡ"),
   (0x2E9F, "母"), (0x2EF3, "龟"), (0x2F00, "一丨丶丿乙亅二亠人儿入八冂冖冫几凵刀力勹匕匚匸十卜卩厂厶又口囗土士夂夊夕大女子宀寸小尢尸屮山巛工己巾干幺广廴廾弋弓彐彡彳心戈戶手"),
   (0x2F40, "支攴文斗斤方无日曰月木欠止歹殳毋比毛氏气水火爪父爻爿片牙牛犬玄玉瓜瓦甘生用田疋疒癶白皮皿目矛矢石示禸禾穴立竹米糸缶网羊羽老而耒耳"),
   (0x2F80, "聿肉臣自至臼舌舛舟艮色艸虍虫血行衣襾見角言谷豆豕豸貝赤走足身車辛辰辵邑酉釆里金長門阜隶隹雨靑非面革韋韭音頁風飛食首香馬骨高髟鬥鬯"),
   (0x2FC0, "鬲鬼魚鳥鹵鹿麥麻黃黍黑黹黽鼎鼓鼠鼻齊齒龍龜龠"), (0x3002, "."), (0x3036, "〒〷十卄卅"), (0x3131, "ᄀᄁᆪᄂᆬᆭᄃᄄᄅ"),
   (0x3140, "ᄚᄆᄇᄈᄡ"), (0x3165, "ᄔᄕᇇᇈᇌᇎᇓᇗᇙᄜᇝᇟᄝᄞᄠᄢᄣᄧᄩᄫᄬᄭᄮᄯᄲᄶᅀ"), (0x3180, "ᅇᅌᇱᇲᅗᅘᅙᆄᆅᆈᆑᆒᆔᆞᆡ"),
   (0x3192, "一二三四上中下甲乙丙丁天地人"), (0x327E, "우㉿"), (0x3280, "一二三四五六七八九十月火水木金土日株有社名特財祝労秘男女適優印注項休写正上中下左右医宗学監企資協夜"),
   (0x32D0, "アイウエオカキクケコサシスセソタチツテト"), (0x32EA, "ヒフヘホマミムメモヤユ"), (0xA69C, "ъь"), (0xA770, "ꝯ"), (0xA779, "ꝺꝺꝼꝼᵹ"),
   (0xA78B, "ꞌꞌɥꞎꞏꞑꞑꞓ"), (0xA7AA, "ɦɜɡɬɪꞯʞʇʝꭓ"), (0xA7C4, "ꞔʂᶎꟈꟈꟊꟊɤ"), (0xA7DC, "ƛ"), (0xA7F1, "scfqꟶꟶꟷħœ"),
   (0xAB5C, "ꜧꬷɫꭒ"), (0xAB69, "ʍ"), (0xF900, "豈更車賈滑串句龜龜契金喇奈懶癩羅蘿螺裸邏樂洛烙珞落酪駱亂卵欄爛蘭鸞嵐濫藍襤拉臘蠟廊朗浪狼郎來冷勞擄櫓爐盧老蘆虜路露魯鷺碌祿綠菉錄"),
   (0xF940, "鹿論壟弄籠聾牢磊賂雷壘屢樓淚漏累縷陋勒肋凜凌稜綾菱陵讀拏樂諾丹寧怒率異北磻便復不泌數索參塞省葉說殺辰沈拾若掠略亮兩凉梁糧良諒量勵"),
   (0xF980, "呂女廬旅濾礪閭驪麗黎力曆歷轢年憐戀撚漣煉璉秊練聯輦蓮連鍊列劣咽烈裂說廉念捻殮簾獵令囹寧嶺怜玲瑩羚聆鈴零靈領例禮醴隸惡了僚寮尿料樂"),
   (0xF9C0, "燎療蓼遼龍暈阮劉杻柳流溜琉留硫紐類六戮陸倫崙淪輪律慄栗率隆利吏履易李梨泥理痢罹裏裡里離匿溺吝燐璘藺隣鱗麟林淋臨立笠粒狀炙識什茶刺"),
   (0xFA00, "切度拓糖宅洞暴輻行降見廓兀嗀﨎﨏塚﨑晴﨓﨔凞猪益礼神祥福靖精羽﨟蘒﨡諸﨣﨤逸都"), (0xFA2A, "飯飼館鶴郞隷侮僧免勉勤卑喝嘆器塀墨層屮悔慨憎"),
   (0xFA40, "懲敏既暑梅海渚漢煮爫琢碑社祉祈祐祖祝禍禎穀突節練縉繁署者臭艹艹著褐視謁謹賓贈辶逸難響頻恵𤋮舘  並况全侀充冀勇勺喝啕喙嗢塚墳奄奔"),
   (0xFA80, "婢嬨廒廙彩徭惘慎愈憎慠懲戴揄搜摒敖晴朗望杖歹殺流滛滋漢瀞煮瞧爵犯猪瑱甆画瘝瘟益盛直睊着磌窱節类絛練缾者荒華蝹襁覆視調諸請謁諾諭謹"),
   (0xFAC0, "變贈輸遲醙鉶陼難靖韛響頋頻鬒龜𢡊𢡄𣏕㮝䀘䀹𥉉𥳐𧻓齃龎"),
   (0xFB50, "\u0671\u0671\u067B\u067B\u067B\u067B\u067E\u067E\u067E\u067E\u0680\u0680\u0680\u0680\u067A"),
   (0xFB5F, "\u067A\u067A\u067A\u067F\u067F\u067F\u067F\u0679\u0679\u0679\u0679\u06A4\u06A4\u06A4\u06A4"),
   (0xFB6E, "\u06A6\u06A6\u06A6\u06A6\u0684\u0684\u0684\u0684\u0683\u0683\u0683\u0683\u0686\u0686\u0686"),
   (0xFB7D, "\u0686\u0687\u0687"),
   (0xFB80, "\u0687\u0687\u068D\u068D\u068C\u068C\u068E\u068E\u0688\u0688\u0698\u0698\u0691\u0691\u06A9"),
   (0xFB8F, "\u06A9\u06A9\u06A9\u06AF\u06AF\u06AF\u06AF\u06B3\u06B3\u06B3\u06B3\u06B1\u06B1\u06B1\u06B1"),
   (0xFB9E, "\u06BA\u06BA\u06BB\u06BB\u06BB\u06BB\u06C0\u06C0\u06C1\u06C1\u06C1\u06C1\u06BE\u06BE\u06BE"),
   (0xFBAD, "\u06BE\u06D2\u06D2\u06D3\u06D3"),
   (0xFBDE, "\u06CB\u06CB\u06C5\u06C5\u06C9\u06C9\u06D0\u06D0\u06D0\u06D0\u0649\u0649"), (0xFE10, ",、  ;! 〖〗"),
   (0xFE31, "—–__()\x7b\x7d〔〕【】《》〈"), (0xFE40, "〉「」『』"), (0xFE4D, "___,、  ;  !—()\x7b\x7d〔〕 &*+-  =  $"),
   (0xFF5F, "⦅⦆.「」、・ヲァィゥェォャュョッーアイウエオカキクケコサシスセソ"), (0xFF80, "タチツテト"), (0xFF8B, "ヒフヘホマミムメモヤユ"),
   (0xFF9C, "ワン\u3099\u309A ᄀᄁᆪᄂᆬᆭᄃᄄᄅ"), (0xFFB0, "ᄚᄆᄇᄈᄡ"), (0xFFDA, "ᅳᅴᅵ"), (0xFFE0, "¢£¬ ¦¥₩ │←↑→↓■○"),
   (0x10594, "𐖻𐖼"), (0x10781, "ːˑæʙɓ ʣꭦʥʤɖɗᶑɘɞʩɤɢɠʛħʜɧʄʪʫɬ𝼄ꞎɮ𝼅ʎ𝼆øɶɷqɺ𝼈ɽɾʀʨʦꭧʧʈⱱ ʏʡʢʘǀǁǂ𝼊𝼞"),
   (0x1D49C, "a cd  g  jk  nopq"), (0x1D4B6, "abcd f"), (0x1D504, "ab defg"), (0x1D538, "ab defg"),
   (0x1D540, "ijklm o"), (0x1D6A4, "ıȷ"), (0x1D6B9, "θ"), (0x1D6C1, "∇"), (0x1D6D3, "σ"), (0x1D6DB, "∂εθκφρπ"),
   (0x1D6F3, "θ"), (0x1D6FB, "∇"), (0x1D70D, "σ"), (0x1D715, "∂εθκφρπ"), (0x1D72D, "θ"), (0x1D735, "∇"),
   (0x1D747, "σ"), (0x1D74F, "∂εθκφρπ"), (0x1D767, "θ"), (0x1D76F, "∇"), (0x1D781, "σ"), (0x1D789, "∂εθκφρπ"),
   (0x1D7A1, "θ"), (0x1D7A9, "∇"), (0x1D7BB, "σ"), (0x1D7C3, "∂εθκφρπϝϝ"), (0x1E039, "клм"),
   (0x1E047, "ыэюꚉәіјөүӏ"), (0x1E05A, "клопс"), (0x1E065, "ъыґіѕџҫꙑұ"),
   (0x1EE00, "\u0627\u0628\u062C\u062F \u0648\u0632\u062D\u0637\u064A\u0643\u0644\u0645\u0646\u0633\u0639"),
   (0x1EE10, "\u0641\u0635\u0642\u0631\u0634\u062A\u062B\u062E\u0630\u0636\u0638\u063A\u066E\u06BA\u06A1"),
   (0x1EE1F, "\u066F \u0628\u062C \u0647  \u062D \u064A\u0643\u0644\u0645\u0646\u0633\u0639\u0641\u0635"),
   (0x1EE32, "\u0642 \u0634\u062A\u062B\u062E \u0636 \u063A"), (0x1EE42, "\u062C"),
   (0x1EE47, "\u062D \u064A \u0644 \u0646\u0633\u0639 \u0635\u0642 \u0634  \u062E \u0636 \u063A \u06BA "),
   (0x1EE5F, "\u066F \u0628\u062C \u0647  \u062D\u0637\u064A\u0643 \u0645\u0646\u0633\u0639\u0641\u0635"),
   (0x1EE72, "\u0642 \u0634\u062A\u062B\u062E \u0636\u0638\u063A\u066E \u06A1"),
   (0x1EE80, "\u0627\u0628\u062C\u062F\u0647\u0648\u0632\u062D\u0637\u064A \u0644\u0645\u0646\u0633\u0639"),
   (0x1EE90, "\u0641\u0635\u0642\u0631\u0634\u062A\u062B\u062E\u0630\u0636\u0638\u063A"),
   (0x1EEA1, "\u0628\u062C\u062F \u0648\u0632\u062D\u0637\u064A \u0644\u0645\u0646\u0633\u0639\u0641\u0635"),
   (0x1EEB2, "\u0642\u0631\u0634\u062A\u062B\u062E\u0630\u0636\u0638\u063A"),
   (0x1F210, "手字双デ二多解天交映無料前後再新初終生販声吹演投捕一三遊左中右指走打禁空合満有月申割営配"), (0x1F250, "得可"),
   (0x2F800, "丽丸乁𠄢你侮侻倂偺備僧像㒞𠘺免兔兤具𠔜㒹內再𠕋冗冤仌冬况𩇟凵刃㓟刻剆割剷㔕勇勉勤勺包匆北卉卑博即卽卿卿卿𠨬灰及叟𠭣叫叱吆咞吸呈周"),
   (0x2F840, "咢哶唐啓啣善善喙喫喳嗂圖嘆圗噑噴切壮城埴堍型堲報墬𡓤売壷夆多夢奢𡚨𡛪姬娛娧姘婦㛮㛼嬈嬾嬾𡧈寃寘寧寳𡬘寿将当尢㞁屠屮峀岍𡷤嵃𡷦嵮嵫"),
   (0x2F880, "嵼巡巢㠯巽帨帽幩㡢𢆃㡼庰庳庶廊𪎒廾𢌱𢌱舁弢弢㣇𣊸𦇚形彫㣣徚忍志忹悁㤺㤜悔𢛔惇慈慌慎慌慺憎憲憤憯懞懲懶成戛扝抱拔捐𢬌挽拼捨掃揤𢯱搢"),
   (0x2F8C0, "揅掩㨮摩摾撝摷㩬敏敬𣀊旣書晉㬙暑㬈㫤冒冕最暜肭䏙朗望朡杞杓𣏃㭉柺枅桒梅𣑭梎栟椔㮝楂榣槪檨𣚣櫛㰘次𣢧歔㱎歲殟殺殻𣪍𡴋𣫺汎𣲼沿泍汧洖"),
   (0x2F900, "派海流浩浸涅𣴞洴港湮㴳滋滇𣻑淹潮𣽞𣾎濆瀹瀞瀛㶖灊災灷炭𠔥煅𤉣熜𤎫爨爵牐𤘈犀犕𤜵𤠔獺王㺬玥㺸㺸瑇瑜瑱璅瓊㼛甤𤰶甾𤲒異𢆟瘐𤾡𤾸𥁄㿼䀈"),
   (0x2F940, "直𥃳𥃲𥄙𥄳眞真真睊䀹瞋䁆䂖𥐝硎碌磌䃣𥘦祖𥚚𥛅福秫䄯穀穊穏𥥼𥪧𥪧竮䈂𥮫篆築䈧𥲀糒䊠糨糣紀𥾆絣䌁緇縂繅䌴𦈨𦉇䍙𦋙罺𦌾羕翺者𦓚𦔣聠𦖨聰"),
   (0x2F980, "𣍟䏕育脃䐋脾媵𦞧𦞵𣎓𣎜舁舄辞䑫芑芋芝劳花芳芽苦𦬼若茝荣莭茣莽菧著荓菊菌菜𦰶𦵫𦳕䔫蓱蓳蔖𧏊蕤𦼬䕝䕡𦾱𧃒䕫虐虜虧虩蚩蚈蜎蛢蝹蜨蝫螆䗗"),
   (0x2F9C0, "蟡蠁䗹衠衣𧙧裗裞䘵裺㒻𧢮𧥦䚾䛇誠諭變豕𧲨貫賁贛起𧼯𠠄跋趼跰𠣞軔輸𨗒𨗭邔郱鄑𨜮鄛鈸鋗鋘鉼鏹鐕𨯺開䦕閷𨵷䧦雃嶲霣𩅅𩈚䩮䩶韠𩐊䪲𩒖頋頋"),
   (0x2FA00, "頩𩖶飢䬳餩馧駂駾䯎𩬰鬒鱀鳽䳎䳭鵧𪃎䳸𪄅𪈎𪊑麻䵖黹黾鼅鼏鼖鼻𪘀")]

/-- The most code points in a row of letters. -/
def rowLength : Nat := 64

end FuturesDesk.Url.Mapping
