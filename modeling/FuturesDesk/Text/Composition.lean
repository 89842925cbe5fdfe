import FuturesDesk.Text.Span

/-!
# Letters with marks

The characters that stand for a letter and a mark. Those of most scripts are
listed; the syllables of Hangul are counted out: 19 first letters, 21 vowels,
and 27 last letters or none.
-/

namespace FuturesDesk

/-- A mark and, in turn, each letter it goes with and the character for both. -/
def compositionRows : List (Nat × String) :=
  [(0x300, "AÀEÈIÌNǸOÒUÙWẀYỲaàeèiìnǹoòuùwẁyỳ¨῭ÂẦÊỀÔỒÜǛâầêềôồüǜĂẰăằĒḔēḕŌṐōṑƠỜơờƯỪưừΑᾺΕῈΗῊΙῚΟῸΥῪΩῺαὰεὲηὴιὶ"),
   (0x300, "οὸυὺωὼϊῒϋῢЕЀИЍеѐиѝἀἂἁἃἈἊἉἋἐἒἑἓἘἚἙἛἠἢἡἣἨἪἩἫἰἲἱἳἸἺἹἻὀὂὁὃὈὊὉὋὐὒὑὓὙὛὠὢὡὣὨὪὩὫ᾿῍῾῝"),
   (0x301, "AÁCĆEÉGǴIÍKḰLĹMḾNŃOÓPṔRŔSŚUÚWẂYÝZŹaácćeégǵiíkḱlĺmḿnńoópṕrŕsśuúwẃyýzź¨΅ÂẤÅǺÆǼÇḈÊẾÏḮÔỐÕṌØǾÜǗâấ"),
   (0x301, "åǻæǽçḉêếïḯôốõṍøǿüǘĂẮăắĒḖēḗŌṒōṓŨṸũṹƠỚơớƯỨưứΑΆΕΈΗΉΙΊΟΌΥΎΩΏαάεέηήιίοόυύωώϊΐϋΰϒϓГЃКЌгѓкќἀἄἁἅἈἌἉἍ"),
   (0x301, "ἐἔἑἕἘἜἙἝἠἤἡἥἨἬἩἭἰἴἱἵἸἼἹἽὀὄὁὅὈὌὉὍὐὔὑὕὙὝὠὤὡὥὨὬὩὭ᾿῎῾῞"),
   (0x302, "AÂCĈEÊGĜHĤIÎJĴOÔSŜUÛWŴYŶZẐaâcĉeêgĝhĥiîjĵoôsŝuûwŵyŷzẑẠẬạậẸỆẹệỌỘọộ"),
   (0x303, "AÃEẼIĨNÑOÕUŨVṼYỸaãeẽiĩnñoõuũvṽyỹÂẪÊỄÔỖâẫêễôỗĂẴăẵƠỠơỡƯỮưữ"),
   (0x304, "AĀEĒGḠIĪOŌUŪYȲaāeēgḡiīoōuūyȳÄǞÆǢÕȬÖȪÜǕäǟæǣõȭöȫüǖǪǬǫǭȦǠȧǡȮȰȯȱΑᾹΙῙΥῩαᾱιῑυῡИӢУӮиӣуӯḶḸḷḹṚṜṛṝ"),
   (0x306, "AĂEĔGĞIĬOŎUŬaăeĕgğiĭoŏuŭȨḜȩḝΑᾸΙῘΥῨαᾰιῐυῠАӐЕӖЖӁИЙУЎаӑеӗжӂийуўẠẶạặ"),
   (0x307, "AȦBḂCĊDḊEĖFḞGĠHḢIİMṀNṄOȮPṖRṘSṠTṪWẆXẊYẎZŻaȧbḃcċdḋeėfḟgġhḣmṁnṅoȯpṗrṙsṡtṫwẇxẋyẏzżŚṤśṥŠṦšṧſẛṢṨṣṩ"),
   (0x307, "𐗒𐗉𐗚𐗤"),
   (0x308, "AÄEËHḦIÏOÖUÜWẄXẌYŸaäeëhḧiïoötẗuüwẅxẍyÿÕṎõṏŪṺūṻΙΪΥΫιϊυϋϒϔІЇАӒЕЁЖӜЗӞИӤОӦУӰЧӴЫӸЭӬаӓеёжӝзӟиӥоӧуӱ"),
   (0x308, "чӵыӹэӭіїӘӚәӛӨӪөӫ"), (0x309, "AẢEẺIỈOỎUỦYỶaảeẻiỉoỏuủyỷÂẨÊỂÔỔâẩêểôổĂẲăẳƠỞơởƯỬưử"),
   (0x30A, "AÅUŮaåuůwẘyẙ"), (0x30B, "OŐUŰoőuűУӲуӳ"),
   (0x30C, "AǍCČDĎEĚGǦHȞIǏKǨLĽNŇOǑRŘSŠTŤUǓZŽaǎcčdďeěgǧhȟiǐjǰkǩlľnňoǒrřsštťuǔzžÜǙüǚƷǮʒǯ"),
   (0x30F, "AȀEȄIȈOȌRȐUȔaȁeȅiȉoȍrȑuȕѴѶѵѷ"), (0x311, "AȂEȆIȊOȎRȒUȖaȃeȇiȋoȏrȓuȗ"),
   (0x313, "ΑἈΕἘΗἨΙἸΟὈΩὨαἀεἐηἠιἰοὀρῤυὐωὠ"), (0x314, "ΑἉΕἙΗἩΙἹΟὉΡῬΥὙΩὩαἁεἑηἡιἱοὁρῥυὑωὡ"), (0x31B, "OƠUƯoơuư"),
   (0x323, "AẠBḄDḌEẸHḤIỊKḲLḶMṂNṆOỌRṚSṢTṬUỤVṾWẈYỴZẒaạbḅdḍeẹhḥiịkḳlḷmṃnṇoọrṛsṣtṭuụvṿwẉyỵzẓƠỢơợƯỰưự"),
   (0x324, "UṲuṳ"), (0x325, "AḀaḁ"), (0x326, "SȘTȚsștț"),
   (0x327, "CÇDḐEȨGĢHḨKĶLĻNŅRŖSŞTŢcçdḑeȩgģhḩkķlļnņrŗsştţ"), (0x328, "AĄEĘIĮOǪUŲaąeęiįoǫuų"),
   (0x32D, "DḒEḘLḼNṊTṰUṶdḓeḙlḽnṋtṱuṷ"), (0x32E, "HḪhḫ"), (0x330, "EḚIḬUṴeḛiḭuṵ"),
   (0x331, "BḆDḎKḴLḺNṈRṞTṮZẔbḇdḏhẖkḵlḻnṉrṟtṯzẕ"),
   (0x338, "<≮=≠>≯←↚→↛↔↮⇐⇍⇒⇏⇔⇎∃∄∈∉∋∌∣∤∥∦∼≁≃≄≅≇≈≉≍≭≡≢≤≰≥≱≲≴≳≵≶≸≷≹≺⊀≻⊁≼⋠≽⋡⊂⊄⊃⊅⊆⊈⊇⊉⊑⋢⊒⋣⊢⊬⊨⊭⊩⊮⊫⊯⊲⋪⊳⋫⊴⋬⊵⋭"),
   (0x342, "¨῁αᾶηῆιῖυῦωῶϊῗϋῧἀἆἁἇἈἎἉἏἠἦἡἧἨἮἩἯἰἶἱἷἸἾἹἿὐὖὑὗὙὟὠὦὡὧὨὮὩὯ᾿῏῾῟"),
   (0x345, "ΑᾼΗῌΩῼάᾴήῄαᾳηῃωῳώῴἀᾀἁᾁἂᾂἃᾃἄᾄἅᾅἆᾆἇᾇἈᾈἉᾉἊᾊἋᾋἌᾌἍᾍἎᾎἏᾏἠᾐἡᾑἢᾒἣᾓἤᾔἥᾕἦᾖἧᾗἨᾘἩᾙἪᾚἫᾛἬᾜἭᾝἮᾞἯᾟὠᾠὡᾡὢᾢὣᾣὤᾤ"),
   (0x345, "ὥᾥὦᾦὧᾧὨᾨὩᾩὪᾪὫᾫὬᾬὭᾭὮᾮὯᾯὰᾲὴῂὼῲᾶᾷῆῇῶῷ"), (0x653, "\u0627\u0622"),
   (0x654, "\u0627\u0623\u0648\u0624\u064A\u0626\u06C1\u06C2\u06D2\u06D3\u06D5\u06C0"), (0x655, "\u0627\u0625"),
   (0x93C, "नऩरऱळऴ"), (0x9BE, "\u09C7\u09CB"), (0x9D7, "\u09C7\u09CC"), (0xB3E, "\u0B47\u0B4B"),
   (0xB56, "\u0B47\u0B48"), (0xB57, "\u0B47\u0B4C"), (0xBBE, "\u0BC6\u0BCA\u0BC7\u0BCB"),
   (0xBD7, "ஒஔ\u0BC6\u0BCC"), (0xC56, "\u0C46\u0C48"), (0xCC2, "\u0CC6\u0CCA"),
   (0xCD5, "\u0CBF\u0CC0\u0CC6\u0CC7\u0CCA\u0CCB"), (0xCD6, "\u0CC6\u0CC8"), (0xD3E, "\u0D46\u0D4A\u0D47\u0D4B"),
   (0xD57, "\u0D46\u0D4C"), (0xDCA, "\u0DD9\u0DDA\u0DDC\u0DDD"), (0xDCF, "\u0DD9\u0DDC"),
   (0xDDF, "\u0DD9\u0DDE"), (0x102E, "ဥဦ"),
   (0x1B35, "ᬅᬆᬇᬈᬉᬊᬋᬌᬍᬎᬑᬒ\u1B3A\u1B3B\u1B3C\u1B3D\u1B3E\u1B40\u1B3F\u1B41\u1B42\u1B43"),
   (0x3099, "うゔかがきぎくぐけげこごさざしじすずせぜそぞただちぢつづてでとどはばひびふぶへべほぼゝゞウヴカガキギクグケゲコゴサザシジスズセゼソゾタダチヂツヅテデトドハバヒビフブヘベホボワヷヰヸヱヹ"),
   (0x3099, "ヲヺヽヾ"), (0x309A, "はぱひぴふぷへぺほぽハパヒピフプヘペホポ")]

/-- Letters and signs of further scripts: first part, second part, whole. -/
def compositionSigns : List (Nat × Nat × Nat) :=
  [(0x11099, 0x110BA, 0x1109A), (0x1109B, 0x110BA, 0x1109C), (0x110A5, 0x110BA, 0x110AB),
   (0x11131, 0x11127, 0x1112E), (0x11132, 0x11127, 0x1112F), (0x11347, 0x1133E, 0x1134B),
   (0x11347, 0x11357, 0x1134C), (0x113C2, 0x113B8, 0x113C7), (0x11384, 0x113BB, 0x11385),
   (0x1138B, 0x113C2, 0x1138E), (0x113C2, 0x113C2, 0x113C5), (0x11382, 0x113C9, 0x11383),
   (0x11390, 0x113C9, 0x11391), (0x113C2, 0x113C9, 0x113C8), (0x114B9, 0x114B0, 0x114BC),
   (0x114B9, 0x114BA, 0x114BB), (0x114B9, 0x114BD, 0x114BE), (0x115B8, 0x115AF, 0x115BA),
   (0x115B9, 0x115AF, 0x115BB), (0x11935, 0x11930, 0x11938), (0x1611E, 0x1611E, 0x16121),
   (0x1611E, 0x1611F, 0x16123), (0x16121, 0x1611F, 0x16126), (0x16122, 0x1611F, 0x16127),
   (0x16129, 0x1611F, 0x16124), (0x1611E, 0x16120, 0x16125), (0x16121, 0x16120, 0x16128),
   (0x1611E, 0x16129, 0x16122), (0x16D63, 0x16D67, 0x16D69), (0x16D67, 0x16D67, 0x16D68),
   (0x16D69, 0x16D67, 0x16D6A)]

/-- A character for two others. -/
structure Composition where
  base : Char
  mark : Char
  whole : Char

namespace Composition

def ofRow (mark : Char) : List Char → List Composition
  | base :: whole :: cs => ⟨base, mark, whole⟩ :: ofRow mark cs
  | _ => []

def all : List Composition :=
  compositionRows.flatMap (fun (mark, cs) => ofRow (Char.ofNat mark) cs.toList) ++
    compositionSigns.map fun (base, mark, whole) => ⟨Char.ofNat base, Char.ofNat mark, Char.ofNat whole⟩

end Composition

/-! ## Hangul -/

namespace Hangul

def firstSyllable : Nat := 0xAC00

def syllables : Nat := 19 * 21 * 28

/-- The first letters, vowels and last letters begin here; the last letters
count from one, and zero stands for none. -/
def initials : Nat := 0x1100

def vowels : Nat := 0x1161

def finals : Nat := 0x11A7

/-- The number of a syllable. -/
def index? (c : Char) : Option Nat :=
  if firstSyllable ≤ c.toNat && c.toNat < firstSyllable + syllables then some (c.toNat - firstSyllable) else none

/-- A syllable without its last part. -/
def split? (c : Char) : Option (Char × Char) :=
  (index? c).map fun i =>
    if i % 28 = 0 then (Char.ofNat (initials + i / 28 / 21), Char.ofNat (vowels + i / 28 % 21))
    else (Char.ofNat (firstSyllable + i / 28 * 28), Char.ofNat (finals + i % 28))

/-- The syllable of a first letter and a vowel, or of a syllable without last
letter and one. -/
def join? (a b : Char) : Option Char :=
  let l := a.toNat - initials
  let v := b.toNat - vowels
  let t := b.toNat - finals
  if initials ≤ a.toNat && l < 19 && vowels ≤ b.toNat && v < 21 then
    some (Char.ofNat (firstSyllable + (l * 21 + v) * 28))
  else
    match index? a with
    | some i => if i % 28 = 0 && 0 < t && t < 28 then some (Char.ofNat (a.toNat + t)) else none
    | none => none

end Hangul

/-! ## Both ways -/

namespace Composition

/-- The two characters one stands for. -/
def split? (c : Char) : Option (Char × Char) :=
  if c.toNat < 0xC0 then none
  else (Hangul.split? c).or ((all.find? (·.whole = c)).map fun p => (p.base, p.mark))

/-- The character that stands for two. -/
def join? (a b : Char) : Option Char :=
  if b.toNat < 0x300 then none
  else (Hangul.join? a b).or ((all.find? fun p => p.mark = b && p.base = a).map (·.whole))

theorem split?_of_lt {c : Char} (h : c.toNat < 0xC0) : split? c = none := by
  simp [split?, h]

theorem join?_of_lt (a : Char) {b : Char} (h : b.toNat < 0x300) : join? a b = none := by
  simp [join?, h]

end Composition

end FuturesDesk
