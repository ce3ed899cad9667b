import ScoreDeploy.Text.Mark

/-!
# Composed characters

A letter with a mark is often one character, and may as well be written as two. `composed` gives the
form of a text in which as much as possible is one character: it takes everything apart, puts the
marks of every letter into the order of their classes, and puts together again what can be. Marks
keep from a letter other marks of their class that come later.

Characters that only stand for one other character, or are never put together, are not known here.
-/

namespace ScoreDeploy.Text

/-- What can be put together: the codes of second characters, and with each the characters that may
come before it, each followed by what the two are together. -/
def compositions : List (Nat × String) := [
  (0x300, "AÀEÈIÌNǸOÒUÙWẀYỲaàeèiìnǹoòuùwẁyỳ¨῭ÂẦÊỀÔỒÜǛâầêềôồüǜĂẰăằĒḔēḕŌṐōṑƠỜơờƯỪưừΑᾺΕῈΗῊΙῚΟῸΥῪΩῺαὰ"),
  (0x300, "εὲηὴιὶοὸυὺωὼϊῒϋῢЕЀИЍеѐиѝἀἂἁἃἈἊἉἋἐἒἑἓἘἚἙἛἠἢἡἣἨἪἩἫἰἲἱἳἸἺἹἻὀὂὁὃὈὊὉὋὐὒὑὓὙὛὠὢὡὣὨὪὩὫ᾿῍῾῝"),
  (0x301, "AÁCĆEÉGǴIÍKḰLĹMḾNŃOÓPṔRŔSŚUÚWẂYÝZŹaácćeégǵiíkḱlĺmḿnńoópṕrŕsśuúwẃyýzź¨΅ÂẤÅǺÆǼÇḈÊẾÏḮÔỐÕṌ"),
  (0x301, "ØǾÜǗâấåǻæǽçḉêếïḯôốõṍøǿüǘĂẮăắĒḖēḗŌṒōṓŨṸũṹƠỚơớƯỨưứΑΆΕΈΗΉΙΊΟΌΥΎΩΏαάεέηήιίοόυύωώϊΐϋΰϒϓГЃКЌ"),
  (0x301, "гѓкќἀἄἁἅἈἌἉἍἐἔἑἕἘἜἙἝἠἤἡἥἨἬἩἭἰἴἱἵἸἼἹἽὀὄὁὅὈὌὉὍὐὔὑὕὙὝὠὤὡὥὨὬὩὭ᾿῎῾῞"),
  (0x302, "AÂCĈEÊGĜHĤIÎJĴOÔSŜUÛWŴYŶZẐaâcĉeêgĝhĥiîjĵoôsŝuûwŵyŷzẑẠẬạậẸỆẹệỌỘọộ"),
  (0x303, "AÃEẼIĨNÑOÕUŨVṼYỸaãeẽiĩnñoõuũvṽyỹÂẪÊỄÔỖâẫêễôỗĂẴăẵƠỠơỡƯỮưữ"),
  (0x304, "AĀEĒGḠIĪOŌUŪYȲaāeēgḡiīoōuūyȳÄǞÆǢÕȬÖȪÜǕäǟæǣõȭöȫüǖǪǬǫǭȦǠȧǡȮȰȯȱΑᾹΙῙΥῩαᾱιῑυῡИӢУӮиӣуӯḶḸḷḹṚṜ"),
  (0x304, "ṛṝ"),
  (0x306, "AĂEĔGĞIĬOŎUŬaăeĕgğiĭoŏuŭȨḜȩḝΑᾸΙῘΥῨαᾰιῐυῠАӐЕӖЖӁИЙУЎаӑеӗжӂийуўẠẶạặ"),
  (0x307, "AȦBḂCĊDḊEĖFḞGĠHḢIİMṀNṄOȮPṖRṘSṠTṪWẆXẊYẎZŻaȧbḃcċdḋeėfḟgġhḣmṁnṅoȯpṗrṙsṡtṫwẇxẋyẏzżŚṤśṥŠṦšṧ"),
  (0x307, "ſẛṢṨṣṩ𐗒𐗉𐗚𐗤"),
  (0x308, "AÄEËHḦIÏOÖUÜWẄXẌYŸaäeëhḧiïoötẗuüwẅxẍyÿÕṎõṏŪṺūṻΙΪΥΫιϊυϋϒϔІЇАӒЕЁЖӜЗӞИӤОӦУӰЧӴЫӸЭӬаӓеёжӝзӟ"),
  (0x308, "иӥоӧуӱчӵыӹэӭіїӘӚәӛӨӪөӫ"),
  (0x309, "AẢEẺIỈOỎUỦYỶaảeẻiỉoỏuủyỷÂẨÊỂÔỔâẩêểôổĂẲăẳƠỞơởƯỬưử"),
  (0x30A, "AÅUŮaåuůwẘyẙ"),
  (0x30B, "OŐUŰoőuűУӲуӳ"),
  (0x30C, "AǍCČDĎEĚGǦHȞIǏKǨLĽNŇOǑRŘSŠTŤUǓZŽaǎcčdďeěgǧhȟiǐjǰkǩlľnňoǒrřsštťuǔzžÜǙüǚƷǮʒǯ"),
  (0x30F, "AȀEȄIȈOȌRȐUȔaȁeȅiȉoȍrȑuȕѴѶѵѷ"),
  (0x311, "AȂEȆIȊOȎRȒUȖaȃeȇiȋoȏrȓuȗ"),
  (0x313, "ΑἈΕἘΗἨΙἸΟὈΩὨαἀεἐηἠιἰοὀρῤυὐωὠ"),
  (0x314, "ΑἉΕἙΗἩΙἹΟὉΡῬΥὙΩὩαἁεἑηἡιἱοὁρῥυὑωὡ"),
  (0x31B, "OƠUƯoơuư"),
  (0x323, "AẠBḄDḌEẸHḤIỊKḲLḶMṂNṆOỌRṚSṢTṬUỤVṾWẈYỴZẒaạbḅdḍeẹhḥiịkḳlḷmṃnṇoọrṛsṣtṭuụvṿwẉyỵzẓƠỢơợƯỰưự"),
  (0x324, "UṲuṳ"),
  (0x325, "AḀaḁ"),
  (0x326, "SȘTȚsștț"),
  (0x327, "CÇDḐEȨGĢHḨKĶLĻNŅRŖSŞTŢcçdḑeȩgģhḩkķlļnņrŗsştţ"),
  (0x328, "AĄEĘIĮOǪUŲaąeęiįoǫuų"),
  (0x32D, "DḒEḘLḼNṊTṰUṶdḓeḙlḽnṋtṱuṷ"),
  (0x32E, "HḪhḫ"),
  (0x330, "EḚIḬUṴeḛiḭuṵ"),
  (0x331, "BḆDḎKḴLḺNṈRṞTṮZẔbḇdḏhẖkḵlḻnṉrṟtṯzẕ"),
  (0x338, "<≮=≠>≯←↚→↛↔↮⇐⇍⇒⇏⇔⇎∃∄∈∉∋∌∣∤∥∦∼≁≃≄≅≇≈≉≍≭≡≢≤≰≥≱≲≴≳≵≶≸≷≹≺⊀≻⊁≼⋠≽⋡⊂⊄⊃⊅⊆⊈⊇⊉⊑⋢⊒⋣⊢⊬⊨⊭⊩⊮⊫⊯⊲⋪⊳⋫⊴⋬"),
  (0x338, "⊵⋭"),
  (0x342, "¨῁αᾶηῆιῖυῦωῶϊῗϋῧἀἆἁἇἈἎἉἏἠἦἡἧἨἮἩἯἰἶἱἷἸἾἹἿὐὖὑὗὙὟὠὦὡὧὨὮὩὯ᾿῏῾῟"),
  (0x345, "ΑᾼΗῌΩῼάᾴήῄαᾳηῃωῳώῴἀᾀἁᾁἂᾂἃᾃἄᾄἅᾅἆᾆἇᾇἈᾈἉᾉἊᾊἋᾋἌᾌἍᾍἎᾎἏᾏἠᾐἡᾑἢᾒἣᾓἤᾔἥᾕἦᾖἧᾗἨᾘἩᾙἪᾚἫᾛἬᾜἭᾝἮᾞἯᾟὠᾠὡᾡ"),
  (0x345, "ὢᾢὣᾣὤᾤὥᾥὦᾦὧᾧὨᾨὩᾩὪᾪὫᾫὬᾬὭᾭὮᾮὯᾯὰᾲὴῂὼῲᾶᾷῆῇῶῷ"),
  (0x653, "\u0627\u0622"),
  (0x654, "\u0627\u0623\u0648\u0624\u064a\u0626\u06c1\u06c2\u06d2\u06d3\u06d5\u06c0"),
  (0x655, "\u0627\u0625"),
  (0x93C, "नऩरऱळऴ"),
  (0x9BE, "\u09c7\u09cb"),
  (0x9D7, "\u09c7\u09cc"),
  (0xB3E, "\u0b47\u0b4b"),
  (0xB56, "\u0b47\u0b48"),
  (0xB57, "\u0b47\u0b4c"),
  (0xBBE, "\u0bc6\u0bca\u0bc7\u0bcb"),
  (0xBD7, "ஒஔ\u0bc6\u0bcc"),
  (0xC56, "\u0c46\u0c48"),
  (0xCC2, "\u0cc6\u0cca"),
  (0xCD5, "\u0cbf\u0cc0\u0cc6\u0cc7\u0cca\u0ccb"),
  (0xCD6, "\u0cc6\u0cc8"),
  (0xD3E, "\u0d46\u0d4a\u0d47\u0d4b"),
  (0xD57, "\u0d46\u0d4c"),
  (0xDCA, "\u0dd9\u0dda\u0ddc\u0ddd"),
  (0xDCF, "\u0dd9\u0ddc"),
  (0xDDF, "\u0dd9\u0dde"),
  (0x102E, "ဥဦ"),
  (0x1B35, "ᬅᬆᬇᬈᬉᬊᬋᬌᬍᬎᬑᬒ\u1b3a\u1b3b\u1b3c\u1b3d\u1b3e\u1b40\u1b3f\u1b41\u1b42\u1b43"),
  (0x3099, "うゔかがきぎくぐけげこごさざしじすずせぜそぞただちぢつづてでとどはばひびふぶへべほぼゝゞウヴカガキギクグケゲコゴサザシジスズセゼソゾタダチヂツヅテデトドハバヒビフブヘベ"),
  (0x3099, "ホボワヷヰヸヱヹヲヺヽヾ"),
  (0x309A, "はぱひぴふぷへぺほぽハパヒピフプヘペホポ"),
  (0x110BA, "𑂙𑂚𑂛𑂜𑂥𑂫"),
  (0x11127, "𑄱𑄮𑄲𑄯"),
  (0x1133E, "𑍇𑍋"),
  (0x11357, "𑍇𑍌"),
  (0x113B8, "𑏅𑎸"),
  (0x113BB, "𑎄𑎅"),
  (0x113C2, "𑎋𑎎𑏅𑏂"),
  (0x113C9, "𑎂𑎃𑎐𑎑𑏅𑏉"),
  (0x114B0, "𑒹𑒼"),
  (0x114BA, "𑒹𑒻"),
  (0x114BD, "𑒹𑒾"),
  (0x115AF, "𑖸𑖺𑖹𑖻"),
  (0x11930, "𑤵𑤸"),
  (0x1611E, "𖄡𖄞"),
  (0x1611F, "𖄦𖄡𖄦𖄢𖄧𖄩𖄤"),
  (0x16120, "𖄨𖄡𖄨"),
  (0x16129, "𖄡𖄩"),
  (0x16D67, "𖵣𖵪𖵨𖵩𖵪")]

/-- The characters of a text in pairs. -/
def pairs : List Char → List (Char × Char)
  | a :: b :: rest => (a, b) :: pairs rest
  | _ => []

/-! ### Syllables -/

/-- The code of the first syllable that is one character. -/
def firstSyllable : Nat := 0xAC00

/-- The code of the first consonant that starts a syllable. -/
def firstLead : Nat := 0x1100

/-- The code of the first vowel of a syllable. -/
def firstVowel : Nat := 0x1161

/-- The code before that of the first consonant that ends a syllable. -/
def beforeTails : Nat := 0x11A7

/-- How many consonants start a syllable. -/
def leadCount : Nat := 19

/-- How many vowels there are. -/
def vowelCount : Nat := 21

/-- How many ends a syllable can have, one of which is none. -/
def tailCount : Nat := 28

/-- The last part of a syllable and what is before it. -/
def syllableParts? (c : Char) : Option (Char × Char) :=
  let place := c.toNat - firstSyllable
  let tail := place % tailCount
  if c.toNat < firstSyllable ∨ leadCount * vowelCount * tailCount ≤ place then none
  else if tail ≠ 0 then some (Char.ofNat (c.toNat - tail), Char.ofNat (beforeTails + tail))
  else some (Char.ofNat (firstLead + place / (vowelCount * tailCount)),
    Char.ofNat (firstVowel + place / tailCount % vowelCount))

/-- The syllable of two parts. -/
def syllable? (a b : Char) : Option Char :=
  let lead := a.toNat - firstLead
  let vowel := b.toNat - firstVowel
  let tail := b.toNat - beforeTails
  let place := a.toNat - firstSyllable
  if firstLead ≤ a.toNat ∧ lead < leadCount ∧ firstVowel ≤ b.toNat ∧ vowel < vowelCount then
    some (Char.ofNat (firstSyllable + (lead * vowelCount + vowel) * tailCount))
  else if firstSyllable ≤ a.toNat ∧ place < leadCount * vowelCount * tailCount
      ∧ place % tailCount = 0 ∧ beforeTails < b.toNat ∧ tail < tailCount then
    some (Char.ofNat (a.toNat + tail))
  else none

/-! ### Taking apart -/

/-- The two characters that a character is made of. -/
def parts? (c : Char) : Option (Char × Char) :=
  if c.toNat < 0xC0 then none
  else
    match syllableParts? c with
    | some parts => some parts
    | none =>
      compositions.findSome? fun (second, texts) =>
        ((pairs texts.toList).find? fun (_, whole) => whole == c).map fun (first, _) =>
          (first, Char.ofNat second)

/-- Takes the characters of a text apart, that many times one after another. -/
def takenApart : (times : Nat) → List Char → List Char
  | 0, cs => cs
  | times + 1, cs =>
    takenApart times (cs.flatMap fun c =>
      match parts? c with
      | some (a, b) => [a, b]
      | none => [c])

/-- The greatest number of times that a character comes apart. -/
def maxDepth : Nat := 3

/-! ### Order -/

/-- Puts a character before a text, behind the marks of lower classes if it is a mark. -/
def placed (c : Char) : List Char → List Char
  | [] => [c]
  | d :: rest =>
    if 0 < combiningClass d ∧ combiningClass d < combiningClass c then d :: placed c rest
    else c :: d :: rest

/-- The text with the marks in the order of their classes. -/
def ordered (cs : List Char) : List Char :=
  cs.foldr placed []

/-! ### Putting together -/

/-- The character that two characters are together. -/
def whole? (a b : Char) : Option Char :=
  match syllable? a b with
  | some whole => some whole
  | none => (compositions.filter (·.1 == b.toNat)).findSome? fun (_, texts) =>
      (pairs texts.toList).lookup a

/-- Puts together the characters after `first` with it where that can be; `between` holds those that
stay between it and the next one, the last one first. -/
def putTogether (first : Char) (between : List Char) : List Char → List Char
  | [] => first :: between.reverse
  | c :: rest =>
    let number := combiningClass c
    let isFree := between.head?.all fun b => combiningClass b < number
    match if isFree then whole? first c else none with
    | some whole => putTogether whole between rest
    | none =>
      if number = 0 then first :: between.reverse ++ putTogether c [] rest
      else putTogether first (c :: between) rest

/-- The form of a text in which as much as possible is one character. -/
def composed (cs : List Char) : List Char :=
  if cs.all fun c => c.toNat < 0xC0 then cs
  else
    match ordered (takenApart maxDepth cs) with
    | [] => []
    | first :: rest => putTogether first [] rest

end ScoreDeploy.Text
