import ScoreDeploy.Text.Hidden
import ScoreDeploy.Text.Mark
import ScoreDeploy.Text.Parts

/-!
# Characters of names

Names of machines are alike if they look alike. So in a name a capital stands for its small letter,
and a character that is only another shape of others, such as a digit in a circle or a letter of
full width, stands for those. A few characters count for nothing, and others may not stand in a name
at all. `form?` gives what a character stands for.
-/

namespace ScoreDeploy.Url

/-- What characters stand for: the code of the first character of a row, and between spaces what
that one and those after it stand for. Some of them stand for themselves. -/
def formRows : List (Nat × String) := [
  (0xAA, "a"), (0xB2, "2 3"), (0xB5, "μ"),
  (0xB9, "1 o » 1⁄4 1⁄2 3⁄4 ¿ à á â ã ä å æ ç è é ê ë ì í î ï ð ñ ò ó ô õ ö × ø ù ú û ü ý þ"),
  (0x100, "ā ā ă ă ą ą ć ć ĉ ĉ ċ ċ č č ď ď đ đ ē ē ĕ ĕ ė ė ę ę ě ě ĝ ĝ ğ ğ ġ ġ ģ ģ ĥ ĥ ħ ħ ĩ ĩ ī"),
  (0x12C, "ĭ ĭ į į i\u0307 ı ij ij ĵ ĵ ķ ķ ĸ ĺ ĺ ļ ļ ľ ľ l· l· ł ł ń ń ņ ņ ň ň ʼn ŋ ŋ ō ō ŏ ŏ ő"),
  (0x152, "œ œ ŕ ŕ ŗ ŗ ř ř ś ś ŝ ŝ ş ş š š ţ ţ ť ť ŧ ŧ ũ ũ ū ū ŭ ŭ ů ů ű ű ų ų ŵ ŵ ŷ ŷ ÿ ź ź ż"),
  (0x17D, "ž ž s ƀ ɓ ƃ ƃ ƅ ƅ ɔ ƈ ƈ ɖ ɗ ƌ ƌ ƍ ǝ ə ɛ ƒ ƒ ɠ ɣ ƕ ɩ ɨ ƙ ƙ ƚ ƛ ɯ ɲ ƞ ɵ ơ ơ ƣ ƣ ƥ ƥ ʀ ƨ"),
  (0x1A9, "ʃ ƪ ƫ ƭ ƭ ʈ ư ư ʊ ʋ ƴ ƴ ƶ ƶ ʒ ƹ ƹ ƺ ƻ ƽ"),
  (0x1C4, "dž dž dž lj lj lj nj nj nj ǎ ǎ ǐ ǐ ǒ ǒ ǔ ǔ ǖ ǖ ǘ ǘ ǚ ǚ ǜ ǜ ǝ ǟ ǟ ǡ ǡ ǣ ǣ ǥ ǥ ǧ ǧ ǩ ǩ ǫ"),
  (0x1EC, "ǭ ǭ ǯ ǯ ǰ dz dz dz ǵ ǵ ƕ ƿ ǹ ǹ ǻ ǻ ǽ ǽ ǿ ǿ ȁ ȁ ȃ ȃ ȅ ȅ ȇ ȇ ȉ ȉ ȋ ȋ ȍ ȍ ȏ ȏ ȑ ȑ ȓ ȓ ȕ"),
  (0x216, "ȗ ȗ ș ș ț ț ȝ ȝ ȟ ȟ ƞ ȡ ȣ ȣ ȥ ȥ ȧ ȧ ȩ ȩ ȫ ȫ ȭ ȭ ȯ ȯ ȱ ȱ ȳ"),
  (0x23A, "ⱥ ȼ ȼ ƚ ⱦ ȿ ɀ ɂ ɂ ƀ ʉ ʌ ɇ ɇ ɉ ɉ ɋ ɋ ɍ ɍ ɏ"), (0x2B0, "h ɦ j r ɹ ɻ ʁ w y"),
  (0x2E0, "ɣ l s x ʕ"), (0x340, "\u0300 \u0301 \u0342 \u0313 \u0308\u0301 ι"),
  (0x370, "ͱ ͱ ͳ ͳ ʹ ͵ ͷ"), (0x37E, "; ϳ"), (0x386, "ά · έ ή ί"), (0x38C, "ό"),
  (0x38E, "ύ ώ ΐ α β γ δ ε ζ η θ ι κ λ μ ν ξ ο π ρ"), (0x3A3, "σ τ υ φ χ ψ ω ϊ ϋ"),
  (0x3CF, "ϗ β θ υ ύ ϋ φ π ϗ ϙ ϙ ϛ ϛ ϝ ϝ ϟ ϟ ϡ ϡ ϣ ϣ ϥ ϥ ϧ ϧ ϩ ϩ ϫ ϫ ϭ ϭ ϯ ϯ κ ρ σ ϳ θ ε ϶ ϸ ϸ σ"),
  (0x3FA, "ϻ ϻ ϼ ͻ ͼ ͽ ѐ ё ђ ѓ є ѕ і ї ј љ њ ћ ќ ѝ ў џ а б в г д е ж з и й к л м н о п р с т у ф"),
  (0x425, "х ц ч ш щ ъ ы ь э ю я"),
  (0x460, "ѡ ѡ ѣ ѣ ѥ ѥ ѧ ѧ ѩ ѩ ѫ ѫ ѭ ѭ ѯ ѯ ѱ ѱ ѳ ѳ ѵ ѵ ѷ ѷ ѹ ѹ ѻ ѻ ѽ ѽ ѿ ѿ ҁ"),
  (0x48A, "ҋ ҋ ҍ ҍ ҏ ҏ ґ ґ ғ ғ ҕ ҕ җ җ ҙ ҙ қ қ ҝ ҝ ҟ ҟ ҡ ҡ ң ң ҥ ҥ ҧ ҧ ҩ ҩ ҫ ҫ ҭ ҭ ү ү ұ ұ ҳ ҳ ҵ"),
  (0x4B6, "ҷ ҷ ҹ ҹ һ һ ҽ ҽ ҿ ҿ ӏ ӂ ӂ ӄ ӄ ӆ ӆ ӈ ӈ ӊ ӊ ӌ ӌ ӎ ӎ ӏ ӑ ӑ ӓ ӓ ӕ ӕ ӗ ӗ ә ә ӛ ӛ ӝ ӝ ӟ ӟ ӡ"),
  (0x4E2, "ӣ ӣ ӥ ӥ ӧ ӧ ө ө ӫ ӫ ӭ ӭ ӯ ӯ ӱ ӱ ӳ ӳ ӵ ӵ ӷ ӷ ӹ ӹ ӻ ӻ ӽ ӽ ӿ ӿ ԁ ԁ ԃ ԃ ԅ ԅ ԇ ԇ ԉ ԉ ԋ ԋ ԍ"),
  (0x50E, "ԏ ԏ ԑ ԑ ԓ ԓ ԕ ԕ ԗ ԗ ԙ ԙ ԛ ԛ ԝ ԝ ԟ ԟ ԡ ԡ ԣ ԣ ԥ ԥ ԧ ԧ ԩ ԩ ԫ ԫ ԭ ԭ ԯ"),
  (0x531, "ա բ գ դ ե զ է ը թ ժ ի լ խ ծ կ հ ձ ղ ճ մ յ ն շ ո չ պ ջ ռ ս վ տ ր ց ւ փ ք օ ֆ"),
  (0x587, "եւ"), (0x675, "\u0627\u0674 \u0648\u0674 \u06c7\u0674 \u064a\u0674"),
  (0x958, "क\u093c ख\u093c ग\u093c ज\u093c ड\u093c ढ\u093c फ\u093c य\u093c"),
  (0x9DC, "ড\u09bc ঢ\u09bc"), (0x9DF, "য\u09bc"), (0xA33, "ਲ\u0a3c"), (0xA36, "ਸ\u0a3c"),
  (0xA59, "ਖ\u0a3c ਗ\u0a3c ਜ\u0a3c"), (0xA5E, "ਫ\u0a3c"), (0xB5C, "ଡ\u0b3c ଢ\u0b3c"),
  (0xE33, "\u0e4dา"), (0xEB3, "\u0ecdາ"), (0xEDC, "ຫນ ຫມ"), (0xF0C, "་"), (0xF43, "ག\u0fb7"),
  (0xF4D, "ཌ\u0fb7"), (0xF52, "ད\u0fb7"), (0xF57, "བ\u0fb7"), (0xF5C, "ཛ\u0fb7"),
  (0xF69, "ཀ\u0fb5"),
  (0xF73, "\u0f71\u0f72 \u0f74 \u0f71\u0f74 \u0fb2\u0f80 \u0fb2\u0f71\u0f80 \u0fb3\u0f80"),
  (0xF79, "\u0fb3\u0f71\u0f80"), (0xF81, "\u0f71\u0f80"), (0xF93, "\u0f92\u0fb7"),
  (0xF9D, "\u0f9c\u0fb7"), (0xFA2, "\u0fa1\u0fb7"), (0xFA7, "\u0fa6\u0fb7"),
  (0xFAC, "\u0fab\u0fb7"), (0xFB9, "\u0f90\u0fb5"),
  (0x10A0, "ⴀ ⴁ ⴂ ⴃ ⴄ ⴅ ⴆ ⴇ ⴈ ⴉ ⴊ ⴋ ⴌ ⴍ ⴎ ⴏ ⴐ ⴑ ⴒ ⴓ ⴔ ⴕ ⴖ ⴗ ⴘ ⴙ ⴚ ⴛ ⴜ ⴝ ⴞ ⴟ ⴠ ⴡ ⴢ ⴣ ⴤ ⴥ"),
  (0x10C7, "ⴧ"), (0x10CD, "ⴭ"), (0x10FC, "ნ"), (0x13F8, "Ᏸ Ᏹ Ᏺ Ᏻ Ᏼ Ᏽ"),
  (0x1C80, "в д о с т т ъ ѣ ꙋ ᲊ"),
  (0x1C90, "ა ბ გ დ ე ვ ზ თ ი კ ლ მ ნ ო პ ჟ რ ს ტ უ ფ ქ ღ ყ შ ჩ ც ძ წ ჭ ხ ჯ ჰ ჱ ჲ ჳ ჴ ჵ ჶ ჷ ჸ ჹ ჺ"),
  (0x1CBD, "ჽ ჾ ჿ"),
  (0x1D2C, "a æ b ᴯ d e ǝ g h i j k l m n ᴻ o ȣ p r t u w a ɐ ɑ ᴂ b d e ə ɛ ɜ g ᵎ k m ŋ o ɔ ᴖ ᴗ p"),
  (0x1D57, "t u ᴝ ɯ v ᴥ β γ δ φ χ i r u v β γ ρ φ χ"), (0x1D78, "н"),
  (0x1D9B, "ɒ c ɕ ð ɜ f ɟ ɡ ɥ ɨ ɩ ɪ ᵻ ʝ ɭ ᶅ ʟ ɱ ɰ ɲ ɳ ɴ ɵ ɸ ʂ ʃ ƫ ʉ ʊ ᴜ ʋ ʌ z ʐ ʑ ʒ θ"),
  (0x1E00, "ḁ ḁ ḃ ḃ ḅ ḅ ḇ ḇ ḉ ḉ ḋ ḋ ḍ ḍ ḏ ḏ ḑ ḑ ḓ ḓ ḕ ḕ ḗ ḗ ḙ ḙ ḛ ḛ ḝ ḝ ḟ ḟ ḡ ḡ ḣ ḣ ḥ ḥ ḧ ḧ ḩ ḩ ḫ"),
  (0x1E2C, "ḭ ḭ ḯ ḯ ḱ ḱ ḳ ḳ ḵ ḵ ḷ ḷ ḹ ḹ ḻ ḻ ḽ ḽ ḿ ḿ ṁ ṁ ṃ ṃ ṅ ṅ ṇ ṇ ṉ ṉ ṋ ṋ ṍ ṍ ṏ ṏ ṑ ṑ ṓ ṓ ṕ ṕ ṗ"),
  (0x1E58, "ṙ ṙ ṛ ṛ ṝ ṝ ṟ ṟ ṡ ṡ ṣ ṣ ṥ ṥ ṧ ṧ ṩ ṩ ṫ ṫ ṭ ṭ ṯ ṯ ṱ ṱ ṳ ṳ ṵ ṵ ṷ ṷ ṹ ṹ ṻ ṻ ṽ ṽ ṿ ṿ ẁ ẁ ẃ"),
  (0x1E84, "ẅ ẅ ẇ ẇ ẉ ẉ ẋ ẋ ẍ ẍ ẏ ẏ ẑ ẑ ẓ ẓ ẕ"),
  (0x1E9A, "aʾ ṡ ẜ ẝ ß ẟ ạ ạ ả ả ấ ấ ầ ầ ẩ ẩ ẫ ẫ ậ ậ ắ ắ ằ ằ ẳ ẳ ẵ ẵ ặ ặ ẹ ẹ ẻ ẻ ẽ ẽ ế ế ề ề ể"),
  (0x1EC4, "ễ ễ ệ ệ ỉ ỉ ị ị ọ ọ ỏ ỏ ố ố ồ ồ ổ ổ ỗ ỗ ộ ộ ớ ớ ờ ờ ở ở ỡ ỡ ợ ợ ụ ụ ủ ủ ứ ứ ừ ừ ử ử ữ"),
  (0x1EF0, "ự ự ỳ ỳ ỵ ỵ ỷ ỷ ỹ ỹ ỻ ỻ ỽ ỽ ỿ"), (0x1F08, "ἀ ἁ ἂ ἃ ἄ ἅ ἆ ἇ"), (0x1F18, "ἐ ἑ ἒ ἓ ἔ ἕ"),
  (0x1F28, "ἠ ἡ ἢ ἣ ἤ ἥ ἦ ἧ"), (0x1F38, "ἰ ἱ ἲ ἳ ἴ ἵ ἶ ἷ"), (0x1F48, "ὀ ὁ ὂ ὃ ὄ ὅ"), (0x1F59, "ὑ"),
  (0x1F5B, "ὓ"), (0x1F5D, "ὕ"), (0x1F5F, "ὗ"),
  (0x1F68, "ὠ ὡ ὢ ὣ ὤ ὥ ὦ ὧ ὰ ά ὲ έ ὴ ή ὶ ί ὸ ό ὺ ύ ὼ ώ"),
  (0x1F80, "ἀι ἁι ἂι ἃι ἄι ἅι ἆι ἇι ἀι ἁι ἂι ἃι ἄι ἅι ἆι ἇι ἠι ἡι ἢι ἣι ἤι ἥι ἦι ἧι ἠι ἡι ἢι ἣι"),
  (0x1F9C, "ἤι ἥι ἦι ἧι ὠι ὡι ὢι ὣι ὤι ὥι ὦι ὧι ὠι ὡι ὢι ὣι ὤι ὥι ὦι ὧι ᾰ ᾱ ὰι αι άι"),
  (0x1FB7, "ᾶι ᾰ ᾱ ὰ ά αι"), (0x1FBE, "ι"), (0x1FC2, "ὴι ηι ήι"), (0x1FC7, "ῆι ὲ έ ὴ ή ηι"),
  (0x1FD3, "ΐ"), (0x1FD8, "ῐ ῑ ὶ ί"), (0x1FE3, "ΰ"), (0x1FE8, "ῠ ῡ ὺ ύ ῥ"), (0x1FEF, "`"),
  (0x1FF2, "ὼι ωι ώι"), (0x1FF7, "ῶι ὸ ό ὼ ώ ωι"), (0x2011, "‐"), (0x2033, "′′ ′′′ ‵ ‵‵ ‵‵‵"),
  (0x203C, "!!"), (0x2047, "?? ?! !?"), (0x2057, "′′′′"), (0x2070, "0 i"),
  (0x2074, "4 5 6 7 8 9 + − = ( ) n 0 1 2 3 4 5 6 7 8 9 + − = ( )"),
  (0x2090, "a e o x ə h k l m n p s t"), (0x20A8, "rs"),
  (0x2100, "a/c a/s c °c ℄ c/o c/u ɛ ℈ °f g h h h h ħ i i l l ℔ n no ℗ ℘ p q r r r ℞ ℟ sm tel tm"),
  (0x2124, "z ℥ ω ℧ z ℩ k å b c ℮ e e f ⅎ m o \u05d0 \u05d1 \u05d2 \u05d3 i ℺ fax π γ γ π ∑"),
  (0x2145, "d d e i j"),
  (0x2150, "1⁄7 1⁄9 1⁄10 1⁄3 2⁄3 1⁄5 2⁄5 3⁄5 4⁄5 1⁄6 5⁄6 1⁄8 3⁄8 5⁄8 7⁄8 1⁄ i ii iii iv v vi vii"),
  (0x2167, "viii ix x xi xii l c d m i ii iii iv v vi vii viii ix x xi xii l c d m ↀ ↁ ↂ ↄ"),
  (0x2189, "0⁄3"), (0x222C, "∫∫ ∫∫∫ ∮ ∮∮ ∮∮∮"), (0x2329, "〈 〉"),
  (0x2460, "1 2 3 4 5 6 7 8 9 10 11 12 13 14 15 16 17 18 19 20 (1) (2) (3) (4) (5) (6) (7) (8)"),
  (0x247C, "(9) (10) (11) (12) (13) (14) (15) (16) (17) (18) (19) (20)"),
  (0x249C, "(a) (b) (c) (d) (e) (f) (g) (h) (i) (j) (k) (l) (m) (n) (o) (p) (q) (r) (s) (t) (u)"),
  (0x24B1, "(v) (w) (x) (y) (z) a b c d e f g h i j k l m n o p q r s t u v w x y z a b c d e f g"),
  (0x24D7, "h i j k l m n o p q r s t u v w x y z 0"), (0x2A0C, "∫∫∫∫"), (0x2A74, "::= == ==="),
  (0x2ADC, "⫝\u0338"),
  (0x2C00, "ⰰ ⰱ ⰲ ⰳ ⰴ ⰵ ⰶ ⰷ ⰸ ⰹ ⰺ ⰻ ⰼ ⰽ ⰾ ⰿ ⱀ ⱁ ⱂ ⱃ ⱄ ⱅ ⱆ ⱇ ⱈ ⱉ ⱊ ⱋ ⱌ ⱍ ⱎ ⱏ ⱐ ⱑ ⱒ ⱓ ⱔ ⱕ ⱖ ⱗ ⱘ ⱙ ⱚ"),
  (0x2C2B, "ⱛ ⱜ ⱝ ⱞ ⱟ"), (0x2C60, "ⱡ ⱡ ɫ ᵽ ɽ ⱥ ⱦ ⱨ ⱨ ⱪ ⱪ ⱬ ⱬ ɑ ɱ ɐ ɒ ⱱ ⱳ ⱳ ⱴ ⱶ"),
  (0x2C7C, "j v ȿ ɀ ⲁ ⲁ ⲃ ⲃ ⲅ ⲅ ⲇ ⲇ ⲉ ⲉ ⲋ ⲋ ⲍ ⲍ ⲏ ⲏ ⲑ ⲑ ⲓ ⲓ ⲕ ⲕ ⲗ ⲗ ⲙ ⲙ ⲛ ⲛ ⲝ ⲝ ⲟ ⲟ ⲡ ⲡ ⲣ ⲣ ⲥ ⲥ ⲧ"),
  (0x2CA8, "ⲩ ⲩ ⲫ ⲫ ⲭ ⲭ ⲯ ⲯ ⲱ ⲱ ⲳ ⲳ ⲵ ⲵ ⲷ ⲷ ⲹ ⲹ ⲻ ⲻ ⲽ ⲽ ⲿ ⲿ ⳁ ⳁ ⳃ ⳃ ⳅ ⳅ ⳇ ⳇ ⳉ ⳉ ⳋ ⳋ ⳍ ⳍ ⳏ ⳏ ⳑ ⳑ ⳓ"),
  (0x2CD4, "ⳕ ⳕ ⳗ ⳗ ⳙ ⳙ ⳛ ⳛ ⳝ ⳝ ⳟ ⳟ ⳡ ⳡ ⳣ"), (0x2CEB, "ⳬ ⳬ ⳮ"), (0x2CF2, "ⳳ"), (0x2D6F, "ⵡ"),
  (0x2E9F, "母"), (0x2EF3, "龟"),
  (0x2F00, "一 丨 丶 丿 乙 亅 二 亠 人 儿 入 八 冂 冖 冫 几 凵 刀 力 勹 匕 匚 匸 十 卜 卩 厂 厶 又 口 囗 土 士 夂 夊 夕 大 女 子 宀 寸 小 尢"),
  (0x2F2B, "尸 屮 山 巛 工 己 巾 干 幺 广 廴 廾 弋 弓 彐 彡 彳 心 戈 戶 手 支 攴 文 斗 斤 方 无 日 曰 月 木 欠 止 歹 殳 毋 比 毛 氏 气 水 火"),
  (0x2F56, "爪 父 爻 爿 片 牙 牛 犬 玄 玉 瓜 瓦 甘 生 用 田 疋 疒 癶 白 皮 皿 目 矛 矢 石 示 禸 禾 穴 立 竹 米 糸 缶 网 羊 羽 老 而 耒 耳 聿"),
  (0x2F81, "肉 臣 自 至 臼 舌 舛 舟 艮 色 艸 虍 虫 血 行 衣 襾 見 角 言 谷 豆 豕 豸 貝 赤 走 足 身 車 辛 辰 辵 邑 酉 釆 里 金 長 門 阜 隶 隹"),
  (0x2FAC, "雨 靑 非 面 革 韋 韭 音 頁 風 飛 食 首 香 馬 骨 高 髟 鬥 鬯 鬲 鬼 魚 鳥 鹵 鹿 麥 麻 黃 黍 黑 黹 黽 鼎 鼓 鼠 鼻 齊 齒 龍 龜 龠"),
  (0x3002, "."), (0x3036, "〒 〷 十 卄 卅"), (0x309F, "より"), (0x30FF, "コト"),
  (0x3131, "ᄀ ᄁ ᆪ ᄂ ᆬ ᆭ ᄃ ᄄ ᄅ ᆰ ᆱ ᆲ ᆳ ᆴ ᆵ ᄚ ᄆ ᄇ ᄈ ᄡ ᄉ ᄊ ᄋ ᄌ ᄍ ᄎ ᄏ ᄐ ᄑ ᄒ ᅡ ᅢ ᅣ ᅤ ᅥ ᅦ ᅧ ᅨ ᅩ ᅪ ᅫ ᅬ ᅭ"),
  (0x315C, "ᅮ ᅯ ᅰ ᅱ ᅲ ᅳ ᅴ ᅵ"),
  (0x3165, "ᄔ ᄕ ᇇ ᇈ ᇌ ᇎ ᇓ ᇗ ᇙ ᄜ ᇝ ᇟ ᄝ ᄞ ᄠ ᄢ ᄣ ᄧ ᄩ ᄫ ᄬ ᄭ ᄮ ᄯ ᄲ ᄶ ᅀ ᅇ ᅌ ᇱ ᇲ ᅗ ᅘ ᅙ ᆄ ᆅ ᆈ ᆑ ᆒ ᆔ ᆞ ᆡ"),
  (0x3192, "一 二 三 四 上 中 下 甲 乙 丙 丁 天 地 人"),
  (0x3200, "(ᄀ) (ᄂ) (ᄃ) (ᄅ) (ᄆ) (ᄇ) (ᄉ) (ᄋ) (ᄌ) (ᄎ) (ᄏ) (ᄐ) (ᄑ) (ᄒ) (가) (나) (다) (라) (마) (바) (사)"),
  (0x3215, "(아) (자) (차) (카) (타) (파) (하) (주) (오전) (오후)"),
  (0x3220, "(一) (二) (三) (四) (五) (六) (七) (八) (九) (十) (月) (火) (水) (木) (金) (土) (日) (株) (有) (社) (名)"),
  (0x3235, "(特) (財) (祝) (労) (代) (呼) (学) (監) (企) (資) (協) (祭) (休) (自) (至) 問 幼 文 箏"),
  (0x3250, "pte 21 22 23 24 25 26 27 28 29 30 31 32 33 34 35 ᄀ ᄂ ᄃ ᄅ ᄆ ᄇ ᄉ ᄋ ᄌ ᄎ ᄏ ᄐ ᄑ ᄒ 가 나 다 라"),
  (0x3272, "마 바 사 아 자 차 카 타 파 하 참고 주의 우 ㉿ 一 二 三 四 五 六 七 八 九 十 月 火 水 木 金 土 日 株 有 社 名 特 財 祝 労 秘 男 女"),
  (0x329C, "適 優 印 注 項 休 写 正 上 中 下 左 右 医 宗 学 監 企 資 協 夜 36 37 38 39 40 41 42 43 44 45 46 47 48 49"),
  (0x32BF, "50 1月 2月 3月 4月 5月 6月 7月 8月 9月 10月 11月 12月 hg erg ev ltd ア イ ウ エ オ カ キ ク ケ コ サ シ ス セ ソ"),
  (0x32DF, "タ チ ツ テ ト ナ ニ ヌ ネ ノ ハ ヒ フ ヘ ホ マ ミ ム メ モ ヤ ユ ヨ ラ リ ル レ ロ ワ ヰ ヱ ヲ 令和 アパート アルファ アンペア アール"),
  (0x3304, "イニング インチ ウォン エスクード エーカー オンス オーム カイリ カラット カロリー ガロン ガンマ ギガ ギニー キュリー ギルダー キロ キログラム"),
  (0x3316, "キロメートル キロワット グラム グラムトン クルゼイロ クローネ ケース コルナ コーポ サイクル サンチーム シリング センチ セント ダース デシ ドル トン ナノ"),
  (0x3329, "ノット ハイツ パーセント パーツ バーレル ピアストル ピクル ピコ ビル ファラッド フィート ブッシェル フラン ヘクタール ペソ ペニヒ ヘルツ ペンス ページ"),
  (0x333C, "ベータ ポイント ボルト ホン ポンド ホール ホーン マイクロ マイル マッハ マルク マンション ミクロン ミリ ミリバール メガ メガトン メートル ヤード ヤール"),
  (0x3350, "ユアン リットル リラ ルピー ルーブル レム レントゲン ワット 0点 1点 2点 3点 4点 5点 6点 7点 8点 9点 10点 11点 12点 13点 14点"),
  (0x3367, "15点 16点 17点 18点 19点 20点 21点 22点 23点 24点 hpa da au bar ov pc dm dm2 dm3 iu 平成 昭和 大正 明治"),
  (0x337F, "株式会社 pa na μa ma ka kb mb gb cal kcal pf nf μf μg mg kg hz khz mhz ghz thz μl ml dl"),
  (0x3398, "kl fm nm μm mm cm km mm2 cm2 m2 km2 mm3 cm3 m3 km3 m∕s m∕s2 pa kpa mpa gpa rad rad∕s"),
  (0x33AF, "rad∕s2 ps ns μs ms pv nv μv mv kv mv pw nw μw mw kw mw kω mω"),
  (0x33C3, "bq cc cd c∕kg"), (0x33C8, "db gy ha hp in kk km kt lm ln log lx mb mil mol ph"),
  (0x33D9, "ppm pr sr sv wb v∕m a∕m 1日 2日 3日 4日 5日 6日 7日 8日 9日 10日 11日 12日 13日 14日 15日 16日 17日"),
  (0x33F1, "18日 19日 20日 21日 22日 23日 24日 25日 26日 27日 28日 29日 30日 31日 gal"),
  (0xA640, "ꙁ ꙁ ꙃ ꙃ ꙅ ꙅ ꙇ ꙇ ꙉ ꙉ ꙋ ꙋ ꙍ ꙍ ꙏ ꙏ ꙑ ꙑ ꙓ ꙓ ꙕ ꙕ ꙗ ꙗ ꙙ ꙙ ꙛ ꙛ ꙝ ꙝ ꙟ ꙟ ꙡ ꙡ ꙣ ꙣ ꙥ ꙥ ꙧ ꙧ ꙩ ꙩ ꙫ"),
  (0xA66C, "ꙭ"), (0xA680, "ꚁ ꚁ ꚃ ꚃ ꚅ ꚅ ꚇ ꚇ ꚉ ꚉ ꚋ ꚋ ꚍ ꚍ ꚏ ꚏ ꚑ ꚑ ꚓ ꚓ ꚕ ꚕ ꚗ ꚗ ꚙ ꚙ ꚛ ꚛ ъ ь"),
  (0xA722, "ꜣ ꜣ ꜥ ꜥ ꜧ ꜧ ꜩ ꜩ ꜫ ꜫ ꜭ ꜭ ꜯ ꜯ ꜰ ꜱ ꜳ ꜳ ꜵ ꜵ ꜷ ꜷ ꜹ ꜹ ꜻ ꜻ ꜽ ꜽ ꜿ ꜿ ꝁ ꝁ ꝃ ꝃ ꝅ ꝅ ꝇ ꝇ ꝉ ꝉ ꝋ ꝋ ꝍ"),
  (0xA74E, "ꝏ ꝏ ꝑ ꝑ ꝓ ꝓ ꝕ ꝕ ꝗ ꝗ ꝙ ꝙ ꝛ ꝛ ꝝ ꝝ ꝟ ꝟ ꝡ ꝡ ꝣ ꝣ ꝥ ꝥ ꝧ ꝧ ꝩ ꝩ ꝫ ꝫ ꝭ ꝭ ꝯ ꝯ ꝯ"),
  (0xA779, "ꝺ ꝺ ꝼ ꝼ ᵹ ꝿ ꝿ ꞁ ꞁ ꞃ ꞃ ꞅ ꞅ ꞇ"),
  (0xA78B, "ꞌ ꞌ ɥ ꞎ ꞏ ꞑ ꞑ ꞓ ꞓ ꞔ ꞕ ꞗ ꞗ ꞙ ꞙ ꞛ ꞛ ꞝ ꞝ ꞟ ꞟ ꞡ ꞡ ꞣ ꞣ ꞥ ꞥ ꞧ ꞧ ꞩ ꞩ ɦ ɜ ɡ ɬ ɪ ꞯ ʞ ʇ ʝ ꭓ ꞵ"),
  (0xA7B6, "ꞷ ꞷ ꞹ ꞹ ꞻ ꞻ ꞽ ꞽ ꞿ ꞿ ꟁ ꟁ ꟃ ꟃ ꞔ ʂ ᶎ ꟈ ꟈ ꟊ ꟊ ɤ ꟍ ꟍ ꟏ ꟏ ꟑ ꟑ ꟓ ꟓ ꟕ ꟕ ꟗ ꟗ ꟙ ꟙ ꟛ ꟛ ƛ"),
  (0xA7F1, "s c f q ꟶ ꟶ ꟷ ħ œ"), (0xAB5C, "ꜧ ꬷ ɫ ꭒ"), (0xAB69, "ʍ"),
  (0xAB70, "Ꭰ Ꭱ Ꭲ Ꭳ Ꭴ Ꭵ Ꭶ Ꭷ Ꭸ Ꭹ Ꭺ Ꭻ Ꭼ Ꭽ Ꭾ Ꭿ Ꮀ Ꮁ Ꮂ Ꮃ Ꮄ Ꮅ Ꮆ Ꮇ Ꮈ Ꮉ Ꮊ Ꮋ Ꮌ Ꮍ Ꮎ Ꮏ Ꮐ Ꮑ Ꮒ Ꮓ Ꮔ Ꮕ Ꮖ Ꮗ Ꮘ Ꮙ Ꮚ"),
  (0xAB9B, "Ꮛ Ꮜ Ꮝ Ꮞ Ꮟ Ꮠ Ꮡ Ꮢ Ꮣ Ꮤ Ꮥ Ꮦ Ꮧ Ꮨ Ꮩ Ꮪ Ꮫ Ꮬ Ꮭ Ꮮ Ꮯ Ꮰ Ꮱ Ꮲ Ꮳ Ꮴ Ꮵ Ꮶ Ꮷ Ꮸ Ꮹ Ꮺ Ꮻ Ꮼ Ꮽ Ꮾ Ꮿ"),
  (0xF900, "豈 更 車 賈 滑 串 句 龜 龜 契 金 喇 奈 懶 癩 羅 蘿 螺 裸 邏 樂 洛 烙 珞 落 酪 駱 亂 卵 欄 爛 蘭 鸞 嵐 濫 藍 襤 拉 臘 蠟 廊 朗 浪"),
  (0xF92B, "狼 郎 來 冷 勞 擄 櫓 爐 盧 老 蘆 虜 路 露 魯 鷺 碌 祿 綠 菉 錄 鹿 論 壟 弄 籠 聾 牢 磊 賂 雷 壘 屢 樓 淚 漏 累 縷 陋 勒 肋 凜 凌"),
  (0xF956, "稜 綾 菱 陵 讀 拏 樂 諾 丹 寧 怒 率 異 北 磻 便 復 不 泌 數 索 參 塞 省 葉 說 殺 辰 沈 拾 若 掠 略 亮 兩 凉 梁 糧 良 諒 量 勵 呂"),
  (0xF981, "女 廬 旅 濾 礪 閭 驪 麗 黎 力 曆 歷 轢 年 憐 戀 撚 漣 煉 璉 秊 練 聯 輦 蓮 連 鍊 列 劣 咽 烈 裂 說 廉 念 捻 殮 簾 獵 令 囹 寧 嶺"),
  (0xF9AC, "怜 玲 瑩 羚 聆 鈴 零 靈 領 例 禮 醴 隸 惡 了 僚 寮 尿 料 樂 燎 療 蓼 遼 龍 暈 阮 劉 杻 柳 流 溜 琉 留 硫 紐 類 六 戮 陸 倫 崙 淪"),
  (0xF9D7, "輪 律 慄 栗 率 隆 利 吏 履 易 李 梨 泥 理 痢 罹 裏 裡 里 離 匿 溺 吝 燐 璘 藺 隣 鱗 麟 林 淋 臨 立 笠 粒 狀 炙 識 什 茶 刺 切 度"),
  (0xFA02, "拓 糖 宅 洞 暴 輻 行 降 見 廓 兀 嗀 﨎 﨏 塚 﨑 晴 﨓 﨔 凞 猪 益 礼 神 祥 福 靖 精 羽 﨟 蘒 﨡 諸 﨣 﨤 逸 都 﨧 﨨 﨩 飯 飼 館"),
  (0xFA2D, "鶴 郞 隷 侮 僧 免 勉 勤 卑 喝 嘆 器 塀 墨 層 屮 悔 慨 憎 懲 敏 既 暑 梅 海 渚 漢 煮 爫 琢 碑 社 祉 祈 祐 祖 祝 禍 禎 穀 突 節 練"),
  (0xFA58, "縉 繁 署 者 臭 艹 艹 著 褐 視 謁 謹 賓 贈 辶 逸 難 響 頻 恵 𤋮 舘"),
  (0xFA70, "並 况 全 侀 充 冀 勇 勺 喝 啕 喙 嗢 塚 墳 奄 奔 婢 嬨 廒 廙 彩 徭 惘 慎 愈 憎 慠 懲 戴 揄 搜 摒 敖 晴 朗 望 杖 歹 殺 流 滛 滋 漢"),
  (0xFA9B, "瀞 煮 瞧 爵 犯 猪 瑱 甆 画 瘝 瘟 益 盛 直 睊 着 磌 窱 節 类 絛 練 缾 者 荒 華 蝹 襁 覆 視 調 諸 請 謁 諾 諭 謹 變 贈 輸 遲 醙 鉶"),
  (0xFAC6, "陼 難 靖 韛 響 頋 頻 鬒 龜 𢡊 𢡄 𣏕 㮝 䀘 䀹 𥉉 𥳐 𧻓 齃 龎"), (0xFB00, "ff fi fl ffi ffl st st"),
  (0xFB13, "մն մե մի վն մխ"),
  (0xFB1D, "\u05d9\u05b4 \ufb1e \u05f2\u05b7 \u05e2 \u05d0 \u05d3 \u05d4 \u05db \u05dc \u05dd"),
  (0xFB27, "\u05e8 \u05ea + \u05e9\u05c1 \u05e9\u05c2 \u05e9\u05bc\u05c1 \u05e9\u05bc\u05c2"),
  (0xFB2E, "\u05d0\u05b7 \u05d0\u05b8 \u05d0\u05bc \u05d1\u05bc \u05d2\u05bc \u05d3\u05bc"),
  (0xFB34, "\u05d4\u05bc \u05d5\u05bc \u05d6\u05bc"),
  (0xFB38, "\u05d8\u05bc \u05d9\u05bc \u05da\u05bc \u05db\u05bc \u05dc\u05bc"),
  (0xFB3E, "\u05de\u05bc"), (0xFB40, "\u05e0\u05bc \u05e1\u05bc"),
  (0xFB43, "\u05e3\u05bc \u05e4\u05bc"),
  (0xFB46, "\u05e6\u05bc \u05e7\u05bc \u05e8\u05bc \u05e9\u05bc \u05ea\u05bc \u05d5\u05b9"),
  (0xFB4C, "\u05d1\u05bf \u05db\u05bf \u05e4\u05bf \u05d0\u05dc \u0671 \u0671 \u067b \u067b"),
  (0xFB54, "\u067b \u067b \u067e \u067e \u067e \u067e \u0680 \u0680 \u0680 \u0680 \u067a \u067a"),
  (0xFB60, "\u067a \u067a \u067f \u067f \u067f \u067f \u0679 \u0679 \u0679 \u0679 \u06a4 \u06a4"),
  (0xFB6C, "\u06a4 \u06a4 \u06a6 \u06a6 \u06a6 \u06a6 \u0684 \u0684 \u0684 \u0684 \u0683 \u0683"),
  (0xFB78, "\u0683 \u0683 \u0686 \u0686 \u0686 \u0686 \u0687 \u0687 \u0687 \u0687 \u068d \u068d"),
  (0xFB84, "\u068c \u068c \u068e \u068e \u0688 \u0688 \u0698 \u0698 \u0691 \u0691 \u06a9 \u06a9"),
  (0xFB90, "\u06a9 \u06a9 \u06af \u06af \u06af \u06af \u06b3 \u06b3 \u06b3 \u06b3 \u06b1 \u06b1"),
  (0xFB9C, "\u06b1 \u06b1 \u06ba \u06ba \u06bb \u06bb \u06bb \u06bb \u06c0 \u06c0 \u06c1 \u06c1"),
  (0xFBA8, "\u06c1 \u06c1 \u06be \u06be \u06be \u06be \u06d2 \u06d2 \u06d3 \u06d3"),
  (0xFBD3, "\u06ad \u06ad \u06ad \u06ad \u06c7 \u06c7 \u06c6 \u06c6 \u06c8 \u06c8 \u06c7\u0674"),
  (0xFBDE, "\u06cb \u06cb \u06c5 \u06c5 \u06c9 \u06c9 \u06d0 \u06d0 \u06d0 \u06d0 \u0649 \u0649"),
  (0xFBEA, "\u0626\u0627 \u0626\u0627 \u0626\u06d5 \u0626\u06d5 \u0626\u0648 \u0626\u0648"),
  (0xFBF0, "\u0626\u06c7 \u0626\u06c7 \u0626\u06c6 \u0626\u06c6 \u0626\u06c8 \u0626\u06c8"),
  (0xFBF6, "\u0626\u06d0 \u0626\u06d0 \u0626\u06d0 \u0626\u0649 \u0626\u0649 \u0626\u0649 \u06cc"),
  (0xFBFD, "\u06cc \u06cc \u06cc \u0626\u062c \u0626\u062d \u0626\u0645 \u0626\u0649 \u0626\u064a"),
  (0xFC05, "\u0628\u062c \u0628\u062d \u0628\u062e \u0628\u0645 \u0628\u0649 \u0628\u064a"),
  (0xFC0B, "\u062a\u062c \u062a\u062d \u062a\u062e \u062a\u0645 \u062a\u0649 \u062a\u064a"),
  (0xFC11, "\u062b\u062c \u062b\u0645 \u062b\u0649 \u062b\u064a \u062c\u062d \u062c\u0645"),
  (0xFC17, "\u062d\u062c \u062d\u0645 \u062e\u062c \u062e\u062d \u062e\u0645 \u0633\u062c"),
  (0xFC1D, "\u0633\u062d \u0633\u062e \u0633\u0645 \u0635\u062d \u0635\u0645 \u0636\u062c"),
  (0xFC23, "\u0636\u062d \u0636\u062e \u0636\u0645 \u0637\u062d \u0637\u0645 \u0638\u0645"),
  (0xFC29, "\u0639\u062c \u0639\u0645 \u063a\u062c \u063a\u0645 \u0641\u062c \u0641\u062d"),
  (0xFC2F, "\u0641\u062e \u0641\u0645 \u0641\u0649 \u0641\u064a \u0642\u062d \u0642\u0645"),
  (0xFC35, "\u0642\u0649 \u0642\u064a \u0643\u0627 \u0643\u062c \u0643\u062d \u0643\u062e"),
  (0xFC3B, "\u0643\u0644 \u0643\u0645 \u0643\u0649 \u0643\u064a \u0644\u062c \u0644\u062d"),
  (0xFC41, "\u0644\u062e \u0644\u0645 \u0644\u0649 \u0644\u064a \u0645\u062c \u0645\u062d"),
  (0xFC47, "\u0645\u062e \u0645\u0645 \u0645\u0649 \u0645\u064a \u0646\u062c \u0646\u062d"),
  (0xFC4D, "\u0646\u062e \u0646\u0645 \u0646\u0649 \u0646\u064a \u0647\u062c \u0647\u0645"),
  (0xFC53, "\u0647\u0649 \u0647\u064a \u064a\u062c \u064a\u062d \u064a\u062e \u064a\u0645"),
  (0xFC59, "\u064a\u0649 \u064a\u064a \u0630\u0670 \u0631\u0670 \u0649\u0670"),
  (0xFC64, "\u0626\u0631 \u0626\u0632 \u0626\u0645 \u0626\u0646 \u0626\u0649 \u0626\u064a"),
  (0xFC6A, "\u0628\u0631 \u0628\u0632 \u0628\u0645 \u0628\u0646 \u0628\u0649 \u0628\u064a"),
  (0xFC70, "\u062a\u0631 \u062a\u0632 \u062a\u0645 \u062a\u0646 \u062a\u0649 \u062a\u064a"),
  (0xFC76, "\u062b\u0631 \u062b\u0632 \u062b\u0645 \u062b\u0646 \u062b\u0649 \u062b\u064a"),
  (0xFC7C, "\u0641\u0649 \u0641\u064a \u0642\u0649 \u0642\u064a \u0643\u0627 \u0643\u0644"),
  (0xFC82, "\u0643\u0645 \u0643\u0649 \u0643\u064a \u0644\u0645 \u0644\u0649 \u0644\u064a"),
  (0xFC88, "\u0645\u0627 \u0645\u0645 \u0646\u0631 \u0646\u0632 \u0646\u0645 \u0646\u0646"),
  (0xFC8E, "\u0646\u0649 \u0646\u064a \u0649\u0670 \u064a\u0631 \u064a\u0632 \u064a\u0645"),
  (0xFC94, "\u064a\u0646 \u064a\u0649 \u064a\u064a \u0626\u062c \u0626\u062d \u0626\u062e"),
  (0xFC9A, "\u0626\u0645 \u0626\u0647 \u0628\u062c \u0628\u062d \u0628\u062e \u0628\u0645"),
  (0xFCA0, "\u0628\u0647 \u062a\u062c \u062a\u062d \u062a\u062e \u062a\u0645 \u062a\u0647"),
  (0xFCA6, "\u062b\u0645 \u062c\u062d \u062c\u0645 \u062d\u062c \u062d\u0645 \u062e\u062c"),
  (0xFCAC, "\u062e\u0645 \u0633\u062c \u0633\u062d \u0633\u062e \u0633\u0645 \u0635\u062d"),
  (0xFCB2, "\u0635\u062e \u0635\u0645 \u0636\u062c \u0636\u062d \u0636\u062e \u0636\u0645"),
  (0xFCB8, "\u0637\u062d \u0638\u0645 \u0639\u062c \u0639\u0645 \u063a\u062c \u063a\u0645"),
  (0xFCBE, "\u0641\u062c \u0641\u062d \u0641\u062e \u0641\u0645 \u0642\u062d \u0642\u0645"),
  (0xFCC4, "\u0643\u062c \u0643\u062d \u0643\u062e \u0643\u0644 \u0643\u0645 \u0644\u062c"),
  (0xFCCA, "\u0644\u062d \u0644\u062e \u0644\u0645 \u0644\u0647 \u0645\u062c \u0645\u062d"),
  (0xFCD0, "\u0645\u062e \u0645\u0645 \u0646\u062c \u0646\u062d \u0646\u062e \u0646\u0645"),
  (0xFCD6, "\u0646\u0647 \u0647\u062c \u0647\u0645 \u0647\u0670 \u064a\u062c \u064a\u062d"),
  (0xFCDC, "\u064a\u062e \u064a\u0645 \u064a\u0647 \u0626\u0645 \u0626\u0647 \u0628\u0645"),
  (0xFCE2, "\u0628\u0647 \u062a\u0645 \u062a\u0647 \u062b\u0645 \u062b\u0647 \u0633\u0645"),
  (0xFCE8, "\u0633\u0647 \u0634\u0645 \u0634\u0647 \u0643\u0644 \u0643\u0645 \u0644\u0645"),
  (0xFCEE, "\u0646\u0645 \u0646\u0647 \u064a\u0645 \u064a\u0647 \u0640\u064e\u0651"),
  (0xFCF3, "\u0640\u064f\u0651 \u0640\u0650\u0651 \u0637\u0649 \u0637\u064a \u0639\u0649"),
  (0xFCF8, "\u0639\u064a \u063a\u0649 \u063a\u064a \u0633\u0649 \u0633\u064a \u0634\u0649"),
  (0xFCFE, "\u0634\u064a \u062d\u0649 \u062d\u064a \u062c\u0649 \u062c\u064a \u062e\u0649"),
  (0xFD04, "\u062e\u064a \u0635\u0649 \u0635\u064a \u0636\u0649 \u0636\u064a \u0634\u062c"),
  (0xFD0A, "\u0634\u062d \u0634\u062e \u0634\u0645 \u0634\u0631 \u0633\u0631 \u0635\u0631"),
  (0xFD10, "\u0636\u0631 \u0637\u0649 \u0637\u064a \u0639\u0649 \u0639\u064a \u063a\u0649"),
  (0xFD16, "\u063a\u064a \u0633\u0649 \u0633\u064a \u0634\u0649 \u0634\u064a \u062d\u0649"),
  (0xFD1C, "\u062d\u064a \u062c\u0649 \u062c\u064a \u062e\u0649 \u062e\u064a \u0635\u0649"),
  (0xFD22, "\u0635\u064a \u0636\u0649 \u0636\u064a \u0634\u062c \u0634\u062d \u0634\u062e"),
  (0xFD28, "\u0634\u0645 \u0634\u0631 \u0633\u0631 \u0635\u0631 \u0636\u0631 \u0634\u062c"),
  (0xFD2E, "\u0634\u062d \u0634\u062e \u0634\u0645 \u0633\u0647 \u0634\u0647 \u0637\u0645"),
  (0xFD34, "\u0633\u062c \u0633\u062d \u0633\u062e \u0634\u062c \u0634\u062d \u0634\u062e"),
  (0xFD3A, "\u0637\u0645 \u0638\u0645 \u0627\u064b \u0627\u064b"),
  (0xFD50, "\u062a\u062c\u0645 \u062a\u062d\u062c \u062a\u062d\u062c \u062a\u062d\u0645"),
  (0xFD54, "\u062a\u062e\u0645 \u062a\u0645\u062c \u062a\u0645\u062d \u062a\u0645\u062e"),
  (0xFD58, "\u062c\u0645\u062d \u062c\u0645\u062d \u062d\u0645\u064a \u062d\u0645\u0649"),
  (0xFD5C, "\u0633\u062d\u062c \u0633\u062c\u062d \u0633\u062c\u0649 \u0633\u0645\u062d"),
  (0xFD60, "\u0633\u0645\u062d \u0633\u0645\u062c \u0633\u0645\u0645 \u0633\u0645\u0645"),
  (0xFD64, "\u0635\u062d\u062d \u0635\u062d\u062d \u0635\u0645\u0645 \u0634\u062d\u0645"),
  (0xFD68, "\u0634\u062d\u0645 \u0634\u062c\u064a \u0634\u0645\u062e \u0634\u0645\u062e"),
  (0xFD6C, "\u0634\u0645\u0645 \u0634\u0645\u0645 \u0636\u062d\u0649 \u0636\u062e\u0645"),
  (0xFD70, "\u0636\u062e\u0645 \u0637\u0645\u062d \u0637\u0645\u062d \u0637\u0645\u0645"),
  (0xFD74, "\u0637\u0645\u064a \u0639\u062c\u0645 \u0639\u0645\u0645 \u0639\u0645\u0645"),
  (0xFD78, "\u0639\u0645\u0649 \u063a\u0645\u0645 \u063a\u0645\u064a \u063a\u0645\u0649"),
  (0xFD7C, "\u0641\u062e\u0645 \u0641\u062e\u0645 \u0642\u0645\u062d \u0642\u0645\u0645"),
  (0xFD80, "\u0644\u062d\u0645 \u0644\u062d\u064a \u0644\u062d\u0649 \u0644\u062c\u062c"),
  (0xFD84, "\u0644\u062c\u062c \u0644\u062e\u0645 \u0644\u062e\u0645 \u0644\u0645\u062d"),
  (0xFD88, "\u0644\u0645\u062d \u0645\u062d\u062c \u0645\u062d\u0645 \u0645\u062d\u064a"),
  (0xFD8C, "\u0645\u062c\u062d \u0645\u062c\u0645 \u0645\u062e\u062c \u0645\u062e\u0645"),
  (0xFD92, "\u0645\u062c\u062e \u0647\u0645\u062c \u0647\u0645\u0645 \u0646\u062d\u0645"),
  (0xFD96, "\u0646\u062d\u0649 \u0646\u062c\u0645 \u0646\u062c\u0645 \u0646\u062c\u0649"),
  (0xFD9A, "\u0646\u0645\u064a \u0646\u0645\u0649 \u064a\u0645\u0645 \u064a\u0645\u0645"),
  (0xFD9E, "\u0628\u062e\u064a \u062a\u062c\u064a \u062a\u062c\u0649 \u062a\u062e\u064a"),
  (0xFDA2, "\u062a\u062e\u0649 \u062a\u0645\u064a \u062a\u0645\u0649 \u062c\u0645\u064a"),
  (0xFDA6, "\u062c\u062d\u0649 \u062c\u0645\u0649 \u0633\u062e\u0649 \u0635\u062d\u064a"),
  (0xFDAA, "\u0634\u062d\u064a \u0636\u062d\u064a \u0644\u062c\u064a \u0644\u0645\u064a"),
  (0xFDAE, "\u064a\u062d\u064a \u064a\u062c\u064a \u064a\u0645\u064a \u0645\u0645\u064a"),
  (0xFDB2, "\u0642\u0645\u064a \u0646\u062d\u064a \u0642\u0645\u062d \u0644\u062d\u0645"),
  (0xFDB6, "\u0639\u0645\u064a \u0643\u0645\u064a \u0646\u062c\u062d \u0645\u062e\u064a"),
  (0xFDBA, "\u0644\u062c\u0645 \u0643\u0645\u0645 \u0644\u062c\u0645 \u0646\u062c\u062d"),
  (0xFDBE, "\u062c\u062d\u064a \u062d\u062c\u064a \u0645\u062c\u064a \u0641\u0645\u064a"),
  (0xFDC2, "\u0628\u062d\u064a \u0643\u0645\u0645 \u0639\u062c\u0645 \u0635\u0645\u0645"),
  (0xFDC6, "\u0633\u062e\u064a \u0646\u062c\u064a"),
  (0xFDF0, "\u0635\u0644\u06d2 \u0642\u0644\u06d2 \u0627\u0644\u0644\u0647"),
  (0xFDF3, "\u0627\u0643\u0628\u0631 \u0645\u062d\u0645\u062f \u0635\u0644\u0639\u0645"),
  (0xFDF6, "\u0631\u0633\u0648\u0644 \u0639\u0644\u064a\u0647 \u0648\u0633\u0644\u0645"),
  (0xFDF9, "\u0635\u0644\u0649"), (0xFDFC, "\u0631\u06cc\u0627\u0644"), (0xFE10, ", 、"),
  (0xFE13, ": ; ! ? 〖 〗"), (0xFE31, "— – _ _ ( ) \x7b \x7d 〔 〕 【 】 《 》 〈 〉 「 」 『 』 ﹅ ﹆ [ ]"),
  (0xFE4D, "_ _ _ , 、"), (0xFE54, "; : ? ! — ( ) \x7b \x7d 〔 〕 # & * + - < > ="),
  (0xFE68, "\\ $ % @"), (0xFE71, "\u0640\u064b"), (0xFE77, "\u0640\u064e"),
  (0xFE79, "\u0640\u064f"), (0xFE7B, "\u0640\u0650"), (0xFE7D, "\u0640\u0651"),
  (0xFE7F, "\u0640\u0652 \u0621 \u0622 \u0622 \u0623 \u0623 \u0624 \u0624 \u0625 \u0625 \u0626"),
  (0xFE8A, "\u0626 \u0626 \u0626 \u0627 \u0627 \u0628 \u0628 \u0628 \u0628 \u0629 \u0629 \u062a"),
  (0xFE96, "\u062a \u062a \u062a \u062b \u062b \u062b \u062b \u062c \u062c \u062c \u062c \u062d"),
  (0xFEA2, "\u062d \u062d \u062d \u062e \u062e \u062e \u062e \u062f \u062f \u0630 \u0630 \u0631"),
  (0xFEAE, "\u0631 \u0632 \u0632 \u0633 \u0633 \u0633 \u0633 \u0634 \u0634 \u0634 \u0634 \u0635"),
  (0xFEBA, "\u0635 \u0635 \u0635 \u0636 \u0636 \u0636 \u0636 \u0637 \u0637 \u0637 \u0637 \u0638"),
  (0xFEC6, "\u0638 \u0638 \u0638 \u0639 \u0639 \u0639 \u0639 \u063a \u063a \u063a \u063a \u0641"),
  (0xFED2, "\u0641 \u0641 \u0641 \u0642 \u0642 \u0642 \u0642 \u0643 \u0643 \u0643 \u0643 \u0644"),
  (0xFEDE, "\u0644 \u0644 \u0644 \u0645 \u0645 \u0645 \u0645 \u0646 \u0646 \u0646 \u0646 \u0647"),
  (0xFEEA, "\u0647 \u0647 \u0647 \u0648 \u0648 \u0649 \u0649 \u064a \u064a \u064a \u064a"),
  (0xFEF5, "\u0644\u0622 \u0644\u0622 \u0644\u0623 \u0644\u0623 \u0644\u0625 \u0644\u0625"),
  (0xFEFB, "\u0644\u0627 \u0644\u0627"),
  (0xFF01, "! \" # $ % & ' ( ) * + , - . / 0 1 2 3 4 5 6 7 8 9 : ; < = > ? @ a b c d e f g h i j"),
  (0xFF2B, "k l m n o p q r s t u v w x y z [ \\ ] ^ _ ` a b c d e f g h i j k l m n o p q r s t"),
  (0xFF55, "u v w x y z \x7b | \x7d ~ ⦅ ⦆ . 「 」 、 ・ ヲ ァ ィ ゥ ェ ォ ャ ュ ョ ッ ー ア イ ウ エ オ カ キ ク ケ コ サ シ"),
  (0xFF7D, "ス セ ソ タ チ ツ テ ト ナ ニ ヌ ネ ノ ハ ヒ フ ヘ ホ マ ミ ム メ モ ヤ ユ ヨ ラ リ ル レ ロ ワ ン \u3099 \u309a"),
  (0xFFA1, "ᄀ ᄁ ᆪ ᄂ ᆬ ᆭ ᄃ ᄄ ᄅ ᆰ ᆱ ᆲ ᆳ ᆴ ᆵ ᄚ ᄆ ᄇ ᄈ ᄡ ᄉ ᄊ ᄋ ᄌ ᄍ ᄎ ᄏ ᄐ ᄑ ᄒ"), (0xFFC2, "ᅡ ᅢ ᅣ ᅤ ᅥ ᅦ"),
  (0xFFCA, "ᅧ ᅨ ᅩ ᅪ ᅫ ᅬ"), (0xFFD2, "ᅭ ᅮ ᅯ ᅰ ᅱ ᅲ"), (0xFFDA, "ᅳ ᅴ ᅵ"), (0xFFE0, "¢ £ ¬"),
  (0xFFE4, "¦ ¥ ₩"), (0xFFE8, "│ ← ↑ → ↓ ■ ○"),
  (0x10400, "𐐨 𐐩 𐐪 𐐫 𐐬 𐐭 𐐮 𐐯 𐐰 𐐱 𐐲 𐐳 𐐴 𐐵 𐐶 𐐷 𐐸 𐐹 𐐺 𐐻 𐐼 𐐽 𐐾 𐐿 𐑀 𐑁 𐑂 𐑃 𐑄 𐑅 𐑆 𐑇 𐑈 𐑉 𐑊 𐑋 𐑌 𐑍 𐑎 𐑏"),
  (0x104B0, "𐓘 𐓙 𐓚 𐓛 𐓜 𐓝 𐓞 𐓟 𐓠 𐓡 𐓢 𐓣 𐓤 𐓥 𐓦 𐓧 𐓨 𐓩 𐓪 𐓫 𐓬 𐓭 𐓮 𐓯 𐓰 𐓱 𐓲 𐓳 𐓴 𐓵 𐓶 𐓷 𐓸 𐓹 𐓺 𐓻"),
  (0x10570, "𐖗 𐖘 𐖙 𐖚 𐖛 𐖜 𐖝 𐖞 𐖟 𐖠 𐖡"), (0x1057C, "𐖣 𐖤 𐖥 𐖦 𐖧 𐖨 𐖩 𐖪 𐖫 𐖬 𐖭 𐖮 𐖯 𐖰 𐖱"),
  (0x1058C, "𐖳 𐖴 𐖵 𐖶 𐖷 𐖸 𐖹"), (0x10594, "𐖻 𐖼"), (0x10781, "ː ˑ æ ʙ ɓ"),
  (0x10787, "ʣ ꭦ ʥ ʤ ɖ ɗ ᶑ ɘ ɞ ʩ ɤ ɢ ɠ ʛ ħ ʜ ɧ ʄ ʪ ʫ ɬ 𝼄 ꞎ ɮ 𝼅 ʎ 𝼆 ø ɶ ɷ q ɺ 𝼈 ɽ ɾ ʀ ʨ ʦ ꭧ ʧ ʈ ⱱ"),
  (0x107B2, "ʏ ʡ ʢ ʘ ǀ ǁ ǂ 𝼊 𝼞"),
  (0x10C80, "𐳀 𐳁 𐳂 𐳃 𐳄 𐳅 𐳆 𐳇 𐳈 𐳉 𐳊 𐳋 𐳌 𐳍 𐳎 𐳏 𐳐 𐳑 𐳒 𐳓 𐳔 𐳕 𐳖 𐳗 𐳘 𐳙 𐳚 𐳛 𐳜 𐳝 𐳞 𐳟 𐳠 𐳡 𐳢 𐳣 𐳤 𐳥 𐳦 𐳧 𐳨 𐳩"),
  (0x10CAA, "𐳪 𐳫 𐳬 𐳭 𐳮 𐳯 𐳰 𐳱 𐳲"), (0x10D50, "𐵰 𐵱 𐵲 𐵳 𐵴 𐵵 𐵶 𐵷 𐵸 𐵹 𐵺 𐵻 𐵼 𐵽 𐵾 𐵿 𐶀 𐶁 𐶂 𐶃 𐶄 𐶅"),
  (0x118A0, "𑣀 𑣁 𑣂 𑣃 𑣄 𑣅 𑣆 𑣇 𑣈 𑣉 𑣊 𑣋 𑣌 𑣍 𑣎 𑣏 𑣐 𑣑 𑣒 𑣓 𑣔 𑣕 𑣖 𑣗 𑣘 𑣙 𑣚 𑣛 𑣜 𑣝 𑣞 𑣟"),
  (0x16E40, "𖹠 𖹡 𖹢 𖹣 𖹤 𖹥 𖹦 𖹧 𖹨 𖹩 𖹪 𖹫 𖹬 𖹭 𖹮 𖹯 𖹰 𖹱 𖹲 𖹳 𖹴 𖹵 𖹶 𖹷 𖹸 𖹹 𖹺 𖹻 𖹼 𖹽 𖹾 𖹿"),
  (0x16EA0, "𖺻 𖺼 𖺽 𖺾 𖺿 𖻀 𖻁 𖻂 𖻃 𖻄 𖻅 𖻆 𖻇 𖻈 𖻉 𖻊 𖻋 𖻌 𖻍 𖻎 𖻏 𖻐 𖻑 𖻒 𖻓"),
  (0x1CCD6, "a b c d e f g h i j k l m n o p q r s t u v w x y z 0 1 2 3 4 5 6 7 8 9"),
  (0x1D15E, "𝅗𝅥 𝅘𝅥 𝅘𝅥𝅮 𝅘𝅥𝅯 𝅘𝅥𝅰 𝅘𝅥𝅱 𝅘𝅥𝅲"), (0x1D1BB, "𝆹𝅥 𝆺𝅥 𝆹𝅥𝅮 𝆺𝅥𝅮 𝆹𝅥𝅯 𝆺𝅥𝅯"),
  (0x1D400, "a b c d e f g h i j k l m n o p q r s t u v w x y z a b c d e f g h i j k l m n o p"),
  (0x1D42A, "q r s t u v w x y z a b c d e f g h i j k l m n o p q r s t u v w x y z a b c d e f"),
  (0x1D454, "g"),
  (0x1D456, "i j k l m n o p q r s t u v w x y z a b c d e f g h i j k l m n o p q r s t u v w x"),
  (0x1D480, "y z a b c d e f g h i j k l m n o p q r s t u v w x y z a"), (0x1D49E, "c d"),
  (0x1D4A2, "g"), (0x1D4A5, "j k"), (0x1D4A9, "n o p q"), (0x1D4AE, "s t u v w x y z a b c d"),
  (0x1D4BB, "f"), (0x1D4BD, "h i j k l m n"),
  (0x1D4C5, "p q r s t u v w x y z a b c d e f g h i j k l m n o p q r s t u v w x y z a b c d e"),
  (0x1D4EF, "f g h i j k l m n o p q r s t u v w x y z a b"), (0x1D507, "d e f g"),
  (0x1D50D, "j k l m n o p q"), (0x1D516, "s t u v w x y"),
  (0x1D51E, "a b c d e f g h i j k l m n o p q r s t u v w x y z a b"), (0x1D53B, "d e f g"),
  (0x1D540, "i j k l m"), (0x1D546, "o"), (0x1D54A, "s t u v w x y"),
  (0x1D552, "a b c d e f g h i j k l m n o p q r s t u v w x y z a b c d e f g h i j k l m n o p"),
  (0x1D57C, "q r s t u v w x y z a b c d e f g h i j k l m n o p q r s t u v w x y z a b c d e f"),
  (0x1D5A6, "g h i j k l m n o p q r s t u v w x y z a b c d e f g h i j k l m n o p q r s t u v"),
  (0x1D5D0, "w x y z a b c d e f g h i j k l m n o p q r s t u v w x y z a b c d e f g h i j k l"),
  (0x1D5FA, "m n o p q r s t u v w x y z a b c d e f g h i j k l m n o p q r s t u v w x y z a b"),
  (0x1D624, "c d e f g h i j k l m n o p q r s t u v w x y z a b c d e f g h i j k l m n o p q r"),
  (0x1D64E, "s t u v w x y z a b c d e f g h i j k l m n o p q r s t u v w x y z a b c d e f g h"),
  (0x1D678, "i j k l m n o p q r s t u v w x y z a b c d e f g h i j k l m n o p q r s t u v w x"),
  (0x1D6A2, "y z ı ȷ"),
  (0x1D6A8, "α β γ δ ε ζ η θ ι κ λ μ ν ξ ο π ρ θ σ τ υ φ χ ψ ω ∇ α β γ δ ε ζ η θ ι κ λ μ ν ξ ο π"),
  (0x1D6D2, "ρ σ σ τ υ φ χ ψ ω ∂ ε θ κ φ ρ π α β γ δ ε ζ η θ ι κ λ μ ν ξ ο π ρ θ σ τ υ φ χ ψ ω ∇"),
  (0x1D6FC, "α β γ δ ε ζ η θ ι κ λ μ ν ξ ο π ρ σ σ τ υ φ χ ψ ω ∂ ε θ κ φ ρ π α β γ δ ε ζ η θ ι κ"),
  (0x1D726, "λ μ ν ξ ο π ρ θ σ τ υ φ χ ψ ω ∇ α β γ δ ε ζ η θ ι κ λ μ ν ξ ο π ρ σ σ τ υ φ χ ψ ω ∂"),
  (0x1D750, "ε θ κ φ ρ π α β γ δ ε ζ η θ ι κ λ μ ν ξ ο π ρ θ σ τ υ φ χ ψ ω ∇ α β γ δ ε ζ η θ ι κ"),
  (0x1D77A, "λ μ ν ξ ο π ρ σ σ τ υ φ χ ψ ω ∂ ε θ κ φ ρ π α β γ δ ε ζ η θ ι κ λ μ ν ξ ο π ρ θ σ τ"),
  (0x1D7A4, "υ φ χ ψ ω ∇ α β γ δ ε ζ η θ ι κ λ μ ν ξ ο π ρ σ σ τ υ φ χ ψ ω ∂ ε θ κ φ ρ π ϝ ϝ"),
  (0x1D7CE, "0 1 2 3 4 5 6 7 8 9 0 1 2 3 4 5 6 7 8 9 0 1 2 3 4 5 6 7 8 9 0 1 2 3 4 5 6 7 8 9 0 1"),
  (0x1D7F8, "2 3 4 5 6 7 8 9"),
  (0x1E030, "а б в г д е ж з и к л м о п р с т у ф х ц ч ш ы э ю ꚉ ә і ј ө ү ӏ а б в г д е ж з и"),
  (0x1E05A, "к л о п с у ф х ц ч ш ъ ы ґ і ѕ џ ҫ ꙑ ұ"),
  (0x1E900, "𞤢 𞤣 𞤤 𞤥 𞤦 𞤧 𞤨 𞤩 𞤪 𞤫 𞤬 𞤭 𞤮 𞤯 𞤰 𞤱 𞤲 𞤳 𞤴 𞤵 𞤶 𞤷 𞤸 𞤹 𞤺 𞤻 𞤼 𞤽 𞤾 𞤿 𞥀 𞥁 𞥂 𞥃"),
  (0x1EE00, "\u0627 \u0628 \u062c \u062f"),
  (0x1EE05, "\u0648 \u0632 \u062d \u0637 \u064a \u0643 \u0644 \u0645 \u0646 \u0633 \u0639 \u0641"),
  (0x1EE11, "\u0635 \u0642 \u0631 \u0634 \u062a \u062b \u062e \u0630 \u0636 \u0638 \u063a \u066e"),
  (0x1EE1D, "\u06ba \u06a1 \u066f"), (0x1EE21, "\u0628 \u062c"), (0x1EE24, "\u0647"),
  (0x1EE27, "\u062d"),
  (0x1EE29, "\u064a \u0643 \u0644 \u0645 \u0646 \u0633 \u0639 \u0641 \u0635 \u0642"),
  (0x1EE34, "\u0634 \u062a \u062b \u062e"), (0x1EE39, "\u0636"), (0x1EE3B, "\u063a"),
  (0x1EE42, "\u062c"), (0x1EE47, "\u062d"), (0x1EE49, "\u064a"), (0x1EE4B, "\u0644"),
  (0x1EE4D, "\u0646 \u0633 \u0639"), (0x1EE51, "\u0635 \u0642"), (0x1EE54, "\u0634"),
  (0x1EE57, "\u062e"), (0x1EE59, "\u0636"), (0x1EE5B, "\u063a"), (0x1EE5D, "\u06ba"),
  (0x1EE5F, "\u066f"), (0x1EE61, "\u0628 \u062c"), (0x1EE64, "\u0647"),
  (0x1EE67, "\u062d \u0637 \u064a \u0643"),
  (0x1EE6C, "\u0645 \u0646 \u0633 \u0639 \u0641 \u0635 \u0642"),
  (0x1EE74, "\u0634 \u062a \u062b \u062e"), (0x1EE79, "\u0636 \u0638 \u063a \u066e"),
  (0x1EE7E, "\u06a1"),
  (0x1EE80, "\u0627 \u0628 \u062c \u062f \u0647 \u0648 \u0632 \u062d \u0637 \u064a"),
  (0x1EE8B, "\u0644 \u0645 \u0646 \u0633 \u0639 \u0641 \u0635 \u0642 \u0631 \u0634 \u062a \u062b"),
  (0x1EE97, "\u062e \u0630 \u0636 \u0638 \u063a"), (0x1EEA1, "\u0628 \u062c \u062f"),
  (0x1EEA5, "\u0648 \u0632 \u062d \u0637 \u064a"),
  (0x1EEAB, "\u0644 \u0645 \u0646 \u0633 \u0639 \u0641 \u0635 \u0642 \u0631 \u0634 \u062a \u062b"),
  (0x1EEB7, "\u062e \u0630 \u0636 \u0638 \u063a"), (0x1F101, "0, 1, 2, 3, 4, 5, 6, 7, 8, 9,"),
  (0x1F110, "(a) (b) (c) (d) (e) (f) (g) (h) (i) (j) (k) (l) (m) (n) (o) (p) (q) (r) (s) (t) (u)"),
  (0x1F125, "(v) (w) (x) (y) (z) 〔s〕 c r cd wz 🄯 a b c d e f g h i j k l m n o p q r s t u v w x"),
  (0x1F148, "y z hv mv sd ss ppv wc"), (0x1F16A, "mc md mr"), (0x1F190, "dj"), (0x1F200, "ほか ココ サ"),
  (0x1F210, "手 字 双 デ 二 多 解 天 交 映 無 料 前 後 再 新 初 終 生 販 声 吹 演 投 捕 一 三 遊 左 中 右 指 走 打 禁 空 合 満 有 月 申 割"),
  (0x1F23A, "営 配"), (0x1F240, "〔本〕 〔三〕 〔二〕 〔安〕 〔点〕 〔打〕 〔盗〕 〔勝〕 〔敗〕"), (0x1F250, "得 可"),
  (0x1FBF0, "0 1 2 3 4 5 6 7 8 9"),
  (0x2F800, "丽 丸 乁 𠄢 你 侮 侻 倂 偺 備 僧 像 㒞 𠘺 免 兔 兤 具 𠔜 㒹 內 再 𠕋 冗 冤 仌 冬 况 𩇟 凵 刃 㓟 刻 剆 割 剷 㔕 勇 勉 勤 勺 包"),
  (0x2F82A, "匆 北 卉 卑 博 即 卽 卿 卿 卿 𠨬 灰 及 叟 𠭣 叫 叱 吆 咞 吸 呈 周 咢 哶 唐 啓 啣 善 善 喙 喫 喳 嗂 圖 嘆 圗 噑 噴 切 壮 城 埴"),
  (0x2F854, "堍 型 堲 報 墬 𡓤 売 壷 夆 多 夢 奢 𡚨 𡛪 姬 娛 娧 姘 婦 㛮 㛼 嬈 嬾 嬾 𡧈 寃 寘 寧 寳 𡬘 寿 将 当 尢 㞁 屠 屮 峀 岍 𡷤 嵃 𡷦"),
  (0x2F87E, "嵮 嵫 嵼 巡 巢 㠯 巽 帨 帽 幩 㡢 𢆃 㡼 庰 庳 庶 廊 𪎒 廾 𢌱 𢌱 舁 弢 弢 㣇 𣊸 𦇚 形 彫 㣣 徚 忍 志 忹 悁 㤺 㤜 悔 𢛔 惇 慈 慌"),
  (0x2F8A8, "慎 慌 慺 憎 憲 憤 憯 懞 懲 懶 成 戛 扝 抱 拔 捐 𢬌 挽 拼 捨 掃 揤 𢯱 搢 揅 掩 㨮 摩 摾 撝 摷 㩬 敏 敬 𣀊 旣 書 晉 㬙 暑 㬈 㫤"),
  (0x2F8D2, "冒 冕 最 暜 肭 䏙 朗 望 朡 杞 杓 𣏃 㭉 柺 枅 桒 梅 𣑭 梎 栟 椔 㮝 楂 榣 槪 檨 𣚣 櫛 㰘 次 𣢧 歔 㱎 歲 殟 殺 殻 𣪍 𡴋 𣫺 汎 𣲼"),
  (0x2F8FC, "沿 泍 汧 洖 派 海 流 浩 浸 涅 𣴞 洴 港 湮 㴳 滋 滇 𣻑 淹 潮 𣽞 𣾎 濆 瀹 瀞 瀛 㶖 灊 災 灷 炭 𠔥 煅 𤉣 熜 𤎫 爨 爵 牐 𤘈 犀 犕"),
  (0x2F926, "𤜵 𤠔 獺 王 㺬 玥 㺸 㺸 瑇 瑜 瑱 璅 瓊 㼛 甤 𤰶 甾 𤲒 異 𢆟 瘐 𤾡 𤾸 𥁄 㿼 䀈 直 𥃳 𥃲 𥄙 𥄳 眞 真 真 睊 䀹 瞋 䁆 䂖 𥐝 硎 碌"),
  (0x2F950, "磌 䃣 𥘦 祖 𥚚 𥛅 福 秫 䄯 穀 穊 穏 𥥼 𥪧 𥪧 竮 䈂 𥮫 篆 築 䈧 𥲀 糒 䊠 糨 糣 紀 𥾆 絣 䌁 緇 縂 繅 䌴 𦈨 𦉇 䍙 𦋙 罺 𦌾 羕 翺"),
  (0x2F97A, "者 𦓚 𦔣 聠 𦖨 聰 𣍟 䏕 育 脃 䐋 脾 媵 𦞧 𦞵 𣎓 𣎜 舁 舄 辞 䑫 芑 芋 芝 劳 花 芳 芽 苦 𦬼 若 茝 荣 莭 茣 莽 菧 著 荓 菊 菌 菜"),
  (0x2F9A4, "𦰶 𦵫 𦳕 䔫 蓱 蓳 蔖 𧏊 蕤 𦼬 䕝 䕡 𦾱 𧃒 䕫 虐 虜 虧 虩 蚩 蚈 蜎 蛢 蝹 蜨 蝫 螆 䗗 蟡 蠁 䗹 衠 衣 𧙧 裗 裞 䘵 裺 㒻 𧢮 𧥦 䚾"),
  (0x2F9CE, "䛇 誠 諭 變 豕 𧲨 貫 賁 贛 起 𧼯 𠠄 跋 趼 跰 𠣞 軔 輸 𨗒 𨗭 邔 郱 鄑 𨜮 鄛 鈸 鋗 鋘 鉼 鏹 鐕 𨯺 開 䦕 閷 𨵷 䧦 雃 嶲 霣 𩅅 𩈚"),
  (0x2F9F8, "䩮 䩶 韠 𩐊 䪲 𩒖 頋 頋 頩 𩖶 飢 䬳 餩 馧 駂 駾 䯎 𩬰 鬒 鱀 鳽 䳎 䳭 鵧 𪃎 䳸 𪄅 𪈎 𪊑 麻 䵖 黹 黾 鼅 鼏 鼖 鼻 𪘀")]

/-- Characters that count for nothing. -/
def silentRuns : Text.Runs := [
  (0xAD, 0xAD), (0x34F, 0x34F), (0x115F, 0x1160), (0x17B4, 0x17B5), (0x180B, 0x180F),
  (0x200B, 0x200B), (0x2060, 0x2064), (0x206A, 0x206F), (0x3164, 0x3164), (0xFE00, 0xFE0F),
  (0xFEFF, 0xFEFF), (0xFFA0, 0xFFA0), (0x1BCA0, 0x1BCA3), (0x1D173, 0x1D17A), (0xE0100, 0xE01EF)]

/-- Characters that are shown and may still not stand in a name. -/
def barredRuns : Text.Runs := [
  (0xA8, 0xA8), (0xAF, 0xAF), (0xB4, 0xB4), (0xB8, 0xB8), (0x2D8, 0x2DD), (0x37A, 0x37A),
  (0x384, 0x385), (0x1FBD, 0x1FBD), (0x1FBF, 0x1FC1), (0x1FCD, 0x1FCF), (0x1FDD, 0x1FDF),
  (0x1FED, 0x1FEE), (0x1FFD, 0x1FFE), (0x2017, 0x2017), (0x2024, 0x2026), (0x203E, 0x203E),
  (0x2488, 0x249B), (0x2FF0, 0x2FFF), (0x309B, 0x309C), (0x31EF, 0x31EF), (0x33C2, 0x33C2),
  (0x33C7, 0x33C7), (0x33D8, 0x33D8), (0xFC5E, 0xFC63), (0xFDFA, 0xFDFB), (0xFE12, 0xFE12),
  (0xFE19, 0xFE19), (0xFE30, 0xFE30), (0xFE49, 0xFE4C), (0xFE52, 0xFE52), (0xFE70, 0xFE70),
  (0xFE72, 0xFE72), (0xFE74, 0xFE74), (0xFE76, 0xFE76), (0xFE78, 0xFE78), (0xFE7A, 0xFE7A),
  (0xFE7C, 0xFE7C), (0xFE7E, 0xFE7E), (0xFFE3, 0xFFE3), (0xFFFC, 0xFFFD), (0x1F100, 0x1F100)]

/-- What a character stands for, if that is in a row. -/
def formInRow? (c : Char) : Option (List Char) := do
  let (first, forms) ← (formRows.takeWhile fun row => row.1 ≤ c.toNat).getLast?
  (Text.parts (· == ' ') forms.toList)[c.toNat - first]?

/-- Whether a character may stand in a name as it is. A character that is not shown may not, apart
from marks and from those that say whether letters are joined. -/
def standsForItself (c : Char) : Bool :=
  !Text.isAmong barredRuns c &&
    (!Text.isHidden c || Text.isMark c || c == Char.ofNat 0x200C || c == Char.ofNat 0x200D)

/-- What a character stands for in a name; nothing if it may not stand there. -/
def form? (c : Char) : Option (List Char) :=
  if c.toNat < 0x80 then some [c.toLower]
  else
    match formInRow? c with
    | some form => some form
    | none =>
      if Text.isAmong silentRuns c then some []
      else if standsForItself c then some [c]
      else none

end ScoreDeploy.Url
