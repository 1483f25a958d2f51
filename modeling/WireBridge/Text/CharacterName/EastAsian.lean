/-!
# Names of characters: east Asian scripts

Data of Unicode 14, in the rows that `Text.CharacterName` explains.
-/

set_option autoImplicit false

namespace WireBridge.Text

/-- Kana, syllables and forms for compatibility. -/
def eastAsianNames : List String :=
  [
    "3000 IDEOGRAPHIC: SPACE, COMMA, FULL STOP; 3003: DITTO MARK, JAPANESE INDUSTRIAL STANDARD SYMBOL",
    "3005 IDEOGRAPHIC: ITERATION MARK, CLOSING MARK, NUMBER ZERO",
    "3008: LEFT ANGLE BRACKET, RIGHT ANGLE BRACKET, LEFT DOUBLE ANGLE BRACKET, RIGHT DOUBLE ANGLE BRACKET",
    "300C: LEFT CORNER BRACKET, RIGHT CORNER BRACKET, LEFT WHITE CORNER BRACKET, RIGHT WHITE CORNER BRACKET",
    "3010: LEFT BLACK LENTICULAR BRACKET, RIGHT BLACK LENTICULAR BRACKET, POSTAL MARK, GETA MARK",
    "3014: LEFT TORTOISE SHELL BRACKET, RIGHT TORTOISE SHELL BRACKET, LEFT WHITE LENTICULAR BRACKET",
    "3017: RIGHT WHITE LENTICULAR BRACKET, LEFT WHITE TORTOISE SHELL BRACKET",
    "3019: RIGHT WHITE TORTOISE SHELL BRACKET, LEFT WHITE SQUARE BRACKET, RIGHT WHITE SQUARE BRACKET",
    "301C: WAVE DASH, REVERSED DOUBLE PRIME QUOTATION MARK, DOUBLE PRIME QUOTATION MARK",
    "301F: LOW DOUBLE PRIME QUOTATION MARK, POSTAL MARK FACE",
    "3021 HANGZHOU NUMERAL: ONE, TWO, THREE, FOUR, FIVE, SIX, SEVEN, EIGHT, NINE",
    "302A IDEOGRAPHIC: LEVEL TONE MARK, RISING TONE MARK, DEPARTING TONE MARK, ENTERING TONE MARK",
    "302E HANGUL: SINGLE DOT TONE MARK, DOUBLE DOT TONE MARK; 3030 WAVY: DASH",
    "3031 VERTICAL KANA REPEAT: MARK, WITH VOICED SOUND MARK, MARK UPPER HALF",
    "3034 VERTICAL KANA REPEAT: WITH VOICED SOUND MARK UPPER HALF, MARK LOWER HALF",
    "3036: CIRCLED POSTAL MARK, IDEOGRAPHIC TELEGRAPH LINE FEED SEPARATOR SYMBOL",
    "3038 HANGZHOU NUMERAL: TEN, TWENTY, THIRTY",
    "303B: VERTICAL IDEOGRAPHIC ITERATION MARK, MASU MARK, PART ALTERNATION MARK",
    "303E IDEOGRAPHIC: VARIATION INDICATOR, HALF FILL SPACE",
    "3041 HIRAGANA LETTER: SMALL A, A, SMALL I, I, SMALL U, U, SMALL E, E, SMALL O, O, KA, GA, KI, GI, KU, GU",
    "3051 HIRAGANA LETTER: KE, GE, KO, GO, SA, ZA, SI, ZI, SU, ZU, SE, ZE, SO, ZO, TA, DA, TI, DI, SMALL TU",
    "3064 HIRAGANA LETTER: TU, DU, TE, DE, TO, DO, NA, NI, NU, NE, NO, HA, BA, PA, HI, BI, PI, HU, BU, PU, HE",
    "3079 HIRAGANA LETTER: BE, PE, HO, BO, PO, MA, MI, MU, ME, MO, SMALL YA, YA, SMALL YU, YU, SMALL YO, YO",
    "3089 HIRAGANA LETTER: RA, RI, RU, RE, RO, SMALL WA, WA, WI, WE, WO, N, VU, SMALL KA, SMALL KE",
    "3099 COMBINING KATAKANA-HIRAGANA: VOICED SOUND MARK, SEMI-VOICED SOUND MARK",
    "309B KATAKANA-HIRAGANA: VOICED SOUND MARK, SEMI-VOICED SOUND MARK",
    "309D HIRAGANA: ITERATION MARK, VOICED ITERATION MARK, DIGRAPH YORI",
    "30A0 KATAKANA-HIRAGANA DOUBLE: HYPHEN",
    "30A1 KATAKANA LETTER: SMALL A, A, SMALL I, I, SMALL U, U, SMALL E, E, SMALL O, O, KA, GA, KI, GI, KU, GU",
    "30B1 KATAKANA LETTER: KE, GE, KO, GO, SA, ZA, SI, ZI, SU, ZU, SE, ZE, SO, ZO, TA, DA, TI, DI, SMALL TU",
    "30C4 KATAKANA LETTER: TU, DU, TE, DE, TO, DO, NA, NI, NU, NE, NO, HA, BA, PA, HI, BI, PI, HU, BU, PU, HE",
    "30D9 KATAKANA LETTER: BE, PE, HO, BO, PO, MA, MI, MU, ME, MO, SMALL YA, YA, SMALL YU, YU, SMALL YO, YO",
    "30E9 KATAKANA LETTER: RA, RI, RU, RE, RO, SMALL WA, WA, WI, WE, WO, N, VU, SMALL KA, SMALL KE, VA, VI",
    "30F9 KATAKANA LETTER: VE, VO; 30FB: KATAKANA MIDDLE DOT, KATAKANA-HIRAGANA PROLONGED SOUND MARK",
    "30FD KATAKANA: ITERATION MARK, VOICED ITERATION MARK, DIGRAPH KOTO",
    "3105 BOPOMOFO LETTER: B, P, M, F, D, T, N, L, G, K, H, J, Q, X, ZH, CH, SH, R, Z, C, S, A, O, E, EH, AI",
    "311F BOPOMOFO LETTER: EI, AU, OU, AN, EN, ANG, ENG, ER, I, U, IU, V, NG, GN, IH, O WITH DOT ABOVE, NN",
    "3131 HANGUL LETTER: KIYEOK, SSANGKIYEOK, KIYEOK-SIOS, NIEUN, NIEUN-CIEUC, NIEUN-HIEUH, TIKEUT",
    "3138 HANGUL LETTER: SSANGTIKEUT, RIEUL, RIEUL-KIYEOK, RIEUL-MIEUM, RIEUL-PIEUP, RIEUL-SIOS",
    "313E HANGUL LETTER: RIEUL-THIEUTH, RIEUL-PHIEUPH, RIEUL-HIEUH, MIEUM, PIEUP, SSANGPIEUP, PIEUP-SIOS",
    "3145 HANGUL LETTER: SIOS, SSANGSIOS, IEUNG, CIEUC, SSANGCIEUC, CHIEUCH, KHIEUKH, THIEUTH, PHIEUPH, HIEUH",
    "314F HANGUL LETTER: A, AE, YA, YAE, EO, E, YEO, YE, O, WA, WAE, OE, YO, U, WEO, WE, WI, YU, EU, YI, I",
    "3164 HANGUL: FILLER",
    "3165 HANGUL LETTER: SSANGNIEUN, NIEUN-TIKEUT, NIEUN-SIOS, NIEUN-PANSIOS, RIEUL-KIYEOK-SIOS, RIEUL-TIKEUT",
    "316B HANGUL LETTER: RIEUL-PIEUP-SIOS, RIEUL-PANSIOS, RIEUL-YEORINHIEUH, MIEUM-PIEUP, MIEUM-SIOS",
    "3170 HANGUL LETTER: MIEUM-PANSIOS, KAPYEOUNMIEUM, PIEUP-KIYEOK, PIEUP-TIKEUT, PIEUP-SIOS-KIYEOK",
    "3175 HANGUL LETTER: PIEUP-SIOS-TIKEUT, PIEUP-CIEUC, PIEUP-THIEUTH, KAPYEOUNPIEUP, KAPYEOUNSSANGPIEUP",
    "317A HANGUL LETTER: SIOS-KIYEOK, SIOS-NIEUN, SIOS-TIKEUT, SIOS-PIEUP, SIOS-CIEUC, PANSIOS, SSANGIEUNG",
    "3181 HANGUL LETTER: YESIEUNG, YESIEUNG-SIOS, YESIEUNG-PANSIOS, KAPYEOUNPHIEUPH, SSANGHIEUH, YEORINHIEUH",
    "3187 HANGUL LETTER: YO-YA, YO-YAE, YO-I, YU-YEO, YU-YE, YU-I, ARAEA, ARAEAE",
    "3190 IDEOGRAPHIC ANNOTATION: LINKING MARK, REVERSE MARK, ONE MARK, TWO MARK, THREE MARK, FOUR MARK",
    "3196 IDEOGRAPHIC ANNOTATION: TOP MARK, MIDDLE MARK, BOTTOM MARK, FIRST MARK, SECOND MARK, THIRD MARK",
    "319C IDEOGRAPHIC ANNOTATION: FOURTH MARK, HEAVEN MARK, EARTH MARK, MAN MARK",
    "31A0 BOPOMOFO LETTER: BU, ZI, JI, GU, EE, ENN, OO, ONN, IR, ANN, INN, UNN, IM, NGG, AINN, AUNN, AM, OM",
    "31B2 BOPOMOFO LETTER: ONG, INNN; 31B4 BOPOMOFO FINAL LETTER: P, T, K, H",
    "31B8 BOPOMOFO: LETTER GH, LETTER LH, LETTER ZY, FINAL LETTER G; 31BC BOPOMOFO LETTER: GW, KW, OE, AH",
    "31C0 CJK STROKE: T, WG, XG, BXG, SW, HZZ, HZG, HP, HZWG, SZWG, HZT, HZZP, HPWG, HZW, HZZZ, N, H, S, P",
    "31D3 CJK STROKE: SP, D, HZ, HG, SZ, SWZ, ST, SG, PD, PZ, TN, SZZ, SWG, HXWG, HZZZG, PG, Q",
    "31F0 KATAKANA LETTER SMALL: KU, SI, SU, TO, NU, HA, HI, HU, HE, HO, MU, RA, RI, RU, RE, RO",
    "3200 PARENTHESIZED HANGUL: KIYEOK, NIEUN, TIKEUT, RIEUL, MIEUM, PIEUP, SIOS, IEUNG, CIEUC, CHIEUCH",
    "320A PARENTHESIZED HANGUL: KHIEUKH, THIEUTH, PHIEUPH, HIEUH, KIYEOK A, NIEUN A, TIKEUT A, RIEUL A",
    "3212 PARENTHESIZED HANGUL: MIEUM A, PIEUP A, SIOS A, IEUNG A, CIEUC A, CHIEUCH A, KHIEUKH A, THIEUTH A",
    "321A PARENTHESIZED HANGUL: PHIEUPH A, HIEUH A, CIEUC U; 321D PARENTHESIZED KOREAN CHARACTER: OJEON, O HU",
    "3220 PARENTHESIZED IDEOGRAPH: ONE, TWO, THREE, FOUR, FIVE, SIX, SEVEN, EIGHT, NINE, TEN, MOON, FIRE",
    "322C PARENTHESIZED IDEOGRAPH: WATER, WOOD, METAL, EARTH, SUN, STOCK, HAVE, SOCIETY, NAME, SPECIAL",
    "3236 PARENTHESIZED IDEOGRAPH: FINANCIAL, CONGRATULATION, LABOR, REPRESENT, CALL, STUDY, SUPERVISE",
    "323D PARENTHESIZED IDEOGRAPH: ENTERPRISE, RESOURCE, ALLIANCE, FESTIVAL, REST, SELF, REACH",
    "3244 CIRCLED IDEOGRAPH: QUESTION, KINDERGARTEN, SCHOOL, KOTO",
    "3248 CIRCLED NUMBER: TEN ON BLACK SQUARE, TWENTY ON BLACK SQUARE, THIRTY ON BLACK SQUARE",
    "324B CIRCLED NUMBER: FORTY ON BLACK SQUARE, FIFTY ON BLACK SQUARE, SIXTY ON BLACK SQUARE",
    "324E CIRCLED NUMBER: SEVENTY ON BLACK SQUARE, EIGHTY ON BLACK SQUARE; 3250 PARTNERSHIP: SIGN",
    "3251 CIRCLED NUMBER TWENTY: ONE, TWO, THREE, FOUR, FIVE, SIX, SEVEN, EIGHT, NINE",
    "325A CIRCLED NUMBER: THIRTY; 325B CIRCLED NUMBER THIRTY: ONE, TWO, THREE, FOUR, FIVE",
    "3260 CIRCLED HANGUL: KIYEOK, NIEUN, TIKEUT, RIEUL, MIEUM, PIEUP, SIOS, IEUNG, CIEUC, CHIEUCH, KHIEUKH",
    "326B CIRCLED HANGUL: THIEUTH, PHIEUPH, HIEUH, KIYEOK A, NIEUN A, TIKEUT A, RIEUL A, MIEUM A, PIEUP A",
    "3274 CIRCLED HANGUL: SIOS A, IEUNG A, CIEUC A, CHIEUCH A, KHIEUKH A, THIEUTH A, PHIEUPH A, HIEUH A",
    "327C CIRCLED KOREAN CHARACTER: CHAMKO, JUEUI; 327E: CIRCLED HANGUL IEUNG U, KOREAN STANDARD SYMBOL",
    "3280 CIRCLED IDEOGRAPH: ONE, TWO, THREE, FOUR, FIVE, SIX, SEVEN, EIGHT, NINE, TEN, MOON, FIRE, WATER",
    "328D CIRCLED IDEOGRAPH: WOOD, METAL, EARTH, SUN, STOCK, HAVE, SOCIETY, NAME, SPECIAL, FINANCIAL",
    "3297 CIRCLED IDEOGRAPH: CONGRATULATION, LABOR, SECRET, MALE, FEMALE, SUITABLE, EXCELLENT, PRINT",
    "329F CIRCLED IDEOGRAPH: ATTENTION, ITEM, REST, COPY, CORRECT, HIGH, CENTRE, LOW, LEFT, RIGHT, MEDICINE",
    "32AA CIRCLED IDEOGRAPH: RELIGION, STUDY, SUPERVISE, ENTERPRISE, RESOURCE, ALLIANCE, NIGHT",
    "32B1 CIRCLED NUMBER: THIRTY SIX, THIRTY SEVEN, THIRTY EIGHT, THIRTY NINE, FORTY",
    "32B6 CIRCLED NUMBER FORTY: ONE, TWO, THREE, FOUR, FIVE, SIX, SEVEN, EIGHT, NINE",
    "32BF CIRCLED NUMBER: FIFTY",
    "32C0 IDEOGRAPHIC TELEGRAPH SYMBOL FOR: JANUARY, FEBRUARY, MARCH, APRIL, MAY, JUNE, JULY, AUGUST",
    "32C8 IDEOGRAPHIC TELEGRAPH SYMBOL FOR: SEPTEMBER, OCTOBER, NOVEMBER, DECEMBER; 32CC SQUARE: HG, ERG, EV",
    "32CF LIMITED LIABILITY: SIGN",
    "32D0 CIRCLED KATAKANA: A, I, U, E, O, KA, KI, KU, KE, KO, SA, SI, SU, SE, SO, TA, TI, TU, TE, TO, NA, NI",
    "32E6 CIRCLED KATAKANA: NU, NE, NO, HA, HI, HU, HE, HO, MA, MI, MU, ME, MO, YA, YU, YO, RA, RI, RU, RE",
    "32FA CIRCLED KATAKANA: RO, WA, WI, WE, WO",
    "32FF SQUARE: ERA NAME REIWA, APAATO, ARUHUA, ANPEA, AARU, ININGU, INTI, UON, ESUKUUDO, EEKAA, ONSU, OOMU",
    "330B SQUARE: KAIRI, KARATTO, KARORII, GARON, GANMA, GIGA, GINII, KYURII, GIRUDAA, KIRO, KIROGURAMU",
    "3316 SQUARE: KIROMEETORU, KIROWATTO, GURAMU, GURAMUTON, KURUZEIRO, KUROONE, KEESU, KORUNA, KOOPO",
    "331F SQUARE: SAIKURU, SANTIIMU, SIRINGU, SENTI, SENTO, DAASU, DESI, DORU, TON, NANO, NOTTO, HAITU",
    "332B SQUARE: PAASENTO, PAATU, BAARERU, PIASUTORU, PIKURU, PIKO, BIRU, HUARADDO, HUIITO, BUSSYERU, HURAN",
    "3336 SQUARE: HEKUTAARU, PESO, PENIHI, HERUTU, PENSU, PEEZI, BEETA, POINTO, BORUTO, HON, PONDO, HOORU",
    "3342 SQUARE: HOON, MAIKURO, MAIRU, MAHHA, MARUKU, MANSYON, MIKURON, MIRI, MIRIBAARU, MEGA, MEGATON",
    "334D SQUARE: MEETORU, YAADO, YAARU, YUAN, RITTORU, RIRA, RUPII, RUUBURU, REMU, RENTOGEN, WATTO",
    "3358 IDEOGRAPHIC TELEGRAPH SYMBOL FOR HOUR: ZERO, ONE, TWO, THREE, FOUR, FIVE, SIX, SEVEN, EIGHT, NINE",
    "3362 IDEOGRAPHIC TELEGRAPH SYMBOL FOR HOUR: TEN, ELEVEN, TWELVE, THIRTEEN, FOURTEEN, FIFTEEN, SIXTEEN",
    "3369 IDEOGRAPHIC TELEGRAPH SYMBOL FOR HOUR: SEVENTEEN, EIGHTEEN, NINETEEN, TWENTY, TWENTY-ONE",
    "336E IDEOGRAPHIC TELEGRAPH SYMBOL FOR HOUR: TWENTY-TWO, TWENTY-THREE, TWENTY-FOUR",
    "3371 SQUARE: HPA, DA, AU, BAR, OV, PC, DM, DM SQUARED, DM CUBED, IU",
    "337B SQUARE ERA NAME: HEISEI, SYOUWA, TAISYOU, MEIZI",
    "337F SQUARE: CORPORATION, PA AMPS, NA, MU A, MA, KA, KB, MB, GB, CAL, KCAL, PF, NF, MU F, MU G, MG, KG",
    "3390 SQUARE: HZ, KHZ, MHZ, GHZ, THZ, MU L, ML, DL, KL, FM, NM, MU M, MM, CM, KM, MM SQUARED, CM SQUARED",
    "33A1 SQUARE: M SQUARED, KM SQUARED, MM CUBED, CM CUBED, M CUBED, KM CUBED, M OVER S, M OVER S SQUARED",
    "33A9 SQUARE: PA, KPA, MPA, GPA, RAD, RAD OVER S, RAD OVER S SQUARED, PS, NS, MU S, MS, PV, NV, MU V, MV",
    "33B8 SQUARE: KV, MV MEGA, PW, NW, MU W, MW, KW, MW MEGA, K OHM, M OHM, AM, BQ, CC, CD, C OVER KG, CO, DB",
    "33C9 SQUARE: GY, HA, HP, IN, KK, KM CAPITAL, KT, LM, LN, LOG, LX, MB SMALL, MIL, MOL, PH, PM, PPM, PR",
    "33DB SQUARE: SR, SV, WB, V OVER M, A OVER M",
    "33E0 IDEOGRAPHIC TELEGRAPH SYMBOL FOR DAY: ONE, TWO, THREE, FOUR, FIVE, SIX, SEVEN, EIGHT, NINE, TEN",
    "33EA IDEOGRAPHIC TELEGRAPH SYMBOL FOR DAY: ELEVEN, TWELVE, THIRTEEN, FOURTEEN, FIFTEEN, SIXTEEN",
    "33F0 IDEOGRAPHIC TELEGRAPH SYMBOL FOR DAY: SEVENTEEN, EIGHTEEN, NINETEEN, TWENTY, TWENTY-ONE, TWENTY-TWO",
    "33F6 IDEOGRAPHIC TELEGRAPH SYMBOL FOR DAY: TWENTY-THREE, TWENTY-FOUR, TWENTY-FIVE, TWENTY-SIX",
    "33FA IDEOGRAPHIC TELEGRAPH SYMBOL FOR DAY: TWENTY-SEVEN, TWENTY-EIGHT, TWENTY-NINE, THIRTY, THIRTY-ONE",
    "33FF SQUARE: GAL",
    "4DC0 HEXAGRAM FOR: THE CREATIVE HEAVEN, THE RECEPTIVE EARTH, DIFFICULTY AT THE BEGINNING, YOUTHFUL FOLLY",
    "4DC4 HEXAGRAM FOR: WAITING, CONFLICT, THE ARMY, HOLDING TOGETHER, SMALL TAMING, TREADING, PEACE",
    "4DCB HEXAGRAM FOR: STANDSTILL, FELLOWSHIP, GREAT POSSESSION, MODESTY, ENTHUSIASM, FOLLOWING",
    "4DD1 HEXAGRAM FOR: WORK ON THE DECAYED, APPROACH, CONTEMPLATION, BITING THROUGH, GRACE, SPLITTING APART",
    "4DD7 HEXAGRAM FOR: RETURN, INNOCENCE, GREAT TAMING, MOUTH CORNERS, GREAT PREPONDERANCE",
    "4DDC HEXAGRAM FOR: THE ABYSMAL WATER, THE CLINGING FIRE, INFLUENCE, DURATION, RETREAT, GREAT POWER",
    "4DE2 HEXAGRAM FOR: PROGRESS, DARKENING OF THE LIGHT, THE FAMILY, OPPOSITION, OBSTRUCTION, DELIVERANCE",
    "4DE8 HEXAGRAM FOR: DECREASE, INCREASE, BREAKTHROUGH, COMING TO MEET, GATHERING TOGETHER, PUSHING UPWARD",
    "4DEE HEXAGRAM FOR: OPPRESSION, THE WELL, REVOLUTION, THE CAULDRON, THE AROUSING THUNDER",
    "4DF3 HEXAGRAM FOR: THE KEEPING STILL MOUNTAIN, DEVELOPMENT, THE MARRYING MAIDEN, ABUNDANCE, THE WANDERER",
    "4DF8 HEXAGRAM FOR: THE GENTLE WIND, THE JOYOUS LAKE, DISPERSION, LIMITATION, INNER TRUTH",
    "4DFD HEXAGRAM FOR: SMALL PREPONDERANCE, AFTER COMPLETION, BEFORE COMPLETION",
    "A000 YI SYLLABLE: IT, IX, I, IP, IET, IEX, IE, IEP, AT, AX, A, AP, UOX, UO, UOP, OT, OX, O, OP, EX, E",
    "A015 YI SYLLABLE: WU, BIT, BIX, BI, BIP, BIET, BIEX, BIE, BIEP, BAT, BAX, BA, BAP, BUOX, BUO, BUOP, BOT",
    "A026 YI SYLLABLE: BOX, BO, BOP, BEX, BE, BEP, BUT, BUX, BU, BUP, BURX, BUR, BYT, BYX, BY, BYP, BYRX, BYR",
    "A038 YI SYLLABLE: PIT, PIX, PI, PIP, PIEX, PIE, PIEP, PAT, PAX, PA, PAP, PUOX, PUO, PUOP, POT, POX, PO",
    "A049 YI SYLLABLE: POP, PUT, PUX, PU, PUP, PURX, PUR, PYT, PYX, PY, PYP, PYRX, PYR, BBIT, BBIX, BBI, BBIP",
    "A05A YI SYLLABLE: BBIET, BBIEX, BBIE, BBIEP, BBAT, BBAX, BBA, BBAP, BBUOX, BBUO, BBUOP, BBOT, BBOX, BBO",
    "A068 YI SYLLABLE: BBOP, BBEX, BBE, BBEP, BBUT, BBUX, BBU, BBUP, BBURX, BBUR, BBYT, BBYX, BBY, BBYP, NBIT",
    "A077 YI SYLLABLE: NBIX, NBI, NBIP, NBIEX, NBIE, NBIEP, NBAT, NBAX, NBA, NBAP, NBOT, NBOX, NBO, NBOP",
    "A085 YI SYLLABLE: NBUT, NBUX, NBU, NBUP, NBURX, NBUR, NBYT, NBYX, NBY, NBYP, NBYRX, NBYR, HMIT, HMIX",
    "A093 YI SYLLABLE: HMI, HMIP, HMIEX, HMIE, HMIEP, HMAT, HMAX, HMA, HMAP, HMUOX, HMUO, HMUOP, HMOT, HMOX",
    "A0A1 YI SYLLABLE: HMO, HMOP, HMUT, HMUX, HMU, HMUP, HMURX, HMUR, HMYX, HMY, HMYP, HMYRX, HMYR, MIT, MIX",
    "A0B0 YI SYLLABLE: MI, MIP, MIEX, MIE, MIEP, MAT, MAX, MA, MAP, MUOT, MUOX, MUO, MUOP, MOT, MOX, MO, MOP",
    "A0C1 YI SYLLABLE: MEX, ME, MUT, MUX, MU, MUP, MURX, MUR, MYT, MYX, MY, MYP, FIT, FIX, FI, FIP, FAT, FAX",
    "A0D3 YI SYLLABLE: FA, FAP, FOX, FO, FOP, FUT, FUX, FU, FUP, FURX, FUR, FYT, FYX, FY, FYP, VIT, VIX, VI",
    "A0E5 YI SYLLABLE: VIP, VIET, VIEX, VIE, VIEP, VAT, VAX, VA, VAP, VOT, VOX, VO, VOP, VEX, VEP, VUT, VUX",
    "A0F6 YI SYLLABLE: VU, VUP, VURX, VUR, VYT, VYX, VY, VYP, VYRX, VYR, DIT, DIX, DI, DIP, DIEX, DIE, DIEP",
    "A107 YI SYLLABLE: DAT, DAX",
    "A109 YI SYLLABLE: DA, DAP, DUOX, DUO, DOT, DOX, DO, DOP, DEX, DE, DEP, DUT, DUX, DU, DUP, DURX, DUR, TIT",
    "A11B YI SYLLABLE: TIX, TI, TIP, TIEX, TIE, TIEP, TAT, TAX, TA, TAP, TUOT, TUOX, TUO, TUOP, TOT, TOX, TO",
    "A12C YI SYLLABLE: TOP, TEX, TE, TEP, TUT, TUX, TU, TUP, TURX, TUR, DDIT, DDIX, DDI, DDIP, DDIEX, DDIE",
    "A13C YI SYLLABLE: DDIEP, DDAT, DDAX, DDA, DDAP, DDUOX, DDUO, DDUOP, DDOT, DDOX, DDO, DDOP, DDEX, DDE",
    "A14A YI SYLLABLE: DDEP, DDUT, DDUX, DDU, DDUP, DDURX, DDUR, NDIT, NDIX, NDI, NDIP, NDIEX, NDIE, NDAT",
    "A158 YI SYLLABLE: NDAX, NDA, NDAP, NDOT, NDOX, NDO, NDOP, NDEX, NDE, NDEP, NDUT, NDUX, NDU, NDUP, NDURX",
    "A167 YI SYLLABLE: NDUR, HNIT, HNIX, HNI, HNIP, HNIET, HNIEX, HNIE, HNIEP, HNAT, HNAX, HNA, HNAP, HNUOX",
    "A175 YI SYLLABLE: HNUO, HNOT, HNOX, HNOP, HNEX, HNE, HNEP, HNUT, NIT, NIX, NI, NIP, NIEX, NIE, NIEP, NAX",
    "A185 YI SYLLABLE: NA, NAP, NUOX, NUO, NUOP, NOT, NOX, NO, NOP, NEX, NE, NEP, NUT, NUX, NU, NUP, NURX",
    "A196 YI SYLLABLE: NUR, HLIT, HLIX, HLI, HLIP, HLIEX, HLIE, HLIEP, HLAT, HLAX, HLA, HLAP, HLUOX, HLUO",
    "A1A4 YI SYLLABLE: HLUOP, HLOX, HLO, HLOP, HLEX, HLE, HLEP, HLUT, HLUX, HLU, HLUP, HLURX, HLUR, HLYT",
    "A1B2 YI SYLLABLE: HLYX, HLY, HLYP, HLYRX, HLYR, LIT, LIX, LI, LIP, LIET, LIEX, LIE, LIEP, LAT, LAX, LA",
    "A1C2 YI SYLLABLE: LAP, LUOT, LUOX, LUO, LUOP, LOT, LOX, LO, LOP, LEX, LE, LEP, LUT, LUX, LU, LUP, LURX",
    "A1D3 YI SYLLABLE: LUR, LYT, LYX, LY, LYP, LYRX, LYR, GIT, GIX, GI, GIP, GIET, GIEX, GIE, GIEP, GAT, GAX",
    "A1E4 YI SYLLABLE: GA, GAP, GUOT, GUOX, GUO, GUOP, GOT, GOX, GO, GOP, GET, GEX, GE, GEP, GUT, GUX, GU",
    "A1F5 YI SYLLABLE: GUP, GURX, GUR, KIT, KIX, KI, KIP, KIEX, KIE, KIEP, KAT, KAX, KA, KAP, KUOX, KUO, KUOP",
    "A206 YI SYLLABLE: KOT, KOX, KO, KOP, KET, KEX, KE, KEP, KUT, KUX, KU, KUP, KURX, KUR, GGIT, GGIX, GGI",
    "A217 YI SYLLABLE: GGIEX, GGIE, GGIEP, GGAT, GGAX, GGA, GGAP, GGUOT, GGUOX, GGUO, GGUOP, GGOT, GGOX, GGO",
    "A225 YI SYLLABLE: GGOP, GGET, GGEX, GGE, GGEP, GGUT, GGUX, GGU, GGUP, GGURX, GGUR, MGIEX, MGIE, MGAT",
    "A233 YI SYLLABLE: MGAX, MGA",
    "A235 YI SYLLABLE: MGAP, MGUOX, MGUO, MGUOP, MGOT, MGOX, MGO, MGOP, MGEX, MGE, MGEP, MGUT, MGUX, MGU",
    "A243 YI SYLLABLE: MGUP, MGURX, MGUR, HXIT, HXIX, HXI, HXIP, HXIET, HXIEX, HXIE, HXIEP, HXAT, HXAX, HXA",
    "A251 YI SYLLABLE: HXAP, HXUOT, HXUOX, HXUO, HXUOP, HXOT, HXOX, HXO, HXOP, HXEX, HXE, HXEP, NGIEX, NGIE",
    "A25F YI SYLLABLE: NGIEP, NGAT, NGAX, NGA, NGAP, NGUOT, NGUOX, NGUO, NGOT, NGOX, NGO, NGOP, NGEX, NGE",
    "A26D YI SYLLABLE: NGEP, HIT, HIEX, HIE, HAT, HAX, HA, HAP, HUOT, HUOX, HUO, HUOP, HOT, HOX, HO, HOP, HEX",
    "A27E YI SYLLABLE: HE, HEP, WAT, WAX, WA, WAP, WUOX, WUO, WUOP, WOX, WO, WOP, WEX, WE, WEP, ZIT, ZIX, ZI",
    "A290 YI SYLLABLE: ZIP, ZIEX, ZIE, ZIEP, ZAT, ZAX, ZA, ZAP, ZUOX, ZUO, ZUOP, ZOT, ZOX, ZO, ZOP, ZEX, ZE",
    "A2A1 YI SYLLABLE: ZEP, ZUT, ZUX, ZU, ZUP, ZURX, ZUR, ZYT, ZYX, ZY, ZYP, ZYRX, ZYR, CIT, CIX, CI, CIP",
    "A2B2 YI SYLLABLE: CIET, CIEX, CIE, CIEP, CAT, CAX, CA, CAP, CUOX, CUO, CUOP, COT, COX, CO, COP, CEX, CE",
    "A2C3 YI SYLLABLE: CEP, CUT, CUX, CU, CUP, CURX, CUR, CYT, CYX, CY, CYP, CYRX, CYR, ZZIT, ZZIX, ZZI, ZZIP",
    "A2D4 YI SYLLABLE: ZZIET, ZZIEX, ZZIE, ZZIEP, ZZAT, ZZAX, ZZA, ZZAP, ZZOX, ZZO, ZZOP, ZZEX, ZZE, ZZEP",
    "A2E2 YI SYLLABLE: ZZUX, ZZU, ZZUP, ZZURX, ZZUR, ZZYT, ZZYX, ZZY, ZZYP, ZZYRX, ZZYR, NZIT, NZIX, NZI",
    "A2F0 YI SYLLABLE: NZIP, NZIEX, NZIE, NZIEP, NZAT, NZAX, NZA, NZAP, NZUOX, NZUO, NZOX, NZOP, NZEX, NZE",
    "A2FE YI SYLLABLE: NZUX, NZU, NZUP, NZURX, NZUR, NZYT, NZYX, NZY, NZYP, NZYRX, NZYR, SIT, SIX, SI, SIP",
    "A30D YI SYLLABLE: SIEX, SIE, SIEP, SAT, SAX, SA, SAP, SUOX, SUO, SUOP, SOT, SOX, SO, SOP, SEX, SE, SEP",
    "A31E YI SYLLABLE: SUT, SUX, SU, SUP, SURX, SUR, SYT, SYX, SY, SYP, SYRX, SYR, SSIT, SSIX, SSI, SSIP",
    "A32E YI SYLLABLE: SSIEX, SSIE, SSIEP, SSAT, SSAX, SSA, SSAP, SSOT, SSOX, SSO, SSOP, SSEX, SSE, SSEP",
    "A33C YI SYLLABLE: SSUT, SSUX, SSU, SSUP, SSYT, SSYX, SSY, SSYP, SSYRX, SSYR, ZHAT, ZHAX, ZHA, ZHAP",
    "A34A YI SYLLABLE: ZHUOX, ZHUO, ZHUOP, ZHOT, ZHOX, ZHO, ZHOP, ZHET, ZHEX, ZHE, ZHEP, ZHUT, ZHUX, ZHU",
    "A358 YI SYLLABLE: ZHUP, ZHURX, ZHUR, ZHYT, ZHYX, ZHY, ZHYP, ZHYRX, ZHYR",
    "A361 YI SYLLABLE: CHAT, CHAX, CHA, CHAP, CHUOT, CHUOX, CHUO, CHUOP, CHOT, CHOX, CHO, CHOP, CHET, CHEX",
    "A36F YI SYLLABLE: CHE, CHEP, CHUX, CHU, CHUP, CHURX, CHUR, CHYT, CHYX, CHY, CHYP, CHYRX, CHYR, RRAX, RRA",
    "A37E YI SYLLABLE: RRUOX, RRUO, RROT, RROX, RRO, RROP, RRET, RREX, RRE, RREP, RRUT, RRUX, RRU, RRUP",
    "A38C YI SYLLABLE: RRURX, RRUR, RRYT, RRYX, RRY, RRYP, RRYRX, RRYR, NRAT, NRAX, NRA, NRAP, NROX, NRO",
    "A39A YI SYLLABLE: NROP, NRET, NREX, NRE, NREP, NRUT, NRUX, NRU, NRUP, NRURX, NRUR, NRYT, NRYX, NRY, NRYP",
    "A3A9 YI SYLLABLE: NRYRX, NRYR, SHAT, SHAX, SHA, SHAP, SHUOX, SHUO, SHUOP, SHOT, SHOX, SHO, SHOP, SHET",
    "A3B7 YI SYLLABLE: SHEX, SHE, SHEP, SHUT, SHUX, SHU, SHUP, SHURX, SHUR, SHYT, SHYX, SHY, SHYP, SHYRX",
    "A3C5 YI SYLLABLE: SHYR, RAT, RAX, RA, RAP, RUOX, RUO, RUOP, ROT, ROX, RO, ROP, REX, RE, REP, RUT, RUX",
    "A3D6 YI SYLLABLE: RU, RUP, RURX, RUR, RYT, RYX, RY, RYP, RYRX, RYR, JIT, JIX, JI, JIP, JIET, JIEX, JIE",
    "A3E7 YI SYLLABLE: JIEP, JUOT, JUOX, JUO, JUOP, JOT, JOX, JO, JOP, JUT, JUX, JU, JUP, JURX, JUR, JYT, JYX",
    "A3F8 YI SYLLABLE: JY, JYP, JYRX, JYR, QIT, QIX, QI, QIP, QIET, QIEX, QIE, QIEP, QUOT, QUOX, QUO, QUOP",
    "A408 YI SYLLABLE: QOT, QOX, QO, QOP, QUT, QUX, QU, QUP, QURX, QUR, QYT, QYX, QY, QYP, QYRX, QYR, JJIT",
    "A419 YI SYLLABLE: JJIX, JJI, JJIP, JJIET, JJIEX, JJIE, JJIEP, JJUOX, JJUO, JJUOP, JJOT, JJOX, JJO, JJOP",
    "A427 YI SYLLABLE: JJUT, JJUX, JJU, JJUP, JJURX, JJUR, JJYT, JJYX, JJY, JJYP, NJIT, NJIX, NJI, NJIP",
    "A435 YI SYLLABLE: NJIET, NJIEX, NJIE, NJIEP, NJUOX, NJUO, NJOT, NJOX, NJO, NJOP, NJUX, NJU, NJUP, NJURX",
    "A443 YI SYLLABLE: NJUR, NJYT, NJYX, NJY, NJYP, NJYRX, NJYR, NYIT, NYIX, NYI, NYIP, NYIET, NYIEX, NYIE",
    "A451 YI SYLLABLE: NYIEP, NYUOX, NYUO, NYUOP, NYOT, NYOX, NYO, NYOP, NYUT, NYUX, NYU, NYUP, XIT, XIX, XI",
    "A460 YI SYLLABLE: XIP, XIET, XIEX, XIE, XIEP, XUOX, XUO, XOT, XOX, XO, XOP, XYT, XYX, XY, XYP, XYRX, XYR",
    "A471 YI SYLLABLE: YIT, YIX, YI, YIP, YIET, YIEX, YIE, YIEP, YUOT, YUOX, YUO, YUOP, YOT, YOX, YO, YOP",
    "A481 YI SYLLABLE: YUT, YUX, YU, YUP, YURX, YUR, YYT, YYX, YY, YYP, YYRX, YYR",
    "A490 YI RADICAL: QOT, LI, KIT, NYIP, CYP, SSI, GGOP, GEP, MI, HXIT, LYR, BBUT, MOP, YO, PUT, HXUO, TAT",
    "A4A1 YI RADICAL: GA, ZUP, CYT, DDUR, BUR, GGUO, NYOP, TU, OP, JJUT, ZOT, PYT, HMO, YIT, VUR, SHY, VEP",
    "A4B2 YI RADICAL: ZA, JO, NZUP, JJY, GOT, JJIE, WO, DU, SHUR, LIE, CY, CUOP, CIP, HXOP, SHAT, ZUR, SHOP",
    "A4C3 YI RADICAL: CHE, ZZIET, NBIE, KE",
    "A4D0 LISU LETTER: BA, PA, PHA, DA, TA, THA, GA, KA, KHA, JA, CA, CHA, DZA, TSA, TSHA, MA, NA, LA, SA",
    "A4E3 LISU LETTER: ZHA, ZA, NGA, HA, XA, HHA, FA, WA, SHA, YA, GHA, A, AE, E, EU, I, O, U, UE, UH, OE",
    "A4F8 LISU LETTER: TONE MYA TI, TONE NA PO; A4FA LISU LETTER TONE MYA: CYA, BO, NA, JEU",
    "A4FE LISU PUNCTUATION: COMMA, FULL STOP",
    "A500 VAI SYLLABLE: EE, EEN, HEE, WEE, WEEN, PEE, BHEE, BEE, MBEE, KPEE, MGBEE, GBEE, FEE, VEE, TEE, THEE",
    "A510 VAI SYLLABLE: DHEE, DHHEE, LEE, REE, DEE, NDEE, SEE, SHEE, ZEE, ZHEE, CEE, JEE, NJEE, YEE, KEE",
    "A51F VAI SYLLABLE: NGGEE, GEE, MEE, NEE, NYEE, I, IN, HI, HIN, WI, WIN, PI, BHI, BI, MBI, KPI, MGBI, GBI",
    "A531 VAI SYLLABLE: FI, VI, TI, THI, DHI, DHHI, LI, RI, DI, NDI, SI, SHI, ZI, ZHI, CI, JI, NJI, YI, KI",
    "A544 VAI SYLLABLE: NGGI, GI, MI, NI, NYI, A, AN, NGAN, HA, HAN, WA, WAN, PA, BHA, BA, MBA, KPA, KPAN",
    "A556 VAI SYLLABLE: MGBA, GBA, FA, VA, TA, THA, DHA, DHHA, LA, RA, DA, NDA, SA, SHA, ZA, ZHA, CA, JA, NJA",
    "A569 VAI SYLLABLE: YA, KA, KAN, NGGA, GA, MA, NA, NYA, OO, OON, HOO, WOO, WOON, POO, BHOO, BOO, MBOO",
    "A57A VAI SYLLABLE: KPOO, MGBOO, GBOO, FOO, VOO, TOO, THOO, DHOO, DHHOO, LOO, ROO, DOO, NDOO, SOO, SHOO",
    "A589 VAI SYLLABLE: ZOO, ZHOO, COO, JOO, NJOO, YOO, KOO, NGGOO, GOO, MOO, NOO, NYOO, U, UN, HU, HUN, WU",
    "A59A VAI SYLLABLE: WUN, PU, BHU, BU, MBU, KPU, MGBU, GBU, FU, VU, TU, THU, DHU, DHHU, LU, RU, DU, NDU",
    "A5AC VAI SYLLABLE: SU, SHU, ZU, ZHU, CU, JU, NJU, YU, KU, NGGU, GU, MU, NU, NYU, O, ON, NGON, HO, HON",
    "A5BF VAI SYLLABLE: WO, WON, PO, BHO, BO, MBO, KPO, MGBO, GBO, GBON, FO, VO, TO, THO, DHO, DHHO, LO, RO",
    "A5D1 VAI SYLLABLE: DO, NDO, SO, SHO, ZO, ZHO, CO, JO, NJO, YO, KO, NGGO, GO, MO, NO, NYO, E, EN, NGEN",
    "A5E4 VAI SYLLABLE: HE, HEN, WE, WEN, PE, BHE, BE, MBE, KPE, KPEN, MGBE, GBE, GBEN, FE, VE, TE, THE, DHE",
    "A5F6 VAI SYLLABLE: DHHE, LE, RE, DE, NDE, SE, SHE, ZE, ZHE, CE, JE, NJE, YE, KE, NGGE, NGGEN, GE, GEN",
    "A608 VAI SYLLABLE: ME, NE, NYE, NG, LENGTHENER; A60D VAI: COMMA, FULL STOP, QUESTION MARK",
    "A610 VAI SYLLABLE NDOLE: FA, KA, SOO",
    "A613 VAI SYMBOL: FEENG, KEENG, TING, NII, BANG, FAA, TAA, DANG, DOONG, KUNG, TONG, DO-O, JONG",
    "A620 VAI DIGIT: ZERO, ONE, TWO, THREE, FOUR, FIVE, SIX, SEVEN, EIGHT, NINE",
    "A62A VAI SYLLABLE NDOLE: MA, DO",
    "A640 CYRILLIC: CAPITAL LETTER ZEMLYA, SMALL LETTER ZEMLYA, CAPITAL LETTER DZELO, SMALL LETTER DZELO",
    "A644 CYRILLIC: CAPITAL LETTER REVERSED DZE, SMALL LETTER REVERSED DZE, CAPITAL LETTER IOTA",
    "A647 CYRILLIC: SMALL LETTER IOTA, CAPITAL LETTER DJERV, SMALL LETTER DJERV, CAPITAL LETTER MONOGRAPH UK",
    "A64B CYRILLIC: SMALL LETTER MONOGRAPH UK, CAPITAL LETTER BROAD OMEGA, SMALL LETTER BROAD OMEGA",
    "A64E CYRILLIC: CAPITAL LETTER NEUTRAL YER, SMALL LETTER NEUTRAL YER, CAPITAL LETTER YERU WITH BACK YER",
    "A651 CYRILLIC: SMALL LETTER YERU WITH BACK YER, CAPITAL LETTER IOTIFIED YAT, SMALL LETTER IOTIFIED YAT",
    "A654 CYRILLIC: CAPITAL LETTER REVERSED YU, SMALL LETTER REVERSED YU, CAPITAL LETTER IOTIFIED A",
    "A657 CYRILLIC: SMALL LETTER IOTIFIED A, CAPITAL LETTER CLOSED LITTLE YUS, SMALL LETTER CLOSED LITTLE YUS",
    "A65A CYRILLIC: CAPITAL LETTER BLENDED YUS, SMALL LETTER BLENDED YUS",
    "A65C CYRILLIC: CAPITAL LETTER IOTIFIED CLOSED LITTLE YUS, SMALL LETTER IOTIFIED CLOSED LITTLE YUS",
    "A65E CYRILLIC: CAPITAL LETTER YN, SMALL LETTER YN, CAPITAL LETTER REVERSED TSE",
    "A661 CYRILLIC: SMALL LETTER REVERSED TSE, CAPITAL LETTER SOFT DE, SMALL LETTER SOFT DE",
    "A664 CYRILLIC: CAPITAL LETTER SOFT EL, SMALL LETTER SOFT EL, CAPITAL LETTER SOFT EM",
    "A667 CYRILLIC: SMALL LETTER SOFT EM, CAPITAL LETTER MONOCULAR O, SMALL LETTER MONOCULAR O",
    "A66A CYRILLIC: CAPITAL LETTER BINOCULAR O, SMALL LETTER BINOCULAR O, CAPITAL LETTER DOUBLE MONOCULAR O",
    "A66D CYRILLIC: SMALL LETTER DOUBLE MONOCULAR O, LETTER MULTIOCULAR O",
    "A66F COMBINING CYRILLIC: VZMET, TEN MILLIONS SIGN, HUNDRED MILLIONS SIGN, THOUSAND MILLIONS SIGN",
    "A673 SLAVONIC: ASTERISK",
    "A674 COMBINING CYRILLIC LETTER: UKRAINIAN IE, I, YI, U, HARD SIGN, YERU, SOFT SIGN, OMEGA",
    "A67C COMBINING CYRILLIC: KAVYKA, PAYEROK",
    "A67E CYRILLIC: KAVYKA, PAYEROK, CAPITAL LETTER DWE, SMALL LETTER DWE, CAPITAL LETTER DZWE",
    "A683 CYRILLIC: SMALL LETTER DZWE, CAPITAL LETTER ZHWE, SMALL LETTER ZHWE, CAPITAL LETTER CCHE",
    "A687 CYRILLIC: SMALL LETTER CCHE, CAPITAL LETTER DZZE, SMALL LETTER DZZE",
    "A68A CYRILLIC: CAPITAL LETTER TE WITH MIDDLE HOOK, SMALL LETTER TE WITH MIDDLE HOOK, CAPITAL LETTER TWE",
    "A68D CYRILLIC: SMALL LETTER TWE, CAPITAL LETTER TSWE, SMALL LETTER TSWE, CAPITAL LETTER TSSE",
    "A691 CYRILLIC: SMALL LETTER TSSE, CAPITAL LETTER TCHE, SMALL LETTER TCHE, CAPITAL LETTER HWE",
    "A695 CYRILLIC: SMALL LETTER HWE, CAPITAL LETTER SHWE, SMALL LETTER SHWE, CAPITAL LETTER DOUBLE O",
    "A699 CYRILLIC: SMALL LETTER DOUBLE O, CAPITAL LETTER CROSSED O, SMALL LETTER CROSSED O",
    "A69C MODIFIER LETTER CYRILLIC: HARD SIGN, SOFT SIGN; A69E COMBINING CYRILLIC LETTER: EF, IOTIFIED E",
    "A6A0 BAMUM LETTER: A, KA, U, KU, EE, REE, TAE, O, NYI, I, LA, PA, RII, RIEE, LEEEE, MEEEE, TAA, NDAA",
    "A6B2 BAMUM LETTER: NJAEM, M, SUU, MU, SHII, SI, SHEUX, SEUX, KYEE, KET, NUAE, NU, NJUAE, YOQ, SHU, YUQ",
    "A6C2 BAMUM LETTER: YA, NSHA, KEUX, PEUX, NJEE, NTEE, PUE, WUE, PEE, FEE, RU, LU, MI, NI, REUX, RAE, KEN",
    "A6D3 BAMUM LETTER: NGKWAEN, NGGA, NGA, SHO, PUAE, FU, FOM, WA, NA, LI, PI, LOQ, KO, MBEN, REN, MEN, MA",
    "A6E4 BAMUM LETTER: TI, KI, MO, MBAA, TET, KPA, TEN, NTUU, SAMBA, FAAMAE, KOVUU, KOGHOM",
    "A6F0 BAMUM COMBINING MARK: KOQNDON, TUKWENTIS",
    "A6F2 BAMUM: NJAEMLI, FULL STOP, COLON, COMMA, SEMICOLON, QUESTION MARK",
    "A700 MODIFIER LETTER CHINESE TONE: YIN PING, YANG PING, YIN SHANG, YANG SHANG, YIN QU, YANG QU, YIN RU",
    "A707 MODIFIER LETTER CHINESE TONE: YANG RU",
    "A708 MODIFIER LETTER: EXTRA-HIGH DOTTED TONE BAR, HIGH DOTTED TONE BAR, MID DOTTED TONE BAR",
    "A70B MODIFIER LETTER: LOW DOTTED TONE BAR, EXTRA-LOW DOTTED TONE BAR",
    "A70D MODIFIER LETTER: EXTRA-HIGH DOTTED LEFT-STEM TONE BAR, HIGH DOTTED LEFT-STEM TONE BAR",
    "A70F MODIFIER LETTER: MID DOTTED LEFT-STEM TONE BAR, LOW DOTTED LEFT-STEM TONE BAR",
    "A711 MODIFIER LETTER: EXTRA-LOW DOTTED LEFT-STEM TONE BAR, EXTRA-HIGH LEFT-STEM TONE BAR",
    "A713 MODIFIER LETTER: HIGH LEFT-STEM TONE BAR, MID LEFT-STEM TONE BAR, LOW LEFT-STEM TONE BAR",
    "A716 MODIFIER LETTER: EXTRA-LOW LEFT-STEM TONE BAR, DOT VERTICAL BAR, DOT SLASH, DOT HORIZONTAL BAR",
    "A71A MODIFIER LETTER: LOWER RIGHT CORNER ANGLE, RAISED UP ARROW, RAISED DOWN ARROW",
    "A71D MODIFIER LETTER: RAISED EXCLAMATION MARK, RAISED INVERTED EXCLAMATION MARK",
    "A71F MODIFIER LETTER: LOW INVERTED EXCLAMATION MARK, STRESS AND HIGH TONE, STRESS AND LOW TONE",
    "A722 LATIN: CAPITAL LETTER EGYPTOLOGICAL ALEF, SMALL LETTER EGYPTOLOGICAL ALEF",
    "A724 LATIN: CAPITAL LETTER EGYPTOLOGICAL AIN, SMALL LETTER EGYPTOLOGICAL AIN, CAPITAL LETTER HENG",
    "A727 LATIN: SMALL LETTER HENG, CAPITAL LETTER TZ, SMALL LETTER TZ, CAPITAL LETTER TRESILLO",
    "A72B LATIN: SMALL LETTER TRESILLO, CAPITAL LETTER CUATRILLO, SMALL LETTER CUATRILLO",
    "A72E LATIN: CAPITAL LETTER CUATRILLO WITH COMMA, SMALL LETTER CUATRILLO WITH COMMA",
    "A730 LATIN: LETTER SMALL CAPITAL F, LETTER SMALL CAPITAL S, CAPITAL LETTER AA, SMALL LETTER AA",
    "A734 LATIN: CAPITAL LETTER AO, SMALL LETTER AO, CAPITAL LETTER AU, SMALL LETTER AU, CAPITAL LETTER AV",
    "A739 LATIN: SMALL LETTER AV, CAPITAL LETTER AV WITH HORIZONTAL BAR, SMALL LETTER AV WITH HORIZONTAL BAR",
    "A73C LATIN: CAPITAL LETTER AY, SMALL LETTER AY, CAPITAL LETTER REVERSED C WITH DOT",
    "A73F LATIN: SMALL LETTER REVERSED C WITH DOT, CAPITAL LETTER K WITH STROKE, SMALL LETTER K WITH STROKE",
    "A742 LATIN: CAPITAL LETTER K WITH DIAGONAL STROKE, SMALL LETTER K WITH DIAGONAL STROKE",
    "A744 LATIN: CAPITAL LETTER K WITH STROKE AND DIAGONAL STROKE",
    "A745 LATIN: SMALL LETTER K WITH STROKE AND DIAGONAL STROKE, CAPITAL LETTER BROKEN L",
    "A747 LATIN: SMALL LETTER BROKEN L, CAPITAL LETTER L WITH HIGH STROKE, SMALL LETTER L WITH HIGH STROKE",
    "A74A LATIN: CAPITAL LETTER O WITH LONG STROKE OVERLAY, SMALL LETTER O WITH LONG STROKE OVERLAY",
    "A74C LATIN: CAPITAL LETTER O WITH LOOP, SMALL LETTER O WITH LOOP, CAPITAL LETTER OO, SMALL LETTER OO",
    "A750 LATIN: CAPITAL LETTER P WITH STROKE THROUGH DESCENDER, SMALL LETTER P WITH STROKE THROUGH DESCENDER",
    "A752 LATIN: CAPITAL LETTER P WITH FLOURISH, SMALL LETTER P WITH FLOURISH",
    "A754 LATIN: CAPITAL LETTER P WITH SQUIRREL TAIL, SMALL LETTER P WITH SQUIRREL TAIL",
    "A756 LATIN: CAPITAL LETTER Q WITH STROKE THROUGH DESCENDER, SMALL LETTER Q WITH STROKE THROUGH DESCENDER",
    "A758 LATIN: CAPITAL LETTER Q WITH DIAGONAL STROKE, SMALL LETTER Q WITH DIAGONAL STROKE",
    "A75A LATIN: CAPITAL LETTER R ROTUNDA, SMALL LETTER R ROTUNDA, CAPITAL LETTER RUM ROTUNDA",
    "A75D LATIN: SMALL LETTER RUM ROTUNDA, CAPITAL LETTER V WITH DIAGONAL STROKE",
    "A75F LATIN: SMALL LETTER V WITH DIAGONAL STROKE, CAPITAL LETTER VY, SMALL LETTER VY",
    "A762 LATIN: CAPITAL LETTER VISIGOTHIC Z, SMALL LETTER VISIGOTHIC Z, CAPITAL LETTER THORN WITH STROKE",
    "A765 LATIN: SMALL LETTER THORN WITH STROKE, CAPITAL LETTER THORN WITH STROKE THROUGH DESCENDER",
    "A767 LATIN: SMALL LETTER THORN WITH STROKE THROUGH DESCENDER, CAPITAL LETTER VEND, SMALL LETTER VEND",
    "A76A LATIN: CAPITAL LETTER ET, SMALL LETTER ET, CAPITAL LETTER IS, SMALL LETTER IS, CAPITAL LETTER CON",
    "A76F LATIN: SMALL LETTER CON; A770 MODIFIER LETTER: US; A771 LATIN SMALL LETTER: DUM, LUM, MUM, NUM, RUM",
    "A776 LATIN: LETTER SMALL CAPITAL RUM, SMALL LETTER TUM, SMALL LETTER UM, CAPITAL LETTER INSULAR D",
    "A77A LATIN: SMALL LETTER INSULAR D, CAPITAL LETTER INSULAR F, SMALL LETTER INSULAR F",
    "A77D LATIN: CAPITAL LETTER INSULAR G, CAPITAL LETTER TURNED INSULAR G, SMALL LETTER TURNED INSULAR G",
    "A780 LATIN: CAPITAL LETTER TURNED L, SMALL LETTER TURNED L, CAPITAL LETTER INSULAR R",
    "A783 LATIN: SMALL LETTER INSULAR R, CAPITAL LETTER INSULAR S, SMALL LETTER INSULAR S",
    "A786 LATIN: CAPITAL LETTER INSULAR T, SMALL LETTER INSULAR T",
    "A788 MODIFIER LETTER: LOW CIRCUMFLEX ACCENT, COLON, SHORT EQUALS SIGN",
    "A78B LATIN: CAPITAL LETTER SALTILLO, SMALL LETTER SALTILLO, CAPITAL LETTER TURNED H",
    "A78E LATIN: SMALL LETTER L WITH RETROFLEX HOOK AND BELT, LETTER SINOLOGICAL DOT",
    "A790 LATIN: CAPITAL LETTER N WITH DESCENDER, SMALL LETTER N WITH DESCENDER, CAPITAL LETTER C WITH BAR",
    "A793 LATIN SMALL LETTER: C WITH BAR, C WITH PALATAL HOOK, H WITH PALATAL HOOK",
    "A796 LATIN: CAPITAL LETTER B WITH FLOURISH, SMALL LETTER B WITH FLOURISH, CAPITAL LETTER F WITH STROKE",
    "A799 LATIN: SMALL LETTER F WITH STROKE, CAPITAL LETTER VOLAPUK AE, SMALL LETTER VOLAPUK AE",
    "A79C LATIN: CAPITAL LETTER VOLAPUK OE, SMALL LETTER VOLAPUK OE, CAPITAL LETTER VOLAPUK UE",
    "A79F LATIN: SMALL LETTER VOLAPUK UE, CAPITAL LETTER G WITH OBLIQUE STROKE",
    "A7A1 LATIN: SMALL LETTER G WITH OBLIQUE STROKE, CAPITAL LETTER K WITH OBLIQUE STROKE",
    "A7A3 LATIN: SMALL LETTER K WITH OBLIQUE STROKE, CAPITAL LETTER N WITH OBLIQUE STROKE",
    "A7A5 LATIN: SMALL LETTER N WITH OBLIQUE STROKE, CAPITAL LETTER R WITH OBLIQUE STROKE",
    "A7A7 LATIN: SMALL LETTER R WITH OBLIQUE STROKE, CAPITAL LETTER S WITH OBLIQUE STROKE",
    "A7A9 LATIN: SMALL LETTER S WITH OBLIQUE STROKE",
    "A7AA LATIN CAPITAL LETTER: H WITH HOOK, REVERSED OPEN E, SCRIPT G, L WITH BELT, SMALL CAPITAL I",
    "A7AF LATIN LETTER SMALL CAPITAL: Q",
    "A7B0 LATIN CAPITAL LETTER: TURNED K, TURNED T, J WITH CROSSED-TAIL, CHI, BETA",
    "A7B5 LATIN: SMALL LETTER BETA, CAPITAL LETTER OMEGA, SMALL LETTER OMEGA, CAPITAL LETTER U WITH STROKE",
    "A7B9 LATIN: SMALL LETTER U WITH STROKE, CAPITAL LETTER GLOTTAL A, SMALL LETTER GLOTTAL A",
    "A7BC LATIN: CAPITAL LETTER GLOTTAL I, SMALL LETTER GLOTTAL I, CAPITAL LETTER GLOTTAL U",
    "A7BF LATIN: SMALL LETTER GLOTTAL U, CAPITAL LETTER OLD POLISH O, SMALL LETTER OLD POLISH O",
    "A7C2 LATIN: CAPITAL LETTER ANGLICANA W, SMALL LETTER ANGLICANA W",
    "A7C4 LATIN CAPITAL LETTER: C WITH PALATAL HOOK, S WITH HOOK, Z WITH PALATAL HOOK",
    "A7C7 LATIN CAPITAL LETTER: D WITH SHORT STROKE OVERLAY",
    "A7C8 LATIN: SMALL LETTER D WITH SHORT STROKE OVERLAY, CAPITAL LETTER S WITH SHORT STROKE OVERLAY",
    "A7CA LATIN: SMALL LETTER S WITH SHORT STROKE OVERLAY",
    "A7D0 LATIN: CAPITAL LETTER CLOSED INSULAR G, SMALL LETTER CLOSED INSULAR G",
    "A7D3 LATIN SMALL LETTER DOUBLE: THORN",
    "A7D5 LATIN: SMALL LETTER DOUBLE WYNN, CAPITAL LETTER MIDDLE SCOTS S, SMALL LETTER MIDDLE SCOTS S",
    "A7D8 LATIN: CAPITAL LETTER SIGMOID S, SMALL LETTER SIGMOID S; A7F2 MODIFIER LETTER CAPITAL: C, F, Q",
    "A7F5 LATIN: CAPITAL LETTER REVERSED HALF H, SMALL LETTER REVERSED HALF H, EPIGRAPHIC LETTER SIDEWAYS I",
    "A7F8 MODIFIER LETTER: CAPITAL H WITH STROKE, SMALL LIGATURE OE",
    "A7FA LATIN LETTER SMALL CAPITAL TURNED: M",
    "A7FB LATIN EPIGRAPHIC LETTER: REVERSED F, REVERSED P, INVERTED M, I LONGA, ARCHAIC M",
    "A800 SYLOTI NAGRI: LETTER A, LETTER I, SIGN DVISVARA, LETTER U, LETTER E, LETTER O, SIGN HASANTA",
    "A807 SYLOTI NAGRI: LETTER KO, LETTER KHO, LETTER GO, LETTER GHO, SIGN ANUSVARA",
    "A80C SYLOTI NAGRI LETTER: CO, CHO, JO, JHO, TTO, TTHO, DDO, DDHO, TO, THO, DO, DHO, NO, PO, PHO, BO, BHO",
    "A81D SYLOTI NAGRI LETTER: MO, RO, LO, RRO, SO, HO; A823 SYLOTI NAGRI VOWEL SIGN: A, I, U, E, OO",
    "A828 SYLOTI NAGRI POETRY: MARK-1, MARK-2, MARK-3, MARK-4; A82C SYLOTI NAGRI SIGN ALTERNATE: HASANTA",
    "A830 NORTH INDIC FRACTION: ONE QUARTER, ONE HALF, THREE QUARTERS, ONE SIXTEENTH, ONE EIGHTH",
    "A835 NORTH INDIC FRACTION: THREE SIXTEENTHS",
    "A836 NORTH INDIC: QUARTER MARK, PLACEHOLDER MARK, RUPEE MARK, QUANTITY MARK",
    "A840 PHAGS-PA LETTER: KA, KHA, GA, NGA, CA, CHA, JA, NYA, TA, THA, DA, NA, PA, PHA, BA, MA, TSA, TSHA",
    "A852 PHAGS-PA LETTER: DZA, WA, ZHA, ZA, SMALL A, YA, RA, LA, SHA, SA, HA, A, I, U, E, O, QA, XA, FA, GGA",
    "A866 PHAGS-PA LETTER: EE; A867 PHAGS-PA SUBJOINED LETTER: WA, YA",
    "A869 PHAGS-PA LETTER: TTA, TTHA, DDA, NNA, ALTERNATE YA, VOICELESS SHA, VOICED HA, ASPIRATED FA",
    "A871 PHAGS-PA: SUBJOINED LETTER RA, SUPERFIXED LETTER RA, LETTER CANDRABINDU, SINGLE HEAD MARK",
    "A875 PHAGS-PA: DOUBLE HEAD MARK, MARK SHAD, MARK DOUBLE SHAD; A880 SAURASHTRA SIGN: ANUSVARA, VISARGA",
    "A882 SAURASHTRA LETTER: A, AA, I, II, U, UU, VOCALIC R, VOCALIC RR, VOCALIC L, VOCALIC LL, E, EE, AI, O",
    "A890 SAURASHTRA LETTER: OO, AU, KA, KHA, GA, GHA, NGA, CA, CHA, JA, JHA, NYA, TTA, TTHA, DDA, DDHA, NNA",
    "A8A1 SAURASHTRA LETTER: TA, THA, DA, DHA, NA, PA, PHA, BA, BHA, MA, YA, RA, LA, VA, SHA, SSA, SA, HA",
    "A8B3 SAURASHTRA LETTER: LLA; A8B4 SAURASHTRA CONSONANT SIGN: HAARU",
    "A8B5 SAURASHTRA VOWEL SIGN: AA, I, II, U, UU, VOCALIC R, VOCALIC RR, VOCALIC L, VOCALIC LL, E, EE, AI, O",
    "A8C2 SAURASHTRA VOWEL SIGN: OO, AU; A8C4 SAURASHTRA SIGN: VIRAMA, CANDRABINDU",
    "A8CE SAURASHTRA: DANDA, DOUBLE DANDA",
    "A8D0 SAURASHTRA DIGIT: ZERO, ONE, TWO, THREE, FOUR, FIVE, SIX, SEVEN, EIGHT, NINE",
    "A8E0 COMBINING DEVANAGARI DIGIT: ZERO, ONE, TWO, THREE, FOUR, FIVE, SIX, SEVEN, EIGHT, NINE",
    "A8EA COMBINING DEVANAGARI LETTER: A, U, KA, NA, PA, RA, VI; A8F1 COMBINING DEVANAGARI SIGN: AVAGRAHA",
    "A8F2 DEVANAGARI SIGN: SPACING CANDRABINDU, CANDRABINDU VIRAMA, DOUBLE CANDRABINDU VIRAMA",
    "A8F5 DEVANAGARI SIGN: CANDRABINDU TWO, CANDRABINDU THREE, CANDRABINDU AVAGRAHA, PUSHPIKA",
    "A8F9 DEVANAGARI: GAP FILLER, CARET, HEADSTROKE, SIGN SIDDHAM, JAIN OM, LETTER AY, VOWEL SIGN AY",
    "A900 KAYAH LI DIGIT: ZERO, ONE, TWO, THREE, FOUR, FIVE, SIX, SEVEN, EIGHT, NINE",
    "A90A KAYAH LI LETTER: KA, KHA, GA, NGA, SA, SHA, ZA, NYA, TA, HTA, NA, PA, PHA, MA, DA, BA, RA, YA, LA",
    "A91D KAYAH LI LETTER: WA, THA, HA, VA, CA, A, OE, I, OO; A926 KAYAH LI VOWEL: UE, E, U, EE, O",
    "A92B KAYAH LI: TONE PLOPHU, TONE CALYA, TONE CALYA PLOPHU, SIGN CWI, SIGN SHYA",
    "A930 REJANG LETTER: KA, GA, NGA, TA, DA, NA, PA, BA, MA, CA, JA, NYA, SA, RA, LA, YA, WA, HA, MBA, NGGA",
    "A944 REJANG LETTER: NDA, NYJA, A; A947 REJANG VOWEL SIGN: I, U, E, AI, O, AU, EU, EA",
    "A94F REJANG CONSONANT SIGN: NG, N, R, H; A953 REJANG: VIRAMA; A95F REJANG SECTION: MARK",
    "A960 HANGUL CHOSEONG: TIKEUT-MIEUM, TIKEUT-PIEUP, TIKEUT-SIOS, TIKEUT-CIEUC, RIEUL-KIYEOK",
    "A965 HANGUL CHOSEONG: RIEUL-SSANGKIYEOK, RIEUL-TIKEUT, RIEUL-SSANGTIKEUT, RIEUL-MIEUM, RIEUL-PIEUP",
    "A96A HANGUL CHOSEONG: RIEUL-SSANGPIEUP, RIEUL-KAPYEOUNPIEUP, RIEUL-SIOS, RIEUL-CIEUC, RIEUL-KHIEUKH",
    "A96F HANGUL CHOSEONG: MIEUM-KIYEOK, MIEUM-TIKEUT, MIEUM-SIOS, PIEUP-SIOS-THIEUTH, PIEUP-KHIEUKH",
    "A974 HANGUL CHOSEONG: PIEUP-HIEUH, SSANGSIOS-PIEUP, IEUNG-RIEUL, IEUNG-HIEUH, SSANGCIEUC-HIEUH",
    "A979 HANGUL CHOSEONG: SSANGTHIEUTH, PHIEUPH-HIEUH, HIEUH-SIOS, SSANGYEORINHIEUH",
    "A980 JAVANESE SIGN: PANYANGGA, CECAK, LAYAR, WIGNYAN",
    "A984 JAVANESE LETTER: A, I KAWI, I, II, U, PA CEREK, NGA LELET, NGA LELET RASWADI, E, AI, O, KA",
    "A990 JAVANESE LETTER: KA SASAK, KA MURDA, GA, GA MURDA, NGA, CA, CA MURDA, JA, NYA MURDA, JA MAHAPRANA",
    "A99A JAVANESE LETTER: NYA, TTA, TTA MAHAPRANA, DDA, DDA MAHAPRANA, NA MURDA, TA, TA MURDA, DA",
    "A9A3 JAVANESE LETTER: DA MAHAPRANA, NA, PA, PA MURDA, BA, BA MURDA, MA, YA, RA, RA AGUNG, LA, WA",
    "A9AF JAVANESE LETTER: SA MURDA, SA MAHAPRANA, SA, HA; A9B3 JAVANESE SIGN CECAK: TELU",
    "A9B4 JAVANESE VOWEL SIGN: TARUNG, TOLONG, WULU, WULU MELIK, SUKU, SUKU MENDUT, TALING, DIRGA MURE, PEPET",
    "A9BD JAVANESE CONSONANT SIGN: KERET, PENGKAL, CAKRA",
    "A9C0 JAVANESE: PANGKON, LEFT RERENGGAN, RIGHT RERENGGAN",
    "A9C3 JAVANESE PADA: ANDAP, MADYA, LUHUR, WINDU, PANGKAT, LINGSA, LUNGSI, ADEG, ADEG ADEG, PISELEH",
    "A9CD JAVANESE TURNED PADA: PISELEH; A9CF JAVANESE: PANGRANGKEP",
    "A9D0 JAVANESE DIGIT: ZERO, ONE, TWO, THREE, FOUR, FIVE, SIX, SEVEN, EIGHT, NINE",
    "A9DE JAVANESE PADA: TIRTA TUMETES, ISEN-ISEN; A9E0 MYANMAR LETTER SHAN: GHA, CHA, JHA, NNA, BHA",
    "A9E5 MYANMAR: SIGN SHAN SAW, MODIFIER LETTER SHAN REDUPLICATION",
    "A9E7 MYANMAR LETTER TAI LAING: NYA, FA, GA, GHA, JA, JHA, DDA, DDHA, NNA",
    "A9F0 MYANMAR TAI LAING DIGIT: ZERO, ONE, TWO, THREE, FOUR, FIVE, SIX, SEVEN, EIGHT, NINE",
    "A9FA MYANMAR LETTER TAI LAING: LLA, DA, DHA, BA, BHA",
    "AA00 CHAM LETTER: A, I, U, E, AI, O, KA, KHA, GA, GHA, NGUE, NGA, CHA, CHHA, JA, JHA, NHUE, NHA, NHJA",
    "AA13 CHAM LETTER: TA, THA, DA, DHA, NUE, NA, DDA, PA, PPA, PHA, BA, BHA, MUE, MA, BBA, YA, RA, LA, VA",
    "AA26 CHAM LETTER: SSA, SA, HA; AA29 CHAM VOWEL SIGN: AA, I, II, EI, U, OE, O, AI, AU, UE",
    "AA33 CHAM CONSONANT SIGN: YA, RA, LA, WA; AA40 CHAM LETTER FINAL: K, G, NG",
    "AA43 CHAM CONSONANT SIGN FINAL: NG; AA44 CHAM LETTER FINAL: CH, T, N, P, Y, R, L, SS",
    "AA4C CHAM CONSONANT SIGN FINAL: M, H",
    "AA50 CHAM DIGIT: ZERO, ONE, TWO, THREE, FOUR, FIVE, SIX, SEVEN, EIGHT, NINE",
    "AA5C CHAM PUNCTUATION: SPIRAL, DANDA, DOUBLE DANDA, TRIPLE DANDA",
    "AA60 MYANMAR LETTER KHAMTI: GA, CA, CHA, JA, JHA, NYA, TTA, TTHA, DDA, DDHA, DHA, NA, SA, HA, HHA, FA",
    "AA70 MYANMAR MODIFIER LETTER KHAMTI: REDUPLICATION; AA71 MYANMAR LETTER KHAMTI: XA, ZA, RA",
    "AA74 MYANMAR LOGOGRAM KHAMTI: OAY, QN, HM; AA77 MYANMAR SYMBOL AITON: EXCLAMATION, ONE, TWO",
    "AA7A MYANMAR: LETTER AITON RA, SIGN PAO KAREN TONE; AA7C MYANMAR SIGN TAI LAING: TONE-2, TONE-5",
    "AA7E MYANMAR LETTER SHWE PALAUNG: CHA, SHA",
    "AA80 TAI VIET LETTER: LOW KO, HIGH KO, LOW KHO, HIGH KHO, LOW KHHO, HIGH KHHO, LOW GO, HIGH GO, LOW NGO",
    "AA89 TAI VIET LETTER: HIGH NGO, LOW CO, HIGH CO, LOW CHO, HIGH CHO, LOW SO, HIGH SO, LOW NYO, HIGH NYO",
    "AA92 TAI VIET LETTER: LOW DO, HIGH DO, LOW TO, HIGH TO, LOW THO, HIGH THO, LOW NO, HIGH NO, LOW BO",
    "AA9B TAI VIET LETTER: HIGH BO, LOW PO, HIGH PO, LOW PHO, HIGH PHO, LOW FO, HIGH FO, LOW MO, HIGH MO",
    "AAA4 TAI VIET LETTER: LOW YO, HIGH YO, LOW RO, HIGH RO, LOW LO, HIGH LO, LOW VO, HIGH VO, LOW HO",
    "AAAD TAI VIET LETTER: HIGH HO, LOW O, HIGH O",
    "AAB0 TAI VIET: MAI KANG, VOWEL AA, VOWEL I, VOWEL UE, VOWEL U, VOWEL E, VOWEL O, MAI KHIT",
    "AAB8 TAI VIET VOWEL: IA, UEA, UA, AUE, AY, AN, AM; AABF TAI VIET TONE MAI: EK, NUENG, THO, SONG",
    "AADB TAI VIET SYMBOL: KON, NUENG, SAM, HO HOI, KOI KOI",
    "AAE0 MEETEI MAYEK LETTER: E, O, CHA, NYA, TTA, TTHA, DDA, DDHA, NNA, SHA, SSA",
    "AAEB MEETEI MAYEK VOWEL SIGN: II, UU, AAI, AU, AAU",
    "AAF0 MEETEI MAYEK: CHEIKHAN, AHANG KHUDAM, ANJI, SYLLABLE REPETITION MARK, WORD REPETITION MARK",
    "AAF5 MEETEI MAYEK: VOWEL SIGN VISARGA, VIRAMA",
    "AB01 ETHIOPIC SYLLABLE: TTHU, TTHI, TTHAA, TTHEE, TTHE, TTHO",
    "AB09 ETHIOPIC SYLLABLE: DDHU, DDHI, DDHAA, DDHEE, DDHE, DDHO",
    "AB11 ETHIOPIC SYLLABLE: DZU, DZI, DZAA, DZEE, DZE, DZO",
    "AB20 ETHIOPIC SYLLABLE: CCHHA, CCHHU, CCHHI, CCHHAA, CCHHEE, CCHHE, CCHHO",
    "AB28 ETHIOPIC SYLLABLE: BBA, BBU, BBI, BBAA, BBEE, BBE, BBO",
    "AB30 LATIN SMALL LETTER: BARRED ALPHA, A REVERSED-SCHWA, BLACKLETTER E, BARRED E, E WITH FLOURISH",
    "AB35 LATIN SMALL LETTER: LENIS F, SCRIPT G WITH CROSSED-TAIL, L WITH INVERTED LAZY S",
    "AB38 LATIN SMALL LETTER: L WITH DOUBLE MIDDLE TILDE, L WITH MIDDLE RING, M WITH CROSSED-TAIL",
    "AB3B LATIN SMALL LETTER: N WITH CROSSED-TAIL, ENG WITH CROSSED-TAIL, BLACKLETTER O",
    "AB3E LATIN SMALL LETTER: BLACKLETTER O WITH STROKE, OPEN O WITH STROKE, INVERTED OE",
    "AB41 LATIN SMALL LETTER: TURNED OE WITH STROKE, TURNED OE WITH HORIZONTAL STROKE, TURNED O OPEN-O",
    "AB44 LATIN SMALL LETTER: TURNED O OPEN-O WITH STROKE, STIRRUP R",
    "AB46 LATIN LETTER SMALL CAPITAL R WITH RIGHT: LEG",
    "AB47 LATIN SMALL LETTER: R WITHOUT HANDLE, DOUBLE R, R WITH CROSSED-TAIL, DOUBLE R WITH CROSSED-TAIL",
    "AB4B LATIN SMALL LETTER: SCRIPT R, SCRIPT R WITH RING, BASELINE ESH, U WITH SHORT RIGHT LEG",
    "AB4F LATIN SMALL LETTER: U BAR WITH SHORT RIGHT LEG, UI, TURNED UI, U WITH LEFT HOOK, CHI",
    "AB54 LATIN SMALL LETTER: CHI WITH LOW RIGHT RING, CHI WITH LOW LEFT SERIF, X WITH LOW RIGHT RING",
    "AB57 LATIN SMALL LETTER: X WITH LONG LEFT LEG, X WITH LONG LEFT LEG AND LOW RIGHT RING",
    "AB59 LATIN SMALL LETTER: X WITH LONG LEFT LEG WITH SERIF, Y WITH SHORT RIGHT LEG",
    "AB5B MODIFIER BREVE WITH INVERTED: BREVE",
    "AB5C MODIFIER LETTER SMALL: HENG, L WITH INVERTED LAZY S, L WITH MIDDLE TILDE, U WITH LEFT HOOK",
    "AB60 LATIN SMALL LETTER: SAKHA YAT, IOTIFIED E, OPEN OE, UO, INVERTED ALPHA",
    "AB65 GREEK LETTER SMALL CAPITAL: OMEGA",
    "AB66 LATIN SMALL LETTER: DZ DIGRAPH WITH RETROFLEX HOOK, TS DIGRAPH WITH RETROFLEX HOOK",
    "AB68 LATIN SMALL LETTER: TURNED R WITH MIDDLE TILDE",
    "AB69 MODIFIER LETTER: SMALL TURNED W, LEFT TACK, RIGHT TACK",
    "AB70 CHEROKEE SMALL LETTER: A, E, I, O, U, V, GA, KA, GE, GI, GO, GU, GV, HA, HE, HI, HO, HU, HV, LA, LE",
    "AB85 CHEROKEE SMALL LETTER: LI, LO, LU, LV, MA, ME, MI, MO, MU, NA, HNA, NAH, NE, NI, NO, NU, NV, QUA",
    "AB97 CHEROKEE SMALL LETTER: QUE, QUI, QUO, QUU, QUV, SA, S, SE, SI, SO, SU, SV, DA, TA, DE, TE, DI, TI",
    "ABA9 CHEROKEE SMALL LETTER: DO, DU, DV, DLA, TLA, TLE, TLI, TLO, TLU, TLV, TSA, TSE, TSI, TSO, TSU, TSV",
    "ABB9 CHEROKEE SMALL LETTER: WA, WE, WI, WO, WU, WV, YA",
    "ABC0 MEETEI MAYEK LETTER: KOK, SAM, LAI, MIT, PA, NA, CHIL, TIL, KHOU, NGOU, THOU, WAI, YANG, HUK, UN, I",
    "ABD0 MEETEI MAYEK LETTER: PHAM, ATIYA, GOK, JHAM, RAI, BA, JIL, DIL, GHOU, DHOU, BHAM, KOK LONSUM",
    "ABDC MEETEI MAYEK LETTER: LAI LONSUM, MIT LONSUM, PA LONSUM, NA LONSUM, TIL LONSUM, NGOU LONSUM",
    "ABE2 MEETEI MAYEK LETTER: I LONSUM",
    "ABE3 MEETEI MAYEK VOWEL SIGN: ONAP, INAP, ANAP, YENAP, SOUNAP, UNAP, CHEINAP, NUNG",
    "ABEB MEETEI MAYEK: CHEIKHEI, LUM IYEK, APUN IYEK",
    "ABF0 MEETEI MAYEK DIGIT: ZERO, ONE, TWO, THREE, FOUR, FIVE, SIX, SEVEN, EIGHT, NINE",
    "D7B0 HANGUL JUNGSEONG: O-YEO, O-O-I, YO-A, YO-AE, YO-EO, U-YEO, U-I-I, YU-AE, YU-O, EU-A, EU-EO, EU-E",
    "D7BC HANGUL JUNGSEONG: EU-O, I-YA-O, I-YAE, I-YEO, I-YE, I-O-I, I-YO, I-YU, I-I, ARAEA-A, ARAEA-E",
    "D7CB HANGUL JONGSEONG: NIEUN-RIEUL, NIEUN-CHIEUCH, SSANGTIKEUT, SSANGTIKEUT-PIEUP, TIKEUT-PIEUP",
    "D7D0 HANGUL JONGSEONG: TIKEUT-SIOS, TIKEUT-SIOS-KIYEOK, TIKEUT-CIEUC, TIKEUT-CHIEUCH, TIKEUT-THIEUTH",
    "D7D5 HANGUL JONGSEONG: RIEUL-SSANGKIYEOK, RIEUL-KIYEOK-HIEUH, SSANGRIEUL-KHIEUKH, RIEUL-MIEUM-HIEUH",
    "D7D9 HANGUL JONGSEONG: RIEUL-PIEUP-TIKEUT, RIEUL-PIEUP-PHIEUPH, RIEUL-YESIEUNG, RIEUL-YEORINHIEUH-HIEUH",
    "D7DD HANGUL JONGSEONG: KAPYEOUNRIEUL, MIEUM-NIEUN, MIEUM-SSANGNIEUN, SSANGMIEUM, MIEUM-PIEUP-SIOS",
    "D7E2 HANGUL JONGSEONG: MIEUM-CIEUC, PIEUP-TIKEUT, PIEUP-RIEUL-PHIEUPH, PIEUP-MIEUM, SSANGPIEUP",
    "D7E7 HANGUL JONGSEONG: PIEUP-SIOS-TIKEUT, PIEUP-CIEUC, PIEUP-CHIEUCH, SIOS-MIEUM, SIOS-KAPYEOUNPIEUP",
    "D7EC HANGUL JONGSEONG: SSANGSIOS-KIYEOK, SSANGSIOS-TIKEUT, SIOS-PANSIOS, SIOS-CIEUC, SIOS-CHIEUCH",
    "D7F1 HANGUL JONGSEONG: SIOS-THIEUTH, SIOS-HIEUH, PANSIOS-PIEUP, PANSIOS-KAPYEOUNPIEUP, YESIEUNG-MIEUM",
    "D7F6 HANGUL JONGSEONG: YESIEUNG-HIEUH, CIEUC-PIEUP, CIEUC-SSANGPIEUP, SSANGCIEUC, PHIEUPH-SIOS",
    "D7FB HANGUL JONGSEONG: PHIEUPH-THIEUTH; FB00 LATIN SMALL LIGATURE: FF, FI, FL, FFI, FFL, LONG S T, ST",
    "FB13 ARMENIAN SMALL LIGATURE: MEN NOW, MEN ECH, MEN INI, VEW NOW, MEN XEH",
    "FB1D HEBREW: LETTER YOD WITH HIRIQ, POINT JUDEO-SPANISH VARIKA, LIGATURE YIDDISH YOD YOD PATAH",
    "FB20 HEBREW: LETTER ALTERNATIVE AYIN",
    "FB21 HEBREW LETTER WIDE: ALEF, DALET, HE, KAF, LAMED, FINAL MEM, RESH, TAV",
    "FB29 HEBREW LETTER: ALTERNATIVE PLUS SIGN, SHIN WITH SHIN DOT, SHIN WITH SIN DOT",
    "FB2C HEBREW LETTER: SHIN WITH DAGESH AND SHIN DOT, SHIN WITH DAGESH AND SIN DOT, ALEF WITH PATAH",
    "FB2F HEBREW LETTER: ALEF WITH QAMATS, ALEF WITH MAPIQ, BET WITH DAGESH, GIMEL WITH DAGESH",
    "FB33 HEBREW LETTER: DALET WITH DAGESH, HE WITH MAPIQ, VAV WITH DAGESH, ZAYIN WITH DAGESH",
    "FB38 HEBREW LETTER: TET WITH DAGESH, YOD WITH DAGESH, FINAL KAF WITH DAGESH, KAF WITH DAGESH",
    "FB3C HEBREW LETTER: LAMED WITH DAGESH; FB3E HEBREW LETTER MEM WITH: DAGESH",
    "FB40 HEBREW LETTER: NUN WITH DAGESH, SAMEKH WITH DAGESH",
    "FB43 HEBREW LETTER: FINAL PE WITH DAGESH, PE WITH DAGESH",
    "FB46 HEBREW LETTER: TSADI WITH DAGESH, QOF WITH DAGESH, RESH WITH DAGESH, SHIN WITH DAGESH",
    "FB4A HEBREW LETTER: TAV WITH DAGESH, VAV WITH HOLAM, BET WITH RAFE, KAF WITH RAFE, PE WITH RAFE",
    "FB4F HEBREW LIGATURE ALEF: LAMED",
    "FB50 ARABIC LETTER: ALEF WASLA ISOLATED FORM, ALEF WASLA FINAL FORM, BEEH ISOLATED FORM, BEEH FINAL FORM",
    "FB54 ARABIC LETTER: BEEH INITIAL FORM, BEEH MEDIAL FORM, PEH ISOLATED FORM, PEH FINAL FORM",
    "FB58 ARABIC LETTER: PEH INITIAL FORM, PEH MEDIAL FORM, BEHEH ISOLATED FORM, BEHEH FINAL FORM",
    "FB5C ARABIC LETTER: BEHEH INITIAL FORM, BEHEH MEDIAL FORM, TTEHEH ISOLATED FORM, TTEHEH FINAL FORM",
    "FB60 ARABIC LETTER: TTEHEH INITIAL FORM, TTEHEH MEDIAL FORM, TEHEH ISOLATED FORM, TEHEH FINAL FORM",
    "FB64 ARABIC LETTER: TEHEH INITIAL FORM, TEHEH MEDIAL FORM, TTEH ISOLATED FORM, TTEH FINAL FORM",
    "FB68 ARABIC LETTER: TTEH INITIAL FORM, TTEH MEDIAL FORM, VEH ISOLATED FORM, VEH FINAL FORM",
    "FB6C ARABIC LETTER: VEH INITIAL FORM, VEH MEDIAL FORM, PEHEH ISOLATED FORM, PEHEH FINAL FORM",
    "FB70 ARABIC LETTER: PEHEH INITIAL FORM, PEHEH MEDIAL FORM, DYEH ISOLATED FORM, DYEH FINAL FORM",
    "FB74 ARABIC LETTER: DYEH INITIAL FORM, DYEH MEDIAL FORM, NYEH ISOLATED FORM, NYEH FINAL FORM",
    "FB78 ARABIC LETTER: NYEH INITIAL FORM, NYEH MEDIAL FORM, TCHEH ISOLATED FORM, TCHEH FINAL FORM",
    "FB7C ARABIC LETTER: TCHEH INITIAL FORM, TCHEH MEDIAL FORM, TCHEHEH ISOLATED FORM, TCHEHEH FINAL FORM",
    "FB80 ARABIC LETTER: TCHEHEH INITIAL FORM, TCHEHEH MEDIAL FORM, DDAHAL ISOLATED FORM, DDAHAL FINAL FORM",
    "FB84 ARABIC LETTER: DAHAL ISOLATED FORM, DAHAL FINAL FORM, DUL ISOLATED FORM, DUL FINAL FORM",
    "FB88 ARABIC LETTER: DDAL ISOLATED FORM, DDAL FINAL FORM, JEH ISOLATED FORM, JEH FINAL FORM",
    "FB8C ARABIC LETTER: RREH ISOLATED FORM, RREH FINAL FORM, KEHEH ISOLATED FORM, KEHEH FINAL FORM",
    "FB90 ARABIC LETTER: KEHEH INITIAL FORM, KEHEH MEDIAL FORM, GAF ISOLATED FORM, GAF FINAL FORM",
    "FB94 ARABIC LETTER: GAF INITIAL FORM, GAF MEDIAL FORM, GUEH ISOLATED FORM, GUEH FINAL FORM",
    "FB98 ARABIC LETTER: GUEH INITIAL FORM, GUEH MEDIAL FORM, NGOEH ISOLATED FORM, NGOEH FINAL FORM",
    "FB9C ARABIC LETTER: NGOEH INITIAL FORM, NGOEH MEDIAL FORM, NOON GHUNNA ISOLATED FORM",
    "FB9F ARABIC LETTER: NOON GHUNNA FINAL FORM, RNOON ISOLATED FORM, RNOON FINAL FORM, RNOON INITIAL FORM",
    "FBA3 ARABIC LETTER: RNOON MEDIAL FORM, HEH WITH YEH ABOVE ISOLATED FORM, HEH WITH YEH ABOVE FINAL FORM",
    "FBA6 ARABIC LETTER HEH GOAL: ISOLATED FORM, FINAL FORM, INITIAL FORM, MEDIAL FORM",
    "FBAA ARABIC LETTER HEH DOACHASHMEE: ISOLATED FORM, FINAL FORM, INITIAL FORM, MEDIAL FORM",
    "FBAE ARABIC LETTER YEH BARREE: ISOLATED FORM, FINAL FORM, WITH HAMZA ABOVE ISOLATED FORM",
    "FBB1 ARABIC LETTER YEH BARREE: WITH HAMZA ABOVE FINAL FORM",
    "FBB2 ARABIC SYMBOL: DOT ABOVE, DOT BELOW, TWO DOTS ABOVE, TWO DOTS BELOW, THREE DOTS ABOVE",
    "FBB7 ARABIC SYMBOL: THREE DOTS BELOW, THREE DOTS POINTING DOWNWARDS ABOVE",
    "FBB9 ARABIC SYMBOL: THREE DOTS POINTING DOWNWARDS BELOW, FOUR DOTS ABOVE, FOUR DOTS BELOW",
    "FBBC ARABIC SYMBOL: DOUBLE VERTICAL BAR BELOW, TWO DOTS VERTICALLY ABOVE, TWO DOTS VERTICALLY BELOW",
    "FBBF ARABIC SYMBOL: RING, SMALL TAH ABOVE, SMALL TAH BELOW, WASLA ABOVE",
    "FBD3 ARABIC LETTER: NG ISOLATED FORM, NG FINAL FORM, NG INITIAL FORM, NG MEDIAL FORM, U ISOLATED FORM",
    "FBD8 ARABIC LETTER: U FINAL FORM, OE ISOLATED FORM, OE FINAL FORM, YU ISOLATED FORM, YU FINAL FORM",
    "FBDD ARABIC LETTER: U WITH HAMZA ABOVE ISOLATED FORM, VE ISOLATED FORM, VE FINAL FORM",
    "FBE0 ARABIC LETTER: KIRGHIZ OE ISOLATED FORM, KIRGHIZ OE FINAL FORM, KIRGHIZ YU ISOLATED FORM",
    "FBE3 ARABIC LETTER: KIRGHIZ YU FINAL FORM, E ISOLATED FORM, E FINAL FORM, E INITIAL FORM, E MEDIAL FORM",
    "FBE8 ARABIC LETTER UIGHUR KAZAKH KIRGHIZ ALEF MAKSURA: INITIAL FORM, MEDIAL FORM",
    "FBEA ARABIC LIGATURE YEH WITH HAMZA ABOVE WITH: ALEF ISOLATED FORM, ALEF FINAL FORM, AE ISOLATED FORM",
    "FBED ARABIC LIGATURE YEH WITH HAMZA ABOVE WITH: AE FINAL FORM, WAW ISOLATED FORM, WAW FINAL FORM",
    "FBF0 ARABIC LIGATURE YEH WITH HAMZA ABOVE WITH: U ISOLATED FORM, U FINAL FORM, OE ISOLATED FORM",
    "FBF3 ARABIC LIGATURE YEH WITH HAMZA ABOVE WITH: OE FINAL FORM, YU ISOLATED FORM, YU FINAL FORM",
    "FBF6 ARABIC LIGATURE YEH WITH HAMZA ABOVE WITH: E ISOLATED FORM, E FINAL FORM, E INITIAL FORM",
    "FBF9 ARABIC LIGATURE UIGHUR KIRGHIZ YEH WITH HAMZA ABOVE WITH ALEF MAKSURA: ISOLATED FORM, FINAL FORM",
    "FBFB ARABIC LIGATURE UIGHUR KIRGHIZ YEH WITH HAMZA ABOVE WITH ALEF MAKSURA: INITIAL FORM",
    "FBFC ARABIC LETTER FARSI YEH: ISOLATED FORM, FINAL FORM, INITIAL FORM, MEDIAL FORM",
    "FC00 ARABIC LIGATURE YEH WITH HAMZA ABOVE WITH: JEEM ISOLATED FORM, HAH ISOLATED FORM",
    "FC02 ARABIC LIGATURE YEH WITH HAMZA ABOVE WITH: MEEM ISOLATED FORM, ALEF MAKSURA ISOLATED FORM",
    "FC04 ARABIC LIGATURE YEH WITH HAMZA ABOVE WITH: YEH ISOLATED FORM",
    "FC05 ARABIC LIGATURE BEH WITH: JEEM ISOLATED FORM, HAH ISOLATED FORM, KHAH ISOLATED FORM",
    "FC08 ARABIC LIGATURE BEH WITH: MEEM ISOLATED FORM, ALEF MAKSURA ISOLATED FORM, YEH ISOLATED FORM",
    "FC0B ARABIC LIGATURE TEH WITH: JEEM ISOLATED FORM, HAH ISOLATED FORM, KHAH ISOLATED FORM",
    "FC0E ARABIC LIGATURE TEH WITH: MEEM ISOLATED FORM, ALEF MAKSURA ISOLATED FORM, YEH ISOLATED FORM",
    "FC11 ARABIC LIGATURE THEH WITH: JEEM ISOLATED FORM, MEEM ISOLATED FORM, ALEF MAKSURA ISOLATED FORM",
    "FC14 ARABIC LIGATURE THEH WITH: YEH ISOLATED FORM",
    "FC15 ARABIC LIGATURE: JEEM WITH HAH ISOLATED FORM, JEEM WITH MEEM ISOLATED FORM",
    "FC17 ARABIC LIGATURE: HAH WITH JEEM ISOLATED FORM, HAH WITH MEEM ISOLATED FORM",
    "FC19 ARABIC LIGATURE: KHAH WITH JEEM ISOLATED FORM, KHAH WITH HAH ISOLATED FORM",
    "FC1B ARABIC LIGATURE: KHAH WITH MEEM ISOLATED FORM, SEEN WITH JEEM ISOLATED FORM",
    "FC1D ARABIC LIGATURE: SEEN WITH HAH ISOLATED FORM, SEEN WITH KHAH ISOLATED FORM",
    "FC1F ARABIC LIGATURE: SEEN WITH MEEM ISOLATED FORM, SAD WITH HAH ISOLATED FORM",
    "FC21 ARABIC LIGATURE: SAD WITH MEEM ISOLATED FORM, DAD WITH JEEM ISOLATED FORM",
    "FC23 ARABIC LIGATURE: DAD WITH HAH ISOLATED FORM, DAD WITH KHAH ISOLATED FORM",
    "FC25 ARABIC LIGATURE: DAD WITH MEEM ISOLATED FORM, TAH WITH HAH ISOLATED FORM",
    "FC27 ARABIC LIGATURE: TAH WITH MEEM ISOLATED FORM, ZAH WITH MEEM ISOLATED FORM",
    "FC29 ARABIC LIGATURE: AIN WITH JEEM ISOLATED FORM, AIN WITH MEEM ISOLATED FORM",
    "FC2B ARABIC LIGATURE: GHAIN WITH JEEM ISOLATED FORM, GHAIN WITH MEEM ISOLATED FORM",
    "FC2D ARABIC LIGATURE FEH WITH: JEEM ISOLATED FORM, HAH ISOLATED FORM, KHAH ISOLATED FORM",
    "FC30 ARABIC LIGATURE FEH WITH: MEEM ISOLATED FORM, ALEF MAKSURA ISOLATED FORM, YEH ISOLATED FORM",
    "FC33 ARABIC LIGATURE QAF WITH: HAH ISOLATED FORM, MEEM ISOLATED FORM, ALEF MAKSURA ISOLATED FORM",
    "FC36 ARABIC LIGATURE QAF WITH: YEH ISOLATED FORM",
    "FC37 ARABIC LIGATURE KAF WITH: ALEF ISOLATED FORM, JEEM ISOLATED FORM, HAH ISOLATED FORM",
    "FC3A ARABIC LIGATURE KAF WITH: KHAH ISOLATED FORM, LAM ISOLATED FORM, MEEM ISOLATED FORM",
    "FC3D ARABIC LIGATURE KAF WITH: ALEF MAKSURA ISOLATED FORM, YEH ISOLATED FORM",
    "FC3F ARABIC LIGATURE LAM WITH: JEEM ISOLATED FORM, HAH ISOLATED FORM, KHAH ISOLATED FORM",
    "FC42 ARABIC LIGATURE LAM WITH: MEEM ISOLATED FORM, ALEF MAKSURA ISOLATED FORM, YEH ISOLATED FORM",
    "FC45 ARABIC LIGATURE MEEM WITH: JEEM ISOLATED FORM, HAH ISOLATED FORM, KHAH ISOLATED FORM",
    "FC48 ARABIC LIGATURE MEEM WITH: MEEM ISOLATED FORM, ALEF MAKSURA ISOLATED FORM, YEH ISOLATED FORM",
    "FC4B ARABIC LIGATURE NOON WITH: JEEM ISOLATED FORM, HAH ISOLATED FORM, KHAH ISOLATED FORM",
    "FC4E ARABIC LIGATURE NOON WITH: MEEM ISOLATED FORM, ALEF MAKSURA ISOLATED FORM, YEH ISOLATED FORM",
    "FC51 ARABIC LIGATURE HEH WITH: JEEM ISOLATED FORM, MEEM ISOLATED FORM, ALEF MAKSURA ISOLATED FORM",
    "FC54 ARABIC LIGATURE HEH WITH: YEH ISOLATED FORM",
    "FC55 ARABIC LIGATURE YEH WITH: JEEM ISOLATED FORM, HAH ISOLATED FORM, KHAH ISOLATED FORM",
    "FC58 ARABIC LIGATURE YEH WITH: MEEM ISOLATED FORM, ALEF MAKSURA ISOLATED FORM, YEH ISOLATED FORM",
    "FC5B ARABIC LIGATURE: THAL WITH SUPERSCRIPT ALEF ISOLATED FORM, REH WITH SUPERSCRIPT ALEF ISOLATED FORM",
    "FC5D ARABIC LIGATURE: ALEF MAKSURA WITH SUPERSCRIPT ALEF ISOLATED FORM",
    "FC5E ARABIC LIGATURE SHADDA WITH: DAMMATAN ISOLATED FORM, KASRATAN ISOLATED FORM, FATHA ISOLATED FORM",
    "FC61 ARABIC LIGATURE SHADDA WITH: DAMMA ISOLATED FORM, KASRA ISOLATED FORM",
    "FC63 ARABIC LIGATURE SHADDA WITH: SUPERSCRIPT ALEF ISOLATED FORM",
    "FC64 ARABIC LIGATURE YEH WITH HAMZA ABOVE WITH: REH FINAL FORM, ZAIN FINAL FORM, MEEM FINAL FORM",
    "FC67 ARABIC LIGATURE YEH WITH HAMZA ABOVE WITH: NOON FINAL FORM, ALEF MAKSURA FINAL FORM, YEH FINAL FORM",
    "FC6A ARABIC LIGATURE BEH WITH: REH FINAL FORM, ZAIN FINAL FORM, MEEM FINAL FORM, NOON FINAL FORM",
    "FC6E ARABIC LIGATURE BEH WITH: ALEF MAKSURA FINAL FORM, YEH FINAL FORM",
    "FC70 ARABIC LIGATURE TEH WITH: REH FINAL FORM, ZAIN FINAL FORM, MEEM FINAL FORM, NOON FINAL FORM",
    "FC74 ARABIC LIGATURE TEH WITH: ALEF MAKSURA FINAL FORM, YEH FINAL FORM",
    "FC76 ARABIC LIGATURE THEH WITH: REH FINAL FORM, ZAIN FINAL FORM, MEEM FINAL FORM, NOON FINAL FORM",
    "FC7A ARABIC LIGATURE THEH WITH: ALEF MAKSURA FINAL FORM, YEH FINAL FORM",
    "FC7C ARABIC LIGATURE: FEH WITH ALEF MAKSURA FINAL FORM, FEH WITH YEH FINAL FORM",
    "FC7E ARABIC LIGATURE: QAF WITH ALEF MAKSURA FINAL FORM, QAF WITH YEH FINAL FORM",
    "FC80 ARABIC LIGATURE: KAF WITH ALEF FINAL FORM, KAF WITH LAM FINAL FORM, KAF WITH MEEM FINAL FORM",
    "FC83 ARABIC LIGATURE: KAF WITH ALEF MAKSURA FINAL FORM, KAF WITH YEH FINAL FORM",
    "FC85 ARABIC LIGATURE: LAM WITH MEEM FINAL FORM, LAM WITH ALEF MAKSURA FINAL FORM",
    "FC87 ARABIC LIGATURE: LAM WITH YEH FINAL FORM, MEEM WITH ALEF FINAL FORM, MEEM WITH MEEM FINAL FORM",
    "FC8A ARABIC LIGATURE NOON WITH: REH FINAL FORM, ZAIN FINAL FORM, MEEM FINAL FORM, NOON FINAL FORM",
    "FC8E ARABIC LIGATURE NOON WITH: ALEF MAKSURA FINAL FORM, YEH FINAL FORM",
    "FC90 ARABIC LIGATURE ALEF MAKSURA WITH SUPERSCRIPT ALEF FINAL: FORM",
    "FC91 ARABIC LIGATURE YEH WITH: REH FINAL FORM, ZAIN FINAL FORM, MEEM FINAL FORM, NOON FINAL FORM",
    "FC95 ARABIC LIGATURE YEH WITH: ALEF MAKSURA FINAL FORM, YEH FINAL FORM",
    "FC97 ARABIC LIGATURE YEH WITH HAMZA ABOVE WITH: JEEM INITIAL FORM, HAH INITIAL FORM, KHAH INITIAL FORM",
    "FC9A ARABIC LIGATURE YEH WITH HAMZA ABOVE WITH: MEEM INITIAL FORM, HEH INITIAL FORM",
    "FC9C ARABIC LIGATURE BEH WITH: JEEM INITIAL FORM, HAH INITIAL FORM, KHAH INITIAL FORM, MEEM INITIAL FORM",
    "FCA0 ARABIC LIGATURE BEH WITH: HEH INITIAL FORM",
    "FCA1 ARABIC LIGATURE TEH WITH: JEEM INITIAL FORM, HAH INITIAL FORM, KHAH INITIAL FORM, MEEM INITIAL FORM",
    "FCA5 ARABIC LIGATURE TEH WITH: HEH INITIAL FORM",
    "FCA6 ARABIC LIGATURE: THEH WITH MEEM INITIAL FORM, JEEM WITH HAH INITIAL FORM",
    "FCA8 ARABIC LIGATURE: JEEM WITH MEEM INITIAL FORM, HAH WITH JEEM INITIAL FORM",
    "FCAA ARABIC LIGATURE: HAH WITH MEEM INITIAL FORM, KHAH WITH JEEM INITIAL FORM",
    "FCAC ARABIC LIGATURE: KHAH WITH MEEM INITIAL FORM, SEEN WITH JEEM INITIAL FORM",
    "FCAE ARABIC LIGATURE: SEEN WITH HAH INITIAL FORM, SEEN WITH KHAH INITIAL FORM",
    "FCB0 ARABIC LIGATURE: SEEN WITH MEEM INITIAL FORM, SAD WITH HAH INITIAL FORM, SAD WITH KHAH INITIAL FORM",
    "FCB3 ARABIC LIGATURE: SAD WITH MEEM INITIAL FORM, DAD WITH JEEM INITIAL FORM, DAD WITH HAH INITIAL FORM",
    "FCB6 ARABIC LIGATURE: DAD WITH KHAH INITIAL FORM, DAD WITH MEEM INITIAL FORM, TAH WITH HAH INITIAL FORM",
    "FCB9 ARABIC LIGATURE: ZAH WITH MEEM INITIAL FORM, AIN WITH JEEM INITIAL FORM, AIN WITH MEEM INITIAL FORM",
    "FCBC ARABIC LIGATURE: GHAIN WITH JEEM INITIAL FORM, GHAIN WITH MEEM INITIAL FORM",
    "FCBE ARABIC LIGATURE: FEH WITH JEEM INITIAL FORM, FEH WITH HAH INITIAL FORM, FEH WITH KHAH INITIAL FORM",
    "FCC1 ARABIC LIGATURE: FEH WITH MEEM INITIAL FORM, QAF WITH HAH INITIAL FORM, QAF WITH MEEM INITIAL FORM",
    "FCC4 ARABIC LIGATURE KAF WITH: JEEM INITIAL FORM, HAH INITIAL FORM, KHAH INITIAL FORM, LAM INITIAL FORM",
    "FCC8 ARABIC LIGATURE KAF WITH: MEEM INITIAL FORM",
    "FCC9 ARABIC LIGATURE LAM WITH: JEEM INITIAL FORM, HAH INITIAL FORM, KHAH INITIAL FORM, MEEM INITIAL FORM",
    "FCCD ARABIC LIGATURE LAM WITH: HEH INITIAL FORM",
    "FCCE ARABIC LIGATURE MEEM WITH: JEEM INITIAL FORM, HAH INITIAL FORM, KHAH INITIAL FORM",
    "FCD1 ARABIC LIGATURE MEEM WITH: MEEM INITIAL FORM",
    "FCD2 ARABIC LIGATURE NOON WITH: JEEM INITIAL FORM, HAH INITIAL FORM, KHAH INITIAL FORM",
    "FCD5 ARABIC LIGATURE NOON WITH: MEEM INITIAL FORM, HEH INITIAL FORM",
    "FCD7 ARABIC LIGATURE HEH WITH: JEEM INITIAL FORM, MEEM INITIAL FORM, SUPERSCRIPT ALEF INITIAL FORM",
    "FCDA ARABIC LIGATURE YEH WITH: JEEM INITIAL FORM, HAH INITIAL FORM, KHAH INITIAL FORM, MEEM INITIAL FORM",
    "FCDE ARABIC LIGATURE YEH WITH: HEH INITIAL FORM, HAMZA ABOVE WITH MEEM MEDIAL FORM",
    "FCE0 ARABIC LIGATURE YEH WITH: HAMZA ABOVE WITH HEH MEDIAL FORM",
    "FCE1 ARABIC LIGATURE: BEH WITH MEEM MEDIAL FORM, BEH WITH HEH MEDIAL FORM, TEH WITH MEEM MEDIAL FORM",
    "FCE4 ARABIC LIGATURE: TEH WITH HEH MEDIAL FORM, THEH WITH MEEM MEDIAL FORM, THEH WITH HEH MEDIAL FORM",
    "FCE7 ARABIC LIGATURE: SEEN WITH MEEM MEDIAL FORM, SEEN WITH HEH MEDIAL FORM, SHEEN WITH MEEM MEDIAL FORM",
    "FCEA ARABIC LIGATURE: SHEEN WITH HEH MEDIAL FORM, KAF WITH LAM MEDIAL FORM, KAF WITH MEEM MEDIAL FORM",
    "FCED ARABIC LIGATURE: LAM WITH MEEM MEDIAL FORM, NOON WITH MEEM MEDIAL FORM, NOON WITH HEH MEDIAL FORM",
    "FCF0 ARABIC LIGATURE: YEH WITH MEEM MEDIAL FORM, YEH WITH HEH MEDIAL FORM, SHADDA WITH FATHA MEDIAL FORM",
    "FCF3 ARABIC LIGATURE: SHADDA WITH DAMMA MEDIAL FORM, SHADDA WITH KASRA MEDIAL FORM",
    "FCF5 ARABIC LIGATURE: TAH WITH ALEF MAKSURA ISOLATED FORM, TAH WITH YEH ISOLATED FORM",
    "FCF7 ARABIC LIGATURE: AIN WITH ALEF MAKSURA ISOLATED FORM, AIN WITH YEH ISOLATED FORM",
    "FCF9 ARABIC LIGATURE: GHAIN WITH ALEF MAKSURA ISOLATED FORM, GHAIN WITH YEH ISOLATED FORM",
    "FCFB ARABIC LIGATURE: SEEN WITH ALEF MAKSURA ISOLATED FORM, SEEN WITH YEH ISOLATED FORM",
    "FCFD ARABIC LIGATURE: SHEEN WITH ALEF MAKSURA ISOLATED FORM, SHEEN WITH YEH ISOLATED FORM",
    "FCFF ARABIC LIGATURE: HAH WITH ALEF MAKSURA ISOLATED FORM, HAH WITH YEH ISOLATED FORM",
    "FD01 ARABIC LIGATURE: JEEM WITH ALEF MAKSURA ISOLATED FORM, JEEM WITH YEH ISOLATED FORM",
    "FD03 ARABIC LIGATURE: KHAH WITH ALEF MAKSURA ISOLATED FORM, KHAH WITH YEH ISOLATED FORM",
    "FD05 ARABIC LIGATURE: SAD WITH ALEF MAKSURA ISOLATED FORM, SAD WITH YEH ISOLATED FORM",
    "FD07 ARABIC LIGATURE: DAD WITH ALEF MAKSURA ISOLATED FORM, DAD WITH YEH ISOLATED FORM",
    "FD09 ARABIC LIGATURE: SHEEN WITH JEEM ISOLATED FORM, SHEEN WITH HAH ISOLATED FORM",
    "FD0B ARABIC LIGATURE: SHEEN WITH KHAH ISOLATED FORM, SHEEN WITH MEEM ISOLATED FORM",
    "FD0D ARABIC LIGATURE: SHEEN WITH REH ISOLATED FORM, SEEN WITH REH ISOLATED FORM",
    "FD0F ARABIC LIGATURE: SAD WITH REH ISOLATED FORM, DAD WITH REH ISOLATED FORM",
    "FD11 ARABIC LIGATURE: TAH WITH ALEF MAKSURA FINAL FORM, TAH WITH YEH FINAL FORM",
    "FD13 ARABIC LIGATURE: AIN WITH ALEF MAKSURA FINAL FORM, AIN WITH YEH FINAL FORM",
    "FD15 ARABIC LIGATURE: GHAIN WITH ALEF MAKSURA FINAL FORM, GHAIN WITH YEH FINAL FORM",
    "FD17 ARABIC LIGATURE: SEEN WITH ALEF MAKSURA FINAL FORM, SEEN WITH YEH FINAL FORM",
    "FD19 ARABIC LIGATURE: SHEEN WITH ALEF MAKSURA FINAL FORM, SHEEN WITH YEH FINAL FORM",
    "FD1B ARABIC LIGATURE: HAH WITH ALEF MAKSURA FINAL FORM, HAH WITH YEH FINAL FORM",
    "FD1D ARABIC LIGATURE: JEEM WITH ALEF MAKSURA FINAL FORM, JEEM WITH YEH FINAL FORM",
    "FD1F ARABIC LIGATURE: KHAH WITH ALEF MAKSURA FINAL FORM, KHAH WITH YEH FINAL FORM",
    "FD21 ARABIC LIGATURE: SAD WITH ALEF MAKSURA FINAL FORM, SAD WITH YEH FINAL FORM",
    "FD23 ARABIC LIGATURE: DAD WITH ALEF MAKSURA FINAL FORM, DAD WITH YEH FINAL FORM",
    "FD25 ARABIC LIGATURE: SHEEN WITH JEEM FINAL FORM, SHEEN WITH HAH FINAL FORM, SHEEN WITH KHAH FINAL FORM",
    "FD28 ARABIC LIGATURE: SHEEN WITH MEEM FINAL FORM, SHEEN WITH REH FINAL FORM, SEEN WITH REH FINAL FORM",
    "FD2B ARABIC LIGATURE: SAD WITH REH FINAL FORM, DAD WITH REH FINAL FORM, SHEEN WITH JEEM INITIAL FORM",
    "FD2E ARABIC LIGATURE: SHEEN WITH HAH INITIAL FORM, SHEEN WITH KHAH INITIAL FORM",
    "FD30 ARABIC LIGATURE: SHEEN WITH MEEM INITIAL FORM, SEEN WITH HEH INITIAL FORM",
    "FD32 ARABIC LIGATURE: SHEEN WITH HEH INITIAL FORM, TAH WITH MEEM INITIAL FORM",
    "FD34 ARABIC LIGATURE: SEEN WITH JEEM MEDIAL FORM, SEEN WITH HAH MEDIAL FORM, SEEN WITH KHAH MEDIAL FORM",
    "FD37 ARABIC LIGATURE: SHEEN WITH JEEM MEDIAL FORM, SHEEN WITH HAH MEDIAL FORM",
    "FD39 ARABIC LIGATURE: SHEEN WITH KHAH MEDIAL FORM, TAH WITH MEEM MEDIAL FORM, ZAH WITH MEEM MEDIAL FORM",
    "FD3C ARABIC LIGATURE: ALEF WITH FATHATAN FINAL FORM, ALEF WITH FATHATAN ISOLATED FORM",
    "FD3E ORNATE: LEFT PARENTHESIS, RIGHT PARENTHESIS; FD40 ARABIC LIGATURE RAHIMAHU: ALLAAH",
    "FD41 ARABIC LIGATURE RADI ALLAAHU: ANH, ANHAA, ANHUM, ANHUMAA, ANHUNNA",
    "FD46 ARABIC LIGATURE: SALLALLAAHU ALAYHI WA-AALIH, ALAYHI AS-SALAAM, ALAYHIM AS-SALAAM",
    "FD49 ARABIC LIGATURE: ALAYHIMAA AS-SALAAM, ALAYHI AS-SALAATU WAS-SALAAM, QUDDISA SIRRAH",
    "FD4C ARABIC LIGATURE: SALLALLAHU ALAYHI WAAALIHEE WA-SALLAM, ALAYHAA AS-SALAAM, TABAARAKA WA-TAAALAA",
    "FD4F ARABIC LIGATURE: RAHIMAHUM ALLAAH",
    "FD50 ARABIC LIGATURE TEH WITH: JEEM WITH MEEM INITIAL FORM, HAH WITH JEEM FINAL FORM",
    "FD52 ARABIC LIGATURE TEH WITH: HAH WITH JEEM INITIAL FORM, HAH WITH MEEM INITIAL FORM",
    "FD54 ARABIC LIGATURE TEH WITH: KHAH WITH MEEM INITIAL FORM, MEEM WITH JEEM INITIAL FORM",
    "FD56 ARABIC LIGATURE TEH WITH: MEEM WITH HAH INITIAL FORM, MEEM WITH KHAH INITIAL FORM",
    "FD58 ARABIC LIGATURE JEEM WITH MEEM WITH HAH: FINAL FORM, INITIAL FORM",
    "FD5A ARABIC LIGATURE HAH WITH MEEM WITH: YEH FINAL FORM, ALEF MAKSURA FINAL FORM",
    "FD5C ARABIC LIGATURE SEEN WITH: HAH WITH JEEM INITIAL FORM, JEEM WITH HAH INITIAL FORM",
    "FD5E ARABIC LIGATURE SEEN WITH: JEEM WITH ALEF MAKSURA FINAL FORM",
    "FD5F ARABIC LIGATURE SEEN WITH MEEM WITH: HAH FINAL FORM, HAH INITIAL FORM, JEEM INITIAL FORM",
    "FD62 ARABIC LIGATURE SEEN WITH MEEM WITH: MEEM FINAL FORM, MEEM INITIAL FORM",
    "FD64 ARABIC LIGATURE SAD WITH: HAH WITH HAH FINAL FORM, HAH WITH HAH INITIAL FORM",
    "FD66 ARABIC LIGATURE SAD WITH: MEEM WITH MEEM FINAL FORM",
    "FD67 ARABIC LIGATURE SHEEN WITH: HAH WITH MEEM FINAL FORM, HAH WITH MEEM INITIAL FORM",
    "FD69 ARABIC LIGATURE SHEEN WITH: JEEM WITH YEH FINAL FORM, MEEM WITH KHAH FINAL FORM",
    "FD6B ARABIC LIGATURE SHEEN WITH: MEEM WITH KHAH INITIAL FORM, MEEM WITH MEEM FINAL FORM",
    "FD6D ARABIC LIGATURE SHEEN WITH: MEEM WITH MEEM INITIAL FORM",
    "FD6E ARABIC LIGATURE DAD WITH: HAH WITH ALEF MAKSURA FINAL FORM, KHAH WITH MEEM FINAL FORM",
    "FD70 ARABIC LIGATURE DAD WITH: KHAH WITH MEEM INITIAL FORM",
    "FD71 ARABIC LIGATURE TAH WITH MEEM WITH: HAH FINAL FORM, HAH INITIAL FORM, MEEM INITIAL FORM",
    "FD74 ARABIC LIGATURE TAH WITH MEEM WITH: YEH FINAL FORM",
    "FD75 ARABIC LIGATURE AIN WITH: JEEM WITH MEEM FINAL FORM, MEEM WITH MEEM FINAL FORM",
    "FD77 ARABIC LIGATURE AIN WITH: MEEM WITH MEEM INITIAL FORM, MEEM WITH ALEF MAKSURA FINAL FORM",
    "FD79 ARABIC LIGATURE GHAIN WITH MEEM WITH: MEEM FINAL FORM, YEH FINAL FORM, ALEF MAKSURA FINAL FORM",
    "FD7C ARABIC LIGATURE FEH WITH KHAH WITH MEEM: FINAL FORM, INITIAL FORM",
    "FD7E ARABIC LIGATURE QAF WITH MEEM WITH: HAH FINAL FORM, MEEM FINAL FORM",
    "FD80 ARABIC LIGATURE LAM WITH: HAH WITH MEEM FINAL FORM, HAH WITH YEH FINAL FORM",
    "FD82 ARABIC LIGATURE LAM WITH: HAH WITH ALEF MAKSURA FINAL FORM, JEEM WITH JEEM INITIAL FORM",
    "FD84 ARABIC LIGATURE LAM WITH: JEEM WITH JEEM FINAL FORM, KHAH WITH MEEM FINAL FORM",
    "FD86 ARABIC LIGATURE LAM WITH: KHAH WITH MEEM INITIAL FORM, MEEM WITH HAH FINAL FORM",
    "FD88 ARABIC LIGATURE LAM WITH: MEEM WITH HAH INITIAL FORM",
    "FD89 ARABIC LIGATURE MEEM WITH: HAH WITH JEEM INITIAL FORM, HAH WITH MEEM INITIAL FORM",
    "FD8B ARABIC LIGATURE MEEM WITH: HAH WITH YEH FINAL FORM, JEEM WITH HAH INITIAL FORM",
    "FD8D ARABIC LIGATURE MEEM WITH: JEEM WITH MEEM INITIAL FORM, KHAH WITH JEEM INITIAL FORM",
    "FD8F ARABIC LIGATURE MEEM WITH: KHAH WITH MEEM INITIAL FORM",
    "FD92 ARABIC LIGATURE: MEEM WITH JEEM WITH KHAH INITIAL FORM, HEH WITH MEEM WITH JEEM INITIAL FORM",
    "FD94 ARABIC LIGATURE: HEH WITH MEEM WITH MEEM INITIAL FORM",
    "FD95 ARABIC LIGATURE NOON WITH: HAH WITH MEEM INITIAL FORM, HAH WITH ALEF MAKSURA FINAL FORM",
    "FD97 ARABIC LIGATURE NOON WITH: JEEM WITH MEEM FINAL FORM, JEEM WITH MEEM INITIAL FORM",
    "FD99 ARABIC LIGATURE NOON WITH: JEEM WITH ALEF MAKSURA FINAL FORM, MEEM WITH YEH FINAL FORM",
    "FD9B ARABIC LIGATURE NOON WITH: MEEM WITH ALEF MAKSURA FINAL FORM",
    "FD9C ARABIC LIGATURE YEH WITH MEEM WITH MEEM: FINAL FORM, INITIAL FORM",
    "FD9E ARABIC LIGATURE BEH WITH KHAH WITH YEH FINAL: FORM",
    "FD9F ARABIC LIGATURE TEH WITH: JEEM WITH YEH FINAL FORM, JEEM WITH ALEF MAKSURA FINAL FORM",
    "FDA1 ARABIC LIGATURE TEH WITH: KHAH WITH YEH FINAL FORM, KHAH WITH ALEF MAKSURA FINAL FORM",
    "FDA3 ARABIC LIGATURE TEH WITH: MEEM WITH YEH FINAL FORM, MEEM WITH ALEF MAKSURA FINAL FORM",
    "FDA5 ARABIC LIGATURE: JEEM WITH MEEM WITH YEH FINAL FORM, JEEM WITH HAH WITH ALEF MAKSURA FINAL FORM",
    "FDA7 ARABIC LIGATURE: JEEM WITH MEEM WITH ALEF MAKSURA FINAL FORM",
    "FDA8 ARABIC LIGATURE: SEEN WITH KHAH WITH ALEF MAKSURA FINAL FORM, SAD WITH HAH WITH YEH FINAL FORM",
    "FDAA ARABIC LIGATURE: SHEEN WITH HAH WITH YEH FINAL FORM, DAD WITH HAH WITH YEH FINAL FORM",
    "FDAC ARABIC LIGATURE: LAM WITH JEEM WITH YEH FINAL FORM, LAM WITH MEEM WITH YEH FINAL FORM",
    "FDAE ARABIC LIGATURE: YEH WITH HAH WITH YEH FINAL FORM, YEH WITH JEEM WITH YEH FINAL FORM",
    "FDB0 ARABIC LIGATURE: YEH WITH MEEM WITH YEH FINAL FORM, MEEM WITH MEEM WITH YEH FINAL FORM",
    "FDB2 ARABIC LIGATURE: QAF WITH MEEM WITH YEH FINAL FORM, NOON WITH HAH WITH YEH FINAL FORM",
    "FDB4 ARABIC LIGATURE: QAF WITH MEEM WITH HAH INITIAL FORM, LAM WITH HAH WITH MEEM INITIAL FORM",
    "FDB6 ARABIC LIGATURE: AIN WITH MEEM WITH YEH FINAL FORM, KAF WITH MEEM WITH YEH FINAL FORM",
    "FDB8 ARABIC LIGATURE: NOON WITH JEEM WITH HAH INITIAL FORM, MEEM WITH KHAH WITH YEH FINAL FORM",
    "FDBA ARABIC LIGATURE: LAM WITH JEEM WITH MEEM INITIAL FORM, KAF WITH MEEM WITH MEEM FINAL FORM",
    "FDBC ARABIC LIGATURE: LAM WITH JEEM WITH MEEM FINAL FORM, NOON WITH JEEM WITH HAH FINAL FORM",
    "FDBE ARABIC LIGATURE: JEEM WITH HAH WITH YEH FINAL FORM, HAH WITH JEEM WITH YEH FINAL FORM",
    "FDC0 ARABIC LIGATURE: MEEM WITH JEEM WITH YEH FINAL FORM, FEH WITH MEEM WITH YEH FINAL FORM",
    "FDC2 ARABIC LIGATURE: BEH WITH HAH WITH YEH FINAL FORM, KAF WITH MEEM WITH MEEM INITIAL FORM",
    "FDC4 ARABIC LIGATURE: AIN WITH JEEM WITH MEEM INITIAL FORM, SAD WITH MEEM WITH MEEM INITIAL FORM",
    "FDC6 ARABIC LIGATURE: SEEN WITH KHAH WITH YEH FINAL FORM, NOON WITH JEEM WITH YEH FINAL FORM",
    "FDCF ARABIC LIGATURE SALAAMUHU: ALAYNAA",
    "FDF0 ARABIC LIGATURE: SALLA USED AS KORANIC STOP SIGN ISOLATED FORM",
    "FDF1 ARABIC LIGATURE: QALA USED AS KORANIC STOP SIGN ISOLATED FORM, ALLAH ISOLATED FORM",
    "FDF3 ARABIC LIGATURE: AKBAR ISOLATED FORM, MOHAMMAD ISOLATED FORM, SALAM ISOLATED FORM",
    "FDF6 ARABIC LIGATURE: RASOUL ISOLATED FORM, ALAYHE ISOLATED FORM, WASALLAM ISOLATED FORM",
    "FDF9 ARABIC LIGATURE: SALLA ISOLATED FORM, SALLALLAHOU ALAYHE WASALLAM, JALLAJALALOUHOU; FDFC RIAL: SIGN",
    "FDFD ARABIC LIGATURE: BISMILLAH AR-RAHMAN AR-RAHEEM, SUBHAANAHU WA TAAALAA, AZZA WA JALL",
    "FE00 VARIATION: SELECTOR-1, SELECTOR-2, SELECTOR-3, SELECTOR-4, SELECTOR-5, SELECTOR-6, SELECTOR-7",
    "FE07 VARIATION: SELECTOR-8, SELECTOR-9, SELECTOR-10, SELECTOR-11, SELECTOR-12, SELECTOR-13, SELECTOR-14",
    "FE0E VARIATION: SELECTOR-15, SELECTOR-16",
    "FE10 PRESENTATION FORM FOR VERTICAL: COMMA, IDEOGRAPHIC COMMA, IDEOGRAPHIC FULL STOP, COLON, SEMICOLON",
    "FE15 PRESENTATION FORM FOR VERTICAL: EXCLAMATION MARK, QUESTION MARK, LEFT WHITE LENTICULAR BRACKET",
    "FE18 PRESENTATION FORM FOR VERTICAL: RIGHT WHITE LENTICULAR BRAKCET, HORIZONTAL ELLIPSIS",
    "FE20 COMBINING: LIGATURE LEFT HALF, LIGATURE RIGHT HALF, DOUBLE TILDE LEFT HALF, DOUBLE TILDE RIGHT HALF",
    "FE24 COMBINING: MACRON LEFT HALF, MACRON RIGHT HALF, CONJOINING MACRON, LIGATURE LEFT HALF BELOW",
    "FE28 COMBINING: LIGATURE RIGHT HALF BELOW, TILDE LEFT HALF BELOW, TILDE RIGHT HALF BELOW",
    "FE2B COMBINING: MACRON LEFT HALF BELOW, MACRON RIGHT HALF BELOW, CONJOINING MACRON BELOW",
    "FE2E COMBINING: CYRILLIC TITLO LEFT HALF, CYRILLIC TITLO RIGHT HALF",
    "FE30 PRESENTATION FORM FOR VERTICAL: TWO DOT LEADER, EM DASH, EN DASH, LOW LINE, WAVY LOW LINE",
    "FE35 PRESENTATION FORM FOR VERTICAL: LEFT PARENTHESIS, RIGHT PARENTHESIS, LEFT CURLY BRACKET",
    "FE38 PRESENTATION FORM FOR VERTICAL: RIGHT CURLY BRACKET, LEFT TORTOISE SHELL BRACKET",
    "FE3A PRESENTATION FORM FOR VERTICAL: RIGHT TORTOISE SHELL BRACKET, LEFT BLACK LENTICULAR BRACKET",
    "FE3C PRESENTATION FORM FOR VERTICAL: RIGHT BLACK LENTICULAR BRACKET, LEFT DOUBLE ANGLE BRACKET",
    "FE3E PRESENTATION FORM FOR VERTICAL: RIGHT DOUBLE ANGLE BRACKET, LEFT ANGLE BRACKET, RIGHT ANGLE BRACKET",
    "FE41 PRESENTATION FORM FOR VERTICAL: LEFT CORNER BRACKET, RIGHT CORNER BRACKET",
    "FE43 PRESENTATION FORM FOR VERTICAL: LEFT WHITE CORNER BRACKET, RIGHT WHITE CORNER BRACKET",
    "FE45: SESAME DOT, WHITE SESAME DOT",
    "FE47 PRESENTATION FORM FOR VERTICAL: LEFT SQUARE BRACKET, RIGHT SQUARE BRACKET",
    "FE49: DASHED OVERLINE, CENTRELINE OVERLINE, WAVY OVERLINE, DOUBLE WAVY OVERLINE, DASHED LOW LINE",
    "FE4E: CENTRELINE LOW LINE, WAVY LOW LINE; FE50 SMALL: COMMA, IDEOGRAPHIC COMMA, FULL STOP",
    "FE54 SMALL: SEMICOLON, COLON, QUESTION MARK, EXCLAMATION MARK, EM DASH, LEFT PARENTHESIS",
    "FE5A SMALL: RIGHT PARENTHESIS, LEFT CURLY BRACKET, RIGHT CURLY BRACKET, LEFT TORTOISE SHELL BRACKET",
    "FE5E SMALL: RIGHT TORTOISE SHELL BRACKET, NUMBER SIGN, AMPERSAND, ASTERISK, PLUS SIGN, HYPHEN-MINUS",
    "FE64 SMALL: LESS-THAN SIGN, GREATER-THAN SIGN, EQUALS SIGN",
    "FE68 SMALL: REVERSE SOLIDUS, DOLLAR SIGN, PERCENT SIGN, COMMERCIAL AT",
    "FE70 ARABIC: FATHATAN ISOLATED FORM, TATWEEL WITH FATHATAN ABOVE, DAMMATAN ISOLATED FORM, TAIL FRAGMENT",
    "FE74 ARABIC: KASRATAN ISOLATED FORM",
    "FE76 ARABIC: FATHA ISOLATED FORM, FATHA MEDIAL FORM, DAMMA ISOLATED FORM, DAMMA MEDIAL FORM",
    "FE7A ARABIC: KASRA ISOLATED FORM, KASRA MEDIAL FORM, SHADDA ISOLATED FORM, SHADDA MEDIAL FORM",
    "FE7E ARABIC: SUKUN ISOLATED FORM, SUKUN MEDIAL FORM, LETTER HAMZA ISOLATED FORM",
    "FE81 ARABIC LETTER ALEF WITH: MADDA ABOVE ISOLATED FORM, MADDA ABOVE FINAL FORM",
    "FE83 ARABIC LETTER ALEF WITH: HAMZA ABOVE ISOLATED FORM, HAMZA ABOVE FINAL FORM",
    "FE85 ARABIC LETTER WAW WITH HAMZA ABOVE: ISOLATED FORM, FINAL FORM",
    "FE87 ARABIC LETTER ALEF WITH HAMZA BELOW: ISOLATED FORM, FINAL FORM",
    "FE89 ARABIC LETTER YEH WITH HAMZA ABOVE: ISOLATED FORM, FINAL FORM, INITIAL FORM, MEDIAL FORM",
    "FE8D ARABIC LETTER: ALEF ISOLATED FORM, ALEF FINAL FORM, BEH ISOLATED FORM, BEH FINAL FORM",
    "FE91 ARABIC LETTER: BEH INITIAL FORM, BEH MEDIAL FORM, TEH MARBUTA ISOLATED FORM, TEH MARBUTA FINAL FORM",
    "FE95 ARABIC LETTER: TEH ISOLATED FORM, TEH FINAL FORM, TEH INITIAL FORM, TEH MEDIAL FORM",
    "FE99 ARABIC LETTER: THEH ISOLATED FORM, THEH FINAL FORM, THEH INITIAL FORM, THEH MEDIAL FORM",
    "FE9D ARABIC LETTER: JEEM ISOLATED FORM, JEEM FINAL FORM, JEEM INITIAL FORM, JEEM MEDIAL FORM",
    "FEA1 ARABIC LETTER: HAH ISOLATED FORM, HAH FINAL FORM, HAH INITIAL FORM, HAH MEDIAL FORM",
    "FEA5 ARABIC LETTER: KHAH ISOLATED FORM, KHAH FINAL FORM, KHAH INITIAL FORM, KHAH MEDIAL FORM",
    "FEA9 ARABIC LETTER: DAL ISOLATED FORM, DAL FINAL FORM, THAL ISOLATED FORM, THAL FINAL FORM",
    "FEAD ARABIC LETTER: REH ISOLATED FORM, REH FINAL FORM, ZAIN ISOLATED FORM, ZAIN FINAL FORM",
    "FEB1 ARABIC LETTER: SEEN ISOLATED FORM, SEEN FINAL FORM, SEEN INITIAL FORM, SEEN MEDIAL FORM",
    "FEB5 ARABIC LETTER: SHEEN ISOLATED FORM, SHEEN FINAL FORM, SHEEN INITIAL FORM, SHEEN MEDIAL FORM",
    "FEB9 ARABIC LETTER: SAD ISOLATED FORM, SAD FINAL FORM, SAD INITIAL FORM, SAD MEDIAL FORM",
    "FEBD ARABIC LETTER: DAD ISOLATED FORM, DAD FINAL FORM, DAD INITIAL FORM, DAD MEDIAL FORM",
    "FEC1 ARABIC LETTER: TAH ISOLATED FORM, TAH FINAL FORM, TAH INITIAL FORM, TAH MEDIAL FORM",
    "FEC5 ARABIC LETTER: ZAH ISOLATED FORM, ZAH FINAL FORM, ZAH INITIAL FORM, ZAH MEDIAL FORM",
    "FEC9 ARABIC LETTER: AIN ISOLATED FORM, AIN FINAL FORM, AIN INITIAL FORM, AIN MEDIAL FORM",
    "FECD ARABIC LETTER: GHAIN ISOLATED FORM, GHAIN FINAL FORM, GHAIN INITIAL FORM, GHAIN MEDIAL FORM",
    "FED1 ARABIC LETTER: FEH ISOLATED FORM, FEH FINAL FORM, FEH INITIAL FORM, FEH MEDIAL FORM",
    "FED5 ARABIC LETTER: QAF ISOLATED FORM, QAF FINAL FORM, QAF INITIAL FORM, QAF MEDIAL FORM",
    "FED9 ARABIC LETTER: KAF ISOLATED FORM, KAF FINAL FORM, KAF INITIAL FORM, KAF MEDIAL FORM",
    "FEDD ARABIC LETTER: LAM ISOLATED FORM, LAM FINAL FORM, LAM INITIAL FORM, LAM MEDIAL FORM",
    "FEE1 ARABIC LETTER: MEEM ISOLATED FORM, MEEM FINAL FORM, MEEM INITIAL FORM, MEEM MEDIAL FORM",
    "FEE5 ARABIC LETTER: NOON ISOLATED FORM, NOON FINAL FORM, NOON INITIAL FORM, NOON MEDIAL FORM",
    "FEE9 ARABIC LETTER: HEH ISOLATED FORM, HEH FINAL FORM, HEH INITIAL FORM, HEH MEDIAL FORM",
    "FEED ARABIC LETTER: WAW ISOLATED FORM, WAW FINAL FORM, ALEF MAKSURA ISOLATED FORM",
    "FEF0 ARABIC LETTER: ALEF MAKSURA FINAL FORM, YEH ISOLATED FORM, YEH FINAL FORM, YEH INITIAL FORM",
    "FEF4 ARABIC LETTER: YEH MEDIAL FORM",
    "FEF5 ARABIC LIGATURE LAM WITH ALEF: WITH MADDA ABOVE ISOLATED FORM, WITH MADDA ABOVE FINAL FORM",
    "FEF7 ARABIC LIGATURE LAM WITH ALEF: WITH HAMZA ABOVE ISOLATED FORM, WITH HAMZA ABOVE FINAL FORM",
    "FEF9 ARABIC LIGATURE LAM WITH ALEF: WITH HAMZA BELOW ISOLATED FORM, WITH HAMZA BELOW FINAL FORM",
    "FEFB ARABIC LIGATURE LAM WITH ALEF: ISOLATED FORM, FINAL FORM; FEFF ZERO WIDTH NO-BREAK: SPACE",
    "FF01 FULLWIDTH: EXCLAMATION MARK, QUOTATION MARK, NUMBER SIGN, DOLLAR SIGN, PERCENT SIGN, AMPERSAND",
    "FF07 FULLWIDTH: APOSTROPHE, LEFT PARENTHESIS, RIGHT PARENTHESIS, ASTERISK, PLUS SIGN, COMMA",
    "FF0D FULLWIDTH: HYPHEN-MINUS, FULL STOP, SOLIDUS",
    "FF10 FULLWIDTH DIGIT: ZERO, ONE, TWO, THREE, FOUR, FIVE, SIX, SEVEN, EIGHT, NINE",
    "FF1A FULLWIDTH: COLON, SEMICOLON, LESS-THAN SIGN, EQUALS SIGN, GREATER-THAN SIGN, QUESTION MARK",
    "FF20 FULLWIDTH: COMMERCIAL AT",
    "FF21 FULLWIDTH LATIN CAPITAL LETTER: A, B, C, D, E, F, G, H, I, J, K, L, M, N, O, P, Q, R, S, T, U, V, W",
    "FF38 FULLWIDTH LATIN CAPITAL LETTER: X, Y, Z",
    "FF3B FULLWIDTH: LEFT SQUARE BRACKET, REVERSE SOLIDUS, RIGHT SQUARE BRACKET, CIRCUMFLEX ACCENT, LOW LINE",
    "FF40 FULLWIDTH: GRAVE ACCENT",
    "FF41 FULLWIDTH LATIN SMALL LETTER: A, B, C, D, E, F, G, H, I, J, K, L, M, N, O, P, Q, R, S, T, U, V, W",
    "FF58 FULLWIDTH LATIN SMALL LETTER: X, Y, Z",
    "FF5B FULLWIDTH: LEFT CURLY BRACKET, VERTICAL LINE, RIGHT CURLY BRACKET, TILDE, LEFT WHITE PARENTHESIS",
    "FF60 FULLWIDTH: RIGHT WHITE PARENTHESIS",
    "FF61 HALFWIDTH: IDEOGRAPHIC FULL STOP, LEFT CORNER BRACKET, RIGHT CORNER BRACKET, IDEOGRAPHIC COMMA",
    "FF65 HALFWIDTH: KATAKANA MIDDLE DOT, KATAKANA LETTER WO",
    "FF67 HALFWIDTH KATAKANA LETTER SMALL: A, I, U, E, O, YA, YU, YO, TU",
    "FF70 HALFWIDTH KATAKANA-HIRAGANA PROLONGED SOUND: MARK",
    "FF71 HALFWIDTH KATAKANA LETTER: A, I, U, E, O, KA, KI, KU, KE, KO, SA, SI, SU, SE, SO, TA, TI, TU, TE",
    "FF84 HALFWIDTH KATAKANA LETTER: TO, NA, NI, NU, NE, NO, HA, HI, HU, HE, HO, MA, MI, MU, ME, MO, YA, YU",
    "FF96 HALFWIDTH KATAKANA LETTER: YO, RA, RI, RU, RE, RO, WA, N",
    "FF9E HALFWIDTH: KATAKANA VOICED SOUND MARK, KATAKANA SEMI-VOICED SOUND MARK, HANGUL FILLER",
    "FFA1 HALFWIDTH HANGUL LETTER: KIYEOK, SSANGKIYEOK, KIYEOK-SIOS, NIEUN, NIEUN-CIEUC, NIEUN-HIEUH, TIKEUT",
    "FFA8 HALFWIDTH HANGUL LETTER: SSANGTIKEUT, RIEUL, RIEUL-KIYEOK, RIEUL-MIEUM, RIEUL-PIEUP, RIEUL-SIOS",
    "FFAE HALFWIDTH HANGUL LETTER: RIEUL-THIEUTH, RIEUL-PHIEUPH, RIEUL-HIEUH, MIEUM, PIEUP, SSANGPIEUP",
    "FFB4 HALFWIDTH HANGUL LETTER: PIEUP-SIOS, SIOS, SSANGSIOS, IEUNG, CIEUC, SSANGCIEUC, CHIEUCH, KHIEUKH",
    "FFBC HALFWIDTH HANGUL LETTER: THIEUTH, PHIEUPH, HIEUH",
    "FFC2 HALFWIDTH HANGUL LETTER: A, AE, YA, YAE, EO, E",
    "FFCA HALFWIDTH HANGUL LETTER: YEO, YE, O, WA, WAE, OE",
    "FFD2 HALFWIDTH HANGUL LETTER: YO, U, WEO, WE, WI, YU; FFDA HALFWIDTH HANGUL LETTER: EU, YI, I",
    "FFE0 FULLWIDTH: CENT SIGN, POUND SIGN, NOT SIGN, MACRON, BROKEN BAR, YEN SIGN, WON SIGN",
    "FFE8 HALFWIDTH: FORMS LIGHT VERTICAL, LEFTWARDS ARROW, UPWARDS ARROW, RIGHTWARDS ARROW, DOWNWARDS ARROW",
    "FFED HALFWIDTH: BLACK SQUARE, WHITE CIRCLE; FFF9 INTERLINEAR ANNOTATION: ANCHOR, SEPARATOR, TERMINATOR",
    "FFFC: OBJECT REPLACEMENT CHARACTER, REPLACEMENT CHARACTER"]

end WireBridge.Text
