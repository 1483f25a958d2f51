/-!
# Names of characters: further scripts

Data of Unicode 14, in the rows that `Text.CharacterName` explains.
-/

set_option autoImplicit false

namespace WireBridge.Text

/-- Scripts of South East Asia, Africa and America, and additional letters. -/
def scriptNames : List String :=
  [
    "1000 MYANMAR LETTER: KA, KHA, GA, GHA, NGA, CA, CHA, JA, JHA, NYA, NNYA, TTA, TTHA, DDA, DDHA, NNA, TA",
    "1011 MYANMAR LETTER: THA, DA, DHA, NA, PA, PHA, BA, BHA, MA, YA, RA, LA, WA, SA, HA, LLA, A, SHAN A, I",
    "1024 MYANMAR LETTER: II, U, UU, E, MON E, O, AU",
    "102B MYANMAR VOWEL SIGN: TALL AA, AA, I, II, U, UU, E, AI, MON II, MON O, E ABOVE",
    "1036 MYANMAR SIGN: ANUSVARA, DOT BELOW, VISARGA, VIRAMA, ASAT",
    "103B MYANMAR CONSONANT SIGN MEDIAL: YA, RA, WA, HA; 103F MYANMAR LETTER GREAT: SA",
    "1040 MYANMAR DIGIT: ZERO, ONE, TWO, THREE, FOUR, FIVE, SIX, SEVEN, EIGHT, NINE",
    "104A MYANMAR SIGN: LITTLE SECTION, SECTION",
    "104C MYANMAR SYMBOL: LOCATIVE, COMPLETED, AFOREMENTIONED, GENITIVE; 1050 MYANMAR LETTER: SHA, SSA",
    "1052 MYANMAR LETTER VOCALIC: R, RR, L, LL; 1056 MYANMAR VOWEL SIGN VOCALIC: R, RR, L, LL",
    "105A MYANMAR LETTER MON: NGA, JHA, BBA, BBE; 105E MYANMAR CONSONANT SIGN MON MEDIAL: NA, MA, LA",
    "1061 MYANMAR: LETTER SGAW KAREN SHA, VOWEL SIGN SGAW KAREN EU",
    "1063 MYANMAR TONE MARK SGAW KAREN: HATHI, KE PHO; 1065 MYANMAR LETTER WESTERN PWO KAREN: THA, PWA",
    "1067 MYANMAR VOWEL SIGN WESTERN PWO KAREN: EU, UE",
    "1069 MYANMAR SIGN WESTERN PWO KAREN: TONE-1, TONE-2, TONE-3, TONE-4, TONE-5",
    "106E MYANMAR LETTER EASTERN PWO KAREN: NNA, YWA, GHWA",
    "1071 MYANMAR VOWEL SIGN: GEBA KAREN I, KAYAH OE, KAYAH U, KAYAH EE",
    "1075 MYANMAR LETTER SHAN: KA, KHA, GA, CA, ZA, NYA, DA, NA, PHA, FA, BA, THA, HA",
    "1082 MYANMAR CONSONANT SIGN SHAN MEDIAL: WA; 1083 MYANMAR VOWEL SIGN SHAN: AA, E, E ABOVE, FINAL Y",
    "1087 MYANMAR SIGN SHAN: TONE-2, TONE-3, TONE-5, TONE-6, COUNCIL TONE-2, COUNCIL TONE-3",
    "108D MYANMAR SIGN SHAN: COUNCIL EMPHATIC TONE",
    "108E MYANMAR: LETTER RUMAI PALAUNG FA, SIGN RUMAI PALAUNG TONE-5",
    "1090 MYANMAR SHAN DIGIT: ZERO, ONE, TWO, THREE, FOUR, FIVE, SIX, SEVEN, EIGHT, NINE",
    "109A MYANMAR SIGN KHAMTI: TONE-1, TONE-3; 109C MYANMAR VOWEL SIGN AITON: A, AI",
    "109E MYANMAR SYMBOL SHAN: ONE, EXCLAMATION",
    "10A0 GEORGIAN CAPITAL LETTER: AN, BAN, GAN, DON, EN, VIN, ZEN, TAN, IN, KAN, LAS, MAN, NAR, ON, PAR",
    "10AF GEORGIAN CAPITAL LETTER: ZHAR, RAE, SAN, TAR, UN, PHAR, KHAR, GHAN, QAR, SHIN, CHIN, CAN, JIL, CIL",
    "10BD GEORGIAN CAPITAL LETTER: CHAR, XAN, JHAN, HAE, HE, HIE, WE, HAR, HOE",
    "10C7 GEORGIAN CAPITAL LETTER: YN; 10CD GEORGIAN CAPITAL LETTER: AEN",
    "10D0 GEORGIAN LETTER: AN, BAN, GAN, DON, EN, VIN, ZEN, TAN, IN, KAN, LAS, MAN, NAR, ON, PAR, ZHAR, RAE",
    "10E1 GEORGIAN LETTER: SAN, TAR, UN, PHAR, KHAR, GHAN, QAR, SHIN, CHIN, CAN, JIL, CIL, CHAR, XAN, JHAN",
    "10F0 GEORGIAN LETTER: HAE, HE, HIE, WE, HAR, HOE, FI, YN, ELIFI, TURNED GAN, AIN",
    "10FB: GEORGIAN PARAGRAPH SEPARATOR, MODIFIER LETTER GEORGIAN NAR",
    "10FD GEORGIAN LETTER: AEN, HARD SIGN, LABIAL SIGN",
    "1100 HANGUL CHOSEONG: KIYEOK, SSANGKIYEOK, NIEUN, TIKEUT, SSANGTIKEUT, RIEUL, MIEUM, PIEUP, SSANGPIEUP",
    "1109 HANGUL CHOSEONG: SIOS, SSANGSIOS, IEUNG, CIEUC, SSANGCIEUC, CHIEUCH, KHIEUKH, THIEUTH, PHIEUPH",
    "1112 HANGUL CHOSEONG: HIEUH, NIEUN-KIYEOK, SSANGNIEUN, NIEUN-TIKEUT, NIEUN-PIEUP, TIKEUT-KIYEOK",
    "1118 HANGUL CHOSEONG: RIEUL-NIEUN, SSANGRIEUL, RIEUL-HIEUH, KAPYEOUNRIEUL, MIEUM-PIEUP, KAPYEOUNMIEUM",
    "111E HANGUL CHOSEONG: PIEUP-KIYEOK, PIEUP-NIEUN, PIEUP-TIKEUT, PIEUP-SIOS, PIEUP-SIOS-KIYEOK",
    "1123 HANGUL CHOSEONG: PIEUP-SIOS-TIKEUT, PIEUP-SIOS-PIEUP, PIEUP-SSANGSIOS, PIEUP-SIOS-CIEUC",
    "1127 HANGUL CHOSEONG: PIEUP-CIEUC, PIEUP-CHIEUCH, PIEUP-THIEUTH, PIEUP-PHIEUPH, KAPYEOUNPIEUP",
    "112C HANGUL CHOSEONG: KAPYEOUNSSANGPIEUP, SIOS-KIYEOK, SIOS-NIEUN, SIOS-TIKEUT, SIOS-RIEUL, SIOS-MIEUM",
    "1132 HANGUL CHOSEONG: SIOS-PIEUP, SIOS-PIEUP-KIYEOK, SIOS-SSANGSIOS, SIOS-IEUNG, SIOS-CIEUC",
    "1137 HANGUL CHOSEONG: SIOS-CHIEUCH, SIOS-KHIEUKH, SIOS-THIEUTH, SIOS-PHIEUPH, SIOS-HIEUH, CHITUEUMSIOS",
    "113D HANGUL CHOSEONG: CHITUEUMSSANGSIOS, CEONGCHIEUMSIOS, CEONGCHIEUMSSANGSIOS, PANSIOS, IEUNG-KIYEOK",
    "1142 HANGUL CHOSEONG: IEUNG-TIKEUT, IEUNG-MIEUM, IEUNG-PIEUP, IEUNG-SIOS, IEUNG-PANSIOS, SSANGIEUNG",
    "1148 HANGUL CHOSEONG: IEUNG-CIEUC, IEUNG-CHIEUCH, IEUNG-THIEUTH, IEUNG-PHIEUPH, YESIEUNG, CIEUC-IEUNG",
    "114E HANGUL CHOSEONG: CHITUEUMCIEUC, CHITUEUMSSANGCIEUC, CEONGCHIEUMCIEUC, CEONGCHIEUMSSANGCIEUC",
    "1152 HANGUL CHOSEONG: CHIEUCH-KHIEUKH, CHIEUCH-HIEUH, CHITUEUMCHIEUCH, CEONGCHIEUMCHIEUCH, PHIEUPH-PIEUP",
    "1157 HANGUL CHOSEONG: KAPYEOUNPHIEUPH, SSANGHIEUH, YEORINHIEUH, KIYEOK-TIKEUT, NIEUN-SIOS, NIEUN-CIEUC",
    "115D HANGUL CHOSEONG: NIEUN-HIEUH, TIKEUT-RIEUL, FILLER",
    "1160 HANGUL JUNGSEONG: FILLER, A, AE, YA, YAE, EO, E, YEO, YE, O, WA, WAE, OE, YO, U, WEO, WE, WI, YU",
    "1173 HANGUL JUNGSEONG: EU, YI, I, A-O, A-U, YA-O, YA-YO, EO-O, EO-U, EO-EU, YEO-O, YEO-U, O-EO, O-E",
    "1181 HANGUL JUNGSEONG: O-YE, O-O, O-U, YO-YA, YO-YAE, YO-YEO, YO-O, YO-I, U-A, U-AE, U-EO-EU, U-YE, U-U",
    "118E HANGUL JUNGSEONG: YU-A, YU-EO, YU-E, YU-YEO, YU-YE, YU-U, YU-I, EU-U, EU-EU, YI-U, I-A, I-YA, I-O",
    "119B HANGUL JUNGSEONG: I-U, I-EU, I-ARAEA, ARAEA, ARAEA-EO, ARAEA-U, ARAEA-I, SSANGARAEA, A-EU, YA-U",
    "11A5 HANGUL JUNGSEONG: YEO-YA, O-YA, O-YAE",
    "11A8 HANGUL JONGSEONG: KIYEOK, SSANGKIYEOK, KIYEOK-SIOS, NIEUN, NIEUN-CIEUC, NIEUN-HIEUH, TIKEUT, RIEUL",
    "11B0 HANGUL JONGSEONG: RIEUL-KIYEOK, RIEUL-MIEUM, RIEUL-PIEUP, RIEUL-SIOS, RIEUL-THIEUTH, RIEUL-PHIEUPH",
    "11B6 HANGUL JONGSEONG: RIEUL-HIEUH, MIEUM, PIEUP, PIEUP-SIOS, SIOS, SSANGSIOS, IEUNG, CIEUC, CHIEUCH",
    "11BF HANGUL JONGSEONG: KHIEUKH, THIEUTH, PHIEUPH, HIEUH, KIYEOK-RIEUL, KIYEOK-SIOS-KIYEOK, NIEUN-KIYEOK",
    "11C6 HANGUL JONGSEONG: NIEUN-TIKEUT, NIEUN-SIOS, NIEUN-PANSIOS, NIEUN-THIEUTH, TIKEUT-KIYEOK",
    "11CB HANGUL JONGSEONG: TIKEUT-RIEUL, RIEUL-KIYEOK-SIOS, RIEUL-NIEUN, RIEUL-TIKEUT, RIEUL-TIKEUT-HIEUH",
    "11D0 HANGUL JONGSEONG: SSANGRIEUL, RIEUL-MIEUM-KIYEOK, RIEUL-MIEUM-SIOS, RIEUL-PIEUP-SIOS",
    "11D4 HANGUL JONGSEONG: RIEUL-PIEUP-HIEUH, RIEUL-KAPYEOUNPIEUP, RIEUL-SSANGSIOS, RIEUL-PANSIOS",
    "11D8 HANGUL JONGSEONG: RIEUL-KHIEUKH, RIEUL-YEORINHIEUH, MIEUM-KIYEOK, MIEUM-RIEUL, MIEUM-PIEUP",
    "11DD HANGUL JONGSEONG: MIEUM-SIOS, MIEUM-SSANGSIOS, MIEUM-PANSIOS, MIEUM-CHIEUCH, MIEUM-HIEUH",
    "11E2 HANGUL JONGSEONG: KAPYEOUNMIEUM, PIEUP-RIEUL, PIEUP-PHIEUPH, PIEUP-HIEUH, KAPYEOUNPIEUP",
    "11E7 HANGUL JONGSEONG: SIOS-KIYEOK, SIOS-TIKEUT, SIOS-RIEUL, SIOS-PIEUP, PANSIOS, IEUNG-KIYEOK",
    "11ED HANGUL JONGSEONG: IEUNG-SSANGKIYEOK, SSANGIEUNG, IEUNG-KHIEUKH, YESIEUNG, YESIEUNG-SIOS",
    "11F2 HANGUL JONGSEONG: YESIEUNG-PANSIOS, PHIEUPH-PIEUP, KAPYEOUNPHIEUPH, HIEUH-NIEUN, HIEUH-RIEUL",
    "11F7 HANGUL JONGSEONG: HIEUH-MIEUM, HIEUH-PIEUP, YEORINHIEUH, KIYEOK-NIEUN, KIYEOK-PIEUP, KIYEOK-CHIEUCH",
    "11FD HANGUL JONGSEONG: KIYEOK-KHIEUKH, KIYEOK-HIEUH, SSANGNIEUN",
    "1200 ETHIOPIC SYLLABLE: HA, HU, HI, HAA, HEE, HE, HO, HOA, LA, LU, LI, LAA, LEE, LE, LO, LWA, HHA, HHU",
    "1212 ETHIOPIC SYLLABLE: HHI, HHAA, HHEE, HHE, HHO, HHWA, MA, MU, MI, MAA, MEE, ME, MO, MWA, SZA, SZU",
    "1222 ETHIOPIC SYLLABLE: SZI, SZAA, SZEE, SZE, SZO, SZWA, RA, RU, RI, RAA, REE, RE, RO, RWA, SA, SU, SI",
    "1233 ETHIOPIC SYLLABLE: SAA, SEE, SE, SO, SWA, SHA, SHU, SHI, SHAA, SHEE, SHE, SHO, SHWA, QA, QU, QI",
    "1243 ETHIOPIC SYLLABLE: QAA, QEE, QE, QO, QOA, QWA; 124A ETHIOPIC SYLLABLE: QWI, QWAA, QWEE, QWE",
    "1250 ETHIOPIC SYLLABLE: QHA, QHU, QHI, QHAA, QHEE, QHE, QHO; 1258 ETHIOPIC SYLLABLE: QHWA",
    "125A ETHIOPIC SYLLABLE: QHWI, QHWAA, QHWEE, QHWE",
    "1260 ETHIOPIC SYLLABLE: BA, BU, BI, BAA, BEE, BE, BO, BWA, VA, VU, VI, VAA, VEE, VE, VO, VWA, TA, TU, TI",
    "1273 ETHIOPIC SYLLABLE: TAA, TEE, TE, TO, TWA, CA, CU, CI, CAA, CEE, CE, CO, CWA, XA, XU, XI, XAA, XEE",
    "1285 ETHIOPIC SYLLABLE: XE, XO, XOA, XWA; 128A ETHIOPIC SYLLABLE: XWI, XWAA, XWEE, XWE",
    "1290 ETHIOPIC SYLLABLE: NA, NU, NI, NAA, NEE, NE, NO, NWA, NYA, NYU, NYI, NYAA, NYEE, NYE, NYO, NYWA",
    "12A0 ETHIOPIC SYLLABLE GLOTTAL: A, U, I, AA, EE, E, O, WA",
    "12A8 ETHIOPIC SYLLABLE: KA, KU, KI, KAA, KEE, KE, KO, KOA, KWA",
    "12B2 ETHIOPIC SYLLABLE: KWI, KWAA, KWEE, KWE",
    "12B8 ETHIOPIC SYLLABLE: KXA, KXU, KXI, KXAA, KXEE, KXE, KXO; 12C0 ETHIOPIC SYLLABLE: KXWA",
    "12C2 ETHIOPIC SYLLABLE: KXWI, KXWAA, KXWEE, KXWE",
    "12C8 ETHIOPIC SYLLABLE: WA, WU, WI, WAA, WEE, WE, WO, WOA",
    "12D0 ETHIOPIC SYLLABLE PHARYNGEAL: A, U, I, AA, EE, E, O",
    "12D8 ETHIOPIC SYLLABLE: ZA, ZU, ZI, ZAA, ZEE, ZE, ZO, ZWA, ZHA, ZHU, ZHI, ZHAA, ZHEE, ZHE, ZHO, ZHWA, YA",
    "12E9 ETHIOPIC SYLLABLE: YU, YI, YAA, YEE, YE, YO, YOA, DA, DU, DI, DAA, DEE, DE, DO, DWA, DDA, DDU, DDI",
    "12FB ETHIOPIC SYLLABLE: DDAA, DDEE, DDE, DDO, DDWA, JA, JU, JI, JAA, JEE, JE, JO, JWA, GA, GU, GI, GAA",
    "130C ETHIOPIC SYLLABLE: GEE, GE, GO, GOA, GWA; 1312 ETHIOPIC SYLLABLE: GWI, GWAA, GWEE, GWE",
    "1318 ETHIOPIC SYLLABLE: GGA, GGU, GGI, GGAA, GGEE, GGE, GGO, GGWAA, THA, THU, THI, THAA, THEE, THE, THO",
    "1327 ETHIOPIC SYLLABLE: THWA, CHA, CHU, CHI, CHAA, CHEE, CHE, CHO, CHWA, PHA, PHU, PHI, PHAA, PHEE, PHE",
    "1336 ETHIOPIC SYLLABLE: PHO, PHWA, TSA, TSU, TSI, TSAA, TSEE, TSE, TSO, TSWA, TZA, TZU, TZI, TZAA, TZEE",
    "1345 ETHIOPIC SYLLABLE: TZE, TZO, TZOA, FA, FU, FI, FAA, FEE, FE, FO, FWA, PA, PU, PI, PAA, PEE, PE, PO",
    "1357 ETHIOPIC SYLLABLE: PWA, RYA, MYA, FYA",
    "135D ETHIOPIC COMBINING: GEMINATION AND VOWEL LENGTH MARK, VOWEL LENGTH MARK, GEMINATION MARK",
    "1360 ETHIOPIC: SECTION MARK, WORDSPACE, FULL STOP, COMMA, SEMICOLON, COLON, PREFACE COLON, QUESTION MARK",
    "1368 ETHIOPIC: PARAGRAPH SEPARATOR",
    "1369 ETHIOPIC DIGIT: ONE, TWO, THREE, FOUR, FIVE, SIX, SEVEN, EIGHT, NINE",
    "1372 ETHIOPIC NUMBER: TEN, TWENTY, THIRTY, FORTY, FIFTY, SIXTY, SEVENTY, EIGHTY, NINETY, HUNDRED",
    "137C ETHIOPIC NUMBER: TEN THOUSAND",
    "1380 ETHIOPIC SYLLABLE: SEBATBEIT MWA, MWI, MWEE, MWE, SEBATBEIT BWA, BWI, BWEE, BWE, SEBATBEIT FWA, FWI",
    "138A ETHIOPIC SYLLABLE: FWEE, FWE, SEBATBEIT PWA, PWI, PWEE, PWE",
    "1390 ETHIOPIC TONAL MARK: YIZET, DERET, RIKRIK, SHORT RIKRIK, DIFAT, KENAT, CHIRET, HIDET, DERET-HIDET",
    "1399 ETHIOPIC TONAL MARK: KURT",
    "13A0 CHEROKEE LETTER: A, E, I, O, U, V, GA, KA, GE, GI, GO, GU, GV, HA, HE, HI, HO, HU, HV, LA, LE, LI",
    "13B6 CHEROKEE LETTER: LO, LU, LV, MA, ME, MI, MO, MU, NA, HNA, NAH, NE, NI, NO, NU, NV, QUA, QUE, QUI",
    "13C9 CHEROKEE LETTER: QUO, QUU, QUV, SA, S, SE, SI, SO, SU, SV, DA, TA, DE, TE, DI, TI, DO, DU, DV, DLA",
    "13DD CHEROKEE LETTER: TLA, TLE, TLI, TLO, TLU, TLV, TSA, TSE, TSI, TSO, TSU, TSV, WA, WE, WI, WO, WU, WV",
    "13EF CHEROKEE LETTER: YA, YE, YI, YO, YU, YV, MV; 13F8 CHEROKEE SMALL LETTER: YE, YI, YO, YU, YV, MV",
    "1400 CANADIAN SYLLABICS: HYPHEN, E, AAI, I, II, O, OO, Y-CREE OO, CARRIER EE, CARRIER I, A, AA, WE",
    "140D CANADIAN SYLLABICS: WEST-CREE WE, WI, WEST-CREE WI, WII, WEST-CREE WII, WO, WEST-CREE WO, WOO",
    "1415 CANADIAN SYLLABICS: WEST-CREE WOO, NASKAPI WOO, WA, WEST-CREE WA, WAA, WEST-CREE WAA, NASKAPI WAA",
    "141C CANADIAN SYLLABICS: AI, Y-CREE W, GLOTTAL STOP",
    "141F CANADIAN SYLLABICS FINAL: ACUTE, GRAVE, BOTTOM HALF RING, TOP HALF RING, RIGHT HALF RING, RING",
    "1425 CANADIAN SYLLABICS FINAL: DOUBLE ACUTE, DOUBLE SHORT VERTICAL STROKES, MIDDLE DOT",
    "1428 CANADIAN SYLLABICS FINAL: SHORT HORIZONTAL STROKE, PLUS, DOWN TACK",
    "142B CANADIAN SYLLABICS: EN, IN, ON, AN, PE, PAAI, PI, PII, PO, POO, Y-CREE POO, CARRIER HEE, CARRIER HI",
    "1438 CANADIAN SYLLABICS: PA, PAA, PWE, WEST-CREE PWE, PWI, WEST-CREE PWI, PWII, WEST-CREE PWII, PWO",
    "1441 CANADIAN SYLLABICS: WEST-CREE PWO, PWOO, WEST-CREE PWOO, PWA, WEST-CREE PWA, PWAA, WEST-CREE PWAA",
    "1448 CANADIAN SYLLABICS: Y-CREE PWAA, P, WEST-CREE P, CARRIER H, TE, TAAI, TI, TII, TO, TOO, Y-CREE TOO",
    "1453 CANADIAN SYLLABICS: CARRIER DEE, CARRIER DI, TA, TAA, TWE, WEST-CREE TWE, TWI, WEST-CREE TWI, TWII",
    "145C CANADIAN SYLLABICS: WEST-CREE TWII, TWO, WEST-CREE TWO, TWOO, WEST-CREE TWOO, TWA, WEST-CREE TWA",
    "1463 CANADIAN SYLLABICS: TWAA, WEST-CREE TWAA, NASKAPI TWAA, T, TTE, TTI, TTO, TTA, KE, KAAI, KI, KII",
    "146F CANADIAN SYLLABICS: KO, KOO, Y-CREE KOO, KA, KAA, KWE, WEST-CREE KWE, KWI, WEST-CREE KWI, KWII",
    "1479 CANADIAN SYLLABICS: WEST-CREE KWII, KWO, WEST-CREE KWO, KWOO, WEST-CREE KWOO, KWA, WEST-CREE KWA",
    "1480 CANADIAN SYLLABICS: KWAA, WEST-CREE KWAA, NASKAPI KWAA, K, KW, SOUTH-SLAVEY KEH, SOUTH-SLAVEY KIH",
    "1487 CANADIAN SYLLABICS: SOUTH-SLAVEY KOH, SOUTH-SLAVEY KAH, CE, CAAI, CI, CII, CO, COO, Y-CREE COO, CA",
    "1491 CANADIAN SYLLABICS: CAA, CWE, WEST-CREE CWE, CWI, WEST-CREE CWI, CWII, WEST-CREE CWII, CWO",
    "1499 CANADIAN SYLLABICS: WEST-CREE CWO, CWOO, WEST-CREE CWOO, CWA, WEST-CREE CWA, CWAA, WEST-CREE CWAA",
    "14A0 CANADIAN SYLLABICS: NASKAPI CWAA, C, SAYISI TH, ME, MAAI, MI, MII, MO, MOO, Y-CREE MOO, MA, MAA",
    "14AC CANADIAN SYLLABICS: MWE, WEST-CREE MWE, MWI, WEST-CREE MWI, MWII, WEST-CREE MWII, MWO",
    "14B3 CANADIAN SYLLABICS: WEST-CREE MWO, MWOO, WEST-CREE MWOO, MWA, WEST-CREE MWA, MWAA, WEST-CREE MWAA",
    "14BA CANADIAN SYLLABICS: NASKAPI MWAA, M, WEST-CREE M, MH, ATHAPASCAN M, SAYISI M, NE, NAAI, NI, NII, NO",
    "14C5 CANADIAN SYLLABICS: NOO, Y-CREE NOO, NA, NAA, NWE, WEST-CREE NWE, NWA, WEST-CREE NWA, NWAA",
    "14CE CANADIAN SYLLABICS: WEST-CREE NWAA, NASKAPI NWAA, N, CARRIER NG, NH, LE, LAAI, LI, LII, LO, LOO",
    "14D9 CANADIAN SYLLABICS: Y-CREE LOO, LA, LAA, LWE, WEST-CREE LWE, LWI, WEST-CREE LWI, LWII",
    "14E1 CANADIAN SYLLABICS: WEST-CREE LWII, LWO, WEST-CREE LWO, LWOO, WEST-CREE LWOO, LWA, WEST-CREE LWA",
    "14E8 CANADIAN SYLLABICS: LWAA, WEST-CREE LWAA, L, WEST-CREE L, MEDIAL L, SE, SAAI, SI, SII, SO, SOO",
    "14F3 CANADIAN SYLLABICS: Y-CREE SOO, SA, SAA, SWE, WEST-CREE SWE, SWI, WEST-CREE SWI, SWII",
    "14FB CANADIAN SYLLABICS: WEST-CREE SWII, SWO, WEST-CREE SWO, SWOO, WEST-CREE SWOO, SWA, WEST-CREE SWA",
    "1502 CANADIAN SYLLABICS: SWAA, WEST-CREE SWAA, NASKAPI SWAA, S, ATHAPASCAN S, SW, BLACKFOOT S",
    "1509 CANADIAN SYLLABICS: MOOSE-CREE SK",
    "150A CANADIAN SYLLABICS NASKAPI: SKW, S-W, SPWA, STWA, SKWA, SCWA",
    "1510 CANADIAN SYLLABICS: SHE, SHI, SHII, SHO, SHOO, SHA, SHAA, SHWE, WEST-CREE SHWE, SHWI",
    "151A CANADIAN SYLLABICS: WEST-CREE SHWI, SHWII, WEST-CREE SHWII, SHWO, WEST-CREE SHWO, SHWOO",
    "1520 CANADIAN SYLLABICS: WEST-CREE SHWOO, SHWA, WEST-CREE SHWA, SHWAA, WEST-CREE SHWAA, SH, YE, YAAI, YI",
    "1529 CANADIAN SYLLABICS: YII, YO, YOO, Y-CREE YOO, YA, YAA, YWE, WEST-CREE YWE, YWI, WEST-CREE YWI, YWII",
    "1534 CANADIAN SYLLABICS: WEST-CREE YWII, YWO, WEST-CREE YWO, YWOO, WEST-CREE YWOO, YWA, WEST-CREE YWA",
    "153B CANADIAN SYLLABICS: YWAA, WEST-CREE YWAA, NASKAPI YWAA, Y, BIBLE-CREE Y, WEST-CREE Y, SAYISI YI, RE",
    "1543 CANADIAN SYLLABICS: R-CREE RE, WEST-CREE LE, RAAI, RI, RII, RO, ROO, WEST-CREE LO, RA, RAA",
    "154D CANADIAN SYLLABICS: WEST-CREE LA, RWAA, WEST-CREE RWAA, R, WEST-CREE R, MEDIAL R, FE, FAAI, FI, FII",
    "1557 CANADIAN SYLLABICS: FO, FOO, FA, FAA, FWAA, WEST-CREE FWAA, F, THE, N-CREE THE, THI, N-CREE THI",
    "1562 CANADIAN SYLLABICS: THII, N-CREE THII, THO, THOO, THA, THAA, THWAA, WEST-CREE THWAA, TH, TTHE, TTHI",
    "156D CANADIAN SYLLABICS: TTHO, TTHA, TTH, TYE, TYI, TYO, TYA",
    "1574 CANADIAN SYLLABICS NUNAVIK: HE, HI, HII, HO, HOO, HA, HAA, H",
    "157C CANADIAN SYLLABICS: NUNAVUT H, HK, QAAI, QI, QII, QO, QOO, QA, QAA, Q, TLHE, TLHI, TLHO, TLHA",
    "158A CANADIAN SYLLABICS: WEST-CREE RE, WEST-CREE RI, WEST-CREE RO, WEST-CREE RA, NGAAI, NGI, NGII, NGO",
    "1592 CANADIAN SYLLABICS: NGOO, NGA, NGAA, NG, NNG, SAYISI SHE, SAYISI SHI, SAYISI SHO, SAYISI SHA",
    "159B CANADIAN SYLLABICS: WOODS-CREE THE, WOODS-CREE THI, WOODS-CREE THO, WOODS-CREE THA, WOODS-CREE TH",
    "15A0 CANADIAN SYLLABICS: LHI, LHII, LHO, LHOO, LHA, LHAA, LH",
    "15A7 CANADIAN SYLLABICS TH-CREE: THE, THI, THII, THO, THOO, THA, THAA, TH",
    "15AF CANADIAN SYLLABICS AIVILIK: B",
    "15B0 CANADIAN SYLLABICS BLACKFOOT: E, I, O, A, WE, WI, WO, WA, NE, NI, NO, NA, KE, KI, KO, KA",
    "15C0 CANADIAN SYLLABICS SAYISI: HE, HI, HO, HA",
    "15C4 CANADIAN SYLLABICS CARRIER: GHU, GHO, GHE, GHEE, GHI, GHA, RU, RO, RE, REE, RI, RA, WU, WO, WE, WEE",
    "15D4 CANADIAN SYLLABICS CARRIER: WI, WA, HWU, HWO, HWE, HWEE, HWI, HWA, THU, THO, THE, THEE, THI, THA",
    "15E2 CANADIAN SYLLABICS CARRIER: TTU, TTO, TTE, TTEE, TTI, TTA, PU, PO, PE, PEE, PI, PA, P, GU, GO, GE",
    "15F2 CANADIAN SYLLABICS CARRIER: GEE, GI, GA, KHU, KHO, KHE, KHEE, KHI, KHA, KKU, KKO, KKE, KKEE, KKI",
    "1600 CANADIAN SYLLABICS CARRIER: KKA, KK, NU, NO, NE, NEE, NI, NA, MU, MO, ME, MEE, MI, MA, YU, YO, YE",
    "1611 CANADIAN SYLLABICS CARRIER: YEE, YI, YA, JU",
    "1615 CANADIAN SYLLABICS: SAYISI JU, CARRIER JO, CARRIER JE, CARRIER JEE, CARRIER JI, SAYISI JI",
    "161B CANADIAN SYLLABICS CARRIER: JA, JJU, JJO, JJE, JJEE, JJI, JJA, LU, LO, LE, LEE, LI, LA, DLU, DLO",
    "162A CANADIAN SYLLABICS CARRIER: DLE, DLEE, DLI, DLA, LHU, LHO, LHE, LHEE, LHI, LHA, TLHU, TLHO, TLHE",
    "1637 CANADIAN SYLLABICS CARRIER: TLHEE, TLHI, TLHA, TLU, TLO, TLE, TLEE, TLI, TLA, ZU, ZO, ZE, ZEE, ZI",
    "1645 CANADIAN SYLLABICS CARRIER: ZA, Z, INITIAL Z, DZU, DZO, DZE, DZEE, DZI, DZA, SU, SO, SE, SEE, SI",
    "1653 CANADIAN SYLLABICS CARRIER: SA, SHU, SHO, SHE, SHEE, SHI, SHA, SH, TSU, TSO, TSE, TSEE, TSI, TSA",
    "1661 CANADIAN SYLLABICS CARRIER: CHU, CHO, CHE, CHEE, CHI, CHA, TTSU, TTSO, TTSE, TTSEE, TTSI, TTSA",
    "166D CANADIAN SYLLABICS: CHI SIGN, FULL STOP, QAI, NGAI, NNGI, NNGII, NNGO, NNGOO, NNGA, NNGAA",
    "1677 CANADIAN SYLLABICS WOODS-CREE: THWEE, THWI, THWII, THWO, THWOO, THWA, THWAA, FINAL TH",
    "167F: CANADIAN SYLLABICS BLACKFOOT W, OGHAM SPACE MARK",
    "1681 OGHAM LETTER: BEITH, LUIS, FEARN, SAIL, NION, UATH, DAIR, TINNE, COLL, CEIRT, MUIN, GORT, NGEADAL",
    "168E OGHAM LETTER: STRAIF, RUIS, AILM, ONN, UR, EADHADH, IODHADH, EABHADH, OR, UILLEANN, IFIN",
    "1699 OGHAM LETTER: EAMHANCHOLL, PEITH; 169B OGHAM: FEATHER MARK, REVERSED FEATHER MARK",
    "16A0 RUNIC LETTER: FEHU FEOH FE F, V, URUZ UR U, YR, Y, W, THURISAZ THURS THORN, ETH, ANSUZ A, OS O",
    "16AA RUNIC LETTER: AC A, AESC, LONG-BRANCH-OSS O, SHORT-TWIG-OSS O, O, OE, ON, RAIDO RAD REID R, KAUNA",
    "16B3 RUNIC LETTER: CEN, KAUN K, G, ENG, GEBO GYFU G, GAR, WUNJO WYNN W, HAGLAZ H, HAEGL H",
    "16BC RUNIC LETTER: LONG-BRANCH-HAGALL H, SHORT-TWIG-HAGALL H, NAUDIZ NYD NAUD N, SHORT-TWIG-NAUD N",
    "16C0 RUNIC LETTER: DOTTED-N, ISAZ IS ISS I, E, JERAN J, GER, LONG-BRANCH-AR AE, SHORT-TWIG-AR A",
    "16C7 RUNIC LETTER: IWAZ EOH, PERTHO PEORTH P, ALGIZ EOLHX, SOWILO S, SIGEL LONG-BRANCH-SOL S",
    "16CC RUNIC LETTER: SHORT-TWIG-SOL S, C, Z, TIWAZ TIR TYR T, SHORT-TWIG-TYR T, D",
    "16D2 RUNIC LETTER: BERKANAN BEORC BJARKAN B, SHORT-TWIG-BJARKAN B, DOTTED-P, OPEN-P, EHWAZ EH E",
    "16D7 RUNIC LETTER: MANNAZ MAN M, LONG-BRANCH-MADR M, SHORT-TWIG-MADR M, LAUKAZ LAGU LOGR L, DOTTED-L",
    "16DC RUNIC LETTER: INGWAZ, ING, DAGAZ DAEG D, OTHALAN ETHEL O, EAR, IOR, CWEORTH, CALC, CEALC, STAN",
    "16E6 RUNIC LETTER: LONG-BRANCH-YR, SHORT-TWIG-YR, ICELANDIC-YR, Q, X",
    "16EB RUNIC: SINGLE PUNCTUATION, MULTIPLE PUNCTUATION, CROSS PUNCTUATION, ARLAUG SYMBOL, TVIMADUR SYMBOL",
    "16F0 RUNIC: BELGTHOR SYMBOL; 16F1 RUNIC LETTER: K, SH, OO",
    "16F4 RUNIC LETTER FRANKS CASKET: OS, IS, EH, AC, AESC",
    "1700 TAGALOG LETTER: A, I, U, KA, GA, NGA, TA, DA, NA, PA, BA, MA, YA, RA, LA, WA, SA, HA",
    "1712 TAGALOG VOWEL SIGN: I, U; 1714 TAGALOG SIGN: VIRAMA, PAMUDPOD; 171F TAGALOG LETTER ARCHAIC: RA",
    "1720 HANUNOO LETTER: A, I, U, KA, GA, NGA, TA, DA, NA, PA, BA, MA, YA, RA, LA, WA, SA, HA",
    "1732 HANUNOO: VOWEL SIGN I, VOWEL SIGN U, SIGN PAMUDPOD",
    "1735 PHILIPPINE: SINGLE PUNCTUATION, DOUBLE PUNCTUATION",
    "1740 BUHID LETTER: A, I, U, KA, GA, NGA, TA, DA, NA, PA, BA, MA, YA, RA, LA, WA, SA, HA",
    "1752 BUHID VOWEL SIGN: I, U; 1760 TAGBANWA LETTER: A, I, U, KA, GA, NGA, TA, DA, NA, PA, BA, MA, YA",
    "176E TAGBANWA LETTER: LA, WA, SA; 1772 TAGBANWA VOWEL SIGN: I, U",
    "1780 KHMER LETTER: KA, KHA, KO, KHO, NGO, CA, CHA, CO, CHO, NYO, DA, TTHA, DO, TTHO, NNO, TA, THA, TO",
    "1792 KHMER LETTER: THO, NO, BA, PHA, PO, PHO, MO, YO, RO, LO, VO, SHA, SSO, SA, HA, LA, QA",
    "17A3 KHMER INDEPENDENT VOWEL: QAQ, QAA, QI, QII, QU, QUK, QUU, QUUV, RY, RYY, LY, LYY, QE, QAI",
    "17B1 KHMER INDEPENDENT VOWEL: QOO TYPE ONE, QOO TYPE TWO, QAU; 17B4 KHMER VOWEL INHERENT: AQ, AA",
    "17B6 KHMER VOWEL SIGN: AA, I, II, Y, YY, U, UU, UA, OE, YA, IE, E, AE, AI, OO, AU",
    "17C6 KHMER SIGN: NIKAHIT, REAHMUK, YUUKALEAPINTU, MUUSIKATOAN, TRIISAP, BANTOC, ROBAT, TOANDAKHIAT",
    "17CE KHMER SIGN: KAKABAT, AHSDA, SAMYOK SANNYA, VIRIAM, COENG, BATHAMASAT, KHAN, BARIYOOSAN",
    "17D6 KHMER SIGN: CAMNUC PII KUUH, LEK TOO, BEYYAL, PHNAEK MUAN, KOOMUUT",
    "17DB KHMER: CURRENCY SYMBOL RIEL, SIGN AVAKRAHASANYA, SIGN ATTHACAN",
    "17E0 KHMER DIGIT: ZERO, ONE, TWO, THREE, FOUR, FIVE, SIX, SEVEN, EIGHT, NINE",
    "17F0 KHMER SYMBOL LEK ATTAK: SON, MUOY, PII, BEI, BUON, PRAM, PRAM-MUOY, PRAM-PII, PRAM-BEI, PRAM-BUON",
    "1800 MONGOLIAN: BIRGA, ELLIPSIS, COMMA, FULL STOP, COLON, FOUR DOTS, TODO SOFT HYPHEN",
    "1807 MONGOLIAN: SIBE SYLLABLE BOUNDARY MARKER, MANCHU COMMA, MANCHU FULL STOP, NIRUGU",
    "180B MONGOLIAN FREE VARIATION SELECTOR: ONE, TWO, THREE",
    "180E MONGOLIAN: VOWEL SEPARATOR, FREE VARIATION SELECTOR FOUR",
    "1810 MONGOLIAN DIGIT: ZERO, ONE, TWO, THREE, FOUR, FIVE, SIX, SEVEN, EIGHT, NINE",
    "1820 MONGOLIAN LETTER: A, E, I, O, U, OE, UE, EE, NA, ANG, BA, PA, QA, GA, MA, LA, SA, SHA, TA, DA, CHA",
    "1835 MONGOLIAN LETTER: JA, YA, RA, WA, FA, KA, KHA, TSA, ZA, HAA, ZRA, LHA, ZHI, CHI",
    "1843 MONGOLIAN LETTER TODO: LONG VOWEL SIGN, E, I, O, U, OE, UE, ANG, BA, PA, QA, GA, MA, TA, DA, CHA",
    "1853 MONGOLIAN LETTER TODO: JA, TSA, YA, WA, KA, GAA, HAA, JIA, NIA, DZA",
    "185D MONGOLIAN LETTER SIBE: E, I, IY, UE, U, ANG, KA, GA, HA, PA, SHA, TA, DA, JA, FA, GAA, HAA, TSA, ZA",
    "1870 MONGOLIAN LETTER SIBE: RAA, CHA, ZHA; 1873 MONGOLIAN LETTER MANCHU: I, KA, RA, FA, ZHA",
    "1878 MONGOLIAN LETTER CHA WITH TWO: DOTS",
    "1880 MONGOLIAN LETTER ALI GALI: ANUSVARA ONE, VISARGA ONE, DAMARU, UBADAMA, INVERTED UBADAMA, BALUDA",
    "1886 MONGOLIAN LETTER ALI GALI: THREE BALUDA, A, I, KA, NGA, CA, TTA, TTHA, DDA, NNA, TA, DA, PA, PHA",
    "1894 MONGOLIAN LETTER ALI GALI: SSA, ZHA, ZA, AH; 1898 MONGOLIAN LETTER TODO ALI GALI: TA, ZHA",
    "189A MONGOLIAN LETTER MANCHU ALI GALI: GHA, NGA, CA, JHA, TTA, DDHA, TA, DHA, SSA, CYA, ZHA, ZA",
    "18A6 MONGOLIAN LETTER: ALI GALI HALF U, ALI GALI HALF YA, MANCHU ALI GALI BHA, ALI GALI DAGALGA",
    "18AA MONGOLIAN LETTER: MANCHU ALI GALI LHA",
    "18B0 CANADIAN SYLLABICS: OY, AY, AAY, WAY, POY, PAY, PWOY, TAY, KAY, KWAY, MAY, NOY, NAY, LAY, SOY, SAY",
    "18C0 CANADIAN SYLLABICS: SHOY, SHAY, SHWOY, YOY, YAY, RAY, NWI, OJIBWAY NWI, NWII, OJIBWAY NWII, NWO",
    "18CB CANADIAN SYLLABICS: OJIBWAY NWO, NWOO, OJIBWAY NWOO, RWEE, RWI, RWII, RWO, RWOO, RWA",
    "18D4 CANADIAN SYLLABICS OJIBWAY: P, T, K, C, M, N, S, SH",
    "18DC CANADIAN SYLLABICS: EASTERN W, WESTERN W, FINAL SMALL RING, FINAL RAISED DOT, R-CREE RWE",
    "18E1 CANADIAN SYLLABICS: WEST-CREE LOO, WEST-CREE LAA, THWE, THWA, TTHWE, TTHOO, TTHAA, TLHWE, TLHOO",
    "18EA CANADIAN SYLLABICS: SAYISI SHWE, SAYISI SHOO, SAYISI HOO, CARRIER GWU, CARRIER DENE GEE",
    "18EF CANADIAN SYLLABICS: CARRIER GAA, CARRIER GWA, SAYISI JUU, CARRIER JWA, BEAVER DENE L, BEAVER DENE R",
    "18F5 CANADIAN SYLLABICS: CARRIER DENTAL S; 1900 LIMBU VOWEL-CARRIER: LETTER",
    "1901 LIMBU LETTER: KA, KHA, GA, GHA, NGA, CA, CHA, JA, JHA, YAN, TA, THA, DA, DHA, NA, PA, PHA, BA, BHA",
    "1914 LIMBU LETTER: MA, YA, RA, LA, WA, SHA, SSA, SA, HA, GYAN, TRA",
    "1920 LIMBU VOWEL SIGN: A, I, U, EE, AI, OO, AU, E, O; 1929 LIMBU SUBJOINED LETTER: YA, RA, WA",
    "1930 LIMBU SMALL LETTER: KA, NGA, ANUSVARA, TA, NA, PA, MA, RA, LA",
    "1939 LIMBU SIGN: MUKPHRENG, KEMPHRENG, SA-I; 1940 LIMBU SIGN: LOO",
    "1944 LIMBU: EXCLAMATION MARK, QUESTION MARK",
    "1946 LIMBU DIGIT: ZERO, ONE, TWO, THREE, FOUR, FIVE, SIX, SEVEN, EIGHT, NINE",
    "1950 TAI LE LETTER: KA, XA, NGA, TSA, SA, YA, TA, THA, LA, PA, PHA, MA, FA, VA, HA, QA, KHA, TSHA, NA, A",
    "1964 TAI LE LETTER: I, EE, EH, U, OO, O, UE, E, AUE, AI",
    "1970 TAI LE LETTER: TONE-2, TONE-3, TONE-4, TONE-5, TONE-6",
    "1980 NEW TAI LUE LETTER: HIGH QA, LOW QA, HIGH KA, HIGH XA, HIGH NGA, LOW KA, LOW XA, LOW NGA, HIGH TSA",
    "1989 NEW TAI LUE LETTER: HIGH SA, HIGH YA, LOW TSA, LOW SA, LOW YA, HIGH TA, HIGH THA, HIGH NA, LOW TA",
    "1992 NEW TAI LUE LETTER: LOW THA, LOW NA, HIGH PA, HIGH PHA, HIGH MA, LOW PA, LOW PHA, LOW MA, HIGH FA",
    "199B NEW TAI LUE LETTER: HIGH VA, HIGH LA, LOW FA, LOW VA, LOW LA, HIGH HA, HIGH DA, HIGH BA, LOW HA",
    "19A4 NEW TAI LUE LETTER: LOW DA, LOW BA, HIGH KVA, HIGH XVA, LOW KVA, LOW XVA, HIGH SUA, LOW SUA",
    "19B0 NEW TAI LUE VOWEL SIGN: VOWEL SHORTENER, AA, II, U, UU, E, AE, O, OA, UE, AY, AAY, UY, OY, OAY, UEY",
    "19C0 NEW TAI LUE VOWEL SIGN: IY; 19C1 NEW TAI LUE LETTER FINAL: V, NG, N, M, K, D, B",
    "19C8 NEW TAI LUE TONE: MARK-1, MARK-2",
    "19D0 NEW TAI LUE DIGIT: ZERO, ONE, TWO, THREE, FOUR, FIVE, SIX, SEVEN, EIGHT, NINE",
    "19DA NEW TAI LUE THAM DIGIT: ONE; 19DE NEW TAI LUE SIGN: LAE, LAEV",
    "19E0 KHMER SYMBOL: PATHAMASAT, MUOY KOET, PII KOET, BEI KOET, BUON KOET, PRAM KOET, PRAM-MUOY KOET",
    "19E7 KHMER SYMBOL: PRAM-PII KOET, PRAM-BEI KOET, PRAM-BUON KOET, DAP KOET, DAP-MUOY KOET, DAP-PII KOET",
    "19ED KHMER SYMBOL: DAP-BEI KOET, DAP-BUON KOET, DAP-PRAM KOET, TUTEYASAT, MUOY ROC, PII ROC, BEI ROC",
    "19F4 KHMER SYMBOL: BUON ROC, PRAM ROC, PRAM-MUOY ROC, PRAM-PII ROC, PRAM-BEI ROC, PRAM-BUON ROC, DAP ROC",
    "19FB KHMER SYMBOL: DAP-MUOY ROC, DAP-PII ROC, DAP-BEI ROC, DAP-BUON ROC, DAP-PRAM ROC",
    "1A00 BUGINESE LETTER: KA, GA, NGA, NGKA, PA, BA, MA, MPA, TA, DA, NA, NRA, CA, JA, NYA, NYCA, YA, RA, LA",
    "1A13 BUGINESE LETTER: VA, SA, A, HA; 1A17 BUGINESE VOWEL SIGN: I, U, E, O, AE",
    "1A1E BUGINESE: PALLAWA, END OF SECTION",
    "1A20 TAI THAM LETTER: HIGH KA, HIGH KHA, HIGH KXA, LOW KA, LOW KXA, LOW KHA, NGA, HIGH CA, HIGH CHA",
    "1A29 TAI THAM LETTER: LOW CA, LOW SA, LOW CHA, NYA, RATA, HIGH RATHA, DA, LOW RATHA, RANA, HIGH TA",
    "1A33 TAI THAM LETTER: HIGH THA, LOW TA, LOW THA, NA, BA, HIGH PA, HIGH PHA, HIGH FA, LOW PA, LOW FA",
    "1A3D TAI THAM LETTER: LOW PHA, MA, LOW YA, HIGH YA, RA, RUE, LA, LUE, WA, HIGH SHA, HIGH SSA, HIGH SA",
    "1A49 TAI THAM LETTER: HIGH HA, LLA, A, LOW HA, I, II, U, UU, EE, OO, LAE, GREAT SA",
    "1A55 TAI THAM CONSONANT SIGN: MEDIAL RA, MEDIAL LA, LA TANG LAI; 1A58 TAI THAM SIGN MAI KANG: LAI",
    "1A59 TAI THAM CONSONANT SIGN: FINAL NGA, LOW PA, HIGH RATHA OR LOW PA, MA, BA, SA",
    "1A60 TAI THAM SIGN: SAKOT",
    "1A61 TAI THAM VOWEL SIGN: A, MAI SAT, AA, TALL AA, I, II, UE, UUE, U, UU, O, OA BELOW, OY, E, AE, OO, AI",
    "1A72 TAI THAM VOWEL SIGN: THAM AI, OA ABOVE",
    "1A74 TAI THAM SIGN: MAI KANG, TONE-1, TONE-2, KHUEN TONE-3, KHUEN TONE-4, KHUEN TONE-5, RA HAAM, MAI SAM",
    "1A7C TAI THAM SIGN: KHUEN-LUE KARAN; 1A7F TAI THAM COMBINING CRYPTOGRAMMIC: DOT",
    "1A80 TAI THAM HORA DIGIT: ZERO, ONE, TWO, THREE, FOUR, FIVE, SIX, SEVEN, EIGHT, NINE",
    "1A90 TAI THAM THAM DIGIT: ZERO, ONE, TWO, THREE, FOUR, FIVE, SIX, SEVEN, EIGHT, NINE",
    "1AA0 TAI THAM SIGN: WIANG, WIANGWAAK, SAWAN, KEOW, HOY, DOKMAI, REVERSED ROTATED RANA, MAI YAMOK, KAAN",
    "1AA9 TAI THAM SIGN: KAANKUU, SATKAAN, SATKAANKUU, HANG, CAANG",
    "1AB0 COMBINING: DOUBLED CIRCUMFLEX ACCENT, DIAERESIS-RING, INFINITY, DOWNWARDS ARROW, TRIPLE DOT",
    "1AB5 COMBINING: X-X BELOW, WIGGLY LINE BELOW, OPEN MARK BELOW, DOUBLE OPEN MARK BELOW",
    "1AB9 COMBINING: LIGHT CENTRALIZATION STROKE BELOW, STRONG CENTRALIZATION STROKE BELOW, PARENTHESES ABOVE",
    "1ABC COMBINING: DOUBLE PARENTHESES ABOVE, PARENTHESES BELOW, PARENTHESES OVERLAY",
    "1ABF COMBINING: LATIN SMALL LETTER W BELOW, LATIN SMALL LETTER TURNED W BELOW",
    "1AC1 COMBINING: LEFT PARENTHESIS ABOVE LEFT, RIGHT PARENTHESIS ABOVE RIGHT, LEFT PARENTHESIS BELOW LEFT",
    "1AC4 COMBINING: RIGHT PARENTHESIS BELOW RIGHT, SQUARE BRACKETS ABOVE, NUMBER SIGN ABOVE",
    "1AC7 COMBINING: INVERTED DOUBLE ARCH ABOVE, PLUS SIGN ABOVE, DOUBLE PLUS SIGN ABOVE",
    "1ACA COMBINING: DOUBLE PLUS SIGN BELOW, TRIPLE ACUTE ACCENT",
    "1ACC COMBINING LATIN SMALL LETTER INSULAR: G, R, T",
    "1B00 BALINESE SIGN: ULU RICEM, ULU CANDRA, CECEK, SURANG, BISAH",
    "1B05 BALINESE LETTER: AKARA, AKARA TEDUNG, IKARA, IKARA TEDUNG, UKARA, UKARA TEDUNG, RA REPA",
    "1B0C BALINESE LETTER: RA REPA TEDUNG, LA LENGA, LA LENGA TEDUNG, EKARA, AIKARA, OKARA, OKARA TEDUNG, KA",
    "1B14 BALINESE LETTER: KA MAHAPRANA, GA, GA GORA, NGA, CA, CA LACA, JA, JA JERA, NYA, TA LATIK",
    "1B1E BALINESE LETTER: TA MURDA MAHAPRANA, DA MURDA ALPAPRANA, DA MURDA MAHAPRANA, NA RAMBAT, TA, TA TAWA",
    "1B24 BALINESE LETTER: DA, DA MADU, NA, PA, PA KAPAL, BA, BA KEMBANG, MA, YA, RA, LA, WA, SA SAGA",
    "1B31 BALINESE LETTER: SA SAPA, SA, HA; 1B34 BALINESE SIGN: REREKAN",
    "1B35 BALINESE VOWEL SIGN: TEDUNG, ULU, ULU SARI, SUKU, SUKU ILUT, RA REPA, RA REPA TEDUNG, LA LENGA",
    "1B3D BALINESE VOWEL SIGN: LA LENGA TEDUNG, TALING, TALING REPA, TALING TEDUNG, TALING REPA TEDUNG, PEPET",
    "1B43 BALINESE VOWEL SIGN: PEPET TEDUNG; 1B44 BALINESE ADEG: ADEG",
    "1B45 BALINESE LETTER: KAF SASAK, KHOT SASAK, TZIR SASAK, EF SASAK, VE SASAK, ZAL SASAK, ASYURA SASAK",
    "1B4C BALINESE LETTER: ARCHAIC JNYA",
    "1B50 BALINESE DIGIT: ZERO, ONE, TWO, THREE, FOUR, FIVE, SIX, SEVEN, EIGHT, NINE",
    "1B5A BALINESE: PANTI, PAMADA, WINDU, CARIK PAMUNGKAH, CARIK SIKI, CARIK PAREREN, PAMENENG",
    "1B61 BALINESE MUSICAL SYMBOL: DONG, DENG, DUNG, DANG, DANG SURANG, DING, DAENG, DEUNG, DAING, DANG GEDE",
    "1B6B BALINESE MUSICAL SYMBOL COMBINING: TEGEH, ENDEP, KEMPUL, KEMPLI, JEGOGAN, KEMPUL WITH JEGOGAN",
    "1B71 BALINESE MUSICAL SYMBOL COMBINING: KEMPLI WITH JEGOGAN, BENDE, GONG",
    "1B74 BALINESE MUSICAL SYMBOL RIGHT-HAND: OPEN DUG, OPEN DAG, CLOSED TUK, CLOSED TAK",
    "1B78 BALINESE MUSICAL SYMBOL LEFT-HAND: OPEN PANG, OPEN PUNG, CLOSED PLAK, CLOSED PLUK, OPEN PING",
    "1B7D BALINESE: PANTI LANTANG, PAMADA LANTANG; 1B80 SUNDANESE SIGN: PANYECEK, PANGLAYAR, PANGWISAD",
    "1B83 SUNDANESE LETTER: A, I, U, AE, O, E, EU, KA, QA, GA, NGA, CA, JA, ZA, NYA, TA, DA, NA, PA, FA, VA",
    "1B98 SUNDANESE LETTER: BA, MA, YA, RA, LA, WA, SA, XA, HA",
    "1BA1 SUNDANESE CONSONANT SIGN: PAMINGKAL, PANYAKRA, PANYIKU",
    "1BA4 SUNDANESE VOWEL SIGN: PANGHULU, PANYUKU, PANAELAENG, PANOLONG, PAMEPET, PANEULEUNG",
    "1BAA SUNDANESE SIGN: PAMAAEH, VIRAMA; 1BAC SUNDANESE CONSONANT SIGN PASANGAN: MA, WA",
    "1BAE SUNDANESE LETTER: KHA, SYA",
    "1BB0 SUNDANESE DIGIT: ZERO, ONE, TWO, THREE, FOUR, FIVE, SIX, SEVEN, EIGHT, NINE",
    "1BBA SUNDANESE: AVAGRAHA; 1BBB SUNDANESE LETTER: REU, LEU, BHA, FINAL K, FINAL M",
    "1BC0 BATAK LETTER: A, SIMALUNGUN A, HA, SIMALUNGUN HA, MANDAILING HA, BA, KARO BA, PA, SIMALUNGUN PA, NA",
    "1BCA BATAK LETTER: MANDAILING NA, WA, SIMALUNGUN WA, PAKPAK WA, GA, SIMALUNGUN GA, JA, DA, RA",
    "1BD3 BATAK LETTER: SIMALUNGUN RA, MA, SIMALUNGUN MA, SOUTHERN TA, NORTHERN TA, SA, SIMALUNGUN SA",
    "1BDA BATAK LETTER: MANDAILING SA, YA, SIMALUNGUN YA, NGA, LA, SIMALUNGUN LA, NYA, CA, NDA, MBA, I, U",
    "1BE6 BATAK SIGN: TOMPI",
    "1BE7 BATAK VOWEL SIGN: E, PAKPAK E, EE, I, KARO I, O, KARO O, U, U FOR SIMALUNGUN SA",
    "1BF0 BATAK CONSONANT SIGN: NG, H; 1BF2 BATAK: PANGOLAT, PANONGONAN",
    "1BFC BATAK SYMBOL BINDU: NA METEK, PINARBORAS, JUDUL, PANGOLAT",
    "1C00 LEPCHA LETTER: KA, KLA, KHA, GA, GLA, NGA, CA, CHA, JA, NYA, TA, THA, DA, NA, PA, PLA, PHA, FA, FLA",
    "1C13 LEPCHA LETTER: BA, BLA, MA, MLA, TSA, TSHA, DZA, YA, RA, LA, HA, HLA, VA, SA, SHA, WA, A",
    "1C24 LEPCHA SUBJOINED LETTER: YA, RA; 1C26 LEPCHA VOWEL SIGN: AA, I, O, OO, U, UU, E",
    "1C2D LEPCHA CONSONANT SIGN: K, M, L, N, P, R, T, NYIN-DO, KANG; 1C36 LEPCHA SIGN: RAN, NUKTA",
    "1C3B LEPCHA PUNCTUATION: TA-ROL, NYET THYOOM TA-ROL, CER-WA, TSHOOK CER-WA, TSHOOK",
    "1C40 LEPCHA DIGIT: ZERO, ONE, TWO, THREE, FOUR, FIVE, SIX, SEVEN, EIGHT, NINE",
    "1C4D LEPCHA LETTER: TTA, TTHA, DDA",
    "1C50 OL CHIKI DIGIT: ZERO, ONE, TWO, THREE, FOUR, FIVE, SIX, SEVEN, EIGHT, NINE",
    "1C5A OL CHIKI LETTER: LA, AT, AG, ANG, AL, LAA, AAK, AAJ, AAM, AAW, LI, IS, IH, INY, IR, LU, UC, UD, UNN",
    "1C6D OL CHIKI LETTER: UY, LE, EP, EDD, EN, ERR, LO, OTT, OB, OV, OH",
    "1C78 OL CHIKI: MU TTUDDAG, GAAHLAA TTUDDAAG, MU-GAAHLAA TTUDDAAG, RELAA, PHAARKAA, AHAD",
    "1C7E OL CHIKI: PUNCTUATION MUCAAD, PUNCTUATION DOUBLE MUCAAD",
    "1C80 CYRILLIC SMALL LETTER: ROUNDED VE, LONG-LEGGED DE, NARROW O, WIDE ES, TALL TE, THREE-LEGGED TE",
    "1C86 CYRILLIC SMALL LETTER: TALL HARD SIGN, TALL YAT, UNBLENDED UK",
    "1C90 GEORGIAN MTAVRULI CAPITAL LETTER: AN, BAN, GAN, DON, EN, VIN, ZEN, TAN, IN, KAN, LAS, MAN, NAR, ON",
    "1C9E GEORGIAN MTAVRULI CAPITAL LETTER: PAR, ZHAR, RAE, SAN, TAR, UN, PHAR, KHAR, GHAN, QAR, SHIN, CHIN",
    "1CAA GEORGIAN MTAVRULI CAPITAL LETTER: CAN, JIL, CIL, CHAR, XAN, JHAN, HAE, HE, HIE, WE, HAR, HOE, FI",
    "1CB7 GEORGIAN MTAVRULI CAPITAL LETTER: YN, ELIFI, TURNED GAN, AIN",
    "1CBD GEORGIAN MTAVRULI CAPITAL LETTER: AEN, HARD SIGN, LABIAL SIGN",
    "1CC0 SUNDANESE PUNCTUATION BINDU: SURYA, PANGLONG, PURNAMA, CAKRA, LEU SATANGA, KA SATANGA, DA SATANGA",
    "1CC7 SUNDANESE PUNCTUATION BINDU: BA SATANGA; 1CD0 VEDIC TONE: KARSHANA, SHARA, PRENKHA",
    "1CD3 VEDIC SIGN: NIHSHVASA, YAJURVEDIC MIDLINE SVARITA",
    "1CD5 VEDIC TONE YAJURVEDIC: AGGRAVATED INDEPENDENT SVARITA, INDEPENDENT SVARITA",
    "1CD7 VEDIC TONE YAJURVEDIC: KATHAKA INDEPENDENT SVARITA",
    "1CD8 VEDIC TONE: CANDRA BELOW, YAJURVEDIC KATHAKA INDEPENDENT SVARITA SCHROEDER, DOUBLE SVARITA",
    "1CDB VEDIC TONE: TRIPLE SVARITA, KATHAKA ANUDATTA, DOT BELOW, TWO DOTS BELOW, THREE DOTS BELOW",
    "1CE0 VEDIC TONE: RIGVEDIC KASHMIRI INDEPENDENT SVARITA, ATHARVAVEDIC INDEPENDENT SVARITA",
    "1CE2 VEDIC SIGN: VISARGA SVARITA, VISARGA UDATTA, REVERSED VISARGA UDATTA, VISARGA ANUDATTA",
    "1CE6 VEDIC SIGN: REVERSED VISARGA ANUDATTA, VISARGA UDATTA WITH TAIL, VISARGA ANUDATTA WITH TAIL",
    "1CE9 VEDIC SIGN: ANUSVARA ANTARGOMUKHA, ANUSVARA BAHIRGOMUKHA, ANUSVARA VAMAGOMUKHA",
    "1CEC VEDIC SIGN: ANUSVARA VAMAGOMUKHA WITH TAIL, TIRYAK, HEXIFORM LONG ANUSVARA, LONG ANUSVARA",
    "1CF0 VEDIC SIGN: RTHANG LONG ANUSVARA, ANUSVARA UBHAYATO MUKHA, ARDHAVISARGA, ROTATED ARDHAVISARGA",
    "1CF4 VEDIC: TONE CANDRA ABOVE, SIGN JIHVAMULIYA, SIGN UPADHMANIYA, SIGN ATIKRAMA, TONE RING ABOVE",
    "1CF9 VEDIC: TONE DOUBLE RING ABOVE, SIGN DOUBLE ANUSVARA ANTARGOMUKHA",
    "1D00 LATIN LETTER SMALL CAPITAL: A, AE; 1D02 LATIN SMALL LETTER TURNED: AE",
    "1D03 LATIN LETTER SMALL CAPITAL: BARRED B, C, D, ETH, E; 1D08 LATIN SMALL LETTER TURNED: OPEN E, I",
    "1D0A LATIN LETTER SMALL CAPITAL: J, K, L WITH STROKE, M, REVERSED N, O, OPEN O",
    "1D11 LATIN SMALL LETTER SIDEWAYS: O, OPEN O, O WITH STROKE",
    "1D14 LATIN: SMALL LETTER TURNED OE, LETTER SMALL CAPITAL OU",
    "1D16 LATIN SMALL LETTER: TOP HALF O, BOTTOM HALF O",
    "1D18 LATIN LETTER SMALL CAPITAL: P, REVERSED R, TURNED R, T, U",
    "1D1D LATIN SMALL LETTER SIDEWAYS: U, DIAERESIZED U, TURNED M",
    "1D20 LATIN LETTER SMALL CAPITAL: V, W, Z, EZH; 1D24 LATIN LETTER: VOICED LARYNGEAL SPIRANT, AIN",
    "1D26 GREEK LETTER SMALL CAPITAL: GAMMA, LAMDA, PI, RHO, PSI; 1D2B CYRILLIC LETTER SMALL CAPITAL: EL",
    "1D2C MODIFIER LETTER CAPITAL: A, AE, B, BARRED B, D, E, REVERSED E, G, H, I, J, K, L, M, N, REVERSED N",
    "1D3C MODIFIER LETTER CAPITAL: O, OU, P, R, T, U, W",
    "1D43 MODIFIER LETTER SMALL: A, TURNED A, ALPHA, TURNED AE, B, D, E, SCHWA, OPEN E, TURNED OPEN E, G",
    "1D4E MODIFIER LETTER SMALL: TURNED I, K, M, ENG, O, OPEN O, TOP HALF O, BOTTOM HALF O, P, T, U",
    "1D59 MODIFIER LETTER SMALL: SIDEWAYS U, TURNED M, V, AIN, BETA, GREEK GAMMA, DELTA, GREEK PHI, CHI",
    "1D62 LATIN SUBSCRIPT SMALL LETTER: I, R, U, V",
    "1D66 GREEK SUBSCRIPT SMALL LETTER: BETA, GAMMA, RHO, PHI, CHI",
    "1D6B LATIN SMALL LETTER: UE, B WITH MIDDLE TILDE, D WITH MIDDLE TILDE, F WITH MIDDLE TILDE",
    "1D6F LATIN SMALL LETTER: M WITH MIDDLE TILDE, N WITH MIDDLE TILDE, P WITH MIDDLE TILDE",
    "1D72 LATIN SMALL LETTER: R WITH MIDDLE TILDE, R WITH FISHHOOK AND MIDDLE TILDE, S WITH MIDDLE TILDE",
    "1D75 LATIN SMALL LETTER: T WITH MIDDLE TILDE, Z WITH MIDDLE TILDE, TURNED G",
    "1D78 MODIFIER LETTER CYRILLIC: EN",
    "1D79 LATIN SMALL: LETTER INSULAR G, LETTER TH WITH STRIKETHROUGH, CAPITAL LETTER I WITH STROKE",
    "1D7C LATIN SMALL: LETTER IOTA WITH STROKE, LETTER P WITH STROKE, CAPITAL LETTER U WITH STROKE",
    "1D7F LATIN SMALL LETTER: UPSILON WITH STROKE, B WITH PALATAL HOOK, D WITH PALATAL HOOK",
    "1D82 LATIN SMALL LETTER: F WITH PALATAL HOOK, G WITH PALATAL HOOK, K WITH PALATAL HOOK",
    "1D85 LATIN SMALL LETTER: L WITH PALATAL HOOK, M WITH PALATAL HOOK, N WITH PALATAL HOOK",
    "1D88 LATIN SMALL LETTER: P WITH PALATAL HOOK, R WITH PALATAL HOOK, S WITH PALATAL HOOK",
    "1D8B LATIN SMALL LETTER: ESH WITH PALATAL HOOK, V WITH PALATAL HOOK, X WITH PALATAL HOOK",
    "1D8E LATIN SMALL LETTER: Z WITH PALATAL HOOK, A WITH RETROFLEX HOOK, ALPHA WITH RETROFLEX HOOK",
    "1D91 LATIN SMALL LETTER: D WITH HOOK AND TAIL, E WITH RETROFLEX HOOK, OPEN E WITH RETROFLEX HOOK",
    "1D94 LATIN SMALL LETTER: REVERSED OPEN E WITH RETROFLEX HOOK, SCHWA WITH RETROFLEX HOOK",
    "1D96 LATIN SMALL LETTER: I WITH RETROFLEX HOOK, OPEN O WITH RETROFLEX HOOK, ESH WITH RETROFLEX HOOK",
    "1D99 LATIN SMALL LETTER: U WITH RETROFLEX HOOK, EZH WITH RETROFLEX HOOK",
    "1D9B MODIFIER LETTER SMALL: TURNED ALPHA, C, C WITH CURL, ETH, REVERSED OPEN E, F, DOTLESS J WITH STROKE",
    "1DA2 MODIFIER LETTER SMALL: SCRIPT G, TURNED H, I WITH STROKE, IOTA, CAPITAL I, CAPITAL I WITH STROKE",
    "1DA8 MODIFIER LETTER SMALL: J WITH CROSSED-TAIL, L WITH RETROFLEX HOOK, L WITH PALATAL HOOK, CAPITAL L",
    "1DAC MODIFIER LETTER SMALL: M WITH HOOK, TURNED M WITH LONG LEG, N WITH LEFT HOOK, N WITH RETROFLEX HOOK",
    "1DB0 MODIFIER LETTER SMALL: CAPITAL N, BARRED O, PHI, S WITH HOOK, ESH, T WITH PALATAL HOOK, U BAR",
    "1DB7 MODIFIER LETTER SMALL: UPSILON, CAPITAL U, V WITH HOOK, TURNED V, Z, Z WITH RETROFLEX HOOK",
    "1DBD MODIFIER LETTER SMALL: Z WITH CURL, EZH, THETA",
    "1DC0 COMBINING: DOTTED GRAVE ACCENT, DOTTED ACUTE ACCENT, SNAKE BELOW, SUSPENSION MARK, MACRON-ACUTE",
    "1DC5 COMBINING: GRAVE-MACRON, MACRON-GRAVE, ACUTE-MACRON, GRAVE-ACUTE-GRAVE, ACUTE-GRAVE-ACUTE",
    "1DCA COMBINING: LATIN SMALL LETTER R BELOW, BREVE-MACRON, MACRON-BREVE, DOUBLE CIRCUMFLEX ABOVE",
    "1DCE COMBINING: OGONEK ABOVE, ZIGZAG BELOW, IS BELOW, UR ABOVE, US ABOVE",
    "1DD3 COMBINING LATIN SMALL LETTER: FLATTENED OPEN A ABOVE, AE, AO, AV, C CEDILLA, INSULAR D, ETH, G",
    "1DDB COMBINING LATIN: LETTER SMALL CAPITAL G, SMALL LETTER K, SMALL LETTER L, LETTER SMALL CAPITAL L",
    "1DDF COMBINING LATIN: LETTER SMALL CAPITAL M, SMALL LETTER N, LETTER SMALL CAPITAL N",
    "1DE2 COMBINING LATIN: LETTER SMALL CAPITAL R",
    "1DE3 COMBINING LATIN SMALL LETTER: R ROTUNDA, S, LONG S, Z, ALPHA, B, BETA, SCHWA, F",
    "1DEC COMBINING LATIN SMALL LETTER: L WITH DOUBLE MIDDLE TILDE, O WITH LIGHT CENTRALIZATION STROKE, P",
    "1DEF COMBINING LATIN SMALL LETTER: ESH, U WITH LIGHT CENTRALIZATION STROKE, W, A WITH DIAERESIS",
    "1DF3 COMBINING LATIN SMALL LETTER: O WITH DIAERESIS, U WITH DIAERESIS",
    "1DF5 COMBINING: UP TACK ABOVE, KAVYKA ABOVE RIGHT, KAVYKA ABOVE LEFT, DOT ABOVE LEFT",
    "1DF9 COMBINING: WIDE INVERTED BRIDGE BELOW, DOT BELOW LEFT, DELETION MARK, DOUBLE INVERTED BREVE BELOW",
    "1DFD COMBINING: ALMOST EQUAL TO BELOW, LEFT ARROWHEAD ABOVE, RIGHT ARROWHEAD AND DOWN ARROWHEAD BELOW",
    "1E00 LATIN: CAPITAL LETTER A WITH RING BELOW, SMALL LETTER A WITH RING BELOW",
    "1E02 LATIN: CAPITAL LETTER B WITH DOT ABOVE, SMALL LETTER B WITH DOT ABOVE",
    "1E04 LATIN: CAPITAL LETTER B WITH DOT BELOW, SMALL LETTER B WITH DOT BELOW",
    "1E06 LATIN: CAPITAL LETTER B WITH LINE BELOW, SMALL LETTER B WITH LINE BELOW",
    "1E08 LATIN: CAPITAL LETTER C WITH CEDILLA AND ACUTE, SMALL LETTER C WITH CEDILLA AND ACUTE",
    "1E0A LATIN: CAPITAL LETTER D WITH DOT ABOVE, SMALL LETTER D WITH DOT ABOVE",
    "1E0C LATIN: CAPITAL LETTER D WITH DOT BELOW, SMALL LETTER D WITH DOT BELOW",
    "1E0E LATIN: CAPITAL LETTER D WITH LINE BELOW, SMALL LETTER D WITH LINE BELOW",
    "1E10 LATIN: CAPITAL LETTER D WITH CEDILLA, SMALL LETTER D WITH CEDILLA",
    "1E12 LATIN: CAPITAL LETTER D WITH CIRCUMFLEX BELOW, SMALL LETTER D WITH CIRCUMFLEX BELOW",
    "1E14 LATIN: CAPITAL LETTER E WITH MACRON AND GRAVE, SMALL LETTER E WITH MACRON AND GRAVE",
    "1E16 LATIN: CAPITAL LETTER E WITH MACRON AND ACUTE, SMALL LETTER E WITH MACRON AND ACUTE",
    "1E18 LATIN: CAPITAL LETTER E WITH CIRCUMFLEX BELOW, SMALL LETTER E WITH CIRCUMFLEX BELOW",
    "1E1A LATIN: CAPITAL LETTER E WITH TILDE BELOW, SMALL LETTER E WITH TILDE BELOW",
    "1E1C LATIN: CAPITAL LETTER E WITH CEDILLA AND BREVE, SMALL LETTER E WITH CEDILLA AND BREVE",
    "1E1E LATIN: CAPITAL LETTER F WITH DOT ABOVE, SMALL LETTER F WITH DOT ABOVE, CAPITAL LETTER G WITH MACRON",
    "1E21 LATIN: SMALL LETTER G WITH MACRON, CAPITAL LETTER H WITH DOT ABOVE, SMALL LETTER H WITH DOT ABOVE",
    "1E24 LATIN: CAPITAL LETTER H WITH DOT BELOW, SMALL LETTER H WITH DOT BELOW",
    "1E26 LATIN: CAPITAL LETTER H WITH DIAERESIS, SMALL LETTER H WITH DIAERESIS",
    "1E28 LATIN: CAPITAL LETTER H WITH CEDILLA, SMALL LETTER H WITH CEDILLA",
    "1E2A LATIN: CAPITAL LETTER H WITH BREVE BELOW, SMALL LETTER H WITH BREVE BELOW",
    "1E2C LATIN: CAPITAL LETTER I WITH TILDE BELOW, SMALL LETTER I WITH TILDE BELOW",
    "1E2E LATIN: CAPITAL LETTER I WITH DIAERESIS AND ACUTE, SMALL LETTER I WITH DIAERESIS AND ACUTE",
    "1E30 LATIN: CAPITAL LETTER K WITH ACUTE, SMALL LETTER K WITH ACUTE, CAPITAL LETTER K WITH DOT BELOW",
    "1E33 LATIN: SMALL LETTER K WITH DOT BELOW, CAPITAL LETTER K WITH LINE BELOW",
    "1E35 LATIN: SMALL LETTER K WITH LINE BELOW, CAPITAL LETTER L WITH DOT BELOW",
    "1E37 LATIN: SMALL LETTER L WITH DOT BELOW, CAPITAL LETTER L WITH DOT BELOW AND MACRON",
    "1E39 LATIN: SMALL LETTER L WITH DOT BELOW AND MACRON, CAPITAL LETTER L WITH LINE BELOW",
    "1E3B LATIN: SMALL LETTER L WITH LINE BELOW, CAPITAL LETTER L WITH CIRCUMFLEX BELOW",
    "1E3D LATIN: SMALL LETTER L WITH CIRCUMFLEX BELOW, CAPITAL LETTER M WITH ACUTE, SMALL LETTER M WITH ACUTE",
    "1E40 LATIN: CAPITAL LETTER M WITH DOT ABOVE, SMALL LETTER M WITH DOT ABOVE",
    "1E42 LATIN: CAPITAL LETTER M WITH DOT BELOW, SMALL LETTER M WITH DOT BELOW",
    "1E44 LATIN: CAPITAL LETTER N WITH DOT ABOVE, SMALL LETTER N WITH DOT ABOVE",
    "1E46 LATIN: CAPITAL LETTER N WITH DOT BELOW, SMALL LETTER N WITH DOT BELOW",
    "1E48 LATIN: CAPITAL LETTER N WITH LINE BELOW, SMALL LETTER N WITH LINE BELOW",
    "1E4A LATIN: CAPITAL LETTER N WITH CIRCUMFLEX BELOW, SMALL LETTER N WITH CIRCUMFLEX BELOW",
    "1E4C LATIN: CAPITAL LETTER O WITH TILDE AND ACUTE, SMALL LETTER O WITH TILDE AND ACUTE",
    "1E4E LATIN: CAPITAL LETTER O WITH TILDE AND DIAERESIS, SMALL LETTER O WITH TILDE AND DIAERESIS",
    "1E50 LATIN: CAPITAL LETTER O WITH MACRON AND GRAVE, SMALL LETTER O WITH MACRON AND GRAVE",
    "1E52 LATIN: CAPITAL LETTER O WITH MACRON AND ACUTE, SMALL LETTER O WITH MACRON AND ACUTE",
    "1E54 LATIN: CAPITAL LETTER P WITH ACUTE, SMALL LETTER P WITH ACUTE, CAPITAL LETTER P WITH DOT ABOVE",
    "1E57 LATIN: SMALL LETTER P WITH DOT ABOVE, CAPITAL LETTER R WITH DOT ABOVE",
    "1E59 LATIN: SMALL LETTER R WITH DOT ABOVE, CAPITAL LETTER R WITH DOT BELOW",
    "1E5B LATIN: SMALL LETTER R WITH DOT BELOW, CAPITAL LETTER R WITH DOT BELOW AND MACRON",
    "1E5D LATIN: SMALL LETTER R WITH DOT BELOW AND MACRON, CAPITAL LETTER R WITH LINE BELOW",
    "1E5F LATIN: SMALL LETTER R WITH LINE BELOW, CAPITAL LETTER S WITH DOT ABOVE",
    "1E61 LATIN: SMALL LETTER S WITH DOT ABOVE, CAPITAL LETTER S WITH DOT BELOW",
    "1E63 LATIN: SMALL LETTER S WITH DOT BELOW, CAPITAL LETTER S WITH ACUTE AND DOT ABOVE",
    "1E65 LATIN: SMALL LETTER S WITH ACUTE AND DOT ABOVE, CAPITAL LETTER S WITH CARON AND DOT ABOVE",
    "1E67 LATIN: SMALL LETTER S WITH CARON AND DOT ABOVE, CAPITAL LETTER S WITH DOT BELOW AND DOT ABOVE",
    "1E69 LATIN: SMALL LETTER S WITH DOT BELOW AND DOT ABOVE, CAPITAL LETTER T WITH DOT ABOVE",
    "1E6B LATIN: SMALL LETTER T WITH DOT ABOVE, CAPITAL LETTER T WITH DOT BELOW",
    "1E6D LATIN: SMALL LETTER T WITH DOT BELOW, CAPITAL LETTER T WITH LINE BELOW",
    "1E6F LATIN: SMALL LETTER T WITH LINE BELOW, CAPITAL LETTER T WITH CIRCUMFLEX BELOW",
    "1E71 LATIN: SMALL LETTER T WITH CIRCUMFLEX BELOW, CAPITAL LETTER U WITH DIAERESIS BELOW",
    "1E73 LATIN: SMALL LETTER U WITH DIAERESIS BELOW, CAPITAL LETTER U WITH TILDE BELOW",
    "1E75 LATIN: SMALL LETTER U WITH TILDE BELOW, CAPITAL LETTER U WITH CIRCUMFLEX BELOW",
    "1E77 LATIN: SMALL LETTER U WITH CIRCUMFLEX BELOW, CAPITAL LETTER U WITH TILDE AND ACUTE",
    "1E79 LATIN: SMALL LETTER U WITH TILDE AND ACUTE, CAPITAL LETTER U WITH MACRON AND DIAERESIS",
    "1E7B LATIN: SMALL LETTER U WITH MACRON AND DIAERESIS, CAPITAL LETTER V WITH TILDE",
    "1E7D LATIN: SMALL LETTER V WITH TILDE, CAPITAL LETTER V WITH DOT BELOW, SMALL LETTER V WITH DOT BELOW",
    "1E80 LATIN: CAPITAL LETTER W WITH GRAVE, SMALL LETTER W WITH GRAVE, CAPITAL LETTER W WITH ACUTE",
    "1E83 LATIN: SMALL LETTER W WITH ACUTE, CAPITAL LETTER W WITH DIAERESIS, SMALL LETTER W WITH DIAERESIS",
    "1E86 LATIN: CAPITAL LETTER W WITH DOT ABOVE, SMALL LETTER W WITH DOT ABOVE",
    "1E88 LATIN: CAPITAL LETTER W WITH DOT BELOW, SMALL LETTER W WITH DOT BELOW",
    "1E8A LATIN: CAPITAL LETTER X WITH DOT ABOVE, SMALL LETTER X WITH DOT ABOVE",
    "1E8C LATIN: CAPITAL LETTER X WITH DIAERESIS, SMALL LETTER X WITH DIAERESIS",
    "1E8E LATIN: CAPITAL LETTER Y WITH DOT ABOVE, SMALL LETTER Y WITH DOT ABOVE",
    "1E90 LATIN: CAPITAL LETTER Z WITH CIRCUMFLEX, SMALL LETTER Z WITH CIRCUMFLEX",
    "1E92 LATIN: CAPITAL LETTER Z WITH DOT BELOW, SMALL LETTER Z WITH DOT BELOW",
    "1E94 LATIN: CAPITAL LETTER Z WITH LINE BELOW",
    "1E95 LATIN SMALL LETTER: Z WITH LINE BELOW, H WITH LINE BELOW, T WITH DIAERESIS, W WITH RING ABOVE",
    "1E99 LATIN SMALL LETTER: Y WITH RING ABOVE, A WITH RIGHT HALF RING, LONG S WITH DOT ABOVE",
    "1E9C LATIN SMALL LETTER: LONG S WITH DIAGONAL STROKE, LONG S WITH HIGH STROKE",
    "1E9E LATIN: CAPITAL LETTER SHARP S, SMALL LETTER DELTA, CAPITAL LETTER A WITH DOT BELOW",
    "1EA1 LATIN: SMALL LETTER A WITH DOT BELOW, CAPITAL LETTER A WITH HOOK ABOVE",
    "1EA3 LATIN: SMALL LETTER A WITH HOOK ABOVE, CAPITAL LETTER A WITH CIRCUMFLEX AND ACUTE",
    "1EA5 LATIN: SMALL LETTER A WITH CIRCUMFLEX AND ACUTE, CAPITAL LETTER A WITH CIRCUMFLEX AND GRAVE",
    "1EA7 LATIN: SMALL LETTER A WITH CIRCUMFLEX AND GRAVE, CAPITAL LETTER A WITH CIRCUMFLEX AND HOOK ABOVE",
    "1EA9 LATIN: SMALL LETTER A WITH CIRCUMFLEX AND HOOK ABOVE, CAPITAL LETTER A WITH CIRCUMFLEX AND TILDE",
    "1EAB LATIN: SMALL LETTER A WITH CIRCUMFLEX AND TILDE, CAPITAL LETTER A WITH CIRCUMFLEX AND DOT BELOW",
    "1EAD LATIN: SMALL LETTER A WITH CIRCUMFLEX AND DOT BELOW, CAPITAL LETTER A WITH BREVE AND ACUTE",
    "1EAF LATIN: SMALL LETTER A WITH BREVE AND ACUTE, CAPITAL LETTER A WITH BREVE AND GRAVE",
    "1EB1 LATIN: SMALL LETTER A WITH BREVE AND GRAVE, CAPITAL LETTER A WITH BREVE AND HOOK ABOVE",
    "1EB3 LATIN: SMALL LETTER A WITH BREVE AND HOOK ABOVE, CAPITAL LETTER A WITH BREVE AND TILDE",
    "1EB5 LATIN: SMALL LETTER A WITH BREVE AND TILDE, CAPITAL LETTER A WITH BREVE AND DOT BELOW",
    "1EB7 LATIN: SMALL LETTER A WITH BREVE AND DOT BELOW, CAPITAL LETTER E WITH DOT BELOW",
    "1EB9 LATIN: SMALL LETTER E WITH DOT BELOW, CAPITAL LETTER E WITH HOOK ABOVE",
    "1EBB LATIN: SMALL LETTER E WITH HOOK ABOVE, CAPITAL LETTER E WITH TILDE, SMALL LETTER E WITH TILDE",
    "1EBE LATIN: CAPITAL LETTER E WITH CIRCUMFLEX AND ACUTE, SMALL LETTER E WITH CIRCUMFLEX AND ACUTE",
    "1EC0 LATIN: CAPITAL LETTER E WITH CIRCUMFLEX AND GRAVE, SMALL LETTER E WITH CIRCUMFLEX AND GRAVE",
    "1EC2 LATIN: CAPITAL LETTER E WITH CIRCUMFLEX AND HOOK ABOVE",
    "1EC3 LATIN: SMALL LETTER E WITH CIRCUMFLEX AND HOOK ABOVE, CAPITAL LETTER E WITH CIRCUMFLEX AND TILDE",
    "1EC5 LATIN: SMALL LETTER E WITH CIRCUMFLEX AND TILDE, CAPITAL LETTER E WITH CIRCUMFLEX AND DOT BELOW",
    "1EC7 LATIN: SMALL LETTER E WITH CIRCUMFLEX AND DOT BELOW, CAPITAL LETTER I WITH HOOK ABOVE",
    "1EC9 LATIN: SMALL LETTER I WITH HOOK ABOVE, CAPITAL LETTER I WITH DOT BELOW",
    "1ECB LATIN: SMALL LETTER I WITH DOT BELOW, CAPITAL LETTER O WITH DOT BELOW",
    "1ECD LATIN: SMALL LETTER O WITH DOT BELOW, CAPITAL LETTER O WITH HOOK ABOVE",
    "1ECF LATIN: SMALL LETTER O WITH HOOK ABOVE, CAPITAL LETTER O WITH CIRCUMFLEX AND ACUTE",
    "1ED1 LATIN: SMALL LETTER O WITH CIRCUMFLEX AND ACUTE, CAPITAL LETTER O WITH CIRCUMFLEX AND GRAVE",
    "1ED3 LATIN: SMALL LETTER O WITH CIRCUMFLEX AND GRAVE, CAPITAL LETTER O WITH CIRCUMFLEX AND HOOK ABOVE",
    "1ED5 LATIN: SMALL LETTER O WITH CIRCUMFLEX AND HOOK ABOVE, CAPITAL LETTER O WITH CIRCUMFLEX AND TILDE",
    "1ED7 LATIN: SMALL LETTER O WITH CIRCUMFLEX AND TILDE, CAPITAL LETTER O WITH CIRCUMFLEX AND DOT BELOW",
    "1ED9 LATIN: SMALL LETTER O WITH CIRCUMFLEX AND DOT BELOW, CAPITAL LETTER O WITH HORN AND ACUTE",
    "1EDB LATIN: SMALL LETTER O WITH HORN AND ACUTE, CAPITAL LETTER O WITH HORN AND GRAVE",
    "1EDD LATIN: SMALL LETTER O WITH HORN AND GRAVE, CAPITAL LETTER O WITH HORN AND HOOK ABOVE",
    "1EDF LATIN: SMALL LETTER O WITH HORN AND HOOK ABOVE, CAPITAL LETTER O WITH HORN AND TILDE",
    "1EE1 LATIN: SMALL LETTER O WITH HORN AND TILDE, CAPITAL LETTER O WITH HORN AND DOT BELOW",
    "1EE3 LATIN: SMALL LETTER O WITH HORN AND DOT BELOW, CAPITAL LETTER U WITH DOT BELOW",
    "1EE5 LATIN: SMALL LETTER U WITH DOT BELOW, CAPITAL LETTER U WITH HOOK ABOVE",
    "1EE7 LATIN: SMALL LETTER U WITH HOOK ABOVE, CAPITAL LETTER U WITH HORN AND ACUTE",
    "1EE9 LATIN: SMALL LETTER U WITH HORN AND ACUTE, CAPITAL LETTER U WITH HORN AND GRAVE",
    "1EEB LATIN: SMALL LETTER U WITH HORN AND GRAVE, CAPITAL LETTER U WITH HORN AND HOOK ABOVE",
    "1EED LATIN: SMALL LETTER U WITH HORN AND HOOK ABOVE, CAPITAL LETTER U WITH HORN AND TILDE",
    "1EEF LATIN: SMALL LETTER U WITH HORN AND TILDE, CAPITAL LETTER U WITH HORN AND DOT BELOW",
    "1EF1 LATIN: SMALL LETTER U WITH HORN AND DOT BELOW, CAPITAL LETTER Y WITH GRAVE",
    "1EF3 LATIN: SMALL LETTER Y WITH GRAVE, CAPITAL LETTER Y WITH DOT BELOW, SMALL LETTER Y WITH DOT BELOW",
    "1EF6 LATIN: CAPITAL LETTER Y WITH HOOK ABOVE, SMALL LETTER Y WITH HOOK ABOVE",
    "1EF8 LATIN: CAPITAL LETTER Y WITH TILDE, SMALL LETTER Y WITH TILDE, CAPITAL LETTER MIDDLE-WELSH LL",
    "1EFB LATIN: SMALL LETTER MIDDLE-WELSH LL, CAPITAL LETTER MIDDLE-WELSH V, SMALL LETTER MIDDLE-WELSH V",
    "1EFE LATIN: CAPITAL LETTER Y WITH LOOP, SMALL LETTER Y WITH LOOP",
    "1F00 GREEK SMALL LETTER ALPHA WITH: PSILI, DASIA, PSILI AND VARIA, DASIA AND VARIA, PSILI AND OXIA",
    "1F05 GREEK SMALL LETTER ALPHA WITH: DASIA AND OXIA, PSILI AND PERISPOMENI, DASIA AND PERISPOMENI",
    "1F08 GREEK CAPITAL LETTER ALPHA WITH: PSILI, DASIA, PSILI AND VARIA, DASIA AND VARIA, PSILI AND OXIA",
    "1F0D GREEK CAPITAL LETTER ALPHA WITH: DASIA AND OXIA, PSILI AND PERISPOMENI, DASIA AND PERISPOMENI",
    "1F10 GREEK SMALL LETTER EPSILON WITH: PSILI, DASIA, PSILI AND VARIA, DASIA AND VARIA, PSILI AND OXIA",
    "1F15 GREEK SMALL LETTER EPSILON WITH: DASIA AND OXIA",
    "1F18 GREEK CAPITAL LETTER EPSILON WITH: PSILI, DASIA, PSILI AND VARIA, DASIA AND VARIA, PSILI AND OXIA",
    "1F1D GREEK CAPITAL LETTER EPSILON WITH: DASIA AND OXIA",
    "1F20 GREEK SMALL LETTER ETA WITH: PSILI, DASIA, PSILI AND VARIA, DASIA AND VARIA, PSILI AND OXIA",
    "1F25 GREEK SMALL LETTER ETA WITH: DASIA AND OXIA, PSILI AND PERISPOMENI, DASIA AND PERISPOMENI",
    "1F28 GREEK CAPITAL LETTER ETA WITH: PSILI, DASIA, PSILI AND VARIA, DASIA AND VARIA, PSILI AND OXIA",
    "1F2D GREEK CAPITAL LETTER ETA WITH: DASIA AND OXIA, PSILI AND PERISPOMENI, DASIA AND PERISPOMENI",
    "1F30 GREEK SMALL LETTER IOTA WITH: PSILI, DASIA, PSILI AND VARIA, DASIA AND VARIA, PSILI AND OXIA",
    "1F35 GREEK SMALL LETTER IOTA WITH: DASIA AND OXIA, PSILI AND PERISPOMENI, DASIA AND PERISPOMENI",
    "1F38 GREEK CAPITAL LETTER IOTA WITH: PSILI, DASIA, PSILI AND VARIA, DASIA AND VARIA, PSILI AND OXIA",
    "1F3D GREEK CAPITAL LETTER IOTA WITH: DASIA AND OXIA, PSILI AND PERISPOMENI, DASIA AND PERISPOMENI",
    "1F40 GREEK SMALL LETTER OMICRON WITH: PSILI, DASIA, PSILI AND VARIA, DASIA AND VARIA, PSILI AND OXIA",
    "1F45 GREEK SMALL LETTER OMICRON WITH: DASIA AND OXIA",
    "1F48 GREEK CAPITAL LETTER OMICRON WITH: PSILI, DASIA, PSILI AND VARIA, DASIA AND VARIA, PSILI AND OXIA",
    "1F4D GREEK CAPITAL LETTER OMICRON WITH: DASIA AND OXIA",
    "1F50 GREEK SMALL LETTER UPSILON WITH: PSILI, DASIA, PSILI AND VARIA, DASIA AND VARIA, PSILI AND OXIA",
    "1F55 GREEK SMALL LETTER UPSILON WITH: DASIA AND OXIA, PSILI AND PERISPOMENI, DASIA AND PERISPOMENI",
    "1F59 GREEK CAPITAL LETTER UPSILON WITH: DASIA; 1F5B GREEK CAPITAL LETTER UPSILON WITH DASIA AND: VARIA",
    "1F5D GREEK CAPITAL LETTER UPSILON WITH DASIA AND: OXIA",
    "1F5F GREEK CAPITAL LETTER UPSILON WITH DASIA AND: PERISPOMENI",
    "1F60 GREEK SMALL LETTER OMEGA WITH: PSILI, DASIA, PSILI AND VARIA, DASIA AND VARIA, PSILI AND OXIA",
    "1F65 GREEK SMALL LETTER OMEGA WITH: DASIA AND OXIA, PSILI AND PERISPOMENI, DASIA AND PERISPOMENI",
    "1F68 GREEK CAPITAL LETTER OMEGA WITH: PSILI, DASIA, PSILI AND VARIA, DASIA AND VARIA, PSILI AND OXIA",
    "1F6D GREEK CAPITAL LETTER OMEGA WITH: DASIA AND OXIA, PSILI AND PERISPOMENI, DASIA AND PERISPOMENI",
    "1F70 GREEK SMALL LETTER: ALPHA WITH VARIA, ALPHA WITH OXIA, EPSILON WITH VARIA, EPSILON WITH OXIA",
    "1F74 GREEK SMALL LETTER: ETA WITH VARIA, ETA WITH OXIA, IOTA WITH VARIA, IOTA WITH OXIA",
    "1F78 GREEK SMALL LETTER: OMICRON WITH VARIA, OMICRON WITH OXIA, UPSILON WITH VARIA, UPSILON WITH OXIA",
    "1F7C GREEK SMALL LETTER: OMEGA WITH VARIA, OMEGA WITH OXIA",
    "1F80 GREEK SMALL LETTER ALPHA WITH: PSILI AND YPOGEGRAMMENI, DASIA AND YPOGEGRAMMENI",
    "1F82 GREEK SMALL LETTER ALPHA WITH: PSILI AND VARIA AND YPOGEGRAMMENI, DASIA AND VARIA AND YPOGEGRAMMENI",
    "1F84 GREEK SMALL LETTER ALPHA WITH: PSILI AND OXIA AND YPOGEGRAMMENI, DASIA AND OXIA AND YPOGEGRAMMENI",
    "1F86 GREEK SMALL LETTER ALPHA WITH: PSILI AND PERISPOMENI AND YPOGEGRAMMENI",
    "1F87 GREEK SMALL LETTER ALPHA WITH: DASIA AND PERISPOMENI AND YPOGEGRAMMENI",
    "1F88 GREEK CAPITAL LETTER ALPHA WITH: PSILI AND PROSGEGRAMMENI, DASIA AND PROSGEGRAMMENI",
    "1F8A GREEK CAPITAL LETTER ALPHA WITH: PSILI AND VARIA AND PROSGEGRAMMENI",
    "1F8B GREEK CAPITAL LETTER ALPHA WITH: DASIA AND VARIA AND PROSGEGRAMMENI",
    "1F8C GREEK CAPITAL LETTER ALPHA WITH: PSILI AND OXIA AND PROSGEGRAMMENI",
    "1F8D GREEK CAPITAL LETTER ALPHA WITH: DASIA AND OXIA AND PROSGEGRAMMENI",
    "1F8E GREEK CAPITAL LETTER ALPHA WITH: PSILI AND PERISPOMENI AND PROSGEGRAMMENI",
    "1F8F GREEK CAPITAL LETTER ALPHA WITH: DASIA AND PERISPOMENI AND PROSGEGRAMMENI",
    "1F90 GREEK SMALL LETTER ETA WITH: PSILI AND YPOGEGRAMMENI, DASIA AND YPOGEGRAMMENI",
    "1F92 GREEK SMALL LETTER ETA WITH: PSILI AND VARIA AND YPOGEGRAMMENI, DASIA AND VARIA AND YPOGEGRAMMENI",
    "1F94 GREEK SMALL LETTER ETA WITH: PSILI AND OXIA AND YPOGEGRAMMENI, DASIA AND OXIA AND YPOGEGRAMMENI",
    "1F96 GREEK SMALL LETTER ETA WITH: PSILI AND PERISPOMENI AND YPOGEGRAMMENI",
    "1F97 GREEK SMALL LETTER ETA WITH: DASIA AND PERISPOMENI AND YPOGEGRAMMENI",
    "1F98 GREEK CAPITAL LETTER ETA WITH: PSILI AND PROSGEGRAMMENI, DASIA AND PROSGEGRAMMENI",
    "1F9A GREEK CAPITAL LETTER ETA WITH: PSILI AND VARIA AND PROSGEGRAMMENI",
    "1F9B GREEK CAPITAL LETTER ETA WITH: DASIA AND VARIA AND PROSGEGRAMMENI",
    "1F9C GREEK CAPITAL LETTER ETA WITH: PSILI AND OXIA AND PROSGEGRAMMENI, DASIA AND OXIA AND PROSGEGRAMMENI",
    "1F9E GREEK CAPITAL LETTER ETA WITH: PSILI AND PERISPOMENI AND PROSGEGRAMMENI",
    "1F9F GREEK CAPITAL LETTER ETA WITH: DASIA AND PERISPOMENI AND PROSGEGRAMMENI",
    "1FA0 GREEK SMALL LETTER OMEGA WITH: PSILI AND YPOGEGRAMMENI, DASIA AND YPOGEGRAMMENI",
    "1FA2 GREEK SMALL LETTER OMEGA WITH: PSILI AND VARIA AND YPOGEGRAMMENI, DASIA AND VARIA AND YPOGEGRAMMENI",
    "1FA4 GREEK SMALL LETTER OMEGA WITH: PSILI AND OXIA AND YPOGEGRAMMENI, DASIA AND OXIA AND YPOGEGRAMMENI",
    "1FA6 GREEK SMALL LETTER OMEGA WITH: PSILI AND PERISPOMENI AND YPOGEGRAMMENI",
    "1FA7 GREEK SMALL LETTER OMEGA WITH: DASIA AND PERISPOMENI AND YPOGEGRAMMENI",
    "1FA8 GREEK CAPITAL LETTER OMEGA WITH: PSILI AND PROSGEGRAMMENI, DASIA AND PROSGEGRAMMENI",
    "1FAA GREEK CAPITAL LETTER OMEGA WITH: PSILI AND VARIA AND PROSGEGRAMMENI",
    "1FAB GREEK CAPITAL LETTER OMEGA WITH: DASIA AND VARIA AND PROSGEGRAMMENI",
    "1FAC GREEK CAPITAL LETTER OMEGA WITH: PSILI AND OXIA AND PROSGEGRAMMENI",
    "1FAD GREEK CAPITAL LETTER OMEGA WITH: DASIA AND OXIA AND PROSGEGRAMMENI",
    "1FAE GREEK CAPITAL LETTER OMEGA WITH: PSILI AND PERISPOMENI AND PROSGEGRAMMENI",
    "1FAF GREEK CAPITAL LETTER OMEGA WITH: DASIA AND PERISPOMENI AND PROSGEGRAMMENI",
    "1FB0 GREEK SMALL LETTER ALPHA WITH: VRACHY, MACRON, VARIA AND YPOGEGRAMMENI, YPOGEGRAMMENI",
    "1FB4 GREEK SMALL LETTER ALPHA WITH: OXIA AND YPOGEGRAMMENI",
    "1FB6 GREEK SMALL LETTER ALPHA WITH: PERISPOMENI, PERISPOMENI AND YPOGEGRAMMENI",
    "1FB8 GREEK CAPITAL LETTER ALPHA WITH: VRACHY, MACRON, VARIA, OXIA, PROSGEGRAMMENI",
    "1FBD GREEK: KORONIS, PROSGEGRAMMENI, PSILI, PERISPOMENI, DIALYTIKA AND PERISPOMENI",
    "1FC2 GREEK SMALL LETTER ETA WITH: VARIA AND YPOGEGRAMMENI, YPOGEGRAMMENI, OXIA AND YPOGEGRAMMENI",
    "1FC6 GREEK SMALL LETTER ETA WITH: PERISPOMENI, PERISPOMENI AND YPOGEGRAMMENI",
    "1FC8 GREEK CAPITAL LETTER EPSILON WITH: VARIA, OXIA",
    "1FCA GREEK CAPITAL LETTER ETA WITH: VARIA, OXIA, PROSGEGRAMMENI",
    "1FCD GREEK PSILI AND: VARIA, OXIA, PERISPOMENI",
    "1FD0 GREEK SMALL LETTER IOTA WITH: VRACHY, MACRON, DIALYTIKA AND VARIA, DIALYTIKA AND OXIA",
    "1FD6 GREEK SMALL LETTER IOTA WITH: PERISPOMENI, DIALYTIKA AND PERISPOMENI",
    "1FD8 GREEK CAPITAL LETTER IOTA WITH: VRACHY, MACRON, VARIA, OXIA",
    "1FDD GREEK DASIA AND: VARIA, OXIA, PERISPOMENI",
    "1FE0 GREEK SMALL LETTER UPSILON WITH: VRACHY, MACRON, DIALYTIKA AND VARIA, DIALYTIKA AND OXIA",
    "1FE4 GREEK SMALL LETTER: RHO WITH PSILI, RHO WITH DASIA, UPSILON WITH PERISPOMENI",
    "1FE7 GREEK SMALL LETTER: UPSILON WITH DIALYTIKA AND PERISPOMENI",
    "1FE8 GREEK CAPITAL LETTER UPSILON WITH: VRACHY, MACRON, VARIA, OXIA",
    "1FEC GREEK: CAPITAL LETTER RHO WITH DASIA, DIALYTIKA AND VARIA, DIALYTIKA AND OXIA, VARIA",
    "1FF2 GREEK SMALL LETTER OMEGA WITH: VARIA AND YPOGEGRAMMENI, YPOGEGRAMMENI, OXIA AND YPOGEGRAMMENI",
    "1FF6 GREEK SMALL LETTER OMEGA WITH: PERISPOMENI, PERISPOMENI AND YPOGEGRAMMENI",
    "1FF8 GREEK CAPITAL LETTER OMICRON WITH: VARIA, OXIA",
    "1FFA GREEK CAPITAL LETTER OMEGA WITH: VARIA, OXIA, PROSGEGRAMMENI; 1FFD GREEK: OXIA, DASIA"]

end WireBridge.Text
